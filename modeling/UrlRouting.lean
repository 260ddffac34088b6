import UrlRouting.Catalogue
import UrlRouting.Main
import UrlRouting.Store
import UrlRouting.Proofs.Regex.Language
import UrlRouting.Proofs.Regex.Order
import UrlRouting.Proofs.Regex.Reading
import UrlRouting.Proofs.Regex.ReadingParts
import UrlRouting.Proofs.Regex.Mirror
import UrlRouting.Proofs.Regex.Nesting
import UrlRouting.Proofs.Regex.Source
import UrlRouting.Proofs.Template.Segments
import UrlRouting.Proofs.Template.Assembly
import UrlRouting.Proofs.Template.Requirements
import UrlRouting.Proofs.Template.Tail
import UrlRouting.Proofs.Template.SlotWays
import UrlRouting.Proofs.Template.Forms
import UrlRouting.Proofs.Routing.Attributes
import UrlRouting.Proofs.Routing.Generation
import UrlRouting.Proofs.Template.PathLanguage
import UrlRouting.Proofs.Routing.Acceptance
import UrlRouting.Proofs.Template.Decomposition
import UrlRouting.Proofs.Template.Endings
import UrlRouting.Proofs.Routing.RoundTrip
import UrlRouting.Proofs.Text.UpperCase
import UrlRouting.Proofs.Routing.Resolution
import UrlRouting.Proofs.Template.Splitting
import UrlRouting.Proofs.Regex.Locality
import UrlRouting.Proofs.Template.Embedding
import UrlRouting.Proofs.Routing.Feedback
import UrlRouting.Proofs.Regex.Detachment
import UrlRouting.Proofs.Template.Placement
import UrlRouting.Proofs.Template.Extension
import UrlRouting.Proofs.Table.Listing
import UrlRouting.Proofs.Store.Session
import UrlRouting.Proofs.Store.Calls
import UrlRouting.Proofs.Store.Changes
import UrlRouting.Proofs.Store.Listings
import UrlRouting.Proofs.Store.Sweeps
import UrlRouting.Proofs.Store.Defaults
import UrlRouting.Proofs.Template.Omission
import UrlRouting.Proofs.Routing.Binding
import UrlRouting.Proofs.Store.Routers
import UrlRouting.Proofs.Table.Declaration
import UrlRouting.Proofs.Store.Copies
import UrlRouting.Proofs.Text.Utf8
import UrlRouting.Proofs.File.Scalars
import UrlRouting.Proofs.File.Failures
import UrlRouting.Proofs.Routing.Demands
import UrlRouting.Proofs.Routing.Parameters
import UrlRouting.Proofs.Store.Prefixes
import UrlRouting.Proofs.Regex.Attachment
import UrlRouting.Proofs.Template.Validity
import UrlRouting.Proofs.Regex.Front
import UrlRouting.Proofs.Template.Fronts
import UrlRouting.Proofs.Store.Transport
import UrlRouting.Proofs.Table.Union
import UrlRouting.Proofs.Store.Merging
import UrlRouting.Proofs.Routing.Elision
import UrlRouting.Proofs.Routing.Separation
import UrlRouting.Proofs.Routing.QueryText
import UrlRouting.Proofs.Routing.Outcome
import UrlRouting.Proofs.Routing.Batch
import UrlRouting.Proofs.Table.Schema
import UrlRouting.Proofs.Table.Configuration
import UrlRouting.Proofs.Store.Methods
import UrlRouting.Proofs.Routing.Priority
import UrlRouting.Proofs.Store.Growth
import UrlRouting.Proofs.Value.Keys
import UrlRouting.Proofs.Value.Maps
import UrlRouting.Proofs.Store.Admission
import UrlRouting.Proofs.Store.Gaps
import UrlRouting.Proofs.Template.Tokens
import UrlRouting.Proofs.Template.Parsing
import UrlRouting.Proofs.Routing.QueryMark
import UrlRouting.Proofs.CommandLine.Items
import UrlRouting.Proofs.Store.Loading
import UrlRouting.Proofs.CommandLine.Linking
import UrlRouting.Proofs.Json.Texts
import UrlRouting.Proofs.Json.RoundTrip
import UrlRouting.Proofs.Json.Output
import UrlRouting.Proofs.Json.Values
import UrlRouting.Proofs.CommandLine.Resolving
import UrlRouting.Proofs.Regex.Independence
import UrlRouting.Proofs.Regex.Enclosure
import UrlRouting.Proofs.Template.Portability
