import UrlRouting.CommandLine.Listing
import UrlRouting.CommandLine.Request
import UrlRouting.Generation
import UrlRouting.Json.Writer
import UrlRouting.Matching
import UrlRouting.RouteFile

/-!
What the program does with a request, as a value: an exit code and the texts that it writes.
-/

namespace UrlRouting.CommandLine

/-- An exit code, and what goes to the output and to the stream for errors. -/
structure Outcome where
  exitCode : Nat
  output : String
  errors : String
  deriving DecidableEq, Repr

namespace Outcome

def printed (lines : List String) : Outcome := ⟨0, String.join (lines.map (· ++ "\n")), ""⟩

def failed (exitCode : Nat) (message : String) : Outcome :=
  ⟨exitCode, "", "Error: " ++ message ++ "\n"⟩

/-- A failure of one of some kinds is told to the user; any other is passed on. -/
def ofFailure (kinds : List FailureKind) (failure : Failure) : Except Failure Outcome :=
  if kinds.any failure.kind.isA then .ok (failed 1 failure.message) else .error failure

def withTable (file : RouteFile) (executed : ModuleOutcome)
    (next : RouteTable Route → Except Failure Outcome) : Except Failure Outcome :=
  match (file.table executed).run.2 with
  | .error failure => ofFailure [.configuration] failure
  | .ok table => next table

def ofRoutes (file : RouteFile) (executed : ModuleOutcome) : Except Failure Outcome :=
  withTable file executed fun table =>
    .ok (printed (if table.entries.isEmpty then ["No routes registered."]
      else listing table.entries))

def ofParameters (parameters : Attributes) : Except Failure Outcome :=
  match Json.obstacle? (.map parameters) with
  | some (.namelessKey kind) => .error (.wrongKind (.noName kind))
  | some .tooManyDigits => .error .tooManyDigits
  | none => .ok (printed [String.ofList (Json.write 0 (.map parameters))])

def ofResolution (file : RouteFile) (executed : ModuleOutcome) (path method : String) :
    Except Failure Outcome :=
  withTable file executed fun table =>
    match (table.resolveParameters path method).run.2 with
    | .error failure => ofFailure [.http] failure
    | .ok parameters => ofParameters parameters

/-- A name and a value around the first sign of equality; the name must not be empty. -/
def parameter? (item : String) : Option (String × String) :=
  match Word.splitAtEquals item.toList with
  | ([], _) | (_, none) => none
  | (name, some value) => some (String.ofList name, String.ofList value)

def readParameters : List String → Except String (List (String × String))
  | [] => .ok []
  | item :: rest =>
      match parameter? item with
      | none => .error item
      | some parameter => (readParameters rest).map (parameter :: ·)

def textParameters (parameters : List (String × String)) : Parameters :=
  Entries.ofPairs (parameters.map fun (name, value) => (name, Value.text value))

def refusedItem (item : String) : Outcome :=
  failed 2 ("--param expects KEY=VALUE, got " ++ Text.quoted item)

/-- Prints the link to a route in a file, under the base address if that is not empty.  The
parameters are looked at before the file. -/
def ofLink (file : RouteFile) (executed : ModuleOutcome) (name : String) (items : List String)
    (baseUrl : String) : Except Failure Outcome :=
  match readParameters items with
  | .error item => .ok (refusedItem item)
  | .ok parameters =>
      withTable file executed fun table =>
        let config := { Config.standard with baseUrl }
        match table.link config name (textParameters parameters) (!baseUrl.isEmpty) with
        | .error failure => ofFailure [.http, .generation] failure
        | .ok url => .ok (printed [url])

/-- Without a path, no route is found if there are no routes, and the first one cannot be tried if
there are. -/
def ofNoPath (file : RouteFile) (executed : ModuleOutcome) : Except Failure Outcome :=
  withTable file executed fun table =>
    if table.entries.isEmpty then
      ofFailure [.http] (.routeNotFound "No route found for []" none none)
    else .error (.wrongKind (.notText "list"))

def ofNoName (file : RouteFile) (executed : ModuleOutcome) (items : List String) :
    Except Failure Outcome :=
  match readParameters items with
  | .error item => .ok (refusedItem item)
  | .ok _ => withTable file executed fun _ => .error (.wrongKind (.noKey "list"))

/-- What comes of a request about a file with some content; `executed` is what comes of the file if
it is a module. -/
def ofRequest (content : Option (List UInt8)) (request : Request)
    (executed : ModuleOutcome := .notImported) : Except Failure Outcome :=
  match request with
  | .routes path => ofRoutes ⟨path, content⟩ executed
  | .resolve path (some target) method => ofResolution ⟨path, content⟩ executed target method
  | .resolve path none _ => ofNoPath ⟨path, content⟩ executed
  | .link path (some name) items baseUrl => ofLink ⟨path, content⟩ executed name items baseUrl
  | .link path none items _ => ofNoName ⟨path, content⟩ executed items

end Outcome

def usage : Option Command → String
  | none => "usage: waypoint [-h] \x7broutes,match,generate\x7d ..."
  | some .routes => "usage: waypoint routes [-h] file"
  | some .resolve => "usage: waypoint match [-h] [--method METHOD] file path"
  | some .link =>
      "usage: waypoint generate [-h] [--param KEY=VALUE] [--base-url BASE_URL] file name"

def purpose : Option Command → List String
  | none => [
      "waypoint — inspect and exercise declarative route files.",
      "",
      "  routes      list routes in registration order",
      "  match       match a path against a routes file",
      "  generate    generate a URL for a route name"]
  | some .routes => ["List routes in registration order."]
  | some .resolve => [
      "Match a path against a routes file.",
      "",
      "  --method METHOD      HTTP method (default: GET)"]
  | some .link => [
      "Generate a URL for a route name.",
      "",
      "  --param KEY=VALUE    route or query parameter (repeatable)",
      "  --base-url BASE_URL  generate an absolute URL under this scheme and host"]

/-- What the program does with some words when files have some content, and when executing those
that are modules has some outcome.  Help that was not asked for goes to the stream for errors. -/
def run (contentOf : String → Option (List UInt8)) (texts : List String)
    (executing : String → ModuleOutcome := fun _ => .notImported) : Except Failure Outcome :=
  match Reading.ofTexts texts with
  | .request request =>
      Outcome.ofRequest (contentOf request.file) request (executing request.file)
  | .help command? => .ok (.printed (usage command? :: "" :: purpose command?))
  | .misuse command? =>
      .ok ⟨2, "", usage command? ++ "\nwaypoint: error: the arguments do not fit\n"⟩

end UrlRouting.CommandLine
