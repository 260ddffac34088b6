import UrlRouting.Method
import UrlRouting.Reading
import UrlRouting.Template.Compiled
import UrlRouting.Text.Utf8

/-!
Everything that can go wrong, as causes: each failure has a kind, the kinds form a hierarchy, and
one function words them.
-/

namespace UrlRouting

/-- Kinds of failures.  Those from `undecodable` on lie outside of the hierarchy of routing
failures. -/
inductive FailureKind where
  | routing
  | configuration
  | routeConfig
  | routeFileNotFound
  | duplicateRouteName
  | http
  | routeNotFound
  | methodNotAllowed
  | generation
  | missingParameters
  | requirementViolation
  | undecodable
  | badValue
  | badKey
  | badIndex
  | badAttribute
  | badType
  | overflow
  deriving DecidableEq, Repr

namespace FailureKind

def family : List FailureKind :=
  [routing, configuration, routeConfig, routeFileNotFound, duplicateRouteName, http,
    routeNotFound, methodNotAllowed, generation, missingParameters, requirementViolation]

def parent? : FailureKind → Option FailureKind
  | configuration | http | generation => some routing
  | routeConfig | duplicateRouteName => some configuration
  | routeFileNotFound => some routeConfig
  | routeNotFound | methodNotAllowed => some http
  | missingParameters | requirementViolation => some generation
  | _ => none

/-- A kind and the more general ones; no kind has more than three above it. -/
def withAncestors (kind : FailureKind) : List FailureKind :=
  let up := fun kinds : List FailureKind => kinds.filterMap parent?
  let first := up [kind]
  let second := up first
  [kind] ++ first ++ second ++ up second

def isA (kind general : FailureKind) : Bool := kind.withAncestors.contains general

def name : FailureKind → String
  | routing => "RoutingError"
  | configuration => "ConfigurationError"
  | routeConfig => "RouteConfigError"
  | routeFileNotFound => "RouteFileNotFound"
  | duplicateRouteName => "DuplicateRouteName"
  | http => "HTTPError"
  | routeNotFound => "RouteNotFound"
  | methodNotAllowed => "MethodNotAllowed"
  | generation => "GenerationError"
  | missingParameters => "MissingMandatoryParameters"
  | requirementViolation => "ParameterRequirementViolation"
  | undecodable => "UnicodeDecodeError"
  | badValue => "ValueError"
  | badKey => "KeyError"
  | badIndex => "IndexError"
  | badAttribute => "AttributeError"
  | badType => "TypeError"
  | overflow => "OverflowError"

end FailureKind

/-- What is told of an integer that has too many digits for a text. -/
def digitLimitText : String :=
  "Exceeds the limit (4300 digits) for integer string conversion; " ++
    "use sys.set_int_max_str_digits() to increase the limit"

/-- What is wrong with a declaration.  Keys that are not known are told by their texts, which one
of them may not have. -/
inductive DeclarationFault where
  | notMapping (name kind : String)
  | missingPath (name : String)
  | unknownKeys (name : String) (keys : List String)
  | keyWithoutText
  | pathNotText (name kind : String)
  | defaultsNotMapping (name : String)
  | requirementsNotTexts (name : String)
  | methodsNotNames (name : String)
  | noMapping (kind : String)
  deriving DecidableEq, Repr

def DeclarationFault.message : DeclarationFault → String
  | notMapping name kind => "Route " ++ Text.quoted name ++ s!" must be a mapping, got {kind}."
  | missingPath name => "Route " ++ Text.quoted name ++ " must have a 'path' key."
  | unknownKeys name keys =>
      "Route " ++ Text.quoted name ++ " has unknown keys: " ++ ", ".intercalate keys ++
        ". Allowed keys: defaults, methods, path, requirements."
  | keyWithoutText => digitLimitText
  | pathNotText name kind =>
      "Route " ++ Text.quoted name ++ s!": 'path' must be a string, got {kind}."
  | defaultsNotMapping name => "Route " ++ Text.quoted name ++ ": 'defaults' must be a mapping."
  | requirementsNotTexts name =>
      "Route " ++ Text.quoted name ++
        ": 'requirements' must map variable names to regex strings."
  | methodsNotNames name =>
      "Route " ++ Text.quoted name ++ ": 'methods' must be a list of HTTP method names."
  | noMapping kind => s!"Route configuration must be a mapping, got {kind}."

/-- Why a file holds no routes.  What is wrong with the text of a file is told in detail for some
formats only; a module may not be executed, may fail, and may leave no routes behind. -/
inductive FileFault where
  | unsupported (file : String)
  | notImported (file : String)
  | moduleFailed (file detail : String)
  | noRoutes (file : String)
  | unreadable (file : String) (detail : Option String)
  | noMapping (file kind : String)
  deriving DecidableEq, Repr

def FileFault.message : FileFault → String
  | unsupported file =>
      "Unsupported routes file " ++ Text.quoted file ++
        ": expected a .py, .json, .toml, .yaml or .yml file."
  | notImported file => "Cannot import routes file " ++ Text.quoted file ++ "."
  | moduleFailed file detail =>
      "Failed to load routes module " ++ Text.quoted file ++ ": " ++ detail
  | noRoutes file =>
      "Routes file " ++ Text.quoted file ++ " must define a module-level 'routes' mapping."
  | unreadable file detail =>
      "Failed to parse routes file " ++ Text.quoted file ++ (detail.map (": " ++ ·)).getD ""
  | noMapping file kind =>
      "Routes file " ++ Text.quoted file ++ s!" must return a mapping, got {kind}."

def ScalarFault.kind : ScalarFault → FailureKind
  | notTruthValue _ => .badKey
  | notTimestamp => .badAttribute
  | emptyNumber => .badIndex
  | codeTooLarge code => if code < 0x80000000 then .badValue else .overflow
  | _ => .badValue

inductive KindFault where
  | notText (kind : String)
  | noKey (kind : String)
  | noName (kind : String)
  deriving DecidableEq, Repr

def KindFault.message : KindFault → String
  | notText kind => s!"expected string or bytes-like object, got '{kind}'"
  | noKey kind => s!"unhashable type: '{kind}'"
  | noName kind => s!"keys must be str, int, float, bool or None, not {kind}"

/-- A failure of any operation. -/
inductive Failure where
  | compile (fault : CompileFault)
  | missingBaseUrl
  | declaration (fault : DeclarationFault)
  | file (fault : FileFault)
  | fileNotFound (path : String)
  | duplicateName (name detail : String)
  | http (status : Int) (detail : String)
  | routeNotFound (detail : String) (path name : Option String)
  | methodNotAllowed (allowed : MethodSet) (detail : String)
  | missingParameters (route : String) (missing : List String)
  | requirementViolated (route parameter requirement value : String)
  | undecodable (fault : Text.Utf8Fault)
  | scalar (fault : ScalarFault)
  | tooManyDigits
  | methods (fault : MethodsFault)
  | wrongKind (fault : KindFault)
  | notExported (name : String)
  | unexplained (kind : FailureKind)
  deriving DecidableEq, Repr

namespace Failure

def nameTaken (name : String) : Failure := .duplicateName name ""

def mergedNameTaken (name : String) : Failure :=
  .duplicateName name
    ("Route " ++ Text.quoted name ++
      " already exists. Pass override_existing=True to replace it.")

def unknownName (name : String) : Failure :=
  .routeNotFound ("Route " ++ Text.quoted name ++ " does not exist.") none (some name)

def unmatchedPath (path : String) : Failure :=
  .routeNotFound ("No route found for " ++ Text.quoted path) (some path) none

def otherMethods (allowed : MethodSet) : Failure := .methodNotAllowed allowed ""

/-- The kind of a fault in an expression: of its size, of its flags as a whole, or of its form. -/
def kindOfRegexFault : RegexFault → FailureKind
  | .repetitionTooLarge | .codeTooLarge => .overflow
  | .contraryFlags => .badValue
  | _ => .configuration

/-- The fault in an expression that is the cause of a fault of a template, if there is one. -/
def regexFault? : CompileFault → Option RegexFault
  | .requirement _ _ error | .assembled _ _ error => some error.fault
  | .malformed _ => none

def kind : Failure → FailureKind
  | compile fault => ((regexFault? fault).map kindOfRegexFault).getD .configuration
  | missingBaseUrl => .configuration
  | declaration .keyWithoutText | tooManyDigits => .badValue
  | declaration _ | file _ => .routeConfig
  | fileNotFound _ => .routeFileNotFound
  | duplicateName .. => .duplicateRouteName
  | http .. => .http
  | routeNotFound .. => .routeNotFound
  | methodNotAllowed .. => .methodNotAllowed
  | missingParameters .. => .missingParameters
  | requirementViolated .. => .requirementViolation
  | undecodable _ => .undecodable
  | scalar fault => fault.kind
  | methods (.notIterable _) | wrongKind _ => .badType
  | methods (.notText _) => .badAttribute
  | notExported _ => .badAttribute
  | unexplained kind => kind

def status? : Failure → Option Int
  | http status _ => some status
  | routeNotFound .. => some 404
  | methodNotAllowed .. => some 405
  | _ => none

def detail : Failure → String
  | http _ detail => detail
  | routeNotFound detail _ _ => detail
  | methodNotAllowed allowed detail =>
      if detail.isEmpty then "Method not allowed. Allowed methods: " ++ allowed.joined else detail
  | _ => ""

def statusText (status : Int) (detail : String) : String :=
  if detail.isEmpty then toString status else s!"{status}: {detail}"

def message (failure : Failure) : String :=
  match failure with
  | compile fault =>
      match regexFault? fault with
      | some cause => if kindOfRegexFault cause = .configuration then fault.message else cause.text
      | none => fault.message
  | missingBaseUrl => "Absolute URL generation requires RouterConfig.base_url."
  | declaration fault => fault.message
  | file fault => fault.message
  | fileNotFound path => "Routes file " ++ Text.quoted path ++ " does not exist."
  | duplicateName name detail =>
      if detail.isEmpty then
        "Route " ++ Text.quoted name ++ " already exists in the collection."
      else detail
  | http status detail => statusText status detail
  | routeNotFound .. => statusText 404 failure.detail
  | methodNotAllowed .. => statusText 405 failure.detail
  | missingParameters route missing =>
      "Route " ++ Text.quoted route ++ " requires parameters: " ++ ", ".intercalate missing
  | requirementViolated route parameter requirement value =>
      "Parameter " ++ Text.quoted parameter ++ " for route " ++ Text.quoted route ++
        " must match " ++ Text.quoted requirement ++ ", " ++ Text.quoted value ++ " given."
  | undecodable fault => fault.message
  | scalar fault => fault.message
  | tooManyDigits => digitLimitText
  | methods fault => fault.message
  | wrongKind fault => fault.message
  | notExported name => "module 'waypoint' has no attribute " ++ Text.quoted name
  | unexplained _ => ""

/-- A failure in a listing: by its parts if it has a status or concerns a link, else by its
message. -/
def shown (failure : Failure) : String :=
  let inside := match failure with
    | missingParameters route missing =>
        "route=" ++ Text.quoted route ++ ", missing=" ++
          (Value.tuple (missing.map Value.text)).shown
    | requirementViolated route parameter requirement value =>
        "route=" ++ Text.quoted route ++ ", parameter=" ++ Text.quoted parameter ++
          ", requirement=" ++ Text.quoted requirement ++ ", value=" ++ Text.quoted value
    | unexplained _ => ""
    | other =>
        match other.status? with
        | some status => s!"status={status}, detail=" ++ Text.quoted other.detail
        | none => Text.quoted other.message
  s!"{failure.kind.name}({inside})"

end Failure

end UrlRouting
