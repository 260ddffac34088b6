import UrlRouting.Config
import UrlRouting.Query
import UrlRouting.RouteTable

/-!
From the name of a route and parameters to a path: variables are filled in, variables at the end
that are not given are left out, and other parameters become the query string.
-/

namespace UrlRouting

abbrev Parameters := Entries String Value

/-- The texts that fill the variables, by name. -/
abbrev Filling := List (String × String)

namespace Generation

/-- A value unless it is the null value. -/
def present? : Option Value → Option Value
  | some .null => none
  | value? => value?

/-- The value of a variable: the parameter, or else the default; the null value counts as none. -/
def valueOf? (defaults : Attributes) (parameters : Parameters) (name : String) : Option Value :=
  match present? (parameters.get? name) with
  | some value => some value
  | none => present? (defaults.named? name)

/-- Whether every value of a variable can be turned into its text. -/
def haveTexts (defaults : Attributes) (parameters : Parameters) (names : List String) : Bool :=
  names.all fun name => (valueOf? defaults parameters name).all Value.hasText

def missingVariables (defaults : Attributes) (parameters : Parameters)
    (names : List String) : List String :=
  names.filter fun name => (valueOf? defaults parameters name).isNone

def filling (defaults : Attributes) (parameters : Parameters) (names : List String) :
    Filling :=
  names.filterMap fun name =>
    (valueOf? defaults parameters name).map fun value => (name, value.toText)

/-- The first variable whose text its constraint does not accept. -/
def violation? (compiled : CompiledTemplate) (filling : Filling) : Option (String × String) :=
  filling.find? fun (name, text) =>
    match compiled.constraints.lookup name with
    | some expression => !expression.accepts text
    | none => false

/-- Leaves out variables that are not supplied, from the last one backwards, each with the literal
before it.  The segments come last first. -/
def dropUnsupplied (supplied : String → Bool) : List Segment → List Segment
  | [] => []
  | .literal _ :: rest => dropUnsupplied supplied rest
  | .var name converter :: rest =>
      if supplied name then .var name converter :: rest
      else
        match rest with
        | .literal _ :: rest => dropUnsupplied supplied rest
        | rest => dropUnsupplied supplied rest

def segmentText (filling : Filling) : Segment → String
  | .literal text => text
  | .var name _ => (filling.lookup name).getD ""

/-- The path with the variables filled in, without those at the end that may be left out and are
not supplied. -/
def substitute (compiled : CompiledTemplate) (filling : Filling) (supplied : String → Bool) :
    String :=
  let fixed := compiled.segments.take compiled.optionalFrom
  let optional := compiled.segments.drop compiled.optionalFrom
  let kept := (dropUnsupplied supplied optional.reverse).reverse
  let path := String.join ((fixed ++ kept).map (segmentText filling))
  let path :=
    if kept.isEmpty && compiled.leadSeparator.isSome then
      String.ofList path.toList.dropLast
    else path
  if path.isEmpty then "/" else path

/-- A path without the slash at its end, unless the slash is all there is. -/
def stripSlash (path : String) : String :=
  if path != "/" && path.toList.getLast? == some '/' then String.ofList path.toList.dropLast
  else path

def stripSlashes (text : String) : String :=
  String.ofList (text.toList.reverse.dropWhile (· == '/')).reverse

/-- The parameters that go into the query: those that are no variables, are not internal and have
a value. -/
def extras (internalPrefix : String) (names : List String) (parameters : Parameters) :
    Parameters :=
  parameters.filter fun (name, value) =>
    !names.contains name && !internalPrefix.toList.isPrefixOf name.toList &&
      (present? (some value)).isSome

/-- The path and the query of a link.  The values are turned into texts before any is missed, those
of the query after the constraints. -/
def relative (config : Config) (name : String) (route : Route) (parameters : Parameters) :
    Except Failure String :=
  let compiled := route.compiled
  let names := compiled.variableNames
  let missing := missingVariables route.defaults parameters names
  if !haveTexts route.defaults parameters names then .error .tooManyDigits
  else if !missing.isEmpty then .error (.missingParameters name missing)
  else
    let filling := filling route.defaults parameters names
    match violation? compiled filling with
    | some (variableName, text) =>
        let requirement := (compiled.requirements.lookup variableName).getD ""
        .error (.requirementViolated name variableName requirement text)
    | none =>
        let supplied := fun variableName =>
          (present? (parameters.get? variableName)).isSome
        let path := stripSlash (substitute compiled filling supplied)
        let extra := extras config.internalPrefix names parameters
        if !Query.haveTexts extra then .error .tooManyDigits
        else .ok (if extra.isEmpty then path else path ++ "?" ++ Query.encode extra)

def absolute (config : Config) (path : String) : Except Failure String :=
  if config.baseUrl.isEmpty then .error .missingBaseUrl
  else .ok (stripSlashes config.baseUrl ++ path)

end Generation

namespace RouteTable

def link (table : RouteTable Route) (config : Config) (name : String) (parameters : Parameters)
    (absolute : Bool) : Except Failure String := do
  let route ← table.get name
  let path ← Generation.relative config name route parameters
  if absolute then Generation.absolute config path else return path

/-- Whether a failure leaves the other links of a batch alone: an unknown route, or parameters
that do not fit. -/
def isSkippable (failure : Failure) : Bool :=
  failure.kind.isA .routeNotFound || failure.kind.isA .generation

/-- Links to several routes; a strict batch fails with its first failing link, others leave it
out. -/
def links (table : RouteTable Route) (config : Config) (strict : Option Bool) :
    List (String × Parameters) → Reported (List (String × String))
  | [] => return []
  | (name, parameters) :: rest => do
      match table.link config name parameters false with
      | .ok url => return (name, url) :: (← table.links config strict rest)
      | .error failure =>
          if isSkippable failure && !(strict.getD config.strict) then
            Reported.report (.linkSkipped name failure)
            table.links config strict rest
          else throw failure

/-- The link to a route with path parameters and query parameters given apart; the latter win. -/
def linkWithQuery (table : RouteTable Route) (config : Config) (name : String)
    (parameters query : Parameters) : Except Failure String :=
  table.link config name (parameters.merge query) false

end RouteTable

end UrlRouting
