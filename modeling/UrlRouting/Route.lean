import UrlRouting.Failure

/-!
Routes: a template with defaults, requirements and methods, compiled whenever one of them changes.
A route and its compiled template cannot disagree, since their agreement is part of the route; so is
that its methods are in upper case.
-/

namespace UrlRouting

/-- Why a route does not take a request. -/
inductive Mismatch where
  | path
  | method
  deriving DecidableEq, Repr

structure Route where
  path : String
  defaults : Attributes
  requirements : Requirements
  methods : MethodSet
  compiled : CompiledTemplate
  compile_eq : CompiledTemplate.compile path defaults requirements = .ok compiled
  isNormal : methods.IsNormal

namespace Route

def nameKey : String := "_route"

def make (path : String) (defaults : Attributes) (requirements : Requirements)
    (methods : MethodSet) (isNormal : methods.IsNormal) : Except Failure Route :=
  match equation : CompiledTemplate.compile path defaults requirements with
  | .ok compiled => .ok ⟨path, defaults, requirements, methods, compiled, equation, isNormal⟩
  | .error fault => .error (.compile fault)

def setPath (route : Route) (path : String) : Except Failure Route :=
  make path route.defaults route.requirements route.methods route.isNormal

def setDefaults (route : Route) (defaults : Attributes) : Except Failure Route :=
  make route.path defaults route.requirements route.methods route.isNormal

def setDefault (route : Route) (name : String) (value : Value) : Except Failure Route :=
  route.setDefaults (route.defaults.putName name value)

def setRequirements (route : Route) (requirements : Requirements) : Except Failure Route :=
  make route.path route.defaults requirements route.methods route.isNormal

def addRequirement (route : Route) (name source : String) : Except Failure Route :=
  route.setRequirements (route.requirements.put (.text name) source)

def setMethods (route : Route) (methods : MethodSet) (isNormal : methods.IsNormal) : Route :=
  { route with methods := methods, isNormal := isNormal }

def variableNames (route : Route) : List String := route.compiled.variableNames

/-- Whether a route takes a method; one without methods takes all. -/
def supportsMethod (route : Route) (method : String) : Bool :=
  route.methods.isEmpty || route.methods.contains (Text.upper method)

/-- The defaults with captured texts over them, and the name of the route if it is told. -/
def parameters (defaults : Attributes) (captured : List (String × Option String))
    (routeName : Option String) : Attributes :=
  let withCaptured := captured.foldl (fun (all : Attributes) (name, text?) =>
    match text? with
    | some text => all.putName name (.text text)
    | none => all) defaults
  match routeName with
  | some name => withCaptured.putName nameKey (.text name)
  | none => withCaptured

/-- The parameters of a request that the route takes.  The path is compared as it is, the method
in upper case. -/
def takes (route : Route) (path method : String) (routeName : Option String) :
    Except Mismatch Attributes :=
  match route.compiled.expression.fullMatch? path with
  | none => .error .path
  | some captured =>
      if route.supportsMethod method then .ok (parameters route.defaults captured routeName)
      else .error .method

def shown (route : Route) : String :=
  "Route(" ++ Text.quoted route.path ++ s!", methods=[{route.methods.shown}])"

def toValue (route : Route) : Value :=
  .map [
    (.text "path", .text route.path),
    (.text "defaults", .map route.defaults),
    (.text "requirements",
      .map (route.requirements.map fun (name, source) => (name, .text source))),
    (.text "methods", .list (route.methods.names.map .text))]

end Route

end UrlRouting
