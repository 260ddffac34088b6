import UrlRouting.RouteTable

/-!
Declarations of routes as plain values: checking an entry, building its route, and building the
table of a whole configuration.
-/

namespace UrlRouting

structure Declaration where
  path : String
  defaults : Attributes
  requirements : Requirements
  methods : List String
  deriving Repr

namespace Declaration

def keys : List String := ["defaults", "methods", "path", "requirements"]

/-- The keys that are none of an entry's, in the order of the entry. -/
def strangers (entries : Attributes) : List Value :=
  (entries.filter fun (key, _) => !keys.any fun known => key == .text known).map (·.1)

def unknownKeys (entries : Attributes) : List String :=
  ((strangers entries).map Value.toText).mergeSort fun a b => decide (a ≤ b)

/-- The value of an optional field, `none` if there is nothing in it. -/
def field? (entries : Attributes) (name : String) : Option Value :=
  (entries.named? name).filter Value.isGiven

/-- Expressions by name: every value must be a text. -/
def requirementTexts? : List (Value × Value) → Option Requirements
  | [] => some []
  | (name, .text source) :: rest => (requirementTexts? rest).map ((name, source) :: ·)
  | _ :: _ => none

def texts? : List Value → Option (List String)
  | [] => some []
  | .text name :: rest => (texts? rest).map (name :: ·)
  | _ :: _ => none

def readDefaults (name : String) (entries : Attributes) : Except DeclarationFault Attributes :=
  match field? entries "defaults" with
  | none => .ok []
  | some (.map defaults) => .ok defaults
  | some _ => .error (.defaultsNotMapping name)

def readRequirements (name : String) (entries : Attributes) :
    Except DeclarationFault Requirements :=
  match field? entries "requirements" with
  | none => .ok []
  | some (.map requirements) =>
      match requirementTexts? requirements with
      | some requirements => .ok requirements
      | none => .error (.requirementsNotTexts name)
  | some _ => .error (.requirementsNotTexts name)

/-- The methods of an entry: one text is one method. -/
def readMethods (name : String) (entries : Attributes) :
    Except DeclarationFault (List String) :=
  match field? entries "methods" with
  | none => .ok []
  | some (.text method) => .ok [method]
  | some value =>
      match value.elements?.bind texts? with
      | some methods => .ok methods
      | none => .error (.methodsNotNames name)

def ofEntries (name : String) (entries : Attributes) (path : Value) :
    Except DeclarationFault Declaration := do
  match path with
  | .text path =>
      let defaults ← readDefaults name entries
      let requirements ← readRequirements name entries
      let methods ← readMethods name entries
      return ⟨path, defaults, requirements, methods⟩
  | other => .error (.pathNotText name other.kindName)

def ofValue (name : String) (entry : Value) : Except DeclarationFault Declaration :=
  match entry with
  | .map entries =>
      match Attributes.named? entries "path" with
      | none => .error (.missingPath name)
      | some path =>
          let unknown := strangers entries
          if unknown.isEmpty then ofEntries name entries path
          else if unknown.all Value.hasText then .error (.unknownKeys name (unknownKeys entries))
          else .error .keyWithoutText
  | other => .error (.notMapping name other.kindName)

def build (declaration : Declaration) : Except Failure Route :=
  Route.make declaration.path declaration.defaults declaration.requirements
    (.ofNames declaration.methods) (MethodSet.isNormal_ofNames _)

end Declaration

namespace RouteTable

/-- Builds the route of an entry and registers it under the text of its key. -/
def declare (table : RouteTable Route) (key entry : Value) : Reported (RouteTable Route) :=
  if !key.hasText then throw .tooManyDigits
  else do
    let name := key.toText
    match Declaration.ofValue name entry with
    | .error fault => throw (.declaration fault)
    | .ok declaration =>
        let route ← declaration.build
        let table ← table.add name route
        Reported.report (.routeAdded name route.path)
        return table

def declareAll (table : RouteTable Route) : List (Value × Value) → Reported (RouteTable Route)
  | [] => return table
  | (key, entry) :: rest => do
      let table ← table.declare key entry
      table.declareAll rest

/-- The table of a configuration: a map from names to entries. -/
def ofConfiguration (configuration : Value) : Reported (RouteTable Route) :=
  match configuration with
  | .map entries => empty.declareAll entries
  | other => throw (.declaration (.noMapping other.kindName))

end RouteTable

end UrlRouting
