import UrlRouting.Declaration
import UrlRouting.Generation
import UrlRouting.Matching

/-!
Shared routes and tables.  A route can be registered in several tables and under several names, and
tables can be used by several matchers, generators and routers; so they live in a store and are
referred to by handles, and a change through one name shows through all others.
-/

namespace UrlRouting

structure Handle (α : Type) where
  index : Nat

instance {α : Type} : DecidableEq (Handle α) := fun a b =>
  decidable_of_iff (a.index = b.index) (by cases a; cases b; simp)

structure Arena (α : Type) where
  cells : Array α

namespace Arena

variable {α : Type}

def empty : Arena α := ⟨#[]⟩

def alloc (arena : Arena α) (value : α) : Handle α × Arena α :=
  (⟨arena.cells.size⟩, ⟨arena.cells.push value⟩)

def get? (arena : Arena α) (handle : Handle α) : Option α := arena.cells[handle.index]?

def set (arena : Arena α) (handle : Handle α) (value : α) : Arena α :=
  ⟨arena.cells.setIfInBounds handle.index value⟩

end Arena

/-- A table of shared routes. -/
abbrev SharedTable := RouteTable (Handle Route)

structure UrlMatcher where
  table : Handle SharedTable
  deriving DecidableEq

structure UrlGenerator where
  table : Handle SharedTable
  config : Config
  deriving DecidableEq

/-- A router: a table and settings, and the matcher and the generator once they are needed. -/
structure Router where
  table : Handle SharedTable
  config : Config
  matcher : Option (Handle UrlMatcher)
  generator : Option (Handle UrlGenerator)
  deriving DecidableEq

/-- Everything that is shared, and what has been reported. -/
structure Store where
  routes : Arena Route
  tables : Arena SharedTable
  matchers : Arena UrlMatcher
  generators : Arena UrlGenerator
  routers : Arena Router
  events : List Event

/-- A computation on a store.  What it has changed before a failure stays changed. -/
abbrev Session (α : Type) := ExceptT Failure (StateM Store) α

namespace Store

def empty : Store := ⟨.empty, .empty, .empty, .empty, .empty, []⟩

def table (store : Store) (handle : Handle SharedTable) : SharedTable :=
  (store.tables.get? handle).getD .empty

def resolveEntries (store : Store) (entries : List (String × Handle Route)) :
    List (String × Route) :=
  entries.filterMap fun (name, handle) => (store.routes.get? handle).map fun route => (name, route)

def snapshot (store : Store) (handle : Handle SharedTable) : RouteTable Route :=
  .ofEntries (store.resolveEntries (store.table handle).entries)

def shownRouter (store : Store) (router : Router) : String :=
  s!"Router({(store.table router.table).size} routes)"

end Store

namespace Session

def ofReported {α : Type} (computation : Reported α) : Session α := do
  let (events, result) := computation.run
  modify fun store => { store with events := store.events ++ events }
  match result with
  | .ok value => return value
  | .error failure => throw failure

def ofExcept {α : Type} (result : Except Failure α) : Session α :=
  match result with
  | .ok value => return value
  | .error failure => throw failure

/-! ### Routes -/

def newRoute (route : Route) : Session (Handle Route) := do
  let (handle, routes) := (← get).routes.alloc route
  modify fun store => { store with routes := routes }
  return handle

def makeRoute (path : String) (defaults : Attributes) (requirements : Requirements)
    (methods : Value) : Session (Handle Route) := do
  match methods.methodNames with
  | .error fault => throw (.methods fault)
  | .ok names =>
      let route ← ofExcept (Route.make path defaults requirements (.ofNames names)
        (MethodSet.isNormal_ofNames names))
      newRoute route

/-- Replaces a route by a changed one; if the change fails, the route stays. -/
def editRoute (handle : Handle Route) (change : Route → Except Failure Route) : Session Unit := do
  match (← get).routes.get? handle with
  | none => return ()
  | some route =>
      let changed ← ofExcept (change route)
      modify fun store => { store with routes := store.routes.set handle changed }

/-- Changes some routes one after another, up to the first whose change fails. -/
def editRoutes (change : Route → Except Failure Route) :
    List (String × Handle Route) → Session Unit
  | [] => return ()
  | (_, handle) :: rest => do
      editRoute handle change
      editRoutes change rest

def setMethods (handle : Handle Route) (methods : Value) : Session Unit := do
  match methods.methodNames with
  | .error fault => throw (.methods fault)
  | .ok names =>
      editRoute handle fun route =>
        .ok (route.setMethods (.ofNames names) (MethodSet.isNormal_ofNames names))

/-! ### Tables -/

def newTable (table : SharedTable) : Session (Handle SharedTable) := do
  let (handle, tables) := (← get).tables.alloc table
  modify fun store => { store with tables := tables }
  return handle

def setTable (handle : Handle SharedTable) (table : SharedTable) : Session Unit :=
  modify fun store => { store with tables := store.tables.set handle table }

def shareEntries : List (String × Route) → Session (List (String × Handle Route))
  | [] => return []
  | (name, route) :: rest => do
      let handle ← newRoute route
      return (name, handle) :: (← shareEntries rest)

def shareTable (table : RouteTable Route) : Session (Handle SharedTable) := do
  newTable (.ofEntries (← shareEntries table.entries))

def declareTable (configuration : Value) : Session (Handle SharedTable) := do
  shareTable (← ofReported (RouteTable.ofConfiguration configuration))

def addRoute (handle : Handle SharedTable) (name : String) (route : Handle Route) :
    Session Unit := do
  let table ← ofExcept (((← get).table handle).add name route)
  setTable handle table
  match (← get).routes.get? route with
  | some added => ofReported (Reported.report (.routeAdded name added.path))
  | none => return ()

def getRoute (handle : Handle SharedTable) (name : String) : Session (Handle Route) := do
  ofExcept (((← get).table handle).get name)

/-- Removes a name; says whether it was taken. -/
def removeRoute (handle : Handle SharedTable) (name : String) : Session Bool := do
  let (removed, table) := ((← get).table handle).remove name
  setTable handle table
  return removed

def mergeTable (handle other : Handle SharedTable) (overriding : Bool) : Session Unit := do
  let store ← get
  let table ← ofExcept ((store.table handle).merge (store.table other) overriding)
  setTable handle table

/-- Puts a path in front of every template; slashes at its end do not count. -/
def prefixPaths (handle : Handle SharedTable) (front : String) : Session Unit := do
  let front := Generation.stripSlashes front
  if front.isEmpty then return ()
  else
    editRoutes (fun route => route.setPath (front ++ route.path)) ((← get).table handle).entries

def prefixNames (handle : Handle SharedTable) (front : String) : Session Unit := do
  setTable handle (((← get).table handle).prefixNames front)

def fillDefaults (handle : Handle SharedTable) (defaults : Attributes) : Session Unit := do
  if defaults.isEmpty then return ()
  else
    editRoutes (fun route => route.setDefaults (defaults.merge route.defaults))
      ((← get).table handle).entries

def fillRequirements (handle : Handle SharedTable) (requirements : Requirements) :
    Session Unit := do
  if requirements.isEmpty then return ()
  else
    editRoutes (fun route => route.setRequirements (requirements.merge route.requirements))
      ((← get).table handle).entries

/-- Replaces the methods of all routes.  Here a text counts as its characters. -/
def setAllMethods (handle : Handle SharedTable) (methods : Value) : Session Unit := do
  match methods.elements? with
  | none => throw (.methods (.notIterable methods.kindName))
  | some items =>
      let change := fun route : Route =>
        match Value.texts items with
        | .error fault => .error (.methods fault)
        | .ok names =>
            .ok (route.setMethods (.ofNames names) (MethodSet.isNormal_ofNames names))
      editRoutes change ((← get).table handle).entries

/-! ### Matchers, generators and routers -/

def newMatcher (table : Handle SharedTable) : Session (Handle UrlMatcher) := do
  let (handle, matchers) := (← get).matchers.alloc ⟨table⟩
  modify fun store => { store with matchers := matchers }
  return handle

def newGenerator (table : Handle SharedTable) (config : Config) :
    Session (Handle UrlGenerator) := do
  let (handle, generators) := (← get).generators.alloc ⟨table, config⟩
  modify fun store => { store with generators := generators }
  return handle

/-- Adds a router that has not yet needed its parts. -/
def newRouter (table : Handle SharedTable) (config : Config) : Session (Handle Router) := do
  let (handle, routers) := (← get).routers.alloc ⟨table, config, none, none⟩
  modify fun store => { store with routers := routers }
  return handle

def matcherOf (handle : Handle Router) : Session (Option (Handle UrlMatcher)) := do
  match (← get).routers.get? handle with
  | none => return none
  | some router =>
      match router.matcher with
      | some matcher => return some matcher
      | none =>
          let matcher ← newMatcher router.table
          modify fun store =>
            { store with routers := store.routers.set handle { router with matcher := matcher } }
          return some matcher

def generatorOf (handle : Handle Router) : Session (Option (Handle UrlGenerator)) := do
  match (← get).routers.get? handle with
  | none => return none
  | some router =>
      match router.generator with
      | some generator => return some generator
      | none =>
          let generator ← newGenerator router.table router.config
          modify fun store =>
            { store with
              routers := store.routers.set handle { router with generator := generator } }
          return some generator

/-- Matches with a matcher: the routes are those of its table as they are now. -/
def matching {α : Type} (handle : Handle UrlMatcher) (question : RouteTable Route → Reported α) :
    Session α := do
  let store ← get
  let table := (store.matchers.get? handle).map fun matcher => store.snapshot matcher.table
  ofReported (question (table.getD .empty))

/-- Generates with a generator: the routes are those of its table as they are now. -/
def generating {α : Type} (handle : Handle UrlGenerator)
    (question : RouteTable Route → Config → Reported α) : Session α := do
  let store ← get
  match store.generators.get? handle with
  | none => ofReported (question .empty .standard)
  | some generator => ofReported (question (store.snapshot generator.table) generator.config)

def routerMatching {α : Type} (handle : Handle Router)
    (question : RouteTable Route → Reported α) : Session α := do
  match ← matcherOf handle with
  | none => ofReported (question .empty)
  | some matcher => matching matcher question

def routerGenerating {α : Type} (handle : Handle Router)
    (question : RouteTable Route → Config → Reported α) : Session α := do
  match ← generatorOf handle with
  | none => ofReported (question .empty .standard)
  | some generator => generating generator question

/-- Whether a router keeps its matcher and its generator, and whether both use its table. -/
def routerParts (handle : Handle Router) : Session (Bool × Bool × Bool × Bool) := do
  let firstMatcher ← matcherOf handle
  let secondMatcher ← matcherOf handle
  let firstGenerator ← generatorOf handle
  let secondGenerator ← generatorOf handle
  let store ← get
  let table := (store.routers.get? handle).map (·.table)
  let matched := (firstMatcher.bind store.matchers.get?).map (·.table)
  let generated := (firstGenerator.bind store.generators.get?).map (·.table)
  return (firstMatcher == secondMatcher, firstGenerator == secondGenerator, matched == table,
    generated == table)

end Session

end UrlRouting
