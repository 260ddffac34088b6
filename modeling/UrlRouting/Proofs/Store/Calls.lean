import UrlRouting.Proofs.Store.Session

/-!
# Calls on routes and tables

The calls that make and change routes and tables, as data, so that a run is a list of them: a call
that fails is answered with its failure, and the next call finds the store as it was left.
-/

namespace UrlRouting

/-- A call that changes one route. -/
inductive Route.Change where
  | setPath (path : String)
  | setDefaults (defaults : Attributes)
  | setDefault (name : String) (value : Value)
  | setRequirements (requirements : Requirements)
  | addRequirement (name source : String)
  | setMethods (methods : Value)

/-- A call that changes the routes of a table. -/
inductive Sweep where
  | prefixPaths (front : String)
  | fillDefaults (defaults : Attributes)
  | fillRequirements (requirements : Requirements)
  | setMethods (methods : Value)

inductive Call where
  | make (path : String) (defaults : Attributes) (requirements : Requirements) (methods : Value)
  | change (route : Handle Route) (change : Route.Change)
  | create
  | declare (configuration : Value)
  | add (table : Handle SharedTable) (name : String) (route : Handle Route)
  | remove (table : Handle SharedTable) (name : String)
  | clear (table : Handle SharedTable)
  | merge (table other : Handle SharedTable) (overriding : Bool)
  | prefixNames (table : Handle SharedTable) (front : String)
  | sweep (table : Handle SharedTable) (sweep : Sweep)

/-- What a call gives back. -/
inductive Reply where
  | done
  | removed (wasTaken : Bool)
  | route (handle : Handle Route)
  | table (handle : Handle SharedTable)

namespace Session

def change (handle : Handle Route) : Route.Change → Session Unit
  | .setPath path => editRoute handle fun route => route.setPath path
  | .setDefaults defaults => editRoute handle fun route => route.setDefaults defaults
  | .setDefault name value => editRoute handle fun route => route.setDefault name value
  | .setRequirements requirements =>
      editRoute handle fun route => route.setRequirements requirements
  | .addRequirement name source => editRoute handle fun route => route.addRequirement name source
  | .setMethods methods => setMethods handle methods

def sweep (handle : Handle SharedTable) : Sweep → Session Unit
  | .prefixPaths front => prefixPaths handle front
  | .fillDefaults defaults => fillDefaults handle defaults
  | .fillRequirements requirements => fillRequirements handle requirements
  | .setMethods methods => setAllMethods handle methods

def call : Call → Session Reply
  | .make path defaults requirements methods =>
      return .route (← makeRoute path defaults requirements methods)
  | .change route change => do Session.change route change; return .done
  | .create => return .table (← newTable .empty)
  | .declare configuration => return .table (← declareTable configuration)
  | .add table name route => do addRoute table name route; return .done
  | .remove table name => return .removed (← removeRoute table name)
  | .clear table => do setTable table .empty; return .done
  | .merge table other overriding => do mergeTable table other overriding; return .done
  | .prefixNames table front => do prefixNames table front; return .done
  | .sweep table sweep => do Session.sweep table sweep; return .done

end Session

/-- The store that some calls leave. -/
def Store.after (store : Store) (calls : List Call) : Store :=
  calls.foldl (fun reached call => ((Session.call call).perform reached).2) store

/-! ### Changes of a route -/

/-- How a call changes a route, if what it is given can be read. -/
def Route.Change.edit : Route.Change → Except Failure (Route → Except Failure Route)
  | .setPath path => .ok fun route => route.setPath path
  | .setDefaults defaults => .ok fun route => route.setDefaults defaults
  | .setDefault name value => .ok fun route => route.setDefault name value
  | .setRequirements requirements => .ok fun route => route.setRequirements requirements
  | .addRequirement name source => .ok fun route => route.addRequirement name source
  | .setMethods methods =>
      match methods.methodNames with
      | .error fault => .error (.methods fault)
      | .ok names =>
          .ok fun route =>
            .ok (route.setMethods (.ofNames names) (MethodSet.isNormal_ofNames names))

/-- What a call makes of a route. -/
def Route.Change.on (change : Route.Change) (route : Route) : Except Failure Route :=
  change.edit.bind fun edit => edit route

namespace Route.Change

@[simp] theorem on_setPath (path : String) (route : Route) :
    (setPath path).on route = route.setPath path := rfl

@[simp] theorem on_setDefaults (defaults : Attributes) (route : Route) :
    (setDefaults defaults).on route = route.setDefaults defaults := rfl

@[simp] theorem on_setDefault (name : String) (value : Value) (route : Route) :
    (setDefault name value).on route = route.setDefault name value := rfl

@[simp] theorem on_setRequirements (requirements : Requirements) (route : Route) :
    (setRequirements requirements).on route = route.setRequirements requirements := rfl

@[simp] theorem on_addRequirement (name source : String) (route : Route) :
    (addRequirement name source).on route = route.addRequirement name source := rfl

theorem on_setMethods (methods : Value) (route : Route) :
    (setMethods methods).on route =
      match methods.methodNames with
      | .error fault => .error (.methods fault)
      | .ok names =>
          .ok (route.setMethods (.ofNames names) (MethodSet.isNormal_ofNames names)) := by
  rw [on, edit]
  cases methods.methodNames <;> rfl

end Route.Change

/-- The call for each route that a call for all routes comes to, if it comes to any. -/
def Sweep.changes? : Sweep → Except Failure (Option (Route → Route.Change))
  | .prefixPaths front =>
      let front := Generation.stripSlashes front
      .ok (if front.isEmpty then none else some fun route => .setPath (front ++ route.path))
  | .fillDefaults defaults =>
      .ok (if defaults.isEmpty then none
        else some fun route => .setDefaults (defaults.merge route.defaults))
  | .fillRequirements requirements =>
      .ok (if requirements.isEmpty then none
        else some fun route => .setRequirements (requirements.merge route.requirements))
  | .setMethods methods =>
      match methods.elements? with
      | none => .error (.methods (.notIterable methods.kindName))
      | some items => .ok (some fun _ => .setMethods (.list items))

namespace Session

theorem perform_change (handle : Handle Route) (change : Route.Change) (store : Store) :
    perform (Session.change handle change) store =
      match change.edit with
      | .error failure => (.error failure, store)
      | .ok edit =>
          ((store.routes.edit handle edit).1,
            { store with routes := (store.routes.edit handle edit).2 }) := by
  cases change with
  | setMethods methods =>
      rw [Session.change, setMethods, Route.Change.edit]
      cases methods.methodNames with
      | error fault => rfl
      | ok names => exact perform_editRoute ..
  | setPath | setDefaults | setDefault | setRequirements | addRequirement =>
      rw [Session.change, perform_editRoute]
      rfl

theorem methodNames_list (items : List Value) :
    (Value.list items).methodNames = Value.texts items := by
  cases items <;> rfl

theorem perform_sweep (handle : Handle SharedTable) (sweep : Sweep) (store : Store) :
    perform (Session.sweep handle sweep) store =
      match sweep.changes? with
      | .error failure => (.error failure, store)
      | .ok none => (.ok (), store)
      | .ok (some change) =>
          let swept := store.routes.sweep (fun route => (change route).on route)
            (store.table handle).entries
          (swept.1, { store with routes := swept.2 }) := by
  cases sweep with
  | prefixPaths front =>
      rw [Session.sweep, prefixPaths, Sweep.changes?]
      by_cases isEmpty : (Generation.stripSlashes front).isEmpty
      · rw [if_pos isEmpty, if_pos isEmpty, perform_pure]
      · rw [if_neg isEmpty, if_neg isEmpty, perform_bind, perform_get]
        simp only [perform_editRoutes, Route.Change.on_setPath]
  | fillDefaults defaults =>
      rw [Session.sweep, fillDefaults, Sweep.changes?]
      by_cases isEmpty : defaults.isEmpty
      · rw [if_pos isEmpty, if_pos isEmpty, perform_pure]
      · rw [if_neg isEmpty, if_neg isEmpty, perform_bind, perform_get]
        simp only [perform_editRoutes, Route.Change.on_setDefaults]
  | fillRequirements requirements =>
      rw [Session.sweep, fillRequirements, Sweep.changes?]
      by_cases isEmpty : requirements.isEmpty
      · rw [if_pos isEmpty, if_pos isEmpty, perform_pure]
      · rw [if_neg isEmpty, if_neg isEmpty, perform_bind, perform_get]
        simp only [perform_editRoutes, Route.Change.on_setRequirements]
  | setMethods methods =>
      rw [Session.sweep, setAllMethods, Sweep.changes?]
      cases methods.elements? with
      | none => rfl
      | some items =>
          dsimp only
          rw [perform_bind, perform_get]
          dsimp only
          refine (congrArg (fun edit => perform (editRoutes edit _) store) ?_).trans
            (perform_editRoutes (fun route => (Route.Change.setMethods (.list items)).on route) ..)
          funext route
          cases named : Value.texts items <;>
            rw [Route.Change.on_setMethods, methodNames_list, named]

end Session

end UrlRouting
