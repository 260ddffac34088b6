import Mathlib
import UrlRouting.Store

/-!
# Computations on a store

What each computation answers on a store, and the store that it leaves (`Session.perform`).  The
computations that change routes only are changes of the cells that hold the routes (`Arena.edit`,
`Arena.sweep`).
-/

namespace UrlRouting

/-! ### Cells -/

namespace Arena

variable {α : Type}

theorem get?_set_self {arena : Arena α} {handle : Handle α} {old : α}
    (isThere : arena.get? handle = some old) (value : α) :
    (arena.set handle value).get? handle = some value := by
  obtain ⟨inBounds, -⟩ := Array.getElem?_eq_some_iff.mp isThere
  simp [get?, set, inBounds]

theorem get?_set_of_ne (arena : Arena α) {handle other : Handle α} (different : handle ≠ other)
    (value : α) : (arena.set handle value).get? other = arena.get? other := by
  have indices : handle.index ≠ other.index := by
    rcases handle with ⟨index⟩
    rcases other with ⟨otherIndex⟩
    simpa using different
  simp [get?, set, indices]

theorem set_eq_self {arena : Arena α} {handle : Handle α} {value : α}
    (isThere : arena.get? handle = some value) : arena.set handle value = arena := by
  rcases arena with ⟨cells⟩
  obtain ⟨inBounds, rfl⟩ := Array.getElem?_eq_some_iff.mp isThere
  simp [set, Array.setIfInBounds, inBounds]

theorem set_of_get?_eq_none {arena : Arena α} {handle : Handle α}
    (isAbsent : arena.get? handle = none) (value : α) : arena.set handle value = arena := by
  have outOfBounds : ¬ handle.index < arena.cells.size := by
    simpa [get?] using isAbsent
  simp [set, Array.setIfInBounds, outOfBounds]

theorem get?_alloc_self (arena : Arena α) (value : α) :
    (arena.alloc value).2.get? (arena.alloc value).1 = some value := by
  simp [get?, alloc]

theorem get?_alloc_of_get? {arena : Arena α} {handle : Handle α} {old : α}
    (isThere : arena.get? handle = some old) (value : α) :
    (arena.alloc value).2.get? handle = some old := by
  obtain ⟨inBounds, rfl⟩ := Array.getElem?_eq_some_iff.mp isThere
  simp [get?, alloc, Array.getElem?_push, Nat.ne_of_lt inBounds]

/-- Changes what is in a cell.  If the change fails, or if there is no such cell, nothing
changes. -/
def edit (arena : Arena α) (handle : Handle α) (change : α → Except Failure α) :
    Except Failure Unit × Arena α :=
  match arena.get? handle with
  | none => (.ok (), arena)
  | some value =>
      match change value with
      | .ok changed => (.ok (), arena.set handle changed)
      | .error failure => (.error failure, arena)

/-- Changes what is in some cells one after another, up to the first whose change fails. -/
def sweep (change : α → Except Failure α) :
    List (String × Handle α) → Arena α → Except Failure Unit × Arena α
  | [], arena => (.ok (), arena)
  | (_, handle) :: rest, arena =>
      match arena.edit handle change with
      | (.ok (), reached) => sweep change rest reached
      | (.error failure, reached) => (.error failure, reached)

/-- Puts some things into new cells. -/
def allocAll : List (String × α) → Arena α → List (String × Handle α) × Arena α
  | [], arena => ([], arena)
  | (name, value) :: rest, arena =>
      let (handle, grown) := arena.alloc value
      let (entries, reached) := allocAll rest grown
      ((name, handle) :: entries, reached)

theorem get?_allocAll_of_get? {handle : Handle α} {old : α} (entries : List (String × α))
    {arena : Arena α} (isThere : arena.get? handle = some old) :
    (allocAll entries arena).2.get? handle = some old := by
  induction entries generalizing arena with
  | nil => exact isThere
  | cons first rest inductionHypothesis =>
      exact inductionHypothesis (get?_alloc_of_get? isThere first.2)

/-- What is put into new cells is found there, in order. -/
theorem filterMap_allocAll (entries : List (String × α)) (arena : Arena α) :
    ((allocAll entries arena).1.filterMap fun (name, handle) =>
      ((allocAll entries arena).2.get? handle).map fun value => (name, value)) = entries := by
  induction entries generalizing arena with
  | nil => rfl
  | cons first rest inductionHypothesis =>
      have isFirst : (allocAll (first :: rest) arena).2.get? (arena.alloc first.2).1 =
          some first.2 :=
        get?_allocAll_of_get? rest (get?_alloc_self arena first.2)
      rw [show (allocAll (first :: rest) arena).1 = (first.1, (arena.alloc first.2).1) ::
          (allocAll rest (arena.alloc first.2).2).1 from rfl, List.filterMap_cons]
      dsimp only
      rw [isFirst]
      exact congrArg (first :: ·) (inductionHypothesis _)

theorem map_fst_allocAll (entries : List (String × α)) (arena : Arena α) :
    (allocAll entries arena).1.map (·.1) = entries.map (·.1) := by
  induction entries generalizing arena with
  | nil => rfl
  | cons first rest inductionHypothesis =>
      simp only [allocAll, List.map_cons, inductionHypothesis]

end Arena

/-! ### Steps of a computation -/

theorem run_bind_eq {ε σ α β : Type} (first : ExceptT ε (StateM σ) α)
    (next : α → ExceptT ε (StateM σ) β) (state : σ) :
    (ExceptT.run (first >>= next)).run state =
      match (ExceptT.run first).run state with
      | (.ok value, reached) => (ExceptT.run (next value)).run reached
      | (.error failure, reached) => (.error failure, reached) := by
  rw [ExceptT.run_bind, StateT.run_bind]
  generalize StateT.run (ExceptT.run first) state = result
  rcases result with ⟨value | failure, reached⟩ <;> rfl

theorem run_liftM_eq {ε σ α : Type} (result : Except ε α) (state : σ) :
    (ExceptT.run (liftM result : ExceptT ε (StateM σ) α)).run state = (result, state) := rfl

namespace Session

variable {α β : Type}

/-- What a computation answers on a store, and the store that it leaves. -/
def perform (computation : Session α) (store : Store) : Except Failure α × Store :=
  (ExceptT.run computation).run store

@[simp] theorem perform_pure (value : α) (store : Store) :
    perform (pure value) store = (.ok value, store) := rfl

@[simp] theorem perform_get (store : Store) :
    perform (get : Session Store) store = (.ok store, store) := rfl

@[simp] theorem perform_modify (change : Store → Store) (store : Store) :
    perform (modify change : Session Unit) store = (.ok (), change store) := rfl

theorem perform_bind (first : Session α) (next : α → Session β) (store : Store) :
    perform (first >>= next) store =
      match perform first store with
      | (.ok value, reached) => perform (next value) reached
      | (.error failure, reached) => (.error failure, reached) := by
  unfold perform
  rw [run_bind_eq]
  generalize StateT.run (ExceptT.run first) store = result
  rcases result with ⟨value | failure, reached⟩ <;> rfl

theorem perform_bind_pure (computation : Session α) (reply : α → β) (store : Store) :
    perform (computation >>= fun value => pure (reply value)) store =
      ((perform computation store).1.map reply, (perform computation store).2) := by
  rw [perform_bind]
  rcases perform computation store with ⟨result, reached⟩
  cases result <;> rfl

theorem perform_ofExcept (result : Except Failure α) (store : Store) :
    perform (ofExcept result) store = (result, store) := by
  cases result <;> rfl

theorem perform_ofReported (computation : Reported α) (store : Store) :
    perform (ofReported computation) store =
      (computation.run.2, { store with events := store.events ++ computation.run.1 }) := by
  unfold ofReported
  rw [perform_bind]
  simp only [perform_modify]
  cases computation.run.2 <;> rfl

/-! ### Routes -/

theorem perform_newRoute (route : Route) (store : Store) :
    perform (newRoute route) store =
      (.ok (store.routes.alloc route).1,
        { store with routes := (store.routes.alloc route).2 }) := rfl

/-- What a route is declared to be by what its constructor is given, if the methods can be read. -/
def declarationOf (path : String) (defaults : Attributes) (requirements : Requirements)
    (methods : Value) : Except Failure Declaration :=
  match methods.methodNames with
  | .error fault => .error (.methods fault)
  | .ok names => .ok ⟨path, defaults, requirements, names⟩

theorem perform_makeRoute (path : String) (defaults : Attributes) (requirements : Requirements)
    (methods : Value) (store : Store) :
    perform (makeRoute path defaults requirements methods) store =
      match (declarationOf path defaults requirements methods).bind Declaration.build with
      | .error failure => (.error failure, store)
      | .ok route => perform (newRoute route) store := by
  unfold makeRoute declarationOf
  cases methods.methodNames with
  | error fault => rfl
  | ok names =>
      dsimp only
      rw [perform_bind, perform_ofExcept]
      simp only [Except.bind, Declaration.build]
      cases Route.make path defaults requirements (.ofNames names)
        (MethodSet.isNormal_ofNames names) <;> rfl

theorem perform_editRoute (handle : Handle Route) (change : Route → Except Failure Route)
    (store : Store) :
    perform (editRoute handle change) store =
      ((store.routes.edit handle change).1,
        { store with routes := (store.routes.edit handle change).2 }) := by
  unfold editRoute Arena.edit
  rw [perform_bind, perform_get]
  dsimp only
  cases store.routes.get? handle with
  | none => rfl
  | some route =>
      dsimp only
      rw [perform_bind, perform_ofExcept]
      cases change route <;> rfl

theorem perform_editRoutes (change : Route → Except Failure Route)
    (entries : List (String × Handle Route)) (store : Store) :
    perform (editRoutes change entries) store =
      ((store.routes.sweep change entries).1,
        { store with routes := (store.routes.sweep change entries).2 }) := by
  induction entries generalizing store with
  | nil => rfl
  | cons first rest inductionHypothesis =>
      rw [editRoutes, perform_bind, perform_editRoute, Arena.sweep]
      rcases store.routes.edit first.2 change with ⟨answer, reached⟩
      cases answer with
      | error failure => rfl
      | ok _ => exact inductionHypothesis _

theorem perform_shareEntries (entries : List (String × Route)) (store : Store) :
    perform (shareEntries entries) store =
      (.ok (store.routes.allocAll entries).1,
        { store with routes := (store.routes.allocAll entries).2 }) := by
  induction entries generalizing store with
  | nil => rfl
  | cons first rest inductionHypothesis =>
      rw [shareEntries, perform_bind, perform_newRoute]
      dsimp only
      rw [perform_bind, inductionHypothesis]
      rfl

/-! ### Tables -/

theorem perform_newTable (table : SharedTable) (store : Store) :
    perform (newTable table) store =
      (.ok (store.tables.alloc table).1,
        { store with tables := (store.tables.alloc table).2 }) := rfl

theorem perform_setTable (handle : Handle SharedTable) (table : SharedTable) (store : Store) :
    perform (setTable handle table) store =
      (.ok (), { store with tables := store.tables.set handle table }) := rfl

theorem perform_shareTable (table : RouteTable Route) (store : Store) :
    perform (shareTable table) store =
      let shared := store.routes.allocAll table.entries
      (.ok (store.tables.alloc (.ofEntries shared.1)).1,
        { store with
          routes := shared.2
          tables := (store.tables.alloc (.ofEntries shared.1)).2 }) := by
  rw [shareTable, perform_bind, perform_shareEntries]
  rfl

theorem perform_declareTable (configuration : Value) (store : Store) :
    perform (declareTable configuration) store =
      let declared := (RouteTable.ofConfiguration configuration).run
      let reported := { store with events := store.events ++ declared.1 }
      match declared.2 with
      | .error failure => (.error failure, reported)
      | .ok table => perform (shareTable table) reported := by
  rw [declareTable, perform_bind, perform_ofReported]
  dsimp only
  cases (RouteTable.ofConfiguration configuration).run.2 <;> rfl

/-- What is reported when a route is added under a name. -/
def additionEvents (store : Store) (name : String) (route : Handle Route) : List Event :=
  match store.routes.get? route with
  | some added => [.routeAdded name added.path]
  | none => []

theorem perform_addRoute (handle : Handle SharedTable) (name : String) (route : Handle Route)
    (store : Store) :
    perform (addRoute handle name route) store =
      match (store.table handle).add name route with
      | .error failure => (.error failure, store)
      | .ok table =>
          (.ok (), { store with
            tables := store.tables.set handle table
            events := store.events ++ additionEvents store name route }) := by
  unfold additionEvents
  rw [addRoute, perform_bind, perform_get]
  dsimp only
  rw [perform_bind, perform_ofExcept]
  cases (store.table handle).add name route with
  | error failure => rfl
  | ok table =>
      dsimp only
      rw [perform_bind, perform_setTable]
      dsimp only
      rw [perform_bind, perform_get]
      dsimp only
      cases store.routes.get? route with
      | some added => rfl
      | none => simp only [perform_pure, List.append_nil]

theorem perform_getRoute (handle : Handle SharedTable) (name : String) (store : Store) :
    perform (getRoute handle name) store = ((store.table handle).get name, store) := by
  rw [getRoute, perform_bind, perform_get]
  exact perform_ofExcept _ store

theorem perform_removeRoute (handle : Handle SharedTable) (name : String) (store : Store) :
    perform (removeRoute handle name) store =
      (.ok ((store.table handle).remove name).1,
        { store with tables := store.tables.set handle ((store.table handle).remove name).2 }) :=
  rfl

theorem perform_mergeTable (handle other : Handle SharedTable) (overriding : Bool)
    (store : Store) :
    perform (mergeTable handle other overriding) store =
      match (store.table handle).merge (store.table other) overriding with
      | .error failure => (.error failure, store)
      | .ok table => (.ok (), { store with tables := store.tables.set handle table }) := by
  rw [mergeTable, perform_bind, perform_get]
  dsimp only
  rw [perform_bind, perform_ofExcept]
  cases (store.table handle).merge (store.table other) overriding <;> rfl

theorem perform_prefixNames (handle : Handle SharedTable) (front : String) (store : Store) :
    perform (prefixNames handle front) store =
      (.ok (), { store with
        tables := store.tables.set handle ((store.table handle).prefixNames front) }) := rfl

end Session

end UrlRouting
