import UrlRouting.Proofs.Store.Calls
import UrlRouting.Proofs.Table.Listing

/-!
# Tables in a store as lists

Tables of shared routes answer every run of calls as lists of entries do, failed calls included
(`Store.answers_as_listings`).
-/

namespace UrlRouting

/-! ### Configurations -/

namespace Entries

def declare (entries : Entries String Route) (key entry : Value) :
    Except Failure (Entries String Route) :=
  if !key.hasText then .error .tooManyDigits
  else
    match Declaration.ofValue key.toText entry with
    | .error fault => .error (.declaration fault)
    | .ok declaration => declaration.build.bind fun route => entries.add key.toText route

def declareAll (entries : Entries String Route) :
    List (Value × Value) → Except Failure (Entries String Route)
  | [] => .ok entries
  | (key, entry) :: rest =>
      (entries.declare key entry).bind fun declared => declareAll declared rest

def ofConfiguration : Value → Except Failure (Entries String Route)
  | .map entries => declareAll [] entries
  | other => .error (.declaration (.noMapping other.kindName))

end Entries

namespace RouteTable

theorem IsIndexed.declare {table : RouteTable Route} (isIndexed : table.IsIndexed)
    (key entry : Value) (events : List Event) :
    IsListed ((ExceptT.run (table.declare key entry)).run events).1
      (Entries.declare table.entries key entry) := by
  unfold RouteTable.declare Entries.declare
  dsimp only
  by_cases isUnwritten : (!key.hasText) = true
  · rw [if_pos isUnwritten, if_pos isUnwritten]
    exact .error _
  rw [if_neg isUnwritten, if_neg isUnwritten]
  cases Declaration.ofValue key.toText entry with
  | error fault => exact .error _
  | ok declaration =>
      dsimp only
      rw [run_bind_eq, run_liftM_eq]
      cases declaration.build with
      | error failure => exact .error _
      | ok route =>
          have added := isIndexed.add key.toText route
          dsimp only [Except.bind]
          rw [run_bind_eq, run_liftM_eq]
          revert added
          generalize table.add key.toText route = result
          generalize Entries.add table.entries key.toText route = listed
          rintro (isIndexed | failure)
          · exact .ok isIndexed
          · exact .error _

theorem IsIndexed.declareAll {table : RouteTable Route} (isIndexed : table.IsIndexed)
    (list : List (Value × Value)) (events : List Event) :
    IsListed ((ExceptT.run (table.declareAll list)).run events).1
      (Entries.declareAll table.entries list) := by
  induction list generalizing table events with
  | nil => exact .ok isIndexed
  | cons first rest inductionHypothesis =>
      rw [RouteTable.declareAll, Entries.declareAll, run_bind_eq]
      have declared := isIndexed.declare first.1 first.2 events
      revert declared
      generalize StateT.run (ExceptT.run (table.declare first.1 first.2)) events = result
      generalize Entries.declare table.entries first.1 first.2 = listed
      rcases result with ⟨result, reached⟩
      rintro (isIndexed | failure)
      · exact inductionHypothesis isIndexed reached
      · exact .error _

theorem isListed_ofConfiguration (configuration : Value) :
    IsListed (RouteTable.ofConfiguration configuration).run.2
      (Entries.ofConfiguration configuration) := by
  cases configuration with
  | map entries => exact isIndexed_empty.declareAll entries []
  | null | bool | int | float | text | bytes | date | moment | clock | list | tuple =>
      exact .error _

end RouteTable

/-! ### Stores whose tables are lists -/

/-- Routes, and tables that are nothing but their entries. -/
structure Listings where
  routes : Arena Route
  tables : Arena (Entries String (Handle Route))

namespace Listings

def empty : Listings := ⟨.empty, .empty⟩

def table (listings : Listings) (handle : Handle SharedTable) : Entries String (Handle Route) :=
  (listings.tables.get? ⟨handle.index⟩).getD []

def setTable (listings : Listings) (handle : Handle SharedTable)
    (entries : Entries String (Handle Route)) : Listings :=
  { listings with tables := listings.tables.set ⟨handle.index⟩ entries }

def newTable (listings : Listings) (entries : Entries String (Handle Route)) :
    Handle SharedTable × Listings :=
  let (handle, tables) := listings.tables.alloc entries
  (⟨handle.index⟩, { listings with tables := tables })

/-- The names of a table and the routes under them. -/
def items (listings : Listings) (handle : Handle SharedTable) : Entries String Route :=
  (listings.table handle).filterMap fun (name, route) =>
    (listings.routes.get? route).map fun route => (name, route)

/-- What a call answers, and what it leaves. -/
def call (listings : Listings) : Call → Except Failure Reply × Listings
  | .make path defaults requirements methods =>
      match (Session.declarationOf path defaults requirements methods).bind Declaration.build with
      | .error failure => (.error failure, listings)
      | .ok route =>
          let (handle, routes) := listings.routes.alloc route
          (.ok (.route handle), { listings with routes := routes })
  | .change handle change =>
      match change.edit with
      | .error failure => (.error failure, listings)
      | .ok edit =>
          let (result, routes) := listings.routes.edit handle edit
          (result.map fun _ => .done, { listings with routes := routes })
  | .create =>
      let (handle, reached) := listings.newTable []
      (.ok (.table handle), reached)
  | .declare configuration =>
      match Entries.ofConfiguration configuration with
      | .error failure => (.error failure, listings)
      | .ok declared =>
          let (entries, routes) := listings.routes.allocAll declared
          let (handle, reached) := { listings with routes := routes }.newTable entries
          (.ok (.table handle), reached)
  | .add table name route =>
      match (listings.table table).add name route with
      | .error failure => (.error failure, listings)
      | .ok entries => (.ok .done, listings.setTable table entries)
  | .remove table name =>
      (.ok (.removed ((listings.table table).has name)),
        listings.setTable table ((listings.table table).without name))
  | .clear table => (.ok .done, listings.setTable table [])
  | .merge table other overriding =>
      match (listings.table table).union (listings.table other) overriding with
      | .error failure => (.error failure, listings)
      | .ok entries => (.ok .done, listings.setTable table entries)
  | .prefixNames table front =>
      (.ok .done, listings.setTable table ((listings.table table).prefixed front))
  | .sweep table sweep =>
      match sweep.changes? with
      | .error failure => (.error failure, listings)
      | .ok none => (.ok .done, listings)
      | .ok (some change) =>
          let (result, routes) :=
            listings.routes.sweep (fun route => (change route).on route) (listings.table table)
          (result.map fun _ => .done, { listings with routes := routes })

/-- The tables of a store as lists. -/
structure Describes (listings : Listings) (store : Store) : Prop where
  routes_eq : listings.routes = store.routes
  tables_eq : listings.tables.cells = store.tables.cells.map (·.entries)
  isIndexed : ∀ table ∈ store.tables.cells, table.IsIndexed

namespace Describes

variable {listings : Listings} {store : Store}

theorem empty : Listings.empty.Describes .empty where
  routes_eq := rfl
  tables_eq := by simp [Listings.empty, Store.empty, Arena.empty]
  isIndexed table membership := by simp [Store.empty, Arena.empty] at membership

theorem isIndexed_table (describes : listings.Describes store) (handle : Handle SharedTable) :
    (store.table handle).IsIndexed := by
  unfold Store.table Arena.get?
  cases isThere : store.tables.cells[handle.index]? with
  | none => exact RouteTable.isIndexed_empty
  | some table => exact describes.isIndexed table (Array.mem_of_getElem? isThere)

theorem table_eq (describes : listings.Describes store) (handle : Handle SharedTable) :
    listings.table handle = (store.table handle).entries := by
  unfold Listings.table Store.table Arena.get?
  rw [describes.tables_eq, Array.getElem?_map]
  cases store.tables.cells[handle.index]? <;> rfl

theorem setTable (describes : listings.Describes store) {table : SharedTable}
    (isIndexed : table.IsIndexed) (handle : Handle SharedTable) :
    (listings.setTable handle table.entries).Describes
      { store with tables := store.tables.set handle table } where
  routes_eq := describes.routes_eq
  tables_eq := by
    change listings.tables.cells.setIfInBounds handle.index table.entries = _
    rw [describes.tables_eq]
    exact (Array.map_setIfInBounds ..).symm
  isIndexed other membership := by
    rcases Array.mem_or_eq_of_mem_setIfInBounds membership with wasThere | rfl
    · exact describes.isIndexed other wasThere
    · exact isIndexed

theorem newTable (describes : listings.Describes store) {table : SharedTable}
    (isIndexed : table.IsIndexed) :
    (listings.newTable table.entries).1 = (store.tables.alloc table).1 ∧
      (listings.newTable table.entries).2.Describes
        { store with tables := (store.tables.alloc table).2 } := by
  refine ⟨?_, describes.routes_eq, ?_, ?_⟩
  · change (⟨listings.tables.cells.size⟩ : Handle SharedTable) = ⟨store.tables.cells.size⟩
    rw [describes.tables_eq, Array.size_map]
  · change listings.tables.cells.push table.entries = (store.tables.cells.push table).map _
    rw [describes.tables_eq, Array.map_push]
  · intro other membership
    rcases Array.mem_push.mp membership with wasThere | rfl
    · exact describes.isIndexed other wasThere
    · exact isIndexed

theorem withRoutes (describes : listings.Describes store) (routes : Arena Route) :
    { listings with routes := routes }.Describes { store with routes := routes } :=
  ⟨rfl, describes.tables_eq, describes.isIndexed⟩

theorem withEvents (describes : listings.Describes store) (events : List Event) :
    listings.Describes { store with events := events } :=
  ⟨describes.routes_eq, describes.tables_eq, describes.isIndexed⟩

/-- A call answers the same with tables as with lists, and the lists that it leaves are those of the
tables that it leaves. -/
theorem call (describes : listings.Describes store) (call : Call) :
    ((Session.call call).perform store).1 = (listings.call call).1 ∧
      (listings.call call).2.Describes ((Session.call call).perform store).2 := by
  rcases listings with ⟨routes, tables⟩
  obtain rfl : routes = store.routes := describes.routes_eq
  cases call with
  | make path defaults requirements methods =>
      rw [Session.call, Session.perform_bind_pure, Session.perform_makeRoute, Listings.call]
      cases (Session.declarationOf path defaults requirements methods).bind Declaration.build with
      | error failure => exact ⟨rfl, describes⟩
      | ok route => exact ⟨rfl, describes.withRoutes _⟩
  | change handle change =>
      rw [Session.call, Session.perform_bind_pure, Session.perform_change, Listings.call]
      cases change.edit with
      | error failure => exact ⟨rfl, describes⟩
      | ok edit => exact ⟨rfl, describes.withRoutes _⟩
  | create =>
      rw [Session.call, Session.perform_bind_pure, Session.perform_newTable, Listings.call]
      obtain ⟨handle_eq, reached⟩ := describes.newTable RouteTable.isIndexed_empty
      exact ⟨congrArg (fun handle => Except.ok (Reply.table handle)) handle_eq.symm, reached⟩
  | declare configuration =>
      rw [Session.call, Session.perform_bind_pure, Session.perform_declareTable, Listings.call]
      dsimp only
      have isListed := RouteTable.isListed_ofConfiguration configuration
      revert isListed
      generalize (RouteTable.ofConfiguration configuration).run = declared
      rcases declared with ⟨events, result⟩
      generalize Entries.ofConfiguration configuration = listed
      rintro (isIndexed | failure)
      · rename_i declared
        have nodup : ((store.routes.allocAll declared.entries).1.map (·.1)).Nodup := by
          rw [Arena.map_fst_allocAll]
          exact isIndexed.nodup
        obtain ⟨handle_eq, reached⟩ :=
          ((describes.withRoutes (store.routes.allocAll declared.entries).2).withEvents
            (store.events ++ events)).newTable (RouteTable.isIndexed_ofEntries nodup)
        dsimp only
        rw [Session.perform_shareTable]
        exact ⟨congrArg (fun handle => Except.ok (Reply.table handle)) handle_eq.symm, reached⟩
      · exact ⟨rfl, describes.withEvents _⟩
  | add table name route =>
      rw [Session.call, Session.perform_bind_pure, Session.perform_addRoute, Listings.call,
        describes.table_eq]
      have isListed := (describes.isIndexed_table table).add name route
      revert isListed
      generalize (store.table table).add name route = result
      generalize Entries.add (store.table table).entries name route = listed
      rintro (isIndexed | failure)
      · exact ⟨rfl, (describes.setTable isIndexed table).withEvents _⟩
      · exact ⟨rfl, describes⟩
  | remove table name =>
      rw [Session.call, Session.perform_bind_pure, Session.perform_removeRoute, Listings.call,
        describes.table_eq]
      have isIndexed := describes.isIndexed_table table
      obtain ⟨wasTaken, entries_eq⟩ := isIndexed.remove_eq name
      rw [← wasTaken, ← entries_eq]
      exact ⟨rfl, describes.setTable (isIndexed.remove name) table⟩
  | clear table =>
      exact ⟨rfl, describes.setTable RouteTable.isIndexed_empty table⟩
  | merge table other overriding =>
      rw [Session.call, Session.perform_bind_pure, Session.perform_mergeTable, Listings.call,
        describes.table_eq, describes.table_eq]
      have isListed := (describes.isIndexed_table table).merge (store.table other) overriding
      revert isListed
      generalize (store.table table).merge (store.table other) overriding = result
      generalize Entries.union (store.table table).entries (store.table other).entries overriding =
        listed
      rintro (isIndexed | failure)
      · exact ⟨rfl, describes.setTable isIndexed table⟩
      · exact ⟨rfl, describes⟩
  | prefixNames table front =>
      rw [Session.call, Session.perform_bind_pure, Session.perform_prefixNames, Listings.call,
        describes.table_eq, ← RouteTable.IsIndexed.prefixNames_eq]
      exact ⟨rfl, describes.setTable ((describes.isIndexed_table table).prefixNames front) table⟩
  | sweep table sweep =>
      rw [Session.call, Session.perform_bind_pure, Session.perform_sweep, Listings.call,
        describes.table_eq]
      rcases sweep.changes? with failure | _ | change
      · exact ⟨rfl, describes⟩
      · exact ⟨rfl, describes⟩
      · exact ⟨rfl, describes.withRoutes _⟩

end Describes

/-- What some calls leave. -/
def after (listings : Listings) (calls : List Call) : Listings :=
  calls.foldl (fun reached call => (reached.call call).2) listings

def answers (listings : Listings) : List Call → List (Except Failure Reply)
  | [] => []
  | call :: rest => (listings.call call).1 :: (listings.call call).2.answers rest

end Listings

def Store.answers (store : Store) : List Call → List (Except Failure Reply)
  | [] => []
  | call :: rest =>
      ((Session.call call).perform store).1 ::
        ((Session.call call).perform store).2.answers rest

theorem Listings.Describes.after (calls : List Call) {listings : Listings} {store : Store}
    (describes : listings.Describes store) :
    store.answers calls = listings.answers calls ∧
      (listings.after calls).Describes (store.after calls) := by
  induction calls generalizing listings store with
  | nil => exact ⟨rfl, describes⟩
  | cons call rest inductionHypothesis =>
      obtain ⟨answer_eq, reached⟩ := describes.call call
      obtain ⟨answers_eq, final⟩ := inductionHypothesis reached
      refine ⟨?_, final⟩
      rw [Store.answers, Listings.answers, answer_eq, answers_eq]

/-! ### Questions about a table -/

namespace Listings.Describes

variable {listings : Listings} {store : Store}

theorem items_eq (describes : listings.Describes store) (handle : Handle SharedTable) :
    store.resolveEntries (store.table handle).entries = listings.items handle := by
  rw [Listings.items, describes.table_eq, describes.routes_eq]
  rfl

theorem nodup_items (describes : listings.Describes store) (handle : Handle SharedTable) :
    (listings.items handle).names.Nodup := by
  have kept : (listings.items handle).names.Sublist (listings.table handle).names := by
    unfold Listings.items
    induction listings.table handle with
    | nil => exact .slnil
    | cons first rest inductionHypothesis =>
        rw [List.filterMap_cons]
        dsimp only
        cases listings.routes.get? first.2 with
        | none => exact inductionHypothesis.cons _
        | some route => exact inductionHypothesis.cons_cons _
  rw [describes.table_eq] at kept
  exact (describes.isIndexed_table handle).nodup.sublist kept

theorem getRoute_eq (describes : listings.Describes store) (handle : Handle SharedTable)
    (name : String) :
    (Session.getRoute handle name).perform store =
      ((listings.table handle).fetch name, store) := by
  rw [Session.perform_getRoute, (describes.isIndexed_table handle).get_eq, describes.table_eq]

end Listings.Describes

namespace Session

theorem addRoute_of_error {handle : Handle SharedTable} {name : String} {route : Handle Route}
    {store left : Store} {failure : Failure}
    (failed : (addRoute handle name route).perform store = (.error failure, left)) :
    left = store := by
  rw [perform_addRoute] at failed
  cases added : (store.table handle).add name route with
  | error other =>
      rw [added] at failed
      exact (congrArg Prod.snd failed).symm
  | ok table =>
      rw [added] at failed
      cases congrArg Prod.fst failed

theorem mergeTable_of_error {handle other : Handle SharedTable} {overriding : Bool}
    {store left : Store} {failure : Failure}
    (failed : (mergeTable handle other overriding).perform store = (.error failure, left)) :
    left = store := by
  rw [perform_mergeTable] at failed
  cases merged : (store.table handle).merge (store.table other) overriding with
  | error other =>
      rw [merged] at failed
      exact (congrArg Prod.snd failed).symm
  | ok table =>
      rw [merged] at failed
      cases congrArg Prod.fst failed

theorem setTable_self (store : Store) (handle : Handle SharedTable) :
    store.tables.set handle (store.table handle) = store.tables := by
  unfold Store.table
  cases isThere : store.tables.get? handle with
  | none => exact Arena.set_of_get?_eq_none isThere _
  | some table => exact Arena.set_eq_self isThere

theorem removeRoute_of_not_mem {store : Store} {handle : Handle SharedTable} {name : String}
    (isIndexed : (store.table handle).IsIndexed) (absent : name ∉ (store.table handle).names) :
    (removeRoute handle name).perform store = (.ok false, store) := by
  rw [perform_removeRoute, isIndexed.remove_of_not_mem absent, setTable_self]

end Session

/-- After any calls, each table has an exact index and answers as the list of its entries, and what
the calls themselves have answered is what they answer on such lists. -/
theorem Store.answers_as_listings (calls : List Call) :
    let store := Store.empty.after calls
    let listings := Listings.empty.after calls
    Store.empty.answers calls = Listings.empty.answers calls ∧
    ∀ handle : Handle SharedTable,
      let table := store.table handle
      let entries := listings.table handle
      (table.names.Nodup ∧ ∀ (name : String) (position : Nat),
        table.positions[name]? = some position ↔ table.names[position]? = some name) ∧
      (∀ name, (Session.getRoute handle name).perform store = (entries.fetch name, store)) ∧
      (∀ name, table.contains name = entries.has name) ∧
      table.size = entries.length ∧
      table.names = entries.names ∧
      table.entries = entries ∧
      store.resolveEntries table.entries = listings.items handle ∧
      Entries.ofPairs (store.resolveEntries table.entries) = listings.items handle ∧
      (store.snapshot handle).toValue =
        .map ((listings.items handle).map fun (name, route) => (.text name, route.toValue)) ∧
      (∀ name route failure left,
        (Session.addRoute handle name route).perform store = (.error failure, left) →
          left = store) ∧
      (∀ other overriding failure left,
        (Session.mergeTable handle other overriding).perform store = (.error failure, left) →
          left = store) ∧
      ∀ name, name ∉ table.names →
        (Session.removeRoute handle name).perform store = (.ok false, store) := by
  intro store listings
  obtain ⟨answers_eq, describes⟩ := Listings.Describes.empty.after calls
  refine ⟨answers_eq, fun handle => ?_⟩
  intro table entries
  have isIndexed : table.IsIndexed := describes.isIndexed_table handle
  have entries_eq : entries = table.entries := describes.table_eq handle
  have items_eq := describes.items_eq handle
  refine ⟨⟨isIndexed.nodup, isIndexed.position_iff⟩, describes.getRoute_eq handle, ?_, ?_, ?_,
    entries_eq.symm, items_eq, ?_, ?_, ?_, ?_, ?_⟩
  · exact fun name => entries_eq ▸ isIndexed.contains_eq name
  · exact congrArg List.length entries_eq.symm
  · exact congrArg Entries.names entries_eq.symm
  · rw [items_eq]
    exact Entries.merge_of_nodup [] (describes.nodup_items handle)
  · rw [← items_eq]
    rfl
  · exact fun name route failure left => Session.addRoute_of_error
  · exact fun other overriding failure left => Session.mergeTable_of_error
  · exact fun name => Session.removeRoute_of_not_mem isIndexed

end UrlRouting
