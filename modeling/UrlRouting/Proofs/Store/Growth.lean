import UrlRouting.Proofs.Routing.Priority
import UrlRouting.Proofs.Store.Merging
import UrlRouting.Proofs.Store.Routers

/-!
# Tables that grow

Routes that are added to a table, one by one or with another table, come behind those that are
there, so that what a request finds stays found and the methods that are told for it stay told; and
what is found does not hang on any other route (`Store.growth_keeps_priority`).
-/

namespace UrlRouting

/-- A call that makes something new, or that adds to a table without overriding anything. -/
inductive Growth where
  | make (path : String) (defaults : Attributes) (requirements : Requirements) (methods : Value)
  | create
  | declare (configuration : Value)
  | add (table : Handle SharedTable) (name : String) (route : Handle Route)
  | merge (table other : Handle SharedTable)

def Growth.call : Growth → Call
  | make path defaults requirements methods => .make path defaults requirements methods
  | create => .create
  | declare configuration => .declare configuration
  | add table name route => .add table name route
  | merge table other => .merge table other false

/-! ### Stores -/

namespace Store

/-- What is in a store is in another one too, and behind the entries of its tables there may be
more. -/
structure Grows (store reached : Store) : Prop where
  keeps : store.routes.Keeps reached.routes
  extend : ∀ handle, ∃ more, (reached.table handle).entries = (store.table handle).entries ++ more

namespace Grows

variable {store middle reached : Store}

theorem refl (store : Store) : store.Grows store :=
  ⟨.refl _, fun _ => ⟨[], (List.append_nil _).symm⟩⟩

theorem trans (grows : store.Grows middle) (further : middle.Grows reached) :
    store.Grows reached := by
  refine ⟨grows.keeps.trans further.keeps, fun handle => ?_⟩
  obtain ⟨first, first_eq⟩ := grows.extend handle
  obtain ⟨second, second_eq⟩ := further.extend handle
  exact ⟨first ++ second, by rw [second_eq, first_eq, List.append_assoc]⟩

theorem of_tables_eq (keeps : store.routes.Keeps reached.routes)
    (tables_eq : reached.tables = store.tables) : store.Grows reached := by
  refine ⟨keeps, fun handle => ⟨[], ?_⟩⟩
  rw [List.append_nil, Store.table, tables_eq, Store.table]

theorem of_alloc (keeps : store.routes.Keeps reached.routes) {new : SharedTable}
    (tables_eq : reached.tables = (store.tables.alloc new).2) : store.Grows reached := by
  refine ⟨keeps, fun handle => ?_⟩
  rw [Store.table, tables_eq, Store.table]
  cases isThere : store.tables.get? handle with
  | none => exact ⟨_, rfl⟩
  | some table =>
      rw [Arena.get?_alloc_of_get? isThere]
      exact ⟨[], (List.append_nil _).symm⟩

theorem of_set (routes_eq : reached.routes = store.routes) {handle : Handle SharedTable}
    {changed : SharedTable} {more : List (String × Handle Route)}
    (tables_eq : reached.tables = store.tables.set handle changed)
    (entries_eq : changed.entries = (store.table handle).entries ++ more) :
    store.Grows reached := by
  refine ⟨routes_eq ▸ .refl _, fun other => ?_⟩
  rw [Store.table, tables_eq]
  by_cases isOther : handle = other
  · subst isOther
    cases isThere : store.tables.get? handle with
    | none =>
        rw [Arena.set_of_get?_eq_none isThere]
        exact ⟨[], (List.append_nil _).symm⟩
    | some table =>
        rw [Arena.get?_set_self isThere, Option.getD_some]
        exact ⟨more, entries_eq⟩
  · rw [Arena.get?_set_of_ne _ isOther]
    exact ⟨[], (List.append_nil _).symm⟩

end Grows

end Store

/-! ### Calls that add -/

theorem Arena.keeps_allocAll {α : Type} (arena : Arena α) (entries : List (String × α)) :
    arena.Keeps (arena.allocAll entries).2 :=
  fun _ _ isThere => get?_allocAll_of_get? entries isThere

theorem RouteTable.entries_of_add {α : Type} {table added : RouteTable α} {name : String}
    {value : α} (adds : table.add name value = .ok added) :
    added.entries = table.entries ++ [(name, value)] := by
  unfold add at adds
  split at adds
  · cases adds
  · cases adds
    rfl

/-- Where no name is overridden, the other entries come behind, all of them and in their order. -/
theorem RouteTable.IsIndexed.entries_of_merge {α : Type} {own other union : RouteTable α}
    (isIndexed : own.IsIndexed) (otherIndexed : other.IsIndexed)
    (merged : own.merge other false = .ok union) :
    union.entries = own.entries ++ other.entries := by
  rw [isIndexed.merge_false] at merged
  split at merged
  · cases merged
  · next noneTaken =>
      obtain ⟨union', merged', -, entries_eq⟩ := isIndexed.exists_merge other
      obtain rfl := Except.ok.inj (merged.symm.trans merged')
      rw [entries_eq]
      apply Entries.merge_of_nodup
      apply isIndexed.nodup.append otherIndexed.nodup
      intro name isOwn isOther
      simpa [isOwn] using List.find?_eq_none.mp noneTaken name isOther

namespace Store

variable {store : Store}

theorem grows_call (isIndexed : ∀ handle, (store.table handle).IsIndexed) (growth : Growth) :
    store.Grows ((Session.call growth.call).perform store).2 := by
  cases growth with
  | make path defaults requirements methods =>
      rw [Growth.call, Session.call, Session.perform_bind_pure, Session.perform_makeRoute]
      cases (Session.declarationOf path defaults requirements methods).bind Declaration.build with
      | error failure => exact .refl store
      | ok route => exact .of_tables_eq (Arena.keeps_alloc store.routes route) rfl
  | create => exact .of_alloc (.refl _) rfl
  | declare configuration =>
      rw [Growth.call, Session.call, Session.perform_bind_pure, Session.perform_declareTable]
      generalize (RouteTable.ofConfiguration configuration).run = declared
      rcases declared with ⟨events, failure | table⟩
      · exact .of_tables_eq (.refl _) rfl
      · dsimp only
        rw [Session.perform_shareTable]
        exact .of_alloc (Arena.keeps_allocAll store.routes table.entries) rfl
  | add table name route =>
      rw [Growth.call, Session.call, Session.perform_bind_pure, Session.perform_addRoute]
      cases adds : (store.table table).add name route with
      | error failure => exact .refl store
      | ok added => exact .of_set rfl rfl (RouteTable.entries_of_add adds)
  | merge table other =>
      rw [Growth.call, Session.call, Session.perform_bind_pure, Session.perform_mergeTable]
      cases merged : (store.table table).merge (store.table other) false with
      | error failure => exact .refl store
      | ok union =>
          exact .of_set rfl rfl
            ((isIndexed table).entries_of_merge (isIndexed other) merged)

theorem after_append (store : Store) (calls more : List Call) :
    store.after (calls ++ more) = (store.after calls).after more :=
  List.foldl_append

theorem grows_after (calls : List Call) (growth : List Growth) :
    (Store.empty.after calls).Grows
      ((Store.empty.after calls).after (growth.map Growth.call)) := by
  induction growth generalizing calls with
  | nil => exact .refl _
  | cons first rest inductionHypothesis =>
      have further := inductionHypothesis (calls ++ [first.call])
      rw [after_append] at further
      exact (grows_call (Store.isIndexed_table_after calls) first).trans further

/-! ### Answers to requests -/

/-- What a request for a path finds in a table, or why it finds nothing. -/
def answerTo (store : Store) (table : Handle SharedTable) (path method : String) :
    Except Failure Attributes :=
  (Reported.run ((store.snapshot table).resolveParameters path method)).2

theorem resolveEntries_append (store : Store) (entries more : List (String × Handle Route)) :
    store.resolveEntries (entries ++ more) =
      store.resolveEntries entries ++ store.resolveEntries more :=
  List.filterMap_append

/-- Routes that are there stay what they are when a store grows. -/
theorem Grows.exists_snapshot_eq {reached : Store} (grows : store.Grows reached)
    {table : Handle SharedTable}
    (resolved : ∀ entry ∈ (store.table table).entries, (store.routes.get? entry.2).isSome) :
    ∃ more, (reached.snapshot table).entries = (store.snapshot table).entries ++ more := by
  obtain ⟨more, entries_eq⟩ := grows.extend table
  have same : reached.resolveEntries (store.table table).entries =
      store.resolveEntries (store.table table).entries := by
    apply List.filterMap_congr
    intro entry isEntry
    obtain ⟨route, isThere⟩ := Option.isSome_iff_exists.mp (resolved entry isEntry)
    dsimp only
    rw [grows.keeps _ _ isThere, isThere]
  refine ⟨reached.resolveEntries more, ?_⟩
  change reached.resolveEntries (reached.table table).entries =
    store.resolveEntries (store.table table).entries ++ _
  rw [entries_eq, resolveEntries_append, same]

end Store

/-- What stands before an entry that stays is left of what stood there. -/
theorem exists_eraseP_eq {α : Type} {isErased : α → Bool} {entry : α}
    (stays : isErased entry = false) (front rest : List α) :
    ∃ front' rest', (front ++ entry :: rest).eraseP isErased = front' ++ entry :: rest' ∧
      front'.Sublist front := by
  rw [List.eraseP_append]
  split
  · exact ⟨_, rest, rfl, List.eraseP_sublist⟩
  · exact ⟨front, _, by rw [List.eraseP_cons_of_neg (by simp [stays])], .refl front⟩

namespace Store

variable {store : Store} {entries : List (String × Handle Route)} {path method winner : String}
  {parameters : Attributes}

/-- The first route that takes a request is an entry whose route is there, behind entries that do
not take it. -/
theorem takenFirst_resolveEntries_iff :
    RouteTable.TakenFirst (store.resolveEntries entries) path method winner parameters ↔
      ∃ front handle route rest, entries = front ++ (winner, handle) :: rest ∧
        store.routes.get? handle = some route ∧
        RouteTable.TakenByNone (store.resolveEntries front) path method ∧
        route.takes path method none = .ok parameters := by
  constructor
  · rintro ⟨front, route, rest, entries_eq, untaken, takes⟩
    obtain ⟨before, behind, rfl, rfl, behind_eq⟩ := List.filterMap_eq_append_iff.mp entries_eq
    obtain ⟨absent, ⟨name, handle⟩, others, rfl, areAbsent, isWinner, -⟩ :=
      List.filterMap_eq_cons_iff.mp behind_eq
    obtain ⟨found, isThere, same⟩ := Option.map_eq_some_iff.mp isWinner
    obtain ⟨rfl, rfl⟩ : name = winner ∧ found = route := by simpa using same
    refine ⟨before ++ absent, handle, found, others, by simp, isThere, ?_, takes⟩
    have absent_eq : store.resolveEntries absent = [] :=
      List.filterMap_eq_nil_iff.mpr areAbsent
    rw [resolveEntries_append, absent_eq, List.append_nil]
    exact untaken
  · rintro ⟨front, handle, route, rest, rfl, isThere, untaken, takes⟩
    refine ⟨_, route, store.resolveEntries rest, ?_, untaken, takes⟩
    rw [resolveEntries_append]
    congr 1
    rw [resolveEntries, List.filterMap_cons]
    simp only [isThere, Option.map_some]
    rfl

theorem takenFirst_without
    (first : RouteTable.TakenFirst (store.resolveEntries entries) path method winner parameters)
    {name : String} (different : name ≠ winner) :
    RouteTable.TakenFirst (store.resolveEntries (Entries.without entries name)) path method winner
      parameters := by
  obtain ⟨front, handle, route, rest, rfl, isThere, untaken, takes⟩ :=
    takenFirst_resolveEntries_iff.mp first
  have stays : (winner == name) = false := by simpa using Ne.symm different
  obtain ⟨front', rest', erased, sublist⟩ :=
    @exists_eraseP_eq _ (fun entry => entry.1 == name) (winner, handle) stays front rest
  apply takenFirst_resolveEntries_iff.mpr
  refine ⟨front', handle, route, rest', erased, isThere, ?_, takes⟩
  intro entry isEntry
  exact untaken entry ((sublist.filterMap _).subset isEntry)

theorem entries_of_removeRoute {table : Handle SharedTable}
    (isIndexed : (store.table table).IsIndexed) (name : String) :
    ((((Session.removeRoute table name).perform store).2).table table).entries =
      Entries.without (store.table table).entries name := by
  rw [Session.perform_removeRoute, ← (isIndexed.remove_eq name).2, Store.table]
  cases isThere : store.tables.get? table with
  | none =>
      rw [Arena.set_of_get?_eq_none isThere, isThere, Store.table, isThere]
      rfl
  | some old => rw [Arena.get?_set_self isThere, Option.getD_some]

/-- What a request finds is told with the name of the route, and other names can be removed. -/
theorem exists_winner {table : Handle SharedTable} (isIndexed : (store.table table).IsIndexed)
    (isOk : store.answerTo table path method = .ok parameters) :
    ∃ winner ∈ (store.table table).names,
      parameters.named? Route.nameKey = some (.text winner) ∧
      ∀ name, name ≠ winner →
        ((Session.removeRoute table name).perform store).2.answerTo table path method =
          .ok parameters := by
  obtain ⟨winner, captured, first, rfl⟩ := RouteTable.run_eq_ok_iff.mp isOk
  obtain ⟨front, handle, route, rest, entries_eq, -⟩ := takenFirst_resolveEntries_iff.mp first
  refine ⟨winner, ?_, Attributes.named?_putName_self .., fun name different => ?_⟩
  · rw [RouteTable.names, entries_eq]
    simp
  · apply RouteTable.run_of_takenFirst
    have stillFirst := takenFirst_without first different
    rw [← entries_of_removeRoute isIndexed] at stillFirst
    exact stillFirst

/-- In a table to which routes are added, by any calls and also where some of them fail, a request
goes on finding what it has found; where it has been told other methods it finds something now, or
it is told these and maybe more.  What it finds has a name in the table, and any other name can be
removed without a change of what it finds. -/
theorem growth_keeps_priority (calls : List Call) (growth : List Growth)
    (table : Handle SharedTable) (path method : String)
    (resolved : ∀ entry ∈ ((Store.empty.after calls).table table).entries,
      ((Store.empty.after calls).routes.get? entry.2).isSome) :
    let store := Store.empty.after calls
    let grown := store.after (growth.map Growth.call)
    (∀ parameters, store.answerTo table path method = .ok parameters →
      grown.answerTo table path method = .ok parameters) ∧
    (∀ allowed, store.answerTo table path method = .error (.otherMethods allowed) →
      (∃ parameters, grown.answerTo table path method = .ok parameters) ∨
        ∃ wider, grown.answerTo table path method = .error (.otherMethods wider) ∧
          allowed.names ⊆ wider.names) ∧
    ∀ parameters, store.answerTo table path method = .ok parameters →
      ∃ winner ∈ (store.table table).names,
        parameters.named? Route.nameKey = some (.text winner) ∧
        ∀ name, name ≠ winner →
          ((Session.removeRoute table name).perform store).2.answerTo table path method =
            .ok parameters := by
  intro store grown
  obtain ⟨more, entries_eq⟩ := (grows_after calls growth).exists_snapshot_eq resolved
  refine ⟨?_, ?_, ?_⟩
  · exact fun parameters isOk => RouteTable.run_eq_ok_of_append entries_eq isOk
  · exact fun allowed refused => RouteTable.run_eq_error_of_append entries_eq refused
  · exact fun parameters isOk => exists_winner (Store.isIndexed_table_after calls table) isOk

/-- A list of items under two names, and a route for new items and one for all other pages that come
later. -/
theorem exists_items : ∃ calls : List Call,
    ((Store.empty.after calls).table ⟨0⟩).names = ["list", "items"] ∧
      ((Store.empty.after calls).table ⟨1⟩).names = ["add"] ∧
      (∀ entry ∈ ((Store.empty.after calls).table ⟨0⟩).entries,
        ((Store.empty.after calls).routes.get? entry.2).isSome) ∧
      (∃ parameters, (Store.empty.after calls).answerTo ⟨0⟩ "/items" "GET" = .ok parameters ∧
        (parameters.named? Route.nameKey).map (·.toText) = some "list") ∧
      (Store.empty.after calls).answerTo ⟨0⟩ "/items" "PUT" =
        .error (.otherMethods ⟨["GET"]⟩) := by
  let calls : List Call := [.make "/items" [] [] (.text "get"),
    .make "/items" [] [] (.text "post"), .make "/{page}" [] [] .null, .create, .create,
    .add ⟨0⟩ "list" ⟨0⟩, .add ⟨0⟩ "items" ⟨0⟩, .add ⟨1⟩ "add" ⟨1⟩]
  have finds : ((Store.empty.after calls).answerTo ⟨0⟩ "/items" "GET").toOption.map
      (fun parameters => (parameters.named? Route.nameKey).map (·.toText)) =
        some (some "list") := by decide +kernel
  have refuses : (match (Store.empty.after calls).answerTo ⟨0⟩ "/items" "PUT" with
      | .ok _ => none
      | .error failure => some failure) = some (.otherMethods ⟨["GET"]⟩) := by decide +kernel
  refine ⟨calls, by decide +kernel, by decide +kernel, by decide +kernel, ?_, ?_⟩
  · revert finds
    cases (Store.empty.after calls).answerTo ⟨0⟩ "/items" "GET" with
    | ok parameters => exact fun named => ⟨parameters, rfl, Option.some.inj named⟩
    | error failure => exact fun isNone => nomatch isNone
  · revert refuses
    cases (Store.empty.after calls).answerTo ⟨0⟩ "/items" "PUT" with
    | ok parameters => exact fun isNone => nomatch isNone
    | error failure => exact fun same => congrArg Except.error (Option.some.inj same)

/-- The list is found as before, also without its other name, and what allowed to get it is told
still, if the other page does not take the request. -/
theorem items_keep_priority : ∃ (calls : List Call) (parameters : Attributes),
    let store := Store.empty.after calls
    let grown := store.after [.merge ⟨0⟩ ⟨1⟩ false, .add ⟨0⟩ "page" ⟨2⟩]
    (∀ entry ∈ (store.table ⟨0⟩).entries, (store.routes.get? entry.2).isSome) ∧
      (store.table ⟨0⟩).names = ["list", "items"] ∧ (store.table ⟨1⟩).names = ["add"] ∧
      store.answerTo ⟨0⟩ "/items" "GET" = .ok parameters ∧
      grown.answerTo ⟨0⟩ "/items" "GET" = .ok parameters ∧
      ((Session.removeRoute ⟨0⟩ "items").perform store).2.answerTo ⟨0⟩ "/items" "GET" =
        .ok parameters ∧
      store.answerTo ⟨0⟩ "/items" "PUT" = .error (.otherMethods ⟨["GET"]⟩) ∧
      ((∃ found, grown.answerTo ⟨0⟩ "/items" "PUT" = .ok found) ∨
        ∃ wider, grown.answerTo ⟨0⟩ "/items" "PUT" = .error (.otherMethods wider) ∧
          "GET" ∈ wider.names) := by
  obtain ⟨calls, names_eq, otherNames_eq, resolved, ⟨parameters, isOk, named⟩, refused⟩ :=
    exists_items
  obtain ⟨finds, -, removes⟩ := growth_keeps_priority calls [.merge ⟨0⟩ ⟨1⟩, .add ⟨0⟩ "page" ⟨2⟩]
    ⟨0⟩ "/items" "GET" resolved
  obtain ⟨-, refuses, -⟩ := growth_keeps_priority calls [.merge ⟨0⟩ ⟨1⟩, .add ⟨0⟩ "page" ⟨2⟩]
    ⟨0⟩ "/items" "PUT" resolved
  refine ⟨calls, parameters, resolved, names_eq, otherNames_eq, isOk, finds parameters isOk, ?_,
    refused, (refuses _ refused).imp_right ?_⟩
  · obtain ⟨winner, -, isWinner, removesOther⟩ := removes parameters isOk
    apply removesOther
    rintro rfl
    rw [isWinner] at named
    exact absurd named (by decide)
  · rintro ⟨wider, isRefused, isWider⟩
    exact ⟨wider, isRefused, isWider List.mem_cons_self⟩

end Store

end UrlRouting
