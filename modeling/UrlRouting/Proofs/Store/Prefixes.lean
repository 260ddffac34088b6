import UrlRouting.Proofs.Store.Sweeps

/-!
# Paths in front of the routes of a table

A path that is put in front of all routes of a table is put in front of a shared route once for each
of its names in the table (`Store.prefixPaths_counts_names`), so that a route with two names gets it
twice (`Store.prefixPaths_twice`).
-/

namespace UrlRouting

/-! ### Repeated paths -/

theorem length_join_replicate (times : Nat) (front : String) :
    (String.join (List.replicate times front)).length = times * front.length := by
  rw [String.length_join, List.map_replicate, List.sum_replicate, smul_eq_mul]

theorem join_replicate_empty (times : Nat) : String.join (List.replicate times "") = "" := by
  apply String.length_eq_zero_iff.mp
  rw [length_join_replicate, String.length_empty, Nat.mul_zero]

/-- Only once, or with nothing to put in front, is a path put in front just one time. -/
theorem join_replicate_append_eq_iff (times : Nat) (front path : String) :
    String.join (List.replicate times front) ++ path = front ++ path ↔
      times = 1 ∨ front = "" := by
  constructor
  · intro same
    have lengths := congrArg String.length same
    rw [String.length_append, String.length_append, length_join_replicate,
      Nat.add_right_cancel_iff] at lengths
    rcases Nat.eq_zero_or_pos front.length with isZero | isPositive
    · exact .inr (String.length_eq_zero_iff.mp isZero)
    · refine .inl (Nat.eq_of_mul_eq_mul_right isPositive ?_)
      rw [lengths, Nat.one_mul]
  · rintro (rfl | rfl)
    · simp
    · rw [join_replicate_empty]

/-! ### Routes -/

namespace Route

/-- A route that differs from another one by a path in front of its own, a number of times. -/
structure PrefixedTo (route : Route) (front : String) (times : Nat) (changed : Route) : Prop where
  path : changed.path = String.join (List.replicate times front) ++ route.path
  defaults : changed.defaults = route.defaults
  requirements : changed.requirements = route.requirements
  methods : changed.methods = route.methods

theorem prefixedTo_of_setPath {route next : Route} {front : String}
    (made : route.setPath (front ++ route.path) = .ok next) : route.PrefixedTo front 1 next := by
  unfold setPath make at made
  split at made
  · cases made
    refine ⟨?_, rfl, rfl, rfl⟩
    simp
  · cases made

theorem PrefixedTo.trans {first second third : Route} {front : String} {times more : Nat}
    (moved : first.PrefixedTo front times second) (further : second.PrefixedTo front more third) :
    first.PrefixedTo front (times + more) third := by
  refine ⟨?_, further.defaults.trans moved.defaults, further.requirements.trans moved.requirements,
    further.methods.trans moved.methods⟩
  rw [further.path, moved.path, Nat.add_comm, List.replicate_add, String.join_append,
    String.append_assoc]

/-- A shared route is changed again where it is met again. -/
theorem prefixedTo_of_changedTimes {front : String} {times : Nat} {route changed : Route}
    (changes : Arena.ChangedTimes (fun route => route.setPath (front ++ route.path)) times route
      changed) : route.PrefixedTo front times changed := by
  induction changes with
  | zero value => exact ⟨by simp, rfl, rfl, rfl⟩
  | @succ times value next final made _ inductionHypothesis =>
      rw [Nat.add_comm]
      exact (prefixedTo_of_setPath made).trans inductionHypothesis

end Route

/-! ### Tables -/

namespace Session

/-- What the call does if there is something to put in front. -/
theorem perform_prefixPaths {front : String} (isThere : Generation.stripSlashes front ≠ "")
    (table : Handle SharedTable) (store : Store) :
    (prefixPaths table front).perform store =
      let swept := store.routes.sweep
        (fun route => route.setPath (Generation.stripSlashes front ++ route.path))
        (store.table table).entries
      (swept.1, { store with routes := swept.2 }) := by
  have notEmpty : ¬ (Generation.stripSlashes front).isEmpty := by
    rwa [String.isEmpty_iff]
  rw [prefixPaths, if_neg notEmpty, perform_bind, perform_get]
  exact perform_editRoutes _ _ store

theorem perform_prefixPaths_of_eq_empty {front : String}
    (isEmpty : Generation.stripSlashes front = "") (table : Handle SharedTable) (store : Store) :
    (prefixPaths table front).perform store = (.ok (), store) := by
  rw [prefixPaths, if_pos (String.isEmpty_iff.mpr isEmpty), perform_pure]

/-- A call that succeeds changes routes only, each as often as it has names in the table. -/
theorem prefixedTo_of_perform {store after : Store} {table : Handle SharedTable} {front : String}
    (performed : (prefixPaths table front).perform store = (.ok (), after)) :
    after = { store with routes := after.routes } ∧
      ∀ handle route, store.routes.get? handle = some route →
        ∃ changed, after.routes.get? handle = some changed ∧
          route.PrefixedTo (Generation.stripSlashes front)
            (((store.table table).entries.map (·.2)).count handle) changed := by
  by_cases isEmpty : Generation.stripSlashes front = ""
  · rw [perform_prefixPaths_of_eq_empty isEmpty] at performed
    cases performed
    refine ⟨rfl, fun handle route isThere => ⟨route, isThere, ?_, rfl, rfl, rfl⟩⟩
    rw [isEmpty, join_replicate_empty, String.empty_append]
  · rw [perform_prefixPaths isEmpty] at performed
    rcases Arena.sweep_cases
      (fun route => route.setPath (Generation.stripSlashes front ++ route.path))
      (store.table table).entries store.routes with
      ⟨reached, swept, areChanged⟩ | ⟨failure, reached, swept, -⟩
    · rw [swept] at performed
      cases performed
      refine ⟨rfl, fun handle route isThere => ?_⟩
      obtain ⟨changed, isChanged, changes⟩ := areChanged handle route isThere
      exact ⟨changed, isChanged, Route.prefixedTo_of_changedTimes changes⟩
    · rw [swept] at performed
      cases performed

end Session

/-- A call that puts a path in front of all routes of a table, if it succeeds, puts it in front of
each route once for each name of the route and changes nothing else.  So the new path is the given
one with the old one behind it just where the route has one name, or nothing is put in front. -/
theorem Store.prefixPaths_counts_names (store after : Store) (table : Handle SharedTable)
    (front : String)
    (performed : (Session.prefixPaths table front).perform store = (.ok (), after)) :
    after = { store with routes := after.routes } ∧
    ∀ handle route, store.routes.get? handle = some route →
      ∃ changed, after.routes.get? handle = some changed ∧
        route.PrefixedTo (Generation.stripSlashes front)
          (((store.table table).entries.map (·.2)).count handle) changed ∧
        (changed.path = Generation.stripSlashes front ++ route.path ↔
          ((store.table table).entries.map (·.2)).count handle = 1 ∨
            Generation.stripSlashes front = "") := by
  obtain ⟨onlyRoutes, areMoved⟩ := Session.prefixedTo_of_perform performed
  refine ⟨onlyRoutes, fun handle route isThere => ?_⟩
  obtain ⟨changed, isChanged, moved⟩ := areMoved handle route isThere
  refine ⟨changed, isChanged, moved, ?_⟩
  rw [moved.path]
  exact join_replicate_append_eq_iff ..

/-- A table with one route under two names, before and after a path is put in front of it. -/
theorem Store.exists_shared_route : ∃ (store after : Store) (route changed : Route),
    (store.table ⟨0⟩).entries = [("a", ⟨0⟩), ("b", ⟨0⟩)] ∧
      store.routes.get? ⟨0⟩ = some route ∧ route.path = "/users" ∧
      (Session.prefixPaths ⟨0⟩ "/admin/").perform store = (.ok (), after) ∧
      after.routes.get? ⟨0⟩ = some changed ∧ changed.path = "/admin/admin/users" := by
  obtain ⟨route, isRoute⟩ := Declaration.exists_build ⟨"/users", [], [], []⟩ (by decide +kernel)
  obtain ⟨once, isOnce⟩ := Declaration.exists_build ⟨"/admin/users", [], [], []⟩ (by decide +kernel)
  obtain ⟨twice, isTwice⟩ := Declaration.exists_build ⟨"/admin/admin/users", [], [], []⟩
    (by decide +kernel)
  have routePath : route.path = "/users" := (Declaration.build_eq_ok_iff.mp isRoute).1
  have oncePath : once.path = "/admin/users" := (Declaration.build_eq_ok_iff.mp isOnce).1
  have twicePath : twice.path = "/admin/admin/users" := (Declaration.build_eq_ok_iff.mp isTwice).1
  have moves : route.setPath ("/admin" ++ route.path) = .ok once := by
    rw [← Route.Change.on_setPath, Declaration.on_eq_attempt isRoute, Declaration.map_attempt,
      routePath]
    exact isOnce
  have movesAgain : once.setPath ("/admin" ++ once.path) = .ok twice := by
    rw [← Route.Change.on_setPath, Declaration.on_eq_attempt isOnce, Declaration.map_attempt,
      oncePath]
    exact isTwice
  have stripped : Generation.stripSlashes "/admin/" = "/admin" := by decide +kernel
  have swept : (⟨#[route]⟩ : Arena Route).sweep
      (fun route => route.setPath ("/admin" ++ route.path)) [("a", ⟨0⟩), ("b", ⟨0⟩)] =
        (.ok (), ⟨#[twice]⟩) := by
    have isFirst : (⟨#[route]⟩ : Arena Route).get? ⟨0⟩ = some route := rfl
    have isSecond : ((⟨#[route]⟩ : Arena Route).set ⟨0⟩ once).get? ⟨0⟩ = some once := rfl
    simp only [Arena.sweep, Arena.edit, isFirst, isSecond, moves, movesAgain]
    rfl
  obtain ⟨store, routes_eq, entries_eq⟩ : ∃ store : Store, store.routes = ⟨#[route]⟩ ∧
      (store.table ⟨0⟩).entries = [("a", ⟨0⟩), ("b", ⟨0⟩)] :=
    ⟨⟨⟨#[route]⟩, ⟨#[.ofEntries [("a", ⟨0⟩), ("b", ⟨0⟩)]]⟩, .empty, .empty, .empty, []⟩, rfl, rfl⟩
  refine ⟨store, { store with routes := ⟨#[twice]⟩ }, route, twice, entries_eq, ?_, routePath, ?_,
    rfl, twicePath⟩
  · rw [routes_eq]
    rfl
  · rw [Session.perform_prefixPaths (by rw [stripped]; decide), stripped, entries_eq, routes_eq,
      swept]

/-- Both names of a route count. -/
theorem Store.admin_counts_names : ∃ (store after : Store) (route : Route),
    (store.table ⟨0⟩).entries = [("a", ⟨0⟩), ("b", ⟨0⟩)] ∧
      store.routes.get? ⟨0⟩ = some route ∧ route.path = "/users" ∧
      (Session.prefixPaths ⟨0⟩ "/admin/").perform store = (.ok (), after) ∧
      ∃ changed, after.routes.get? ⟨0⟩ = some changed ∧ route.PrefixedTo "/admin" 2 changed := by
  obtain ⟨store, after, route, _, entries_eq, isThere, path_eq, performed, -⟩ :=
    Store.exists_shared_route
  obtain ⟨-, areMoved⟩ := Store.prefixPaths_counts_names store after ⟨0⟩ "/admin/" performed
  obtain ⟨changed, isChanged, moved, -⟩ := areMoved ⟨0⟩ route isThere
  have stripped : Generation.stripSlashes "/admin/" = "/admin" := by decide +kernel
  rw [entries_eq, stripped] at moved
  exact ⟨store, after, route, entries_eq, isThere, path_eq, performed, changed, isChanged, moved⟩

/-- The path of a route with two names is not the given one with the old one behind it. -/
theorem Store.prefixPaths_twice : ∃ (store after : Store) (route changed : Route),
    (store.table ⟨0⟩).entries = [("a", ⟨0⟩), ("b", ⟨0⟩)] ∧
      store.routes.get? ⟨0⟩ = some route ∧
      (Session.prefixPaths ⟨0⟩ "/admin/").perform store = (.ok (), after) ∧
      after.routes.get? ⟨0⟩ = some changed ∧
      changed.path ≠ Generation.stripSlashes "/admin/" ++ route.path := by
  obtain ⟨store, after, route, changed, entries_eq, isThere, path_eq, performed, isChanged,
    changedPath⟩ := Store.exists_shared_route
  refine ⟨store, after, route, changed, entries_eq, isThere, performed, isChanged, ?_⟩
  rw [changedPath, path_eq]
  decide +kernel

end UrlRouting
