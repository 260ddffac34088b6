import UrlRouting.Proofs.Store.Changes

/-!
# Calls for all routes of a table

Such a call changes one route after another and stops at the first whose change fails
(`Store.sweep_stops_at_failure`).  The routes before that one stay changed
(`Store.prefixPaths_not_atomic`).
-/

namespace UrlRouting

namespace Arena

variable {α : Type}

/-- What something becomes by a change that succeeds a number of times. -/
inductive ChangedTimes (change : α → Except Failure α) : Nat → α → α → Prop
  | zero (value : α) : ChangedTimes change 0 value value
  | succ {times : Nat} {value next final : α} (changes : change value = .ok next)
      (rest : ChangedTimes change times next final) : ChangedTimes change (times + 1) value final

/-- A relation that a change keeps to is kept to by any number of changes. -/
theorem ChangedTimes.related {change : α → Except Failure α} {related : α → α → Prop}
    (reflexive : ∀ value, related value value)
    (transitive : ∀ first second third, related first second → related second third →
      related first third)
    (step : ∀ value next, change value = .ok next → related value next)
    {times : Nat} {value final : α} (changed : ChangedTimes change times value final) :
    related value final := by
  induction changed with
  | zero value => exact reflexive value
  | succ changes rest inductionHypothesis =>
      exact transitive _ _ _ (step _ _ changes) inductionHypothesis

/-- Each thing has been changed once for each entry that refers to it. -/
def AreChanged (change : α → Except Failure α) (entries : List (String × Handle α))
    (before after : Arena α) : Prop :=
  ∀ handle value, before.get? handle = some value →
    ∃ changed, after.get? handle = some changed ∧
      ChangedTimes change ((entries.map (·.2)).count handle) value changed

theorem AreChanged.nil (change : α → Except Failure α) (arena : Arena α) :
    AreChanged change [] arena arena :=
  fun _ value isThere => ⟨value, isThere, .zero value⟩

theorem AreChanged.cons {change : α → Except Failure α} {entries : List (String × Handle α)}
    {before after : Arena α} {handle : Handle α} {value changed : α}
    (isThere : before.get? handle = some value) (changes : change value = .ok changed)
    (rest : AreChanged change entries (before.set handle changed) after) (name : String) :
    AreChanged change ((name, handle) :: entries) before after := by
  intro other found isFound
  rw [List.map_cons]
  by_cases isHandle : handle = other
  · subst isHandle
    obtain rfl : value = found := Option.some.inj (isThere.symm.trans isFound)
    obtain ⟨final, isFinal, changedRest⟩ := rest handle changed (get?_set_self isThere changed)
    rw [List.count_cons_self]
    exact ⟨final, isFinal, .succ changes changedRest⟩
  · rw [List.count_cons_of_ne isHandle]
    exact rest other found ((get?_set_of_ne before isHandle changed).trans isFound)

theorem AreChanged.cons_of_get?_eq_none {change : α → Except Failure α}
    {entries : List (String × Handle α)} {before after : Arena α} {handle : Handle α}
    (isAbsent : before.get? handle = none) (rest : AreChanged change entries before after)
    (name : String) : AreChanged change ((name, handle) :: entries) before after := by
  intro other found isFound
  have different : handle ≠ other := by
    rintro rfl
    cases isAbsent.symm.trans isFound
  rw [List.map_cons, List.count_cons_of_ne different]
  exact rest other found isFound

/-- The entries before one of them have been changed, and there the change fails. -/
def StopsAt (change : α → Except Failure α) (entries : List (String × Handle α))
    (failure : Failure) (before after : Arena α) : Prop :=
  ∃ front name handle behind value, entries = front ++ (name, handle) :: behind ∧
    AreChanged change front before after ∧ after.get? handle = some value ∧
    change value = .error failure

theorem StopsAt.cons {change : α → Except Failure α} {entries : List (String × Handle α)}
    {failure : Failure} {first before after : Arena α} {entry : String × Handle α}
    (stops : StopsAt change entries failure before after)
    (areChanged : ∀ {front : List (String × Handle α)}, AreChanged change front before after →
      AreChanged change (entry :: front) first after) :
    StopsAt change (entry :: entries) failure first after := by
  obtain ⟨front, name, handle, behind, value, entries_eq, frontChanged, isThere, fails⟩ := stops
  exact ⟨entry :: front, name, handle, behind, value, congrArg (entry :: ·) entries_eq,
    areChanged frontChanged, isThere, fails⟩

/-- A sweep changes everything, or it stops where a change fails. -/
theorem sweep_cases (change : α → Except Failure α) (entries : List (String × Handle α))
    (arena : Arena α) :
    (∃ reached, arena.sweep change entries = (.ok (), reached) ∧
      AreChanged change entries arena reached) ∨
    ∃ failure reached, arena.sweep change entries = (.error failure, reached) ∧
      StopsAt change entries failure arena reached := by
  induction entries generalizing arena with
  | nil => exact .inl ⟨arena, rfl, .nil change arena⟩
  | cons first rest inductionHypothesis =>
      rcases first with ⟨name, handle⟩
      rw [sweep]
      cases isThere : arena.get? handle with
      | none =>
          simp only [edit, isThere]
          rcases inductionHypothesis arena with
            ⟨reached, swept, areChanged⟩ | ⟨failure, reached, swept, stops⟩
          · exact .inl ⟨reached, swept, areChanged.cons_of_get?_eq_none isThere name⟩
          · exact .inr ⟨failure, reached, swept,
              stops.cons fun areChanged => areChanged.cons_of_get?_eq_none isThere name⟩
      | some value =>
          cases changes : change value with
          | error failure =>
              simp only [edit, isThere, changes]
              exact .inr ⟨failure, arena, rfl, [], name, handle, rest, value, rfl,
                .nil change arena, isThere, changes⟩
          | ok changed =>
              simp only [edit, isThere, changes]
              rcases inductionHypothesis (arena.set handle changed) with
                ⟨reached, swept, areChanged⟩ | ⟨failure, reached, swept, stops⟩
              · exact .inl ⟨reached, swept, .cons isThere changes areChanged name⟩
              · exact .inr ⟨failure, reached, swept,
                  stops.cons fun areChanged => .cons isThere changes areChanged name⟩

end Arena

/-- A call for all routes of a table changes each of them once for each of its names.  If a change
fails, the routes under the names before are changed, and those behind are not. -/
theorem Store.sweep_stops_at_failure (store : Store) (handle : Handle SharedTable)
    (sweep : Sweep) :
    match sweep.changes? with
    | .error failure => (Session.sweep handle sweep).perform store = (.error failure, store)
    | .ok none => (Session.sweep handle sweep).perform store = (.ok (), store)
    | .ok (some change) =>
        let changed := fun route => (change route).on route
        (∃ routes,
          (Session.sweep handle sweep).perform store = (.ok (), { store with routes := routes }) ∧
          Arena.AreChanged changed (store.table handle).entries store.routes routes) ∨
        ∃ before name failing behind failure routes route,
          (store.table handle).entries = before ++ (name, failing) :: behind ∧
          (Session.sweep handle sweep).perform store =
            (.error failure, { store with routes := routes }) ∧
          Arena.AreChanged changed before store.routes routes ∧
          routes.get? failing = some route ∧ changed route = .error failure := by
  have performed := Session.perform_sweep handle sweep store
  rcases changes : sweep.changes? with failure | _ | change
  · rw [changes] at performed
    exact performed
  · rw [changes] at performed
    exact performed
  · rw [changes] at performed
    dsimp only at performed ⊢
    rcases Arena.sweep_cases (fun route => (change route).on route) (store.table handle).entries
      store.routes with
      ⟨reached, swept, areChanged⟩ |
      ⟨failure, reached, swept, before, name, failing, behind, route, entries_eq, areChanged,
        isFailing, fails⟩
    · rw [swept] at performed
      exact .inl ⟨reached, performed, areChanged⟩
    · rw [swept] at performed
      exact .inr ⟨before, name, failing, behind, failure, reached, route, entries_eq, performed,
        areChanged, isFailing, fails⟩

/-- Of two routes the second has a variable that the path to put in front has too.  The call fails
there and leaves the first route changed. -/
theorem Store.prefixPaths_not_atomic : ∃ (store : Store) (failure : Failure) (left : Store),
    (store.table ⟨0⟩).entries = [("a", ⟨0⟩), ("b", ⟨1⟩)] ∧
      (Session.prefixPaths ⟨0⟩ "/\x7bx\x7d").perform store = (.error failure, left) ∧
      failure.kind.isA .configuration = true ∧
      (store.routes.get? ⟨0⟩).map (·.path) = some "/a" ∧
      (left.routes.get? ⟨0⟩).map (·.path) = some "/\x7bx\x7d/a" ∧
      (left.routes.get? ⟨1⟩).map (·.path) = some "/\x7bx\x7d" := by
  obtain ⟨first, isFirst⟩ := Declaration.exists_build ⟨"/a", [], [], []⟩ (by decide +kernel)
  obtain ⟨second, isSecond⟩ := Declaration.exists_build ⟨"/\x7bx\x7d", [], [], []⟩
    (by decide +kernel)
  obtain ⟨moved, isMoved⟩ := Declaration.exists_build ⟨"/\x7bx\x7d/a", [], [], []⟩
    (by decide +kernel)
  have refused : CompiledTemplate.compile "/\x7bx\x7d/\x7bx\x7d" [] [] =
      .error (.malformed (.repeatedVariable "/\x7bx\x7d/\x7bx\x7d" "x")) := by decide +kernel
  have firstPath : first.path = "/a" := (Declaration.build_eq_ok_iff.mp isFirst).1
  have secondPath : second.path = "/\x7bx\x7d" := (Declaration.build_eq_ok_iff.mp isSecond).1
  have moves : (Route.Change.setPath ("/\x7bx\x7d" ++ first.path)).on first = .ok moved := by
    rw [Declaration.on_eq_attempt isFirst, Declaration.map_attempt, firstPath]
    exact isMoved
  have fails : (Route.Change.setPath ("/\x7bx\x7d" ++ second.path)).on second =
      .error (.compile (.malformed (.repeatedVariable "/\x7bx\x7d/\x7bx\x7d" "x"))) := by
    rw [Declaration.on_eq_attempt isSecond, Declaration.map_attempt, secondPath]
    exact Declaration.build_of_compile_error refused
  have swept : (⟨#[first, second]⟩ : Arena Route).sweep
      (fun route => (Route.Change.setPath ("/\x7bx\x7d" ++ route.path)).on route)
      [("a", ⟨0⟩), ("b", ⟨1⟩)] =
        (.error (.compile (.malformed (.repeatedVariable "/\x7bx\x7d/\x7bx\x7d" "x"))),
          ⟨#[moved, second]⟩) := by
    have firstThere : (⟨#[first, second]⟩ : Arena Route).get? ⟨0⟩ = some first := rfl
    have secondThere : ((⟨#[first, second]⟩ : Arena Route).set ⟨0⟩ moved).get? ⟨1⟩ =
        some second := rfl
    simp only [Arena.sweep, Arena.edit, firstThere, secondThere, moves, fails]
    rfl
  have changes : (Sweep.prefixPaths "/\x7bx\x7d").changes? =
      .ok (some fun route => .setPath ("/\x7bx\x7d" ++ route.path)) := by
    have kept : Generation.stripSlashes "/\x7bx\x7d" = "/\x7bx\x7d" := by decide +kernel
    rw [Sweep.changes?, kept]
    rfl
  obtain ⟨store, routes_eq, entries_eq⟩ : ∃ store : Store, store.routes = ⟨#[first, second]⟩ ∧
      (store.table ⟨0⟩).entries = [("a", ⟨0⟩), ("b", ⟨1⟩)] :=
    ⟨⟨⟨#[first, second]⟩, ⟨#[.ofEntries [("a", ⟨0⟩), ("b", ⟨1⟩)]]⟩, .empty, .empty, .empty, []⟩,
      rfl, rfl⟩
  refine ⟨store, .compile (.malformed (.repeatedVariable "/\x7bx\x7d/\x7bx\x7d" "x")),
    { store with routes := ⟨#[moved, second]⟩ }, entries_eq, ?_, rfl, ?_,
    congrArg some (Declaration.build_eq_ok_iff.mp isMoved).1, congrArg some secondPath⟩
  · rw [← Session.sweep, Session.perform_sweep, changes]
    dsimp only
    rw [entries_eq, routes_eq, swept]
  · rw [routes_eq]
    exact congrArg some firstPath

end UrlRouting
