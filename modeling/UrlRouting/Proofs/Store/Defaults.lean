import UrlRouting.Proofs.Routing.Attributes
import UrlRouting.Proofs.Store.Sweeps
import UrlRouting.Proofs.Template.Extension

/-!
# Routes with more defaults

A route that gets more defaults, by a call for it or by one for all routes of a table, goes on
taking its paths, except for paths that lose their ending (`Store.defaults_keep_paths`).
-/

namespace UrlRouting

/-! ### Names of defaults -/

theorem Entries.has_merge_of_has {κ υ : Type} [BEq κ] {entries : Entries κ υ} {key : κ}
    (isThere : entries.has key = true) (more : Entries κ υ) :
    (entries.merge more).has key = true := by
  induction more generalizing entries with
  | nil => exact isThere
  | cons first rest inductionHypothesis =>
      exact inductionHypothesis (has_put_of_has isThere first.1 first.2)

namespace Attributes

/-- What is put over other attributes keeps its names. -/
theorem hasName_merge (attributes : Attributes) {more : Attributes} {name : String}
    (isThere : more.hasName name = true) :
    Attributes.hasName (attributes.merge more) name = true := by
  induction more generalizing attributes with
  | nil => simp [hasName, Entries.has] at isThere
  | cons first rest inductionHypothesis =>
      rcases first with ⟨key, value⟩
      rw [hasName, Entries.has, List.any_cons, Bool.or_eq_true] at isThere
      rcases isThere with isFirst | inRest
      · rw [Value.beq_text_iff] at isFirst
        subst isFirst
        exact Entries.has_merge_of_has (hasName_putName_self attributes name value) rest
      · exact inductionHypothesis (attributes.put key value) inRest

end Attributes

/-! ### Routes -/

namespace Route

theorem takes_ne_error_path_iff {route : Route} {path method : String}
    {routeName : Option String} :
    route.takes path method routeName ≠ .error .path ↔
      (route.compiled.expression.fullMatch? path).isSome := by
  unfold takes
  cases route.compiled.expression.fullMatch? path with
  | none => simp
  | some captured =>
      dsimp only
      split <;> simp

theorem make_eq_ok {path : String} {defaults : Attributes} {requirements : Requirements}
    {methods : MethodSet} {isNormal : methods.IsNormal} {route : Route}
    (made : make path defaults requirements methods isNormal = .ok route) :
    route.path = path ∧ route.defaults = defaults ∧ route.requirements = requirements := by
  unfold make at made
  split at made
  · cases made
    exact ⟨rfl, rfl, rfl⟩
  · cases made

/-- A route that differs from another one by more defaults, if at all. -/
structure ExtendedTo (route changed : Route) : Prop where
  path : changed.path = route.path
  requirements : changed.requirements = route.requirements
  grows : ∀ name, route.defaults.hasName name = true → changed.defaults.hasName name = true

theorem ExtendedTo.refl (route : Route) : route.ExtendedTo route := ⟨rfl, rfl, fun _ => id⟩

theorem ExtendedTo.trans {first second third : Route} (extended : first.ExtendedTo second)
    (further : second.ExtendedTo third) : first.ExtendedTo third :=
  ⟨further.path.trans extended.path, further.requirements.trans extended.requirements,
    fun name isThere => further.grows name (extended.grows name isThere)⟩

theorem extendedTo_of_setDefaults {route changed : Route} {defaults : Attributes}
    (grows : ∀ name, route.defaults.hasName name = true → defaults.hasName name = true)
    (made : route.setDefaults defaults = .ok changed) : route.ExtendedTo changed := by
  obtain ⟨path_eq, defaults_eq, requirements_eq⟩ := make_eq_ok made
  exact ⟨path_eq, requirements_eq, defaults_eq ▸ grows⟩

/-- The paths that a route takes are taken after a change, unless they lose their ending. -/
def KeepsPaths (route changed : Route) : Prop :=
  ∀ path method routeName, route.takes path method routeName ≠ .error .path →
    changed.takes path method routeName ≠ .error .path ∨
      route.compiled.LosesEnding changed.compiled path

theorem ExtendedTo.keepsPaths {route changed : Route} (extended : route.ExtendedTo changed) :
    route.KeepsPaths changed := by
  have compile_eq := changed.compile_eq
  rw [extended.path, extended.requirements] at compile_eq
  have keeps := CompiledTemplate.keepsPaths_of_compile route.compile_eq compile_eq extended.grows
  intro path method routeName isTaken
  rw [takes_ne_error_path_iff] at isTaken ⊢
  exact keeps path isTaken

end Route

/-! ### Tables -/

/-- A relation that a change keeps to holds between what a sweep finds and what it leaves. -/
theorem Arena.exists_related_of_sweep {α : Type} {change : α → Except Failure α}
    {related : α → α → Prop} (reflexive : ∀ value, related value value)
    (transitive : ∀ first second third, related first second → related second third →
      related first third)
    (step : ∀ value next, change value = .ok next → related value next)
    (entries : List (String × Handle α)) (arena : Arena α) {handle : Handle α} {value : α}
    (isThere : arena.get? handle = some value) :
    ∃ changed, (arena.sweep change entries).2.get? handle = some changed ∧
      related value changed := by
  have ofChanged {front : List (String × Handle α)} {reached : Arena α}
      (areChanged : AreChanged change front arena reached) :
      ∃ changed, reached.get? handle = some changed ∧ related value changed := by
    obtain ⟨changed, isChanged, times⟩ := areChanged handle value isThere
    exact ⟨changed, isChanged, times.related reflexive transitive step⟩
  rcases sweep_cases change entries arena with
    ⟨reached, swept, areChanged⟩ | ⟨_, reached, swept, _, _, _, _, _, _, areChanged, _⟩
  · rw [swept]
    exact ofChanged areChanged
  · rw [swept]
    exact ofChanged areChanged

theorem Session.exists_extendedTo_of_fillDefaults (store : Store) (table : Handle SharedTable)
    (defaults : Attributes) {handle : Handle Route} {route : Route}
    (isThere : store.routes.get? handle = some route) :
    ∃ changed, ((fillDefaults table defaults).perform store).2.routes.get? handle =
      some changed ∧ route.ExtendedTo changed := by
  have performed := perform_sweep table (.fillDefaults defaults) store
  rw [Session.sweep] at performed
  rw [performed, Sweep.changes?]
  by_cases isEmpty : defaults.isEmpty
  · rw [if_pos isEmpty]
    exact ⟨route, isThere, .refl route⟩
  · rw [if_neg isEmpty]
    refine Arena.exists_related_of_sweep Route.ExtendedTo.refl (fun _ _ _ => .trans) ?_ _ _ isThere
    intro value next changes
    exact Route.extendedTo_of_setDefaults (fun name => Attributes.hasName_merge defaults) changes

end UrlRouting
