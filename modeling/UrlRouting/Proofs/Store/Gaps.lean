import UrlRouting.Proofs.Store.Admission
import UrlRouting.Proofs.Value.Maps

/-!
# Gaps that are filled

A call that fills in defaults or requirements for all routes of a table gives each route what it
does not have, and leaves what it has (`Store.fills_gaps`).  A route is met once for each of its
names, but the first time fills all its gaps (`Arena.ChangedTimes.eq_of_settles`).
-/

namespace UrlRouting

/-! ### Changes that settle what they change -/

namespace Arena

variable {α : Type} {change : α → Except Failure α}

/-- Whether a change that has been made has nothing to change any more. -/
def Settles (change : α → Except Failure α) (value : α) : Prop :=
  ∀ changed, change value = .ok changed → change changed = .ok changed

theorem ChangedTimes.eq_of_fixed {times : Nat} {value final : α}
    (changed : ChangedTimes change times value final) (fixed : change value = .ok value) :
    final = value := by
  induction changed with
  | zero value => rfl
  | succ changes _ inductionHypothesis =>
      obtain rfl := Except.ok.inj (changes.symm.trans fixed)
      exact inductionHypothesis fixed

theorem ChangedTimes.eq_of_settles {times : Nat} {value final : α}
    (changed : ChangedTimes change times value final) (isPositive : 0 < times)
    (settles : Settles change value) : change value = .ok final := by
  cases changed with
  | zero => exact absurd isPositive (Nat.lt_irrefl 0)
  | succ changes rest =>
      rw [rest.eq_of_fixed (settles _ changes)]
      exact changes

theorem get?_sweep_of_get?_eq_none (change : α → Except Failure α)
    (entries : List (String × Handle α)) {arena : Arena α} {handle : Handle α}
    (isAbsent : arena.get? handle = none) : (arena.sweep change entries).2.get? handle = none := by
  induction entries generalizing arena with
  | nil => exact isAbsent
  | cons first rest inductionHypothesis =>
      rw [sweep]
      cases isThere : arena.get? first.2 with
      | none =>
          simp only [edit, isThere]
          exact inductionHypothesis isAbsent
      | some value =>
          have different : first.2 ≠ handle := by
            intro same
            rw [same, isAbsent] at isThere
            cases isThere
          cases changes : change value with
          | error failure =>
              simp only [edit, isThere, changes]
              exact isAbsent
          | ok changed =>
              simp only [edit, isThere, changes]
              exact inductionHypothesis ((get?_set_of_ne arena different changed).trans isAbsent)

theorem sweep_eq_self {entries : List (String × Handle α)} {arena : Arena α}
    (fixed : ∀ entry ∈ entries, ∀ value, arena.get? entry.2 = some value →
      change value = .ok value) : arena.sweep change entries = (.ok (), arena) := by
  induction entries with
  | nil => rfl
  | cons first rest inductionHypothesis =>
      rw [List.forall_mem_cons] at fixed
      rw [sweep]
      cases isThere : arena.get? first.2 with
      | none =>
          simp only [edit, isThere]
          exact inductionHypothesis fixed.2
      | some value =>
          simp only [edit, isThere, fixed.1 value isThere, set_eq_self isThere]
          exact inductionHypothesis fixed.2

variable {entries : List (String × Handle α)} {arena reached : Arena α}

theorem areChanged_of_sweep (swept : arena.sweep change entries = (.ok (), reached)) :
    AreChanged change entries arena reached := by
  rcases sweep_cases change entries arena with ⟨reached', swept', areChanged⟩ | ⟨_, _, failed, -⟩
  · rw [swept] at swept'
    cases swept'
    exact areChanged
  · rw [swept] at failed
    cases failed

/-- A sweep that succeeds leaves what it does not meet. -/
theorem get?_of_sweep_of_not_mem (swept : arena.sweep change entries = (.ok (), reached))
    {handle : Handle α} (isOther : handle ∉ entries.map (·.2)) :
    reached.get? handle = arena.get? handle := by
  cases isThere : arena.get? handle with
  | none =>
      have isAbsent := get?_sweep_of_get?_eq_none change entries isThere
      rwa [swept] at isAbsent
  | some value =>
      obtain ⟨changed, isChanged, times⟩ := areChanged_of_sweep swept handle value isThere
      rw [List.count_eq_zero_of_not_mem isOther] at times
      cases times
      exact isChanged

/-- A sweep that succeeds makes each change once if the changes settle, and then there is nothing to
change any more. -/
theorem sweep_settles (swept : arena.sweep change entries = (.ok (), reached))
    (settles : ∀ entry ∈ entries, ∀ value, arena.get? entry.2 = some value →
      Settles change value) :
    (∀ entry ∈ entries, ∀ value, arena.get? entry.2 = some value →
      ∃ changed, reached.get? entry.2 = some changed ∧ change value = .ok changed) ∧
    reached.sweep change entries = (.ok (), reached) := by
  have isChanged : ∀ entry ∈ entries, ∀ value, arena.get? entry.2 = some value →
      ∃ changed, reached.get? entry.2 = some changed ∧ change value = .ok changed := by
    intro entry inEntries value isThere
    obtain ⟨changed, isChanged, times⟩ := areChanged_of_sweep swept entry.2 value isThere
    have isCounted : 0 < (entries.map (·.2)).count entry.2 :=
      List.count_pos_iff.mpr (List.mem_map_of_mem inEntries)
    exact ⟨changed, isChanged,
      times.eq_of_settles isCounted (settles entry inEntries value isThere)⟩
  refine ⟨isChanged, sweep_eq_self fun entry inEntries found isFound => ?_⟩
  cases isThere : arena.get? entry.2 with
  | none =>
      have isAbsent := get?_sweep_of_get?_eq_none change entries isThere
      rw [swept, isFound] at isAbsent
      cases isAbsent
  | some value =>
      obtain ⟨changed, isChanged, changes⟩ := isChanged entry inEntries value isThere
      obtain rfl := Option.some.inj (isChanged.symm.trans isFound)
      exact settles entry inEntries value isThere changed changes

end Arena

/-! ### Routes -/

namespace Route

/-- A route that differs from another one in a map that has been put under its own, if at all. -/
structure IsFilled {υ : Type} (own : Route → Entries Value υ) (filling : Entries Value υ)
    (route changed : Route) : Prop where
  own : ∀ key, key.IsKept →
    (own changed).get? key = ((own route).get? key).or (filling.get? key)
  path : changed.path = route.path
  methods : changed.methods = route.methods
  compile : CompiledTemplate.compile route.path changed.defaults changed.requirements =
    .ok changed.compiled

theorem IsFilled.refl {υ : Type} (own : Route → Entries Value υ) (route : Route) :
    route.IsFilled own [] route :=
  ⟨fun _ _ => Option.or_none.symm, rfl, rfl, route.compile_eq⟩

theorem make_self (route : Route) :
    make route.path route.defaults route.requirements route.methods route.isNormal = .ok route := by
  unfold make
  split
  · next compiled compile_eq =>
      obtain rfl := Except.ok.inj (compile_eq.symm.trans route.compile_eq)
      rfl
  · next fault refused => cases refused.symm.trans route.compile_eq

theorem methods_of_make {path : String} {defaults : Attributes} {requirements : Requirements}
    {methods : MethodSet} {isNormal : methods.IsNormal} {route : Route}
    (made : make path defaults requirements methods isNormal = .ok route) :
    route.methods = methods := by
  unfold make at made
  split at made <;> cases made
  rfl

/-- Whether a setter sets one map of a route and leaves the other one, its path and its methods. -/
structure Sets {υ β : Type} (set : Route → Entries Value υ → Except Failure Route)
    (own : Route → Entries Value υ) (other : Route → β) : Prop where
  sets : ∀ route entries changed, set route entries = .ok changed → own changed = entries ∧
    other changed = other route ∧ changed.path = route.path ∧ changed.methods = route.methods
  self : ∀ route, set route (own route) = .ok route

theorem sets_defaults : Sets setDefaults Route.defaults Route.requirements where
  sets route defaults changed made := by
    obtain ⟨path_eq, defaults_eq, requirements_eq⟩ := make_eq_ok made
    exact ⟨defaults_eq, requirements_eq, path_eq, methods_of_make made⟩
  self := make_self

theorem sets_requirements : Sets setRequirements Route.requirements Route.defaults where
  sets route requirements changed made := by
    obtain ⟨path_eq, defaults_eq, requirements_eq⟩ := make_eq_ok made
    exact ⟨requirements_eq, defaults_eq, path_eq, methods_of_make made⟩
  self := make_self

namespace Sets

variable {υ β : Type} {set : Route → Entries Value υ → Except Failure Route}
  {own : Route → Entries Value υ} {other : Route → β} {filling : Entries Value υ}
  {route changed : Route}

theorem isFilled (sets : Sets set own other) (isMap : (own route).IsMap) (isMap' : filling.IsMap)
    (made : set route (filling.merge (own route)) = .ok changed) :
    route.IsFilled own filling changed ∧ other changed = other route := by
  obtain ⟨own_eq, other_eq, path_eq, methods_eq⟩ := sets.sets route _ changed made
  refine ⟨⟨fun key isKept => ?_, path_eq, methods_eq, path_eq ▸ changed.compile_eq⟩, other_eq⟩
  rw [own_eq, isMap'.get?_merge isMap isKept]

/-- What has been filled in is there when it is filled in once more. -/
theorem settles (sets : Sets set own other) (isMap : (own route).IsMap)
    (isMap' : filling.IsMap) :
    Arena.Settles (fun route => set route (filling.merge (own route))) route := by
  intro changed made
  obtain ⟨own_eq, -⟩ := sets.sets route _ changed made
  have same : filling.merge (own changed) = own changed := by
    rw [own_eq, isMap'.merge_merge isMap]
  dsimp only
  rw [same]
  exact sets.self changed

end Sets

end Route

/-! ### Tables -/

theorem Session.perform_fillRequirements (table : Handle SharedTable)
    (requirements : Requirements) (store : Store) :
    (fillRequirements table requirements).perform store =
      if requirements.isEmpty then (.ok (), store)
      else
        let swept := store.routes.sweep
          (fun route => route.setRequirements (requirements.merge route.requirements))
          (store.table table).entries
        (swept.1, { store with routes := swept.2 }) := by
  unfold fillRequirements
  split
  · rfl
  · rw [perform_bind, perform_get]
    exact perform_editRoutes _ _ store

namespace Store

/-- What a call leaves that changes each route of a table in a way and nothing else, and changes
nothing if it is made again. -/
structure ChangesOnce (store : Store) (table : Handle SharedTable) (call : Session Unit)
    (related : Route → Route → Prop) (after : Store) : Prop where
  onlyRoutes : after = { store with routes := after.routes }
  others : ∀ handle, handle ∉ (store.table table).entries.map (·.2) →
    after.routes.get? handle = store.routes.get? handle
  related : ∀ entry ∈ (store.table table).entries, ∀ route,
    store.routes.get? entry.2 = some route →
      ∃ changed, after.routes.get? entry.2 = some changed ∧ related route changed
  again : call.perform after = (.ok (), after)

variable {store after : Store} {table : Handle SharedTable}

/-- A call that fills in something for all routes, if it succeeds. -/
theorem changesOnce_of_perform {υ β : Type} {call : Session Unit}
    {set : Route → Entries Value υ → Except Failure Route} {own : Route → Entries Value υ}
    {other : Route → β} (sets : Route.Sets set own other) {filling : Entries Value υ}
    (perform_eq : ∀ store, call.perform store =
      if filling.isEmpty then (.ok (), store)
      else
        let swept := store.routes.sweep (fun route => set route (filling.merge (own route)))
          (store.table table).entries
        (swept.1, { store with routes := swept.2 }))
    (areMaps : ∀ entry ∈ (store.table table).entries, ∀ route,
      store.routes.get? entry.2 = some route → (own route).IsMap)
    (isMap : filling.IsMap) (performed : call.perform store = (.ok (), after)) :
    store.ChangesOnce table call
      (fun route changed => route.IsFilled own filling changed ∧ other changed = other route)
      after := by
  rw [perform_eq] at performed
  split at performed
  · next noneFilled =>
      cases performed
      refine ⟨rfl, fun _ _ => rfl, fun entry _ route isThere => ⟨route, isThere, ?_, rfl⟩, ?_⟩
      · rw [List.isEmpty_iff.mp noneFilled]
        exact .refl own route
      · rw [perform_eq, if_pos noneFilled]
  · next someFilled =>
      obtain ⟨isOk, rfl⟩ := Prod.mk.inj performed
      have swept : store.routes.sweep (fun route => set route (filling.merge (own route)))
          (store.table table).entries = (.ok (), _) := Prod.ext isOk rfl
      obtain ⟨areChanged, again⟩ := Arena.sweep_settles swept fun entry inEntries route isThere =>
        sets.settles (areMaps entry inEntries route isThere) isMap
      refine ⟨rfl, fun _ isOther => Arena.get?_of_sweep_of_not_mem swept isOther,
        fun entry inEntries route isThere => ?_, ?_⟩
      · obtain ⟨changed, isChanged, changes⟩ := areChanged entry inEntries route isThere
        exact ⟨changed, isChanged,
          sets.isFilled (areMaps entry inEntries route isThere) isMap changes⟩
      · rw [perform_eq, if_neg someFilled]
        exact congrArg (fun swept => (swept.1, { store with routes := swept.2 })) again

/-- Routes of a table that are given defaults, or requirements, keep those that they have under a
key and get the others.  Nothing else is changed, and nothing at all when the same call is made
again. -/
theorem fills_gaps (store after : Store) (table : Handle SharedTable)
    (areMaps : ∀ entry ∈ (store.table table).entries, ∀ route,
      store.routes.get? entry.2 = some route →
        route.defaults.IsMap ∧ route.requirements.IsMap) :
    (∀ defaults : Attributes, defaults.IsMap →
      (Session.fillDefaults table defaults).perform store = (.ok (), after) →
      store.ChangesOnce table (Session.fillDefaults table defaults)
        (fun route changed => route.IsFilled Route.defaults defaults changed ∧
          changed.requirements = route.requirements) after) ∧
    ∀ requirements : Requirements, requirements.IsMap →
      (Session.fillRequirements table requirements).perform store = (.ok (), after) →
      store.ChangesOnce table (Session.fillRequirements table requirements)
        (fun route changed => route.IsFilled Route.requirements requirements changed ∧
          changed.defaults = route.defaults) after := by
  constructor
  · intro defaults isMap performed
    apply changesOnce_of_perform Route.sets_defaults
      (Session.perform_fillDefaults table defaults) _ isMap performed
    exact fun entry inEntries route isThere => (areMaps entry inEntries route isThere).1
  · intro requirements isMap performed
    apply changesOnce_of_perform Route.sets_requirements
      (Session.perform_fillRequirements table requirements) _ isMap performed
    exact fun entry inEntries route isThere => (areMaps entry inEntries route isThere).2

/-- A table with a route under two names.  The route has nothing as a default, and a requirement
for its other variable can be given to it. -/
theorem exists_shared_pair : ∃ (store : Store) (route : Route) (left : Store),
    (store.table ⟨0⟩).entries = [("pair", ⟨0⟩), ("both", ⟨0⟩)] ∧
      store.routes.get? ⟨0⟩ = some route ∧ route.defaults = [(.text "a", .null)] ∧
      route.requirements = [] ∧
      (Session.fillRequirements ⟨0⟩ [(.text "b", "x+")]).perform store = (.ok (), left) := by
  obtain ⟨route, isBuilt⟩ := Declaration.exists_build
    ⟨"/{a}/{b}", [(.text "a", .null)], [], []⟩ (by decide +kernel)
  obtain ⟨demanded, isDemanded⟩ := Declaration.exists_build
    ⟨"/{a}/{b}", [(.text "a", .null)], [(.text "b", "x+")], []⟩ (by decide +kernel)
  obtain ⟨-, defaults_eq, requirements_eq, -⟩ := Declaration.build_eq_ok_iff.mp isBuilt
  let store : Store := ⟨⟨#[route]⟩, ⟨#[.ofEntries [("pair", ⟨0⟩), ("both", ⟨0⟩)]]⟩, .empty, .empty,
    .empty, []⟩
  have changes : route.setRequirements (Entries.merge [(.text "b", "x+")] route.requirements) =
      .ok demanded := by
    rw [requirements_eq, ← Route.Change.on_setRequirements, Declaration.on_eq_attempt isBuilt,
      Declaration.map_attempt]
    exact isDemanded
  have isMap : Entries.IsMap [(Value.text "b", "x+")] :=
    ⟨by simp [Value.IsKept], List.nodup_singleton _⟩
  have isMapOwn : route.requirements.IsMap := by
    rw [requirements_eq]
    exact ⟨by simp, .nil⟩
  have again : demanded.setRequirements
      (Entries.merge [(.text "b", "x+")] demanded.requirements) = .ok demanded :=
    Route.sets_requirements.settles isMapOwn isMap demanded changes
  have swept : store.routes.sweep
      (fun route => route.setRequirements (Entries.merge [(.text "b", "x+")] route.requirements))
      [("pair", ⟨0⟩), ("both", ⟨0⟩)] = (.ok (), ⟨#[demanded]⟩) := by
    have isThere : store.routes.get? ⟨0⟩ = some route := rfl
    have isChanged : (store.routes.set ⟨0⟩ demanded).get? ⟨0⟩ = some demanded := rfl
    simp only [Arena.sweep, Arena.edit, isThere, changes, isChanged, again]
    rfl
  refine ⟨store, route, { store with routes := ⟨#[demanded]⟩ }, rfl, rfl, defaults_eq,
    requirements_eq, ?_⟩
  rw [Session.perform_fillRequirements, if_neg (by simp)]
  exact congrArg (fun swept => (swept.1, { store with routes := swept.2 })) swept

/-- A route under two names keeps a default that is nothing and gets one for its other variable, and
in the same way it gets a requirement. -/
theorem shared_pair_filled : ∃ (store withDefaults withRequirements : Store)
    (route filled demanded : Route),
    (store.table ⟨0⟩).entries = [("pair", ⟨0⟩), ("both", ⟨0⟩)] ∧
      store.routes.get? ⟨0⟩ = some route ∧ route.defaults = [(.text "a", .null)] ∧
      (Session.fillDefaults ⟨0⟩ [(.text "a", .int 1), (.text "b", .int 2)]).perform store =
        (.ok (), withDefaults) ∧
      withDefaults.routes.get? ⟨0⟩ = some filled ∧
      filled.defaults.named? "a" = some .null ∧ filled.defaults.named? "b" = some (.int 2) ∧
      (Session.fillRequirements ⟨0⟩ [(.text "b", "x+")]).perform store =
        (.ok (), withRequirements) ∧
      withRequirements.routes.get? ⟨0⟩ = some demanded ∧
      demanded.requirements.get? (.text "b") = some "x+" ∧ demanded.defaults = route.defaults := by
  obtain ⟨store, route, withRequirements, entries_eq, isThere, defaults_eq, requirements_eq,
    demands⟩ := exists_shared_pair
  obtain ⟨withDefaults, fills⟩ :=
    Session.exists_perform_fillDefaults store ⟨0⟩ [(.text "a", .int 1), (.text "b", .int 2)]
  have areMaps : ∀ entry ∈ (store.table ⟨0⟩).entries, ∀ found,
      store.routes.get? entry.2 = some found →
        found.defaults.IsMap ∧ found.requirements.IsMap := by
    intro entry inEntries found isFound
    have isShared : entry.2 = ⟨0⟩ := by
      rw [entries_eq] at inEntries
      rcases List.mem_pair.mp inEntries with rfl | rfl <;> rfl
    rw [isShared, isThere] at isFound
    obtain rfl := Option.some.inj isFound
    rw [defaults_eq, requirements_eq]
    exact ⟨⟨by simp [Value.IsKept], List.nodup_singleton _⟩, ⟨by simp, .nil⟩⟩
  have isFirst : ("pair", ⟨0⟩) ∈ (store.table ⟨0⟩).entries := by
    rw [entries_eq]
    exact List.mem_cons_self
  have filling : Entries.IsMap [(Value.text "a", Value.int 1), (.text "b", .int 2)] :=
    ⟨by simp [Value.IsKept], by simp [Entries.keys, Value.key]⟩
  obtain ⟨filled, isFilled, own, -⟩ := ((fills_gaps store withDefaults ⟨0⟩ areMaps).1 _ filling
    fills).related _ isFirst route isThere
  obtain ⟨demanded, isDemanded, ownDemands, same⟩ := ((fills_gaps store withRequirements ⟨0⟩
    areMaps).2 [(.text "b", "x+")] ⟨by simp [Value.IsKept], List.nodup_singleton _⟩
    demands).related _ isFirst route isThere
  refine ⟨store, withDefaults, withRequirements, route, filled, demanded, entries_eq, isThere,
    defaults_eq, fills, isFilled, ?_, ?_, demands, isDemanded, ?_, same⟩
  · rw [Attributes.named?, own.own (.text "a") trivial, defaults_eq]
    rfl
  · rw [Attributes.named?, own.own (.text "b") trivial, defaults_eq]
    rfl
  · rw [ownDemands.own (.text "b") trivial, requirements_eq]
    rfl

end Store

end UrlRouting
