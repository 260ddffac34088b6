import UrlRouting.Proofs.Store.Prefixes
import UrlRouting.Proofs.Template.Fronts

/-!
# What routes take behind a path

A path without variables can be put in front of all routes of a table
(`Session.exists_perform_prefixPaths`).  A route that gets it once takes behind it what the route
took before, and nothing else (`Store.prefixPaths_transports`).
-/

namespace UrlRouting

open Regex

theorem Generation.mem_of_mem_stripSlashes {text : String} {char : Char}
    (membership : char ∈ (stripSlashes text).toList) : char ∈ text.toList := by
  rw [stripSlashes, String.toList_ofList, List.mem_reverse] at membership
  exact List.mem_reverse.mp ((List.dropWhile_sublist _).subset membership)

namespace Route

/-- A route that takes what another one takes, behind a text, and nothing else. -/
structure TakesBehind (route : Route) (front : String) (changed : Route) : Prop where
  behind : ∀ path method routeName,
    changed.takes (front ++ path) method routeName = route.takes path method routeName
  otherwise : ∀ path, (∀ rest, path ≠ front ++ rest) → ∀ method routeName,
    changed.takes path method routeName = .error .path

/-- Whether a route starts with a literal, which is more than the slash before variables that may
all be left out. -/
def StartsPlain (route : Route) : Prop :=
  ∃ text rest, route.compiled.segments = .literal text :: rest ∧
    ¬ (route.compiled.optionalFrom = 1 ∧ rest ≠ [] ∧ text = "/")

theorem exists_setPath_append (route : Route) {front : String} (nonempty : front ≠ "")
    (noBrace : '\x7b' ∉ front.toList) (noAngle : '<' ∉ front.toList) :
    ∃ changed, route.setPath (front ++ route.path) = .ok changed := by
  obtain ⟨extended, compile_eq, -⟩ := CompiledTemplate.exists_compile_append
    (CompiledTemplate.compiles_of_compile route.compile_eq) nonempty noBrace noAngle
  unfold setPath make
  split
  · exact ⟨_, rfl⟩
  · next fault refused =>
      rw [compile_eq] at refused
      cases refused

theorem PrefixedTo.takesBehind {route changed : Route} {front : String}
    (moved : route.PrefixedTo front 1 changed) (nonempty : front ≠ "")
    (noBrace : '\x7b' ∉ front.toList) (noAngle : '<' ∉ front.toList)
    (startsPlain : route.StartsPlain)
    (regular : route.requirements.AreRegular route.variableNames) :
    route.TakesBehind front changed := by
  obtain ⟨text, rest, segments_eq, notRoot⟩ := startsPlain
  have path_eq : changed.path = front ++ route.path := by
    rw [moved.path]
    simp
  have compile_eq := changed.compile_eq
  rw [path_eq, moved.defaults, moved.requirements] at compile_eq
  have compiles := CompiledTemplate.compiles_of_compile route.compile_eq
  obtain ⟨extended, isExtended, segments_eq'⟩ :=
    CompiledTemplate.exists_compile_append compiles nonempty noBrace noAngle
  obtain rfl : extended = changed.compiled := Except.ok.inj (isExtended.symm.trans compile_eq)
  rw [segments_eq] at segments_eq'
  have fronted := CompiledTemplate.isFronted_of_compiles compiles
    (CompiledTemplate.compiles_of_compile compile_eq) nonempty segments_eq segments_eq'
    (fun isFirst isMore isRoot => notRoot ⟨isFirst, isMore, isRoot⟩) regular
  refine ⟨fun path method routeName => ?_, fun path other method routeName => ?_⟩
  · simp only [takes, supportsMethod, moved.methods, moved.defaults, fronted.fullMatch?_append]
    rfl
  · simp only [takes, fronted.fullMatch?_eq_none other]

end Route

/-- A path without variables can be put in front of whatever routes a table has. -/
theorem Session.exists_perform_prefixPaths (store : Store) (table : Handle SharedTable)
    {front : String} (noBrace : '\x7b' ∉ front.toList) (noAngle : '<' ∉ front.toList) :
    ∃ after, (prefixPaths table front).perform store = (.ok (), after) := by
  by_cases isEmpty : Generation.stripSlashes front = ""
  · exact ⟨store, perform_prefixPaths_of_eq_empty isEmpty table store⟩
  · rw [perform_prefixPaths isEmpty]
    rcases Arena.sweep_cases
      (fun route => route.setPath (Generation.stripSlashes front ++ route.path))
      (store.table table).entries store.routes with
      ⟨reached, swept, -⟩ | ⟨failure, reached, -, _, _, _, _, route, -, -, -, fails⟩
    · exact ⟨_, by rw [swept]⟩
    · obtain ⟨changed, succeeds⟩ := route.exists_setPath_append isEmpty
        (mt Generation.mem_of_mem_stripSlashes noBrace)
        (mt Generation.mem_of_mem_stripSlashes noAngle)
      dsimp only at fails
      rw [succeeds] at fails
      cases fails

/-- Putting a path in front of the routes of a table succeeds if there are no variables in it.  A
route that has one name in the table takes just the paths with the given one in front then, and
behind it what it took before. -/
theorem Store.prefixPaths_transports (store : Store) (table : Handle SharedTable) (front : String)
    (handle : Handle Route) (route : Route) (isThere : store.routes.get? handle = some route)
    (once : ((store.table table).entries.map (·.2)).count handle = 1)
    (startsPlain : route.StartsPlain)
    (regular : route.requirements.AreRegular route.variableNames)
    (noBrace : '\x7b' ∉ front.toList) (noAngle : '<' ∉ front.toList)
    (nonempty : Generation.stripSlashes front ≠ "") :
    ∃ after changed, (Session.prefixPaths table front).perform store = (.ok (), after) ∧
      after.routes.get? handle = some changed ∧
      route.TakesBehind (Generation.stripSlashes front) changed := by
  obtain ⟨after, performed⟩ := Session.exists_perform_prefixPaths store table noBrace noAngle
  obtain ⟨-, areMoved⟩ := Session.prefixedTo_of_perform performed
  obtain ⟨changed, isChanged, moved⟩ := areMoved handle route isThere
  rw [once] at moved
  exact ⟨after, changed, performed, isChanged, moved.takesBehind nonempty
    (mt Generation.mem_of_mem_stripSlashes noBrace)
    (mt Generation.mem_of_mem_stripSlashes noAngle) startsPlain regular⟩

/-- The pages of a blog, the first of which may be left out, behind the path of a site. -/
theorem Store.blog_transports : ∃ (store after : Store) (route changed : Route),
    route.path = "/blog/\x7bpage\x7d" ∧ store.routes.get? ⟨0⟩ = some route ∧
      (Session.prefixPaths ⟨0⟩ "/site/").perform store = (.ok (), after) ∧
      after.routes.get? ⟨0⟩ = some changed ∧ route.TakesBehind "/site" changed := by
  obtain ⟨route, isBuilt⟩ := Declaration.exists_build
    ⟨"/blog/\x7bpage\x7d", [(.text "page", .int 1)], [(.text "page", "[0-9]+")], []⟩
    (by decide +kernel)
  obtain ⟨path_eq, -, requirements_eq, -, compile_eq⟩ := Declaration.build_eq_ok_iff.mp isBuilt
  have startsPlain : route.StartsPlain := by
    have segments_eq : (CompiledTemplate.compile "/blog/\x7bpage\x7d" [(.text "page", .int 1)]
        [(.text "page", "[0-9]+")]).map (·.segments) =
          .ok [.literal "/blog/", .var "page" none] := by decide +kernel
    rw [compile_eq] at segments_eq
    exact ⟨_, _, Except.ok.inj segments_eq, fun isRoot => absurd isRoot.2.2 (by decide)⟩
  have regular : route.requirements.AreRegular route.variableNames := by
    rw [requirements_eq]
    apply Requirements.areRegular_of_forall_mem
    intro entry membership
    rw [List.mem_singleton.mp membership]
    exact ⟨_, by cbv, by decide⟩
  have stripped : Generation.stripSlashes "/site/" = "/site" := by decide +kernel
  obtain ⟨store, isThere, entries_eq⟩ : ∃ store : Store, store.routes.get? ⟨0⟩ = some route ∧
      (store.table ⟨0⟩).entries = [("blog", ⟨0⟩)] :=
    ⟨⟨⟨#[route]⟩, ⟨#[.ofEntries [("blog", ⟨0⟩)]]⟩, .empty, .empty, .empty, []⟩, rfl, rfl⟩
  obtain ⟨after, changed, performed, isChanged, takes⟩ :=
    Store.prefixPaths_transports store ⟨0⟩ "/site/" ⟨0⟩ route isThere (by rw [entries_eq]; rfl)
      startsPlain regular (by decide) (by decide) (by rw [stripped]; decide)
  rw [stripped] at takes
  exact ⟨store, after, route, changed, path_eq, isThere, performed, isChanged, takes⟩

end UrlRouting
