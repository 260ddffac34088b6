import UrlRouting.Proofs.Routing.Resolution
import UrlRouting.Proofs.Store.Sweeps

/-!
# Ways to give methods

The constructor of a route and the call for one route take one text for one method; the call for all
routes of a table takes it for its characters.  For lists of texts all three come to the same
(`Store.methods_by_setters`).
-/

namespace UrlRouting

/-! ### Methods that are given -/

namespace Value

theorem texts_map (names : List String) : texts (names.map .text) = .ok names := by
  induction names with
  | nil => rfl
  | cons first rest inductionHypothesis =>
      rw [List.map_cons, texts, inductionHypothesis]
      rfl

theorem methodNames_list (names : List String) :
    methodNames (.list (names.map .text)) = .ok names :=
  (Session.methodNames_list _).trans (texts_map names)

/-- The names that a text gives where it counts as its characters. -/
def characterNames (text : String) : List String := text.toList.map String.singleton

theorem elements?_text (text : String) :
    elements? (.text text) = some ((characterNames text).map .text) := by
  rw [elements?, characterNames, List.map_map]
  rfl

theorem characterNames_of_length_eq_one {text : String} (isSingle : text.length = 1) :
    characterNames text = [text] := by
  obtain ⟨char, chars_eq⟩ : ∃ char, text.toList = [char] :=
    List.length_eq_one_iff.mp (String.length_toList.trans isSingle)
  rw [characterNames, chars_eq, List.map_singleton, ← String.ofList_toList (s := text), chars_eq]
  rfl

end Value

namespace Route

/-- A route with other methods, by their names. -/
def withMethods (route : Route) (names : List String) : Route :=
  route.setMethods (.ofNames names) (MethodSet.isNormal_ofNames names)

@[simp] theorem withMethods_compiled (route : Route) (names : List String) :
    (route.withMethods names).compiled = route.compiled := rfl

@[simp] theorem withMethods_defaults (route : Route) (names : List String) :
    (route.withMethods names).defaults = route.defaults := rfl

@[simp] theorem withMethods_methods (route : Route) (names : List String) :
    (route.withMethods names).methods = .ofNames names := rfl

theorem withMethods_withMethods (route : Route) (first second : List String) :
    (route.withMethods first).withMethods second = route.withMethods second := rfl

theorem on_setMethods_eq {given : Value} {names : List String}
    (isRead : given.methodNames = .ok names) (route : Route) :
    (Change.setMethods given).on route = .ok (route.withMethods names) := by
  rw [Change.on_setMethods, isRead]
  rfl

theorem build_withMethods (route : Route) (names : List String) :
    Declaration.build ⟨route.path, route.defaults, route.requirements, names⟩ =
      .ok (route.withMethods names) :=
  Declaration.build_eq_ok_iff.mpr ⟨rfl, rfl, rfl, rfl, route.compile_eq⟩

theorem withMethods_of_changedTimes {names : List String} {times : Nat} {route changed : Route}
    (changes : Arena.ChangedTimes (fun route => .ok (route.withMethods names)) times route changed)
    (isPositive : 0 < times) : changed = route.withMethods names := by
  induction changes with
  | zero value => exact absurd isPositive (Nat.lt_irrefl 0)
  | @succ times value next final made rest inductionHypothesis =>
      cases made
      cases times with
      | zero =>
          cases rest
          rfl
      | succ times =>
          rw [inductionHypothesis (Nat.succ_pos times), withMethods_withMethods]

theorem supportsMethod_withMethods_iff {route : Route} {names : List String} {method : String} :
    (route.withMethods names).supportsMethod method ↔
      names = [] ∨ ∃ name ∈ names, Text.upper name = Text.upper method := by
  have isNil_iff : (MethodSet.ofNames names).names = [] ↔ names = [] := by
    rw [List.eq_nil_iff_forall_not_mem, MethodSet.ofNames]
    simp only [MethodSet.mem_ofExact, ← List.eq_nil_iff_forall_not_mem, List.map_eq_nil_iff]
  rw [supportsMethod_iff, withMethods_methods, isNil_iff, MethodSet.ofNames, MethodSet.mem_ofExact,
    List.mem_map]

/-- Routes with other methods that differ in taking a method give different answers. -/
theorem takes_withMethods_ne {route : Route} {first second : List String} {path method : String}
    (fits : (route.compiled.expression.fullMatch? path).isSome)
    (differ : (route.withMethods first).supportsMethod method ≠
      (route.withMethods second).supportsMethod method) (routeName : Option String) :
    (route.withMethods first).takes path method routeName ≠
      (route.withMethods second).takes path method routeName := by
  obtain ⟨captured, isMatch⟩ := Option.isSome_iff_exists.mp fits
  simp only [takes, withMethods_compiled, withMethods_defaults, isMatch]
  cases isFirst : (route.withMethods first).supportsMethod method <;>
    cases isSecond : (route.withMethods second).supportsMethod method <;>
    simp_all

/-- A method that is taken as one text or as its characters, but not both. -/
theorem exists_supportsMethod_ne (route : Route) {text : String} (notSingle : text.length ≠ 1) :
    ∃ method, (route.withMethods (Value.characterNames text)).supportsMethod method ≠
      (route.withMethods [text]).supportsMethod method := by
  by_cases isEmpty : text = ""
  · subst isEmpty
    -- No characters are no methods, so that every method is taken; the empty text is one name.
    refine ⟨"GET", fun same => ?_⟩
    have supports : (route.withMethods (Value.characterNames "")).supportsMethod "GET" = true :=
      supportsMethod_withMethods_iff.mpr (.inl rfl)
    rw [same, supportsMethod_withMethods_iff] at supports
    revert supports
    decide +kernel
  · refine ⟨text, fun same => ?_⟩
    have supports : (route.withMethods [text]).supportsMethod text = true :=
      supportsMethod_withMethods_iff.mpr (.inr ⟨text, List.mem_cons_self, rfl⟩)
    rcases supportsMethod_withMethods_iff.mp (same.trans supports) with
      noCharacters | ⟨name, isCharacter, same⟩
    · exact isEmpty (by simpa [Value.characterNames] using noCharacters)
    · obtain ⟨char, membership, rfl⟩ := List.mem_map.mp isCharacter
      exact notSingle (Text.length_eq_one_of_upper_eq membership same.symm)

end Route

/-! ### Calls that give methods -/

namespace Session

variable {store : Store} {table : Handle SharedTable} {handle : Handle Route} {route : Route}
  {given : Value} {names : List String}

theorem perform_setMethods (isThere : store.routes.get? handle = some route)
    (isRead : given.methodNames = .ok names) :
    (setMethods handle given).perform store =
      (.ok (), { store with routes := store.routes.set handle (route.withMethods names) }) := by
  rw [← Session.change, perform_change_of_get? isThere, Arena.edit, isThere]
  dsimp only
  rw [Route.on_setMethods_eq isRead]

theorem perform_makeRoute_withMethods (route : Route) (isRead : given.methodNames = .ok names) :
    (makeRoute route.path route.defaults route.requirements given).perform store =
      (newRoute (route.withMethods names)).perform store := by
  rw [perform_makeRoute, declarationOf, isRead]
  dsimp only [Except.bind]
  rw [route.build_withMethods]

/-- Nothing stops a call that gives methods to all routes, if they can be read. -/
theorem perform_setAllMethods (isRead : given.elements? = some (names.map .text))
    (store : Store) (table : Handle SharedTable) :
    ∃ routes, (setAllMethods table given).perform store =
        (.ok (), { store with routes := routes }) ∧
      ∀ name handle route, (name, handle) ∈ (store.table table).entries →
        store.routes.get? handle = some route →
        routes.get? handle = some (route.withMethods names) := by
  have changes : (fun route => (Route.Change.setMethods (.list (names.map .text))).on route) =
      fun route => .ok (route.withMethods names) :=
    funext (Route.on_setMethods_eq (Value.methodNames_list names))
  have performed := perform_sweep table (.setMethods given) store
  rw [Session.sweep, Sweep.changes?, isRead] at performed
  dsimp only at performed
  rw [changes] at performed
  rcases Arena.sweep_cases (fun route : Route => .ok (route.withMethods names))
      (store.table table).entries store.routes with
    ⟨reached, swept, areChanged⟩ | ⟨_, _, _, _, _, _, _, _, _, _, _, fails⟩
  · rw [swept] at performed
    refine ⟨reached, performed, fun name handle route isEntry isThere => ?_⟩
    obtain ⟨changed, isChanged, times⟩ := areChanged handle route isThere
    have isCounted : 0 < ((store.table table).entries.map (·.2)).count handle :=
      List.count_pos_iff.mpr (List.mem_map.mpr ⟨_, isEntry, rfl⟩)
    rw [isChanged, Route.withMethods_of_changedTimes times isCounted]
  · cases fails

end Session

/-! ### Results of the calls -/

namespace Store

/-- What a value for methods comes to for a route: the names that it gives where it is given to all
routes of a table, and those that it gives to the route alone and to the constructor of an equal
one. -/
structure GivesMethods (store : Store) (table : Handle SharedTable) (handle : Handle Route)
    (route : Route) (given : Value) (inTable alone : List String) : Prop where
  byTable : ∃ routes, (Session.setAllMethods table given).perform store =
    (.ok (), { store with routes := routes }) ∧
      routes.get? handle = some (route.withMethods inTable)
  byRoute : ∃ routes, (Session.setMethods handle given).perform store =
    (.ok (), { store with routes := routes }) ∧
      routes.get? handle = some (route.withMethods alone)
  byConstructor : ∃ made routes,
    (Session.makeRoute route.path route.defaults route.requirements given).perform store =
      (.ok made, { store with routes := routes }) ∧
      routes.get? made = some (route.withMethods alone)

variable {store : Store} {table : Handle SharedTable} {handle : Handle Route} {route : Route}

theorem givesMethods {name : String} (isEntry : (name, handle) ∈ (store.table table).entries)
    (isThere : store.routes.get? handle = some route) {given : Value}
    {inTable alone : List String} (elements_eq : given.elements? = some (inTable.map .text))
    (names_eq : given.methodNames = .ok alone) :
    store.GivesMethods table handle route given inTable alone where
  byTable := by
    obtain ⟨routes, performed, areSet⟩ := Session.perform_setAllMethods elements_eq store table
    exact ⟨routes, performed, areSet name handle route isEntry isThere⟩
  byRoute := ⟨_, Session.perform_setMethods isThere names_eq, Arena.get?_set_self isThere _⟩
  byConstructor := ⟨_, _, Session.perform_makeRoute_withMethods route names_eq,
    Arena.get?_alloc_self store.routes _⟩

/-- A list of texts gives a route the same methods by the call for its table, by the call for the
route and by the constructor.  A text is one method for the latter two, but the call for a table
takes it for the list of its characters: the routes that come of it are the same just if the text is
one character long, and otherwise some method of every path that fits is answered differently. -/
theorem methods_by_setters {name : String}
    (isEntry : (name, handle) ∈ (store.table table).entries)
    (isThere : store.routes.get? handle = some route) :
    (∀ names, store.GivesMethods table handle route (.list (names.map .text)) names names) ∧
    ∀ text, store.GivesMethods table handle route (.text text) (Value.characterNames text) [text] ∧
      (route.withMethods (Value.characterNames text) = route.withMethods [text] ↔
        text.length = 1) ∧
      (text.length ≠ 1 → ∃ method, ∀ path routeName,
        (route.compiled.expression.fullMatch? path).isSome →
          (route.withMethods (Value.characterNames text)).takes path method routeName ≠
            (route.withMethods [text]).takes path method routeName) := by
  refine ⟨fun names => givesMethods isEntry isThere rfl (Value.methodNames_list names),
    fun text => ⟨givesMethods isEntry isThere (Value.elements?_text text) rfl, ?_, ?_⟩⟩
  · constructor
    · intro same
      by_contra notSingle
      obtain ⟨method, differ⟩ := route.exists_supportsMethod_ne notSingle
      exact differ (congrArg (·.supportsMethod method) same)
    · intro isSingle
      exact congrArg route.withMethods (Value.characterNames_of_length_eq_one isSingle)
  · intro notSingle
    obtain ⟨method, differ⟩ := route.exists_supportsMethod_ne notSingle
    exact ⟨method, fun path routeName fits => Route.takes_withMethods_ne fits differ routeName⟩

/-- A table with one route that takes one path. -/
theorem exists_single_route : ∃ (store : Store) (route : Route),
    (store.table ⟨0⟩).entries = [("a", ⟨0⟩)] ∧ store.routes.get? ⟨0⟩ = some route ∧
      route.defaults = [] ∧
      route.compiled.expression.fullMatch? "/a" = some [] := by
  obtain ⟨compiled, compile_eq, isMatch⟩ : ∃ compiled,
      CompiledTemplate.compile "/a" [] [] = .ok compiled ∧
        compiled.expression.fullMatch? "/a" = some [] := ⟨_, by cbv, by decide +kernel⟩
  exact ⟨⟨⟨#[⟨"/a", [], [], .empty, compiled, compile_eq, ⟨[], rfl⟩⟩]⟩,
    ⟨#[.ofEntries [("a", ⟨0⟩)]]⟩, .empty, .empty, .empty, []⟩, _, rfl, rfl, rfl, isMatch⟩

/-- Two methods in a list are given to a route alone and by its table. -/
theorem list_by_setters : ∃ (store : Store) (route : Route),
    (store.table ⟨0⟩).entries = [("a", ⟨0⟩)] ∧ store.routes.get? ⟨0⟩ = some route ∧
      store.GivesMethods ⟨0⟩ ⟨0⟩ route (.list [.text "get", .text "post"]) ["get", "post"]
        ["get", "post"] ∧
      (route.withMethods ["get", "post"]).methods = ⟨["GET", "POST"]⟩ := by
  obtain ⟨store, route, entries_eq, isThere, -⟩ := exists_single_route
  have isEntry : ("a", ⟨0⟩) ∈ (store.table ⟨0⟩).entries := by
    rw [entries_eq]
    exact List.mem_cons_self
  refine ⟨store, route, entries_eq, isThere,
    (methods_by_setters isEntry isThere).1 ["get", "post"], ?_⟩
  rw [Route.withMethods_methods]
  decide +kernel

/-- With one text for one method the call for a table sets other methods than the call for a route,
and a request with this method is refused. -/
theorem setAllMethods_splits_text : ∃ (store : Store) (route : Route) (inTable alone : Store)
    (swept single : Route),
    (store.table ⟨0⟩).entries = [("a", ⟨0⟩)] ∧ store.routes.get? ⟨0⟩ = some route ∧
      (Session.setAllMethods ⟨0⟩ (.text "GET")).perform store = (.ok (), inTable) ∧
      inTable.routes.get? ⟨0⟩ = some swept ∧
      (Session.setMethods ⟨0⟩ (.text "GET")).perform store = (.ok (), alone) ∧
      alone.routes.get? ⟨0⟩ = some single ∧
      swept.methods = ⟨["E", "G", "T"]⟩ ∧ single.methods = ⟨["GET"]⟩ ∧
      swept.takes "/a" "GET" none = .error .method ∧ single.takes "/a" "GET" none = .ok [] := by
  obtain ⟨store, route, entries_eq, isThere, defaults_eq, isMatch⟩ := exists_single_route
  have isEntry : ("a", ⟨0⟩) ∈ (store.table ⟨0⟩).entries := by
    rw [entries_eq]
    exact List.mem_cons_self
  obtain ⟨⟨inTable, sweeps, isSwept⟩, ⟨alone, sets, isSingle⟩, -⟩ :=
    givesMethods isEntry isThere (Value.elements?_text "GET") rfl
  have characters_eq : Value.characterNames "GET" = ["G", "E", "T"] := by decide +kernel
  rw [characters_eq] at isSwept
  have sweptMethods : MethodSet.ofNames ["G", "E", "T"] = ⟨["E", "G", "T"]⟩ := by decide +kernel
  have singleMethods : MethodSet.ofNames ["GET"] = ⟨["GET"]⟩ := by decide +kernel
  refine ⟨store, route, _, _, _, _, entries_eq, isThere, sweeps, isSwept, sets, isSingle,
    sweptMethods, singleMethods, ?_, ?_⟩
  · have refuses : (route.withMethods ["G", "E", "T"]).supportsMethod "GET" = false := by
      rw [Route.supportsMethod, Route.withMethods_methods, sweptMethods]
      decide +kernel
    rw [Route.takes, Route.withMethods_compiled, isMatch]
    dsimp only
    rw [refuses]
    rfl
  · have takes : (route.withMethods ["GET"]).supportsMethod "GET" = true := by
      rw [Route.supportsMethod, Route.withMethods_methods, singleMethods]
      decide +kernel
    rw [Route.takes, Route.withMethods_compiled, isMatch]
    dsimp only
    rw [takes, Route.withMethods_defaults, defaults_eq]
    rfl

end Store

end UrlRouting
