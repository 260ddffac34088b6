import UrlRouting.Proofs.Routing.Binding
import UrlRouting.Proofs.Routing.Feedback

/-!
# Keys of the parameters of a match

The parameters of a match have the keys of the defaults, the variables, the groups that took part
and are named within a requirement, and the key for the name of the route if that is told; nothing
else (`Route.keys_of_takes`).
-/

namespace UrlRouting

/-! ### Keys of attributes -/

theorem Attributes.has_putName_iff (attributes : Attributes) (name : String) (value : Value)
    (key : Value) :
    Entries.has (attributes.putName name value) key = true ↔
      Entries.has attributes key = true ∨ key = .text name := by
  rw [putName]
  induction attributes with
  | nil =>
      rw [Entries.put, Entries.has, List.any_cons, List.any_nil, Bool.or_false,
        Value.text_beq_iff]
      simp [Entries.has]
  | cons first rest inductionHypothesis =>
      rcases first with ⟨known, old⟩
      rw [Entries.put]
      by_cases isKnown : (known == Value.text name) = true
      · obtain rfl := Value.beq_text_iff.mp isKnown
        rw [if_pos isKnown]
        simp only [Entries.has, List.any_cons, Bool.or_eq_true, Value.text_beq_iff]
        constructor
        · exact .inl
        · rintro (isThere | isName)
          · exact isThere
          · exact .inl isName
      · rw [if_neg isKnown]
        simp only [Entries.has, List.any_cons, Bool.or_eq_true] at inductionHypothesis ⊢
        rw [inductionHypothesis, or_assoc]

namespace CompiledTemplate

/-! ### Names of groups -/

/-- The groups that have a name within the requirement of some variable. -/
def innerNames (compiled : CompiledTemplate) : List String :=
  compiled.constraints.flatMap fun (_, constraint) => constraint.names.map (·.1)

theorem mem_innerNames_of_compile {template : String} {defaults : Attributes}
    {requirements : Requirements} {compiled : CompiledTemplate}
    (compiles : Compiles template defaults requirements compiled) {variableName : String}
    {expression : Expression}
    (isSource : Expression.compile (sourceOf compiled.requirements variableName) = .ok expression)
    {name : String} (isNamed : name ∈ expression.names.map (·.1)) : name ∈ compiled.innerNames := by
  rcases lookup_constraintsOf compiles.constraints variableName with
    ⟨unrestricted, -⟩ | ⟨source, constraint, isRestricted, isConstrained, compile_eq⟩
  · -- What stands for a variable without a requirement names no groups.
    rw [sourceOf, unrestricted, Option.getD_none, Converter.compile_pattern] at isSource
    obtain rfl := Except.ok.inj isSource
    simp [Converter.expression] at isNamed
  · rw [sourceOf, isRestricted, Option.getD_some, compile_eq] at isSource
    obtain rfl := Except.ok.inj isSource
    exact List.mem_flatMap.mpr ⟨_, mem_of_lookup isConstrained, isNamed⟩

/-- A group with a name belongs to a variable, or it is named within a requirement. -/
theorem mem_variableNames_or_mem_innerNames {template : String} {defaults : Attributes}
    {requirements : Requirements} {compiled : CompiledTemplate}
    (compile_eq : compile template defaults requirements = .ok compiled) {name : String}
    (isNamed : name ∈ compiled.expression.names.map (·.1)) :
    name ∈ compiled.variableNames ∨ name ∈ compiled.innerNames := by
  have compiles := compiles_of_compile compile_eq
  obtain ⟨fixed, optional, assembled⟩ := exists_assembled compiles
  rw [assembled.names_eq] at isNamed
  obtain ⟨⟨_, number⟩, inSlots, rfl⟩ := List.mem_map.mp isNamed
  obtain ⟨slot, isSlot, inSlot⟩ := List.mem_flatMap.mp inSlots
  cases slot with
  | literal text => simp [Slot.names] at inSlot
  | group variableName converter variableNumber body =>
      rcases List.mem_cons.mp inSlot with isVariable | isInner
      · injection isVariable with same
        subst same
        exact .inl (Segment.mem_names_iff.mpr ⟨converter, assembled.mem_segments isSlot⟩)
      · right
        split at isInner
        · next expression isSource =>
            obtain ⟨⟨inner, count⟩, membership, same⟩ := List.mem_map.mp isInner
            injection same with same
            subst same
            exact mem_innerNames_of_compile compiles isSource
              (List.mem_map_of_mem (f := (·.1)) membership)
        · simp at isInner

/-- What a match captures, it captures in groups of the expression. -/
theorem mem_names_of_captured {compiled : CompiledTemplate} {path : String}
    {captured : List (String × Option String)}
    (found : compiled.expression.fullMatch? path = some captured) {name : String}
    {text? : Option String} (isCaptured : (name, text?) ∈ captured) :
    name ∈ compiled.expression.names.map (·.1) := by
  obtain ⟨captures, -, rfl⟩ := Option.map_eq_some_iff.mp found
  obtain ⟨entry, membership, same⟩ := List.mem_map.mp isCaptured
  injection same with same
  exact List.mem_map.mpr ⟨entry, membership, same⟩

end CompiledTemplate

/-! ### Keys of a match -/

namespace Route

theorem exists_of_takes {route : Route} {path method : String} {routeName : Option String}
    {attributes : Attributes} (isTaken : route.takes path method routeName = .ok attributes) :
    ∃ captured, route.compiled.expression.fullMatch? path = some captured ∧
      attributes = parameters route.defaults captured routeName := by
  cases found : route.compiled.expression.fullMatch? path with
  | none =>
      rw [takes, found] at isTaken
      cases isTaken
  | some captured =>
      rw [takes_of_fullMatch? found] at isTaken
      split at isTaken
      · exact ⟨captured, rfl, (Except.ok.inj isTaken).symm⟩
      · cases isTaken

theorem has_parameters_none_iff (defaults : Attributes) (captured : List (String × Option String))
    (key : Value) :
    Entries.has (parameters defaults captured none) key = true ↔
      Entries.has defaults key = true ∨
        ∃ name text, (name, some text) ∈ captured ∧ key = .text name := by
  induction captured generalizing defaults with
  | nil => simp [parameters]
  | cons first rest inductionHypothesis =>
      rcases first with ⟨name, text?⟩
      rw [parameters_cons, inductionHypothesis]
      cases text? with
      | none => simp
      | some text =>
          rw [Option.map_some, Option.getD_some, Attributes.has_putName_iff, or_assoc]
          refine or_congr_right ?_
          constructor
          · rintro (rfl | ⟨other, otherText, isCaptured, rfl⟩)
            · exact ⟨name, text, List.mem_cons_self .., rfl⟩
            · exact ⟨other, otherText, List.mem_cons_of_mem _ isCaptured, rfl⟩
          · rintro ⟨other, otherText, isCaptured, rfl⟩
            rcases List.mem_cons.mp isCaptured with same | inRest
            · injection same with same
              exact .inl (congrArg Value.text same)
            · exact .inr ⟨other, otherText, inRest, rfl⟩

theorem has_parameters_iff (defaults : Attributes) (captured : List (String × Option String))
    (routeName : Option String) (key : Value) :
    Entries.has (parameters defaults captured routeName) key = true ↔
      (Entries.has defaults key = true ∨
        ∃ name text, (name, some text) ∈ captured ∧ key = .text name) ∨
      (routeName.isSome = true ∧ key = .text nameKey) := by
  cases routeName with
  | none => simp [has_parameters_none_iff]
  | some told =>
      have put : parameters defaults captured (some told) =
          (parameters defaults captured none).putName nameKey (.text told) := rfl
      rw [put, Attributes.has_putName_iff, has_parameters_none_iff]
      simp

/-- The parameters of a match have the keys of the defaults, all variables, the groups that took
part and are named within a requirement, and `_route` if the name of the route is told.  Variables
that captured a text have that text, but for one that is itself called `_route`, which gives way to
the name of the route. -/
theorem keys_of_takes (route : Route) (path method : String) (routeName : Option String)
    (attributes : Attributes) (isTaken : route.takes path method routeName = .ok attributes) :
    ∃ captured, route.compiled.expression.fullMatch? path = some captured ∧
      (∀ key, Entries.has attributes key = true ↔
        Entries.has route.defaults key = true ∨
        (∃ name ∈ route.variableNames, key = .text name) ∨
        (∃ name ∈ route.compiled.innerNames, ∃ text,
          (name, some text) ∈ captured ∧ key = .text name) ∨
        (routeName.isSome = true ∧ key = .text nameKey)) ∧
      (∀ name ∈ route.variableNames, ∀ text, (name, some text) ∈ captured →
        routeName = none ∨ name ≠ nameKey → attributes.named? name = some (.text text)) ∧
      ∀ told, routeName = some told → attributes.named? nameKey = some (.text told) := by
  obtain ⟨captured, found, attributes_eq⟩ := exists_of_takes isTaken
  refine ⟨captured, found, ?_, ?_, ?_⟩
  · intro key
    constructor
    · intro isThere
      rw [attributes_eq, has_parameters_iff] at isThere
      rcases isThere with (isDefault | ⟨name, text, isCaptured, rfl⟩) | isRouteName
      · exact .inl isDefault
      · have isNamed := CompiledTemplate.mem_names_of_captured found isCaptured
        rcases CompiledTemplate.mem_variableNames_or_mem_innerNames route.compile_eq isNamed with
          isVariable | isInner
        · exact .inr (.inl ⟨name, isVariable, rfl⟩)
        · exact .inr (.inr (.inl ⟨name, isInner, text, isCaptured, rfl⟩))
      · exact .inr (.inr (.inr isRouteName))
    · rintro (isDefault | ⟨name, isVariable, rfl⟩ | ⟨name, -, text, isCaptured, rfl⟩ | isRouteName)
      · rw [attributes_eq, has_parameters_iff]
        exact .inl (.inl isDefault)
      · exact hasName_of_takes found isVariable isTaken
      · rw [attributes_eq, has_parameters_iff]
        exact .inl (.inr ⟨name, text, isCaptured, rfl⟩)
      · rw [attributes_eq, has_parameters_iff]
        exact .inr isRouteName
  · exact fun name _ text isCaptured untold => named?_of_takes isTaken found isCaptured untold
  · rintro told rfl
    rw [attributes_eq]
    exact Attributes.named?_putName_self ..

/-- A route with a variable `_route` and with a group inside of the requirement of another variable,
and what it answers if it is told its own name. -/
theorem exists_dated_route : ∃ route : Route, route.defaults = [] ∧
    route.variableNames = ["_route", "date"] ∧ route.compiled.innerNames = ["year"] ∧
    route.compiled.expression.fullMatch? "/log/2024-05" =
      some [("_route", some "log"), ("date", some "2024-05"), ("year", some "2024")] ∧
    route.takes "/log/2024-05" "GET" (some "entry") =
      .ok [(.text "_route", .text "entry"), (.text "date", .text "2024-05"),
        (.text "year", .text "2024")] := by
  obtain ⟨compiled, compile_eq, found, names_eq, inner_eq⟩ : ∃ compiled,
      CompiledTemplate.compile "/{_route}/{date}" []
        [(.text "date", "(?P<year>\\d+)-\\d+")] = .ok compiled ∧
      compiled.expression.fullMatch? "/log/2024-05" =
        some [("_route", some "log"), ("date", some "2024-05"), ("year", some "2024")] ∧
      compiled.variableNames = ["_route", "date"] ∧ compiled.innerNames = ["year"] :=
    ⟨_, by cbv, by cbv, by cbv, by cbv⟩
  obtain ⟨route, defaults_eq, methods_eq, rfl⟩ : ∃ route : Route,
      route.defaults = [] ∧ route.methods = .empty ∧ route.compiled = compiled :=
    ⟨⟨_, _, _, .empty, compiled, compile_eq, ⟨[], rfl⟩⟩, rfl, rfl, rfl⟩
  refine ⟨route, defaults_eq, names_eq, inner_eq, found, ?_⟩
  rw [takes_of_fullMatch? found, supportsMethod, methods_eq, defaults_eq]
  rfl

/-- The year is a key, and so is the name of the route. -/
theorem dated_keys : ∃ (route : Route) (attributes : Attributes),
    route.takes "/log/2024-05" "GET" (some "entry") = .ok attributes ∧
      Entries.has attributes (.text "year") = true ∧
      attributes.named? "date" = some (.text "2024-05") ∧
      attributes.named? nameKey = some (.text "entry") := by
  obtain ⟨route, -, names_eq, inner_eq, isFound, isTaken⟩ := exists_dated_route
  obtain ⟨captured, found, hasKey, hasText, hasName⟩ :=
    keys_of_takes route "/log/2024-05" "GET" (some "entry") _ isTaken
  obtain rfl := Option.some.inj (isFound.symm.trans found)
  refine ⟨route, _, isTaken, (hasKey _).mpr ?_, ?_, hasName "entry" rfl⟩
  · rw [inner_eq]
    exact .inr (.inr (.inl ⟨"year", by decide, "2024", by decide, rfl⟩))
  · exact hasText "date" (by rw [names_eq]; decide) "2024-05" (by decide) (.inr (by decide))

/-- The year is no default, no variable and not the key for the name of the route; and the text of
a variable gives way to that name. -/
theorem inner_key_and_lost_text : ∃ (route : Route) (attributes : Attributes),
    route.takes "/log/2024-05" "GET" (some "entry") = .ok attributes ∧
      Entries.has attributes (.text "year") = true ∧
      Entries.has route.defaults (.text "year") = false ∧
      "year" ∉ route.variableNames ∧ "year" ≠ nameKey ∧
      ∃ captured, route.compiled.expression.fullMatch? "/log/2024-05" = some captured ∧
        "_route" ∈ route.variableNames ∧ ("_route", some "log") ∈ captured ∧
        attributes.named? "_route" ≠ some (.text "log") := by
  obtain ⟨route, defaults_eq, names_eq, -, found, isTaken⟩ := exists_dated_route
  refine ⟨route, _, isTaken, rfl, ?_, ?_, by decide, _, found, ?_, by decide, ?_⟩
  · rw [defaults_eq]
    rfl
  · rw [names_eq]
    decide
  · rw [names_eq]
    decide
  · simp [Attributes.named?, Entries.get?]

end Route

end UrlRouting
