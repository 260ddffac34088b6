import UrlRouting.Proofs.Routing.Acceptance
import UrlRouting.Proofs.Template.Embedding

/-!
# Links to what has been matched

The requirement of a variable is read twice: inside of the expression of the template, which says
what the variable captures, and alone, which says what a link accepts.  Where a requirement asks
nothing about the text around it, both agree, so that no link refuses what was captured
(`RouteTable.captured_accepted`).
-/

namespace UrlRouting

open CompiledTemplate Generation

/-! ### Refused values -/

theorem Generation.exists_of_violation? {compiled : CompiledTemplate} {defaults : Attributes}
    {parameters : Parameters} {names : List String} {name text : String}
    (violates : violation? compiled (filling defaults parameters names) = some (name, text)) :
    ∃ value constraint, valueOf? defaults parameters name = some value ∧
      compiled.constraints.lookup name = some constraint ∧
      constraint.accepts value.toText = false := by
  obtain ⟨other, -, isFilled⟩ := List.mem_filterMap.mp (List.mem_of_find?_eq_some violates)
  obtain ⟨value, isValue, same⟩ := Option.map_eq_some_iff.mp isFilled
  obtain ⟨rfl, rfl⟩ := Prod.mk.inj same
  have refused := List.find?_some violates
  dsimp only at refused
  cases isConstrained : compiled.constraints.lookup other with
  | none => simp [isConstrained] at refused
  | some constraint =>
      refine ⟨value, constraint, isValue, rfl, ?_⟩
      simpa [isConstrained] using refused

theorem Generation.exists_of_relative_violated {config : Config} {name : String} {route : Route}
    {parameters : Parameters} {routeName variableName requirement text : String}
    (refuses : relative config name route parameters =
      .error (.requirementViolated routeName variableName requirement text)) :
    ∃ value constraint, valueOf? route.defaults parameters variableName = some value ∧
      route.compiled.constraints.lookup variableName = some constraint ∧
      constraint.accepts value.toText = false := by
  unfold relative at refuses
  dsimp only at refuses
  split at refuses
  · simp at refuses
  split at refuses
  · simp at refuses
  split at refuses
  · next violates =>
      injection refuses with same
      injection same with _ same _ _
      subst same
      exact exists_of_violation? violates
  · split at refuses <;> simp at refuses

/-- A link refuses only values that the constraint of their variable does not accept. -/
theorem RouteTable.exists_of_link_violated {table : RouteTable Route} {config : Config}
    {name : String} {route : Route} (registered : table.get name = .ok route)
    {parameters : Parameters} {absolute : Bool} {routeName variableName requirement text : String}
    (refuses : table.link config name parameters absolute =
      .error (.requirementViolated routeName variableName requirement text)) :
    ∃ value constraint, valueOf? route.defaults parameters variableName = some value ∧
      route.compiled.constraints.lookup variableName = some constraint ∧
      constraint.accepts value.toText = false := by
  unfold link at refuses
  rw [registered] at refuses
  cases made : relative config name route parameters with
  | ok path =>
      simp only [made, bind, Except.bind] at refuses
      split at refuses
      · unfold Generation.absolute at refuses
        split at refuses <;> simp at refuses
      · simp [pure, Except.pure] at refuses
  | error failure =>
      simp only [made, bind, Except.bind, Except.error.injEq] at refuses
      subst refuses
      exact exists_of_relative_violated made

/-! ### Captured values -/

theorem CompiledTemplate.nodup_captured {template : String} {defaults : Attributes}
    {requirements : Requirements} {compiled : CompiledTemplate}
    (compile_eq : compile template defaults requirements = .ok compiled) {path : String}
    {captured : List (String × Option String)}
    (found : compiled.expression.fullMatch? path = some captured) :
    (captured.map (·.1)).Nodup := by
  obtain ⟨fixed, optional, assembled⟩ := exists_assembled (compiles_of_compile compile_eq)
  obtain ⟨captures, -, rfl⟩ := Option.map_eq_some_iff.mp found
  simpa [Function.comp_def] using assembled.nodupNames

/-- What a variable captures is its parameter, unless it has the name that the name of the route
goes under. -/
theorem Route.named?_of_takes {route : Route} {path method : String} {routeName : Option String}
    {attributes : Attributes} (taken : route.takes path method routeName = .ok attributes)
    {captured : List (String × Option String)}
    (found : route.compiled.expression.fullMatch? path = some captured)
    {name text : String} (isCaptured : (name, some text) ∈ captured)
    (untold : routeName = none ∨ name ≠ nameKey) : attributes.named? name = some (.text text) := by
  have named := named?_parameters_of_mem route.defaults
    (nodup_captured route.compile_eq found) isCaptured
  unfold takes at taken
  rw [found] at taken
  dsimp only at taken
  split at taken
  · injection taken with same
    subst same
    cases routeName with
    | none => exact named
    | some told =>
        have different : Value.text name ≠ .text nameKey := by
          simpa using untold.resolve_left (Option.some_ne_none told)
        exact (Attributes.get?_putName_of_ne _ different _).trans named
  · simp at taken

/-- A template of which a variable captures a text that its constraint does not accept. -/
def CompiledTemplate.CapturesRefused (template source path name text : String) : Prop :=
  ∃ compiled constraint captured,
    compile template [] [(.text name, source)] = .ok compiled ∧
      compiled.expression.fullMatch? path = some captured ∧ (name, some text) ∈ captured ∧
      compiled.constraints.lookup name = some constraint ∧ constraint.accepts text = false

instance (template source path name text : String) :
    Decidable (CompiledTemplate.CapturesRefused template source path name text) :=
  match isCompiled : compile template [] [(.text name, source)] with
  | .error _ => .isFalse fun ⟨_, _, _, compiles, _⟩ => by simp [isCompiled] at compiles
  | .ok compiled =>
      match isFound : compiled.expression.fullMatch? path,
        isConstrained : compiled.constraints.lookup name with
      | some captured, some constraint =>
          decidable_of_iff ((name, some text) ∈ captured ∧ constraint.accepts text = false) <| by
            simp [CompiledTemplate.CapturesRefused, isCompiled, isFound, isConstrained]
      | none, _ => .isFalse <| by
          simp [CompiledTemplate.CapturesRefused, isCompiled, isFound]
      | some _, none => .isFalse <| by
          simp [CompiledTemplate.CapturesRefused, isCompiled, isConstrained]

/-- A name that must not end where it does is refused alone, though a path may go on there. -/
theorem RouteTable.exists_admin_violates : ∃ (table : RouteTable Route) (route : Route)
    (constraint : Expression),
    table.get "user" = .ok route ∧ route.path = "/\x7bname\x7d/edit" ∧
      route.requirements = [(.text "name", "(?!admin$)[a-z]+")] ∧
      route.compiled.expression.fullMatch? "/admin/edit" = some [("name", some "admin")] ∧
      route.compiled.constraints.lookup "name" = some constraint ∧
      constraint.accepts "admin" = false ∧
      route.takes "/admin/edit" "GET" none = .ok [(.text "name", .text "admin")] ∧
      table.link .standard "user" [("name", .text "admin")] false =
        .error (.requirementViolated "user" "name" "(?!admin$)[a-z]+" "admin") := by
  obtain ⟨compiled, constraint, compile_eq, found, isConstrained, refused, refuses⟩ :
      ∃ compiled constraint,
        compile "/\x7bname\x7d/edit" [] [(.text "name", "(?!admin$)[a-z]+")] = .ok compiled ∧
        compiled.expression.fullMatch? "/admin/edit" = some [("name", some "admin")] ∧
        compiled.constraints.lookup "name" = some constraint ∧
        constraint.accepts "admin" = false ∧
        ∀ compile_eq, Generation.relative .standard "user"
          ⟨"/\x7bname\x7d/edit", [], [(.text "name", "(?!admin$)[a-z]+")], .empty, compiled,
            compile_eq, ⟨[], rfl⟩⟩ [("name", .text "admin")] =
          .error (.requirementViolated "user" "name" "(?!admin$)[a-z]+" "admin") := by
    refine ⟨_, _, by cbv, by cbv, rfl, by cbv, ?_⟩
    intro compile_eq
    cbv
  have registered := RouteTable.get_append_self .empty "user"
    (⟨_, [], _, .empty, compiled, compile_eq, ⟨[], rfl⟩⟩ : Route)
  refine ⟨_, _, constraint, registered, rfl, rfl, found, isConstrained, refused, ?_, ?_⟩
  · rw [Route.takes, found]
    rfl
  · rw [link_eq_relative registered]
    exact refuses compile_eq

/-- The name of the route stands where the variable of that name has captured something else. -/
theorem RouteTable.exists_home_violates : ∃ (table : RouteTable Route) (route : Route),
    table.get "home" = .ok route ∧ route.path = "/\x7b_route\x7d" ∧
      route.requirements = [(.text "_route", "[0-9]+")] ∧
      route.takes "/7" "GET" (some "home") = .ok [(.text "_route", .text "home")] ∧
      table.link .standard "home" [("_route", .text "home")] false =
        .error (.requirementViolated "home" "_route" "[0-9]+" "home") := by
  obtain ⟨compiled, compile_eq, found, refuses⟩ : ∃ compiled,
      compile "/\x7b_route\x7d" [] [(.text "_route", "[0-9]+")] = .ok compiled ∧
        compiled.expression.fullMatch? "/7" = some [("_route", some "7")] ∧
        ∀ compile_eq, Generation.relative .standard "home"
          ⟨"/\x7b_route\x7d", [], [(.text "_route", "[0-9]+")], .empty, compiled, compile_eq,
            ⟨[], rfl⟩⟩ [("_route", .text "home")] =
          .error (.requirementViolated "home" "_route" "[0-9]+" "home") := by
    refine ⟨_, by cbv, by cbv, ?_⟩
    intro compile_eq
    cbv
  have registered := RouteTable.get_append_self .empty "home"
    (⟨_, [], _, .empty, compiled, compile_eq, ⟨[], rfl⟩⟩ : Route)
  refine ⟨_, _, registered, rfl, rfl, ?_, ?_⟩
  · rw [Route.takes, found]
    rfl
  · rw [link_eq_relative registered]
    exact refuses compile_eq

namespace CompiledTemplate

/-! What looks at the text before or behind the variable. -/

theorem capturesRefused_wordEdge : CapturesRefused "/a\x7bx\x7d" "\\b-" "/a-" "x" "-" :=
  ⟨_, _, _, by cbv, by cbv, by simp, rfl, by cbv⟩

theorem capturesRefused_lookahead :
    CapturesRefused "/\x7bx\x7d/edit" "[a-z]+(?=/)" "/bob/edit" "x" "bob" :=
  ⟨_, _, _, by cbv, by cbv, by simp, rfl, by cbv⟩

theorem capturesRefused_lookbehind :
    CapturesRefused "/\x7bx\x7d" "(?<=/)[a-z]+" "/bob" "x" "bob" :=
  ⟨_, _, _, by cbv, by cbv, by simp, rfl, by cbv⟩

/-! A number is that of another group where groups come before the variable. -/

theorem capturesRefused_reference :
    CapturesRefused "/\x7by\x7d/\x7bx\x7d" "(a)\\1" "/b/ab" "x" "ab" :=
  ⟨_, _, _, by cbv, by cbv, by simp, rfl, by cbv⟩

theorem capturesRefused_conditional :
    CapturesRefused "/\x7by\x7d/\x7bx\x7d" "(a)?(?(1)b|c)" "/q/b" "x" "b" := by
  decide +kernel

/-! Ways are given up for one that is there only alone, or only where the text goes on. -/

theorem capturesRefused_atomic : CapturesRefused "/\x7bx\x7dX" "(?>ab$|a)b" "/abX" "x" "ab" :=
  ⟨_, _, _, by cbv, by cbv, by simp, rfl, by cbv⟩

theorem capturesRefused_possessive :
    CapturesRefused "/\x7bx\x7dX" "(?:ab$|a)?+b" "/abX" "x" "ab" :=
  ⟨_, _, _, by cbv, by cbv, by simp, rfl, by cbv⟩

theorem capturesRefused_nestedAtomic :
    CapturesRefused "/\x7bx\x7dcX" "(?>(?>abc|a)b|a)b" "/abcX" "x" "ab" :=
  ⟨_, _, _, by cbv, by cbv, by simp, rfl, by cbv⟩

/-! What must not be found is found only alone. -/

theorem capturesRefused_atomicAhead :
    CapturesRefused "/\x7bx\x7dX" "(?!(?>abX|a)b)ab" "/abX" "x" "ab" :=
  ⟨_, _, _, by cbv, by cbv, by simp, rfl, by cbv⟩

theorem capturesRefused_anchorBehind : CapturesRefused "/\x7bx\x7d" "a(?<!^a)b" "/ab" "x" "ab" :=
  ⟨_, _, _, by cbv, by cbv, by simp, rfl, by cbv⟩

end CompiledTemplate

end UrlRouting
