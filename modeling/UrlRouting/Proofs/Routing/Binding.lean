import UrlRouting.Proofs.Routing.Attributes
import UrlRouting.Proofs.Template.Omission

/-!
# Variables in the parameters of a match

A match binds the first variables of a route, up to one behind which all may be left out, and those
that are left out have defaults.  So its parameters tell of every variable
(`Route.binds_all_variables`).
-/

namespace UrlRouting

namespace Route

variable {route : Route} {path : String} {captured : List (String × Option String)} {name : String}

/-! ### Names in parameters -/

theorem hasName_parameters_of_default (defaults : Attributes)
    (captured : List (String × Option String)) (isThere : defaults.hasName name = true) :
    (parameters defaults captured none).hasName name = true := by
  induction captured generalizing defaults with
  | nil => exact isThere
  | cons first rest inductionHypothesis =>
      rcases first with ⟨other, text?⟩
      rw [parameters_cons]
      apply inductionHypothesis
      cases text? with
      | none => exact isThere
      | some text => exact Entries.has_put_of_has isThere (.text other) (.text text)

theorem hasName_parameters_of_mem (defaults : Attributes) {text : String}
    (membership : (name, some text) ∈ captured) :
    (parameters defaults captured none).hasName name = true := by
  obtain ⟨front, behind, rfl⟩ := List.append_of_mem membership
  rw [parameters, List.foldl_append]
  exact hasName_parameters_of_default _ behind (Attributes.hasName_putName_self ..)

theorem hasName_parameters_of_none {defaults : Attributes} (routeName : Option String)
    (isThere : (parameters defaults captured none).hasName name = true) :
    (parameters defaults captured routeName).hasName name = true := by
  cases routeName with
  | none => exact isThere
  | some routeName => exact Entries.has_put_of_has isThere (.text nameKey) (.text routeName)

/-! ### Variables in a match -/

theorem mem_boundNames_of_not_optional
    (found : route.compiled.expression.fullMatch? path = some captured)
    (isVariable : name ∈ route.variableNames) (notOptional : name ∉ route.compiled.optionalNames) :
    name ∈ route.compiled.boundNames captured := by
  obtain ⟨count, -, bound_eq⟩ := CompiledTemplate.exists_boundNames_eq route.compile_eq found
  rw [bound_eq, CompiledTemplate.keptNames_eq, List.mem_append]
  rw [variableNames, CompiledTemplate.variableNames_eq, List.mem_append] at isVariable
  exact .inl (isVariable.resolve_right notOptional)

theorem hasDefault_of_not_bound
    (found : route.compiled.expression.fullMatch? path = some captured)
    (isVariable : name ∈ route.variableNames)
    (notBound : name ∉ route.compiled.boundNames captured) :
    route.defaults.hasName name = true := by
  apply CompiledTemplate.hasDefault_of_mem_optionalNames route.compile_eq
  by_contra notOptional
  exact notBound (mem_boundNames_of_not_optional found isVariable notOptional)

theorem takes_of_fullMatch? (found : route.compiled.expression.fullMatch? path = some captured)
    (method : String) (routeName : Option String) :
    route.takes path method routeName =
      if route.supportsMethod method then .ok (parameters route.defaults captured routeName)
      else .error .method := by
  rw [takes, found]

theorem hasName_of_takes
    (found : route.compiled.expression.fullMatch? path = some captured)
    (isVariable : name ∈ route.variableNames) {method : String} {routeName : Option String}
    {attributes : Attributes} (isTaken : route.takes path method routeName = .ok attributes) :
    attributes.hasName name = true := by
  rw [takes_of_fullMatch? found] at isTaken
  split at isTaken
  case isFalse => cases isTaken
  obtain rfl := Except.ok.inj isTaken
  apply hasName_parameters_of_none
  by_cases isBound : name ∈ route.compiled.boundNames captured
  · obtain ⟨-, text, membership⟩ := CompiledTemplate.mem_boundNames_iff.mp isBound
    exact hasName_parameters_of_mem _ membership
  · exact hasName_parameters_of_default _ _ (hasDefault_of_not_bound found isVariable isBound)

/-- The variables that a match binds are the first ones of the route, with all that may not be left
out, so that none is bound behind one that is left out.  Those that are left out have defaults, and
the parameters of the match have an entry for every variable. -/
theorem binds_all_variables (route : Route) (path : String)
    (captured : List (String × Option String))
    (found : route.compiled.expression.fullMatch? path = some captured) :
    route.compiled.boundNames captured <+: route.variableNames ∧
    (∀ name ∈ route.variableNames, name ∉ route.compiled.optionalNames →
      name ∈ route.compiled.boundNames captured) ∧
    (route.variableNames.Pairwise fun earlier later =>
      later ∈ route.compiled.boundNames captured →
        earlier ∈ route.compiled.boundNames captured) ∧
    (∀ name ∈ route.variableNames, name ∉ route.compiled.boundNames captured →
      route.defaults.hasName name = true) ∧
    (∀ (method : String) (routeName : Option String),
      (route.supportsMethod method = true →
        ∃ attributes, route.takes path method routeName = .ok attributes) ∧
      ∀ attributes, route.takes path method routeName = .ok attributes →
        ∀ name ∈ route.variableNames, attributes.hasName name = true) := by
  obtain ⟨count, -, bound_eq⟩ := CompiledTemplate.exists_boundNames_eq route.compile_eq found
  have isPrefix : route.compiled.boundNames captured <+: route.variableNames :=
    bound_eq ▸ route.compiled.keptNames_isPrefix count
  have nodup : route.variableNames.Nodup :=
    (Segment.areParsed_of_parse
      (CompiledTemplate.compiles_of_compile route.compile_eq).parse).nodup
  refine ⟨isPrefix, fun name => mem_boundNames_of_not_optional found,
    pairwise_mem_of_isPrefix nodup isPrefix,
    fun name => hasDefault_of_not_bound found, ?_⟩
  intro method routeName
  constructor
  · intro supported
    exact ⟨_, (takes_of_fullMatch? found method routeName).trans (if_pos supported)⟩
  · intro attributes isTaken name isVariable
    exact hasName_of_takes found isVariable isTaken

/-- A page of a list, and the first page if none is named.  The expression for the kind of the list
looks ahead, and tries more than one text. -/
theorem list_binds_all_variables : ∃ (route : Route) (captured : List (String × Option String)),
    route.path = "/list/{kind}/{page}" ∧
    route.defaults = [(.text "page", .int 1), (.text "kind", .text "all")] ∧
    route.requirements = [(.text "kind", "(?=[a-z])(?:[a-z]+/)?[a-z]+")] ∧
    route.compiled.expression.fullMatch? "/list/old" = some captured ∧
    route.variableNames = ["kind", "page"] ∧
    route.compiled.boundNames captured = ["kind"] ∧
    route.compiled.boundNames captured <+: route.variableNames ∧
    route.takes "/list/old" "GET" none =
      .ok [(.text "page", .int 1), (.text "kind", .text "old")] ∧
    ∀ name ∈ route.variableNames,
      Attributes.hasName [(.text "page", .int 1), (.text "kind", .text "old")] name = true := by
  obtain ⟨compiled, compile_eq, found, names_eq⟩ : ∃ compiled,
      CompiledTemplate.compile "/list/{kind}/{page}"
        [(.text "page", .int 1), (.text "kind", .text "all")]
        [(.text "kind", "(?=[a-z])(?:[a-z]+/)?[a-z]+")] = .ok compiled ∧
      compiled.expression.fullMatch? "/list/old" = some [("kind", some "old"), ("page", none)] ∧
      compiled.variableNames = ["kind", "page"] :=
    ⟨_, by cbv, by cbv, by cbv⟩
  obtain ⟨route, path_eq, defaults_eq, requirements_eq, methods_eq, rfl⟩ : ∃ route : Route,
      route.path = "/list/{kind}/{page}" ∧
      route.defaults = [(.text "page", .int 1), (.text "kind", .text "all")] ∧
      route.requirements = [(.text "kind", "(?=[a-z])(?:[a-z]+/)?[a-z]+")] ∧
      route.methods = .empty ∧ route.compiled = compiled :=
    ⟨⟨_, _, _, .empty, compiled, compile_eq, ⟨[], rfl⟩⟩, rfl, rfl, rfl, rfl, rfl⟩
  have takes : route.takes "/list/old" "GET" none =
      .ok [(.text "page", .int 1), (.text "kind", .text "old")] := by
    rw [takes_of_fullMatch? found, supportsMethod, methods_eq, defaults_eq]
    rfl
  have bound : route.compiled.boundNames [("kind", some "old"), ("page", none)] = ["kind"] := by
    rw [CompiledTemplate.boundNames, names_eq]
    decide
  obtain ⟨isPrefix, -, -, -, answers⟩ := binds_all_variables route "/list/old" _ found
  exact ⟨route, _, path_eq, defaults_eq, requirements_eq, found, names_eq, bound, isPrefix, takes,
    (answers "GET" none).2 _ takes⟩

end Route

end UrlRouting
