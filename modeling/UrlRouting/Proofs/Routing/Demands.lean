import UrlRouting.Proofs.Routing.Generation
import UrlRouting.Proofs.Template.Omission

/-!
# Parameters that a link asks for

A link lacks parameters if some variable has neither a parameter nor a default with a value, while
all values that there are have texts (`RouteTable.link_eq_missingParameters_iff`).  Where all
variables are given that a path cannot leave out, the others have defaults, so that only the null
value as a default is asked for (`RouteTable.optional_variables_missing_iff`).
-/

namespace UrlRouting

/-! ### Defaults -/

theorem Attributes.hasName_iff (attributes : Attributes) (name : String) :
    attributes.hasName name = true ↔ ∃ value, attributes.named? name = some value := by
  rw [hasName, named?, Entries.has, Entries.get?, List.any_eq_true, ← List.find?_isSome,
    Option.isSome_iff_exists]
  constructor
  · rintro ⟨entry, isEntry⟩
    exact ⟨entry.2, by rw [isEntry, Option.map_some]⟩
  · rintro ⟨value, isValue⟩
    obtain ⟨entry, isEntry, -⟩ := Option.map_eq_some_iff.mp isValue
    exact ⟨entry, isEntry⟩

namespace Generation

variable {defaults : Attributes} {parameters : Parameters} {name : String}

theorem present?_eq_none_iff {value? : Option Value} :
    present? value? = none ↔ value? = none ∨ value? = some .null := by
  unfold present?
  split <;> simp_all

theorem valueOf?_of_isSupplied (isGiven : isSupplied parameters name = true) :
    (valueOf? defaults parameters name).isSome = true := by
  obtain ⟨value, isValue⟩ := Option.isSome_iff_exists.mp isGiven
  rw [valueOf?, isValue]
  rfl

/-- Of the variables that have a default, those lack a value that are not supplied and whose default
is the null value. -/
theorem valueOf?_eq_none_iff_of_hasName (isThere : defaults.hasName name = true) :
    valueOf? defaults parameters name = none ↔
      isSupplied parameters name = false ∧ defaults.named? name = some .null := by
  obtain ⟨value, isDefault⟩ := (Attributes.hasName_iff defaults name).mp isThere
  cases supplied : present? (parameters.get? name) with
  | some given =>
      rw [valueOf?, isSupplied, supplied]
      simp
  | none =>
      rw [valueOf?, isSupplied, supplied]
      dsimp only
      rw [present?_eq_none_iff, isDefault]
      simp

/-- Whether the default of a variable is the null value. -/
def hasNullDefault (defaults : Attributes) (name : String) : Bool :=
  match defaults.named? name with
  | some .null => true
  | _ => false

theorem hasNullDefault_iff :
    hasNullDefault defaults name = true ↔ defaults.named? name = some .null := by
  unfold hasNullDefault
  split <;> simp_all

/-- Where all variables before the end of a template that may be left out are supplied, only
variables at this end can lack a value. -/
theorem missingVariables_of_isSupplied {compiled : CompiledTemplate}
    (haveDefaults : ∀ name ∈ compiled.optionalNames, defaults.hasName name = true)
    (given : ∀ name ∈ (compiled.segments.take compiled.optionalFrom).filterMap (·.variableName?),
      isSupplied parameters name = true) :
    missingVariables defaults parameters compiled.variableNames =
      compiled.optionalNames.filter fun name =>
        !isSupplied parameters name && hasNullDefault defaults name := by
  rw [missingVariables, CompiledTemplate.variableNames_eq, List.filter_append,
    List.filter_eq_nil_iff.mpr, List.nil_append]
  · apply List.filter_congr
    intro name isOptional
    rw [Bool.eq_iff_iff, Option.isNone_iff_eq_none,
      valueOf?_eq_none_iff_of_hasName (haveDefaults name isOptional), Bool.and_eq_true,
      Bool.not_eq_true', hasNullDefault_iff]
  · intro name isFixed lacks
    have isThere : (valueOf? defaults parameters name).isSome = true :=
      valueOf?_of_isSupplied (given name isFixed)
    rw [Option.isNone_iff_eq_none] at lacks
    rw [lacks] at isThere
    cases isThere

/-! ### Links -/

theorem relative_eq_missingParameters_iff {config : Config} {route : Route} {told : String}
    {missing : List String} :
    relative config name route parameters = .error (.missingParameters told missing) ↔
      told = name ∧ haveTexts route.defaults parameters route.variableNames ∧ missing ≠ [] ∧
        missing = missingVariables route.defaults parameters route.variableNames := by
  unfold relative
  dsimp only
  rw [Route.variableNames]
  generalize missingVariables route.defaults parameters route.compiled.variableNames = lacking
  cases haveTexts route.defaults parameters route.compiled.variableNames with
  | false => simp
  | true =>
      rw [Bool.not_true, if_neg Bool.false_ne_true]
      cases lacking with
      | nil =>
          rw [if_neg (by simp)]
          constructor
          · intro refuses
            split at refuses
            · cases refuses
            · split at refuses <;> cases refuses
          · rintro ⟨-, -, isThere, isEmpty⟩
            exact absurd isEmpty isThere
      | cons first rest =>
          rw [if_pos (by simp)]
          constructor
          · intro refuses
            cases refuses
            exact ⟨rfl, rfl, by simp, rfl⟩
          · rintro ⟨rfl, -, -, rfl⟩
            rfl

end Generation

namespace RouteTable

open Generation

/-- A link to a route that is there lacks parameters just if some variables have no value, which it
then lists in the order of the template, and the values of the others all have texts. -/
theorem link_eq_missingParameters_iff {table : RouteTable Route} {name : String} {route : Route}
    (registered : table.get name = .ok route) {config : Config} {parameters : Parameters}
    {absolute : Bool} {told : String} {missing : List String} :
    table.link config name parameters absolute = .error (.missingParameters told missing) ↔
      told = name ∧ haveTexts route.defaults parameters route.variableNames ∧ missing ≠ [] ∧
        missing = missingVariables route.defaults parameters route.variableNames := by
  have onlyRelative : table.link config name parameters absolute =
      .error (.missingParameters told missing) ↔
        relative config name route parameters = .error (.missingParameters told missing) := by
    unfold link
    rw [registered]
    cases made : relative config name route parameters with
    | error failure => simp only [made, bind, Except.bind]
    | ok path =>
        simp only [made, bind, Except.bind]
        cases absolute with
        | false => simp [pure, Except.pure]
        | true =>
            rw [if_pos rfl, Generation.absolute]
            split <;> simp
  exact onlyRelative.trans relative_eq_missingParameters_iff

/-- If all variables before the end of the template that may be left out have a parameter with a
value, a link asks for no others, but for those whose default is the null value: this counts as no
value, though the path may leave the variable out.  The failure lists just these, in the order of
the template.  It takes that all values of variables have texts, which is looked at first. -/
theorem optional_variables_missing_iff (table : RouteTable Route) (config : Config)
    (name : String) (route : Route) (registered : table.get name = .ok route)
    (parameters : Parameters)
    (given : ∀ variableName ∈ (route.compiled.segments.take
      route.compiled.optionalFrom).filterMap (·.variableName?),
      isSupplied parameters variableName = true)
    (absolute : Bool) (told : String) (missing : List String) :
    table.link config name parameters absolute = .error (.missingParameters told missing) ↔
      told = name ∧
        (∀ variableName ∈ route.variableNames, ∀ value,
          valueOf? route.defaults parameters variableName = some value → value.hasText) ∧
        missing ≠ [] ∧
        missing = route.compiled.optionalNames.filter fun variableName =>
          !isSupplied parameters variableName && hasNullDefault route.defaults variableName := by
  have haveDefaults (variableName : String)
      (isOptional : variableName ∈ route.compiled.optionalNames) :
      route.defaults.hasName variableName = true :=
    CompiledTemplate.hasDefault_of_mem_optionalNames route.compile_eq isOptional
  rw [link_eq_missingParameters_iff registered, haveTexts_iff, Route.variableNames,
    missingVariables_of_isSupplied haveDefaults given]

/-- Of three variables the first one is supplied, and the last two have defaults. -/
theorem exists_localized_list : ∃ (table : RouteTable Route) (route : Route),
    table.get "list" = .ok route ∧ route.path = "/{lang}/{page}/{size}" ∧
      route.defaults = [(.text "page", .null), (.text "size", .int 10)] ∧
      route.compiled.segments = [.literal "/", .var "lang" none, .literal "/", .var "page" none,
        .literal "/", .var "size" none] ∧
      route.compiled.optionalFrom = 3 := by
  obtain ⟨compiled, compile_eq, segments_eq, optionalFrom_eq⟩ : ∃ compiled,
      CompiledTemplate.compile "/{lang}/{page}/{size}"
        [(.text "page", .null), (.text "size", .int 10)] [] = .ok compiled ∧
      compiled.segments = [.literal "/", .var "lang" none, .literal "/", .var "page" none,
        .literal "/", .var "size" none] ∧
      compiled.optionalFrom = 3 :=
    ⟨_, by cbv, rfl, rfl⟩
  have registered := get_append_self .empty "list"
    (⟨_, _, _, .empty, compiled, compile_eq, ⟨[], rfl⟩⟩ : Route)
  exact ⟨_, _, registered, rfl, rfl, segments_eq, optionalFrom_eq⟩

/-- The page is asked for, since its default is the null value; the size is not. -/
theorem list_page_missing : ∃ (table : RouteTable Route) (route : Route),
    table.get "list" = .ok route ∧
      (∀ variableName ∈ (route.compiled.segments.take
        route.compiled.optionalFrom).filterMap (·.variableName?),
        isSupplied [("lang", .text "en")] variableName = true) ∧
      table.link .standard "list" [("lang", .text "en")] false =
        .error (.missingParameters "list" ["page"]) := by
  obtain ⟨table, route, registered, -, defaults_eq, segments_eq, optionalFrom_eq⟩ :=
    exists_localized_list
  have given : ∀ variableName ∈ (route.compiled.segments.take
      route.compiled.optionalFrom).filterMap (·.variableName?),
      isSupplied [("lang", .text "en")] variableName = true := by
    rw [segments_eq, optionalFrom_eq]
    decide
  refine ⟨table, route, registered, given, ?_⟩
  apply (optional_variables_missing_iff table .standard "list" route registered _ given false
    _ _).mpr
  refine ⟨rfl, ?_, by decide, ?_⟩
  · rw [← haveTexts_iff, Route.variableNames, CompiledTemplate.variableNames, segments_eq,
      defaults_eq]
    decide
  · rw [CompiledTemplate.optionalNames, segments_eq, optionalFrom_eq, defaults_eq]
    decide

/-- A variable may be left out of the path, and the link without it fails. -/
theorem optional_page_demanded : ∃ (table : RouteTable Route) (route : Route),
    table.get "blog" = .ok route ∧ route.path = "/blog/{page}" ∧
      (route.compiled.segments.take route.compiled.optionalFrom).filterMap (·.variableName?) = [] ∧
      (route.compiled.expression.fullMatch? "/blog").isSome = true ∧
      table.link .standard "blog" [] false = .error (.missingParameters "blog" ["page"]) := by
  obtain ⟨compiled, compile_eq, fixed_eq, found, made⟩ : ∃ compiled,
      CompiledTemplate.compile "/blog/{page}" [(.text "page", .null)] [] = .ok compiled ∧
      (compiled.segments.take compiled.optionalFrom).filterMap (·.variableName?) = [] ∧
      (compiled.expression.fullMatch? "/blog").isSome = true ∧
      ∀ compile_eq, Generation.relative .standard "blog"
        ⟨"/blog/{page}", [(.text "page", .null)], [], .empty, compiled, compile_eq, ⟨[], rfl⟩⟩
          [] = .error (.missingParameters "blog" ["page"]) := by
    refine ⟨_, by cbv, rfl, by cbv, ?_⟩
    intro compile_eq
    cbv
  have registered := get_append_self .empty "blog"
    (⟨_, _, _, .empty, compiled, compile_eq, ⟨[], rfl⟩⟩ : Route)
  refine ⟨_, _, registered, rfl, fixed_eq, found, ?_⟩
  rw [link_eq_relative registered]
  exact made compile_eq

end RouteTable

end UrlRouting
