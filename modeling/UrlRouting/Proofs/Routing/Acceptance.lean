import UrlRouting.Proofs.Routing.Attributes
import UrlRouting.Proofs.Routing.Generation
import UrlRouting.Proofs.Template.PathLanguage
import UrlRouting.Proofs.Value.Texts

/-!
# Routes and the links to them

A route whose variables are all constrained takes every text that a link is made of
(`RouteTable.accepts_of_link`).  Conversely, what a route captures of a path is enough to link to
this path (`RouteTable.link_captured`).
-/

namespace UrlRouting

open CompiledTemplate Generation

/-- Every variable has a requirement, or a converter other than the plain one. -/
def Route.IsConstrained (route : Route) : Prop :=
  ∀ name converter, .var name converter ∈ route.compiled.segments →
    (route.requirements.get? (.text name)).isSome ∨ converter.getD .str ≠ .str

/-! ### From links to paths -/

/-- The text that is filled in is a path of the template, if the variables without a constraint get
texts that they take. -/
theorem Generation.spells_filledText {route : Route}
    (regular : route.requirements.AreRegular route.compiled.variableNames)
    {parameters : Parameters}
    (accepted : ∀ name ∈ route.compiled.variableNames, ∀ expression,
      route.compiled.constraints.lookup name = some expression →
        expression.accepts (textOf route.defaults parameters name))
    (plain : ∀ name converter,
      .var name converter ∈ route.compiled.kept (placedCount route.compiled parameters) →
        route.requirements.get? (.text name) = none → converter.getD .str = .str →
          (textOf route.defaults parameters name).toList ∈
            Expression.languageOf Converter.str.pattern) :
    route.compiled.Spells route.requirements (textOf route.defaults parameters)
      (placedCount route.compiled parameters)
      (filledText route.compiled route.defaults parameters) := by
  refine ⟨placedCount_le .., ?_, by simp [filledText]⟩
  intro name converter membership
  have isSegment := mem_segments_of_mem_kept membership
  have isVariable : name ∈ route.compiled.variableNames :=
    Segment.mem_names_iff.mpr ⟨converter, isSegment⟩
  rcases (compiles_of_compile route.compile_eq).lookup_constraints isSegment regular with
    ⟨absent, isPlain, -⟩ | ⟨expression, isConstrained, accepts_iff⟩
  · rw [Requirements.sourceFor, absent, isPlain]
    exact plain name converter membership absent isPlain
  · exact (accepts_iff _).mp (accepted name isVariable expression isConstrained)

/-- A route whose variables are all constrained takes the text that the link is made of, of which
the link leaves out a slash at the end. -/
theorem RouteTable.accepts_of_link {table : RouteTable Route} {config : Config} {name : String}
    {route : Route} (registered : table.get name = .ok route)
    (regular : route.requirements.AreRegular route.compiled.variableNames)
    (constrained : route.IsConstrained) {parameters : Parameters}
    (noExtras : extras config.internalPrefix route.compiled.variableNames parameters = [])
    {url : String} (links : table.link config name parameters false = .ok url) :
    url = canonical (filledText route.compiled route.defaults parameters) ∧
      (route.compiled.expression.fullMatch?
        (filledText route.compiled route.defaults parameters)).isSome := by
  rw [link_eq_relative registered, relative_eq_ok_iff noExtras] at links
  obtain ⟨-, -, accepted, url_eq⟩ := links
  refine ⟨url_eq, (fullMatch?_isSome_of_spells route.compile_eq regular
    (spells_filledText regular accepted ?_))⟩
  intro variableName converter membership absent isPlain
  rcases constrained variableName converter (mem_segments_of_mem_kept membership) with
    required | converted
  · simp [absent] at required
  · exact absurd isPlain converted

/-- An item stands under its number, with a slash behind it that links leave out. -/
theorem exists_item : ∃ (table : RouteTable Route) (route : Route),
    table.get "item" = .ok route ∧ route.path = "/items/\x7bid:int\x7d/" ∧
      route.requirements.AreRegular route.compiled.variableNames ∧ route.IsConstrained ∧
      extras Config.standard.internalPrefix route.compiled.variableNames [("id", .int 7)] = [] ∧
      table.link .standard "item" [("id", .int 7)] false = .ok "/items/7" ∧
      route.compiled.expression.fullMatch? "/items/7" = none := by
  obtain ⟨compiled, compile_eq, segments_eq, made, refused⟩ : ∃ compiled,
      compile "/items/\x7bid:int\x7d/" [] [] = .ok compiled ∧
      compiled.segments = [.literal "/items/", .var "id" (some .int), .literal "/"] ∧
      (∀ compile_eq, Generation.relative .standard "item"
        ⟨"/items/\x7bid:int\x7d/", [], [], .empty, compiled, compile_eq, ⟨[], rfl⟩⟩
          [("id", .int 7)] = .ok "/items/7") ∧
      compiled.expression.fullMatch? "/items/7" = none := by
    refine ⟨_, by cbv, rfl, ?_, by cbv⟩
    intro compile_eq
    cbv
  have registered := RouteTable.get_append_self .empty "item"
    (⟨_, [], [], .empty, compiled, compile_eq, ⟨[], rfl⟩⟩ : Route)
  refine ⟨_, _, registered, rfl, ?_, ?_, ?_, ?_, refused⟩
  · exact Requirements.areRegular_of_forall_mem (by simp) _
  · intro name converter membership
    rw [segments_eq] at membership
    obtain ⟨-, rfl⟩ : name = "id" ∧ converter = some .int := by simpa using membership
    exact .inr (by decide)
  · rw [variableNames, segments_eq]
    rfl
  · rw [RouteTable.link_eq_relative registered]
    exact made compile_eq

theorem item_accepts_of_link : ∃ (table : RouteTable Route) (route : Route),
    table.get "item" = .ok route ∧ route.path = "/items/\x7bid:int\x7d/" ∧
      route.requirements.AreRegular route.compiled.variableNames ∧ route.IsConstrained ∧
      extras Config.standard.internalPrefix route.compiled.variableNames [("id", .int 7)] = [] ∧
      table.link .standard "item" [("id", .int 7)] false = .ok "/items/7" ∧
      "/items/7" = canonical (filledText route.compiled route.defaults [("id", .int 7)]) ∧
      (route.compiled.expression.fullMatch?
        (filledText route.compiled route.defaults [("id", .int 7)])).isSome := by
  obtain ⟨table, route, registered, path_eq, regular, constrained, noExtras, links, -⟩ :=
    exists_item
  exact ⟨table, route, registered, path_eq, regular, constrained, noExtras, links,
    RouteTable.accepts_of_link registered regular constrained noExtras links⟩

/-- The route of an item does not take the link itself. -/
theorem item_not_accepts_link : ∃ (table : RouteTable Route) (route : Route),
    table.get "item" = .ok route ∧ route.path = "/items/\x7bid:int\x7d/" ∧
      route.requirements.AreRegular route.compiled.variableNames ∧ route.IsConstrained ∧
      extras Config.standard.internalPrefix route.compiled.variableNames [("id", .int 7)] = [] ∧
      table.link .standard "item" [("id", .int 7)] false = .ok "/items/7" ∧
      ¬ (route.compiled.expression.fullMatch? "/items/7").isSome := by
  obtain ⟨table, route, registered, path_eq, regular, constrained, noExtras, links, refused⟩ :=
    exists_item
  refine ⟨table, route, registered, path_eq, regular, constrained, noExtras, links, ?_⟩
  rw [refused]
  exact Bool.false_ne_true

/-! ### From paths to links -/

/-- The parameters that a route captures of a path. -/
def RouteTable.capturedParameters (captured : List (String × Option String)) : Parameters :=
  captured.filterMap fun (name, text?) => text?.map fun text => (name, .text text)

theorem RouteTable.get?_filterMap (value? : String → Option Value) (names : List String)
    (name : String) :
    Entries.get? (names.filterMap fun other => (value? other).map fun value => (other, value))
        name = if name ∈ names then value? name else none := by
  induction names with
  | nil => rfl
  | cons first rest inductionHypothesis =>
      rw [List.filterMap_cons]
      by_cases isFirst : first = name
      · subst isFirst
        cases isValue : value? first with
        | none => simp [isValue, inductionHypothesis]
        | some value => simp [Entries.get?_cons]
      · cases isValue : value? first with
        | none => simp [inductionHypothesis, Ne.symm isFirst]
        | some value => simp [Entries.get?_cons, inductionHypothesis, isFirst, Ne.symm isFirst]

theorem RouteTable.get?_capturedParameters (names : List String)
    (text? : String → Option String) (name : String) :
    (capturedParameters (names.map fun name => (name, text? name))).get? name =
      if name ∈ names then (text? name).map Value.text else none := by
  rw [← get?_filterMap fun other => (text? other).map Value.text, capturedParameters,
    List.filterMap_map]
  congr 1
  apply List.filterMap_congr
  intro other _
  simp [Option.map_map, Function.comp_def]

theorem RouteTable.mem_of_mem_capturedParameters {captured : List (String × Option String)}
    {entry : String × Value} (membership : entry ∈ capturedParameters captured) :
    entry.1 ∈ captured.map (·.1) := by
  obtain ⟨⟨name, text?⟩, inCaptured, isEntry⟩ := List.mem_filterMap.mp membership
  obtain ⟨text, -, rfl⟩ := Option.map_eq_some_iff.mp isEntry
  exact List.mem_map_of_mem (f := (·.1)) inCaptured

/-- As many variables are placed as a path has, if those in the path are supplied. -/
theorem Generation.placedCount_eq {compiled : CompiledTemplate}
    (nodup : compiled.variableNames.Nodup) {parameters : Parameters} {count : Nat}
    (bounded : count ≤ compiled.optionalNames.length)
    (supplied : ∀ name ∈ compiled.variableNames,
      isSupplied parameters name = true ↔ name ∈ compiled.keptNames count) :
    placedCount compiled parameters = count := by
  rw [variableNames_eq] at nodup supplied
  obtain ⟨-, nodupOptional, apart⟩ := List.nodup_append.mp nodup
  have placed : compiled.optionalNames.rdropWhile (fun name => !isSupplied parameters name) =
      compiled.optionalNames.take count := by
    apply rdropWhile_eq_take
    · intro name membership
      rw [Bool.not_eq_false', supplied name
        (List.mem_append_right _ (List.mem_of_mem_take membership)), keptNames_eq]
      exact List.mem_append_right _ membership
    · intro name membership
      rw [Bool.not_eq_true', ← Bool.not_eq_true, supplied name
        (List.mem_append_right _ (List.mem_of_mem_drop membership)), keptNames_eq,
        List.mem_append]
      rintro (inFixed | inTake)
      · exact apart name inFixed name (List.mem_of_mem_drop membership) rfl
      · rw [← List.take_append_drop count compiled.optionalNames] at nodupOptional
        exact (List.nodup_append.mp nodupOptional).2.2 name inTake name membership rfl
  rw [placedCount, placed, List.length_take, Nat.min_eq_left bounded]

/-- The text that is filled in is a path, if the variables in the path are supplied with its
texts. -/
theorem Generation.filledText_eq_of_spells {compiled : CompiledTemplate}
    (nodup : compiled.variableNames.Nodup) {requirements : Requirements}
    {values : String → String} {count : Nat} {path : String}
    (spells : compiled.Spells requirements values count path) {defaults : Attributes}
    {parameters : Parameters}
    (supplied : ∀ name ∈ compiled.variableNames,
      isSupplied parameters name = true ↔ name ∈ compiled.keptNames count)
    (texts : ∀ name ∈ compiled.keptNames count, textOf defaults parameters name = values name) :
    filledText compiled defaults parameters = path := by
  rw [filledText, placedCount_eq nodup spells.bounded supplied]
  have form_eq : compiled.form (Segment.filled (textOf defaults parameters)) count =
      compiled.form (Segment.filled values) count := by
    apply form_congr
    intro segment membership
    cases segment with
    | literal text => rfl
    | var name converter =>
        rw [Segment.filled, texts name (Segment.mem_names_iff.mpr ⟨converter, membership⟩)]
        rfl
  rw [form_eq, ← spells.path_eq, String.ofList_toList]

theorem CompiledTemplate.Spells.accepts_of_lookup_constraints {route : Route}
    (regular : route.requirements.AreRegular route.compiled.variableNames)
    {values : String → String} {count : Nat} {path : String}
    (spells : route.compiled.Spells route.requirements values count path) {name : String}
    (isKept : name ∈ route.compiled.keptNames count) {expression : Expression}
    (isConstrained : route.compiled.constraints.lookup name = some expression) :
    expression.accepts (values name) := by
  obtain ⟨converter, inKept⟩ := Segment.mem_names_iff.mp isKept
  have compiles := compiles_of_compile route.compile_eq
  rcases compiles.lookup_constraints (mem_segments_of_mem_kept inKept) regular with
    ⟨-, -, absent⟩ | ⟨known, isKnown, accepts_iff⟩
  · rw [absent] at isConstrained
    simp at isConstrained
  · rw [isKnown] at isConstrained
    injection isConstrained with same
    subst same
    exact (accepts_iff _).mpr (spells.admitted _ converter inKept)

/-- A path can be linked to with the texts in it, if the variables that are left out have
defaults, and these have texts. -/
theorem RouteTable.link_of_spells {table : RouteTable Route} {name : String} {route : Route}
    (registered : table.get name = .ok route)
    (regular : route.requirements.AreRegular route.compiled.variableNames)
    {values : String → String} {count : Nat} {path : String}
    (spells : route.compiled.Spells route.requirements values count path) {config : Config}
    {parameters : Parameters}
    (noExtras : extras config.internalPrefix route.compiled.variableNames parameters = [])
    (ofKept : ∀ variableName ∈ route.compiled.keptNames count,
      parameters.get? variableName = some (.text (values variableName)))
    (ofLeft : ∀ variableName ∈ route.compiled.variableNames,
      variableName ∉ route.compiled.keptNames count → parameters.get? variableName = none ∧
        ∃ value, route.defaults.named? variableName = some value ∧ value ≠ .null ∧
          value.hasText ∧
          ∀ expression, route.compiled.constraints.lookup variableName = some expression →
            expression.accepts value.toText) :
    table.link config name parameters false = .ok (canonical path) := by
  have nodup := (Segment.areParsed_of_parse (compiles_of_compile route.compile_eq).parse).nodup
  have valueOfKept (variableName : String)
      (isKept : variableName ∈ route.compiled.keptNames count) :
      valueOf? route.defaults parameters variableName = some (.text (values variableName)) :=
    valueOf?_of_parameter (ofKept variableName isKept) (by simp)
  rw [link_eq_relative registered, relative_eq_ok_iff noExtras]
  refine ⟨haveTexts_iff.mpr ?_, ?_, ?_, ?_⟩
  · intro variableName isVariable value isValue
    by_cases isKept : variableName ∈ route.compiled.keptNames count
    · rw [valueOfKept variableName isKept] at isValue
      cases isValue
      rfl
    · obtain ⟨absent, other, isDefault, notNull, hasText, -⟩ :=
        ofLeft variableName isVariable isKept
      rw [valueOf?_of_default absent isDefault notNull] at isValue
      cases isValue
      exact hasText
  · intro variableName isVariable
    by_cases isKept : variableName ∈ route.compiled.keptNames count
    · rw [valueOfKept variableName isKept]
      rfl
    · obtain ⟨absent, value, isDefault, notNull, -⟩ := ofLeft variableName isVariable isKept
      rw [valueOf?_of_default absent isDefault notNull]
      rfl
  · intro variableName isVariable expression isConstrained
    rw [textOf]
    by_cases isKept : variableName ∈ route.compiled.keptNames count
    · rw [valueOfKept variableName isKept]
      exact spells.accepts_of_lookup_constraints regular isKept isConstrained
    · obtain ⟨absent, value, isDefault, notNull, -, accepted⟩ :=
        ofLeft variableName isVariable isKept
      rw [valueOf?_of_default absent isDefault notNull]
      exact accepted expression isConstrained
  · rw [filledText_eq_of_spells nodup spells]
    · intro variableName isVariable
      rw [isSupplied]
      by_cases isKept : variableName ∈ route.compiled.keptNames count
      · simp [ofKept variableName isKept, isKept, present?]
      · simp [(ofLeft variableName isVariable isKept).1, isKept, present?]
    · intro variableName isKept
      rw [textOf, valueOfKept variableName isKept]
      rfl

/-- The link to a path with what the route captures of it is this path again, in the notation of
links, if every variable that captures nothing has a default that can stand in its place. -/
theorem RouteTable.link_captured {table : RouteTable Route} {name : String} {route : Route}
    (registered : table.get name = .ok route)
    (regular : route.requirements.AreRegular route.compiled.variableNames) {path : String}
    {captured : List (String × Option String)}
    (found : route.compiled.expression.fullMatch? path = some captured)
    (fallback : ∀ variableName, (variableName, none) ∈ captured →
      ∃ value, route.defaults.named? variableName = some value ∧ value ≠ .null ∧ value.hasText ∧
        ∀ expression, route.compiled.constraints.lookup variableName = some expression →
          expression.accepts value.toText)
    (config : Config) :
    table.link config name (capturedParameters captured) false = .ok (canonical path) := by
  obtain ⟨count, values, spells, rfl⟩ :=
    exists_spells_of_fullMatch? route.compile_eq regular found
  apply link_of_spells registered regular spells
  · apply extras_eq_nil
    intro entry membership
    simpa using mem_of_mem_capturedParameters membership
  · intro variableName isKept
    rw [get?_capturedParameters, if_pos (mem_variableNames_of_mem_keptNames isKept),
      if_pos isKept]
    rfl
  · intro variableName isVariable isLeft
    constructor
    · rw [get?_capturedParameters, if_pos isVariable, if_neg isLeft]
      rfl
    · exact fallback variableName
        (List.mem_map.mpr ⟨variableName, isVariable, by rw [if_neg isLeft]⟩)

/-- The pages of a blog are numbered; without a number, the first one is meant. -/
theorem exists_blog : ∃ (table : RouteTable Route) (route : Route),
    table.get "blog" = .ok route ∧ route.path = "/blog/\x7bpage\x7d" ∧
      route.defaults = [(.text "page", .int 1)] ∧ route.methods = .empty ∧
      route.requirements = [(.text "page", "[0-9]+")] ∧
      route.requirements.AreRegular route.compiled.variableNames ∧
      route.compiled.segments = [.literal "/blog/", .var "page" none] ∧
      route.compiled.optionalFrom = 1 ∧ route.compiled.leadSeparator = some '/' ∧
      route.compiled.expression.fullMatch? "/blog" = some [("page", none)] ∧
      (∃ expression, route.compiled.constraints = [("page", expression)] ∧
        expression.accepts "1") ∧
      table.link .standard "blog" [("page", .int 7)] false = .ok "/blog/7" := by
  obtain ⟨compiled, compile_eq, segments_eq, optionalFrom_eq, leadSeparator_eq, found, accepted,
    made⟩ : ∃ compiled, compile "/blog/\x7bpage\x7d" [(.text "page", .int 1)]
        [(.text "page", "[0-9]+")] = .ok compiled ∧
      compiled.segments = [.literal "/blog/", .var "page" none] ∧ compiled.optionalFrom = 1 ∧
      compiled.leadSeparator = some '/' ∧
      compiled.expression.fullMatch? "/blog" = some [("page", none)] ∧
      (∃ expression, compiled.constraints = [("page", expression)] ∧ expression.accepts "1") ∧
      ∀ compile_eq, Generation.relative .standard "blog"
        ⟨"/blog/\x7bpage\x7d", [(.text "page", .int 1)], [(.text "page", "[0-9]+")], .empty,
          compiled, compile_eq, ⟨[], rfl⟩⟩ [("page", .int 7)] = .ok "/blog/7" := by
    refine ⟨_, by cbv, rfl, rfl, rfl, by cbv, ⟨_, rfl, by cbv⟩, ?_⟩
    intro compile_eq
    cbv
  have registered := RouteTable.get_append_self .empty "blog"
    (⟨_, _, _, .empty, compiled, compile_eq, ⟨[], rfl⟩⟩ : Route)
  refine ⟨_, _, registered, rfl, rfl, rfl, rfl, ?_, segments_eq, optionalFrom_eq,
    leadSeparator_eq, found, accepted, ?_⟩
  · apply Requirements.areRegular_of_forall_mem
    intro entry membership
    rw [List.mem_singleton.mp membership]
    exact ⟨_, by cbv, by decide⟩
  · rw [RouteTable.link_eq_relative registered]
    exact made compile_eq

theorem blog_link_captured : ∃ (table : RouteTable Route) (route : Route),
    table.get "blog" = .ok route ∧ route.path = "/blog/\x7bpage\x7d" ∧
      route.requirements.AreRegular route.compiled.variableNames ∧
      route.compiled.expression.fullMatch? "/blog" = some [("page", none)] ∧
      (∀ variableName, (variableName, none) ∈ [("page", (none : Option String))] →
        ∃ value, route.defaults.named? variableName = some value ∧ value ≠ .null ∧
          value.hasText ∧
          ∀ expression, route.compiled.constraints.lookup variableName = some expression →
            expression.accepts value.toText) ∧
      table.link .standard "blog" (RouteTable.capturedParameters [("page", none)]) false =
        .ok (canonical "/blog") := by
  obtain ⟨table, route, registered, path_eq, defaults_eq, -, -, regular, -, -, -, found,
    ⟨expression, constraints_eq, accepted⟩, -⟩ := exists_blog
  have fallback : ∀ variableName, (variableName, none) ∈ [("page", (none : Option String))] →
      ∃ value, route.defaults.named? variableName = some value ∧ value ≠ .null ∧ value.hasText ∧
        ∀ expression, route.compiled.constraints.lookup variableName = some expression →
          expression.accepts value.toText := by
    intro variableName membership
    obtain rfl : variableName = "page" := by simpa using membership
    refine ⟨.int 1, by rw [defaults_eq]; rfl, by simp, rfl, ?_⟩
    intro other isConstrained
    rw [constraints_eq, List.lookup_cons_self] at isConstrained
    injection isConstrained with same
    rw [← same]
    exact accepted
  exact ⟨table, route, registered, path_eq, regular, found, fallback,
    RouteTable.link_captured registered regular found fallback .standard⟩

/-- A blog whose pages are named by anything, with some value for a page that is left out. -/
theorem exists_blog_of_default (value : Value) : ∃ route : Route,
    route.path = "/blog/\x7bpage\x7d" ∧ route.defaults = [(.text "page", value)] ∧
      route.requirements = [] ∧ route.methods = .empty ∧
      route.compiled.variableNames = ["page"] ∧ route.compiled.constraints = [] ∧
      route.compiled.expression.fullMatch? "/blog" = some [("page", none)] := by
  obtain ⟨compiled, compile_eq, names_eq, constraints_eq, found⟩ :
      ∃ compiled, compile "/blog/\x7bpage\x7d" [(.text "page", value)] [] = .ok compiled ∧
        compiled.variableNames = ["page"] ∧ compiled.constraints = [] ∧
        compiled.expression.fullMatch? "/blog" = some [("page", none)] :=
    ⟨_, by cbv, by cbv, rfl, by cbv⟩
  exact ⟨⟨_, _, _, .empty, compiled, compile_eq, ⟨[], rfl⟩⟩, rfl, rfl, rfl, rfl, names_eq,
    constraints_eq, found⟩

/-- A blog takes its own path as the first page, but gives no link to it if the number of this page
is too long: there is a default that no constraint is against, and it cannot be turned into a
text. -/
theorem long_page_not_linked : ∃ (table : RouteTable Route) (route : Route),
    table.get "blog" = .ok route ∧ route.path = "/blog/\x7bpage\x7d" ∧
      route.requirements.AreRegular route.compiled.variableNames ∧
      route.compiled.expression.fullMatch? "/blog" = some [("page", none)] ∧
      (∀ variableName, (variableName, none) ∈ [("page", (none : Option String))] →
        ∃ value, route.defaults.named? variableName = some value ∧ value ≠ .null ∧
          ∀ expression, route.compiled.constraints.lookup variableName = some expression →
            expression.accepts value.toText) ∧
      table.link .standard "blog" (RouteTable.capturedParameters [("page", none)]) false =
        .error .tooManyDigits := by
  obtain ⟨route, path_eq, defaults_eq, requirements_eq, -, names_eq, constraints_eq, found⟩ :=
    exists_blog_of_default .tooLong
  have registered := RouteTable.get_append_self .empty "blog" route
  refine ⟨_, route, registered, path_eq, ?_, found, ?_, ?_⟩
  · apply Requirements.areRegular_of_forall_mem
    rw [requirements_eq]
    simp
  · intro variableName membership
    obtain rfl : variableName = "page" := by simpa using membership
    refine ⟨.tooLong, by rw [defaults_eq]; rfl, Value.tooLong_ne_null, ?_⟩
    rw [constraints_eq]
    simp
  · have isPage : Generation.valueOf? route.defaults [] "page" = some .tooLong := by
      rw [defaults_eq]
      rfl
    refine RouteTable.link_of_hasText_eq_false registered ?_ isPage Value.hasText_tooLong
      .standard false
    rw [names_eq]
    exact List.mem_singleton_self _

end UrlRouting
