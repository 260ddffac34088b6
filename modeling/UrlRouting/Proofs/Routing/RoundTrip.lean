import UrlRouting.Matching
import UrlRouting.Proofs.Routing.Acceptance
import UrlRouting.Proofs.Template.Endings

/-!
# Matching the links that are made

Where every variable of a route stands between slashes, a link to the route is taken by the route,
which gives back the values that the link is made of (`RouteTable.takes_link`).
-/

namespace UrlRouting

open CompiledTemplate Generation

/-- Routes whose links tell what they are made of: the template starts with a slash, slashes stand
between its variables and not in their texts, and what is left of it without the variables that may
be left out does not end in a slash, unless that is all there is. -/
structure Route.IsReversible (route : Route) : Prop where
  leading : ∃ text rest, route.compiled.segments = .literal text :: rest ∧
    text.toList.head? = some '/'
  slashes : Segment.HaveSlashes route.compiled.segments
  shortest : (route.compiled.form (·.written.toList) 0).getLast? = some '/' →
    route.compiled.form (·.written.toList) 0 = ['/']
  regular : route.requirements.AreRegular route.compiled.variableNames
  narrow : ∀ name ∈ route.compiled.variableNames, ∀ source,
    route.requirements.get? (.text name) = some source →
      ∀ text ∈ Expression.languageOf source, text ≠ [] ∧ '/' ∉ text

/-- The names of the variables that a link has in its path. -/
def Generation.placedNames (compiled : CompiledTemplate) (parameters : Parameters) :
    List String :=
  compiled.keptNames (placedCount compiled parameters)

namespace Route.IsReversible

variable {route : Route}

theorem areDivided (reversible : route.IsReversible) :
    Segment.AreDivided route.compiled.segments := by
  obtain ⟨text, rest, segments_eq, isSlash⟩ := reversible.leading
  have parsed := Segment.areParsed_of_parse (compiles_of_compile route.compile_eq).parse
  have separated := parsed.separated
  have slashes := reversible.slashes
  rw [segments_eq] at separated slashes ⊢
  exact .of_haveSlashes separated slashes fun _ => List.mem_of_head? isSlash

theorem areNarrow_of_spells (reversible : route.IsReversible) {values : String → String}
    {count : Nat} {path : String}
    (spells : route.compiled.Spells route.requirements values count path) :
    Segment.AreNarrow values (route.compiled.kept count) := by
  intro name converter membership
  have inside := spells.admitted name converter membership
  unfold Requirements.sourceFor at inside
  cases required : route.requirements.get? (.text name) with
  | none =>
      rw [required, Option.getD_none] at inside
      exact Converter.narrow_of_mem_languageOf inside
  | some source =>
      rw [required, Option.getD_some] at inside
      have isVariable : name ∈ route.compiled.variableNames :=
        Segment.mem_names_iff.mpr ⟨converter, mem_segments_of_mem_kept membership⟩
      exact reversible.narrow name isVariable source required _ inside

/-- A link to the route is the text that is filled in, and a path of the route. -/
theorem spells_link (reversible : route.IsReversible) {table : RouteTable Route} {config : Config}
    {name : String} (registered : table.get name = .ok route) {parameters : Parameters}
    (known : ∀ entry ∈ parameters, entry.1 ∈ route.compiled.variableNames)
    (narrow : ∀ variableName ∈ placedNames route.compiled parameters,
      textOf route.defaults parameters variableName ≠ "" ∧
        '/' ∉ (textOf route.defaults parameters variableName).toList)
    {url : String} (links : table.link config name parameters false = .ok url) :
    route.compiled.Spells route.requirements (textOf route.defaults parameters)
      (placedCount route.compiled parameters) url := by
  rw [RouteTable.link_eq_relative registered, relative_eq_ok_iff (extras_eq_nil known)] at links
  obtain ⟨-, -, accepted, url_eq⟩ := links
  have areNarrow : Segment.AreNarrow (textOf route.defaults parameters)
      (route.compiled.kept (placedCount route.compiled parameters)) := by
    intro variableName converter membership
    obtain ⟨nonempty, free⟩ :=
      narrow variableName (Segment.mem_names_iff.mpr ⟨converter, membership⟩)
    exact ⟨by simpa using nonempty, free⟩
  -- Variables without a constraint get texts between slashes, which is all that they ask for.
  have spells := spells_filledText reversible.regular accepted fun variableName converter
      membership _ _ => by
    obtain ⟨nonempty, free⟩ := areNarrow variableName converter membership
    exact Converter.mem_languageOf_str nonempty free
  have compiles := compiles_of_compile route.compile_eq
  obtain ⟨text, rest, segments_eq, isSlash⟩ := reversible.leading
  have notNil := form_ne_nil compiles.optionalFrom_eq compiles.leadSeparator_eq segments_eq isSlash
    (textOf route.defaults parameters) (placedCount route.compiled parameters)
  have rootOfSlash := form_eq_of_getLast?_eq compiles.leadSeparator_eq reversible.shortest
    (placedCount_le route.compiled parameters) areNarrow
  rw [← spells.path_eq] at notNil rootOfSlash
  rw [url_eq, canonical_eq_self notNil rootOfSlash]
  exact spells

/-- A path of the route is taken with the texts that are in it. -/
theorem exists_fullMatch?_eq (reversible : route.IsReversible) {values : String → String}
    {count : Nat} {path : String}
    (spells : route.compiled.Spells route.requirements values count path) :
    route.compiled.expression.fullMatch? path = some (route.compiled.variableNames.map fun name =>
      (name, if name ∈ route.compiled.keptNames count then some (values name) else none)) := by
  have isTaken := fullMatch?_isSome_of_spells route.compile_eq reversible.regular spells
  obtain ⟨captured, found⟩ := Option.isSome_iff_exists.mp isTaken
  obtain ⟨count', values', spells', rfl⟩ :=
    exists_spells_of_fullMatch? route.compile_eq reversible.regular found
  obtain ⟨rfl, sameValues⟩ := eq_of_form_eq (compiles_of_compile route.compile_eq).leadSeparator_eq
    reversible.areDivided spells.bounded spells'.bounded (reversible.areNarrow_of_spells spells)
    (reversible.areNarrow_of_spells spells') (spells.path_eq.symm.trans spells'.path_eq)
  rw [found]
  refine congrArg _ (List.map_congr_left ?_)
  intro name _
  by_cases isKept : name ∈ route.compiled.keptNames count
  · rw [if_pos isKept, if_pos isKept, sameValues name isKept]
  · rw [if_neg isKept, if_neg isKept]

end Route.IsReversible

/-! ### Tables -/

/-- The first route that takes a request is not behind any that takes it. -/
theorem Resolution.exists_among_eq_found {path method : String}
    {entries : List (String × Route)} {position : Nat} {name : String} {route : Route}
    (isEntry : entries[position]? = some (name, route)) {attributes : Attributes}
    (takes : route.takes path method (some name) = .ok attributes) (allowed : MethodSet) :
    ∃ index ≤ position, ∃ firstName first firstAttributes,
      entries[index]? = some (firstName, first) ∧
        first.takes path method (some firstName) = .ok firstAttributes ∧
        among path method allowed entries = .found firstName firstAttributes := by
  induction entries generalizing position allowed with
  | nil => simp at isEntry
  | cons entry rest inductionHypothesis =>
      rcases entry with ⟨firstName, first⟩
      rw [among]
      cases outcome : first.takes path method (some firstName) with
      | ok firstAttributes =>
          exact ⟨0, Nat.zero_le _, firstName, first, firstAttributes, rfl, outcome, rfl⟩
      | error mismatch =>
          cases position with
          | zero =>
              rw [List.getElem?_cons_zero, Option.some.injEq, Prod.mk.injEq] at isEntry
              obtain ⟨rfl, rfl⟩ := isEntry
              rw [takes] at outcome
              simp at outcome
          | succ position =>
              rw [List.getElem?_cons_succ] at isEntry
              cases mismatch with
              | path =>
                  obtain ⟨index, le, found⟩ := inductionHypothesis isEntry allowed
                  exact ⟨index + 1, Nat.succ_le_succ le, found⟩
              | method =>
                  obtain ⟨index, le, found⟩ :=
                    inductionHypothesis isEntry (allowed.union first.methods)
                  exact ⟨index + 1, Nat.succ_le_succ le, found⟩

namespace RouteTable

theorem exists_getElem?_of_get_eq {table : RouteTable Route} {name : String} {route : Route}
    (registered : table.get name = .ok route) :
    ∃ position entryName, table.positions[name]? = some position ∧
      table.entries[position]? = some (entryName, route) := by
  unfold get get? at registered
  cases isPosition : table.positions[name]? with
  | none => simp [isPosition] at registered
  | some position =>
      cases isEntry : table.entries[position]? with
      | none => simp [isPosition, isEntry] at registered
      | some entry =>
          rw [isPosition, Option.bind_some, isEntry] at registered
          injection registered with same
          exact ⟨position, entry.1, rfl, by rw [← same, isEntry]⟩

theorem run_resolveParameters_of_found {table : RouteTable Route} {path method name : String}
    {attributes : Attributes} (found : table.resolve path method = .found name attributes) :
    (Reported.run (table.resolveParameters path method)).2 = .ok attributes := by
  unfold resolveParameters
  rw [found]
  rfl

/-- A link to a reversible route is taken by it with the values that are placed in the link and, for
all other keys, with the defaults.  In the table, the route or one before it is found. -/
theorem takes_link {table : RouteTable Route} {config : Config} {name : String} {route : Route}
    (registered : table.get name = .ok route) (reversible : route.IsReversible)
    {parameters : Parameters}
    (known : ∀ entry ∈ parameters, entry.1 ∈ route.compiled.variableNames)
    (narrow : ∀ variableName ∈ placedNames route.compiled parameters,
      textOf route.defaults parameters variableName ≠ "" ∧
        '/' ∉ (textOf route.defaults parameters variableName).toList)
    {url : String} (links : table.link config name parameters false = .ok url) {method : String}
    (supported : route.supportsMethod method) :
    (∃ attributes, route.takes url method none = .ok attributes ∧
      (∀ variableName ∈ placedNames route.compiled parameters,
        attributes.named? variableName =
          some (.text (textOf route.defaults parameters variableName))) ∧
      ∀ key, (∀ variableName ∈ placedNames route.compiled parameters,
        key ≠ .text variableName) →
          Entries.get? attributes key = Entries.get? route.defaults key) ∧
    ∃ position index entryName entry attributes, table.positions[name]? = some position ∧
      index ≤ position ∧ table.entries[index]? = some (entryName, entry) ∧
      entry.takes url method (some entryName) = .ok attributes ∧
      table.resolve url method = .found entryName attributes ∧
      (Reported.run (table.resolveParameters url method)).2 = .ok attributes := by
  have nodup : route.compiled.variableNames.Nodup :=
    (Segment.areParsed_of_parse (compiles_of_compile route.compile_eq).parse).nodup
  have found := reversible.exists_fullMatch?_eq
    (reversible.spells_link registered known narrow links)
  have takes_eq (routeName : Option String) : route.takes url method routeName =
      .ok (Route.parameters route.defaults (route.compiled.variableNames.map fun variableName =>
        (variableName, if variableName ∈ placedNames route.compiled parameters then
          some (textOf route.defaults parameters variableName) else none)) routeName) := by
    rw [Route.takes, found]
    exact if_pos supported
  constructor
  -- Alone, the route gives no name of its own among the parameters; in a table, it does.
  · refine ⟨_, takes_eq none, ?_, ?_⟩
    · intro variableName isPlaced
      apply Route.named?_parameters_of_mem
      · simpa [Function.comp_def] using nodup
      · exact List.mem_map.mpr ⟨variableName, mem_variableNames_of_mem_keptNames isPlaced, by
          rw [if_pos isPlaced]⟩
    · intro key notPlaced
      apply Route.get?_parameters_of_ne
      intro variableName text membership
      obtain ⟨other, -, same⟩ := List.mem_map.mp membership
      injection same with same isText
      subst same
      exact notPlaced _ (Option.ite_none_right_eq_some.mp isText).1
  · obtain ⟨position, entryName, isPosition, isEntry⟩ := exists_getElem?_of_get_eq registered
    obtain ⟨index, le, firstName, first, attributes, isFirst, takes, isFound⟩ :=
      Resolution.exists_among_eq_found isEntry (takes_eq (some entryName)) .empty
    exact ⟨position, index, firstName, first, attributes, isPosition, le, isFirst, takes, isFound,
      run_resolveParameters_of_found isFound⟩

theorem blog_isReversible {route : Route}
    (segments_eq : route.compiled.segments = [.literal "/blog/", .var "page" none])
    (optionalFrom_eq : route.compiled.optionalFrom = 1)
    (leadSeparator_eq : route.compiled.leadSeparator = some '/')
    (requirements_eq : route.requirements = [(.text "page", "[0-9]+")])
    (regular : route.requirements.AreRegular route.compiled.variableNames) :
    route.IsReversible := by
  refine ⟨⟨_, _, segments_eq, rfl⟩, ?_, ?_, regular, ?_⟩
  · intro first firstConverter between second secondConverter isInfix
    rw [segments_eq] at isInfix
    have fewer := (isInfix.sublist.filterMap Segment.variableName?).length_le
    have one : ([.literal "/blog/", .var "page" none].filterMap
      Segment.variableName?).length = 1 := rfl
    rw [one] at fewer
    simp [Segment.variableName?] at fewer
  · rw [form, kept, segments_eq, optionalFrom_eq, leadSeparator_eq]
    decide
  · intro name _ source required text inside
    obtain rfl : source = "[0-9]+" := by
      rw [requirements_eq, Entries.get?_cons] at required
      split at required
      · exact (Option.some.inj required).symm
      · simp [Entries.get?] at required
    obtain ⟨expression, compiles, avoids, proper⟩ : ∃ expression,
        Expression.compile "[0-9]+" = .ok expression ∧
          expression.regex.avoids '/' ∧ expression.regex.isProper :=
      ⟨_, by cbv, by decide, by decide⟩
    rw [Expression.languageOf_eq compiles] at inside
    exact ⟨Regex.ne_nil_of_mem_language proper inside, Regex.notMem_of_mem_language avoids inside⟩

theorem blog_takes_link : ∃ (table : RouteTable Route) (route : Route),
    table.get "blog" = .ok route ∧ route.path = "/blog/\x7bpage\x7d" ∧ route.IsReversible ∧
      (∀ entry ∈ ([("page", .int 7)] : Parameters), entry.1 ∈ route.compiled.variableNames) ∧
      (∀ variableName ∈ placedNames route.compiled [("page", .int 7)],
        textOf route.defaults [("page", .int 7)] variableName ≠ "" ∧
          '/' ∉ (textOf route.defaults [("page", .int 7)] variableName).toList) ∧
      table.link .standard "blog" [("page", .int 7)] false = .ok "/blog/7" ∧
      route.supportsMethod "GET" ∧
      (∃ attributes, route.takes "/blog/7" "GET" none = .ok attributes ∧
        attributes.named? "page" = some (.text "7")) ∧
      ∃ attributes, (Reported.run (table.resolveParameters "/blog/7" "GET")).2 = .ok attributes := by
  obtain ⟨table, route, registered, path_eq, defaults_eq, methods_eq, requirements_eq, regular,
    segments_eq, optionalFrom_eq, leadSeparator_eq, -, -, links⟩ := exists_blog
  have reversible : route.IsReversible :=
    blog_isReversible segments_eq optionalFrom_eq leadSeparator_eq requirements_eq regular
  have names_eq : route.compiled.variableNames = ["page"] := by
    rw [variableNames, segments_eq]
    rfl
  have known : ∀ entry ∈ ([("page", .int 7)] : Parameters),
      entry.1 ∈ route.compiled.variableNames := by
    intro entry membership
    rw [names_eq, List.mem_singleton.mp membership]
    exact List.mem_singleton_self _
  have placed_eq : placedNames route.compiled [("page", .int 7)] = ["page"] := by
    rw [placedNames, placedCount, keptNames_eq, optionalNames, segments_eq, optionalFrom_eq]
    rfl
  have text_eq : textOf route.defaults [("page", .int 7)] "page" = "7" := by
    cbv
  have narrow : ∀ variableName ∈ placedNames route.compiled [("page", .int 7)],
      textOf route.defaults [("page", .int 7)] variableName ≠ "" ∧
        '/' ∉ (textOf route.defaults [("page", .int 7)] variableName).toList := by
    intro variableName isPlaced
    rw [placed_eq] at isPlaced
    rw [List.mem_singleton.mp isPlaced, text_eq]
    decide
  have supported : route.supportsMethod "GET" := by
    rw [Route.supportsMethod, methods_eq]
    rfl
  obtain ⟨⟨attributes, takes, placed, -⟩, -, -, -, -, others, -, -, -, -, -, resolves⟩ :=
    takes_link registered reversible known narrow links supported
  have isPage := placed "page" (by rw [placed_eq]; exact List.mem_singleton_self _)
  rw [text_eq] at isPage
  exact ⟨table, route, registered, path_eq, reversible, known, narrow, links, supported,
    ⟨attributes, takes, isPage⟩, others, resolves⟩

end RouteTable

end UrlRouting
