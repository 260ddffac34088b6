import UrlRouting.Proofs.Routing.Acceptance
import UrlRouting.Proofs.Table.Union

/-!
# Parameters of the path and parameters of the query

What a link says of its path, or why it fails, depends on the parameters that give values to
variables and on no others (`Generation.pathOf_congr`).  The others only come behind it, as a query,
and they fail only if one of them has no text (`RouteTable.link_separates`).
-/

namespace UrlRouting

/-- A key leads to what it led to among all entries, if this entry is kept. -/
theorem Entries.get?_filter {υ : Type} {entries : Entries String υ} (nodup : entries.names.Nodup)
    (keeps : String × υ → Bool) (name : String) :
    get? (entries.filter keeps) name =
      (entries.get? name).filter fun value => keeps (name, value) := by
  induction entries with
  | nil => rfl
  | cons first rest inductionHypothesis =>
      rcases first with ⟨known, value⟩
      obtain ⟨fresh, nodupRest⟩ : known ∉ names rest ∧ (names rest).Nodup :=
        List.nodup_cons.mp nodup
      have filtered := inductionHypothesis nodupRest
      by_cases isName : known = name
      · subst isName
        rw [get?_eq_none_iff.mpr fresh] at filtered
        cases isKept : keeps (known, value) with
        | true => simp [get?_cons, isKept, Option.filter_some]
        | false => simpa [get?_cons, isKept, Option.filter_some] using filtered
      · cases isKept : keeps (known, value) with
        | true => simpa [get?_cons, isKept, isName, List.filter_cons] using filtered
        | false => simpa [get?_cons, isKept, isName, List.filter_cons] using filtered

namespace Query

variable {parameters : List (String × Value)}

theorem haveTexts_iff :
    haveTexts parameters = true ↔
      ∀ parameter ∈ parameters, ∀ value ∈ valuesOf parameter.2, value.hasText = true := by
  simp only [haveTexts, List.all_eq_true]

theorem haveTexts_eq_false {parameter : String × Value} (isParameter : parameter ∈ parameters)
    {value : Value} (isGiven : value ∈ valuesOf parameter.2) (hasNoText : value.hasText = false) :
    haveTexts parameters = false := by
  rw [← Bool.not_eq_true, haveTexts_iff]
  intro areWritten
  exact Bool.false_ne_true (hasNoText.symm.trans (areWritten parameter isParameter value isGiven))

end Query

namespace Generation

/-- The parameters that give variables a value. -/
def ofVariables (names : List String) (parameters : Parameters) : Parameters :=
  parameters.filter fun (name, value) => names.contains name && (present? (some value)).isSome

/-- A path with a query behind it, if there is anything to put into one. -/
def withQuery (path : String) (others : Parameters) : String :=
  if others.isEmpty then path else path ++ "?" ++ Query.encode others

/-- Puts a query behind a path, which takes that all that is to be told has a text. -/
def addQuery (path : String) (others : Parameters) : Except Failure String :=
  if !Query.haveTexts others then .error .tooManyDigits else .ok (withQuery path others)

theorem addQuery_of_haveTexts {others : Parameters} (haveTexts : Query.haveTexts others = true)
    (path : String) : addQuery path others = .ok (withQuery path others) := by
  rw [addQuery, haveTexts]
  rfl

theorem addQuery_of_not_haveTexts {others : Parameters}
    (haveTexts : Query.haveTexts others = false) (path : String) :
    addQuery path others = .error .tooManyDigits := by
  rw [addQuery, haveTexts]
  rfl

/-- The path of a link without a query. -/
def pathOf (name : String) (route : Route) (parameters : Parameters) : Except Failure String :=
  let compiled := route.compiled
  let missing := missingVariables route.defaults parameters compiled.variableNames
  let filling := filling route.defaults parameters compiled.variableNames
  if !haveTexts route.defaults parameters compiled.variableNames then .error .tooManyDigits
  else if !missing.isEmpty then .error (.missingParameters name missing)
  else
    match violation? compiled filling with
    | some (variableName, text) =>
        let requirement := (compiled.requirements.lookup variableName).getD ""
        .error (.requirementViolated name variableName requirement text)
    | none => .ok (stripSlash (substitute compiled filling (isSupplied parameters)))

theorem relative_eq_bind (config : Config) (name : String) (route : Route)
    (parameters : Parameters) :
    relative config name route parameters =
      (pathOf name route parameters).bind fun path =>
        addQuery path (extras config.internalPrefix route.compiled.variableNames parameters) := by
  unfold relative pathOf
  dsimp only
  split
  · rfl
  split
  · rfl
  · cases violation? route.compiled
      (filling route.defaults parameters route.compiled.variableNames) <;> rfl

theorem absolute_withQuery (config : Config) (path : String) (others : Parameters) :
    absolute config (withQuery path others) =
      (absolute config path).map fun url => withQuery url others := by
  unfold absolute withQuery
  split
  · rfl
  · split
    · rfl
    · simp only [Except.map, String.append_assoc]

/-! ### What a path depends on -/

theorem dropUnsupplied_congr {supplied supplied' : String → Bool} {segments : List Segment}
    (same : ∀ name ∈ segments.filterMap (·.variableName?), supplied name = supplied' name) :
    dropUnsupplied supplied segments = dropUnsupplied supplied' segments := by
  rw [dropUnsupplied_eq_dropWhile, dropUnsupplied_eq_dropWhile]
  induction segments with
  | nil => rfl
  | cons segment rest inductionHypothesis =>
      have sameFirst : segment.variableName?.any supplied = segment.variableName?.any supplied' := by
        cases segment with
        | literal text => rfl
        | var name converter => exact same name List.mem_cons_self
      have sameRest := inductionHypothesis fun name membership => same name (by
        rw [← List.singleton_append, List.filterMap_append]
        exact List.mem_append_right _ membership)
      rw [List.dropWhile_cons, List.dropWhile_cons, sameFirst, sameRest]

theorem substitute_congr {compiled : CompiledTemplate} {supplied supplied' : String → Bool}
    (same : ∀ name ∈ compiled.optionalNames, supplied name = supplied' name)
    (filling : Filling) :
    substitute compiled filling supplied = substitute compiled filling supplied' := by
  have sameDropped : dropUnsupplied supplied
      (compiled.segments.drop compiled.optionalFrom).reverse =
        dropUnsupplied supplied' (compiled.segments.drop compiled.optionalFrom).reverse := by
    apply dropUnsupplied_congr
    intro name membership
    rw [List.filterMap_reverse, List.mem_reverse] at membership
    exact same name membership
  unfold substitute
  dsimp only
  rw [sameDropped]

/-- Parameters that give variables the same values make the same path, or fail alike. -/
theorem pathOf_congr {route : Route} {parameters parameters' : Parameters}
    (same : ∀ name ∈ route.compiled.variableNames,
      present? (parameters.get? name) = present? (parameters'.get? name)) (name : String) :
    pathOf name route parameters = pathOf name route parameters' := by
  have sameValues (variableName : String)
      (isVariable : variableName ∈ route.compiled.variableNames) :
      valueOf? route.defaults parameters variableName =
        valueOf? route.defaults parameters' variableName := by
    rw [valueOf?, valueOf?, same variableName isVariable]
  have sameTexts : haveTexts route.defaults parameters route.compiled.variableNames =
      haveTexts route.defaults parameters' route.compiled.variableNames := by
    rw [Bool.eq_iff_iff, haveTexts_iff, haveTexts_iff]
    apply forall₂_congr
    intro variableName isVariable
    rw [sameValues variableName isVariable]
  have sameMissing : missingVariables route.defaults parameters route.compiled.variableNames =
      missingVariables route.defaults parameters' route.compiled.variableNames := by
    apply List.filter_congr
    intro variableName isVariable
    rw [sameValues variableName isVariable]
  have sameFilling : filling route.defaults parameters route.compiled.variableNames =
      filling route.defaults parameters' route.compiled.variableNames := by
    apply List.filterMap_congr
    intro variableName isVariable
    rw [sameValues variableName isVariable]
  have sameText (filling : Filling) :
      substitute route.compiled filling (isSupplied parameters) =
        substitute route.compiled filling (isSupplied parameters') := by
    apply substitute_congr
    intro variableName isOptional
    rw [isSupplied, isSupplied, same variableName]
    rw [CompiledTemplate.variableNames_eq]
    exact List.mem_append_right _ isOptional
  unfold pathOf
  dsimp only
  rw [sameTexts, sameMissing, sameFilling, sameText]

/-- The parameters of variables make the path that all parameters make. -/
theorem pathOf_ofVariables {parameters : Parameters} (nodup : (Entries.names parameters).Nodup)
    (name : String) (route : Route) :
    pathOf name route (ofVariables route.compiled.variableNames parameters) =
      pathOf name route parameters := by
  apply pathOf_congr
  intro variableName isVariable
  unfold ofVariables
  rw [Entries.get?_filter nodup]
  cases found : parameters.get? variableName with
  | none => rfl
  | some value =>
      cases value <;> simp [isVariable, present?, Option.filter_some]

theorem extras_ofVariables (internalPrefix : String) (names : List String)
    (parameters : Parameters) :
    extras internalPrefix names (ofVariables names parameters) = [] := by
  apply extras_eq_nil
  intro entry membership
  have isKept := (List.mem_filter.mp membership).2
  rw [Bool.and_eq_true, List.contains_iff_mem] at isKept
  exact isKept.1

theorem relative_ofVariables {parameters : Parameters} (nodup : (Entries.names parameters).Nodup)
    (config : Config) (name : String) (route : Route) :
    relative config name route (ofVariables route.compiled.variableNames parameters) =
      pathOf name route parameters := by
  rw [relative_eq_bind, extras_ofVariables, pathOf_ofVariables nodup]
  cases pathOf name route parameters <;> rfl

end Generation

namespace RouteTable

open Generation

/-- The variables of the route with a name, none if there is no such route. -/
def variableNamesOf (table : RouteTable Route) (name : String) : List String :=
  ((table.get? name).map (·.variableNames)).getD []

/-- The parameters that a link to a name takes as values of variables. -/
def pathParameters (table : RouteTable Route) (name : String) (parameters : Parameters) :
    Parameters :=
  ofVariables (table.variableNamesOf name) parameters

/-- The other parameters that have a value, but for the internal ones. -/
def queryParameters (table : RouteTable Route) (config : Config) (name : String)
    (parameters : Parameters) : Parameters :=
  parameters.filter fun (key, value) =>
    (present? (some value)).isSome && !(table.variableNamesOf name).contains key &&
      !config.internalPrefix.toList.isPrefixOf key.toList

theorem variableNamesOf_eq {table : RouteTable Route} {name : String} {route : Route}
    (registered : table.get name = .ok route) :
    table.variableNamesOf name = route.compiled.variableNames := by
  unfold get at registered
  unfold variableNamesOf
  cases found : table.get? name with
  | none =>
      rw [found] at registered
      cases registered
  | some other =>
      rw [found] at registered
      cases registered
      rfl

theorem queryParameters_eq {table : RouteTable Route} {name : String} {route : Route}
    (registered : table.get name = .ok route) (config : Config) (parameters : Parameters) :
    table.queryParameters config name parameters =
      extras config.internalPrefix route.compiled.variableNames parameters := by
  unfold queryParameters extras
  rw [variableNamesOf_eq registered]
  apply List.filter_congr
  rintro ⟨key, value⟩ _
  dsimp only
  rw [Bool.and_assoc, Bool.and_comm]

/-- A link is what its path parameters make of it, with the query parameters behind it; if one of
these has no text, this is told before the base of the link is looked for. -/
theorem link_eq {parameters : Parameters} (nodup : (Entries.names parameters).Nodup)
    (table : RouteTable Route) (config : Config) (name : String) (absolute : Bool) :
    table.link config name parameters absolute =
      if Query.haveTexts (table.queryParameters config name parameters) then
        (table.link config name (table.pathParameters name parameters) absolute).map fun url =>
          withQuery url (table.queryParameters config name parameters)
      else
        (table.link config name (table.pathParameters name parameters) false).bind fun _ =>
          .error .tooManyDigits := by
  unfold link
  cases registered : table.get name with
  | error failure => cases Query.haveTexts (table.queryParameters config name parameters) <;> rfl
  | ok route =>
      rw [pathParameters, variableNamesOf_eq registered, queryParameters_eq registered]
      simp only [bind, Except.bind]
      rw [relative_ofVariables nodup, relative_eq_bind]
      cases haveTexts : Query.haveTexts
          (extras config.internalPrefix route.compiled.variableNames parameters) with
      | false =>
          cases pathOf name route parameters with
          | error failure => rfl
          | ok path =>
              rw [Except.bind, addQuery_of_not_haveTexts haveTexts]
              rfl
      | true =>
          cases pathOf name route parameters with
          | error failure => rfl
          | ok path =>
              rw [Except.bind, addQuery_of_haveTexts haveTexts]
              cases absolute with
              | false => rfl
              | true => exact absolute_withQuery config path _

/-- A link is what its path parameters make of it, if the query parameters have texts. -/
theorem link_eq_map {parameters : Parameters} (nodup : (Entries.names parameters).Nodup)
    (table : RouteTable Route) (config : Config) (name : String)
    (haveTexts : Query.haveTexts (table.queryParameters config name parameters) = true)
    (absolute : Bool) :
    table.link config name parameters absolute =
      (table.link config name (table.pathParameters name parameters) absolute).map fun url =>
        withQuery url (table.queryParameters config name parameters) := by
  rw [link_eq nodup, if_pos haveTexts]

/-- A link that is made is the one of the path parameters, with the query parameters behind it. -/
theorem exists_path_of_link {table : RouteTable Route} {config : Config} {name : String}
    {parameters : Parameters} (nodup : (Entries.names parameters).Nodup) {absolute : Bool}
    {url : String} (made : table.link config name parameters absolute = .ok url) :
    ∃ path, table.link config name (table.pathParameters name parameters) absolute = .ok path ∧
      url = withQuery path (table.queryParameters config name parameters) := by
  rw [link_eq nodup] at made
  split at made
  · cases linked : table.link config name (table.pathParameters name parameters) absolute with
    | error failure =>
        rw [linked] at made
        cases made
    | ok path =>
        rw [linked] at made
        exact ⟨path, rfl, (Except.ok.inj made).symm⟩
  · cases linked : table.link config name (table.pathParameters name parameters) false <;>
      rw [linked] at made <;> cases made

/-- A blog with pages that have a number. -/
theorem exists_blog_variableNames : ∃ table : RouteTable Route,
    table.variableNamesOf "blog" = ["page"] ∧
      table.link .standard "blog" [("page", .int 7)] false = .ok "/blog/7" := by
  obtain ⟨table, route, registered, -, -, -, -, -, segments_eq, -, -, -, -, made⟩ := exists_blog
  refine ⟨table, ?_, made⟩
  rw [variableNamesOf_eq registered, CompiledTemplate.variableNames, segments_eq]
  rfl

end RouteTable

end UrlRouting
