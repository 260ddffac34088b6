import UrlRouting.Generation
import UrlRouting.Proofs.Template.Forms

/-!
# Paths made from parameters

A link fills in one of the forms of its template: the form that ends with the last variable which
the parameters supply.  What comes out is this text without the slash at its end
(`relative_eq_ok_iff`).
-/

namespace UrlRouting.Generation

def textOf (defaults : Attributes) (parameters : Parameters) (name : String) : String :=
  ((valueOf? defaults parameters name).map Value.toText).getD ""

def isSupplied (parameters : Parameters) (name : String) : Bool :=
  (present? (parameters.get? name)).isSome

/-- The number of variables that could be left out and are not, since one of them or of those after
it is supplied. -/
def placedCount (compiled : CompiledTemplate) (parameters : Parameters) : Nat :=
  (compiled.optionalNames.rdropWhile fun name => !isSupplied parameters name).length

/-- The text of a template that is filled in. -/
def filledText (compiled : CompiledTemplate) (defaults : Attributes) (parameters : Parameters) :
    String :=
  String.ofList (compiled.form (Segment.filled (textOf defaults parameters))
    (placedCount compiled parameters))

/-- A path in the notation of links: not empty, and without a slash at the end of a longer path. -/
def canonical (path : String) : String :=
  if path = "" then "/"
  else if path = "/" ∨ path.toList.getLast? ≠ some '/' then path
  else String.ofList path.toList.dropLast

/-! ### Segments that are left out -/

theorem dropUnsupplied_eq_dropWhile (supplied : String → Bool) (segments : List Segment) :
    dropUnsupplied supplied segments =
      segments.dropWhile fun segment => !segment.variableName?.any supplied := by
  fun_induction dropUnsupplied supplied segments with
  | case1 => rfl
  | case2 text rest inductionHypothesis => simpa [Segment.variableName?] using inductionHypothesis
  | case3 name converter rest isSupplied => simp [Segment.variableName?, isSupplied]
  | case4 name converter notSupplied text rest inductionHypothesis =>
      simpa [Segment.variableName?, notSupplied] using inductionHypothesis
  | case5 name converter notSupplied rest _ inductionHypothesis =>
      simpa [Segment.variableName?, notSupplied] using inductionHypothesis

theorem rdropWhile_cons {α : Type} (isDropped : α → Bool) (first : α) (rest : List α) :
    (first :: rest).rdropWhile isDropped =
      if rest.rdropWhile isDropped = [] ∧ isDropped first then []
      else first :: rest.rdropWhile isDropped := by
  unfold List.rdropWhile
  rw [List.reverse_cons, List.dropWhile_append]
  by_cases nothing : rest.reverse.dropWhile isDropped = []
  · cases dropped : isDropped first <;> simp [nothing, dropped]
  · simp [nothing]

/-- The segments that are kept end with the last variable that is kept. -/
theorem rdropWhile_eq_throughVariable (supplied : String → Bool) (segments : List Segment) :
    segments.rdropWhile (fun segment => !segment.variableName?.any supplied) =
      throughVariable Segment.isVariable
        ((segments.filterMap (·.variableName?)).rdropWhile fun name => !supplied name).length
        segments := by
  induction segments with
  | nil => rfl
  | cons segment rest inductionHypothesis =>
      rw [rdropWhile_cons, inductionHypothesis]
      cases segment with
      | literal text =>
          rw [List.filterMap_cons_none (by rfl)]
          cases keeps : (rest.filterMap (·.variableName?)).rdropWhile
              fun name => !supplied name with
          | nil => simp [Segment.variableName?]
          | cons name others =>
              have more : rest ≠ [] := by
                rintro rfl
                simp at keeps
              obtain ⟨next, after, rfl⟩ := List.exists_cons_of_ne_nil more
              simp [throughVariable, Segment.isVariable, Segment.variableName?]
      | var name converter =>
          rw [List.filterMap_cons_some (b := name) (by rfl), rdropWhile_cons]
          cases keeps : (rest.filterMap (·.variableName?)).rdropWhile
              fun name => !supplied name with
          | nil =>
              cases isSupplied : supplied name <;>
                simp [Segment.variableName?, isSupplied]
          | cons other others =>
              have more : rest ≠ [] := by
                rintro rfl
                simp at keeps
              obtain ⟨next, after, rfl⟩ := List.exists_cons_of_ne_nil more
              simp [throughVariable, Segment.isVariable, Segment.variableName?]

theorem rdropWhile_eq_take {α : Type} {isDropped : α → Bool} {items : List α} {count : Nat}
    (keeps : ∀ item ∈ items.take count, isDropped item = false)
    (drops : ∀ item ∈ items.drop count, isDropped item) :
    items.rdropWhile isDropped = items.take count := by
  have drops_reverse : ∀ item ∈ (items.drop count).reverse, isDropped item :=
    fun item membership => drops item (List.mem_reverse.mp membership)
  have keeps_self : (items.take count).rdropWhile isDropped = items.take count := by
    rw [List.rdropWhile_eq_self_iff]
    intro more
    simp [keeps _ (List.getLast_mem more)]
  -- What is dropped first is the rest behind the given count; then nothing more is.
  rw [← keeps_self]
  conv_lhs => rw [← List.take_append_drop count items]
  unfold List.rdropWhile
  rw [List.reverse_append, List.dropWhile_append_of_pos drops_reverse]

/-! ### Segments that are filled in -/

section

variable {compiled : CompiledTemplate} {filling : Filling} {values : String → String}
  (filled : ∀ name ∈ compiled.variableNames, filling.lookup name = some (values name))

include filled

theorem segmentText_eq {segment : Segment} (membership : segment ∈ compiled.segments) :
    (segmentText filling segment).toList = segment.filled values := by
  cases segment with
  | literal text => rfl
  | var name converter =>
      have isVariable : name ∈ compiled.variableNames :=
        Segment.mem_names_iff.mpr ⟨converter, membership⟩
      rw [segmentText, filled name isVariable]
      rfl

/-- The text that a path is made of is a form of the template: that which ends with the last
variable that is supplied. -/
theorem substitute_eq (supplied : String → Bool) :
    substitute compiled filling supplied =
      let text := String.ofList (compiled.form (Segment.filled values)
        (compiled.optionalNames.rdropWhile fun name => !supplied name).length)
      if text = "" then "/" else text := by
  have bounded : (compiled.optionalNames.rdropWhile fun name => !supplied name).length ≤
      compiled.optionalNames.length := (List.rdropWhile_prefix _ _).length_le
  have keeps : (dropUnsupplied supplied
      (compiled.segments.drop compiled.optionalFrom).reverse).reverse =
      throughVariable Segment.isVariable
        (compiled.optionalNames.rdropWhile fun name => !supplied name).length
        (compiled.segments.drop compiled.optionalFrom) := by
    rw [dropUnsupplied_eq_dropWhile]
    exact rdropWhile_eq_throughVariable supplied _
  generalize (compiled.optionalNames.rdropWhile fun name => !supplied name).length = count at *
  have joined : (String.join ((compiled.kept count).map (segmentText filling))).toList =
      (compiled.kept count).flatMap (Segment.filled values) := by
    rw [String.toList_join, List.flatMap_map]
    apply List.flatMap_congr
    intro segment membership
    exact segmentText_eq filled (CompiledTemplate.mem_segments_of_mem_kept membership)
  rw [CompiledTemplate.kept] at joined
  unfold substitute
  simp only [keeps, List.isEmpty_iff, throughVariable_eq_nil_iff bounded, Bool.and_eq_true,
    String.isEmpty_iff]
  unfold CompiledTemplate.form CompiledTemplate.kept
  simp only [← joined]
  split
  · rfl
  · simp only [String.ofList_toList]

end

/-! ### Values of variables -/

theorem valueOf?_of_parameter {defaults : Attributes} {parameters : Parameters} {name : String}
    {value : Value} (found : parameters.get? name = some value) (notNull : value ≠ .null) :
    valueOf? defaults parameters name = some value := by
  have isPresent : present? (some value) = some value := by
    cases value <;> first | rfl | exact absurd rfl notNull
  rw [valueOf?, found, isPresent]

theorem valueOf?_of_default {defaults : Attributes} {parameters : Parameters} {name : String}
    {value : Value} (absent : parameters.get? name = none)
    (found : defaults.named? name = some value) (notNull : value ≠ .null) :
    valueOf? defaults parameters name = some value := by
  have isPresent : present? (some value) = some value := by
    cases value <;> first | rfl | exact absurd rfl notNull
  rw [valueOf?, absent, found, isPresent]
  rfl

/-! ### What is filled in -/

variable {compiled : CompiledTemplate} {defaults : Attributes} {parameters : Parameters}

theorem placedCount_le (compiled : CompiledTemplate) (parameters : Parameters) :
    placedCount compiled parameters ≤ compiled.optionalNames.length :=
  (List.rdropWhile_prefix _ _).length_le

theorem haveTexts_iff {names : List String} :
    haveTexts defaults parameters names = true ↔
      ∀ name ∈ names, ∀ value, valueOf? defaults parameters name = some value →
        value.hasText = true := by
  unfold haveTexts
  rw [List.all_eq_true]
  apply forall₂_congr
  intro name _
  cases valueOf? defaults parameters name <;> simp

theorem haveTexts_eq_false {names : List String} {name : String} (isName : name ∈ names)
    {value : Value} (isValue : valueOf? defaults parameters name = some value)
    (hasNoText : value.hasText = false) : haveTexts defaults parameters names = false := by
  rw [← Bool.not_eq_true, haveTexts_iff]
  intro areWritten
  exact Bool.false_ne_true (hasNoText.symm.trans (areWritten name isName value isValue))

theorem missingVariables_eq_nil_iff {names : List String} :
    missingVariables defaults parameters names = [] ↔
      ∀ name ∈ names, (valueOf? defaults parameters name).isSome := by
  unfold missingVariables
  rw [List.filter_eq_nil_iff]
  apply forall₂_congr
  intro name _
  cases valueOf? defaults parameters name <;> simp

section

variable {names : List String}
  (given : ∀ name ∈ names, (valueOf? defaults parameters name).isSome)

include given

theorem filling_eq_map : filling defaults parameters names =
    names.map fun name => (name, textOf defaults parameters name) := by
  unfold filling
  rw [← List.filterMap_eq_map]
  apply List.filterMap_congr
  intro name membership
  obtain ⟨value, isValue⟩ := Option.isSome_iff_exists.mp (given name membership)
  simp [textOf, isValue]

theorem lookup_filling {name : String} (membership : name ∈ names) :
    (filling defaults parameters names).lookup name = some (textOf defaults parameters name) := by
  rw [filling_eq_map given]
  exact List.lookup_graph _ membership

theorem violation?_eq_none_iff :
    violation? compiled (filling defaults parameters names) = none ↔
      ∀ name ∈ names, ∀ expression, compiled.constraints.lookup name = some expression →
        expression.accepts (textOf defaults parameters name) := by
  rw [violation?, filling_eq_map given, List.find?_eq_none, List.forall_mem_map]
  apply forall₂_congr
  intro name _
  cases isConstrained : compiled.constraints.lookup name <;> simp [isConstrained]

end

/-- What a link fills in is a form of the template. -/
theorem substitute_filling
    (given : ∀ name ∈ compiled.variableNames, (valueOf? defaults parameters name).isSome) :
    substitute compiled (filling defaults parameters compiled.variableNames)
        (isSupplied parameters) =
      if filledText compiled defaults parameters = "" then "/"
      else filledText compiled defaults parameters :=
  substitute_eq (fun _ isVariable => lookup_filling given isVariable) (isSupplied parameters)

/-! ### Links -/

theorem stripSlash_eq_canonical (path : String) :
    stripSlash (if path = "" then "/" else path) = canonical path := by
  unfold stripSlash canonical
  by_cases isEmpty : path = ""
  · simp [isEmpty]
  · by_cases isRoot : path = "/"
    · simp [isRoot]
    · simp [isEmpty, isRoot]

theorem canonical_eq_self {path : String} (nonempty : path.toList ≠ [])
    (rootOfSlash : path.toList.getLast? = some '/' → path.toList = ['/']) :
    canonical path = path := by
  have notEmpty : path ≠ "" := by
    rintro rfl
    exact nonempty rfl
  rw [canonical, if_neg notEmpty]
  by_cases slash : path.toList.getLast? = some '/'
  · have isRoot : path = "/" := String.toList_injective (rootOfSlash slash)
    rw [if_pos (.inl isRoot)]
  · rw [if_pos (.inr slash)]

/-- A link is made if all variables have values that have texts, which their constraints accept. -/
theorem relative_eq_ok_iff {config : Config} {name : String} {route : Route}
    (noExtras : extras config.internalPrefix route.compiled.variableNames parameters = [])
    {url : String} :
    relative config name route parameters = .ok url ↔
      haveTexts route.defaults parameters route.compiled.variableNames ∧
      (∀ variableName ∈ route.compiled.variableNames,
        (valueOf? route.defaults parameters variableName).isSome) ∧
      (∀ variableName ∈ route.compiled.variableNames, ∀ expression,
        route.compiled.constraints.lookup variableName = some expression →
          expression.accepts (textOf route.defaults parameters variableName)) ∧
      url = canonical (filledText route.compiled route.defaults parameters) := by
  unfold relative
  dsimp only
  by_cases written : haveTexts route.defaults parameters route.compiled.variableNames = true
  swap
  · simp [written]
  rw [written, Bool.not_true, if_neg Bool.false_ne_true, and_iff_right rfl]
  by_cases given : ∀ variableName ∈ route.compiled.variableNames,
      (valueOf? route.defaults parameters variableName).isSome
  · have path_eq := substitute_filling given
    unfold isSupplied at path_eq
    rw [missingVariables_eq_nil_iff.mpr given, and_iff_right given,
      ← violation?_eq_none_iff given, path_eq, stripSlash_eq_canonical, noExtras]
    cases violation? route.compiled
        (filling route.defaults parameters route.compiled.variableNames) with
    | none => simpa [Query.haveTexts] using eq_comm
    | some violation => simp
  · have missing := mt missingVariables_eq_nil_iff.mp given
    simp [given, missing]

theorem extras_eq_nil {internalPrefix : String} {names : List String}
    (known : ∀ entry ∈ parameters, entry.1 ∈ names) :
    extras internalPrefix names parameters = [] := by
  unfold extras
  rw [List.filter_eq_nil_iff]
  intro entry membership
  simp [known entry membership]

end UrlRouting.Generation

namespace UrlRouting.RouteTable

theorem link_eq_relative {table : RouteTable Route} {name : String} {route : Route}
    (registered : table.get name = .ok route) (config : Config) (parameters : Parameters) :
    table.link config name parameters false =
      Generation.relative config name route parameters := by
  unfold link
  rw [registered]
  cases made : Generation.relative config name route parameters <;>
    simp [made, bind, Except.bind, pure, Except.pure]

/-- A link is not made, not even to be found incomplete, if the value of a variable has no text. -/
theorem link_of_hasText_eq_false {table : RouteTable Route} {name : String} {route : Route}
    (registered : table.get name = .ok route) {parameters : Parameters} {variableName : String}
    (isVariable : variableName ∈ route.compiled.variableNames) {value : Value}
    (isValue : Generation.valueOf? route.defaults parameters variableName = some value)
    (hasNoText : value.hasText = false) (config : Config) (absolute : Bool) :
    table.link config name parameters absolute = .error .tooManyDigits := by
  have notMade : Generation.relative config name route parameters = .error .tooManyDigits := by
    rw [Generation.relative, Generation.haveTexts_eq_false isVariable isValue hasNoText]
    rfl
  rw [link, registered]
  simp [notMade, bind, Except.bind]

theorem get_append_self {α : Type} (table : RouteTable α) (name : String) (value : α) :
    (table.append name value).get name = .ok value := by
  simp [get, get?, append, size]

end UrlRouting.RouteTable
