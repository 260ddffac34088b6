import UrlRouting.Proofs.Template.Tail

/-!
# The forms of a template

A path of a template has one of finitely many forms, one for each number of variables that are not
left out of those that may be.
-/

namespace UrlRouting

/-- Items up to and including the variable with a given count; none for zero. -/
def throughVariable {α : Type} (isVariable : α → Bool) : (count : Nat) → List α → List α
  | 0, _ => []
  | _ + 1, [] => []
  | count + 1, item :: rest =>
      item :: throughVariable isVariable (if isVariable item then count else count + 1) rest

@[simp] theorem throughVariable_zero {α : Type} (isVariable : α → Bool) (items : List α) :
    throughVariable isVariable 0 items = [] := by
  cases items <;> rfl

@[simp] theorem throughVariable_literal (count : Nat) (text : String) (rest : List Segment) :
    throughVariable Segment.isVariable (count + 1) (.literal text :: rest) =
      .literal text :: throughVariable Segment.isVariable (count + 1) rest :=
  rfl

@[simp] theorem throughVariable_var (count : Nat) (name : String) (converter : Option Converter)
    (rest : List Segment) :
    throughVariable Segment.isVariable (count + 1) (.var name converter :: rest) =
      .var name converter :: throughVariable Segment.isVariable count rest :=
  rfl

theorem map_throughVariable {α β : Type} {isVariable : α → Bool} {isVariable' : β → Bool}
    {change : α → β} (same : ∀ item, isVariable' (change item) = isVariable item) (count : Nat)
    (items : List α) :
    (throughVariable isVariable count items).map change =
      throughVariable isVariable' count (items.map change) := by
  induction items generalizing count with
  | nil => cases count <;> rfl
  | cons item rest inductionHypothesis =>
      cases count with
      | zero => rfl
      | succ count =>
          rw [throughVariable, List.map_cons, List.map_cons, throughVariable, inductionHypothesis,
            same]

theorem throughVariable_isPrefix {α : Type} (isVariable : α → Bool) (count : Nat)
    (items : List α) : throughVariable isVariable count items <+: items := by
  induction items generalizing count with
  | nil => cases count <;> exact List.nil_prefix
  | cons item rest inductionHypothesis =>
      cases count with
      | zero => exact List.nil_prefix
      | succ count =>
          rw [throughVariable, List.cons_prefix_cons]
          exact ⟨rfl, inductionHypothesis _⟩

theorem mem_of_mem_throughVariable {α : Type} {isVariable : α → Bool} {count : Nat}
    {items : List α} {item : α} (membership : item ∈ throughVariable isVariable count items) :
    item ∈ items :=
  (throughVariable_isPrefix isVariable count items).mem membership

theorem filterMap_throughVariable (count : Nat) (segments : List Segment) :
    (throughVariable Segment.isVariable count segments).filterMap (·.variableName?) =
      (segments.filterMap (·.variableName?)).take count := by
  induction segments generalizing count with
  | nil => cases count <;> rfl
  | cons segment rest inductionHypothesis =>
      cases count with
      | zero => rfl
      | succ count =>
          cases segment with
          | literal text => exact inductionHypothesis (count + 1)
          | var name converter =>
              rw [throughVariable, List.filterMap_cons_some (b := name) (by rfl),
                List.filterMap_cons_some (b := name) (by rfl), List.take_succ_cons]
              exact congrArg _ (inductionHypothesis count)

theorem throughVariable_eq_nil_iff {count : Nat} {segments : List Segment}
    (bounded : count ≤ (segments.filterMap (·.variableName?)).length) :
    throughVariable Segment.isVariable count segments = [] ↔ count = 0 := by
  constructor
  · intro nothing
    have noNames := filterMap_throughVariable count segments
    rw [nothing, List.filterMap_nil, eq_comm, ← List.length_eq_zero_iff, List.length_take,
      Nat.min_eq_left bounded] at noNames
    exact noNames
  · rintro rfl
    exact throughVariable_zero ..

def Segment.filled (values : String → String) : Segment → List Char
  | literal text => text.toList
  | var name _ => (values name).toList

namespace CompiledTemplate

/-- The segments of a path with `count` of the variables that may be left out. -/
def kept (compiled : CompiledTemplate) (count : Nat) : List Segment :=
  compiled.segments.take compiled.optionalFrom ++
    throughVariable Segment.isVariable count (compiled.segments.drop compiled.optionalFrom)

/-- A path with `count` of the variables that may be left out, whose segments have given texts.
Without any of these variables, it loses the separator that stands before them. -/
def form (compiled : CompiledTemplate) (text : Segment → List Char) (count : Nat) : List Char :=
  let whole := (compiled.kept count).flatMap text
  if count = 0 ∧ compiled.leadSeparator.isSome then whole.dropLast else whole

def keptNames (compiled : CompiledTemplate) (count : Nat) : List String :=
  (compiled.kept count).filterMap (·.variableName?)

/-- A path has the form with `count` of the variables that may be left out, and the texts of the
variables in it fit their requirements. -/
structure Spells (compiled : CompiledTemplate) (requirements : Requirements)
    (values : String → String) (count : Nat) (path : String) : Prop where
  bounded : count ≤ compiled.optionalNames.length
  admitted : ∀ name converter, .var name converter ∈ compiled.kept count →
    (values name).toList ∈
      Expression.languageOf (requirements.sourceFor name (converter.getD .str))
  path_eq : path.toList = compiled.form (Segment.filled values) count

theorem mem_segments_of_mem_kept {compiled : CompiledTemplate} {count : Nat} {segment : Segment}
    (membership : segment ∈ compiled.kept count) : segment ∈ compiled.segments := by
  rcases List.mem_append.mp membership with inFixed | inOptional
  · exact List.mem_of_mem_take inFixed
  · exact List.mem_of_mem_drop (mem_of_mem_throughVariable inOptional)

theorem keptNames_eq (compiled : CompiledTemplate) (count : Nat) :
    compiled.keptNames count =
      (compiled.segments.take compiled.optionalFrom).filterMap (·.variableName?) ++
        compiled.optionalNames.take count := by
  rw [keptNames, kept, List.filterMap_append, filterMap_throughVariable]
  rfl

theorem mem_variableNames_of_mem_keptNames {compiled : CompiledTemplate} {count : Nat}
    {name : String} (membership : name ∈ compiled.keptNames count) :
    name ∈ compiled.variableNames := by
  obtain ⟨converter, inKept⟩ := Segment.mem_names_iff.mp membership
  exact Segment.mem_names_iff.mpr ⟨converter, mem_segments_of_mem_kept inKept⟩

theorem variableNames_eq (compiled : CompiledTemplate) :
    compiled.variableNames =
      (compiled.segments.take compiled.optionalFrom).filterMap (·.variableName?) ++
        compiled.optionalNames := by
  rw [optionalNames, ← List.filterMap_append, List.take_append_drop]
  rfl

theorem form_congr {compiled : CompiledTemplate} {count : Nat} {text text' : Segment → List Char}
    (same : ∀ segment ∈ compiled.kept count, text segment = text' segment) :
    compiled.form text count = compiled.form text' count := by
  unfold form
  rw [List.flatMap_congr same]

/-! ### Separators -/

/-- The segments that every path has, without the separator at their end. -/
def trimmed (lead : Option Char) : List Segment → List Segment
  | [] => []
  | [.literal text] =>
      [.literal (if lead.isSome then String.ofList text.toList.dropLast else text)]
  | segment :: rest => segment :: trimmed lead rest

theorem mem_trimmed_iff {lead : Option Char} {segments : List Segment} {segment : Segment}
    {name : String} (isName : segment.variableName? = some name) :
    segment ∈ trimmed lead segments ↔ segment ∈ segments := by
  fun_induction trimmed lead segments with
  | case1 => rfl
  | case2 text =>
      have notLiteral (other : String) : segment ≠ .literal other := by
        rintro rfl
        simp [Segment.variableName?] at isName
      simp [notLiteral]
  | case3 first rest _ inductionHypothesis =>
      rw [List.mem_cons, List.mem_cons, inductionHypothesis]

theorem trimmed_none (segments : List Segment) : trimmed none segments = segments := by
  fun_induction trimmed none segments with
  | case1 => rfl
  | case2 text => rfl
  | case3 segment rest _ inductionHypothesis => rw [inductionHypothesis]

/-- Only the last segment can lose something. -/
theorem trimmed_append_singleton (lead : Option Char) (segments : List Segment) (last : Segment) :
    trimmed lead (segments ++ [last]) = segments ++ trimmed lead [last] := by
  induction segments with
  | nil => rfl
  | cons segment rest inductionHypothesis =>
      have more : rest ++ [last] ≠ [] := by simp
      rw [List.cons_append, trimmed, inductionHypothesis, List.cons_append]
      intro other _
      simp

theorem trimmed_append_literal (lead : Char) (segments : List Segment) (text : String) :
    trimmed (some lead) (segments ++ [.literal text]) =
      segments ++ [.literal (String.ofList text.toList.dropLast)] :=
  trimmed_append_singleton (some lead) segments (.literal text)

theorem trimmed_append_var (lead : Option Char) (segments : List Segment) (name : String)
    (converter : Option Converter) :
    trimmed lead (segments ++ [.var name converter]) = segments ++ [.var name converter] :=
  trimmed_append_singleton lead segments (.var name converter)

/-- Without its separator and then with it, what stands before the part that may be left out is
complete, if literals are written character by character. -/
theorem trimmed_flatMap_append {α : Type} (written : Segment → List α) {letter : Char → α}
    (literal : ∀ text, written (.literal text) = text.toList.map letter)
    (segments : List Segment) (optionalFrom : Nat) :
    (trimmed (leadSeparatorOf segments optionalFrom) (segments.take optionalFrom)).flatMap
        written ++ (leadSeparatorOf segments optionalFrom).toList.map letter =
      (segments.take optionalFrom).flatMap written := by
  cases isLead : leadSeparatorOf segments optionalFrom with
  | none => rw [trimmed_none, Option.toList_none, List.map_nil, List.append_nil]
  | some lead =>
      obtain ⟨front, text, take_eq, isLast, -⟩ := leadSeparatorOf_eq_some isLead
      rw [take_eq, trimmed_append_literal]
      simp only [List.flatMap_append, List.flatMap_singleton, literal, String.toList_ofList,
        List.append_assoc, Option.toList_some, ← List.map_append]
      rw [List.dropLast_append_getLast? lead isLast]

theorem filterMap_trimmed (lead : Option Char) (segments : List Segment) :
    (trimmed lead segments).filterMap (·.variableName?) =
      segments.filterMap (·.variableName?) := by
  fun_induction trimmed lead segments with
  | case1 => rfl
  | case2 text => rfl
  | case3 segment rest _ inductionHypothesis =>
      rw [List.filterMap_cons, List.filterMap_cons, inductionHypothesis]

end CompiledTemplate

end UrlRouting
