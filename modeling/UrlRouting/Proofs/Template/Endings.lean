import UrlRouting.Proofs.Template.Decomposition

/-!
# How paths begin and end

A path of a template that starts with a slash is not empty.  It ends in a slash only if the text
that the template leaves without its optional variables does.
-/

namespace UrlRouting

/-! ### Texts that end in a slash -/

theorem getLast?_append_ne_slash (front : List Char) {text : List Char}
    (narrow : text ≠ [] ∧ '/' ∉ text) : (front ++ text).getLast? ≠ some '/' := by
  intro slash
  rw [List.getLast?_append, List.getLast?_eq_some_getLast narrow.1, Option.some_or,
    Option.some.injEq] at slash
  exact narrow.2 (slash ▸ List.getLast_mem narrow.1)

theorem getLast?_append_eq_slash {front front' text : List Char}
    (slashOfSlash : front.getLast? = some '/' → front'.getLast? = some '/')
    (slash : (front ++ text).getLast? = some '/') : (front' ++ text).getLast? = some '/' := by
  rw [List.getLast?_append] at slash ⊢
  cases isLast : text.getLast? with
  | none =>
      rw [isLast, Option.none_or] at slash
      rw [Option.none_or]
      exact slashOfSlash slash
  | some char =>
      rw [isLast, Option.some_or] at slash
      rwa [Option.some_or]

namespace Segment

theorem getLast?_flatMap_written {values : String → String} {segments : List Segment}
    (narrow : AreNarrow values segments)
    (slash : (segments.flatMap (filled values)).getLast? = some '/') :
    (segments.flatMap (·.written.toList)).getLast? = some '/' := by
  induction segments using List.reverseRecOn with
  | nil => simp at slash
  | append_singleton front last inductionHypothesis =>
      rw [List.flatMap_append, List.flatMap_singleton] at slash ⊢
      cases last with
      | literal text =>
          exact getLast?_append_eq_slash (inductionHypothesis narrow.of_append) slash
      | var name converter =>
          exact absurd slash (getLast?_append_ne_slash _ (narrow name converter (by simp)))

/-- Where less is written than a variable takes, there is none. -/
theorem flatMap_filled_of_length_le (values : String → String) {segments : List Segment}
    (short : (segments.flatMap (·.written.toList)).length ≤ 1) :
    segments.flatMap (filled values) = segments.flatMap (·.written.toList) := by
  apply List.flatMap_congr
  intro segment membership
  cases segment with
  | literal text => rfl
  | var name converter =>
      obtain ⟨before, after, rfl⟩ := List.append_of_mem membership
      simp only [List.flatMap_append, List.flatMap_cons, List.length_append] at short
      have braces : 2 ≤ (written (.var name converter)).toList.length := by
        cases converter with
        | none => simp [written]
        | some converter =>
            simp [written]
            omega
      omega

end Segment

theorem exists_throughVariable_eq_append_var {count : Nat} (positive : count ≠ 0)
    {segments : List Segment} (bounded : count ≤ (segments.filterMap (·.variableName?)).length) :
    ∃ front name converter, throughVariable Segment.isVariable count segments =
      front ++ [.var name converter] := by
  obtain ⟨count, rfl⟩ := Nat.exists_eq_succ_of_ne_zero positive
  induction segments generalizing count with
  | nil => simp at bounded
  | cons segment rest inductionHypothesis =>
      cases segment with
      | literal text =>
          obtain ⟨front, name, converter, isThrough⟩ := inductionHypothesis count positive bounded
          exact ⟨.literal text :: front, name, converter, by
            rw [throughVariable_literal, isThrough, List.cons_append]⟩
      | var name converter =>
          rw [throughVariable_var]
          cases count with
          | zero => exact ⟨[], name, converter, by rw [throughVariable_zero]; rfl⟩
          | succ count =>
              obtain ⟨front, last, lastConverter, isThrough⟩ :=
                inductionHypothesis count (Nat.succ_ne_zero count) (Nat.le_of_succ_le_succ bounded)
              exact ⟨.var name converter :: front, last, lastConverter, by
                rw [isThrough, List.cons_append]⟩

namespace CompiledTemplate

/-! ### The first literal -/

variable {compiled : CompiledTemplate} {values : String → String} {count : Nat}

/-- Before what may be left out there is more than its separator. -/
theorem two_le_length_of_leadSeparatorOf {segments others : List Segment} {optionalFrom : Nat}
    {lead : Char} (isLead : leadSeparatorOf segments optionalFrom = some lead) {text : String}
    (take_eq : segments.take optionalFrom = .literal text :: others)
    (slash : text.toList.head? = some '/') (values : String → String) :
    2 ≤ ((segments.take optionalFrom).flatMap (Segment.filled values)).length := by
  obtain ⟨more, isText⟩ : ∃ more, text.toList = '/' :: more := List.head?_eq_some_iff.mp slash
  obtain ⟨front, last, front_eq, isLast, notRoot⟩ := leadSeparatorOf_eq_some isLead
  rw [take_eq] at front_eq
  cases front with
  | nil =>
      obtain ⟨sameText, rfl⟩ := List.cons.inj front_eq
      injection sameText with same
      subst same
      have nonempty : more ≠ [] := by
        rintro rfl
        exact notRoot rfl (String.toList_injective isText)
      have positive := List.length_pos_iff.mpr nonempty
      simp only [take_eq, List.flatMap_singleton, Segment.filled, isText, List.length_cons]
      omega
  | cons first front =>
      have others_eq : others = front ++ [.literal last] := (List.cons.inj front_eq).2
      have positive : 0 < last.toList.length := by
        apply List.length_pos_iff.mpr
        intro nothing
        simp [nothing] at isLast
      simp only [take_eq, others_eq, List.flatMap_cons, List.flatMap_append,
        Segment.filled, isText, List.length_append, List.length_cons]
      omega

theorem form_ne_nil {hasDefault : String → Bool}
    (optionalFrom_eq : compiled.optionalFrom = optionalStart hasDefault compiled.segments)
    (leadSeparator_eq :
      compiled.leadSeparator = leadSeparatorOf compiled.segments compiled.optionalFrom)
    {text : String} {rest : List Segment} (segments_eq : compiled.segments = .literal text :: rest)
    (slash : text.toList.head? = some '/') (values : String → String) (count : Nat) :
    compiled.form (Segment.filled values) count ≠ [] := by
  have positive := optionalStart_pos hasDefault text rest
  rw [← segments_eq, ← optionalFrom_eq] at positive
  obtain ⟨before, isBefore⟩ := Nat.exists_eq_succ_of_ne_zero (Nat.ne_of_gt positive)
  obtain ⟨others, take_eq⟩ : ∃ others,
      compiled.segments.take compiled.optionalFrom = .literal text :: others := by
    rw [segments_eq, isBefore, List.take_succ_cons]
    exact ⟨_, rfl⟩
  rw [form, kept]
  by_cases isShort : count = 0 ∧ compiled.leadSeparator.isSome
  · obtain ⟨lead, isLead⟩ := Option.isSome_iff_exists.mp isShort.2
    rw [leadSeparator_eq] at isLead
    have long := two_le_length_of_leadSeparatorOf isLead take_eq slash values
    rw [if_pos isShort, isShort.1, throughVariable_zero, List.append_nil, ← List.length_pos_iff,
      List.length_dropLast]
    omega
  · obtain ⟨more, isText⟩ : ∃ more, text.toList = '/' :: more := List.head?_eq_some_iff.mp slash
    rw [if_neg isShort, take_eq, List.cons_append, List.flatMap_cons, Segment.filled, isText]
    exact List.cons_ne_nil _ _

/-! ### The last slash -/

/-- If nothing ends in a slash that leaves out all optional variables, nothing else does. -/
theorem form_eq_of_getLast?_eq
    (leadSeparator_eq :
      compiled.leadSeparator = leadSeparatorOf compiled.segments compiled.optionalFrom)
    (shortest : (compiled.form (·.written.toList) 0).getLast? = some '/' →
      compiled.form (·.written.toList) 0 = ['/'])
    (bounded : count ≤ compiled.optionalNames.length)
    (narrow : Segment.AreNarrow values (compiled.kept count))
    (slash : (compiled.form (Segment.filled values) count).getLast? = some '/') :
    compiled.form (Segment.filled values) count = ['/'] := by
  by_cases isZero : count = 0
  · subst isZero
    obtain ⟨front, more, rest, kept_eq, -, form_eq⟩ := exists_form_eq leadSeparator_eq 0
    have filled_eq := form_eq (Segment.filled values) fun _ => rfl
    have written_eq := form_eq (·.written.toList) fun _ => rfl
    rw [filled_eq] at slash
    rw [written_eq] at shortest
    rw [filled_eq]
    rw [kept_eq] at narrow
    have whole : front.flatMap (·.written.toList) ++ rest = ['/'] :=
      shortest (getLast?_append_eq_slash
        (Segment.getLast?_flatMap_written narrow.of_append) slash)
    have lengths := congrArg List.length whole
    rw [List.length_append, List.length_singleton] at lengths
    rw [Segment.flatMap_filled_of_length_le values (by omega), whole]
  · rw [form_of_ne_zero isZero] at slash
    obtain ⟨front, name, converter, isThrough⟩ :=
      exists_throughVariable_eq_append_var isZero bounded
    rw [kept, isThrough, ← List.append_assoc, List.flatMap_append, List.flatMap_singleton] at slash
    exact absurd slash
      (getLast?_append_ne_slash _ (narrow name converter (by simp [kept, isThrough])))

end CompiledTemplate

end UrlRouting
