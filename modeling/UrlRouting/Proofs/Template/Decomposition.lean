import UrlRouting.Proofs.Template.Forms

/-!
# Taking paths apart

Where every variable stands behind a literal with a slash, and no slash is in the texts of the
variables, a path tells how many variables are in it and what their texts are
(`CompiledTemplate.eq_of_form_eq`).
-/

namespace UrlRouting

/-! ### Texts around a slash -/

/-- The first slash of a text is at one place only. -/
theorem append_slash_inj {before before' after after' : List Char} (free : '/' ∉ before)
    (free' : '/' ∉ before') (same : before ++ '/' :: after = before' ++ '/' :: after') :
    before = before' ∧ after = after' := by
  induction before generalizing before' with
  | nil =>
      cases before' with
      | nil => exact ⟨rfl, (List.cons.inj same).2⟩
      | cons first rest =>
          injection same with isFirst
          exact absurd (isFirst ▸ List.mem_cons_self ..) free'
  | cons first rest inductionHypothesis =>
      cases before' with
      | nil =>
          injection same with isFirst
          exact absurd (isFirst ▸ List.mem_cons_self ..) free
      | cons first' rest' =>
          injection same with sameFirst sameRest
          obtain ⟨rfl, rfl⟩ := inductionHypothesis
            (fun inRest => free (List.mem_cons_of_mem _ inRest))
            (fun inRest => free' (List.mem_cons_of_mem _ inRest)) sameRest
          exact ⟨by rw [sameFirst], rfl⟩

/-- What is behind the last slash of a text is at the end of it. -/
theorem eq_nil_of_append_eq {front front' text more : List Char} (slash : '/' ∈ text)
    (free : '/' ∉ more) (same : front ++ text = front' ++ (text ++ more)) : more = [] := by
  obtain ⟨after, before, isReverse, notAfter⟩ :=
    List.eq_append_cons_of_mem (List.mem_reverse.mpr slash)
  have reversed := congrArg List.reverse same
  simp only [List.reverse_append, isReverse, List.append_assoc, List.cons_append] at reversed
  rw [← List.append_assoc] at reversed
  have freeReversed : '/' ∉ more.reverse ++ after := by
    rw [List.mem_append, List.mem_reverse]
    exact not_or.mpr ⟨free, notAfter⟩
  have sameAfter := (append_slash_inj notAfter freeReversed reversed).1
  have lengths := congrArg List.length sameAfter
  rw [List.length_append, List.length_reverse] at lengths
  exact List.length_eq_zero_iff.mp (by omega)

namespace Segment

/-- Literals and variables take turns, and each variable stands behind a literal with a slash. -/
inductive AreDivided : List Segment → Prop
  | nil : AreDivided []
  | literal (text : String) : AreDivided [.literal text]
  | var {text : String} (slash : '/' ∈ text.toList) (name : String) (converter : Option Converter)
      {rest : List Segment} (divided : AreDivided rest) :
      AreDivided (.literal text :: .var name converter :: rest)

/-- Any two variables that follow each other have one literal between them, with a slash in it. -/
def HaveSlashes (segments : List Segment) : Prop :=
  ∀ first firstConverter between second secondConverter,
    .var first firstConverter :: (between ++ [.var second secondConverter]) <:+: segments →
      (∀ segment ∈ between, segment.isVariable = false) →
        ∃ text, between = [.literal text] ∧ '/' ∈ text.toList

/-- The texts of the variables in some segments are not empty and have no slash. -/
def AreNarrow (values : String → String) (segments : List Segment) : Prop :=
  ∀ name converter, .var name converter ∈ segments →
    (values name).toList ≠ [] ∧ '/' ∉ (values name).toList

theorem AreNarrow.of_append {values : String → String} {front rest : List Segment}
    (narrow : AreNarrow values (front ++ rest)) : AreNarrow values front :=
  fun name converter membership => narrow name converter (List.mem_append_left _ membership)

def slashes : Segment → Nat
  | literal text => text.toList.count '/'
  | var _ _ => 0

theorem count_flatMap_filled {values : String → String} {segments : List Segment}
    (narrow : AreNarrow values segments) :
    (segments.flatMap (filled values)).count '/' = (segments.map slashes).sum := by
  rw [List.count_flatMap]
  congr 1
  apply List.map_congr_left
  intro segment membership
  cases segment with
  | literal text => rfl
  | var name converter => exact List.count_eq_zero.mpr (narrow name converter membership).2

namespace AreDivided

theorem exists_literal {front rest : List Segment} {name : String} {converter : Option Converter}
    (divided : AreDivided (front ++ .var name converter :: rest)) :
    ∃ before text, front = before ++ [.literal text] ∧ '/' ∈ text.toList := by
  generalize isWhole : front ++ .var name converter :: rest = segments at divided
  induction divided generalizing front with
  | nil => simp at isWhole
  | literal text =>
      rcases front with _ | ⟨first, front⟩ <;> simp at isWhole
  | @var text slash other otherConverter segments divided inductionHypothesis =>
      rcases front with _ | ⟨first, _ | ⟨second, front⟩⟩
      · simp at isWhole
      · simp only [List.singleton_append, List.cons.injEq] at isWhole
        obtain ⟨rfl, -⟩ := isWhole
        exact ⟨[], text, rfl, slash⟩
      · simp only [List.cons_append, List.cons.injEq] at isWhole
        obtain ⟨rfl, rfl, isRest⟩ := isWhole
        obtain ⟨before, last, rfl, slash⟩ := inductionHypothesis isRest
        exact ⟨_ :: _ :: before, last, rfl, slash⟩

theorem of_append {front rest : List Segment} (divided : AreDivided (front ++ rest)) :
    AreDivided front := by
  generalize isWhole : front ++ rest = segments at divided
  induction divided generalizing front with
  | nil =>
      rw [(List.append_eq_nil_iff.mp isWhole).1]
      exact .nil
  | literal text =>
      rcases front with _ | ⟨first, front⟩
      · exact .nil
      · simp only [List.cons_append, List.cons.injEq, List.append_eq_nil_iff] at isWhole
        obtain ⟨rfl, rfl, -⟩ := isWhole
        exact .literal text
  | @var text slash other otherConverter segments divided inductionHypothesis =>
      rcases front with _ | ⟨first, _ | ⟨second, front⟩⟩
      · exact .nil
      · simp only [List.singleton_append, List.cons.injEq] at isWhole
        obtain ⟨rfl, -⟩ := isWhole
        exact .literal text
      · simp only [List.cons_append, List.cons.injEq] at isWhole
        obtain ⟨rfl, rfl, isRest⟩ := isWhole
        exact .var slash other otherConverter (inductionHypothesis isRest)

/-- The text of a variable ends where the slash of the next literal tells. -/
theorem eq_of_append_flatMap_eq {segments : List Segment} (divided : AreDivided segments)
    {values values' : String → String} {first first' : List Char} (free : '/' ∉ first)
    (free' : '/' ∉ first')
    (same : first ++ segments.flatMap (filled values) =
      first' ++ segments.flatMap (filled values')) : first = first' := by
  cases divided with
  | nil => simpa using same
  | literal text => simpa [filled] using same
  | @var text slash name converter rest divided =>
      obtain ⟨before, after, isText, notBefore⟩ := List.eq_append_cons_of_mem slash
      simp only [List.flatMap_cons, filled, isText, List.append_assoc, List.cons_append] at same
      rw [← List.append_assoc first, ← List.append_assoc first'] at same
      have freeBefore : '/' ∉ first ++ before := fun inside =>
        (List.mem_append.mp inside).elim free notBefore
      have freeBefore' : '/' ∉ first' ++ before := fun inside =>
        (List.mem_append.mp inside).elim free' notBefore
      exact List.append_cancel_right (append_slash_inj freeBefore freeBefore' same).1

theorem eq_of_flatMap_eq {segments : List Segment} (divided : AreDivided segments)
    {values values' : String → String} (narrow : AreNarrow values segments)
    (narrow' : AreNarrow values' segments)
    (same : segments.flatMap (filled values) = segments.flatMap (filled values')) {name : String}
    {converter : Option Converter} (membership : .var name converter ∈ segments) :
    values name = values' name := by
  induction divided with
  | nil => simp at membership
  | literal text => simp at membership
  | @var text slash other otherConverter rest divided inductionHypothesis =>
      have inSegments : ∀ segment ∈ rest,
          segment ∈ .literal text :: .var other otherConverter :: rest := by
        intro segment inRest
        exact List.mem_cons_of_mem _ (List.mem_cons_of_mem _ inRest)
      have isOther : .var other otherConverter ∈
          .literal text :: .var other otherConverter :: rest := by simp
      simp only [List.flatMap_cons, filled, List.append_cancel_left_eq] at same
      have sameFirst := divided.eq_of_append_flatMap_eq (narrow _ _ isOther).2
        (narrow' _ _ isOther).2 same
      rw [sameFirst, List.append_cancel_left_eq] at same
      simp only [List.mem_cons, reduceCtorEq, false_or] at membership
      rcases membership with isFirst | inRest
      · injection isFirst with same
        rw [same]
        exact String.toList_injective sameFirst
      · exact inductionHypothesis (fun _ _ membership => narrow _ _ (inSegments _ membership))
          (fun _ _ membership => narrow' _ _ (inSegments _ membership)) same inRest

/-- Segments are divided if their first literal has a slash and there are slashes between their
variables. -/
theorem of_haveSlashes {text : String} : ∀ {rest : List Segment},
    (Segment.literal text :: rest).IsChain (fun first second =>
      first.isVariable ∨ second.isVariable) →
    HaveSlashes (.literal text :: rest) → (rest ≠ [] → '/' ∈ text.toList) →
      AreDivided (.literal text :: rest)
  | [], _, _, _ => .literal text
  | .literal _ :: _, separated, _, _ => by
      rw [List.isChain_cons_cons] at separated
      exact absurd separated.1 (by simp [isVariable, variableName?])
  | [.var name converter], _, _, slash => .var (slash (by simp)) name converter .nil
  | .var first firstConverter :: .var second secondConverter :: rest, _, between, _ => by
      obtain ⟨text, isLiteral, -⟩ := between first firstConverter [] second secondConverter
        ⟨[.literal text], rest, rfl⟩ (by simp)
      simp at isLiteral
  | .var name converter :: .literal next :: rest, separated, between, slash => by
      rw [List.isChain_cons_cons, List.isChain_cons_cons] at separated
      have isTail : Segment.literal next :: rest <:+:
          .literal text :: .var name converter :: .literal next :: rest :=
        ⟨[.literal text, .var name converter], [], by simp⟩
      refine .var (slash (by simp)) name converter (of_haveSlashes separated.2.2 ?_ ?_)
      · intro first firstConverter others second secondConverter isInfix
        exact between first firstConverter others second secondConverter
          (isInfix.trans isTail)
      · intro more
        obtain ⟨second, after, rfl⟩ := List.exists_cons_of_ne_nil more
        cases second with
        | literal other =>
            rw [List.isChain_cons_cons] at separated
            exact absurd separated.2.2.1 (by simp [isVariable, variableName?])
        | var second secondConverter =>
            obtain ⟨found, isLiteral, slash⟩ := between name converter [.literal next] second
              secondConverter ⟨[.literal text], after, rfl⟩ (by simp [isVariable, variableName?])
            obtain ⟨same, -⟩ := List.cons.inj isLiteral
            injection same with same
            rw [same]
            exact slash

end AreDivided

end Segment

theorem exists_throughVariable_append {count count' : Nat} (less : count < count')
    {segments : List Segment} (bounded : count' ≤ (segments.filterMap (·.variableName?)).length) :
    ∃ between name converter rest, throughVariable Segment.isVariable count' segments =
      throughVariable Segment.isVariable count segments ++ between ++
        .var name converter :: rest := by
  obtain ⟨more, rfl⟩ := Nat.exists_eq_succ_of_ne_zero (Nat.ne_zero_of_lt less)
  induction segments generalizing count more with
  | nil => simp at bounded
  | cons segment others inductionHypothesis =>
      cases segment with
      | literal text =>
          obtain ⟨between, name, converter, rest, isThrough⟩ :=
            inductionHypothesis more less bounded
          rw [throughVariable_literal, isThrough]
          cases count with
          | zero => exact ⟨.literal text :: between, name, converter, rest, by simp⟩
          | succ count => exact ⟨between, name, converter, rest, rfl⟩
      | var other otherConverter =>
          rw [throughVariable_var]
          cases count with
          | zero =>
              refine ⟨[], other, otherConverter, throughVariable Segment.isVariable more others, ?_⟩
              rw [throughVariable_zero]
              rfl
          | succ count =>
              obtain ⟨least, rfl⟩ := Nat.exists_eq_succ_of_ne_zero
                (Nat.ne_zero_of_lt (Nat.lt_of_succ_lt_succ less))
              obtain ⟨between, name, converter, rest, isThrough⟩ :=
                inductionHypothesis least (Nat.lt_of_succ_lt_succ less)
                  (Nat.le_of_succ_le_succ bounded)
              rw [throughVariable_var, isThrough]
              exact ⟨between, name, converter, rest, rfl⟩

namespace CompiledTemplate

variable {compiled : CompiledTemplate} {count : Nat}

/-- A path that ends in a literal has all of it, or all but the last character. -/
theorem exists_form_eq_append {before : List Segment} {text : String}
    (kept_eq : compiled.kept count = before ++ [.literal text]) (nonempty : text ≠ "") :
    ∃ shorter more, text.toList = shorter ++ more ∧
      ∀ written : Segment → List Char, written (.literal text) = text.toList →
        compiled.form written count = before.flatMap written ++ shorter := by
  by_cases isShort : count = 0 ∧ compiled.leadSeparator.isSome
  · have notNil : text.toList ≠ [] := by simpa using nonempty
    refine ⟨text.toList.dropLast, [text.toList.getLast notNil],
      (List.dropLast_append_getLast notNil).symm, ?_⟩
    intro written isWritten
    rw [form, if_pos isShort, kept_eq, List.flatMap_append, List.flatMap_singleton, isWritten,
      List.dropLast_append_of_ne_nil notNil]
  · refine ⟨text.toList, [], (List.append_nil _).symm, ?_⟩
    intro written isWritten
    rw [form, if_neg isShort, kept_eq, List.flatMap_append, List.flatMap_singleton, isWritten]

theorem kept_isPrefix (compiled : CompiledTemplate) (count : Nat) :
    compiled.kept count <+: compiled.segments := by
  obtain ⟨rest, isWhole⟩ := throughVariable_isPrefix Segment.isVariable count
    (compiled.segments.drop compiled.optionalFrom)
  refine ⟨rest, ?_⟩
  rw [kept, List.append_assoc, isWhole, List.take_append_drop]

theorem areDivided_kept (divided : Segment.AreDivided compiled.segments) (count : Nat) :
    Segment.AreDivided (compiled.kept count) := by
  obtain ⟨rest, isWhole⟩ := compiled.kept_isPrefix count
  rw [← isWhole] at divided
  exact divided.of_append

theorem form_of_ne_zero (notZero : count ≠ 0) (written : Segment → List Char) :
    compiled.form written count = (compiled.kept count).flatMap written := by
  rw [form, if_neg fun isShort => notZero isShort.1]

theorem count_form_le (compiled : CompiledTemplate) (written : Segment → List Char) (count : Nat) :
    (compiled.form written count).count '/' ≤
      ((compiled.kept count).flatMap written).count '/' := by
  rw [form]
  split
  · exact (List.dropLast_sublist _).count_le _
  · exact le_rfl

section

variable {count' : Nat} {values values' : String → String}
  (narrow : Segment.AreNarrow values (compiled.kept count))
  (narrow' : Segment.AreNarrow values' (compiled.kept count'))

include narrow narrow'

/-- With another literal that has a slash, a path has more slashes. -/
theorem count_form_lt {front rest : List Segment} {text : String} (slash : '/' ∈ text.toList)
    (kept_eq : compiled.kept count' = compiled.kept count ++ front ++ .literal text :: rest)
    (notZero : count' ≠ 0) :
    (compiled.form (Segment.filled values) count).count '/' <
      (compiled.form (Segment.filled values') count').count '/' := by
  have fewer := count_form_le compiled (Segment.filled values) count
  have positive := List.count_pos_iff.mpr slash
  rw [form_of_ne_zero notZero, Segment.count_flatMap_filled narrow', kept_eq]
  rw [Segment.count_flatMap_filled narrow] at fewer
  simp only [List.map_append, List.sum_append, List.map_cons, List.sum_cons, Segment.slashes]
  omega

/-- With another variable behind the last literal, a path has more behind its last slash. -/
theorem form_ne_of_next {before rest : List Segment} {text name : String}
    {converter : Option Converter} (slash : '/' ∈ text.toList)
    (front_eq : compiled.kept count = before ++ [.literal text])
    (kept_eq : compiled.kept count' = compiled.kept count ++ .var name converter :: rest)
    (notZero : count' ≠ 0) :
    compiled.form (Segment.filled values) count ≠
      compiled.form (Segment.filled values') count' := by
  intro same
  have nonempty : text ≠ "" := by
    rintro rfl
    simp at slash
  obtain ⟨shorter, more, text_eq, form_eq⟩ := exists_form_eq_append front_eq nonempty
  rw [form_eq _ rfl, form_of_ne_zero notZero, kept_eq, front_eq] at same
  rw [kept_eq, front_eq] at narrow'
  rw [front_eq] at narrow
  simp only [List.flatMap_append, List.flatMap_cons, List.flatMap_nil, Segment.filled, text_eq,
    List.append_nil, List.append_assoc] at same
  have counts := congrArg (List.count '/') same
  rw [List.count_append, List.count_append, List.count_append,
    Segment.count_flatMap_filled narrow.of_append,
    Segment.count_flatMap_filled narrow'.of_append.of_append] at counts
  have free : '/' ∉ more ++ ((values' name).toList ++ rest.flatMap (Segment.filled values')) :=
    List.count_eq_zero.mp (by omega)
  have inShorter : '/' ∈ shorter := by
    rw [text_eq] at slash
    rcases List.mem_append.mp slash with inShorter | inMore
    · exact inShorter
    · exact absurd (List.mem_append_left _ inMore) free
  have nothing := eq_nil_of_append_eq inShorter free same
  have isEmpty := (List.append_eq_nil_iff.mp (List.append_eq_nil_iff.mp nothing).2).1
  exact (narrow' name converter (by simp)).1 isEmpty

theorem form_ne_of_lt (less : count < count') (bounded : count' ≤ compiled.optionalNames.length)
    (divided : Segment.AreDivided (compiled.kept count')) :
    compiled.form (Segment.filled values) count ≠
      compiled.form (Segment.filled values') count' := by
  have notZero : count' ≠ 0 := Nat.ne_zero_of_lt less
  obtain ⟨between, name, converter, rest, isThrough⟩ := exists_throughVariable_append less bounded
  have kept_eq : compiled.kept count' =
      compiled.kept count ++ between ++ .var name converter :: rest := by
    rw [kept, isThrough, kept]
    simp only [List.append_assoc]
  rw [kept_eq] at divided
  -- The literal before the next variable is in the shorter path only if nothing is between them.
  obtain ⟨before, text, front_eq, slash⟩ := divided.exists_literal
  rcases List.eq_nil_or_concat' between with rfl | ⟨front, last, rfl⟩
  · rw [List.append_nil] at front_eq kept_eq
    exact form_ne_of_next narrow narrow' slash front_eq kept_eq notZero
  · rw [← List.append_assoc] at front_eq
    obtain ⟨-, isLast⟩ := List.append_inj' front_eq rfl
    rw [List.cons.injEq] at isLast
    obtain ⟨rfl, -⟩ := isLast
    have more : (compiled.form (Segment.filled values) count).count '/' <
        (compiled.form (Segment.filled values') count').count '/' :=
      count_form_lt narrow narrow' slash (by simpa using kept_eq) notZero
    intro same
    rw [same] at more
    exact Nat.lt_irrefl _ more

end

section

variable
  (leadSeparator_eq :
    compiled.leadSeparator = leadSeparatorOf compiled.segments compiled.optionalFrom)

include leadSeparator_eq

/-- A path consists of segments that have all variables, and of characters. -/
theorem exists_form_eq (count : Nat) : ∃ front more rest, compiled.kept count = front ++ more ∧
    (∀ name converter, .var name converter ∉ more) ∧
      ∀ written : Segment → List Char, (∀ text, written (.literal text) = text.toList) →
        compiled.form written count = front.flatMap written ++ rest := by
  by_cases isShort : count = 0 ∧ compiled.leadSeparator.isSome
  · obtain ⟨lead, isLead⟩ := Option.isSome_iff_exists.mp isShort.2
    rw [leadSeparator_eq] at isLead
    obtain ⟨front, text, take_eq, isLast, -⟩ := leadSeparatorOf_eq_some isLead
    have kept_eq : compiled.kept count = front ++ [.literal text] := by
      rw [kept, isShort.1, throughVariable_zero, List.append_nil, take_eq]
    have nonempty : text ≠ "" := by
      rintro rfl
      simp at isLast
    obtain ⟨shorter, -, -, form_eq⟩ := exists_form_eq_append kept_eq nonempty
    exact ⟨front, [.literal text], shorter, kept_eq, by simp,
      fun written isWritten => form_eq written (isWritten text)⟩
  · refine ⟨compiled.kept count, [], [], (List.append_nil _).symm, by simp, ?_⟩
    intro written _
    rw [form, if_neg isShort, List.append_nil]

variable {values values' : String → String}

theorem values_eq_of_form_eq (divided : Segment.AreDivided (compiled.kept count))
    (narrow : Segment.AreNarrow values (compiled.kept count))
    (narrow' : Segment.AreNarrow values' (compiled.kept count))
    (same : compiled.form (Segment.filled values) count =
      compiled.form (Segment.filled values') count) :
    ∀ name ∈ compiled.keptNames count, values name = values' name := by
  intro name isKept
  obtain ⟨converter, inKept⟩ := Segment.mem_names_iff.mp isKept
  obtain ⟨front, more, rest, kept_eq, notVariable, form_eq⟩ :=
    exists_form_eq leadSeparator_eq count
  rw [form_eq _ fun _ => rfl, form_eq _ fun _ => rfl, List.append_cancel_right_eq] at same
  rw [kept_eq] at divided narrow narrow' inKept
  have inFront : .var name converter ∈ front :=
    (List.mem_append.mp inKept).resolve_right (notVariable name converter)
  exact divided.of_append.eq_of_flatMap_eq narrow.of_append narrow'.of_append same inFront

/-- A path tells which variables are in it, and what their texts are. -/
theorem eq_of_form_eq (divided : Segment.AreDivided compiled.segments) {count' : Nat}
    (bounded : count ≤ compiled.optionalNames.length)
    (bounded' : count' ≤ compiled.optionalNames.length)
    (narrow : Segment.AreNarrow values (compiled.kept count))
    (narrow' : Segment.AreNarrow values' (compiled.kept count'))
    (same : compiled.form (Segment.filled values) count =
      compiled.form (Segment.filled values') count') :
    count = count' ∧ ∀ name ∈ compiled.keptNames count, values name = values' name := by
  rcases Nat.lt_trichotomy count count' with less | rfl | greater
  · exact absurd same
      (form_ne_of_lt narrow narrow' less bounded' (areDivided_kept divided count'))
  · exact ⟨rfl, values_eq_of_form_eq leadSeparator_eq (areDivided_kept divided count) narrow
      narrow' same⟩
  · exact absurd same.symm
      (form_ne_of_lt narrow' narrow greater bounded (areDivided_kept divided count))

end

end CompiledTemplate

end UrlRouting
