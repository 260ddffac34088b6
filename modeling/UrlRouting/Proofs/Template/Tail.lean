import UrlRouting.Proofs.Template.Requirements

/-!
# The tail of a template

The part of a template that may be left out goes from one variable to the end, which has to be a
variable too, and all of its variables have defaults.  It is the longest such part: that it is one
(`CompiledTemplate.isOmittable_optionalStart`) and that none starts earlier
(`CompiledTemplate.IsOmittable.optionalStart_le`) is all that is to be known of its start.  With the
whole of it goes the separator that ends a literal in front (`leadSeparatorOf_eq_some_iff`).
-/

namespace UrlRouting

namespace Segment

/-- The name of the last variable. -/
def lastVariable? (segments : List Segment) : Option String :=
  (segments.filterMap variableName?).getLast?

theorem exists_eq_append_of_lastVariable? {segments : List Segment} {name : String}
    (isLast : lastVariable? segments = some name) :
    ∃ before converter behind, segments = before ++ .var name converter :: behind ∧
      behind.filterMap variableName? = [] := by
  obtain ⟨others, names_eq⟩ := List.getLast?_eq_some_iff.mp isLast
  obtain ⟨before, more, rfl, -, more_eq⟩ := List.filterMap_eq_append_iff.mp names_eq
  obtain ⟨between, segment, behind, rfl, -, isNamed, behind_eq⟩ :=
    List.filterMap_eq_cons_iff.mp more_eq
  cases segment with
  | literal text => cases isNamed
  | var other converter =>
      injection isNamed with same
      subst same
      exact ⟨before ++ between, converter, behind, by rw [List.append_assoc], behind_eq⟩

theorem lastVariable?_of_getLast? {segments : List Segment} {name : String}
    {converter : Option Converter} (isLast : segments.getLast? = some (.var name converter)) :
    lastVariable? segments = some name := by
  obtain ⟨others, rfl⟩ := List.getLast?_eq_some_iff.mp isLast
  rw [lastVariable?, List.filterMap_append]
  exact List.getLast?_concat

end Segment

namespace CompiledTemplate

variable {hasDefault hasDefault' : String → Bool} {segments : List Segment} {start : Nat}

/-! ### Backwards from the end -/

/-- What may be left out starts with a variable. -/
theorem exists_var_of_optionalLength {length : Nat}
    (isLength : optionalLength hasDefault segments = length + 1) :
    ∃ name converter, segments[length]? = some (.var name converter) := by
  induction segments generalizing length with
  | nil => simp [optionalLength] at isLength
  | cons segment rest inductionHypothesis =>
      cases segment with
      | literal text =>
          rw [optionalLength] at isLength
          split at isLength
          · simp at isLength
          · next fewer isRest =>
              obtain rfl : length = fewer + 1 := by omega
              exact inductionHypothesis isRest
      | var name converter =>
          rw [optionalLength] at isLength
          split at isLength
          · cases length with
            | zero => exact ⟨name, converter, rfl⟩
            | succ length => exact inductionHypothesis (Nat.succ_injective isLength)
          · simp at isLength

/-- All variables at the end of a template that may be left out have a default. -/
theorem hasDefault_of_mem_take_optionalLength {name : String} {converter : Option Converter}
    (membership : .var name converter ∈ segments.take (optionalLength hasDefault segments)) :
    hasDefault name = true := by
  induction segments with
  | nil => simp [optionalLength] at membership
  | cons segment rest inductionHypothesis =>
      cases segment with
      | literal text =>
          rw [optionalLength] at membership
          split at membership
          · simp at membership
          · next length isRest =>
              rw [List.take_succ_cons, List.mem_cons] at membership
              rw [isRest] at inductionHypothesis
              exact inductionHypothesis (membership.resolve_left (by simp))
      | var other otherConverter =>
          rw [optionalLength] at membership
          split at membership
          · next isThere =>
              rw [List.take_succ_cons, List.mem_cons] at membership
              rcases membership with same | inRest
              · injection same with same
                rwa [same]
              · exact inductionHypothesis inRest
          · simp at membership

/-- A variable may be left out if it and all that come before it, backwards, have defaults. -/
theorem lt_optionalLength {index : Nat} {name : String} {converter : Option Converter}
    (isVariable : segments[index]? = some (.var name converter))
    (defaults : ∀ name converter, .var name converter ∈ segments.take (index + 1) →
      hasDefault name = true) :
    index < optionalLength hasDefault segments := by
  induction segments generalizing index with
  | nil => simp at isVariable
  | cons segment rest inductionHypothesis =>
      cases index with
      | zero =>
          obtain rfl : segment = .var name converter := by simpa using isVariable
          rw [optionalLength, if_pos (defaults name converter (List.mem_cons_self ..))]
          exact Nat.succ_pos _
      | succ before =>
          have further : before < optionalLength hasDefault rest :=
            inductionHypothesis isVariable fun name converter membership =>
              defaults name converter (List.mem_cons_of_mem _ membership)
          cases segment with
          | literal text =>
              rw [optionalLength]
              split
              · omega
              · omega
          | var other otherConverter =>
              rw [optionalLength, if_pos (defaults other otherConverter (List.mem_cons_self ..))]
              exact Nat.succ_lt_succ further

/-! ### Where the tail starts -/

/-- From `start` on a template may be left out: a variable stands there, one stands at the end, and
all variables from there on have defaults. -/
structure IsOmittable (hasDefault : String → Bool) (segments : List Segment) (start : Nat) :
    Prop where
  starts : ∃ name converter, segments[start]? = some (.var name converter)
  ends : ∃ name converter, segments.getLast? = some (.var name converter)
  defaults : ∀ name converter, .var name converter ∈ segments.drop start → hasDefault name = true

theorem IsOmittable.lt_length (omittable : IsOmittable hasDefault segments start) :
    start < segments.length := by
  obtain ⟨name, converter, isVariable⟩ := omittable.starts
  exact (List.getElem?_eq_some_iff.mp isVariable).1

theorem optionalStart_eq_sub
    (ends : ∃ name converter, segments.getLast? = some (.var name converter)) :
    optionalStart hasDefault segments =
      segments.length - optionalLength hasDefault segments.reverse := by
  obtain ⟨name, converter, isLast⟩ := ends
  rw [← List.head?_reverse] at isLast
  obtain ⟨others, reverse_eq⟩ := List.head?_eq_some_iff.mp isLast
  rw [optionalStart, reverse_eq]

theorem optionalStart_eq_length
    (pinned : ¬ ∃ name converter, segments.getLast? = some (.var name converter)) :
    optionalStart hasDefault segments = segments.length := by
  unfold optionalStart
  split
  · rfl
  · rfl
  · next notEmpty notLiteral =>
      cases isReversed : segments.reverse with
      | nil => exact absurd isReversed notEmpty
      | cons last others =>
          cases last with
          | literal text => exact absurd isReversed (notLiteral text others)
          | var name converter =>
              exact absurd ⟨name, converter, by rw [← List.head?_reverse, isReversed]; rfl⟩ pinned

theorem optionalStart_le_length (hasDefault : String → Bool) (segments : List Segment) :
    optionalStart hasDefault segments ≤ segments.length := by
  by_cases ends : ∃ name converter, segments.getLast? = some (.var name converter)
  · rw [optionalStart_eq_sub ends]
    exact Nat.sub_le ..
  · exact (optionalStart_eq_length ends).le

theorem isOmittable_optionalStart (inside : optionalStart hasDefault segments < segments.length) :
    IsOmittable hasDefault segments (optionalStart hasDefault segments) := by
  have ends : ∃ name converter, segments.getLast? = some (.var name converter) := by
    by_contra pinned
    exact inside.ne (optionalStart_eq_length pinned)
  have start_eq : optionalStart hasDefault segments =
      segments.length - optionalLength hasDefault segments.reverse := optionalStart_eq_sub ends
  refine ⟨?_, ends, ?_⟩
  · obtain ⟨length, isLength⟩ := Nat.exists_eq_succ_of_ne_zero
      (show optionalLength hasDefault segments.reverse ≠ 0 by omega)
    obtain ⟨name, converter, isVariable⟩ := exists_var_of_optionalLength isLength
    have short : length < segments.length := by
      rw [← List.length_reverse]
      exact (List.getElem?_eq_some_iff.mp isVariable).1
    rw [List.getElem?_reverse short] at isVariable
    have place : segments.length - 1 - length = optionalStart hasDefault segments := by omega
    exact ⟨name, converter, place ▸ isVariable⟩
  · intro name converter membership
    have inTaken : .var name converter ∈
        segments.reverse.take (optionalLength hasDefault segments.reverse) := by
      rw [List.take_reverse, ← start_eq]
      exact List.mem_reverse.mpr membership
    exact hasDefault_of_mem_take_optionalLength inTaken

/-- No longer part of a template may be left out. -/
theorem IsOmittable.optionalStart_le (omittable : IsOmittable hasDefault segments start) :
    optionalStart hasDefault segments ≤ start := by
  obtain ⟨name, converter, isVariable⟩ := omittable.starts
  have inside := omittable.lt_length
  -- Read backwards, the variable at `start` comes at the index that counts what is behind it.
  have place : segments.length - 1 - (segments.length - 1 - start) = start := by omega
  have isBackwards : segments.reverse[segments.length - 1 - start]? =
      some (.var name converter) := by
    rw [List.getElem?_reverse (by omega), place]
    exact isVariable
  have reaches : segments.length - 1 - start < optionalLength hasDefault segments.reverse := by
    apply lt_optionalLength isBackwards
    intro other otherConverter membership
    rw [List.take_reverse, List.mem_reverse] at membership
    apply omittable.defaults other otherConverter
    convert membership using 2
    omega
  rw [optionalStart_eq_sub omittable.ends]
  omega

/-- A tail goes from any variable with a default whose followers have defaults. -/
theorem IsOmittable.of_append {before behind : List Segment} {name : String}
    {converter : Option Converter} (isThere : hasDefault name = true)
    (behindDefaults : ∀ other otherConverter, .var other otherConverter ∈ behind →
      hasDefault other = true)
    (ends : ∃ last lastConverter,
      (before ++ .var name converter :: behind).getLast? = some (.var last lastConverter)) :
    IsOmittable hasDefault (before ++ .var name converter :: behind) before.length := by
  refine ⟨⟨name, converter, ?_⟩, ends, ?_⟩
  · rw [List.getElem?_append_right le_rfl, Nat.sub_self, List.getElem?_cons_zero]
  · intro other otherConverter membership
    rw [List.drop_left, List.mem_cons] at membership
    rcases membership with same | inBehind
    · injection same with same
      rwa [same]
    · exact behindDefaults other otherConverter inBehind

theorem IsOmittable.hasDefault_last (omittable : IsOmittable hasDefault segments start)
    {name : String} (isLast : Segment.lastVariable? segments = some name) :
    hasDefault name = true := by
  obtain ⟨other, converter, ends⟩ := omittable.ends
  rw [Segment.lastVariable?_of_getLast? ends] at isLast
  injection isLast with same
  subst same
  apply omittable.defaults other converter
  apply List.mem_of_getLast?
  rw [List.getLast?_drop, if_neg (Nat.not_le_of_lt omittable.lt_length), ends]

/-- The tail is no shorter where all is omittable that is so elsewhere. -/
theorem optionalStart_le_optionalStart {others : List Segment}
    (length_eq : others.length = segments.length)
    (omits : ∀ start, IsOmittable hasDefault segments start → IsOmittable hasDefault' others start) :
    optionalStart hasDefault' others ≤ optionalStart hasDefault segments := by
  rcases (optionalStart_le_length hasDefault segments).lt_or_eq with inside | isWhole
  · exact (omits _ (isOmittable_optionalStart inside)).optionalStart_le
  · rw [isWhole, ← length_eq]
    exact optionalStart_le_length ..

theorem IsOmittable.mono (omittable : IsOmittable hasDefault segments start)
    (grows : ∀ name, hasDefault name = true → hasDefault' name = true) :
    IsOmittable hasDefault' segments start :=
  ⟨omittable.starts, omittable.ends,
    fun name converter membership => grows name (omittable.defaults name converter membership)⟩

theorem optionalStart_anti
    (grows : ∀ name, hasDefault name = true → hasDefault' name = true) (segments : List Segment) :
    optionalStart hasDefault' segments ≤ optionalStart hasDefault segments :=
  optionalStart_le_optionalStart rfl fun _ omittable => omittable.mono grows

theorem exists_drop_optionalStart
    (inside : optionalStart hasDefault segments < segments.length) :
    ∃ name converter rest,
      segments.drop (optionalStart hasDefault segments) = .var name converter :: rest := by
  obtain ⟨name, converter, isVariable⟩ := (isOmittable_optionalStart inside).starts
  obtain ⟨_, isVariable⟩ := List.getElem?_eq_some_iff.mp isVariable
  exact ⟨name, converter, _, by rw [List.drop_eq_getElem_cons inside, isVariable]⟩

theorem hasDefault_of_mem_drop_optionalStart {name : String} {converter : Option Converter}
    (membership : .var name converter ∈ segments.drop (optionalStart hasDefault segments)) :
    hasDefault name = true := by
  have inside : optionalStart hasDefault segments < segments.length := by
    by_contra outside
    rw [List.drop_eq_nil_of_le (Nat.le_of_not_lt outside)] at membership
    cases membership
  exact (isOmittable_optionalStart inside).defaults name converter membership

/-! ### The first literal -/

theorem optionalStart_pos (hasDefault : String → Bool) (text : String) (rest : List Segment) :
    0 < optionalStart hasDefault (.literal text :: rest) := by
  by_contra isZero
  have start_eq := Nat.eq_zero_of_not_pos isZero
  obtain ⟨name, converter, isVariable⟩ :=
    (isOmittable_optionalStart (start_eq ▸ Nat.succ_pos rest.length)).starts
  rw [start_eq] at isVariable
  simp at isVariable

/-- What may be left out has nothing to do with what the first literal says. -/
theorem IsOmittable.cons_literal {text : String} {rest : List Segment}
    (omittable : IsOmittable hasDefault (.literal text :: rest) start) (other : String) :
    IsOmittable hasDefault (.literal other :: rest) start := by
  obtain ⟨⟨name, converter, isVariable⟩, ⟨last, lastConverter, isLast⟩, defaults⟩ := omittable
  cases start with
  | zero => simp at isVariable
  | succ index =>
      refine ⟨⟨name, converter, isVariable⟩, ⟨last, lastConverter, ?_⟩, defaults⟩
      cases rest with
      | nil => simp at isLast
      | cons next others => exact isLast

theorem optionalStart_cons_literal (hasDefault : String → Bool) (rest : List Segment)
    (text other : String) :
    optionalStart hasDefault (.literal text :: rest) =
      optionalStart hasDefault (.literal other :: rest) :=
  le_antisymm
    (optionalStart_le_optionalStart rfl fun _ omittable => omittable.cons_literal text)
    (optionalStart_le_optionalStart rfl fun _ omittable => omittable.cons_literal other)

/-! ### The separator before the tail -/

theorem leadSeparatorOf_eq_some_iff {lead : Char} :
    leadSeparatorOf segments start = some lead ↔
      0 < start ∧ start < segments.length ∧ ∃ text,
        segments[start - 1]? = some (.literal text) ∧ text.toList.getLast? = some lead ∧
        lead ∈ separators ∧ (start = 1 → text ≠ "/") := by
  unfold leadSeparatorOf
  split
  · next outside =>
      simp only [Bool.or_eq_true, decide_eq_true_eq] at outside
      simp only [reduceCtorEq, false_iff, not_and]
      omega
  · next inside =>
      obtain ⟨positive, short⟩ : 0 < start ∧ start < segments.length := by
        simp only [Bool.or_eq_true, decide_eq_true_eq, not_or] at inside
        omega
      split
      · next text before =>
          simp only [before, Option.some.injEq, Segment.literal.injEq, exists_eq_left', positive,
            short, true_and, Bool.and_eq_true, decide_eq_true_eq]
          split
          · next isRoot =>
              simp only [reduceCtorEq, false_iff]
              rintro ⟨-, -, notRoot⟩
              exact notRoot isRoot.1 isRoot.2
          · next notRoot =>
              have stays : start = 1 → text ≠ "/" := fun isFirst isRoot => notRoot ⟨isFirst, isRoot⟩
              rw [and_iff_left stays]
              cases text.toList.getLast? with
              | none => simp
              | some last =>
                  simp only [Option.ite_none_right_eq_some, Option.some.injEq,
                    List.contains_iff_mem]
                  constructor
                  · rintro ⟨separates, rfl⟩
                    exact ⟨rfl, separates⟩
                  · rintro ⟨rfl, separates⟩
                    exact ⟨separates, rfl⟩
      · next notLiteral =>
          simp only [reduceCtorEq, false_iff]
          rintro ⟨-, -, text, before, -⟩
          exact notLiteral text before

/-- The slash of the root is no separator. -/
example : leadSeparatorOf [.literal "/", .var "page" none] 1 = none := rfl

/-- The separator is the last character before what may be left out. -/
theorem leadSeparatorOf_eq_some {lead : Char} (isLead : leadSeparatorOf segments start = some lead) :
    ∃ front text, segments.take start = front ++ [.literal text] ∧
      text.toList.getLast? = some lead ∧ (front = [] → text ≠ "/") := by
  obtain ⟨positive, inside, text, before, isLast, -, notRoot⟩ :=
    leadSeparatorOf_eq_some_iff.mp isLead
  refine ⟨segments.take (start - 1), text, ?_, isLast, ?_⟩
  · have start_eq : start - 1 + 1 = start := by omega
    rw [← start_eq, List.take_add_one, start_eq, before]
    rfl
  · intro isFirst
    rw [List.take_eq_nil_iff, ← List.length_eq_zero_iff] at isFirst
    exact notRoot (by omega)

theorem leadSeparatorOf_cons_literal {text other : String} {rest : List Segment}
    (sameLast : other.toList.getLast? = text.toList.getLast?)
    (notRoot : start = 1 → rest ≠ [] → text ≠ "/" ∧ other ≠ "/") :
    leadSeparatorOf (.literal other :: rest) start =
      leadSeparatorOf (.literal text :: rest) start := by
  unfold leadSeparatorOf
  rcases start with _ | _ | index
  · rfl
  · by_cases alone : rest = []
    · simp [alone]
    · simp [sameLast, notRoot rfl alone]
  · simp

/-! ### The longest tail -/

/-- What tells the start of the longest tail that may be left out.  It is the end of the template
exactly if there is no such tail.  Otherwise a variable stands there, all variables from there on
have defaults, and the last one before, if there is one, has none. -/
structure IsLongestTail (hasDefault : String → Bool) (segments : List Segment) (start : Nat) :
    Prop where
  eq_length_iff : start = segments.length ↔ segments = [] ∨
    (∃ text, segments.getLast? = some (.literal text)) ∨
    ∃ name, Segment.lastVariable? segments = some name ∧ hasDefault name = false
  starts : start ≠ segments.length → ∃ name converter, segments[start]? = some (.var name converter)
  defaults : ∀ name converter, .var name converter ∈ segments.drop start → hasDefault name = true
  stops : start ≠ segments.length → ∀ name,
    Segment.lastVariable? (segments.take start) = some name → hasDefault name = false
  longest : ∀ other, IsOmittable hasDefault segments other → start ≤ other

theorem optionalStart_eq_length_iff :
    optionalStart hasDefault segments = segments.length ↔ segments = [] ∨
      (∃ text, segments.getLast? = some (.literal text)) ∨
      ∃ name, Segment.lastVariable? segments = some name ∧ hasDefault name = false := by
  constructor
  · intro isWhole
    cases isLast : segments.getLast? with
    | none => exact .inl (List.getLast?_eq_none_iff.mp isLast)
    | some last =>
        right
        cases last with
        | literal text => exact .inl ⟨text, rfl⟩
        | var name converter =>
            refine .inr ⟨name, Segment.lastVariable?_of_getLast? isLast, ?_⟩
            rw [← Bool.not_eq_true]
            intro isThere
            obtain ⟨before, rfl⟩ := List.getLast?_eq_some_iff.mp isLast
            have single : IsOmittable hasDefault (before ++ [.var name converter]) before.length :=
              .of_append isThere (by simp) ⟨name, converter, isLast⟩
            exact (single.optionalStart_le.trans_lt single.lt_length).ne isWhole
  · intro pinned
    apply (optionalStart_le_length hasDefault segments).antisymm
    by_contra outside
    have omittable := isOmittable_optionalStart (Nat.lt_of_not_le outside)
    rcases pinned with rfl | ⟨text, isLast⟩ | ⟨name, isLast, isMissing⟩
    · exact outside (Nat.zero_le _)
    · obtain ⟨name, converter, ends⟩ := omittable.ends
      rw [isLast] at ends
      cases ends
    · rw [omittable.hasDefault_last isLast] at isMissing
      cases isMissing

/-- The tail stops at the first variable, backwards, without a default. -/
theorem eq_false_of_lastVariable?_take {name : String}
    (inside : optionalStart hasDefault segments < segments.length)
    (isLast : Segment.lastVariable? (segments.take (optionalStart hasDefault segments)) =
      some name) : hasDefault name = false := by
  obtain ⟨before, converter, behind, take_eq, noNames⟩ :=
    Segment.exists_eq_append_of_lastVariable? isLast
  have omittable := isOmittable_optionalStart inside
  rw [← Bool.not_eq_true]
  intro isThere
  -- With a default, the variable would start a longer tail.
  have whole : segments = before ++ .var name converter ::
      (behind ++ segments.drop (optionalStart hasDefault segments)) := by
    rw [← List.cons_append, ← List.append_assoc, ← take_eq, List.take_append_drop]
  have longer : IsOmittable hasDefault segments before.length := by
    rw [whole]
    refine .of_append isThere ?_ (whole ▸ omittable.ends)
    intro other otherConverter membership
    rcases List.mem_append.mp membership with inBehind | inTail
    · have isNamed := Segment.mem_names_iff.mpr ⟨otherConverter, inBehind⟩
      rw [noNames] at isNamed
      cases isNamed
    · exact omittable.defaults other otherConverter inTail
  have lengths := congrArg List.length take_eq
  rw [List.length_take_of_le inside.le, List.length_append, List.length_cons] at lengths
  have shorter := longer.optionalStart_le
  omega

theorem isLongestTail_optionalStart (hasDefault : String → Bool) (segments : List Segment) :
    IsLongestTail hasDefault segments (optionalStart hasDefault segments) := by
  have inside (notWhole : optionalStart hasDefault segments ≠ segments.length) :
      optionalStart hasDefault segments < segments.length :=
    lt_of_le_of_ne (optionalStart_le_length ..) notWhole
  exact {
    eq_length_iff := optionalStart_eq_length_iff
    starts := fun notWhole => (isOmittable_optionalStart (inside notWhole)).starts
    defaults := fun _ _ => hasDefault_of_mem_drop_optionalStart
    stops := fun notWhole _ => eq_false_of_lastVariable?_take (inside notWhole)
    longest := fun _ => IsOmittable.optionalStart_le }

theorem IsLongestTail.isOmittable (tail : IsLongestTail hasDefault segments start)
    (notWhole : start ≠ segments.length) : IsOmittable hasDefault segments start := by
  have notPinned := mt tail.eq_length_iff.mpr notWhole
  refine ⟨tail.starts notWhole, ?_, tail.defaults⟩
  cases isLast : segments.getLast? with
  | none => exact absurd (.inl (List.getLast?_eq_none_iff.mp isLast)) notPinned
  | some last =>
      cases last with
      | literal text => exact absurd (.inr (.inl ⟨text, isLast⟩)) notPinned
      | var name converter => exact ⟨name, converter, rfl⟩

theorem isLongestTail_iff :
    IsLongestTail hasDefault segments start ↔ start = optionalStart hasDefault segments := by
  constructor
  · intro tail
    by_cases isWhole : start = segments.length
    · rw [isWhole, optionalStart_eq_length_iff.mpr (tail.eq_length_iff.mp isWhole)]
    · have omittable := tail.isOmittable isWhole
      have inside := omittable.optionalStart_le.trans_lt omittable.lt_length
      exact (tail.longest _ (isOmittable_optionalStart inside)).antisymm omittable.optionalStart_le
  · rintro rfl
    exact isLongestTail_optionalStart ..

/-- What tells the separator that is left out with a tail: it ends a literal right before the tail,
but a slash that is all there is before the tail stays.  Before each tail there is a segment to look
at, and if that is a literal it has a last character. -/
structure IsLeadSeparator (segments : List Segment) (start : Nat) (lead : Option Char) : Prop where
  eq_some_iff : ∀ char, lead = some char ↔ 0 < start ∧ start < segments.length ∧ ∃ text,
    segments[start - 1]? = some (.literal text) ∧ text.toList.getLast? = some char ∧
    char ∈ separators ∧ (start = 1 → text ≠ "/")
  isThere : 0 < start → start < segments.length → ∃ segment, segments[start - 1]? = some segment ∧
    ∀ text, segment = .literal text → ∃ last, text.toList.getLast? = some last

theorem isLeadSeparator_leadSeparatorOf (parsed : Segment.AreParsed segments) (start : Nat) :
    IsLeadSeparator segments start (leadSeparatorOf segments start) := by
  refine ⟨fun char => leadSeparatorOf_eq_some_iff, ?_⟩
  intro positive inside
  have before : start - 1 < segments.length := by omega
  refine ⟨segments[start - 1], List.getElem?_eq_getElem before, ?_⟩
  intro text isText
  have nonempty := parsed.nonempty text (isText ▸ List.getElem_mem before)
  have hasChars : text.toList ≠ [] := mt String.toList_eq_nil_iff.mp nonempty
  exact ⟨_, List.getLast?_eq_some_getLast hasChars⟩

/-- The part of a template that may be left out is the longest tail from variable to variable in
which all have defaults, and with it goes the separator in front of it. -/
theorem longest_tail_of_parse {template : String} (parses : Segment.parse template = .ok segments)
    (defaults : Attributes) :
    (∀ start, IsLongestTail defaults.hasName segments start ↔
      start = optionalStart defaults.hasName segments) ∧
    IsLeadSeparator segments (optionalStart defaults.hasName segments)
      (leadSeparatorOf segments (optionalStart defaults.hasName segments)) ∧
    ∀ requirements compiled, compile template defaults requirements = .ok compiled →
      compiled.segments = segments ∧
      compiled.optionalFrom = optionalStart defaults.hasName segments ∧
      compiled.leadSeparator =
        leadSeparatorOf segments (optionalStart defaults.hasName segments) := by
  refine ⟨fun start => isLongestTail_iff, ?_, ?_⟩
  · exact isLeadSeparator_leadSeparatorOf (Segment.areParsed_of_parse parses) _
  · intro requirements compiled compile_eq
    have compiles := compiles_of_compile compile_eq
    have segments_eq : compiled.segments = segments :=
      Except.ok.inj (compiles.parse.symm.trans parses)
    have start_eq := compiles.optionalFrom_eq
    have lead_eq := compiles.leadSeparator_eq
    rw [start_eq] at lead_eq
    rw [segments_eq] at start_eq lead_eq
    exact ⟨segments_eq, start_eq, lead_eq⟩

/-- The year has no default, so that the tail starts behind the hyphen. -/
theorem archive_longest_tail : ∃ segments compiled,
    Segment.parse "/archive/{year}-{month}.{format}" = .ok segments ∧
      segments = [.literal "/archive/", .var "year" none, .literal "-", .var "month" none,
        .literal ".", .var "format" none] ∧
      IsLongestTail (Attributes.hasName [(.text "month", .int 1), (.text "format", .text "html")])
        segments 3 ∧
      IsLeadSeparator segments 3 (some '-') ∧
      compile "/archive/{year}-{month}.{format}"
        [(.text "month", .int 1), (.text "format", .text "html")] [] = .ok compiled ∧
      compiled.optionalFrom = 3 ∧ compiled.leadSeparator = some '-' := by
  have parses : Segment.parse "/archive/{year}-{month}.{format}" =
      .ok [.literal "/archive/", .var "year" none, .literal "-", .var "month" none,
        .literal ".", .var "format" none] := by cbv
  have accepted : (compile "/archive/{year}-{month}.{format}"
      [(.text "month", .int 1), (.text "format", .text "html")] []).isOk = true := by
    decide +kernel
  obtain ⟨tail, lead, fields⟩ := longest_tail_of_parse parses
    [(.text "month", .int 1), (.text "format", .text "html")]
  cases compile_eq : compile "/archive/{year}-{month}.{format}"
      [(.text "month", .int 1), (.text "format", .text "html")] [] with
  | error fault =>
      rw [compile_eq] at accepted
      cases accepted
  | ok compiled =>
      obtain ⟨-, start_eq, lead_eq⟩ := fields _ compiled compile_eq
      exact ⟨_, compiled, parses, rfl, (tail 3).mpr (by decide), lead, rfl, start_eq, lead_eq⟩

end CompiledTemplate

end UrlRouting
