import UrlRouting.RouteFile

/-!
# Scalars without values

A text in one of the notations but the last has a value if it is well-formed and has no integer with
too many digits in it (`failsWith_read_of_ne_yaml`).
-/

namespace UrlRouting

/-! ### Faults of a result -/

variable {ε α β : Type} {isFault : ε → Prop}

/-- A result without a fault, or with one that has a property. -/
def FailsWith (isFault : ε → Prop) (result : Except ε α) : Prop :=
  ∀ fault, result = .error fault → isFault fault

namespace FailsWith

theorem ok (value : α) : FailsWith isFault (.ok value) := by
  intro fault failed
  cases failed

theorem error {fault : ε} (holds : isFault fault) :
    FailsWith isFault (.error fault : Except ε α) := by
  intro other failed
  cases failed
  exact holds

theorem bind {result : Except ε α} {next : α → Except ε β} (first : FailsWith isFault result)
    (further : ∀ value, FailsWith isFault (next value)) :
    FailsWith isFault (result >>= next) := by
  cases result with
  | error fault => exact error (first fault rfl)
  | ok value => exact further value

theorem map {result : Except ε α} (first : FailsWith isFault result) (change : α → β) :
    FailsWith isFault (result.map change) := by
  cases result with
  | error fault => exact error (first fault rfl)
  | ok value => exact ok (change value)

end FailsWith

/-- What holds of the faults of a step holds of those of a machine, if it holds of being stuck. -/
theorem failsWith_descend {σ : Type} (size : σ → Nat) {stuck : ε}
    {step : σ → Except ε (Step σ α)} (steps : ∀ state, FailsWith isFault (step state))
    (isStuck : isFault stuck) (state : σ) :
    FailsWith isFault (descend size stuck step state) := by
  fun_induction descend size stuck step state with
  | case1 state fault failed => exact .error (steps state fault failed)
  | case2 => exact .ok _
  | case3 _ _ _ _ inductionHypothesis => exact inductionHypothesis
  | case4 => exact .error isStuck

def ScalarFault.IsTooLong (fault : ScalarFault) : Prop :=
  ∃ count, digitLimit < count ∧ fault = .tooManyDigits count

/-- A text that is not well-formed, or an integer that is too long. -/
def ReadingFault.IsFormOrLong : ReadingFault → Prop
  | .malformed _ => True
  | .scalar fault => fault.IsTooLong

theorem isFormOrLong_illFormed : illFormed.IsFormOrLong := trivial

theorem failsWith_integerOfDigits (negative : Bool) (digits : List Char) :
    FailsWith ScalarFault.IsTooLong (integerOfDigits negative digits) := by
  unfold integerOfDigits
  split
  · next isLong => exact .error ⟨_, isLong, rfl⟩
  · exact .ok _

/-! ### JSON texts -/

namespace Json

/-- A mistake in the form of a text, or an integer that is too long. -/
def Fault.IsFormOrLong : Fault → Prop
  | .form .. => True
  | .scalar fault => fault.IsTooLong

theorem failsWith_readCode (place : Nat) (chars : List Char) :
    FailsWith Fault.IsFormOrLong (readCode place chars) := by
  unfold readCode
  repeat' split
  all_goals first | exact .ok _ | exact .error trivial

theorem failsWith_readEscape (chars : List Char) :
    FailsWith Fault.IsFormOrLong (readEscape chars) := by
  unfold readEscape
  split
  · exact .error trivial
  · exact failsWith_readCode _ _
  · split
    · exact .ok _
    · exact .error trivial

theorem failsWith_readText (opening : Nat) (chars : List Char) :
    FailsWith Fault.IsFormOrLong (readText opening chars) := by
  fun_induction readText opening chars with
  | case1 => exact .error trivial
  | case2 => exact .ok _
  | case3 => exact .error trivial
  | case4 rest _ fault failed => exact .error (failsWith_readEscape _ _ failed)
  | case5 rest _ char behind _ inductionHypothesis => exact inductionHypothesis.map _
  | case6 => exact .error trivial
  | case7 char rest _ _ _ inductionHypothesis => exact inductionHypothesis.map _

theorem failsWith_readName (chars : List Char) :
    FailsWith Fault.IsFormOrLong (readName chars) := by
  unfold readName
  split
  · split
    · next failed => exact .error (failsWith_readText _ _ _ failed)
    · split
      · exact .ok _
      · exact .error trivial
  · exact .error trivial

theorem failsWith_value (numeral : Numeral) : FailsWith ScalarFault.IsTooLong numeral.value := by
  unfold Numeral.value
  split
  · exact (failsWith_integerOfDigits _ _).map _
  · exact .ok _

theorem failsWith_readScalar (chars : List Char) :
    FailsWith Fault.IsFormOrLong (readScalar chars) := by
  unfold readScalar
  split
  · exact .ok _
  · split
    · exact .error trivial
    · split
      · exact .ok _
      · next failed => exact .error (failsWith_value _ _ failed)

/-- Values are read, and gone on behind, without other faults than those of their parts. -/
theorem failsWith_readValue :
    (∀ frames chars, FailsWith Fault.IsFormOrLong (readValue frames chars)) ∧
      ∀ frames value chars, FailsWith Fault.IsFormOrLong (goOn frames value chars) := by
  apply readValue.mutual_induct <;> intros
  -- In each case a part fails, a sign is missing, or the reading goes on as in the hypothesis.
  all_goals first | rw [readValue] | rw [goOn]
  all_goals grind [FailsWith, Fault.IsFormOrLong, failsWith_readText, failsWith_readName,
    failsWith_readScalar]

theorem failsWith_readAll (chars : List Char) :
    FailsWith Fault.IsFormOrLong (readAll chars) := by
  unfold readAll
  split
  · exact .error trivial
  · split
    · next failed => exact .error (failsWith_readValue.1 _ _ _ failed)
    · dsimp only
      split
      · exact .ok _
      · exact .error trivial

theorem failsWith_read (chars : List Char) :
    FailsWith ReadingFault.IsFormOrLong (read chars) := by
  intro fault failed
  unfold read at failed
  cases answer : readAll chars with
  | ok value =>
      rw [answer] at failed
      cases failed
  | error other =>
      have isFault := failsWith_readAll chars other answer
      rw [answer] at failed
      cases failed
      cases other with
      | form => trivial
      | scalar => exact isFault

end Json

/-! ### TOML texts -/

namespace Toml

open ReadingFault

theorem failsWith_required (found : Option (α × List Char)) :
    FailsWith IsFormOrLong (required found) := by
  cases found with
  | none => exact .error trivial
  | some found => exact .ok found

/-! #### Blanks, texts and keys -/

theorem failsWith_skipLines (inComment : Bool) (chars : List Char) :
    FailsWith IsFormOrLong (skipLines inComment chars) := by
  fun_induction skipLines inComment chars with
  | case1 => exact .ok _
  | case2 _ _ _ inductionHypothesis => exact inductionHypothesis
  | case3 _ _ _ _ inductionHypothesis => exact inductionHypothesis
  | case4 => exact .error trivial
  | case5 _ _ _ inductionHypothesis => exact inductionHypothesis
  | case6 _ _ _ _ inductionHypothesis => exact inductionHypothesis
  | case7 => exact .ok _

theorem failsWith_skipComment (chars : List Char) :
    FailsWith IsFormOrLong (skipComment chars) := by
  unfold skipComment
  split
  · split
    · exact .ok _
    · exact .error trivial
  · exact .ok _

theorem failsWith_basicStep (long : Bool) (state : List Char × List Char) :
    FailsWith IsFormOrLong (basicStep long state) := by
  unfold basicStep
  repeat' split
  all_goals first | exact .ok _ | exact .error trivial

theorem failsWith_readBasic (long : Bool) (chars : List Char) :
    FailsWith IsFormOrLong (readBasic long chars) :=
  failsWith_descend _ (failsWith_basicStep long) isFormOrLong_illFormed _

theorem failsWith_readText (chars : List Char) : FailsWith IsFormOrLong (readText chars) := by
  unfold readText
  refine FailsWith.map ?_ _
  split
  · exact failsWith_readBasic _ _
  · exact failsWith_readBasic _ _
  · exact failsWith_required _
  · exact failsWith_required _
  · exact .error trivial

theorem failsWith_readPart (chars : List Char) : FailsWith IsFormOrLong (readPart chars) := by
  unfold readPart
  split
  · exact (failsWith_readBasic _ _).map _
  · exact failsWith_required _
  · dsimp only
    split
    · exact .error trivial
    · exact .ok _

theorem failsWith_keyStep (state : List String × List Char) :
    FailsWith IsFormOrLong (keyStep state) := by
  unfold keyStep
  refine (failsWith_readPart state.2).bind fun (part, rest) => ?_
  dsimp only
  split <;> exact .ok _

theorem failsWith_readKey (chars : List Char) : FailsWith IsFormOrLong (readKey chars) :=
  failsWith_descend _ failsWith_keyStep isFormOrLong_illFormed _

/-! #### Scalars -/

theorem failsWith_of_readCalendar? {chars : List Char}
    {result : Except ReadingFault (Value × List Char)} (read : readCalendar? chars = some result) :
    FailsWith IsFormOrLong result := by
  obtain ⟨⟨⟨year, month, day⟩, rest⟩, -, rfl⟩ := Option.map_eq_some_iff.mp read
  dsimp only
  split
  · exact .error trivial
  · split <;> exact .ok _

theorem failsWith_of_readUnsigned? {negative : Bool} {chars : List Char}
    {result : Except ReadingFault (Value × List Char)}
    (read : readUnsigned? negative chars = some result) : FailsWith IsFormOrLong result := by
  obtain ⟨⟨whole, rest⟩, -, rfl⟩ := Option.map_eq_some_iff.mp read
  dsimp only
  split
  · split
    · exact .ok _
    · next failed => exact .error (failsWith_integerOfDigits _ _ _ failed)
  · exact .ok _

theorem failsWith_readNumber (chars : List Char) : FailsWith IsFormOrLong (readNumber chars) := by
  unfold readNumber
  dsimp only
  split
  · next read => exact failsWith_of_readUnsigned? read
  · exact failsWith_required _

theorem failsWith_readScalar (chars : List Char) : FailsWith IsFormOrLong (readScalar chars) := by
  unfold readScalar
  split
  · exact (failsWith_readText _).map _
  · exact (failsWith_readText _).map _
  · exact .ok _
  · exact .ok _
  · split
    · next read => exact failsWith_of_readCalendar? read
    · split
      · exact .ok _
      · split
        · exact .ok _
        · exact failsWith_readNumber _

/-! #### Values -/

theorem failsWith_readKeyAndSign (chars : List Char) :
    FailsWith IsFormOrLong (readKeyAndSign chars) := by
  refine (failsWith_readKey chars).bind fun (key, rest) => ?_
  dsimp only
  split
  · exact .ok _
  · exact .error trivial

theorem failsWith_enter (frames : List Frame) (chars : List Char) :
    FailsWith IsFormOrLong (enter frames chars) := by
  unfold enter
  split
  · refine (failsWith_skipLines _ _).bind fun rest => ?_
    split <;> exact .ok _
  · split
    · exact .ok _
    · exact (failsWith_readKeyAndSign _).bind fun _ => .ok _
  · exact (failsWith_readScalar _).bind fun _ => .ok _

theorem failsWith_leaveItem (items : List Value) (frames : List Frame) (chars : List Char) :
    FailsWith IsFormOrLong (leaveItem items frames chars) := by
  refine (failsWith_skipLines _ _).bind fun rest => ?_
  split
  · exact .ok _
  · refine (failsWith_skipLines _ _).bind fun rest => ?_
    split <;> exact .ok _
  · exact .error trivial

theorem failsWith_leavePair (entries : Table) (frames : List Frame) (chars : List Char) :
    FailsWith IsFormOrLong (leavePair entries frames chars) := by
  unfold leavePair
  split
  · exact .ok _
  · exact (failsWith_readKeyAndSign _).bind fun _ => .ok _
  · exact .error trivial

theorem failsWith_valueStep (place : Place) : FailsWith IsFormOrLong (valueStep place) := by
  unfold valueStep
  split
  · exact (failsWith_enter _ _).map _
  · exact .ok _
  · exact (failsWith_leaveItem _ _ _).map _
  · split
    · exact .error trivial
    · exact (failsWith_leavePair _ _ _).map _

theorem failsWith_readValue (chars : List Char) : FailsWith IsFormOrLong (readValue chars) :=
  failsWith_descend _ failsWith_valueStep isFormOrLong_illFormed _

/-! #### Statements -/

theorem failsWith_readHeader (document : Document) (chars : List Char) :
    FailsWith IsFormOrLong (readHeader document chars) := by
  refine (failsWith_readKey _).bind fun (header, rest) => ?_
  dsimp only
  split
  · exact .ok _
  · exact .ok _
  · exact .error trivial

theorem failsWith_readAssignment (document : Document) (chars : List Char) :
    FailsWith IsFormOrLong (readAssignment document chars) := by
  refine (failsWith_readKeyAndSign _).bind fun (key, rest) => ?_
  refine (failsWith_readValue rest).bind fun (value, rest) => ?_
  dsimp only
  split
  · exact .ok _
  · exact .error trivial

theorem failsWith_readStatement (document : Document) (chars : List Char) :
    FailsWith IsFormOrLong (readStatement document chars) := by
  unfold readStatement
  split
  · exact .ok _
  · split
    · exact .ok _
    · split
      · exact failsWith_readHeader _ _
      · exact failsWith_readAssignment _ _

theorem failsWith_lineStep (state : Document × List Char) :
    FailsWith IsFormOrLong (lineStep state) := by
  refine (failsWith_readStatement _ _).bind fun (document, rest) => ?_
  refine (failsWith_skipComment _).bind fun rest => ?_
  split
  · exact .ok _
  · exact .ok _
  · exact .error trivial

theorem failsWith_read (chars : List Char) : FailsWith IsFormOrLong (read chars) :=
  (failsWith_descend _ failsWith_lineStep isFormOrLong_illFormed _).bind fun _ => .ok _

end Toml

theorem failsWith_read_of_ne_yaml {format : FileFormat} (notYaml : format ≠ .yaml)
    (chars : List Char) : FailsWith ReadingFault.IsFormOrLong (format.read chars) := by
  cases format with
  | json => exact Json.failsWith_read chars
  | toml => exact Toml.failsWith_read chars
  | yaml => exact absurd rfl notYaml

end UrlRouting
