import UrlRouting.Proofs.Regex.Reading

/-!
# Parts of expressions in front of a closing parenthesis

Escapes, character classes, bounds of repetitions, names and flags are read in front of a closing
parenthesis as they are read on their own.
-/

namespace UrlRouting.Regex

open Reader

/-- A reader whose bound may grow can be run without one. -/
theorem Reader.carries_unbounded {α : Type} {reader reader' : Nat → Reader α}
    (grows : ∀ ⦃most most'⦄, most ≤ most' → Carries (reader most) (reader' most')) :
    Carries (unbounded reader) (unbounded reader') := by
  intro input value rest reads more
  have le : input.length + 1 ≤ (input ++ .closing :: more).length + 1 := by simp
  exact grows le reads more

/-- An attempt gives what its reader gives, and takes nothing if that is nothing. -/
theorem Reader.reads_attempt_iff {α : Type} {reader : Reader (Option α)} {value : Option α}
    {input rest : List Token} :
    Reads (attempt reader) input value rest ↔
      (value.isSome ∧ Reads reader input value rest) ∨
        (value = none ∧ input = rest ∧ ∃ tried, Reads reader input none tried) := by
  simp only [Reads, attempt]
  cases reader input with
  | error trouble => simp
  | ok taken =>
      rcases taken with ⟨given, left, le, keeps⟩
      cases given with
      | none =>
          simp only [Except.ok.injEq, exists_eq_left', Taken.nothing]
          constructor
          · rintro ⟨rfl, rfl⟩
            exact .inr ⟨rfl, rfl, left, trivial, rfl⟩
          · rintro (⟨isSome, rfl, _⟩ | ⟨rfl, rfl, _⟩)
            · simp at isSome
            · exact ⟨rfl, rfl⟩
      | some found =>
          simp only [Except.ok.injEq, exists_eq_left', reduceCtorEq, false_and, exists_false,
            and_false, or_false]
          constructor
          · rintro ⟨rfl, rfl⟩
            exact ⟨Option.isSome_some, rfl, rfl⟩
          · rintro ⟨-, rfl, rfl⟩
            exact ⟨rfl, rfl⟩

theorem Reader.carries_attempt {α : Type} {reader : Reader (Option α)}
    (carries : Carries reader reader) : Carries (attempt reader) (attempt reader) := by
  intro input value rest reads more
  rcases reads_attempt_iff.mp reads with ⟨isSome, reads⟩ | ⟨rfl, rfl, tried, reads⟩
  · exact reads_attempt_iff.mpr (.inl ⟨isSome, carries reads more⟩)
  · exact reads_attempt_iff.mpr (.inr ⟨rfl, rfl, _, carries reads more⟩)

/-! ### Escapes -/

namespace Escape

theorem carries_hexCode (char : Char) (count : Nat) :
    Carries (hexCode char count) (hexCode char count) := by
  refine (carries_takeUpTo rfl _).bind fun digits => ?_
  split
  · simp
  · split
    · simp
    · split <;> simp

theorem carries_namedCode : Carries namedCode namedCode := by
  refine (carries_accept (by decide)).bind fun accepted => ?_
  cases accepted with
  | false => simp
  | true => exact (carries_name _ _).bind fun name => by simp

theorem carries_octalCode (digits : List Char) :
    Carries (octalCode digits) (octalCode digits) := by
  unfold octalCode
  split <;> simp

theorem carries_literalCode (char : Char) : Carries (literalCode char) (literalCode char) := by
  unfold literalCode
  split <;> simp

theorem carries_otherCode (char : Char) : Carries (otherCode char) (otherCode char) := by
  unfold otherCode
  split
  · exact carries_hexCode _ _
  · exact carries_hexCode _ _
  · exact carries_hexCode _ _
  · exact carries_namedCode
  · exact carries_literalCode char

theorem carries_inClass (ascii : Bool) (char : Char) :
    Carries (inClass ascii char) (inClass ascii char) := by
  unfold inClass
  split
  · simp
  · simp
  · split
    · refine (carries_takeUpTo rfl _).bind fun digits => ?_
      exact (carries_octalCode _).bind fun code => by simp
    · split
      · simp
      · exact (carries_otherCode char).bind fun code => by simp

theorem carries_digitEscape (first : Char) : Carries (digitEscape first) (digitEscape first) := by
  refine (carries_takeUpTo rfl _).bind fun digits => ?_
  cases digits with
  | nil => simp
  | cons second others =>
      simp only
      split
      · refine (carries_takeUpTo rfl _).bind fun digits => ?_
        cases digits with
        | nil => simp
        | cons third others => exact (carries_octalCode _).bind fun code => by simp
      · simp

theorem carries_inExpression (char : Char) : Carries (inExpression char) (inExpression char) := by
  unfold inExpression
  split
  · simp
  · simp
  · simp
  · simp
  · split
    · simp
    · simp
    · split
      · exact (carries_takeUpTo rfl _).bind fun digits => by simp
      · split
        · exact carries_digitEscape char
        · exact (carries_otherCode char).bind fun code => by simp

end Escape

/-! ### Character classes -/

theorem carries_classMember (ascii : Bool) (token : Token) :
    Carries (classMember ascii token) (classMember ascii token) := by
  cases token with
  | plain char => simp [classMember]
  | escaped char => exact Escape.carries_inClass ascii char
  | dangling => simp [classMember]

theorem carries_classRange (first last : Token) (low high : ClassItem) :
    Carries (classRange first last low high) (classRange first last low high) := by
  unfold classRange
  split
  · split <;> simp
  · simp

theorem carries_classMembers (ascii : Bool) (start start' : Nat) {most most' : Nat}
    (le : most ≤ most') (read : List ClassItem) :
    Carries (classMembers ascii start most read) (classMembers ascii start' most' read) := by
  induction most generalizing most' read with
  | zero => exact carries_of_not_reads fun _ _ _ => not_reads_failAt
  | succ most inductionHypothesis =>
      obtain ⟨most', rfl⟩ : ∃ fewer, most' = fewer + 1 := ⟨most' - 1, by omega⟩
      have le : most ≤ most' := by omega
      refine carries_next_bind (fun _ _ _ => not_reads_failAt) fun first => ?_
      simp only
      split
      · simp
      · refine (carries_classMember ascii first).bind fun low => ?_
        refine (carries_accept (by decide)).bind fun isRange => ?_
        cases isRange with
        | false => exact inductionHypothesis le _
        | true =>
            refine carries_next_bind (fun _ _ _ => not_reads_failAt) fun last => ?_
            simp only
            split
            · simp
            · refine (carries_classMember ascii last).bind fun high => ?_
              refine (carries_classRange first last low high).bind fun range => ?_
              exact inductionHypothesis le _

/-! ### Bounds of repetitions -/

theorem carries_readBounds : Carries readBounds readBounds := by
  refine (carries_takeAll rfl).bind fun low => ?_
  refine (carries_accept (by decide)).bind fun comma => ?_
  cases comma with
  | false =>
      refine Carries.bind (carries_return low) fun high => ?_
      refine (carries_accept (by decide)).bind fun closed => ?_
      cases closed <;> simp
  | true =>
      refine (carries_takeAll rfl).bind fun high => ?_
      refine (carries_accept (by decide)).bind fun closed => ?_
      cases closed <;> simp

/-! ### Names and flags -/

theorem carries_readGroupName (terminator : Char) :
    Carries (readGroupName terminator) (readGroupName terminator) := by
  refine (carries_name _ _).bind fun name => ?_
  split <;> simp

theorem not_reads_notAFlag {α : Type} {token : Token} {expected : String}
    {input rest : List Token} {value : α} :
    ¬ Reads (notAFlag token expected) input value rest := by
  unfold notAFlag
  split <;> exact not_reads_fail

theorem carries_notAFlag {α : Type} (token : Token) (expected : String) :
    Carries (notAFlag (α := α) token expected) (notAFlag token expected) :=
  carries_of_not_reads fun _ _ _ => not_reads_notAFlag

theorem carries_readFlagsOff {most most' : Nat} (le : most ≤ most') (off : List Char)
    (letter : Char) :
    Carries (readFlagsOff most off letter) (readFlagsOff most' off letter) := by
  induction most generalizing most' off letter with
  | zero => exact carries_of_not_reads fun _ _ _ => not_reads_fail
  | succ most inductionHypothesis =>
      obtain ⟨most', rfl⟩ : ∃ fewer, most' = fewer + 1 := ⟨most' - 1, by omega⟩
      unfold readFlagsOff
      split
      · simp
      · refine carries_next_bind (fun _ _ _ => not_reads_fail) fun token => ?_
        split
        · simp_all
        · simp
        · split
          · split
            · exact inductionHypothesis (by omega) _ _
            · exact carries_notAFlag _ _
          · exact carries_notAFlag _ _

theorem carries_readFlagsOn {most most' : Nat} (le : most ≤ most') (on : List Char)
    (letter : Char) :
    Carries (readFlagsOn most on letter) (readFlagsOn most' on letter) := by
  induction most generalizing most' on letter with
  | zero => exact carries_of_not_reads fun _ _ _ => not_reads_fail
  | succ most inductionHypothesis =>
      obtain ⟨most', rfl⟩ : ∃ fewer, most' = fewer + 1 := ⟨most' - 1, by omega⟩
      unfold readFlagsOn
      split
      · simp
      · split
        · simp
        · refine carries_next_bind (fun _ _ _ => not_reads_fail) fun token => ?_
          simp only
          split
          · split
            · simp
            · split
              · exact inductionHypothesis (by omega) _ _
              · exact carries_notAFlag _ _
          · exact carries_notAFlag _ _

theorem carries_readFlagsAfterMinus : Carries readFlagsAfterMinus readFlagsAfterMinus := by
  refine carries_next_bind (fun _ _ _ => not_reads_fail) fun token => ?_
  simp only
  split
  · split
    · exact carries_unbounded fun _ _ le => carries_readFlagsOff le _ _
    · exact carries_notAFlag _ _
  · exact carries_notAFlag _ _

theorem carries_readFlagsSet (first : Char) :
    Carries (readFlagsSet first) (readFlagsSet first) := by
  unfold readFlagsSet
  split
  · simp
  · exact carries_unbounded fun _ _ le => carries_readFlagsOn le _ _

theorem carries_readFlagsCleared (stop : Char) :
    Carries (readFlagsCleared stop) (readFlagsCleared stop) := by
  unfold readFlagsCleared
  split
  · exact carries_readFlagsAfterMinus
  · simp

theorem carries_readFlags (first : Char) : Carries (readFlags first) (readFlags first) := by
  refine (carries_readFlagsSet first).bind fun (on, stop) => ?_
  simp only
  split
  · simp
  · split
    · simp
    · refine (carries_readFlagsCleared stop).bind fun off => ?_
      split
      · simp
      · split <;> simp

/-! ### Comments -/

theorem carries_skipComment (start start' : Nat) {most most' : Nat} (le : most ≤ most') :
    Carries (skipComment start most) (skipComment start' most') := by
  induction most generalizing most' with
  | zero => exact carries_of_not_reads fun _ _ _ => not_reads_failAt
  | succ most inductionHypothesis =>
      obtain ⟨most', rfl⟩ : ∃ fewer, most' = fewer + 1 := ⟨most' - 1, by omega⟩
      refine carries_next_bind (fun _ _ _ => not_reads_failAt) fun token => ?_
      simp only
      split
      · simp
      · exact inductionHypothesis (by omega)

/-- A line comment may end with the text; then nothing is left. -/
theorem reads_skipLine_append {most most' : Nat} {input rest : List Token}
    (reads : Reads (skipLine most) input () rest) (bounds : input.length < most ∧ most ≤ most')
    (more : List Token) :
    rest = [] ∨
      Reads (skipLine most') (input ++ .closing :: more) () (rest ++ .closing :: more) := by
  induction most generalizing input most' with
  | zero => omega
  | succ most inductionHypothesis =>
      obtain ⟨most', rfl⟩ : ∃ fewer, most' = fewer + 1 := ⟨most' - 1, by omega⟩
      rw [skipLine, reads_bind] at reads
      obtain ⟨token?, between, taken, reads⟩ := reads
      rcases reads_next_iff.mp taken with ⟨rfl, rfl, rfl⟩ | ⟨token, rfl, rfl, _⟩
      · exact .inl (reads_return.mp reads).2.symm
      · by_cases isEnd : token = .plain '\n'
        · simp only [isEnd, if_true, reads_return, true_and] at reads
          subst reads
          right
          rw [skipLine, reads_bind]
          exact ⟨some token, _, reads_next_cons (append_closing_ne_dangling _ _), by simp [isEnd]⟩
        · simp only [isEnd, if_false] at reads
          have bounds : between.length < most ∧ most ≤ most' := by
            simp only [List.length_cons] at bounds
            omega
          rcases inductionHypothesis reads bounds with atEnd | readsOn
          · exact .inl atEnd
          · right
            rw [skipLine, reads_bind]
            exact ⟨some token, _, reads_next_cons (append_closing_ne_dangling _ _),
              by simpa [isEnd] using readsOn⟩

end UrlRouting.Regex
