import Mathlib
import UrlRouting.Regex.Parser

/-!
# Reading in front of a closing parenthesis

What a reader takes of a text on its own it takes as well when a closing parenthesis and any other
text follow (`Carries`): it stops where it stopped before.  This holds for the readers of names,
numbers, escapes, character classes and bounds, all of which refuse a text that ends too early.
-/

namespace UrlRouting.Regex

abbrev Token.closing : Token := .plain ')'

namespace Reader

variable {α β : Type} {first first' : Reader α} {second second' : α → Reader β}
  {input rest : List Token} {value : α}

/-- A reader gives a value and leaves a rest. -/
def Reads (reader : Reader α) (input : List Token) (value : α) (rest : List Token) : Prop :=
  ∃ taken, reader input = .ok taken ∧ taken.value = value ∧ taken.rest = rest

/-- A second reader gives the same value as the first one when a parenthesis closes what the first
one reads, whatever comes next, and takes no more of it. -/
def Carries (first second : Reader α) : Prop :=
  ∀ ⦃input value rest⦄, Reads first input value rest →
    ∀ more, Reads second (input ++ .closing :: more) value (rest ++ .closing :: more)

/-! ### Single steps -/

theorem Reads.unique {value' : α} {rest' : List Token} (reads : Reads first input value rest)
    (reads' : Reads first input value' rest') : value' = value ∧ rest' = rest := by
  obtain ⟨taken, equation, rfl, rfl⟩ := reads
  obtain ⟨taken', equation', rfl, rfl⟩ := reads'
  rw [equation] at equation'
  injection equation' with same
  subst same
  exact ⟨rfl, rfl⟩

@[simp]
theorem reads_pure {given : α} :
    Reads (Reader.pure given) input value rest ↔ given = value ∧ input = rest := by
  simp [Reads, Reader.pure, Taken.nothing]

@[simp]
theorem reads_return {given : α} :
    Reads (Pure.pure given : Reader α) input value rest ↔ given = value ∧ input = rest :=
  reads_pure

@[simp]
theorem reads_bind {value : β} :
    Reads (first >>= second) input value rest ↔
      ∃ middle between, Reads first input middle between ∧
        Reads (second middle) between value rest := by
  constructor
  · rintro ⟨taken, equation, rfl, rfl⟩
    simp only [Bind.bind, Reader.bind] at equation
    split at equation
    · simp at equation
    · next taken₁ equation₁ =>
        split at equation
        · simp at equation
        · next taken₂ equation₂ =>
            injection equation with same
            subst same
            exact ⟨taken₁.value, taken₁.rest, ⟨taken₁, equation₁, rfl, rfl⟩,
              taken₂, equation₂, rfl, rfl⟩
  · rintro ⟨_, _, ⟨taken₁, equation₁, rfl, rfl⟩, taken₂, equation₂, rfl, rfl⟩
    simp [Reads, Bind.bind, Reader.bind, equation₁, equation₂]

@[simp]
theorem not_reads_fail {fault : RegexFault} {back : Nat} :
    ¬ Reads (fail (α := α) fault back) input value rest := by
  simp [Reads, fail]

@[simp]
theorem not_reads_failAt {fault : RegexFault} {fromEnd : Nat} :
    ¬ Reads (failAt (α := α) fault fromEnd) input value rest := by
  simp [Reads, failAt]

@[simp]
theorem not_reads_failNowhere {fault : RegexFault} :
    ¬ Reads (failNowhere (α := α) fault) input value rest := by
  simp [Reads, failNowhere]

@[simp]
theorem reads_left {size : Nat} :
    Reads left input size rest ↔ Token.width input = size ∧ input = rest := by
  simp [Reads, left, Taken.nothing]

@[simp]
theorem reads_peek {token? : Option Token} :
    Reads peek input token? rest ↔ input.head? = token? ∧ input = rest := by
  simp [Reads, peek, Taken.nothing]

theorem guardRest_eq_ok_iff : guardRest rest = .ok () ↔ rest ≠ [.dangling] := by
  simp only [guardRest]
  split <;> simp_all

@[simp]
theorem reads_guarded {reader : Reader α} :
    Reads (guarded reader) input value rest ↔
      input ≠ [.dangling] ∧ Reads reader input value rest := by
  simp only [Reads, guarded, ← guardRest_eq_ok_iff]
  cases guardRest input <;> simp

theorem reads_next_iff {token? : Option Token} :
    Reads next input token? rest ↔
      (input = [] ∧ token? = none ∧ rest = []) ∨
        ∃ token, input = token :: rest ∧ token? = some token ∧ rest ≠ [.dangling] := by
  cases input with
  | nil => simp [Reads, next, Taken.nothing, eq_comm]
  | cons token others =>
      simp only [Reads, next, List.cons.injEq, reduceCtorEq, false_and, false_or]
      constructor
      · rintro ⟨taken, equation, rfl, rfl⟩
        split at equation
        · simp at equation
        · next guarded =>
            injection equation with same
            subst same
            exact ⟨token, ⟨rfl, rfl⟩, rfl, ne_dangling_of_guardRest guarded⟩
      · rintro ⟨_, ⟨rfl, rfl⟩, rfl, guarded⟩
        have accepted := guardRest_eq_ok_iff.mpr guarded
        split
        · next refused => simp [accepted] at refused
        · exact ⟨_, rfl, rfl, rfl⟩

theorem reads_next_cons {token : Token} (guarded : rest ≠ [.dangling]) :
    Reads next (token :: rest) (some token) rest :=
  reads_next_iff.mpr (.inr ⟨token, rfl, rfl, guarded⟩)

theorem append_closing_ne_dangling (rest more : List Token) :
    rest ++ .closing :: more ≠ [.dangling] := by
  cases rest <;> simp

theorem reads_accept_iff {char : Char} {accepted : Bool} :
    Reads (accept char) input accepted rest ↔
      (accepted = true ∧ input = .plain char :: rest ∧ rest ≠ [.dangling]) ∨
        (accepted = false ∧ input = rest ∧ input.head? ≠ some (.plain char)) := by
  simp only [accept, reads_bind, reads_peek]
  constructor
  · rintro ⟨_, _, ⟨rfl, rfl⟩, reads⟩
    by_cases isNext : input.head? = some (.plain char)
    · simp only [isNext, if_true, reads_bind, reads_return] at reads
      obtain ⟨token?, _, taken, rfl, rfl⟩ := reads
      rcases reads_next_iff.mp taken with ⟨rfl, _⟩ | ⟨token, rfl, _, guarded⟩
      · simp at isNext
      · simp only [List.head?_cons, Option.some.injEq] at isNext
        subst isNext
        exact .inl ⟨rfl, rfl, guarded⟩
    · simp only [isNext, if_false, reads_return] at reads
      exact .inr ⟨reads.1.symm, reads.2, isNext⟩
  · rintro (⟨rfl, rfl, guarded⟩ | ⟨rfl, rfl, isNext⟩)
    · refine ⟨_, _, ⟨rfl, rfl⟩, ?_⟩
      simp only [List.head?_cons, if_true, reads_bind, reads_return]
      exact ⟨_, _, reads_next_cons guarded, trivial, rfl⟩
    · exact ⟨_, _, ⟨rfl, rfl⟩, by simp [isNext]⟩

/-! ### Composition -/

theorem carries_of_not_reads
    (fails : ∀ input value rest, ¬ Reads first input value rest) : Carries first first' :=
  fun _ _ _ reads => absurd reads (fails _ _ _)

@[simp]
theorem carries_pure (given : α) : Carries (Reader.pure given) (Reader.pure given) := by
  rintro input value rest reads more
  simpa using reads

@[simp]
theorem carries_return (given : α) :
    Carries (Pure.pure given : Reader α) (Pure.pure given) :=
  carries_pure given

@[simp]
theorem carries_fail (fault : RegexFault) (back back' : Nat) :
    Carries (fail (α := α) fault back) (fail fault back') :=
  carries_of_not_reads fun _ _ _ => not_reads_fail

@[simp]
theorem carries_failNowhere (fault : RegexFault) :
    Carries (failNowhere (α := α) fault) (failNowhere fault) :=
  carries_of_not_reads fun _ _ _ => not_reads_failNowhere

theorem Carries.bind (carries : Carries first first')
    (carriesNext : ∀ value, Carries (second value) (second' value)) :
    Carries (first >>= second) (first' >>= second') := by
  intro input value rest reads more
  obtain ⟨middle, between, readsFirst, readsSecond⟩ := reads_bind.mp reads
  exact reads_bind.mpr ⟨middle, _, carries readsFirst more, carriesNext middle readsSecond more⟩

/-- The number of characters that are left may matter only for where a fault is reported. -/
theorem carries_left_bind {second second' : Nat → Reader β}
    (carriesNext : ∀ size size', Carries (second size) (second' size')) :
    Carries (left >>= second) (left >>= second') := by
  intro input value rest reads more
  obtain ⟨size, between, readsSize, readsSecond⟩ := reads_bind.mp reads
  obtain ⟨rfl, rfl⟩ := reads_left.mp readsSize
  exact reads_bind.mpr ⟨_, _, reads_left.mpr ⟨rfl, rfl⟩, carriesNext _ _ readsSecond more⟩

/-- A token can be taken if the end of the text would be refused. -/
theorem carries_next_bind {second second' : Option Token → Reader β}
    (refused : ∀ input value rest, ¬ Reads (second none) input value rest)
    (carriesNext : ∀ token, Carries (second (some token)) (second' (some token))) :
    Carries (next >>= second) (next >>= second') := by
  intro input value rest reads more
  obtain ⟨token?, between, readsNext, readsSecond⟩ := reads_bind.mp reads
  rcases reads_next_iff.mp readsNext with ⟨_, rfl, _⟩ | ⟨token, rfl, rfl, guarded⟩
  · exact absurd readsSecond (refused _ _ _)
  · exact reads_bind.mpr ⟨some token, _, reads_next_cons (append_closing_ne_dangling _ _),
      carriesNext token readsSecond more⟩

theorem carries_accept {char : Char} (other : char ≠ ')') :
    Carries (accept char) (accept char) := by
  intro input value rest reads more
  rcases reads_accept_iff.mp reads with ⟨rfl, rfl, _⟩ | ⟨rfl, rfl, isNext⟩
  · exact reads_accept_iff.mpr (.inl ⟨rfl, rfl, append_closing_ne_dangling _ _⟩)
  · refine reads_accept_iff.mpr (.inr ⟨rfl, rfl, ?_⟩)
    cases input with
    | nil => simpa using other.symm
    | cons token others => simpa using isNext

/-! ### Runs of characters -/

theorem reads_takeUpTo_succ_iff {kind : Char → Bool} {most : Nat} {chars : List Char} :
    Reads (takeUpTo kind (most + 1)) input chars rest ↔
      (∃ char others more, input = .plain char :: others ∧ kind char ∧ others ≠ [.dangling] ∧
        Reads (takeUpTo kind most) others more rest ∧ chars = char :: more) ∨
      (chars = [] ∧ input = rest ∧
        ∀ char, input.head? = some (.plain char) → kind char = false) := by
  rw [takeUpTo, reads_bind]
  constructor
  · rintro ⟨token?, between, peeked, reads⟩
    obtain ⟨rfl, rfl⟩ := reads_peek.mp peeked
    split at reads
    · next char isNext =>
        by_cases inside : kind char
        · simp only [inside, if_true, reads_bind, reads_return] at reads
          obtain ⟨_, others, taken, more, _, readsMore, rfl, rfl⟩ := reads
          rcases reads_next_iff.mp taken with ⟨rfl, _⟩ | ⟨token, rfl, _, guarded⟩
          · simp at isNext
          · simp only [List.head?_cons, Option.some.injEq] at isNext
            subst isNext
            exact .inl ⟨char, others, more, rfl, inside, guarded, readsMore, rfl⟩
        · simp only [inside, Bool.false_eq_true, if_false, reads_return] at reads
          refine .inr ⟨reads.1.symm, reads.2, ?_⟩
          intro other equality
          rw [isNext] at equality
          injection equality with same
          injection same with same
          rw [← same]
          exact Bool.eq_false_iff.mpr inside
    · next notPlain =>
        refine .inr ⟨(reads_return.mp reads).1.symm, (reads_return.mp reads).2, ?_⟩
        intro char equality
        exact absurd equality (notPlain char)
  · rintro (⟨char, others, more, rfl, inside, guarded, reads, rfl⟩ | ⟨rfl, rfl, outside⟩)
    · refine ⟨_, _, reads_peek.mpr ⟨rfl, rfl⟩, ?_⟩
      simp only [List.head?_cons, inside, if_true, reads_bind, reads_return]
      exact ⟨_, _, reads_next_cons guarded, more, _, reads, rfl, rfl⟩
    · refine ⟨_, _, reads_peek.mpr ⟨rfl, rfl⟩, ?_⟩
      split
      · next char isNext => simp [outside char isNext]
      · simp

/-- The bound may grow if it did not cut the run short. -/
theorem reads_takeUpTo_append {kind : Char → Bool} (outside : kind ')' = false) {most most' : Nat}
    {chars : List Char} (reads : Reads (takeUpTo kind most) input chars rest)
    (bounds : most' = most ∨ (input.length ≤ most ∧ most ≤ most')) (more : List Token) :
    Reads (takeUpTo kind most') (input ++ .closing :: more) chars (rest ++ .closing :: more) := by
  induction most generalizing input most' chars with
  | zero =>
      obtain ⟨rfl, rfl⟩ := reads_pure.mp reads
      cases most' with
      | zero => exact reads_pure.mpr ⟨rfl, rfl⟩
      | succ most' =>
          have empty : input = [] := List.length_eq_zero_iff.mp (by omega)
          subst empty
          exact reads_takeUpTo_succ_iff.mpr (.inr ⟨rfl, rfl, by simpa using outside⟩)
  | succ most inductionHypothesis =>
      obtain ⟨most', rfl⟩ : ∃ fewer, most' = fewer + 1 := ⟨most' - 1, by omega⟩
      rcases reads_takeUpTo_succ_iff.mp reads with
        ⟨char, others, chars, rfl, inside, guarded, readsMore, rfl⟩ | ⟨rfl, rfl, stops⟩
      · have bounds : most' = most ∨ (others.length ≤ most ∧ most ≤ most') := by
          simp only [List.length_cons] at bounds
          omega
        exact reads_takeUpTo_succ_iff.mpr (.inl ⟨char, _, chars, rfl, inside,
          append_closing_ne_dangling _ _, inductionHypothesis readsMore bounds, rfl⟩)
      · refine reads_takeUpTo_succ_iff.mpr (.inr ⟨rfl, rfl, ?_⟩)
        cases input with
        | nil => simpa using outside
        | cons token others => simpa using stops

theorem carries_takeUpTo {kind : Char → Bool} (outside : kind ')' = false) (most : Nat) :
    Carries (takeUpTo kind most) (takeUpTo kind most) :=
  fun _ _ _ reads more => reads_takeUpTo_append outside reads (.inl rfl) more

theorem carries_takeAll {kind : Char → Bool} (outside : kind ')' = false) :
    Carries (takeAll kind) (takeAll kind) :=
  fun _ _ _ reads more =>
    reads_takeUpTo_append outside reads (.inr ⟨Nat.le_succ _, by simp⟩) more

theorem reads_takeBefore_append {terminator : Char} {most most' : Nat} {chars : List Char}
    (reads : Reads (takeBefore terminator most) input (some chars) rest) (le : most ≤ most')
    (more : List Token) :
    Reads (takeBefore terminator most') (input ++ .closing :: more) (some chars)
      (rest ++ .closing :: more) := by
  induction most generalizing input most' chars with
  | zero => simp [takeBefore] at reads
  | succ most inductionHypothesis =>
      obtain ⟨most', rfl⟩ : ∃ fewer, most' = fewer + 1 := ⟨most' - 1, by omega⟩
      rw [takeBefore, reads_bind] at reads ⊢
      obtain ⟨token?, between, taken, reads⟩ := reads
      rcases reads_next_iff.mp taken with ⟨rfl, rfl, rfl⟩ | ⟨token, rfl, rfl, _⟩
      · simp at reads
      · refine ⟨some token, _, reads_next_cons (append_closing_ne_dangling _ _), ?_⟩
        by_cases isEnd : token = .plain terminator
        · simp only [isEnd, if_true, reads_return] at reads ⊢
          exact ⟨reads.1, by rw [reads.2]; rfl⟩
        · simp only [isEnd, if_false, reads_bind, reads_return] at reads ⊢
          obtain ⟨taken?, _, reads, isSome, rfl⟩ := reads
          obtain ⟨taken, rfl, rfl⟩ := Option.map_eq_some_iff.mp isSome
          exact ⟨_, _, inductionHypothesis reads (by omega), rfl, rfl⟩

theorem carries_name (terminator : Char) (what : String) :
    Carries (name terminator what) (name terminator what) := by
  refine carries_left_bind fun size size' => ?_
  intro input value rest reads more
  rw [reads_bind] at reads ⊢
  obtain ⟨taken, between, readsBefore, reads⟩ := reads
  match taken with
  | none =>
      simp only at reads
      split at reads <;> simp at reads
  | some [] => simp at reads
  | some (char :: chars) =>
      have le : input.length + 1 ≤ (input ++ .closing :: more).length + 1 := by simp
      exact ⟨_, _, reads_takeBefore_append readsBefore le more, by simpa using reads⟩

end Reader

end UrlRouting.Regex
