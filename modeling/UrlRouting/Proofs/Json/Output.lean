import UrlRouting.Proofs.Json.RoundTrip

/-!
# JSON texts that are printed

A written value consists of visible ASCII characters, blanks and line ends, so that nothing in it is
taken for the start or the end of a file, and a line with it is read as this value
(`Json.read_write`).
-/

namespace UrlRouting.Json

variable {value : Value} {rest : List Char}

/-! ### Characters that are written -/

/-- Visible ASCII characters, blanks and line ends. -/
def IsPlain (chars : List Char) : Prop :=
  ∀ char ∈ chars, char = '\n' ∨ 32 ≤ char.toNat ∧ char.toNat < 127

theorem isPlain_append {front behind : List Char} :
    IsPlain (front ++ behind) ↔ IsPlain front ∧ IsPlain behind := List.forall_mem_append

theorem isPlain_cons {first : Char} : IsPlain (first :: rest) ↔
    (first = '\n' ∨ 32 ≤ first.toNat ∧ first.toNat < 127) ∧ IsPlain rest := List.forall_mem_cons

theorem isPlain_flatMap {α : Type} {items : List α} {parts : α → List Char}
    (arePlain : ∀ item ∈ items, IsPlain (parts item)) : IsPlain (items.flatMap parts) := by
  intro char membership
  obtain ⟨item, isItem, inPart⟩ := List.mem_flatMap.mp membership
  exact arePlain item isItem char inPart

theorem isPlain_codeEscape (code : Nat) : IsPlain (codeEscape code) := by
  have areDigits : ∀ n < 16, 32 ≤ (Text.hexDigit n).toNat ∧ (Text.hexDigit n).toNat < 127 := by
    decide
  have isDigit (n : Nat) : 32 ≤ (Text.hexDigit (n % 16)).toNat ∧
      (Text.hexDigit (n % 16)).toNat < 127 := areDigits _ (Nat.mod_lt n (by decide))
  simp [IsPlain, codeEscape, Text.hexDigits, isDigit]

theorem isPlain_writeChar (char : Char) : IsPlain (writeChar char) := by
  fun_cases writeChar char with
  | case1 | case2 | case3 | case4 | case5 | case6 | case7 => simp [IsPlain]
  | case8 char _ _ _ _ _ _ _ code isVisible =>
      have isVisible : 32 ≤ char.toNat ∧ char.toNat < 127 := by simpa [code] using isVisible
      simp [IsPlain, isVisible]
  | case9 => exact isPlain_codeEscape _
  | case10 => exact isPlain_append.mpr ⟨isPlain_codeEscape _, isPlain_codeEscape _⟩

theorem isPlain_writeText (text : String) : IsPlain (writeText text) := by
  rw [writeText, isPlain_append, isPlain_cons]
  refine ⟨⟨by decide, isPlain_flatMap fun char _ => isPlain_writeChar char⟩, ?_⟩
  simp [IsPlain]

theorem isPlain_toDigits (n : Nat) : IsPlain (Nat.toDigits 10 n) := by
  intro char membership
  have isDigit := Text.isDigit_of_mem_toDigits membership
  simp only [Char.isDigit, Bool.and_eq_true, decide_eq_true_eq, UInt32.le_iff_toNat_le] at isDigit
  obtain ⟨isLow, isHigh⟩ := isDigit
  change 48 ≤ char.toNat at isLow
  change char.toNat ≤ 57 at isHigh
  omega

theorem isPlain_writeInt (n : Int) : IsPlain (writeInt n) := by
  rw [writeInt]
  split
  · exact isPlain_cons.mpr ⟨by decide, isPlain_toDigits _⟩
  · exact isPlain_toDigits _

theorem isPlain_newLine (depth : Nat) : IsPlain (newLine depth) := by
  refine isPlain_cons.mpr ⟨.inl rfl, ?_⟩
  intro char membership
  rw [List.eq_of_mem_replicate membership]
  decide

theorem isPlain_enclose {opening closing : Char} (areSigns : IsPlain [opening, closing])
    (depth : Nat) {parts : List (List Char)} (arePlain : ∀ part ∈ parts, IsPlain part) :
    IsPlain (enclose opening closing depth parts) := by
  obtain ⟨isOpening, isClosing⟩ := isPlain_cons.mp areSigns
  cases parts with
  | nil => exact areSigns
  | cons part others =>
      obtain ⟨isPart, areOthers⟩ := List.forall_mem_cons.mp arePlain
      rw [← List.append_nil (enclose ..), enclose_cons, writeBehind]
      simp only [isPlain_cons, isPlain_append, isPlain_newLine, isOpening, isPart, isClosing,
        List.append_nil, true_and, and_true]
      exact isPlain_flatMap fun part isPart => isPlain_append.mpr
        ⟨isPlain_cons.mpr ⟨by decide, isPlain_newLine _⟩, areOthers part isPart⟩

theorem isPlain_write (isJson : value.IsJson) (noFloat : ¬ value.HasFloat) (depth : Nat) :
    IsPlain (write depth value) := by
  induction isJson generalizing depth with
  | null => simp [IsPlain, write]
  | bool value => cases value <;> simp [IsPlain, write]
  | int isShort =>
      rw [write]
      exact isPlain_writeInt _
  | float x => exact absurd (.here x) noFloat
  | text text => exact isPlain_writeText text
  | list areJson inductionHypothesis =>
      rw [write, writeItems_eq_map]
      refine isPlain_enclose (by simp [IsPlain]) depth ?_
      rw [List.forall_mem_map]
      intro item isItem
      exact inductionHypothesis item isItem (fun hasFloat => noFloat (.list isItem hasFloat)) _
  | map nodup areJson inductionHypothesis =>
      rw [write, writeEntries_ofNamed]
      refine isPlain_enclose (by simp [IsPlain]) depth ?_
      rw [List.forall_mem_map]
      intro pair isPair
      have isValue := inductionHypothesis pair isPair
        (fun hasFloat => noFloat (.value (List.mem_map_of_mem isPair) hasFloat)) (depth + 1)
      rw [writeEntry, isPlain_append, isPlain_cons, isPlain_cons]
      exact ⟨isPlain_writeText _, by decide, by decide, isValue⟩

/-! ### Lines with a value -/

/-- A line with a written value is read as the value. -/
theorem read_write (isJson : value.IsJson) (noFloat : ¬ value.HasFloat) :
    read (write 0 value ++ ['\n']) = .ok value := by
  have isRead := isRead_of_isJson isJson noFloat 0
  have noMark : ((write 0 value ++ ['\n']).head? == some '\ufeff') = false := by
    obtain ⟨first, others, write_eq, -, -⟩ := isRead.opens
    have isPlain := isPlain_write isJson noFloat 0
    rw [write_eq, isPlain_cons] at isPlain
    rw [write_eq]
    apply beq_false_of_ne
    rintro isMark
    obtain rfl : first = '\ufeff' := Option.some.inj isMark
    exact absurd isPlain.1 (by decide)
  rw [read, readAll, noMark, if_neg Bool.false_ne_true, isRead.skipBlanks_eq,
    isRead.reads [] (endsNumber_cons (by decide) []), goOn]
  rfl

end UrlRouting.Json
