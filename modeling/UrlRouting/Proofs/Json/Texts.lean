import Mathlib
import UrlRouting.Json.Writer

/-!
# JSON texts that are read back

Written characters are read one by one, those beyond the first 65536 as the two halves in which they
are written (`readText_flatMap`), and a written integer is read up to its last digit
(`readScalar_writeInt`).
-/

namespace UrlRouting

/-! ### Hexadecimal digits -/

namespace Text

theorem hexValue?_hexDigit {n : Nat} (isDigit : n < 16) : hexValue? (hexDigit n) = some n := by
  revert n
  decide

theorem length_hexDigits (width n : Nat) : (hexDigits width n).length = width := by
  induction width generalizing n with
  | zero => rfl
  | succ width inductionHypothesis => simp [hexDigits, inductionHypothesis]

/-- The values of written digits, and the number that they denote. -/
theorem exists_mapM_hexDigits (width n : Nat) :
    ∃ values, (hexDigits width n).mapM hexValue? = some values ∧ values.length = width ∧
      ofDigits 16 values = n % 16 ^ width := by
  induction width generalizing n with
  | zero => exact ⟨[], rfl, rfl, by rw [Nat.pow_zero, Nat.mod_one]; rfl⟩
  | succ width inductionHypothesis =>
      obtain ⟨values, areValues, length_eq, number_eq⟩ := inductionHypothesis (n / 16)
      have isLast := hexValue?_hexDigit (Nat.mod_lt n (by decide : 0 < 16))
      refine ⟨values ++ [n % 16], ?_, ?_, ?_⟩
      · simp [hexDigits, List.mapM_append, areValues, isLast]
      · rw [List.length_append, length_eq, List.length_singleton]
      · unfold ofDigits at number_eq ⊢
        rw [List.foldl_append, number_eq, List.foldl_cons, List.foldl_nil,
          Nat.pow_succ', Nat.mod_mul]
        omega

theorem hexNumber?_hexDigits {width n : Nat} (isShort : n < 16 ^ width) :
    hexNumber? width (hexDigits width n) = some n := by
  obtain ⟨values, areValues, length_eq, number_eq⟩ := exists_mapM_hexDigits width n
  rw [hexNumber?, List.take_of_length_le (Nat.le_of_eq (length_hexDigits width n)), areValues]
  simp [length_eq, number_eq, Nat.mod_eq_of_lt isShort]

/-! ### Decimal digits -/

theorem hexValue?_of_isDigit {char : Char} (isDigit : char.isDigit = true) :
    hexValue? char = some (char.toNat - 48) := by
  rw [hexValue?, if_pos isDigit]

theorem filterMap_hexValue? {digits : List Char} (areDigits : ∀ char ∈ digits, char.isDigit = true) :
    digits.filterMap hexValue? = digits.map fun char => char.toNat - 48 := by
  rw [← List.filterMap_eq_map]
  exact List.filterMap_congr fun char membership => hexValue?_of_isDigit (areDigits char membership)

theorem isDigit_of_mem_toDigits {n : Nat} {char : Char} (membership : char ∈ Nat.toDigits 10 n) :
    char.isDigit = true :=
  Nat.isDigit_of_mem_toDigits (by decide) (by decide) membership

theorem numberOf_ten_toDigits (n : Nat) : numberOf 10 (Nat.toDigits 10 n) = n := by
  calc numberOf 10 (Nat.toDigits 10 n)
    _ = Nat.ofDigitChars 10 (Nat.toDigits 10 n) 0 := by
      rw [numberOf, filterMap_hexValue? fun _ => isDigit_of_mem_toDigits, ofDigits, List.foldl_map]
      unfold Nat.ofDigitChars
      simp only [Nat.mul_comm]
      rfl
    _ = n := Nat.ofDigitChars_ten_toDigits

/-- Only zero is written with a zero in front. -/
theorem eq_zero_of_head_toDigits {n : Nat} (isZero : (Nat.toDigits 10 n).head? = some '0') :
    n = 0 := by
  have ofDigit : ∀ n < 10, n.digitChar = '0' → n = 0 := by decide
  induction n using Nat.strongRecOn with
  | ind n inductionHypothesis =>
      by_cases isDigit : n < 10
      · rw [Nat.toDigits_of_lt_base isDigit] at isZero
        exact ofDigit n isDigit (Option.some.inj isZero)
      · rw [Nat.toDigits_eq_if (by decide), if_neg isDigit, List.head?_append_of_ne_nil _
          Nat.toDigits_ne_nil] at isZero
        have isNone := inductionHypothesis (n / 10) (by omega) isZero
        omega

end Text

namespace Json

/-! ### Texts -/

/-- Four written digits are read, if they are those of no half, with what stands behind them. -/
theorem readCode_hexDigits {code : Nat} (isShort : code < 0x10000)
    (isWhole : isHighHalf code = false) (place : Nat) (next : Char) (rest : List Char) :
    readCode place (Text.hexDigits 4 code ++ next :: rest) =
      .ok (charOfCode code, next :: rest) := by
  have isRead : Text.hexNumber? 4 (Text.hexDigits 4 code) = some code :=
    Text.hexNumber?_hexDigits (by omega)
  change Text.hexNumber? 4 [_, _, _, _] = _ at isRead
  change readCode place (_ :: _ :: _ :: _ :: next :: rest) = _
  rw [readCode, isRead]
  dsimp only
  split
  · next isHigh =>
      rw [isWhole] at isHigh
      cases isHigh
  · rfl

/-- Two halves in a row are read as one character. -/
theorem readCode_halves {high low : Nat} (isHigh : isHighHalf high = true)
    (isLow : isLowHalf low = true) (place : Nat) (next : Char) (rest : List Char) :
    readCode place (Text.hexDigits 4 high ++ codeEscape low ++ next :: rest) =
      .ok (joinHalves high low, next :: rest) := by
  have highRead : Text.hexNumber? 4 (Text.hexDigits 4 high) = some high := by
    apply Text.hexNumber?_hexDigits
    simp [isHighHalf] at isHigh
    omega
  have lowRead : Text.hexNumber? 4 (Text.hexDigits 4 low) = some low := by
    apply Text.hexNumber?_hexDigits
    simp [isLowHalf] at isLow
    omega
  change Text.hexNumber? 4 [_, _, _, _] = _ at highRead
  change Text.hexNumber? 4 [_, _, _, _] = _ at lowRead
  change readCode place (_ :: _ :: _ :: _ :: '\\' :: 'u' :: _ :: _ :: _ :: _ :: next :: rest) = _
  rw [readCode, highRead]
  dsimp only
  rw [isHigh]
  simp only [lowRead, isLow, if_true]

theorem readText_escape {chars rest : List Char} {char : Char}
    (isRead : readEscape chars = .ok (char, rest)) (opening : Nat) :
    readText opening ('\\' :: chars) = prepend char (readText opening rest) := by
  have isSome : chars.isEmpty = false := by
    cases chars with
    | nil => cases isRead
    | cons first others => rfl
  rw [readText, isSome, if_neg Bool.false_ne_true]
  split
  · next failed => rw [isRead] at failed; cases failed
  · next read =>
      rw [isRead] at read
      cases read
      rfl

theorem isValid_toNat (char : Char) :
    char.toNat < 0xd800 ∨ 0xdfff < char.toNat ∧ char.toNat < 0x110000 := char.valid

theorem charOfCode_toNat (char : Char) : charOfCode char.toNat = char := by
  have isValid := isValid_toNat char
  rw [charOfCode, if_neg (by simp; omega), Char.ofNat_toNat]

theorem isHighHalf_toNat (char : Char) : isHighHalf char.toNat = false := by
  have isValid := isValid_toNat char
  simp [isHighHalf]
  omega

theorem readText_codeEscape {code : Nat} (isShort : code < 0x10000)
    (isWhole : isHighHalf code = false) (opening : Nat) (next : Char) (rest : List Char) :
    readText opening (codeEscape code ++ next :: rest) =
      prepend (charOfCode code) (readText opening (next :: rest)) := by
  apply readText_escape
  exact readCode_hexDigits isShort isWhole _ next rest

theorem readText_halves {high low : Nat} (isHigh : isHighHalf high = true)
    (isLow : isLowHalf low = true) (opening : Nat) (next : Char) (rest : List Char) :
    readText opening (codeEscape high ++ codeEscape low ++ next :: rest) =
      prepend (joinHalves high low) (readText opening (next :: rest)) := by
  apply readText_escape
  exact readCode_halves isHigh isLow _ next rest

/-- The halves in which a character is written. -/
theorem joinHalves_halves {char : Char} (isLong : 0x10000 ≤ char.toNat) :
    let above := char.toNat - 0x10000
    isHighHalf (0xd800 + above / 1024) = true ∧ isLowHalf (0xdc00 + above % 1024) = true ∧
      joinHalves (0xd800 + above / 1024) (0xdc00 + above % 1024) = char := by
  intro above
  have above_eq : above = char.toNat - 0x10000 := rfl
  have isValid := isValid_toNat char
  refine ⟨?_, ?_, ?_⟩
  · simp [isHighHalf]
    omega
  · simp [isLowHalf]
    omega
  · rw [joinHalves, show 0x10000 + (0xd800 + above / 1024 - 0xd800) * 1024 +
      (0xdc00 + above % 1024 - 0xdc00) = char.toNat by omega, Char.ofNat_toNat]

/-- A written character is read, if anything stands behind it. -/
theorem readText_writeChar (opening : Nat) (char next : Char) (rest : List Char) :
    readText opening (writeChar char ++ next :: rest) =
      prepend char (readText opening (next :: rest)) := by
  have escaped {char letter : Char} (isKnown : escaped? letter = some char)
      (notCode : letter ≠ 'u') :
      readText opening ('\\' :: letter :: next :: rest) =
        prepend char (readText opening (next :: rest)) := by
    apply readText_escape
    rw [readEscape, isKnown]
    exact notCode
  fun_cases writeChar char with
  | case1 => exact @escaped '"' '"' rfl (by decide)
  | case2 => exact @escaped '\\' '\\' rfl (by decide)
  | case3 => exact @escaped '\n' 'n' rfl (by decide)
  | case4 => exact @escaped '\r' 'r' rfl (by decide)
  | case5 => exact @escaped '\t' 't' rfl (by decide)
  | case6 => exact @escaped '\x08' 'b' rfl (by decide)
  | case7 => exact @escaped '\x0c' 'f' rfl (by decide)
  | case8 char notQuote notBackslash _ _ _ _ _ code isVisible =>
      obtain ⟨isLow, -⟩ : 32 ≤ char.toNat ∧ char.toNat < 127 := by simpa [code] using isVisible
      rw [List.singleton_append, readText, if_neg (by omega)]
      · exact notQuote
      · exact notBackslash
  | case9 char _ _ _ _ _ _ _ code _ isShort =>
      rw [readText_codeEscape isShort (isHighHalf_toNat char), charOfCode_toNat]
  | case10 char _ _ _ _ _ _ _ code _ notShort above =>
      obtain ⟨isHigh, isLow, joined⟩ := joinHalves_halves (Nat.le_of_not_lt notShort)
      rw [readText_halves isHigh isLow, joined]

theorem readText_flatMap (opening : Nat) (chars rest : List Char) :
    readText opening (chars.flatMap writeChar ++ '"' :: rest) = .ok (chars, rest) := by
  induction chars with
  | nil => rw [List.flatMap_nil, List.nil_append, readText]
  | cons char others inductionHypothesis =>
      rw [List.flatMap_cons, List.append_assoc]
      obtain ⟨next, behind, behind_eq⟩ := List.exists_cons_of_ne_nil
        (List.append_ne_nil_of_right_ne_nil (others.flatMap writeChar) (List.cons_ne_nil '"' rest))
      rw [behind_eq, readText_writeChar, ← behind_eq, inductionHypothesis]
      rfl

/-! ### Integers -/

/-- Characters that no number goes on with. -/
def EndsNumber (chars : List Char) : Prop :=
  ∀ char ∈ chars.head?, char.isDigit = false ∧ char ∉ ['.', 'e', 'E']

theorem endsNumber_cons {char : Char} (isOther : char.isDigit = false ∧ char ∉ ['.', 'e', 'E'])
    (rest : List Char) : EndsNumber (char :: rest) := by
  rintro _ ⟨⟩
  exact isOther

variable {rest : List Char}

theorem EndsNumber.takeWhile_append (ends : EndsNumber rest) {digits : List Char}
    (areDigits : ∀ char ∈ digits, char.isDigit = true) :
    (digits ++ rest).takeWhile Char.isDigit = digits ∧
      (digits ++ rest).dropWhile Char.isDigit = rest := by
  rw [List.takeWhile_append_of_pos areDigits, List.dropWhile_append_of_pos areDigits]
  cases rest with
  | nil => simp
  | cons char others => simp [(ends char rfl).1]

theorem EndsNumber.readFraction_eq (ends : EndsNumber rest) : readFraction rest = ([], rest) := by
  unfold readFraction
  split
  · next others =>
      have isPoint := (ends '.' rfl).2
      simp at isPoint
  · rfl

theorem EndsNumber.readExponent_eq (ends : EndsNumber rest) :
    readExponent rest = (none, rest) := by
  unfold readExponent
  split
  · next mark others =>
      have isOther := (ends mark rfl).2
      rw [if_neg]
      rintro isMark
      simp_all
  · rfl

theorem EndsNumber.readWhole_toDigits (ends : EndsNumber rest) (n : Nat) :
    readWhole (Nat.toDigits 10 n ++ rest) = (Nat.toDigits 10 n, rest) := by
  by_cases isZero : (Nat.toDigits 10 n).head? = some '0'
  · obtain rfl := Text.eq_zero_of_head_toDigits isZero
    rfl
  · obtain ⟨taken, dropped⟩ := ends.takeWhile_append
      fun char (membership : char ∈ Nat.toDigits 10 n) => Text.isDigit_of_mem_toDigits membership
    unfold readWhole
    split
    · next others isFirst =>
        obtain ⟨first, digits, digits_eq⟩ := List.exists_cons_of_ne_nil
          (Nat.toDigits_ne_nil : Nat.toDigits 10 n ≠ [])
        rw [digits_eq] at isFirst isZero
        cases isFirst
        exact absurd rfl isZero
    · rw [taken, dropped]

theorem EndsNumber.readUnsigned?_toDigits (ends : EndsNumber rest) (negative : Bool) (n : Nat) :
    readUnsigned? negative (Nat.toDigits 10 n ++ rest) =
      some (⟨negative, Nat.toDigits 10 n, [], none⟩, rest) := by
  have isSome : (Nat.toDigits 10 n).isEmpty = false :=
    List.isEmpty_eq_false_iff.mpr Nat.toDigits_ne_nil
  rw [readUnsigned?, ends.readWhole_toDigits]
  dsimp only
  rw [isSome, if_neg Bool.false_ne_true, ends.readFraction_eq]
  dsimp only
  rw [ends.readExponent_eq]

/-- The integers that have few enough digits to be read. -/
def IsShort (n : Int) : Prop := (Nat.toDigits 10 n.natAbs).length ≤ digitLimit

theorem integerOfDigits_toDigits {n : Nat} (isShort : (Nat.toDigits 10 n).length ≤ digitLimit)
    (negative : Bool) :
    integerOfDigits negative (Nat.toDigits 10 n) = .ok (if negative then -n else n) := by
  rw [integerOfDigits, if_neg (Nat.not_lt.mpr isShort), Text.numberOf_ten_toDigits]

theorem value_toDigits {n : Nat} (isShort : (Nat.toDigits 10 n).length ≤ digitLimit)
    (negative : Bool) :
    (Numeral.mk negative (Nat.toDigits 10 n) [] none).value =
      .ok (.int (if negative then -n else n)) := by
  change (integerOfDigits negative (Nat.toDigits 10 n)).map Value.int = _
  rw [integerOfDigits_toDigits isShort]
  rfl

theorem readWord?_eq_none {chars : List Char} {others : List (List Char × Value)}
    (areApart : ∀ entry ∈ others, ¬ entry.1 <+: chars) : readWord? chars others = none := by
  induction others with
  | nil => rfl
  | cons entry rest inductionHypothesis =>
      obtain ⟨isApart, areApartRest⟩ := List.forall_mem_cons.mp areApart
      rw [readWord?, if_neg (mt List.isPrefixOf_iff_prefix.mp isApart),
        inductionHypothesis areApartRest]

theorem isDigit_of_mem_word {entry : List Char × Value} (isWord : entry ∈ words) :
    2 ≤ entry.1.length ∧ ∀ char ∈ entry.1, char.isDigit = false := by
  have areWords : words.all (fun (word, _) =>
      2 ≤ word.length && word.all fun char => !char.isDigit) = true := by
    decide +kernel
  simpa using List.all_eq_true.mp areWords entry isWord

theorem readWord?_of_isDigit {first : Char} (isDigit : first.isDigit = true) (rest : List Char) :
    readWord? (first :: rest) words = none := by
  apply readWord?_eq_none
  intro entry isWord
  obtain ⟨isLong, noDigit⟩ := isDigit_of_mem_word isWord
  rcases entry with ⟨_ | ⟨letter, others⟩, value⟩
  · simp at isLong
  · rw [List.cons_prefix_cons]
    rintro ⟨rfl, -⟩
    rw [noDigit letter List.mem_cons_self] at isDigit
    cases isDigit

theorem readWord?_of_minus {first : Char} (isDigit : first.isDigit = true) (rest : List Char) :
    readWord? ('-' :: first :: rest) words = none := by
  apply readWord?_eq_none
  intro entry isWord
  obtain ⟨isLong, noDigit⟩ := isDigit_of_mem_word isWord
  rcases entry with ⟨_ | ⟨sign, _ | ⟨letter, others⟩⟩, value⟩
  · simp at isLong
  · simp at isLong
  · rw [List.cons_prefix_cons, List.cons_prefix_cons]
    rintro ⟨-, rfl, -⟩
    rw [noDigit letter (List.mem_cons_of_mem _ List.mem_cons_self)] at isDigit
    cases isDigit

theorem readScalar_of_numeral {chars : List Char} {numeral : Numeral} {value : Value}
    (noWord : readWord? chars words = none) (isRead : readNumeral? chars = some (numeral, rest))
    (isValue : numeral.value = .ok value) : readScalar chars = .ok (value, rest) := by
  rw [readScalar, noWord]
  dsimp only
  rw [isRead]
  dsimp only
  rw [isValue]

/-- A written integer is read, if no number goes on behind it. -/
theorem readScalar_writeInt {n : Int} (isShort : IsShort n) (ends : EndsNumber rest) :
    readScalar (writeInt n ++ rest) = .ok (.int n, rest) := by
  obtain ⟨first, digits, digits_eq⟩ := List.exists_cons_of_ne_nil
    (Nat.toDigits_ne_nil : Nat.toDigits 10 n.natAbs ≠ [])
  have isDigit : first.isDigit = true :=
    Text.isDigit_of_mem_toDigits (digits_eq ▸ List.mem_cons_self)
  by_cases isNegative : n < 0
  · have value_eq : (if true then -(n.natAbs : Int) else n.natAbs) = n := by
      rw [if_pos rfl]
      omega
    rw [writeInt, if_pos isNegative, List.cons_append]
    refine readScalar_of_numeral ?_ (ends.readUnsigned?_toDigits true n.natAbs) ?_
    · rw [digits_eq]
      exact readWord?_of_minus isDigit _
    · rw [value_toDigits isShort, value_eq]
  · have value_eq : (if false then -(n.natAbs : Int) else n.natAbs) = n := by
      rw [if_neg Bool.false_ne_true]
      omega
    rw [writeInt, if_neg isNegative]
    have isUnsigned : readNumeral? (Nat.toDigits 10 n.natAbs ++ rest) =
        some (⟨false, Nat.toDigits 10 n.natAbs, [], none⟩, rest) := by
      have isRead := ends.readUnsigned?_toDigits false n.natAbs
      rw [digits_eq, List.cons_append] at isRead ⊢
      rw [readNumeral?, isRead]
      rintro others ⟨rfl, -⟩
      cases isDigit
    refine readScalar_of_numeral ?_ isUnsigned ?_
    · rw [digits_eq]
      exact readWord?_of_isDigit isDigit _
    · rw [value_toDigits isShort, value_eq]

end Json

end UrlRouting
