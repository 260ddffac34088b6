import Mathlib
import UrlRouting.Text.Utf8

/-!
# Decoding of UTF-8

The bytes of a text are decoded to it, and other bytes to nothing (`Text.decodeUtf8_eq_ok_iff`).
-/

namespace UrlRouting.Text

/-! ### Encoded texts -/

theorem toList_loop_eq (bytes : ByteArray) (index : Nat) (front : List UInt8) :
    ByteArray.toList.loop bytes index front = front.reverse ++ bytes.data.toList.drop index := by
  fun_induction ByteArray.toList.loop bytes index front with
  | case1 index front isThere inductionHypothesis =>
      have bounded : index < bytes.data.toList.length := by simpa using isThere
      rw [inductionHypothesis, List.drop_eq_getElem_cons bounded]
      simp [ByteArray.get!, isThere]
  | case2 index front isBehind =>
      rw [List.drop_eq_nil_of_le (by simpa using Nat.le_of_not_lt isBehind), List.append_nil]

theorem encodeUtf8_eq (text : String) :
    encodeUtf8 text = text.toList.flatMap String.utf8EncodeChar := by
  have data_eq : text.toUTF8.data.toList = text.toList.flatMap String.utf8EncodeChar := by
    conv_lhs => rw [← String.ofList_toList (s := text)]
    rw [String.toUTF8_eq_toByteArray, String.toByteArray_ofList, List.utf8Encode,
      List.data_toByteArray]
  rw [encodeUtf8, ByteArray.toList, toList_loop_eq, data_eq]
  rfl

/-! ### Single sequences -/

theorem isContinuation_iff {byte : UInt8} :
    isContinuation byte = true ↔ 128 ≤ byte.toNat ∧ byte.toNat < 192 := by
  simp [isContinuation, UInt8.lt_iff_toNat_lt, UInt8.le_iff_toNat_le]

/-- A code, and the first byte and the other ones of the sequence that stands for it. -/
inductive Spells : Nat → UInt8 → List UInt8 → Prop where
  | one {first : UInt8} (isFirst : first.toNat < 128) : Spells first.toNat first []
  | two {first second : UInt8} (isFirst : 194 ≤ first.toNat ∧ first.toNat < 224)
      (isSecond : isContinuation second = true) :
      Spells ((first.toNat - 192) * 64 + (second.toNat - 128)) first [second]
  | three {first second third : UInt8} (isFirst : 224 ≤ first.toNat ∧ first.toNat < 240)
      (isSecond : isSecond first second = true) (isThird : isContinuation third = true) :
      Spells (((first.toNat - 224) * 64 + (second.toNat - 128)) * 64 + (third.toNat - 128)) first
        [second, third]
  | four {first second third fourth : UInt8} (isFirst : 240 ≤ first.toNat ∧ first.toNat < 245)
      (isSecond : isSecond first second = true) (isThird : isContinuation third = true)
      (isFourth : isContinuation fourth = true) :
      Spells ((((first.toNat - 240) * 64 + (second.toNat - 128)) * 64 + (third.toNat - 128)) * 64 +
        (fourth.toNat - 128)) first [second, third, fourth]

theorem isSecond_iff {first second : UInt8} :
    isSecond first second = true ↔ (128 ≤ second.toNat ∧ second.toNat < 192) ∧
      (first.toNat = 224 → 160 ≤ second.toNat) ∧ (first.toNat = 237 → second.toNat < 160) ∧
      (first.toNat = 240 → 144 ≤ second.toNat) ∧ (first.toNat = 244 → second.toNat < 144) := by
  unfold isSecond
  rw [Bool.and_eq_true, isContinuation_iff]
  refine and_congr_right fun _ => ?_
  simp only [beq_iff_eq, UInt8.lt_iff_toNat_lt, UInt8.le_iff_toNat_le, ← UInt8.toNat_inj,
    UInt8.reduceToNat]
  split_ifs <;> simp only [decide_eq_true_eq, true_iff] <;> omega

theorem sequenceLength_eq (first : UInt8) :
    sequenceLength first =
      if first.toNat < 128 then some 1 else if first.toNat < 194 then none
      else if first.toNat < 224 then some 2 else if first.toNat < 240 then some 3
      else if first.toNat < 245 then some 4 else none := by
  simp [sequenceLength, UInt8.lt_iff_toNat_lt]

theorem sequenceCode_eq (first : UInt8) (others : List UInt8) :
    sequenceCode first others =
      others.foldl (fun code byte => code * 64 + (byte.toNat - 128))
        (if first.toNat < 128 then first.toNat else if first.toNat < 224 then first.toNat - 192
        else if first.toNat < 240 then first.toNat - 224 else first.toNat - 240) := by
  simp [sequenceCode, UInt8.lt_iff_toNat_lt]

/-- The bytes that fit together are enough if there is a second byte with the other ones behind. -/
theorem le_fittingLength_iff {length : Nat} (isLong : 2 ≤ length) {first : UInt8}
    {rest : List UInt8} :
    length ≤ fittingLength length first rest ↔
      ∃ second others more, rest = second :: (others ++ more) ∧ others.length + 2 = length ∧
        isSecond first second = true ∧ ∀ byte ∈ others, isContinuation byte = true := by
  constructor
  · intro fits
    rcases rest with _ | ⟨second, rest⟩
    · exact absurd fits (Nat.not_le.mpr isLong)
    rw [fittingLength] at fits
    split at fits
    · exact absurd fits (Nat.not_le.mpr isLong)
    · next isFitting =>
        have isSecond : isSecond first second = true := by
          by_contra notSecond
          exact isFitting (by simp [notSecond])
        have isPrefix := List.takeWhile_prefix isContinuation (l := rest.take (length - 2))
        have bounded := List.length_take_le (length - 2) rest
        have whole := isPrefix.eq_of_length_le (by omega)
        refine ⟨second, rest.take (length - 2), rest.drop (length - 2), ?_, ?_, isSecond,
          List.takeWhile_eq_self_iff.mp whole⟩
        · rw [List.take_append_drop]
        · rw [whole] at fits
          omega
  · rintro ⟨second, others, more, rfl, rfl, isSecond, areContinuations⟩
    have notLong : ¬ others.length + 2 ≤ 1 := by omega
    rw [fittingLength, if_neg (by simp [isSecond, notLong]), Nat.add_sub_cancel,
      List.take_left, List.takeWhile_eq_self_iff.mpr areContinuations, Nat.add_comm]

theorem utf8EncodeChar_ofNat {code : Nat} (isValid : code.isValidChar) :
    String.utf8EncodeChar (Char.ofNat code) =
      if code ≤ 127 then [UInt8.ofNat code]
      else if code ≤ 2047 then [UInt8.ofNat (code / 64 % 32 + 192), UInt8.ofNat (code % 64 + 128)]
      else if code ≤ 65535 then
        [UInt8.ofNat (code / 4096 % 16 + 224), UInt8.ofNat (code / 64 % 64 + 128),
          UInt8.ofNat (code % 64 + 128)]
      else
        [UInt8.ofNat (code / 262144 % 8 + 240), UInt8.ofNat (code / 4096 % 64 + 128),
          UInt8.ofNat (code / 64 % 64 + 128), UInt8.ofNat (code % 64 + 128)] := by
  have code_eq : (Char.ofNat code).val.toNat = code := by
    rw [Char.toNat_val, Char.toNat_ofNat, if_pos isValid]
  rw [String.utf8EncodeChar, code_eq]

theorem ofNat_eq_of_eq_toNat {code : Nat} {byte : UInt8} (same : code = byte.toNat) :
    UInt8.ofNat code = byte := by
  rw [same, UInt8.ofNat_toNat]

namespace Spells

variable {code : Nat} {first : UInt8} {others rest : List UInt8}

theorem of_eq {other : Nat} (spells : Spells other first others) (same : other = code) :
    Spells code first others :=
  same ▸ spells

theorem sequenceLength_eq (spells : Spells code first others) :
    sequenceLength first = some (others.length + 1) := by
  rw [Text.sequenceLength_eq]
  cases spells with
  | one isFirst => exact if_pos isFirst
  | two isFirst =>
      rw [if_neg (by omega), if_neg (by omega), if_pos isFirst.2]
      rfl
  | three isFirst =>
      rw [if_neg (by omega), if_neg (by omega), if_neg (by omega), if_pos isFirst.2]
      rfl
  | four isFirst =>
      rw [if_neg (by omega), if_neg (by omega), if_neg (by omega), if_neg (by omega),
        if_pos isFirst.2]
      rfl

theorem sequenceCode_eq (spells : Spells code first others) : sequenceCode first others = code := by
  rw [Text.sequenceCode_eq]
  cases spells with
  | one isFirst => exact if_pos isFirst
  | two isFirst | three isFirst | four isFirst =>
      simp only [List.foldl_cons, List.foldl_nil]
      split_ifs <;> omega

theorem le_fittingLength (spells : Spells code first others) (rest : List UInt8) :
    others.length + 1 ≤ fittingLength (others.length + 1) first (others ++ rest) := by
  cases spells with
  | one => cases rest <;> simp [fittingLength]
  | @two _ second isFirst isContinuation =>
      have isSecond : isSecond first second = true :=
        isSecond_iff.mpr ⟨isContinuation_iff.mp isContinuation, by omega⟩
      exact (le_fittingLength_iff le_rfl).mpr ⟨second, [], rest, rfl, rfl, isSecond, by simp⟩
  | @three _ second third isFirst isSecond isThird =>
      exact (le_fittingLength_iff (by simp)).mpr
        ⟨second, [third], rest, rfl, rfl, isSecond, by simpa using isThird⟩
  | @four _ second third fourth isFirst isSecond isThird isFourth =>
      exact (le_fittingLength_iff (by simp)).mpr
        ⟨second, [third, fourth], rest, rfl, rfl, isSecond, by simpa using ⟨isThird, isFourth⟩⟩

/-- Bytes that are as many as the first one tells, and fit together, stand for a code. -/
theorem exists_of_le_fittingLength {length : Nat} (length_eq : sequenceLength first = some length)
    (fits : length ≤ fittingLength length first rest) :
    ∃ code others more, rest = others ++ more ∧ Spells code first others := by
  rw [Text.sequenceLength_eq] at length_eq
  split_ifs at length_eq with isOne isNone isTwo isThree isFour <;>
    obtain rfl := Option.some.inj length_eq
  · exact ⟨_, [], rest, rfl, .one isOne⟩
  · obtain ⟨second, others, more, rfl, length_eq, isSecond, -⟩ :=
      (le_fittingLength_iff le_rfl).mp fits
    obtain rfl : others = [] := List.eq_nil_of_length_eq_zero (by omega)
    exact ⟨_, [second], more, rfl,
      .two ⟨by omega, isTwo⟩ (isContinuation_iff.mpr (isSecond_iff.mp isSecond).1)⟩
  · obtain ⟨second, others, more, rfl, length_eq, isSecond, areContinuations⟩ :=
      (le_fittingLength_iff (by omega)).mp fits
    obtain ⟨third, rfl⟩ := List.length_eq_one_iff.mp (show others.length = 1 by omega)
    exact ⟨_, [second, third], more, rfl,
      .three ⟨by omega, isThree⟩ isSecond (by simpa using areContinuations)⟩
  · obtain ⟨second, others, more, rfl, length_eq, isSecond, areContinuations⟩ :=
      (le_fittingLength_iff (by omega)).mp fits
    obtain ⟨third, fourth, rfl⟩ := List.length_eq_two.mp (show others.length = 2 by omega)
    obtain ⟨isThird, isFourth⟩ :
        isContinuation third = true ∧ isContinuation fourth = true := by
      simpa using areContinuations
    exact ⟨_, [second, third, fourth], more, rfl,
      .four ⟨by omega, isFour⟩ isSecond isThird isFourth⟩

/-- A sequence is read as its code, and the reading goes on behind it. -/
theorem decodeFrom_append (spells : Spells code first others) (rest : List UInt8) (offset : Nat) :
    decodeFrom offset (first :: others ++ rest) =
      (decodeFrom (offset + (others.length + 1)) rest).map (Char.ofNat code :: ·) := by
  have fits := spells.le_fittingLength rest
  rw [List.cons_append, decodeFrom, spells.sequenceLength_eq]
  dsimp only
  rw [if_neg (Nat.not_lt.mpr fits), Nat.add_sub_cancel, List.take_left, List.drop_left,
    spells.sequenceCode_eq]
  cases decodeFrom (offset + (others.length + 1)) rest <;> rfl

/-- A sequence is what the character of its code is encoded to. -/
theorem utf8EncodeChar_eq (spells : Spells code first others) :
    String.utf8EncodeChar (Char.ofNat code) = first :: others := by
  cases spells with
  | one isFirst =>
      rw [utf8EncodeChar_ofNat (.inl (by omega)), if_pos (by omega), UInt8.ofNat_toNat]
  | @two _ second isFirst isContinuation =>
      have inSecond := isContinuation_iff.mp isContinuation
      rw [utf8EncodeChar_ofNat (.inl (by omega)), if_neg (by omega), if_pos (by omega)]
      rw [ofNat_eq_of_eq_toNat (show _ = first.toNat by omega),
        ofNat_eq_of_eq_toNat (show _ = second.toNat by omega)]
  | @three _ second third isFirst isSecond isThird =>
      have inSecond := isSecond_iff.mp isSecond
      have inThird := isContinuation_iff.mp isThird
      rw [utf8EncodeChar_ofNat (by unfold Nat.isValidChar; omega), if_neg (by omega),
        if_neg (by omega), if_pos (by omega)]
      rw [ofNat_eq_of_eq_toNat (show _ = first.toNat by omega),
        ofNat_eq_of_eq_toNat (show _ = second.toNat by omega),
        ofNat_eq_of_eq_toNat (show _ = third.toNat by omega)]
  | @four _ second third fourth isFirst isSecond isThird isFourth =>
      have inSecond := isSecond_iff.mp isSecond
      have inThird := isContinuation_iff.mp isThird
      have inFourth := isContinuation_iff.mp isFourth
      rw [utf8EncodeChar_ofNat (.inr (by omega)), if_neg (by omega), if_neg (by omega),
        if_neg (by omega)]
      rw [ofNat_eq_of_eq_toNat (show _ = first.toNat by omega),
        ofNat_eq_of_eq_toNat (show _ = second.toNat by omega),
        ofNat_eq_of_eq_toNat (show _ = third.toNat by omega),
        ofNat_eq_of_eq_toNat (show _ = fourth.toNat by omega)]

end Spells

/-- A character is encoded to a sequence that stands for its code. -/
theorem spells_utf8EncodeChar (char : Char) :
    ∃ first others, String.utf8EncodeChar char = first :: others ∧
      Spells char.toNat first others := by
  have isValid : char.toNat.isValidChar := char.valid
  have encoded := utf8EncodeChar_ofNat isValid
  rw [Char.ofNat_toNat] at encoded
  generalize char.toNat = code at isValid encoded ⊢
  unfold Nat.isValidChar at isValid
  rw [encoded]
  split_ifs with isOne isTwo isThree
  · have first_eq := UInt8.toNat_ofNat_of_lt' (show code < 256 by omega)
    exact ⟨_, _, rfl, (Spells.one (by omega)).of_eq first_eq⟩
  · have first_eq := UInt8.toNat_ofNat_of_lt' (show code / 64 % 32 + 192 < 256 by omega)
    have second_eq := UInt8.toNat_ofNat_of_lt' (show code % 64 + 128 < 256 by omega)
    exact ⟨_, _, rfl, (Spells.two (by omega) (isContinuation_iff.mpr (by omega))).of_eq (by omega)⟩
  · have first_eq := UInt8.toNat_ofNat_of_lt' (show code / 4096 % 16 + 224 < 256 by omega)
    have second_eq := UInt8.toNat_ofNat_of_lt' (show code / 64 % 64 + 128 < 256 by omega)
    have third_eq := UInt8.toNat_ofNat_of_lt' (show code % 64 + 128 < 256 by omega)
    exact ⟨_, _, rfl, (Spells.three (by omega) (isSecond_iff.mpr (by omega))
      (isContinuation_iff.mpr (by omega))).of_eq (by omega)⟩
  · have first_eq := UInt8.toNat_ofNat_of_lt' (show code / 262144 % 8 + 240 < 256 by omega)
    have second_eq := UInt8.toNat_ofNat_of_lt' (show code / 4096 % 64 + 128 < 256 by omega)
    have third_eq := UInt8.toNat_ofNat_of_lt' (show code / 64 % 64 + 128 < 256 by omega)
    have fourth_eq := UInt8.toNat_ofNat_of_lt' (show code % 64 + 128 < 256 by omega)
    exact ⟨_, _, rfl, (Spells.four (by omega) (isSecond_iff.mpr (by omega))
      (isContinuation_iff.mpr (by omega)) (isContinuation_iff.mpr (by omega))).of_eq (by omega)⟩

/-! ### Texts -/

theorem decodeFrom_flatMap (chars : List Char) (offset : Nat) :
    decodeFrom offset (chars.flatMap String.utf8EncodeChar) = .ok chars := by
  induction chars generalizing offset with
  | nil => simp [decodeFrom]
  | cons char rest inductionHypothesis =>
      obtain ⟨first, others, encoded, spells⟩ := spells_utf8EncodeChar char
      rw [List.flatMap_cons, encoded, spells.decodeFrom_append, inductionHypothesis,
        Char.ofNat_toNat]
      rfl

theorem flatMap_of_decodeFrom {offset : Nat} {bytes : List UInt8} {chars : List Char}
    (decoded : decodeFrom offset bytes = .ok chars) :
    chars.flatMap String.utf8EncodeChar = bytes := by
  fun_induction decodeFrom offset bytes generalizing chars with
  | case1 => cases decoded; rfl
  | case2 => cases decoded
  | case3 => cases decoded
  | case4 => cases decoded
  | case5 offset first rest length length_eq fitting fits others decodedRest =>
      rename_i inductionHypothesis
      cases decoded
      obtain ⟨code, others', more, rfl, spells⟩ :=
        Spells.exists_of_le_fittingLength length_eq (Nat.not_lt.mp fits)
      rw [spells.sequenceLength_eq] at length_eq
      obtain rfl := Option.some.inj length_eq
      rw [Nat.add_sub_cancel, List.drop_left] at decodedRest inductionHypothesis
      rw [List.flatMap_cons, Nat.add_sub_cancel, List.take_left, spells.sequenceCode_eq,
        spells.utf8EncodeChar_eq, inductionHypothesis decodedRest, List.cons_append]

/-- The bytes of a text are decoded to the text, and nothing else is. -/
theorem decodeUtf8_eq_ok_iff {bytes : List UInt8} {text : String} :
    decodeUtf8 bytes = .ok text ↔ encodeUtf8 text = bytes := by
  rw [encodeUtf8_eq, decodeUtf8]
  constructor
  · intro decoded
    cases answer : decodeFrom 0 bytes with
    | error fault =>
        rw [answer] at decoded
        cases decoded
    | ok chars =>
        rw [answer] at decoded
        cases decoded
        rw [String.toList_ofList]
        exact flatMap_of_decodeFrom answer
  · rintro rfl
    rw [decodeFrom_flatMap, Except.map, String.ofList_toList]

end UrlRouting.Text
