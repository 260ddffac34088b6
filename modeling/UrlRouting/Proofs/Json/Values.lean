import UrlRouting.Proofs.File.Scalars
import UrlRouting.Proofs.Json.RoundTrip

/-!
# Values that are read from JSON texts

Whatever text is read, what comes of it is a value that JSON has a notation for, with integers that
are short enough to be read again (`Json.isJson_of_read`).
-/

namespace UrlRouting

/-! ### Numbers -/

namespace Text

theorem ofDigits_concat (base : Nat) (values : List Nat) (last : Nat) :
    ofDigits base (values ++ [last]) = ofDigits base values * base + last := by
  rw [ofDigits, List.foldl_append, ← ofDigits]
  rfl

theorem ofDigits_lt {base : Nat} {values : List Nat} (areDigits : ∀ value ∈ values, value < base) :
    ofDigits base values < base ^ values.length := by
  induction values using List.reverseRecOn with
  | nil => exact Nat.one_pos
  | append_singleton values last inductionHypothesis =>
      obtain ⟨areFront, isLast⟩ := List.forall_mem_append.mp areDigits
      have isBelow := inductionHypothesis areFront
      have lastBelow := isLast last (List.mem_singleton_self last)
      rw [ofDigits_concat, List.length_append, List.length_singleton, pow_succ]
      calc ofDigits base values * base + last
        _ < ofDigits base values * base + base := Nat.add_lt_add_left lastBelow _
        _ = (ofDigits base values + 1) * base := (Nat.succ_mul _ _).symm
        _ ≤ base ^ values.length * base := Nat.mul_le_mul_right base isBelow

theorem numberOf_ten_lt {digits : List Char} (areDigits : ∀ char ∈ digits, char.isDigit = true) :
    numberOf 10 digits < 10 ^ digits.length := by
  rw [numberOf, filterMap_hexValue? areDigits,
    ← List.length_map (fun char : Char => char.toNat - 48)]
  apply ofDigits_lt
  rw [List.forall_mem_map]
  intro char membership
  have isDigit := areDigits char membership
  simp only [Char.isDigit, Bool.and_eq_true, decide_eq_true_eq, UInt32.le_iff_toNat_le] at isDigit
  have isHigh : char.toNat ≤ 57 := isDigit.2
  omega

end Text

namespace Json

theorem isShort_of_digits {digits : List Char} (areDigits : ∀ char ∈ digits, char.isDigit = true)
    (isShort : digits.length ≤ digitLimit) (negative : Bool) :
    IsShort (if negative then -(Text.numberOf 10 digits : Int) else Text.numberOf 10 digits) := by
  have isBelow : Text.numberOf 10 digits < 10 ^ digitLimit :=
    lt_of_lt_of_le (Text.numberOf_ten_lt areDigits) (Nat.pow_le_pow_right (by decide) isShort)
  have natAbs_eq : (if negative then -(Text.numberOf 10 digits : Int)
      else Text.numberOf 10 digits).natAbs = Text.numberOf 10 digits := by
    cases negative <;> simp
  rw [IsShort, natAbs_eq, Nat.length_toDigits_le_iff (by decide) (by decide)]
  exact isBelow

theorem isDigit_of_mem_readWhole (chars : List Char) :
    ∀ char ∈ (readWhole chars).1, char.isDigit = true := by
  unfold readWhole
  split
  · exact fun char membership => List.mem_singleton.mp membership ▸ rfl
  · exact fun char membership => List.mem_takeWhile_imp membership

theorem isDigit_of_readNumeral? {chars rest : List Char} {numeral : Numeral}
    (isRead : readNumeral? chars = some (numeral, rest)) :
    ∀ char ∈ numeral.whole, char.isDigit = true := by
  have ofUnsigned {negative : Bool} {chars : List Char}
      (isRead : readUnsigned? negative chars = some (numeral, rest)) :
      ∀ char ∈ numeral.whole, char.isDigit = true := by
    rw [readUnsigned?] at isRead
    dsimp only at isRead
    split at isRead
    · cases isRead
    · cases isRead
      exact isDigit_of_mem_readWhole chars
  rw [readNumeral?.eq_def] at isRead
  split at isRead <;> exact ofUnsigned isRead

/-! ### Values -/

theorem isJson_value {numeral : Numeral} {value : Value}
    (areDigits : ∀ char ∈ numeral.whole, char.isDigit = true)
    (isValue : numeral.value = .ok value) : value.IsJson := by
  unfold Numeral.value at isValue
  split at isValue
  · rw [integerOfDigits] at isValue
    split at isValue
    · cases isValue
    · next isShort =>
        cases isValue
        exact .int (isShort_of_digits areDigits (Nat.le_of_not_lt isShort) numeral.negative)
  · cases isValue
    exact .float _

theorem isJson_of_readWord? {chars rest : List Char} {value : Value}
    {others : List (List Char × Value)} (areJson : ∀ entry ∈ others, entry.2.IsJson)
    (isRead : readWord? chars others = some (value, rest)) : value.IsJson := by
  induction others with
  | nil => cases isRead
  | cons entry others inductionHypothesis =>
      obtain ⟨isJson, areJsonOthers⟩ := List.forall_mem_cons.mp areJson
      rw [readWord?] at isRead
      split at isRead
      · cases isRead
        exact isJson
      · exact inductionHypothesis areJsonOthers isRead

theorem isJson_of_mem_words : ∀ entry ∈ words, entry.2.IsJson := by
  intro entry isWord
  simp only [words, List.mem_cons, List.not_mem_nil, or_false] at isWord
  rcases isWord with rfl | rfl | rfl | rfl | rfl | rfl <;> constructor

theorem isJson_of_readScalar {chars rest : List Char} {value : Value}
    (isRead : readScalar chars = .ok (value, rest)) : value.IsJson := by
  unfold readScalar at isRead
  split at isRead
  · next isWord =>
      cases isRead
      exact isJson_of_readWord? isJson_of_mem_words isWord
  · split at isRead
    · cases isRead
    · next isNumeral =>
        split at isRead <;> cases isRead
        next isValue => exact isJson_value (isDigit_of_readNumeral? isNumeral) isValue

end Json

theorem Entries.forall_mem_put {υ : Type} (holds : υ → Prop) {entries : Entries String υ}
    (areRight : ∀ entry ∈ entries, holds entry.2) {value : υ} (isRight : holds value)
    (name : String) : ∀ entry ∈ entries.put name value, holds entry.2 := by
  induction entries with
  | nil => exact fun entry membership => List.mem_singleton.mp membership ▸ isRight
  | cons first rest inductionHypothesis =>
      obtain ⟨isFirst, areRest⟩ := List.forall_mem_cons.mp areRight
      rw [put]
      split
      · exact List.forall_mem_cons.mpr ⟨isRight, areRest⟩
      · exact List.forall_mem_cons.mpr ⟨isFirst, inductionHypothesis areRest⟩

namespace Value

theorem IsJson.exists_ofNamed {entries : Attributes} (isJson : (Value.map entries).IsJson) :
    ∃ pairs : Entries String Value, entries = Attributes.ofNamed pairs ∧ pairs.names.Nodup ∧
      ∀ pair ∈ pairs, pair.2.IsJson := by
  cases isJson with
  | map nodup areJson => exact ⟨_, rfl, nodup, areJson⟩

theorem IsJson.putName {entries : Attributes} (isJson : (Value.map entries).IsJson)
    {value : Value} (isValue : value.IsJson) (name : String) :
    (Value.map (entries.putName name value)).IsJson := by
  obtain ⟨pairs, rfl, nodup, areJson⟩ := isJson.exists_ofNamed
  rw [Attributes.putName_ofNamed]
  exact .map (Entries.nodup_names_merge nodup [(name, value)])
    (Entries.forall_mem_put IsJson areJson isValue name)

theorem isJson_emptyMap : (Value.map []).IsJson := by
  have nodup : (Entries.names ([] : Entries String Value)).Nodup := List.nodup_nil
  exact .map nodup fun pair isPair => absurd isPair List.not_mem_nil

theorem isJson_emptyList : (Value.list []).IsJson :=
  .list fun _ isItem => absurd isItem List.not_mem_nil

theorem isJson_reverse {items : List Value} (areJson : ∀ item ∈ items, item.IsJson) :
    (Value.list items.reverse).IsJson :=
  .list fun item isItem => areJson item (List.mem_reverse.mp isItem)

end Value

namespace Json

/-- What is open holds values that JSON has a notation for. -/
def AreJson : List Frame → Prop
  | [] => True
  | .array items :: frames => (∀ item ∈ items, item.IsJson) ∧ AreJson frames
  | .object entries _ :: frames => (Value.map entries).IsJson ∧ AreJson frames

/-- A reading comes to a value that JSON has a notation for, if to any. -/
def GivesJson (result : Except Fault (Value × List Char)) : Prop :=
  ∀ value rest, result = .ok (value, rest) → value.IsJson

/-- A value is read inside brackets with such values, and gone on behind one, to such a value. -/
theorem givesJson_readValue :
    (∀ (frames : List Frame) (chars : List Char), AreJson frames →
      GivesJson (readValue frames chars)) ∧
    ∀ (frames : List Frame) (value : Value) (chars : List Char),
      AreJson frames → value.IsJson → GivesJson (goOn frames value chars) := by
  apply readValue.mutual_induct <;> intros
  -- In each case a part fails, a sign is missing, or the reading goes on as in the hypothesis.
  all_goals first | rw [readValue] | rw [goOn]
  all_goals grind [GivesJson, AreJson, isJson_of_readScalar, Value.IsJson.putName,
    Value.IsJson.text, Value.isJson_emptyMap, Value.isJson_emptyList, Value.isJson_reverse]

theorem isJson_of_readAll {chars : List Char} {value : Value}
    (isRead : readAll chars = .ok value) : value.IsJson := by
  unfold readAll at isRead
  split at isRead
  · cases isRead
  · split at isRead
    · cases isRead
    · next isValue =>
        dsimp only at isRead
        split at isRead <;> cases isRead
        exact givesJson_readValue.1 [] (skipBlanks chars) trivial _ _ isValue

theorem isJson_of_read {chars : List Char} {value : Value} (isRead : read chars = .ok value) :
    value.IsJson := by
  unfold read at isRead
  cases answer : readAll chars with
  | error fault =>
      rw [answer] at isRead
      cases isRead
  | ok other =>
      rw [answer] at isRead
      cases isRead
      exact isJson_of_readAll answer

end Json

end UrlRouting
