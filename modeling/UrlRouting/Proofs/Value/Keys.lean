import Mathlib
import UrlRouting.Value

/-!
# Values as keys

Values of different kinds can be equal, as truth values, integers and fractions are by their number
and moments by the time that they tell.  What a value is compared by is its `Value.Key`
(`Value.beq_iff`), so that equal values are one key wherever they stand.
-/

namespace UrlRouting

/-! ### Numbers -/

namespace Binary64

/-- Whether a number is in the form in which numbers are kept, with all the digits that there is
room for. -/
def IsKept : Binary64 → Prop
  | .finite _ mantissa exponent => mantissa < 2 ^ 53 ∧ (2 ^ 52 ≤ mantissa ∨ exponent = -1074)
  | _ => True

/-- What a number is compared by: the integer that it is, if it is one. -/
def number (value : Binary64) : Int ⊕ Binary64 :=
  match value.toInt? with
  | some n => .inl n
  | none => .inr value

variable {value other : Binary64} {negative : Bool} {mantissa : Nat} {exponent n : Int}

theorem toInt?_zero (negative : Bool) (exponent : Int) :
    (finite negative 0 exponent).toInt? = some 0 := by
  unfold toInt?
  simp

theorem eq_of_toInt?_eq_some (isInt : (finite negative mantissa exponent).toInt? = some n) :
    mantissa * 2 ^ exponent.toNat = n.natAbs * 2 ^ (-exponent).toNat ∧
      n = if negative then -(n.natAbs : Int) else n.natAbs := by
  obtain ⟨_, isMapped, rfl⟩ := Option.map_eq_some_iff.mp isInt
  obtain ⟨magnitude, isMagnitude, isCast⟩ := Option.bind_eq_some_iff.mp isMapped
  obtain rfl := Option.some.inj isCast
  have natAbs_eq : (if negative then -(magnitude : Int) else magnitude).natAbs = magnitude := by
    cases negative <;> simp
  rw [natAbs_eq]
  refine ⟨?_, rfl⟩
  split at isMagnitude
  · next isPositive =>
      obtain rfl := Option.some.inj isMagnitude
      rw [Int.toNat_eq_zero.mpr (Int.neg_nonpos_of_nonneg isPositive), Nat.pow_zero, Nat.mul_one]
      rfl
  · next isNegative =>
      dsimp only at isMagnitude
      split at isMagnitude
      · next divides =>
          obtain rfl := Option.some.inj isMagnitude
          rw [Int.toNat_eq_zero.mpr (by omega), Nat.pow_zero, Nat.mul_one]
          exact (Nat.div_mul_cancel (Nat.dvd_of_mod_eq_zero (by simpa using divides))).symm
      · cases isMagnitude

/-- An integer other than zero has all digits. -/
theorem le_mantissa (isKept : (finite negative mantissa exponent).IsKept)
    (isInt : (finite negative mantissa exponent).toInt? = some n) (nonzero : n ≠ 0) :
    2 ^ 52 ≤ mantissa := by
  obtain ⟨isSmall, isLarge | isLowest⟩ := isKept
  · exact isLarge
  · obtain ⟨magnitude_eq, -⟩ := eq_of_toInt?_eq_some isInt
    rw [Int.toNat_eq_zero.mpr (by omega), Nat.pow_zero, Nat.mul_one] at magnitude_eq
    have isLarge : 2 ^ 53 ≤ mantissa := calc
      _ ≤ 2 ^ (-exponent).toNat := Nat.pow_le_pow_right (by decide) (by omega)
      _ ≤ n.natAbs * 2 ^ (-exponent).toNat :=
        Nat.le_mul_of_pos_left _ (Int.natAbs_pos.mpr nonzero)
      _ = mantissa := magnitude_eq.symm
    exact absurd isSmall (not_lt.mpr isLarge)

/-- Of two equal numbers the one with more digits has no more zeros behind them. -/
theorem le_of_mul_pow_eq {first second front behind : Nat} (isLarge : 2 ^ 52 ≤ first)
    (isSmall : second < 2 ^ 53) (same : first * 2 ^ front = second * 2 ^ behind) :
    front ≤ behind := by
  by_contra isLess
  obtain ⟨more, rfl⟩ := Nat.exists_eq_add_of_lt (not_le.mp isLess)
  have second_eq : second = first * 2 ^ more * 2 := by
    apply Nat.eq_of_mul_eq_mul_right (Nat.two_pow_pos behind)
    rw [← same]
    ring
  have isPositive : 1 ≤ 2 ^ more := Nat.two_pow_pos more
  nlinarith

/-- An integer other than zero is kept in one form. -/
theorem eq_of_toInt?_eq (isKept : value.IsKept) (isKept' : other.IsKept) (nonzero : n ≠ 0)
    (isInt : value.toInt? = some n) (isInt' : other.toInt? = some n) : value = other := by
  cases value with
  | nan | infinite => cases isInt
  | finite negative mantissa exponent =>
      cases other with
      | nan | infinite => cases isInt'
      | finite negative' mantissa' exponent' =>
          have isLarge := le_mantissa isKept isInt nonzero
          have isLarge' := le_mantissa isKept' isInt' nonzero
          obtain ⟨magnitude_eq, sign_eq⟩ := eq_of_toInt?_eq_some isInt
          obtain ⟨magnitude_eq', sign_eq'⟩ := eq_of_toInt?_eq_some isInt'
          have same : mantissa * 2 ^ (exponent.toNat + (-exponent').toNat) =
              mantissa' * 2 ^ (exponent'.toNat + (-exponent).toNat) := by
            rw [pow_add, pow_add, ← mul_assoc, ← mul_assoc, magnitude_eq, magnitude_eq']
            ring
          have exponent_le := le_of_mul_pow_eq isLarge isKept'.1 same
          have exponent_ge := le_of_mul_pow_eq isLarge' isKept.1 same.symm
          obtain rfl : exponent = exponent' := by omega
          obtain rfl : mantissa = mantissa' :=
            Nat.eq_of_mul_eq_mul_right (Nat.two_pow_pos _) same
          obtain rfl : negative = negative' := by
            cases negative <;> cases negative' <;> simp at sign_eq sign_eq' <;> grind
          rfl

theorem number_eq_inl_iff : value.number = .inl n ↔ value.toInt? = some n := by
  unfold number
  cases value.toInt? <;> simp

theorem number_eq_of_sameNumber (isSame : value.sameNumber other = true) :
    value.number = other.number := by
  cases value with
  | nan =>
      cases other with
      | nan => rfl
      | infinite | finite => cases isSame
  | infinite negative =>
      cases other with
      | infinite negative' => rw [beq_iff_eq.mp isSame]
      | nan | finite => cases isSame
  | finite negative mantissa exponent =>
      cases other with
      | finite negative' mantissa' exponent' =>
          simp only [sameNumber, Bool.or_eq_true, Bool.and_eq_true, beq_iff_eq] at isSame
          rcases isSame with ⟨rfl, rfl⟩ | ⟨⟨rfl, rfl⟩, rfl⟩
          · rw [number, number, toInt?_zero, toInt?_zero]
          · rfl
      | nan | infinite => cases isSame

theorem sameNumber_self (value : Binary64) : value.sameNumber value = true := by
  cases value <;> simp [sameNumber]

/-- The two zeros are one number. -/
theorem sameNumber_of_toInt?_eq_zero (isZero : value.toInt? = some 0)
    (isZero' : other.toInt? = some 0) : value.sameNumber other = true := by
  have mantissa_eq {negative : Bool} {mantissa : Nat} {exponent : Int}
      (isZero : (finite negative mantissa exponent).toInt? = some 0) : mantissa = 0 := by
    simpa using (eq_of_toInt?_eq_some isZero).1
  cases value with
  | nan | infinite => cases isZero
  | finite negative mantissa exponent =>
      cases other with
      | nan | infinite => cases isZero'
      | finite negative' mantissa' exponent' =>
          rw [sameNumber, mantissa_eq isZero, mantissa_eq isZero']
          rfl

theorem sameNumber_iff (isKept : value.IsKept) (isKept' : other.IsKept) :
    value.sameNumber other = true ↔ value.number = other.number := by
  refine ⟨number_eq_of_sameNumber, fun same => ?_⟩
  cases isInt : value.toInt? with
  | some n =>
      have isInt' : other.toInt? = some n := by
        rw [← number_eq_inl_iff, ← same, number_eq_inl_iff, isInt]
      by_cases isZero : n = 0
      · subst isZero
        exact sameNumber_of_toInt?_eq_zero isInt isInt'
      · rw [eq_of_toInt?_eq isKept isKept' isZero isInt isInt', sameNumber_self]
  | none =>
      cases isInt' : other.toInt? with
      | some n =>
          rw [← number_eq_inl_iff, ← same, number_eq_inl_iff, isInt] at isInt'
          cases isInt'
      | none =>
          rw [number, number, isInt, isInt'] at same
          rw [Sum.inr.inj same, sameNumber_self]

end Binary64

/-- What a moment is compared by: the time that it tells, if local time is not all that is known. -/
def Moment.told (moment : Moment) : Int ⊕ Moment :=
  match moment.offset with
  | some ahead => .inl (moment.localMicroseconds - ahead * 1000000)
  | none => .inr moment

theorem Moment.same_iff {moment other : Moment} :
    moment.same other = true ↔ moment.told = other.told := by
  unfold same told
  cases moment.offset <;> cases other.offset <;> simp

/-! ### Values -/

namespace Value

/-- What a value is compared by. -/
inductive Key where
  | null
  | number (number : Int ⊕ Binary64)
  | text (value : String)
  | bytes (value : List UInt8)
  | date (value : Date)
  | moment (told : Int ⊕ Moment)
  | clock (value : Clock)
  | list (items : List Key)
  | tuple (items : List Key)
  | map (entries : List (Key × Key))

mutual

def key : Value → Key
  | null => .null
  | bool value => .number (.inl (if value then 1 else 0))
  | int value => .number (.inl value)
  | float value => .number value.number
  | text value => .text value
  | bytes value => .bytes value
  | date value => .date value
  | moment value => .moment value.told
  | clock value => .clock value
  | list items => .list (itemKeys items)
  | tuple items => .tuple (itemKeys items)
  | map entries => .map (entryKeys entries)

def itemKeys : List Value → List Key
  | [] => []
  | item :: rest => item.key :: itemKeys rest

def entryKeys : List (Value × Value) → List (Key × Key)
  | [] => []
  | (name, value) :: rest => (name.key, value.key) :: entryKeys rest

end

mutual

/-- Whether all numbers in a value are in the form in which numbers are kept. -/
def IsKept : Value → Prop
  | float value => value.IsKept
  | list items | tuple items => AreKept items
  | map entries => AreKeptEntries entries
  | _ => True

def AreKept : List Value → Prop
  | [] => True
  | item :: rest => item.IsKept ∧ AreKept rest

def AreKeptEntries : List (Value × Value) → Prop
  | [] => True
  | (name, value) :: rest => name.IsKept ∧ value.IsKept ∧ AreKeptEntries rest

end

mutual

theorem same_iff (value other : Value) (isKept : value.IsKept) (isKept' : other.IsKept) :
    value.same other = true ↔ value.key = other.key := by
  cases value with
  | null | text _ | bytes _ | date _ | clock _ => cases other <;> simp [same, key, toInt?]
  | moment value => cases other <;> simp [same, key, toInt?, Moment.same_iff]
  | bool value | int value =>
      cases other with
      | float value' =>
          rw [key, key, Key.number.injEq, @eq_comm _ (Sum.inl _), Binary64.number_eq_inl_iff]
          simp only [same, toInt?]
          cases value'.toInt? with
          | none => simp only [reduceCtorEq]
          | some n =>
              simp only [beq_iff_eq, Option.some.injEq]
              exact eq_comm
      | _ => simp [same, key, toInt?]
  | float value =>
      cases other with
      | float value' =>
          rw [key, key, Key.number.injEq]
          exact Binary64.sameNumber_iff isKept isKept'
      | bool value' | int value' =>
          simp only [same, key, toInt?, Key.number.injEq, Binary64.number_eq_inl_iff]
          cases value.toInt? <;> simp
      | _ => simp [same, key, toInt?]
  | list items =>
      cases other with
      | list items' =>
          rw [key, key, Key.list.injEq]
          exact sameItems_iff items items' isKept isKept'
      | _ => simp [same, key, toInt?]
  | tuple items =>
      cases other with
      | tuple items' =>
          rw [key, key, Key.tuple.injEq]
          exact sameItems_iff items items' isKept isKept'
      | _ => simp [same, key, toInt?]
  | map entries =>
      cases other with
      | map entries' =>
          rw [key, key, Key.map.injEq]
          exact sameEntries_iff entries entries' isKept isKept'
      | _ => simp [same, key, toInt?]

theorem sameItems_iff (items others : List Value) (areKept : AreKept items)
    (areKept' : AreKept others) :
    sameItems items others = true ↔ itemKeys items = itemKeys others := by
  cases items with
  | nil => cases others <;> simp [sameItems, itemKeys]
  | cons item rest =>
      cases others with
      | nil => simp [sameItems, itemKeys]
      | cons item' rest' =>
          rw [sameItems, Bool.and_eq_true, itemKeys, itemKeys, List.cons.injEq]
          exact and_congr (same_iff item item' areKept.1 areKept'.1)
            (sameItems_iff rest rest' areKept.2 areKept'.2)

theorem sameEntries_iff (entries others : List (Value × Value)) (areKept : AreKeptEntries entries)
    (areKept' : AreKeptEntries others) :
    sameEntries entries others = true ↔ entryKeys entries = entryKeys others := by
  cases entries with
  | nil => cases others <;> simp [sameEntries, entryKeys]
  | cons entry rest =>
      cases others with
      | nil => simp [sameEntries, entryKeys]
      | cons entry' rest' =>
          rcases entry with ⟨name, value⟩
          rcases entry' with ⟨name', value'⟩
          rw [sameEntries, Bool.and_eq_true, Bool.and_eq_true, entryKeys, entryKeys,
            List.cons.injEq, Prod.mk.injEq]
          exact and_congr (and_congr (same_iff name name' areKept.1 areKept'.1)
            (same_iff value value' areKept.2.1 areKept'.2.1))
            (sameEntries_iff rest rest' areKept.2.2 areKept'.2.2)

end

/-- Values in the form in which they are kept are equal just if they have one key. -/
theorem beq_iff {value other : Value} (isKept : value.IsKept) (isKept' : other.IsKept) :
    (value == other) = true ↔ value.key = other.key :=
  same_iff value other isKept isKept'

theorem beq_eq_of_key_eq {value other asked : Value} (isKept : value.IsKept)
    (isKept' : other.IsKept) (isKeptAsked : asked.IsKept) (sameKey : value.key = other.key) :
    (value == asked) = (other == asked) := by
  rw [Bool.eq_iff_iff, beq_iff isKept isKeptAsked, beq_iff isKept' isKeptAsked, sameKey]

end Value

end UrlRouting
