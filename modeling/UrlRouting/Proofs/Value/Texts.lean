import Mathlib
import UrlRouting.Value

/-!
# Values without a text

An integer with more digits than the limit has no text, and no other value lacks one but for those
that hold such an integer, however deep (`Value.hasText_iff`).
-/

namespace UrlRouting.Value

/-- The integers in a value, those in the keys and the values of maps included. -/
inductive Holds : Value → Int → Prop where
  | int (n : Int) : Holds (.int n) n
  | list {items : List Value} {item : Value} {n : Int} (isItem : item ∈ items)
      (holds : Holds item n) : Holds (.list items) n
  | tuple {items : List Value} {item : Value} {n : Int} (isItem : item ∈ items)
      (holds : Holds item n) : Holds (.tuple items) n
  | key {entries : List (Value × Value)} {key value : Value} {n : Int}
      (isEntry : (key, value) ∈ entries) (holds : Holds key n) : Holds (.map entries) n
  | value {entries : List (Value × Value)} {key value : Value} {n : Int}
      (isEntry : (key, value) ∈ entries) (holds : Holds value n) : Holds (.map entries) n

theorem hasText_int_iff {n : Int} :
    (int n).hasText = true ↔ n.natAbs < 10 ^ digitLimit := by
  rw [hasText, decide_eq_true_iff]
  exact Nat.length_toDigits_le_iff (by decide) (by decide)

theorem haveText_iff {items : List Value} :
    haveText items = true ↔ ∀ item ∈ items, item.hasText = true := by
  induction items with
  | nil => simp [haveText]
  | cons item rest inductionHypothesis => simp [haveText, inductionHypothesis]

theorem entriesHaveText_iff {entries : List (Value × Value)} :
    entriesHaveText entries = true ↔
      ∀ entry ∈ entries, entry.1.hasText = true ∧ entry.2.hasText = true := by
  induction entries with
  | nil => simp [entriesHaveText]
  | cons entry rest inductionHypothesis => simp [entriesHaveText, inductionHypothesis]

/-- A value has a text exactly if no integer in it is too long. -/
theorem hasText_iff (value : Value) :
    value.hasText = true ↔ ∀ n, value.Holds n → n.natAbs < 10 ^ digitLimit := by
  constructor
  · intro hasText n holds
    induction holds with
    | int n => exact hasText_int_iff.mp hasText
    | list isItem _ inductionHypothesis | tuple isItem _ inductionHypothesis =>
        exact inductionHypothesis (haveText_iff.mp hasText _ isItem)
    | key isEntry _ inductionHypothesis =>
        exact inductionHypothesis (entriesHaveText_iff.mp hasText _ isEntry).1
    | value isEntry _ inductionHypothesis =>
        exact inductionHypothesis (entriesHaveText_iff.mp hasText _ isEntry).2
  · intro areShort
    match value with
    | .null | .bool _ | .float _ | .text _ | .bytes _ | .date _ | .moment _ | .clock _ => rfl
    | .int n => exact hasText_int_iff.mpr (areShort n (.int n))
    | .list items =>
        refine haveText_iff.mpr fun item isItem => ?_
        exact (hasText_iff item).mpr fun n holds => areShort n (.list isItem holds)
    | .tuple items =>
        refine haveText_iff.mpr fun item isItem => ?_
        exact (hasText_iff item).mpr fun n holds => areShort n (.tuple isItem holds)
    | .map entries =>
        refine entriesHaveText_iff.mpr fun entry isEntry => ⟨?_, ?_⟩
        · exact (hasText_iff entry.1).mpr fun n holds => areShort n (.key isEntry holds)
        · exact (hasText_iff entry.2).mpr fun n holds => areShort n (.value isEntry holds)
termination_by sizeOf value
decreasing_by
  · have := List.sizeOf_lt_of_mem isItem
    simp only [list.sizeOf_spec]
    omega
  · have := List.sizeOf_lt_of_mem isItem
    simp only [tuple.sizeOf_spec]
    omega
  · have := List.sizeOf_lt_of_mem isEntry
    cases entry
    simp only [map.sizeOf_spec, Prod.mk.sizeOf_spec] at *
    omega
  · have := List.sizeOf_lt_of_mem isEntry
    cases entry
    simp only [map.sizeOf_spec, Prod.mk.sizeOf_spec] at *
    omega

/-- The least integer that has no text. -/
def tooLong : Value := .int (10 ^ digitLimit)

@[simp]
theorem hasText_tooLong : tooLong.hasText = false := by
  rw [← Bool.not_eq_true, tooLong, hasText_int_iff]
  simp [Int.natAbs_pow]

theorem tooLong_ne_null : tooLong ≠ .null := nofun

end UrlRouting.Value
