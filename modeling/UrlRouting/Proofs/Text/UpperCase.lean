import Mathlib
import UrlRouting.Text.Casing

/-!
# Upper case

A text in upper case stays as it is when it is put into upper case again (`Text.upper_upper`), since
no code point that the tables give has an upper-case form of its own.
-/

namespace UrlRouting.Text

/-- Some code points as one number, the binary digits of which tell them. -/
def digitsOf (codes : List Nat) : Nat :=
  codes.foldr (fun code set => 1 <<< code ||| set) 0

theorem testBit_digitsOf {codes : List Nat} {code : Nat} (membership : code ∈ codes) :
    (digitsOf codes).testBit code = true := by
  induction codes with
  | nil => simp at membership
  | cons first rest inductionHypothesis =>
      rw [digitsOf, List.foldr_cons, Nat.testBit_or, Bool.or_eq_true]
      rcases List.mem_cons.mp membership with rfl | inRest
      · left
        simp
      · exact .inr (inductionHypothesis inRest)

theorem disjoint_of_digitsOf {codes others : List Nat}
    (apart : digitsOf codes &&& digitsOf others = 0) : codes.Disjoint others := by
  intro code inCodes inOthers
  have both : (digitsOf codes &&& digitsOf others).testBit code = true := by
    rw [Nat.testBit_and, testBit_digitsOf inCodes, testBit_digitsOf inOthers]
    rfl
  rw [apart, Nat.zero_testBit] at both
  exact Bool.false_ne_true both

namespace CaseRun

def codes (run : CaseRun) : List Nat :=
  (List.range ((run.last - run.first) / run.step + 1)).map fun index =>
    run.first + index * run.step

theorem mem_codes_of_lists {run : CaseRun} {code : Nat} (lists : run.lists code) :
    code ∈ run.codes := by
  simp only [CaseRun.lists, Bool.and_eq_true, decide_eq_true_eq, beq_iff_eq] at lists
  obtain ⟨⟨above, below⟩, divides⟩ := lists
  refine List.mem_map.mpr ⟨(code - run.first) / run.step, ?_, ?_⟩
  · rw [List.mem_range, Nat.lt_succ_iff]
    exact Nat.div_le_div_right (Nat.sub_le_sub_right below _)
  · rw [Nat.div_mul_cancel (Nat.dvd_of_mod_eq_zero divides)]
    exact Nat.add_sub_cancel' above

end CaseRun

/-- The code points that have an upper-case form in the tables. -/
def loweredCodes : List Nat :=
  upperRuns.flatMap CaseRun.codes ++ upperExpansions.map (·.1)

/-- The code points that upper-case forms are made of. -/
def raisedCodes : List Nat :=
  upperRuns.flatMap (fun run => run.codes.map run.counterpart) ++ upperExpansions.flatMap (·.2)

theorem loweredCodes_disjoint : loweredCodes.Disjoint raisedCodes := by
  apply disjoint_of_digitsOf
  decide +kernel

theorem upperCodes_of_notMem {code : Nat} (fixed : code ∉ loweredCodes) :
    upperCodes code = [code] := by
  rw [loweredCodes, List.mem_append, not_or] at fixed
  have notExpanded : upperExpansions.lookup code = none := by
    rw [List.lookup_eq_none_iff]
    intro entry membership
    rw [bne_iff_ne]
    rintro rfl
    exact fixed.2 (List.mem_map_of_mem membership)
  have notListed : upperRuns.find? (·.lists code) = none := by
    rw [List.find?_eq_none]
    intro run membership lists
    exact fixed.1 (List.mem_flatMap.mpr ⟨run, membership, CaseRun.mem_codes_of_lists lists⟩)
  rw [upperCodes, notExpanded, counterpartIn, notListed]

theorem upperCodes_of_raised {code : Nat} (raised : code ∈ raisedCodes) :
    upperCodes code = [code] := by
  apply upperCodes_of_notMem
  exact fun lowered => loweredCodes_disjoint lowered raised

/-- What an upper-case form is made of is in upper case. -/
theorem upperCodes_of_mem {code result : Nat} (membership : result ∈ upperCodes code) :
    upperCodes result = [result] := by
  cases isExpanded : upperExpansions.lookup code with
  | some codes =>
      rw [upperCodes, isExpanded] at membership
      obtain ⟨front, rest, expansions_eq, -⟩ := List.lookup_eq_some_iff.mp isExpanded
      have isEntry : (code, codes) ∈ upperExpansions := by simp [expansions_eq]
      apply upperCodes_of_raised
      exact List.mem_append_right _ (List.mem_flatMap.mpr ⟨_, isEntry, membership⟩)
  | none =>
      cases isListed : upperRuns.find? (·.lists code) with
      | some run =>
          rw [upperCodes, isExpanded, counterpartIn, isListed, List.mem_singleton] at membership
          have lists : run.lists code := by simpa using List.find?_some isListed
          rw [membership]
          apply upperCodes_of_raised
          exact List.mem_append_left _ (List.mem_flatMap.mpr ⟨run,
            List.mem_of_find?_eq_some isListed,
            List.mem_map_of_mem (CaseRun.mem_codes_of_lists lists)⟩)
      | none =>
          have fixed : upperCodes code = [code] := by
            rw [upperCodes, isExpanded, counterpartIn, isListed]
          rw [fixed, List.mem_singleton] at membership
          rw [membership]
          exact fixed

theorem upper_upper (text : String) : upper (upper text) = upper text := by
  unfold upper
  rw [String.toList_ofList, List.flatMap_assoc]
  congr 1
  apply List.flatMap_congr
  intro char _
  rw [List.flatMap_map, List.map_eq_flatMap]
  apply List.flatMap_congr
  intro code membership
  by_cases valid : code.isValidChar
  · rw [Char.toNat_ofNat, if_pos valid, upperCodes_of_mem membership, List.map_singleton]
  · -- What is no character is read as the null character, which has no other form either.
    have isNull : Char.ofNat code = '\x00' := by
      rw [Char.ofNat, dif_neg valid]
      rfl
    rw [isNull]
    decide +kernel

/-! ### Texts that get longer -/

theorem upperCodes_ne_nil (code : Nat) : upperCodes code ≠ [] := by
  unfold upperCodes
  cases isExpanded : upperExpansions.lookup code with
  | some codes =>
      obtain ⟨front, rest, expansions_eq, -⟩ := List.lookup_eq_some_iff.mp isExpanded
      have isEntry : (code, codes) ∈ upperExpansions := by simp [expansions_eq]
      have noneEmpty : ∀ entry ∈ upperExpansions, entry.2 ≠ [] := by decide +kernel
      exact noneEmpty _ isEntry
  | none => exact List.cons_ne_nil _ _

/-- No character vanishes in upper case, so only a text that is one character long is in upper case
what one of its characters is. -/
theorem length_eq_one_of_upper_eq {text : String} {char : Char} (membership : char ∈ text.toList)
    (same : upper text = upper (String.singleton char)) : text.length = 1 := by
  obtain ⟨front, behind, chars_eq⟩ := List.append_of_mem membership
  rw [upper, upper, chars_eq, String.toList_singleton, String.ofList_inj] at same
  have lengths := congrArg List.length same
  rw [List.flatMap_append, List.flatMap_cons, List.flatMap_singleton, List.length_append,
    List.length_append] at lengths
  have noneLeft : ∀ chars : List Char,
      (chars.flatMap fun char => (upperCodes char.toNat).map Char.ofNat).length = 0 →
        chars = [] := by
    intro chars isEmpty
    rw [List.length_eq_zero_iff, List.flatMap_eq_nil_iff] at isEmpty
    refine List.eq_nil_iff_forall_not_mem.mpr fun char isThere => ?_
    exact upperCodes_ne_nil char.toNat (List.map_eq_nil_iff.mp (isEmpty char isThere))
  rw [← String.length_toList, chars_eq, noneLeft front (by omega), noneLeft behind (by omega)]
  rfl

end UrlRouting.Text
