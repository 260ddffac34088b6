import UrlRouting.CommandLine.Outcome
import UrlRouting.Proofs.Table.Union

/-!
# Parameters on a command line

An item is a name and a value around the first sign of equality.  Items are read in order up to the
first that is none (`readParameters_eq_ok_iff`, `readParameters_eq_error_iff`); a name that comes
again keeps its place and takes the last value (`gathers_iff`).
-/

namespace UrlRouting.CommandLine

/-! ### One item -/

namespace Word

theorem splitAtEquals_append {name : List Char} (isFirst : '=' ∉ name) (value : List Char) :
    splitAtEquals (name ++ '=' :: value) = (name, some value) := by
  induction name with
  | nil => rfl
  | cons char rest inductionHypothesis =>
      obtain ⟨isOther, isFirstRest⟩ : '=' ≠ char ∧ '=' ∉ rest := by simpa using isFirst
      rw [List.cons_append, splitAtEquals, if_neg (by simpa using isOther.symm),
        inductionHypothesis isFirstRest]

theorem splitAtEquals_of_not_mem {chars : List Char} (isWhole : '=' ∉ chars) :
    splitAtEquals chars = (chars, none) := by
  induction chars with
  | nil => rfl
  | cons char rest inductionHypothesis =>
      obtain ⟨isOther, isWholeRest⟩ : '=' ≠ char ∧ '=' ∉ rest := by simpa using isWhole
      rw [splitAtEquals, if_neg (by simpa using isOther.symm), inductionHypothesis isWholeRest]

end Word

namespace Outcome

/-- An item that gives a value to a name. -/
structure Assigns (item : String) (pair : String × String) : Prop where
  item_eq : item = pair.1 ++ "=" ++ pair.2
  isFirst : '=' ∉ pair.1.toList
  isNamed : pair.1 ≠ ""

/-- An item that gives no value to a name: without a sign of equality, or without a name. -/
def IsRefused (item : String) : Prop := '=' ∉ item.toList ∨ ∃ value, item = "=" ++ value

theorem parameter?_of_assigns {item : String} {pair : String × String}
    (assigns : Assigns item pair) : parameter? item = some pair := by
  rcases pair with ⟨name, value⟩
  obtain ⟨item_eq, isFirst, isNamed⟩ := assigns
  have chars_eq : item.toList = name.toList ++ '=' :: value.toList := by
    rw [item_eq, String.toList_append, String.toList_append, List.append_assoc]
    rfl
  rw [parameter?, chars_eq, Word.splitAtEquals_append isFirst]
  cases chars : name.toList with
  | nil => exact absurd (String.toList_eq_nil_iff.mp chars) isNamed
  | cons first rest =>
      dsimp only
      rw [← chars, String.ofList_toList, String.ofList_toList]

theorem parameter?_of_isRefused {item : String} (isRefused : IsRefused item) :
    parameter? item = none := by
  rcases isRefused with isWhole | ⟨value, rfl⟩
  · rw [parameter?, Word.splitAtEquals_of_not_mem isWhole]
    cases item.toList <;> rfl
  · rw [parameter?, String.toList_append]
    rfl

theorem exists_assigns_or_isRefused (item : String) :
    (∃ pair, Assigns item pair) ∨ IsRefused item := by
  by_cases isSplit : '=' ∈ item.toList
  · obtain ⟨name, value, chars_eq, isFirst⟩ := List.eq_append_cons_of_mem isSplit
    have item_eq : item = String.ofList name ++ "=" ++ String.ofList value := by
      simp [← String.toList_inj, chars_eq]
    by_cases isNamed : name = []
    · subst isNamed
      exact .inr (.inr ⟨_, item_eq⟩)
    · refine .inl ⟨(String.ofList name, String.ofList value), item_eq, ?_, ?_⟩
      · exact String.toList_ofList ▸ isFirst
      · exact fun isEmpty => isNamed (String.ofList_eq_empty_iff.mp isEmpty)
  · exact .inr (.inl isSplit)

theorem parameter?_eq_some_iff {item : String} {pair : String × String} :
    parameter? item = some pair ↔ Assigns item pair := by
  constructor
  · intro isRead
    rcases exists_assigns_or_isRefused item with ⟨other, assigns⟩ | isRefused
    · rw [parameter?_of_assigns assigns] at isRead
      exact Option.some.inj isRead ▸ assigns
    · rw [parameter?_of_isRefused isRefused] at isRead
      cases isRead
  · exact parameter?_of_assigns

theorem parameter?_eq_none_iff {item : String} : parameter? item = none ↔ IsRefused item := by
  constructor
  · intro isNone
    rcases exists_assigns_or_isRefused item with ⟨pair, assigns⟩ | isRefused
    · rw [parameter?_of_assigns assigns] at isNone
      cases isNone
    · exact isRefused
  · exact parameter?_of_isRefused

/-! ### All items -/

theorem readParameters_eq_ok_iff {items : List String} {pairs : List (String × String)} :
    readParameters items = .ok pairs ↔ List.Forall₂ Assigns items pairs := by
  induction items generalizing pairs with
  | nil => simp [readParameters, eq_comm]
  | cons item rest inductionHypothesis =>
      rw [List.forall₂_cons_left_iff, readParameters]
      simp only [← parameter?_eq_some_iff, ← inductionHypothesis]
      cases parameter? item with
      | none => simp
      | some pair => cases readParameters rest <;> simp [Except.map, eq_comm]

theorem readParameters_eq_error_iff {items : List String} {item : String} :
    readParameters items = .error item ↔ ∃ front behind pairs, items = front ++ item :: behind ∧
      List.Forall₂ Assigns front pairs ∧ IsRefused item := by
  constructor
  · intro fails
    induction items with
    | nil => cases fails
    | cons first rest inductionHypothesis =>
        rw [readParameters] at fails
        cases isRead : parameter? first with
        | none =>
            rw [isRead] at fails
            cases fails
            exact ⟨[], rest, [], rfl, .nil, parameter?_eq_none_iff.mp isRead⟩
        | some pair =>
            rw [isRead] at fails
            cases restFails : readParameters rest with
            | ok pairs =>
                rw [restFails] at fails
                cases fails
            | error other =>
                rw [restFails] at fails
                cases fails
                obtain ⟨front, behind, pairs, rfl, areRead, isRefused⟩ :=
                  inductionHypothesis restFails
                exact ⟨first :: front, behind, pair :: pairs, rfl,
                  .cons (parameter?_eq_some_iff.mp isRead) areRead, isRefused⟩
  · rintro ⟨front, behind, pairs, rfl, areRead, isRefused⟩
    induction areRead with
    | nil =>
        rw [List.nil_append, readParameters, parameter?_of_isRefused isRefused]
    | cons assigns _ inductionHypothesis =>
        rw [List.cons_append, readParameters, parameter?_of_assigns assigns]
        dsimp only
        rw [inductionHypothesis]
        rfl

/-! ### Parameters -/

/-- The parameters that pairs make: the names in the order in which they first come, each with the
value that comes last. -/
structure Gathers (pairs : List (String × String)) (parameters : Parameters) : Prop where
  names_eq : Entries.names parameters = (pairs.map (·.1)).eraseDups
  get?_eq (name : String) : parameters.get? name = (pairs.reverse.lookup name).map .text

theorem textParameters_concat (pairs : List (String × String)) (name value : String) :
    textParameters (pairs ++ [(name, value)]) = (textParameters pairs).put name (.text value) := by
  simp [textParameters, Entries.ofPairs, Entries.merge]

theorem names_textParameters (pairs : List (String × String)) :
    Entries.names (textParameters pairs) = (pairs.map (·.1)).eraseDups := by
  induction pairs using List.reverseRecOn with
  | nil => rfl
  | append_singleton pairs pair inductionHypothesis =>
      rcases pair with ⟨name, value⟩
      rw [textParameters_concat, Entries.names_put, inductionHypothesis, List.map_append,
        List.eraseDups_append, List.map_singleton, List.removeAll]
      by_cases isThere : name ∈ pairs.map (·.1)
      · rw [if_pos (List.mem_eraseDups.mpr isThere)]
        simp [isThere]
      · rw [if_neg (mt List.mem_eraseDups.mp isThere)]
        simp [isThere, List.eraseDups_cons]

theorem get?_textParameters (pairs : List (String × String)) (name : String) :
    (textParameters pairs).get? name = (pairs.reverse.lookup name).map .text := by
  induction pairs using List.reverseRecOn with
  | nil => rfl
  | append_singleton pairs pair inductionHypothesis =>
      rcases pair with ⟨last, value⟩
      rw [textParameters_concat, Entries.get?_put, inductionHypothesis, List.reverse_concat,
        List.lookup_cons]
      by_cases isLast : last = name
      · simp [isLast]
      · rw [if_neg isLast, beq_false_of_ne (Ne.symm isLast)]

theorem nodup_names_textParameters (pairs : List (String × String)) :
    (Entries.names (textParameters pairs)).Nodup := by
  have isNew : (Entries.names ([] : Parameters)).Nodup := List.nodup_nil
  exact Entries.nodup_names_merge isNew _

theorem gathers_iff {pairs : List (String × String)} {parameters : Parameters} :
    Gathers pairs parameters ↔ parameters = textParameters pairs := by
  constructor
  · intro gathers
    have sameNames : Entries.names (textParameters pairs) = Entries.names parameters :=
      (names_textParameters pairs).trans gathers.names_eq.symm
    symm
    apply Entries.eq_of_names_of_get? (nodup_names_textParameters pairs) sameNames
    intro name
    rw [get?_textParameters, gathers.get?_eq]
  · rintro rfl
    exact ⟨names_textParameters pairs, get?_textParameters pairs⟩

end Outcome

end UrlRouting.CommandLine
