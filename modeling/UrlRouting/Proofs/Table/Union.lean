import UrlRouting.Proofs.Routing.Attributes
import UrlRouting.Proofs.Table.Listing

/-!
# Tables put together

A table that takes over the entries of another one has its own names and behind them those that are
new to it, and each name leads to the newer entry (`RouteTable.IsUnion`).  A table is known by its
names in order and by what they lead to, so that it does not matter which two of three tables are
put together first (`Entries.merge_assoc`).
-/

namespace UrlRouting

namespace Entries

variable {υ : Type}

theorem get?_eq_none_iff {entries : Entries String υ} {name : String} :
    entries.get? name = none ↔ name ∉ entries.names := by
  rw [← has_iff, Bool.not_eq_true, get?, Option.map_eq_none_iff, List.find?_eq_none, has,
    List.any_eq_false]

/-- Entries are known by their names in order and by what stands under them. -/
theorem eq_of_names_of_get? {entries other : Entries String υ} (nodup : entries.names.Nodup)
    (sameNames : entries.names = other.names)
    (sameValues : ∀ name, entries.get? name = other.get? name) : entries = other := by
  induction entries generalizing other with
  | nil => exact (List.map_eq_nil_iff.mp sameNames.symm).symm
  | cons first rest inductionHypothesis =>
      rcases first with ⟨name, value⟩
      cases other with
      | nil => cases sameNames
      | cons first' rest' =>
          rcases first' with ⟨name', value'⟩
          obtain ⟨rfl, sameRest⟩ : name = name' ∧ names rest = names rest' :=
            List.cons_eq_cons.mp sameNames
          obtain ⟨fresh, nodupRest⟩ : name ∉ names rest ∧ (names rest).Nodup :=
            List.nodup_cons.mp nodup
          have sameFirst : value = value' := by
            simpa [get?_cons] using sameValues name
          have same : rest = rest' := by
            apply inductionHypothesis nodupRest sameRest
            intro asked
            by_cases isName : name = asked
            · subst isName
              exact (get?_eq_none_iff.mpr fresh).trans
                (get?_eq_none_iff.mpr (sameRest ▸ fresh)).symm
            · simpa [get?_cons, isName] using sameValues asked
          rw [sameFirst, same]

/-! ### One more entry -/

theorem names_put (entries : Entries String υ) (name : String) (value : υ) :
    (entries.put name value).names =
      if name ∈ entries.names then entries.names else entries.names ++ [name] := by
  induction entries with
  | nil => rfl
  | cons first rest inductionHypothesis =>
      rcases first with ⟨known, old⟩
      change (put name value ((known, old) :: rest)).names =
        if name ∈ known :: names rest then known :: names rest else known :: names rest ++ [name]
      by_cases isKnown : known = name
      · subst isKnown
        rw [put, if_pos (beq_self_eq_true known), if_pos List.mem_cons_self]
        rfl
      · rw [put, if_neg (by simpa using isKnown)]
        change known :: (put name value rest).names = _
        rw [inductionHypothesis]
        simp only [List.mem_cons, Ne.symm isKnown, false_or]
        split <;> rfl

theorem get?_put (entries : Entries String υ) (name asked : String) (value : υ) :
    (entries.put name value).get? asked =
      if name = asked then some value else entries.get? asked := by
  induction entries with
  | nil => simp [put, get?]
  | cons first rest inductionHypothesis =>
      rcases first with ⟨known, old⟩
      by_cases isKnown : known = name
      · subst isKnown
        rw [put, if_pos (beq_self_eq_true known), get?_cons, get?_cons]
        by_cases isAsked : known = asked <;> simp [isAsked]
      · rw [put, if_neg (by simpa using isKnown), get?_cons, get?_cons, inductionHypothesis]
        by_cases isAsked : known = asked
        · subst isAsked
          simp [Ne.symm isKnown]
        · simp [isAsked]

/-! ### More entries -/

theorem nodup_names_merge {entries : Entries String υ} (nodup : entries.names.Nodup)
    (more : List (String × υ)) : (entries.merge more).names.Nodup := by
  induction more generalizing entries with
  | nil => exact nodup
  | cons first rest inductionHypothesis =>
      apply inductionHypothesis
      rw [names_put]
      split
      · exact nodup
      · next fresh =>
          exact nodup.append (List.nodup_singleton _) (List.disjoint_singleton.mpr fresh)

/-- The names that are new come last, in their order. -/
theorem names_merge (entries : Entries String υ) {more : Entries String υ}
    (nodup : more.names.Nodup) :
    (entries.merge more).names =
      entries.names ++ more.names.filter fun name => name ∉ entries.names := by
  induction more generalizing entries with
  | nil => exact (List.append_nil _).symm
  | cons first rest inductionHypothesis =>
      obtain ⟨fresh, nodupRest⟩ : first.1 ∉ names rest ∧ (names rest).Nodup :=
        List.nodup_cons.mp nodup
      have others (name : String) (isInRest : name ∈ names rest) : name ≠ first.1 := by
        rintro rfl
        exact fresh isInRest
      calc (entries.merge (first :: rest)).names
        _ = (entries.put first.1 first.2).names ++ (names rest).filter fun name =>
              name ∉ (entries.put first.1 first.2).names := inductionHypothesis _ nodupRest
        _ = entries.names ++ (first.1 :: names rest).filter fun name => name ∉ entries.names := by
          rw [names_put]
          split
          · next isThere => rw [List.filter_cons_of_neg (by simpa using isThere)]
          · next isNew =>
              rw [List.filter_cons_of_pos (by simpa using isNew), List.append_assoc,
                List.singleton_append]
              congr 2
              apply List.filter_congr
              intro name isInRest
              simp [others name isInRest]

/-- A name that comes again leads to what it leads to last. -/
theorem get?_merge (entries : Entries String υ) {more : Entries String υ}
    (nodup : more.names.Nodup) (name : String) :
    (entries.merge more).get? name =
      if name ∈ more.names then more.get? name else entries.get? name := by
  induction more generalizing entries with
  | nil => rfl
  | cons first rest inductionHypothesis =>
      obtain ⟨fresh, nodupRest⟩ : first.1 ∉ names rest ∧ (names rest).Nodup :=
        List.nodup_cons.mp nodup
      change (merge (entries.put first.1 first.2) rest).get? name =
        if name ∈ first.1 :: names rest then _ else _
      rw [inductionHypothesis _ nodupRest, get?_put, get?_cons]
      by_cases isFirst : first.1 = name
      · subst isFirst
        simp [fresh]
      · simp [isFirst, Ne.symm isFirst]

theorem fetch_merge (entries : Entries String υ) {more : Entries String υ}
    (nodup : more.names.Nodup) (name : String) :
    (entries.merge more).fetch name =
      if name ∈ more.names then more.fetch name else entries.fetch name := by
  rw [fetch, get?_merge _ nodup]
  by_cases isThere : name ∈ more.names
  · rw [if_pos isThere, if_pos isThere, fetch]
  · rw [if_neg isThere, if_neg isThere, fetch]

theorem merge_self {entries : Entries String υ} (nodup : entries.names.Nodup) :
    entries.merge entries = entries := by
  apply eq_of_names_of_get? (nodup_names_merge nodup entries)
  · rw [names_merge _ nodup, List.filter_eq_nil_iff.mpr, List.append_nil]
    intro name isThere
    simpa using isThere
  · intro name
    rw [get?_merge _ nodup, ite_self]

/-- Of three lists, it does not matter which two are put together first. -/
theorem merge_assoc {first second third : Entries String υ} (nodup : first.names.Nodup)
    (nodupSecond : second.names.Nodup) (nodupThird : third.names.Nodup) :
    (first.merge second).merge third = first.merge (second.merge third) := by
  have nodupBehind := nodup_names_merge nodupSecond third
  apply eq_of_names_of_get?
  · exact nodup_names_merge (nodup_names_merge nodup second) third
  · rw [names_merge _ nodupThird, names_merge _ nodupSecond, names_merge _ nodupBehind,
      names_merge _ nodupThird, List.filter_append, List.filter_filter, List.append_assoc]
    congr 2
    apply List.filter_congr
    intro name _
    by_cases inFirst : name ∈ first.names
    · simp [inFirst]
    · simp [inFirst]
  · intro name
    rw [get?_merge _ nodupThird, get?_merge _ nodupSecond, get?_merge _ nodupBehind,
      get?_merge _ nodupThird, names_merge _ nodupThird]
    by_cases inThird : name ∈ third.names
    · simp [inThird]
    · simp [inThird]

end Entries

/-! ### Tables -/

namespace RouteTable

variable {α : Type}

/-- What a table with the entries of another one put behind it is: its names in their order, then
the other ones that are new in theirs, each of them for what the other table has under it if that
has the name, and for what it was for if not. -/
structure IsUnion (own other union : RouteTable α) : Prop where
  names_eq : union.names = own.names ++ other.names.filter fun name => name ∉ own.names
  get_eq : ∀ name, union.get name = if name ∈ other.names then other.get name else own.get name

namespace IsIndexed

variable {own other third : RouteTable α}

theorem exists_merge (isIndexed : own.IsIndexed) (other : RouteTable α) :
    ∃ union, own.merge other true = .ok union ∧ union.IsIndexed ∧
      union.entries = Entries.merge own.entries other.entries := by
  obtain ⟨unionIndexed, entries_eq⟩ := isIndexed.foldl_override other.entries
  exact ⟨_, rfl, unionIndexed, entries_eq⟩

theorem isUnion_of_merge (isIndexed : own.IsIndexed) (otherIndexed : other.IsIndexed)
    {union : RouteTable α} (merged : own.merge other true = .ok union) :
    own.IsUnion other union := by
  obtain ⟨union', merged', unionIndexed, entries_eq⟩ := isIndexed.exists_merge other
  obtain rfl := Except.ok.inj (merged.symm.trans merged')
  constructor
  · change Entries.names union.entries = _
    rw [entries_eq, Entries.names_merge _ otherIndexed.nodup]
    rfl
  · intro name
    rw [unionIndexed.get_eq, otherIndexed.get_eq, isIndexed.get_eq, entries_eq]
    exact Entries.fetch_merge _ otherIndexed.nodup name

theorem exists_merge_assoc (isIndexed : own.IsIndexed) (otherIndexed : other.IsIndexed)
    (thirdIndexed : third.IsIndexed) :
    ∃ front behind left right, own.merge other true = .ok front ∧
      front.merge third true = .ok left ∧ other.merge third true = .ok behind ∧
      own.merge behind true = .ok right ∧ left.entries = right.entries := by
  obtain ⟨front, isFront, frontIndexed, front_eq⟩ := isIndexed.exists_merge other
  obtain ⟨behind, isBehind, -, behind_eq⟩ := otherIndexed.exists_merge third
  obtain ⟨left, isLeft, -, left_eq⟩ := frontIndexed.exists_merge third
  obtain ⟨right, isRight, -, right_eq⟩ := isIndexed.exists_merge behind
  refine ⟨front, behind, left, right, isFront, isLeft, isBehind, isRight, ?_⟩
  rw [left_eq, right_eq, front_eq, behind_eq]
  exact Entries.merge_assoc isIndexed.nodup otherIndexed.nodup thirdIndexed.nodup

/-- Where names are refused, it is the first one that is taken; if none is, there is nothing to
override. -/
theorem merge_false (isIndexed : own.IsIndexed) (other : RouteTable α) :
    own.merge other false =
      match other.names.find? fun name => name ∈ own.names with
      | some name => .error (.mergedNameTaken name)
      | none => own.merge other true := by
  have sameQuestion : own.contains = fun name => decide (name ∈ own.names) := by
    funext name
    rw [Bool.eq_iff_iff, isIndexed.contains_eq, Entries.has_iff, decide_eq_true_iff]
    rfl
  unfold RouteTable.merge
  rw [sameQuestion]
  cases isTaken : other.names.find? fun name => decide (name ∈ own.names) <;> rfl

end IsIndexed

end RouteTable

end UrlRouting
