import Mathlib
import UrlRouting.Declaration

/-!
# Tables as lists

A table answers as the plain list of its entries does, and it changes as this list does, as long as
its index has exactly the position of each name (`RouteTable.IsIndexed`); and every change keeps the
index so.
-/

namespace UrlRouting

/-! ### Named entries in order -/

namespace Entries

variable {υ : Type}

def names (entries : Entries String υ) : List String := entries.map (·.1)

/-- The value under a name. -/
def fetch (entries : Entries String υ) (name : String) : Except Failure υ :=
  match entries.get? name with
  | some found => .ok found
  | none => .error (.unknownName name)

/-- Puts a pair at the end, if its name is not taken. -/
def add (entries : Entries String υ) (name : String) (value : υ) :
    Except Failure (Entries String υ) :=
  if entries.has name then .error (.nameTaken name) else .ok (entries ++ [(name, value)])

/-- The other pairs, in their order. -/
def without (entries : Entries String υ) (name : String) : Entries String υ :=
  entries.eraseP fun (known, _) => known == name

/-- Puts other pairs behind, one after another; a name that is taken is refused before the first of
them, or it keeps its place. -/
def union (entries other : Entries String υ) (overriding : Bool) :
    Except Failure (Entries String υ) :=
  match if overriding then none else other.names.find? entries.has with
  | some name => .error (.mergedNameTaken name)
  | none => .ok (entries.merge other)

/-- Renames each pair in its place. -/
def prefixed (entries : Entries String υ) (front : String) : Entries String υ :=
  entries.map fun (name, value) => (front ++ name, value)

theorem has_iff (entries : Entries String υ) (name : String) :
    entries.has name = true ↔ name ∈ entries.names := by
  unfold has names
  rw [List.any_eq_true, List.mem_map]
  simp only [beq_iff_eq]

theorem has_eq_false_iff (entries : Entries String υ) (name : String) :
    entries.has name = false ↔ name ∉ entries.names := by
  rw [← has_iff, Bool.not_eq_true]

/-- A list falls apart at the position of a name. -/
theorem exists_split {entries : Entries String υ} {name : String} {position : Nat}
    (stands : entries.names[position]? = some name) :
    ∃ front value rest, entries = front ++ (name, value) :: rest ∧ front.length = position := by
  induction entries generalizing position with
  | nil => simp [names] at stands
  | cons first rest inductionHypothesis =>
      cases position with
      | zero =>
          obtain rfl : first.1 = name := by simpa [names] using stands
          exact ⟨[], first.2, rest, rfl, rfl⟩
      | succ position =>
          have standsInRest : (Entries.names rest)[position]? = some name := by
            simpa [names] using stands
          obtain ⟨front, value, behind, rest_eq, length_eq⟩ := inductionHypothesis standsInRest
          exact ⟨first :: front, value, behind, by rw [rest_eq]; rfl, by simp [length_eq]⟩

theorem put_of_not_mem {entries : Entries String υ} {name : String}
    (fresh : name ∉ entries.names) (value : υ) :
    entries.put name value = entries ++ [(name, value)] := by
  induction entries with
  | nil => rfl
  | cons first rest inductionHypothesis =>
      obtain ⟨different, freshRest⟩ : name ≠ first.1 ∧ name ∉ names rest := by
        simpa [names] using fresh
      rw [put, if_neg (by simpa using Ne.symm different), inductionHypothesis freshRest]
      rfl

/-- Pairs whose names are all different are the pairs of a map as they are. -/
theorem merge_of_nodup (entries : Entries String υ) {more : List (String × υ)}
    (nodup : (entries.names ++ names more).Nodup) : entries.merge more = entries ++ more := by
  induction more generalizing entries with
  | nil => exact (List.append_nil entries).symm
  | cons first rest inductionHypothesis =>
      have fresh : first.1 ∉ entries.names := fun isBefore =>
        (List.nodup_append.mp nodup).2.2 _ isBefore _ (List.mem_cons_self ..) rfl
      change merge (entries.put first.1 first.2) rest = _
      rw [put_of_not_mem fresh, inductionHypothesis, List.append_assoc]
      · rfl
      · rwa [names, List.map_append, List.append_assoc]

section Split

variable {front rest : Entries String υ} {name : String}

theorem get?_split (fresh : name ∉ front.names) (value : υ) :
    get? (front ++ (name, value) :: rest) name = some value := by
  have absent : front.find? (fun (known, _) => known == name) = none := by
    rw [List.find?_eq_none]
    rintro ⟨known, old⟩ membership isName
    exact fresh (List.mem_map.mpr ⟨_, membership, eq_of_beq isName⟩)
  unfold get?
  rw [List.find?_append, absent]
  simp

theorem without_split (fresh : name ∉ front.names) (value : υ) :
    without (front ++ (name, value) :: rest) name = front ++ rest := by
  unfold without
  rw [List.eraseP_append_right]
  · simp
  · rintro ⟨known, old⟩ membership isName
    exact fresh (List.mem_map.mpr ⟨_, membership, eq_of_beq isName⟩)

theorem put_split (fresh : name ∉ front.names) (old value : υ) :
    put name value (front ++ (name, old) :: rest) = front ++ (name, value) :: rest := by
  induction front with
  | nil => simp [put]
  | cons first front inductionHypothesis =>
      obtain ⟨different, freshFront⟩ : name ≠ first.1 ∧ name ∉ names front := by
        simpa [names] using fresh
      rw [List.cons_append, put, if_neg (by simpa using Ne.symm different),
        inductionHypothesis freshFront]
      rfl

end Split

end Entries

/-! ### The index -/

namespace RouteTable

variable {α : Type}

/-- No name comes twice, and the index has the position of each name and nothing else. -/
structure IsIndexed (table : RouteTable α) : Prop where
  nodup : table.names.Nodup
  position_iff : ∀ (name : String) (position : Nat),
    table.positions[name]? = some position ↔ table.names[position]? = some name

/-- A change of a table that gives what the change of the list of its entries gives. -/
inductive IsListed : Except Failure (RouteTable α) → Except Failure (Entries String α) → Prop where
  | ok {table : RouteTable α} (isIndexed : table.IsIndexed) :
      IsListed (.ok table) (.ok table.entries)
  | error (failure : Failure) : IsListed (.error failure) (.error failure)

theorem IsListed.eq_ok_iff {result : Except Failure (RouteTable α)}
    {listed : Except Failure (Entries String α)} (isListed : IsListed result listed)
    {entries : Entries String α} :
    (∃ table, result = .ok table ∧ table.IsIndexed ∧ table.entries = entries) ↔
      listed = .ok entries := by
  cases isListed with
  | ok isIndexed => simp [isIndexed]
  | error failure => simp

theorem IsListed.eq_error_iff {result : Except Failure (RouteTable α)}
    {listed : Except Failure (Entries String α)} (isListed : IsListed result listed)
    {failure : Failure} : result = .error failure ↔ listed = .error failure := by
  cases isListed <;> simp

theorem getElem?_insert (positions : Std.TreeMap String Nat) (name other : String)
    (position : Nat) :
    (positions.insert name position)[other]? =
      if name = other then some position else positions[other]? := by
  rw [Std.TreeMap.getElem?_insert]
  simp only [Std.LawfulEqCmp.compare_eq_iff_eq]

theorem getElem?_positionsFrom {entries : List (String × α)}
    (nodup : (entries.map (·.1)).Nodup) (start : Nat) (name : String) (position : Nat) :
    (positionsFrom start entries)[name]? = some position ↔
      start ≤ position ∧ (entries.map (·.1))[position - start]? = some name := by
  induction entries generalizing start with
  | nil => simp [positionsFrom]
  | cons first rest inductionHypothesis =>
      rw [List.map_cons, List.nodup_cons] at nodup
      rw [positionsFrom, getElem?_insert]
      by_cases isFirst : first.1 = name
      · subst isFirst
        simp only [if_true, Option.some.injEq]
        constructor
        · rintro rfl
          simp
        · rintro ⟨isBehind, stands⟩
          cases difference : position - start with
          | zero => omega
          | succ index =>
              rw [difference, List.map_cons, List.getElem?_cons_succ] at stands
              exact absurd (List.mem_of_getElem? stands) nodup.1
      · rw [if_neg isFirst, inductionHypothesis nodup.2]
        constructor
        · rintro ⟨isBehind, stands⟩
          obtain ⟨index, rfl⟩ := Nat.exists_eq_add_of_le isBehind
          refine ⟨by omega, ?_⟩
          rw [show start + 1 + index - start = index + 1 by omega, List.map_cons,
            List.getElem?_cons_succ]
          rwa [show start + 1 + index - (start + 1) = index by omega] at stands
        · rintro ⟨isBehind, stands⟩
          cases difference : position - start with
          | zero =>
              rw [difference] at stands
              exact absurd (by simpa using stands) isFirst
          | succ index =>
              rw [difference, List.map_cons, List.getElem?_cons_succ] at stands
              refine ⟨by omega, ?_⟩
              rwa [show position - (start + 1) = index by omega]

theorem isIndexed_ofEntries {entries : List (String × α)} (nodup : (entries.map (·.1)).Nodup) :
    (ofEntries entries).IsIndexed where
  nodup := nodup
  position_iff name position := by
    change (positionsFrom 0 entries)[name]? = _ ↔ (entries.map (·.1))[position]? = _
    rw [getElem?_positionsFrom nodup, Nat.sub_zero]
    exact and_iff_right (Nat.zero_le position)

theorem isIndexed_empty : (empty : RouteTable α).IsIndexed :=
  isIndexed_ofEntries List.nodup_nil

namespace IsIndexed

variable {table : RouteTable α}

theorem contains_eq (isIndexed : table.IsIndexed) (name : String) :
    table.contains name = Entries.has table.entries name := by
  rw [Bool.eq_iff_iff, Entries.has_iff, contains, Std.TreeMap.contains_iff_mem,
    Std.TreeMap.mem_iff_isSome_getElem?, Option.isSome_iff_exists]
  simp only [isIndexed.position_iff]
  exact List.mem_iff_getElem?.symm

theorem positions_eq_none_iff (isIndexed : table.IsIndexed) (name : String) :
    table.positions[name]? = none ↔ name ∉ table.names := by
  rw [List.mem_iff_getElem?, Option.eq_none_iff_forall_ne_some]
  simp only [ne_eq, isIndexed.position_iff, not_exists]

/-- A name that is taken divides the entries. -/
theorem exists_split (isIndexed : table.IsIndexed) {name : String} {position : Nat}
    (stands : table.positions[name]? = some position) :
    ∃ front value rest, table.entries = front ++ (name, value) :: rest ∧
      front.length = position ∧ name ∉ Entries.names front := by
  obtain ⟨front, value, rest, entries_eq, length_eq⟩ :=
    Entries.exists_split ((isIndexed.position_iff name position).mp stands)
  refine ⟨front, value, rest, entries_eq, length_eq, ?_⟩
  have nodup := isIndexed.nodup
  rw [RouteTable.names, entries_eq, List.map_append, List.nodup_append] at nodup
  exact fun isBefore => nodup.2.2 name isBefore name (List.mem_cons_self ..) rfl

theorem get?_eq (isIndexed : table.IsIndexed) (name : String) :
    table.get? name = Entries.get? table.entries name := by
  unfold RouteTable.get?
  cases stands : table.positions[name]? with
  | none =>
      have absent := (isIndexed.positions_eq_none_iff name).mp stands
      have notFound : table.entries.find? (fun (known, _) => known == name) = none := by
        rw [List.find?_eq_none]
        rintro ⟨known, old⟩ membership isName
        exact absent (List.mem_map.mpr ⟨_, membership, eq_of_beq isName⟩)
      rw [Entries.get?, notFound]
      rfl
  | some position =>
      obtain ⟨front, value, rest, entries_eq, rfl, fresh⟩ := isIndexed.exists_split stands
      rw [entries_eq, Entries.get?_split fresh]
      simp

theorem get_eq (isIndexed : table.IsIndexed) (name : String) :
    table.get name = Entries.fetch table.entries name := by
  cases found : Entries.get? table.entries name <;>
    rw [RouteTable.get, isIndexed.get?_eq, Entries.fetch, found]

theorem append (isIndexed : table.IsIndexed) {name : String} (fresh : name ∉ table.names)
    (value : α) : (table.append name value).IsIndexed where
  nodup := by
    change ((table.entries ++ [(name, value)]).map (·.1)).Nodup
    rw [List.map_append]
    exact isIndexed.nodup.append (List.nodup_singleton name)
      (List.disjoint_singleton.mpr fresh)
  position_iff other position := by
    change (table.positions.insert name table.size)[other]? = _ ↔
      ((table.entries ++ [(name, value)]).map (·.1))[position]? = _
    have length_eq : (table.entries.map (·.1)).length = table.size := List.length_map ..
    rw [getElem?_insert, List.map_append, List.getElem?_append, length_eq]
    by_cases isName : name = other
    · subst isName
      rw [if_pos rfl, Option.some.injEq]
      constructor
      · rintro rfl
        simp
      · intro stands
        split at stands
        · exact absurd (List.mem_of_getElem? stands) fresh
        · rename_i isBehind
          cases difference : position - table.size with
          | zero => omega
          | succ index => simp [difference] at stands
    · rw [if_neg isName, isIndexed.position_iff]
      split
      · exact Iff.rfl
      · rename_i isBehind
        have absent : table.names[position]? = none := by
          rw [List.getElem?_eq_none_iff]
          exact (Nat.le_of_not_lt isBehind).trans' length_eq.le
        rw [absent]
        cases position - table.size <;> simp [isName]

theorem add (isIndexed : table.IsIndexed) (name : String) (value : α) :
    IsListed (table.add name value) (Entries.add table.entries name value) := by
  rw [RouteTable.add, Entries.add, isIndexed.contains_eq]
  split
  · exact .error _
  · rename_i isFresh
    exact .ok (isIndexed.append (mt (Entries.has_iff _ name).mpr isFresh) value)

theorem remove_eq (isIndexed : table.IsIndexed) (name : String) :
    (table.remove name).1 = Entries.has table.entries name ∧
      (table.remove name).2.entries = Entries.without table.entries name := by
  unfold RouteTable.remove
  cases stands : table.positions[name]? with
  | none =>
      have absent := (isIndexed.positions_eq_none_iff name).mp stands
      refine ⟨((Entries.has_eq_false_iff _ name).mpr absent).symm, ?_⟩
      refine (List.eraseP_of_forall_not ?_).symm
      rintro ⟨known, old⟩ membership isName
      exact absent (List.mem_map.mpr ⟨_, membership, eq_of_beq isName⟩)
  | some position =>
      obtain ⟨front, value, rest, entries_eq, rfl, fresh⟩ := isIndexed.exists_split stands
      refine ⟨?_, ?_⟩
      · refine ((Entries.has_iff _ name).mpr ?_).symm
        exact List.mem_of_getElem? ((isIndexed.position_iff name _).mp stands)
      · change table.entries.eraseIdx front.length = _
        rw [entries_eq, Entries.without_split fresh, List.eraseIdx_append_of_length_le le_rfl]
        simp

theorem remove (isIndexed : table.IsIndexed) (name : String) :
    (table.remove name).2.IsIndexed := by
  unfold RouteTable.remove
  cases table.positions[name]? with
  | none => exact isIndexed
  | some position =>
      refine isIndexed_ofEntries (isIndexed.nodup.sublist ?_)
      exact (List.eraseIdx_sublist table.entries position).map _

/-- A table without a name is left as it is when this name is removed. -/
theorem remove_of_not_mem (isIndexed : table.IsIndexed) {name : String}
    (absent : name ∉ table.names) : table.remove name = (false, table) := by
  unfold RouteTable.remove
  rw [(isIndexed.positions_eq_none_iff name).mpr absent]

theorem override_eq (isIndexed : table.IsIndexed) (name : String) (value : α) :
    (table.override name value).entries = Entries.put name value table.entries := by
  unfold RouteTable.override
  cases stands : table.positions[name]? with
  | none =>
      have absent := (isIndexed.positions_eq_none_iff name).mp stands
      exact (Entries.put_of_not_mem absent value).symm
  | some position =>
      obtain ⟨front, old, rest, entries_eq, rfl, fresh⟩ := isIndexed.exists_split stands
      change table.entries.set front.length _ = _
      rw [entries_eq, Entries.put_split fresh]
      simp

theorem override (isIndexed : table.IsIndexed) (name : String) (value : α) :
    (table.override name value).IsIndexed := by
  unfold RouteTable.override
  cases stands : table.positions[name]? with
  | none => exact isIndexed.append ((isIndexed.positions_eq_none_iff name).mp stands) value
  | some position =>
      have sameNames : (table.entries.set position (name, value)).map (·.1) = table.names := by
        rw [List.map_set]
        have isName := (isIndexed.position_iff name position).mp stands
        obtain ⟨inBounds, name_eq⟩ := List.getElem?_eq_some_iff.mp isName
        refine (congrArg _ name_eq.symm).trans ?_
        exact List.set_getElem_self inBounds
      constructor
      · change ((table.entries.set position (name, value)).map (·.1)).Nodup
        rw [sameNames]
        exact isIndexed.nodup
      · intro other place
        change table.positions[other]? = _ ↔
          ((table.entries.set position (name, value)).map (·.1))[place]? = _
        rw [sameNames]
        exact isIndexed.position_iff other place

theorem foldl_override (isIndexed : table.IsIndexed) (other : List (String × α)) :
    let merged := other.foldl (fun table (name, value) => table.override name value) table
    merged.IsIndexed ∧ merged.entries = Entries.merge table.entries other := by
  induction other generalizing table with
  | nil => exact ⟨isIndexed, rfl⟩
  | cons first rest inductionHypothesis =>
      have step := inductionHypothesis (isIndexed.override first.1 first.2)
      rw [isIndexed.override_eq] at step
      exact step

theorem merge (isIndexed : table.IsIndexed) (other : RouteTable α) (overriding : Bool) :
    IsListed (table.merge other overriding)
      (Entries.union table.entries other.entries overriding) := by
  have sameQuestion : table.contains = Entries.has table.entries := funext isIndexed.contains_eq
  have sameNames : other.names = Entries.names other.entries := rfl
  unfold RouteTable.merge Entries.union
  rw [sameQuestion, sameNames]
  cases if overriding then none
    else (Entries.names other.entries).find? (Entries.has table.entries) with
  | some name => exact .error _
  | none =>
      obtain ⟨mergedIndexed, entries_eq⟩ := isIndexed.foldl_override other.entries
      exact entries_eq ▸ .ok mergedIndexed

theorem prefixNames_eq (table : RouteTable α) (front : String) :
    (table.prefixNames front).entries = Entries.prefixed table.entries front := by
  unfold RouteTable.prefixNames
  split
  · rename_i isEmpty
    obtain rfl : front = "" := String.isEmpty_iff.mp isEmpty
    simp [Entries.prefixed]
  · rfl

theorem prefixNames (isIndexed : table.IsIndexed) (front : String) :
    (table.prefixNames front).IsIndexed := by
  unfold RouteTable.prefixNames
  split
  · exact isIndexed
  · refine isIndexed_ofEntries ?_
    have renamed : (table.entries.map fun (name, value) => (front ++ name, value)).map (·.1) =
        table.names.map (front ++ ·) := by
      simp [RouteTable.names]
    rw [renamed]
    exact isIndexed.nodup.map fun first second same => by simpa using same

end IsIndexed

end RouteTable

end UrlRouting
