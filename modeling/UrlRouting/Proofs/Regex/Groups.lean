import UrlRouting.Proofs.Regex.Language
import UrlRouting.Regex.Progress

/-!
# Groups inside a bracket

The groups of a text that is read inside a bracket go on from those before the bracket: their
numbers are larger by the count of these, and no name comes twice (`Regex.Groups.Continues`).
-/

namespace UrlRouting

/-! ### Values under names and numbers -/

theorem lookup_cons_of_ne {α β : Type} [BEq β] [LawfulBEq β] {key other : β}
    (different : key ≠ other) (value : α) (rest : List (β × α)) :
    ((other, value) :: rest).lookup key = rest.lookup key := by
  rw [List.lookup_cons, beq_eq_false_iff_ne.mpr different]

/-- Where no name comes twice, every pair is found under its name. -/
theorem lookup_of_mem {α : Type} {entries : List (String × α)} (nodup : (entries.map (·.1)).Nodup)
    {name : String} {value : α} (membership : (name, value) ∈ entries) :
    entries.lookup name = some value := by
  induction entries with
  | nil => simp at membership
  | cons first rest inductionHypothesis =>
      rcases first with ⟨other, otherValue⟩
      obtain ⟨fresh, nodupRest⟩ := List.nodup_cons.mp nodup
      rcases List.mem_cons.mp membership with same | inRest
      · injection same with same sameValue
        rw [same, sameValue, List.lookup_cons_self]
      · have different : name ≠ other := by
          rintro rfl
          exact fresh (List.mem_map_of_mem (f := (·.1)) inRest)
        rw [lookup_cons_of_ne different]
        exact inductionHypothesis nodupRest inRest

theorem mem_of_lookup {α : Type} {entries : List (String × α)} {name : String} {value : α}
    (found : entries.lookup name = some value) : (name, value) ∈ entries := by
  obtain ⟨front, rest, rfl, -⟩ := List.lookup_eq_some_iff.mp found
  simp

/-- A name that was not taken can be added. -/
theorem nodup_append_of_lookup {α : Type} {entries : List (String × α)}
    (nodup : (entries.map (·.1)).Nodup) {name : String} (fresh : entries.lookup name = none)
    (value : α) : ((entries ++ [(name, value)]).map (·.1)).Nodup := by
  rw [List.map_append, List.map_singleton, ← List.concat_eq_append, List.nodup_concat]
  refine ⟨?_, nodup⟩
  intro taken
  obtain ⟨entry, membership, same⟩ := List.mem_map.mp taken
  have different := List.lookup_eq_none_iff.mp fresh entry membership
  simp [same] at different

/-- What stands under a number in one list stands in another one `offset` further on. -/
def CountOn {α : Type} (offset : Nat) (entries entries' : List (Nat × α)) : Prop :=
  ∀ number, 0 < number → entries'.lookup (number + offset) = entries.lookup number

theorem CountOn.cons {α : Type} {offset : Nat} {entries entries' : List (Nat × α)}
    (countOn : CountOn offset entries entries') (number : Nat) (value : α) :
    CountOn offset ((number, value) :: entries) ((number + offset, value) :: entries') := by
  intro other positive
  by_cases same : other = number
  · rw [same, List.lookup_cons_self, List.lookup_cons_self]
  · have different : other + offset ≠ number + offset := by omega
    rw [lookup_cons_of_ne same, lookup_cons_of_ne different]
    exact countOn other positive

namespace Regex

@[simp]
theorem Groups.close_count (groups : Groups) (frame : Frame) :
    (groups.close frame).count = groups.count := by
  unfold Groups.close
  split <;> rfl

@[simp]
theorem Groups.close_names (groups : Groups) (frame : Frame) :
    (groups.close frame).names = groups.names := by
  unfold Groups.close
  split <;> rfl

/-- Only the bracket of a group adds a width. -/
theorem Groups.close_widths (groups : Groups) (frame : Frame) :
    (groups.close frame).widths =
      match frame.opening with
      | .capture number => (number, frame.body.width groups.widths) :: groups.widths
      | _ => groups.widths := by
  rcases frame with ⟨opening, start, flags, choices, items⟩
  cases opening with
  | lookbehind positive outermost => cases outermost <;> rfl
  | _ => rfl

/-- Only groups that have been counted are closed. -/
def Groups.IsBounded (groups : Groups) : Prop :=
  ∀ number, groups.count < number → groups.widths.lookup number = Option.none

theorem Groups.IsBounded.mono {groups groups' : Groups} (bounded : groups.IsBounded)
    (le : groups.count ≤ groups'.count) (widths_eq : groups'.widths = groups.widths) :
    groups'.IsBounded := by
  intro number isBeyond
  rw [widths_eq]
  exact bounded number (le.trans_lt isBeyond)

theorem Groups.IsBounded.close {groups : Groups} {frame : Frame} (bounded : groups.IsBounded)
    (le : ∀ number, frame.opening = .capture number → number ≤ groups.count) :
    (groups.close frame).IsBounded := by
  intro number isBeyond
  rw [close_count] at isBeyond
  rw [close_widths]
  split
  · next closing isCapture =>
      have different : number ≠ closing := by
        have := le closing isCapture
        omega
      rw [lookup_cons_of_ne different]
      exact bounded number isBeyond
  · exact bounded number isBeyond

/-- Groups of a text alone and inside a bracket, with those outside of the bracket. -/
structure Groups.Continues (outside alone inside : Groups) : Prop where
  count : inside.count = alone.count + outside.count
  names : inside.names = outside.names ++
    alone.names.map fun (name, number) => (name, number + outside.count)
  nodup : (inside.names.map (·.1)).Nodup
  positive : ∀ entry ∈ alone.names, 0 < entry.2

namespace Groups.Continues

variable {outside alone inside : Groups}

theorem start (nodup : (outside.names.map (·.1)).Nodup) : Continues outside .none outside :=
  ⟨by simp [Groups.none], by simp [Groups.none], nodup, by simp [Groups.none]⟩

/-- Only the number of groups and their names matter. -/
theorem congr {alone' inside' : Groups} (continues : Continues outside alone inside)
    (count : alone'.count = alone.count) (names : alone'.names = alone.names)
    (count' : inside'.count = inside.count) (names' : inside'.names = inside.names) :
    Continues outside alone' inside' := by
  refine ⟨?_, ?_, ?_, ?_⟩
  · rw [count', count, continues.count]
  · rw [names', names, continues.names]
  · rw [names']
    exact continues.nodup
  · rw [names]
    exact continues.positive

theorem close (continues : Continues outside alone inside) (frame frame' : Frame) :
    Continues outside (alone.close frame) (inside.close frame') :=
  continues.congr (close_count ..) (close_names ..) (close_count ..) (close_names ..)

/-- A group without a name. -/
theorem unnamed (continues : Continues outside alone inside) :
    Continues outside { alone with count := alone.count + 1 }
      { inside with count := inside.count + 1 } := by
  refine ⟨?_, continues.names, continues.nodup, continues.positive⟩
  simp only [continues.count]
  omega

/-- A group whose name is not taken. -/
theorem named (continues : Continues outside alone inside) {name : String}
    (fresh : inside.names.lookup name = Option.none) :
    Continues outside
      { alone with
        count := alone.count + 1
        names := alone.names ++ [(name, alone.count + 1)] }
      { inside with
        count := inside.count + 1
        names := inside.names ++ [(name, inside.count + 1)] } := by
  refine ⟨?_, ?_, ?_, ?_⟩
  · simp only [continues.count]
    omega
  · have count : inside.count + 1 = alone.count + 1 + outside.count := by
      rw [continues.count]
      omega
    simp [continues.names, count]
  · exact nodup_append_of_lookup continues.nodup fresh _
  · intro entry membership
    rcases List.mem_append.mp membership with earlier | isLast
    · exact continues.positive entry earlier
    · rw [List.mem_singleton.mp isLast]
      exact Nat.succ_pos _

/-- What is found under a name alone is found inside under the same name, and counts on. -/
theorem refers (continues : Continues outside alone inside) {name : String} {number number' : Nat}
    (known : alone.names.lookup name = some number)
    (known' : inside.names.lookup name = some number') :
    0 < number ∧ number' = number + outside.count := by
  have inside_eq : inside.names.lookup name = some (number + outside.count) := by
    apply lookup_of_mem continues.nodup
    rw [continues.names]
    exact List.mem_append_right _ (List.mem_map.mpr ⟨_, mem_of_lookup known, rfl⟩)
  rw [inside_eq, Option.some.injEq] at known'
  exact ⟨continues.positive _ (mem_of_lookup known), known'.symm⟩

end Groups.Continues

end Regex

end UrlRouting
