import UrlRouting.Proofs.Routing.Attributes
import UrlRouting.Proofs.Value.Keys

/-!
# Maps put over each other

A map with another one put over it leads where the other one does, and elsewhere where it has led
(`Entries.IsMap.get?_merge`).  Its keys stay in front, so that what comes of this can be put over it
once more and nothing changes (`Entries.IsMap.merge_merge`).
-/

namespace UrlRouting.Entries

section

variable {κ υ : Type} [BEq κ] {front behind : Entries κ υ} {key : κ}

theorem has_cons (first : κ × υ) (rest : Entries κ υ) (key : κ) :
    has (first :: rest) key = (first.1 == key || rest.has key) := rfl

theorem get?_of_has_eq_false {entries : Entries κ υ} (isNew : entries.has key = false) :
    entries.get? key = none := by
  rw [has, List.any_eq_false] at isNew
  rw [get?, List.find?_eq_none.mpr isNew]
  rfl

/-- A key keeps its place, or it comes last. -/
theorem map_fst_put (entries : Entries κ υ) (key : κ) (value : υ) :
    (entries.put key value).map Prod.fst =
      if entries.has key then entries.map Prod.fst else entries.map Prod.fst ++ [key] := by
  induction entries with
  | nil => rfl
  | cons first rest inductionHypothesis =>
      rw [put, has_cons]
      cases first.1 == key with
      | true => rfl
      | false =>
          rw [if_neg Bool.false_ne_true, List.map_cons, inductionHypothesis, Bool.false_or]
          split <;> rfl

theorem put_append (isNew : front.has key = false) (value : υ) :
    put key value (front ++ behind) = front ++ behind.put key value := by
  induction front with
  | nil => rfl
  | cons first rest inductionHypothesis =>
      rw [has_cons, Bool.or_eq_false_iff] at isNew
      rw [List.cons_append, put, isNew.1, inductionHypothesis isNew.2]
      rfl

/-- The keys that were there stay in front. -/
theorem isPrefix_merge (entries more : Entries κ υ) :
    entries.map Prod.fst <+: (entries.merge more).map Prod.fst := by
  induction more generalizing entries with
  | nil => exact List.prefix_refl _
  | cons first rest inductionHypothesis =>
      refine List.IsPrefix.trans ?_ (inductionHypothesis (entries.put first.1 first.2))
      rw [map_fst_put]
      split
      · exact List.prefix_refl _
      · exact List.prefix_append _ _

end

variable {υ : Type} {entries more front : Entries Value υ} {key asked : Value} {value : υ}

/-- What the values in front of each pair are compared by. -/
def keys (entries : Entries Value υ) : List Value.Key := (entries.map Prod.fst).map Value.key

/-- Whether the keys are kept as they should be and none of them comes twice. -/
structure IsMap (entries : Entries Value υ) : Prop where
  areKept : ∀ known ∈ entries.map Prod.fst, known.IsKept
  nodup : entries.keys.Nodup

namespace IsMap

theorem has_iff (isMap : entries.IsMap) (isKept : key.IsKept) :
    entries.has key = true ↔ key.key ∈ entries.keys := by
  rw [has, List.any_eq_true, keys, List.map_map, List.mem_map]
  exact exists_congr fun entry => and_congr_right fun inEntries =>
    Value.beq_iff (isMap.areKept entry.1 (List.mem_map_of_mem inEntries)) isKept

theorem cons_iff {first : Value × υ} : IsMap (first :: entries) ↔
    first.1.IsKept ∧ first.1.key ∉ entries.keys ∧ entries.IsMap := by
  constructor
  · rintro ⟨areKept, nodup⟩
    rw [List.map_cons, List.forall_mem_cons] at areKept
    rw [keys, List.map_cons, List.map_cons, List.nodup_cons] at nodup
    exact ⟨areKept.1, nodup.1, areKept.2, nodup.2⟩
  · rintro ⟨isKept, isNew, areKept, nodup⟩
    exact ⟨List.forall_mem_cons.mpr ⟨isKept, areKept⟩, List.nodup_cons.mpr ⟨isNew, nodup⟩⟩

theorem put (isMap : entries.IsMap) (isKept : key.IsKept) (value : υ) :
    (entries.put key value).IsMap := by
  constructor
  · rw [map_fst_put]
    split
    · exact isMap.areKept
    · exact List.forall_mem_append.mpr ⟨isMap.areKept, List.forall_mem_singleton.mpr isKept⟩
  · rw [keys, map_fst_put]
    split
    · exact isMap.nodup
    · next isNew =>
        rw [isMap.has_iff isKept] at isNew
        rw [List.map_append]
        exact isMap.nodup.append (List.nodup_singleton _) (List.disjoint_singleton.mpr isNew)

theorem get?_put (isMap : entries.IsMap) (isKept : key.IsKept) (isKept' : asked.IsKept)
    (value : υ) : (entries.put key value).get? asked =
      if key == asked then some value else entries.get? asked := by
  induction entries with
  | nil => rw [Entries.put, get?_cons]
  | cons first rest inductionHypothesis =>
      obtain ⟨isKeptFirst, -, isMapRest⟩ := cons_iff.mp isMap
      rw [Entries.put]
      split
      · next isFirst =>
          have sameKey : first.1.key = key.key := (Value.beq_iff isKeptFirst isKept).mp isFirst
          rw [get?_cons, get?_cons, Value.beq_eq_of_key_eq isKeptFirst isKept isKept' sameKey]
          split <;> rfl
      · next isOther =>
          rw [get?_cons, get?_cons, inductionHypothesis isMapRest]
          by_cases isAsked : (key == asked) = true
          · have sameKey : key.key = asked.key := (Value.beq_iff isKept isKept').mp isAsked
            rw [Value.beq_iff isKeptFirst isKept, sameKey,
              ← Value.beq_iff isKeptFirst isKept'] at isOther
            rw [if_neg isOther, if_pos isAsked, if_pos isAsked]
          · rw [if_neg isAsked, if_neg isAsked]

theorem merge (isMap : entries.IsMap) (isMap' : more.IsMap) : (entries.merge more).IsMap := by
  induction more generalizing entries with
  | nil => exact isMap
  | cons first rest inductionHypothesis =>
      obtain ⟨isKept, -, isMapRest⟩ := cons_iff.mp isMap'
      exact inductionHypothesis (isMap.put isKept first.2) isMapRest

/-- A key leads to what was put over, or else to what was there. -/
theorem get?_merge (isMap : entries.IsMap) (isMap' : more.IsMap) (isKept : asked.IsKept) :
    (entries.merge more).get? asked = (more.get? asked).or (entries.get? asked) := by
  induction more generalizing entries with
  | nil => rfl
  | cons first rest inductionHypothesis =>
      rcases first with ⟨key, value⟩
      obtain ⟨isKeptFirst, isNew, isMapRest⟩ := cons_iff.mp isMap'
      change Entries.get? (Entries.merge (entries.put key value) rest) asked = _
      rw [inductionHypothesis (isMap.put isKeptFirst value) isMapRest,
        isMap.get?_put isKeptFirst isKept, get?_cons]
      split
      · next isFirst =>
          have sameKey : key.key = asked.key := (Value.beq_iff isKeptFirst isKept).mp isFirst
          have isOnce : Entries.has rest asked = false := by
            rwa [← Bool.not_eq_true, isMapRest.has_iff isKept, ← sameKey]
          rw [get?_of_has_eq_false isOnce]
          rfl
      · rfl

theorem has_front {behind : Entries Value υ} (isMap : IsMap (front ++ (key, value) :: behind)) :
    front.has key = false := by
  have isKept : key.IsKept := isMap.areKept key (by simp)
  induction front with
  | nil => rfl
  | cons first rest inductionHypothesis =>
      obtain ⟨isKeptFirst, isNew, isMapRest⟩ := cons_iff.mp isMap
      have isOther : first.1.key ≠ key.key := fun same => isNew (same ▸ by simp [keys])
      rw [has_cons, Bool.or_eq_false_iff, ← Bool.not_eq_true, Value.beq_iff isKeptFirst isKept]
      exact ⟨isOther, inductionHypothesis isMapRest⟩

/-- A value for the first key, if there is one, takes the place of the first value. -/
theorem exists_put_eq {names : List Value} (isKept : key.IsKept)
    (isPrefix : entries.map Prod.fst <+: key :: names) (value : υ) :
    ∃ others : Entries Value υ, others.map Prod.fst <+: names ∧
      entries.put key value = (key, value) :: others := by
  cases entries with
  | nil => exact ⟨[], List.nil_prefix, rfl⟩
  | cons first others =>
      rcases first with ⟨known, old⟩
      obtain ⟨rfl, isPrefixRest⟩ := List.cons_prefix_cons.mp isPrefix
      refine ⟨others, isPrefixRest, ?_⟩
      rw [Entries.put, if_pos ((Value.beq_iff isKept isKept).mpr rfl)]

/-- What begins with the keys that are there takes the place of all. -/
theorem merge_of_isPrefix (isMap : IsMap (front ++ more))
    (isPrefix : entries.map Prod.fst <+: more.map Prod.fst) :
    Entries.merge (front ++ entries) more = front ++ more := by
  induction more generalizing front entries with
  | nil =>
      obtain rfl : entries = [] := by simpa using isPrefix
      rfl
  | cons first rest inductionHypothesis =>
      rcases first with ⟨key, value⟩
      have isMapRest : IsMap ((front ++ [(key, value)]) ++ rest) := by
        rwa [List.append_assoc, List.singleton_append]
      have isKept : key.IsKept := isMap.areKept key (by simp)
      obtain ⟨others, isPrefixRest, put_eq⟩ := exists_put_eq isKept isPrefix value
      change Entries.merge (Entries.put key value (front ++ entries)) rest = _
      rw [put_append isMap.has_front, put_eq]
      simpa using inductionHypothesis isMapRest isPrefixRest

/-- What has been put over is there already. -/
theorem merge_merge (isMap : entries.IsMap) (isMap' : more.IsMap) :
    entries.merge (entries.merge more) = entries.merge more :=
  @merge_of_isPrefix _ entries _ [] (isMap.merge isMap') (isPrefix_merge entries more)

end IsMap

end UrlRouting.Entries
