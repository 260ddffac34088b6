import UrlRouting.Proofs.Template.PathLanguage

/-!
# The groups of variables

What the group of a variable is hangs on the variables before it and on the sources, but not on
which variables may be left out (`Slot.ArePlaced.filter_eq`).  So an expression of a template takes
the texts that one of its forms describes, written with groups that are the same for all of them
(`CompiledTemplate.IsAssembled.mem_ways_iff`, `CompiledTemplate.exists_placements`).
-/

namespace UrlRouting

open Regex

/-! ### Slots in order -/

namespace Slot

variable {sources : String → String} {before after after' : Groups} {slots slots' : List Slot}
  {finals finals' : List Progress}

/-- The first group is what its source becomes behind the groups before. -/
theorem ArePlaced.exists_of_filter_eq_cons (placed : ArePlaced sources before slots finals after)
    {slot : Slot} {rest : List Slot} (first : slots.filter isVariable = slot :: rest) :
    ∃ name converter final others moreFinals,
      slot = .group name converter (before.count + 1) final.frame.body ∧
      finals = final :: moreFinals ∧ before.Allows name ∧
      IsBracketed (before.named name) (before.count + 1) (sources name) final ∧
      ArePlaced sources (final.groups.close final.frame).bare others moreFinals after ∧
      others.filter isVariable = rest := by
  induction placed with
  | nil => simp at first
  | literal text _ inductionHypothesis =>
      exact inductionHypothesis first
  | @group before after others finals name converter final allows bracketed placedRest _ =>
      obtain ⟨rfl, rfl⟩ := List.cons.inj first
      exact ⟨name, converter, final, others, finals, rfl, rfl, allows, bracketed, placedRest, rfl⟩

/-- The same variables have the same groups, whatever the literals between them. -/
theorem ArePlaced.filter_eq (placed : ArePlaced sources before slots finals after)
    (placed' : ArePlaced sources before slots' finals' after')
    (same : (slots.filter isVariable).map segment = (slots'.filter isVariable).map segment) :
    slots.filter isVariable = slots'.filter isVariable := by
  induction placed generalizing slots' finals' with
  | nil => exact (List.map_eq_nil_iff.mp same.symm).symm
  | literal text _ inductionHypothesis => exact inductionHypothesis placed' same
  | @group before after others finals name converter final _ bracketed _ inductionHypothesis =>
      obtain ⟨slot, rest, first', isSegment, sameRest⟩ := List.map_eq_cons_iff.mp same.symm
      obtain ⟨name', converter', final', others', moreFinals', rfl, -, -, bracketed', placedRest',
        rfl⟩ := placed'.exists_of_filter_eq_cons first'
      obtain ⟨rfl, rfl⟩ : name' = name ∧ converter' = converter := by
        simpa [segment] using isSegment
      obtain rfl := bracketed.unique bracketed'
      rw [first', ← inductionHypothesis placedRest' sameRest.symm]
      rfl

theorem ArePlaced.eq_of_filter_eq_nil (placed : ArePlaced sources before slots finals after)
    (none : slots.filter isVariable = []) : finals = [] ∧ after = before := by
  induction placed with
  | nil => exact ⟨rfl, rfl⟩
  | literal text _ inductionHypothesis => exact inductionHypothesis none
  | group => simp [isVariable, segment, Segment.isVariable, Segment.variableName?] at none

/-- Other literals can be put between the same variables. -/
theorem ArePlaced.exists_of_segments (placed : ArePlaced sources before slots finals after)
    {segments : List Segment}
    (same : (slots.filter isVariable).map segment = segments.filter Segment.isVariable) :
    ∃ slots', slots'.map segment = segments ∧ ArePlaced sources before slots' finals after := by
  induction segments generalizing before slots finals with
  | nil =>
      obtain ⟨rfl, rfl⟩ := placed.eq_of_filter_eq_nil (List.map_eq_nil_iff.mp same)
      exact ⟨[], rfl, .nil _⟩
  | cons first rest inductionHypothesis =>
      cases first with
      | literal text =>
          obtain ⟨slots', segments_eq, placed'⟩ := inductionHypothesis placed same
          exact ⟨.literal text :: slots', by rw [List.map_cons, segments_eq]; rfl,
            .literal text placed'⟩
      | var name converter =>
          obtain ⟨slot, others, isFirst, isSegment, sameRest⟩ := List.map_eq_cons_iff.mp same
          obtain ⟨name', converter', final, others', moreFinals, rfl, rfl, allows, bracketed,
            placedRest, rfl⟩ := placed.exists_of_filter_eq_cons isFirst
          obtain ⟨rfl, rfl⟩ : name' = name ∧ converter' = converter := by
            simpa [segment] using isSegment
          obtain ⟨slots', segments_eq, placed'⟩ := inductionHypothesis placedRest sameRest
          exact ⟨.group name' converter' (before.count + 1) final.frame.body :: slots',
            by rw [List.map_cons, segments_eq]; rfl, .group converter' allows bracketed placed'⟩

/-- The trees that a segment is read to, when `place` tells the groups of the variables. -/
def segmentTrees (place : String → Nat × Regex) : Segment → List Regex
  | .literal text => text.toList.map charTree
  | .var name _ => [.group (place name).1 (place name).2]

/-- Slots that have the groups that `place` tells. -/
def FollowPlaces (place : String → Nat × Regex) (slots : List Slot) : Prop :=
  ∀ slot ∈ slots, slot.trees = segmentTrees place slot.segment

def placed? : Slot → Option (String × Nat × Regex)
  | literal _ => none
  | group name _ number body => some (name, number, body)

theorem exists_followPlaces
    (nodup : ((slots.map segment).filterMap (·.variableName?)).Nodup) :
    ∃ place, FollowPlaces place slots := by
  refine ⟨fun name => ((slots.filterMap placed?).lookup name).getD (0, .empty), ?_⟩
  intro slot membership
  cases slot with
  | literal text => rfl
  | group name converter number body =>
      have names_eq : (slots.filterMap placed?).map (·.1) =
          (slots.map segment).filterMap (·.variableName?) :=
        map_fst_filterMap (fun slot => by cases slot <;> rfl) slots
      have found : (slots.filterMap placed?).lookup name = some (number, body) := by
        apply lookup_of_mem (names_eq ▸ nodup)
        exact List.mem_filterMap.mpr ⟨_, membership, rfl⟩
      simp [segmentTrees, segment, trees, found]

theorem FollowPlaces.of_filter_eq {place : String → Nat × Regex}
    (follow : FollowPlaces place slots)
    (same : slots.filter isVariable = slots'.filter isVariable) : FollowPlaces place slots' := by
  intro slot membership
  cases slot with
  | literal text => rfl
  | group name converter number body =>
      have inFilter : .group name converter number body ∈ slots'.filter isVariable :=
        List.mem_filter.mpr ⟨membership, rfl⟩
      rw [← same] at inFilter
      exact follow _ (List.mem_of_mem_filter inFilter)

theorem eq_literal_of_segment {slot : Slot} {text : String}
    (isLiteral : slot.segment = .literal text) : slot = .literal text := by
  cases slot <;> simp_all [segment]

theorem eq_of_segment {slot slot' : Slot} (same : slot.segment = slot'.segment)
    (sameTrees : slot.trees = slot'.trees) : slot = slot' := by
  cases slot <;> cases slot' <;> simp_all [segment, trees]

/-- Slots are told by their segments and the places of these. -/
theorem FollowPlaces.eq_of_map_segment {place : String → Nat × Regex}
    (follow : FollowPlaces place slots) (follow' : FollowPlaces place slots')
    (same : slots.map segment = slots'.map segment) : slots = slots' := by
  induction slots generalizing slots' with
  | nil => exact (List.map_eq_nil_iff.mp same.symm).symm
  | cons slot rest inductionHypothesis =>
      obtain ⟨slot', rest', rfl, isSegment, sameRest⟩ := List.map_eq_cons_iff.mp same.symm
      obtain ⟨followSlot, followRest⟩ := List.forall_mem_cons.mp follow
      obtain ⟨followSlot', followRest'⟩ := List.forall_mem_cons.mp follow'
      have sameTrees : slot.trees = slot'.trees := by rw [followSlot, followSlot', isSegment]
      rw [inductionHypothesis followRest followRest' sameRest.symm,
        eq_of_segment isSegment.symm sameTrees]

theorem FollowPlaces.flatMap_trees {place : String → Nat × Regex}
    (follow : FollowPlaces place slots) :
    slots.flatMap trees = (slots.map segment).flatMap (segmentTrees place) := by
  rw [List.flatMap_map]
  exact List.flatMap_congr follow

end Slot

namespace CompiledTemplate

variable {template template' : String} {defaults extension : Attributes}
  {requirements : Requirements} {compiled extended : CompiledTemplate} {fixed optional : List Slot}
  {place : String → Nat × Regex}

theorem filter_trimmed (lead : Option Char) (segments : List Segment) :
    (trimmed lead segments).filter Segment.isVariable = segments.filter Segment.isVariable := by
  fun_induction trimmed lead segments with
  | case1 => rfl
  | case2 text => rfl
  | case3 segment rest _ inductionHypothesis =>
      rw [List.filter_cons, List.filter_cons, inductionHypothesis]

theorem IsAssembled.map_filter (assembled : IsAssembled compiled fixed optional) :
    ((fixed ++ optional).filter Slot.isVariable).map Slot.segment =
      compiled.segments.filter Segment.isVariable := by
  have filter_eq : (fixed ++ optional).filter Slot.isVariable =
      (fixed ++ optional).filter (Segment.isVariable ∘ Slot.segment) := rfl
  rw [filter_eq, ← List.filter_map, List.map_append, assembled.fixed_eq, assembled.optional_eq,
    List.filter_append, filter_trimmed, ← List.filter_append, List.take_append_drop]

theorem requirementsOf_filter (requirements : Requirements) (segments : List Segment) :
    requirementsOf requirements (segments.filter Segment.isVariable) =
      requirementsOf requirements segments := by
  induction segments with
  | nil => rfl
  | cons segment rest inductionHypothesis =>
      cases segment with
      | literal text => exact inductionHypothesis
      | var name converter =>
          rw [List.filter_cons_of_pos rfl, requirementsOf, requirementsOf, inductionHypothesis]

theorem Compiles.requirements_eq_of_filter_eq
    (compiles : Compiles template defaults requirements compiled)
    (compiles' : Compiles template' extension requirements extended)
    (same : extended.segments.filter Segment.isVariable =
      compiled.segments.filter Segment.isVariable) :
    extended.requirements = compiled.requirements := by
  rw [compiles'.requirements_eq, compiles.requirements_eq, ← requirementsOf_filter, same,
    requirementsOf_filter]

/-- Whatever stands between the variables, and whichever of them have defaults, their groups are the
same. -/
theorem exists_placements (compiles : Compiles template defaults requirements compiled)
    (compiles' : Compiles template' extension requirements extended)
    (same : extended.segments.filter Segment.isVariable =
      compiled.segments.filter Segment.isVariable) :
    ∃ place fixed optional fixed' optional',
      IsAssembled compiled fixed optional ∧ Slot.FollowPlaces place (fixed ++ optional) ∧
      IsAssembled extended fixed' optional' ∧ Slot.FollowPlaces place (fixed' ++ optional') := by
  obtain ⟨fixed, optional, _, _, assembled, placed⟩ := exists_placed compiles
  obtain ⟨fixed', optional', _, _, assembled', placed'⟩ := exists_placed compiles'
  have nodup : (((fixed ++ optional).map Slot.segment).filterMap (·.variableName?)).Nodup := by
    rw [assembled.filterMap_variableName]
    exact (Segment.areParsed_of_parse compiles.parse).nodup
  obtain ⟨place, follow⟩ := Slot.exists_followPlaces nodup
  rw [compiles.requirements_eq_of_filter_eq compiles' same] at placed'
  have sameGroups := placed.filter_eq placed'
    (by rw [assembled.map_filter, assembled'.map_filter, same])
  exact ⟨place, fixed, optional, fixed', optional', assembled, follow, assembled',
    follow.of_filter_eq sameGroups⟩

/-! ### Forms -/

/-- The trees of a path with `count` of the variables that may be left out. -/
def formTrees (compiled : CompiledTemplate) (place : String → Nat × Regex) (count : Nat) :
    List Regex :=
  if count = 0 then
    (trimmed compiled.leadSeparator (compiled.segments.take compiled.optionalFrom)).flatMap
      (Slot.segmentTrees place)
  else (compiled.kept count).flatMap (Slot.segmentTrees place)

theorem IsAssembled.flatMap_trees (assembled : IsAssembled compiled fixed optional)
    (leadSeparator_eq :
      compiled.leadSeparator = leadSeparatorOf compiled.segments compiled.optionalFrom)
    (follow : Slot.FollowPlaces place (fixed ++ optional)) (count : Nat) :
    fixed.flatMap Slot.trees ++
        (Slot.opened compiled.leadSeparator.toList count optional).flatMap Slot.trees =
      compiled.formTrees place count := by
  obtain ⟨followFixed, followOptional⟩ := List.forall_mem_append.mp follow
  have fixed_trees : fixed.flatMap Slot.trees =
      (trimmed compiled.leadSeparator (compiled.segments.take compiled.optionalFrom)).flatMap
        (Slot.segmentTrees place) := by
    rw [Slot.FollowPlaces.flatMap_trees followFixed, assembled.fixed_eq]
  have followThrough : Slot.FollowPlaces place
      (throughVariable Slot.isVariable count optional) :=
    fun slot membership => followOptional slot (mem_of_mem_throughVariable membership)
  rw [fixed_trees, formTrees]
  cases count with
  | zero => simp [Slot.opened]
  | succ count =>
      have whole := trimmed_flatMap_append (Slot.segmentTrees place)
        (fun _ => rfl) compiled.segments compiled.optionalFrom
      rw [← leadSeparator_eq] at whole
      rw [if_neg (Nat.succ_ne_zero count), kept, List.flatMap_append, ← whole, Slot.opened,
        if_neg (Nat.succ_ne_zero count), List.flatMap_cons, followThrough.flatMap_trees,
        Slot.map_segment_throughVariable, assembled.optional_eq]
      simp [Slot.trees]

/-- The expression of a template takes what one of its forms describes, from the start of a text to
its end. -/
theorem IsAssembled.mem_ways_iff (assembled : IsAssembled compiled fixed optional)
    (compiles : Compiles template defaults requirements compiled)
    (follow : Slot.FollowPlaces place (fixed ++ optional)) {first last : State} :
    last ∈ compiled.expression.regex.ways first ↔
      first.cursor.satisfies .textStart = true ∧ last.cursor.satisfies .lastLineEnd = true ∧
        ∃ count ≤ compiled.optionalNames.length,
          last ∈ (concat (compiled.formTrees place count)).ways first := by
  have separated := separated_of_parsed compiles.leadSeparator_eq assembled.optional_eq
    (Segment.areParsed_of_parse compiles.parse)
  have form_iff {count : Nat} : last ∈ (concat (compiled.formTrees place count)).ways first ↔
      ∃ middle ∈ (concat (fixed.flatMap Slot.trees)).ways first,
        last ∈ (concat ((Slot.opened compiled.leadSeparator.toList count optional).flatMap
          Slot.trees)).ways middle := by
    rw [← assembled.flatMap_trees compiles.leadSeparator_eq follow, mem_ways_concat_append]
  rw [assembled.regex_eq, concat, ways, List.mem_flatMap]
  simp only [mem_ways_anchor, mem_ways_concat_append, mem_ways_concat_singleton,
    Slot.mem_ways_optionalTrees separated, assembled.length_filterMap_named, form_iff]
  constructor
  · rintro ⟨_, ⟨atStart, rfl⟩, _, ⟨middle, inFixed, count, bounded, inOpened⟩, atEnd, rfl⟩
    exact ⟨atStart, atEnd, count, bounded, middle, inFixed, inOpened⟩
  · rintro ⟨atStart, atEnd, count, bounded, middle, inFixed, inOpened⟩
    exact ⟨first, ⟨atStart, rfl⟩, last, ⟨middle, inFixed, count, bounded, inOpened⟩, atEnd, rfl⟩

end CompiledTemplate

end UrlRouting
