import UrlRouting.Proofs.Template.Embedding
import UrlRouting.Proofs.Template.Extension

/-!
# Variables that are left out

Whatever the requirements are, the variables that capture a text in a match are those of one form of
the template: all that may not be left out, and of the others all up to some variable
(`CompiledTemplate.exists_boundNames_eq`).  Those that are left out have defaults
(`CompiledTemplate.hasDefault_of_mem_optionalNames`).
-/

namespace UrlRouting

open Regex

/-! ### Lists that start with a list -/

theorem filter_mem_of_isPrefix {names kept : List String} (nodup : names.Nodup)
    (isPrefix : kept <+: names) : names.filter (· ∈ kept) = kept := by
  obtain ⟨rest, rfl⟩ := isPrefix
  have apart := (List.nodup_append.mp nodup).2.2
  rw [List.filter_append, List.filter_eq_self.mpr (by simp), List.filter_eq_nil_iff.mpr,
    List.append_nil]
  intro name inRest isKept
  exact apart name (of_decide_eq_true isKept) name inRest rfl

/-- Of two elements, the one in front is in a list that the elements start with if the one behind
it is. -/
theorem pairwise_mem_of_isPrefix {names kept : List String} (nodup : names.Nodup)
    (isPrefix : kept <+: names) :
    names.Pairwise fun earlier later => later ∈ kept → earlier ∈ kept := by
  obtain ⟨rest, rfl⟩ := isPrefix
  have apart := (List.nodup_append.mp nodup).2.2
  refine List.pairwise_append.mpr ⟨?_, ?_, ?_⟩
  · exact List.pairwise_of_forall_mem_list fun _ inKept _ _ _ => inKept
  · exact List.pairwise_of_forall_mem_list fun _ _ later inRest inKept =>
      absurd rfl (apart later inKept later inRest)
  · exact fun _ inKept _ _ _ => inKept

namespace Slot

/-- On a way through some slots, each group of a variable captures a text. -/
theorem isSome_lookup_of_mem_ways {slots : List Slot} {first last : State}
    (disjoint : slots.Pairwise fun first second => first.numbers.Disjoint second.numbers)
    (membership : last ∈ (concat (slots.flatMap trees)).ways first) {name : String}
    {converter : Option Converter} {number : Nat} {body : Regex}
    (isGroup : .group name converter number body ∈ slots) :
    (last.captures.lookup number).isSome := by
  induction slots generalizing first with
  | nil => simp at isGroup
  | cons slot rest inductionHypothesis =>
      obtain ⟨apart, disjointRest⟩ := List.pairwise_cons.mp disjoint
      rw [List.flatMap_cons, mem_ways_concat_append] at membership
      obtain ⟨middle, inSlot, inRest⟩ := membership
      rcases List.mem_cons.mp isGroup with rfl | isInRest
      · -- The slots behind have other numbers, so that the text stays captured.
        have outside : number ∉ (concat (rest.flatMap trees)).numbers := by
          rw [numbers_flatMap_trees]
          intro inNumbers
          obtain ⟨other, isOther, inOther⟩ := List.mem_flatMap.mp inNumbers
          exact apart other isOther (List.mem_cons_self ..) inOther
        rw [(leads_of_mem_any_ways inRest).captures number outside]
        obtain ⟨next, -, rfl⟩ := List.mem_map.mp (mem_ways_concat_singleton.mp inSlot)
        rw [List.lookup_cons_self]
        rfl
      · exact inductionHypothesis disjointRest inRest isInRest

end Slot

namespace CompiledTemplate

/-! ### Variables that capture something -/

/-- The variables of a template that capture a text in a match. -/
def boundNames (compiled : CompiledTemplate) (captured : List (String × Option String)) :
    List String :=
  compiled.variableNames.filter fun name => captured.any fun (known, text?) =>
    known == name && text?.isSome

theorem mem_boundNames_iff {compiled : CompiledTemplate}
    {captured : List (String × Option String)} {name : String} :
    name ∈ compiled.boundNames captured ↔
      name ∈ compiled.variableNames ∧ ∃ text, (name, some text) ∈ captured := by
  rw [boundNames, List.mem_filter, List.any_eq_true]
  refine and_congr_right fun _ => ?_
  constructor
  · rintro ⟨⟨known, text?⟩, membership, isBound⟩
    rw [Bool.and_eq_true, beq_iff_eq] at isBound
    obtain ⟨rfl, isSome⟩ := isBound
    obtain ⟨text, rfl⟩ := Option.isSome_iff_exists.mp isSome
    exact ⟨text, membership⟩
  · rintro ⟨text, membership⟩
    exact ⟨(name, some text), membership, by simp⟩

theorem keptNames_isPrefix (compiled : CompiledTemplate) (count : Nat) :
    compiled.keptNames count <+: compiled.variableNames := by
  rw [keptNames_eq, variableNames_eq]
  exact (List.prefix_append_right_inj _).mpr (List.take_prefix ..)

variable {template : String} {defaults : Attributes} {requirements : Requirements}
  {compiled : CompiledTemplate} {fixed optional : List Slot}

theorem IsAssembled.disjoint_passed (assembled : IsAssembled compiled fixed optional)
    (count : Nat) :
    (Shape.passed compiled fixed optional count).Pairwise fun first second =>
      first.numbers.Disjoint second.numbers := by
  obtain ⟨disjointFixed, disjointOptional, apart⟩ := List.pairwise_append.mp assembled.disjoint
  exact List.pairwise_append.mpr ⟨disjointFixed,
    Slot.pairwise_disjoint_opened disjointOptional _ count, Shape.disjoint_opened apart⟩

/-- On a way through a form, the groups of its variables capture a text and those of the other
variables do not. -/
theorem IsAssembled.isSome_lookup_iff (assembled : IsAssembled compiled fixed optional)
    {count : Nat} {cursor : Cursor} {last : State}
    (membership : last ∈ (concat ((Shape.passed compiled fixed optional count).flatMap
      Slot.trees)).ways ⟨cursor, []⟩) {name : String} {converter : Option Converter}
    {number : Nat} {body : Regex}
    (isGroup : .group name converter number body ∈ fixed ++ optional) :
    (last.captures.lookup number).isSome ↔ name ∈ compiled.keptNames count := by
  constructor
  · intro isCaptured
    by_contra notKept
    have outside : number ∉ (concat ((Shape.passed compiled fixed optional count).flatMap
        Slot.trees)).numbers := by
      rw [Slot.numbers_flatMap_trees]
      intro inNumbers
      obtain ⟨slot, inPassed, inSlot⟩ := List.mem_flatMap.mp inNumbers
      exact assembled.notMem_numbers_of_not_kept isGroup notKept slot inPassed inSlot
    rw [(leads_of_mem_any_ways membership).captures number outside] at isCaptured
    simp at isCaptured
  · intro kept
    obtain ⟨otherConverter, inKept⟩ := Segment.mem_names_iff.mp kept
    obtain ⟨otherNumber, otherBody, inPassed⟩ := assembled.exists_group inKept
    have isNumber := assembled.lookup_names isGroup
    rw [assembled.lookup_names (Shape.mem_of_mem_passed inPassed)] at isNumber
    injection isNumber with same
    subst same
    exact Slot.isSome_lookup_of_mem_ways (assembled.disjoint_passed count) membership inPassed

/-- The variables that capture a text in a match are those of a form of the template. -/
theorem exists_boundNames_eq (compile_eq : compile template defaults requirements = .ok compiled)
    {path : String} {captured : List (String × Option String)}
    (found : compiled.expression.fullMatch? path = some captured) :
    ∃ count ≤ compiled.optionalNames.length,
      compiled.boundNames captured = compiled.keptNames count := by
  have compiles := compiles_of_compile compile_eq
  have parsed := Segment.areParsed_of_parse compiles.parse
  obtain ⟨fixed, optional, assembled⟩ := exists_assembled compiles
  have nodup : (((fixed ++ optional).map Slot.segment).filterMap (·.variableName?)).Nodup := by
    rw [assembled.filterMap_variableName]
    exact parsed.nodup
  obtain ⟨place, follow⟩ := Slot.exists_followPlaces nodup
  obtain ⟨captures, matched, rfl⟩ := Option.map_eq_some_iff.mp found
  obtain ⟨last, membership, -, rfl⟩ := mem_ways_of_fullMatch? matched
  obtain ⟨-, -, count, bounded, inForm⟩ := (assembled.mem_ways_iff compiles follow).mp membership
  rw [← assembled.flatMap_trees compiles.leadSeparator_eq follow, ← List.flatMap_append] at inForm
  refine ⟨count, bounded, ?_⟩
  rw [← filter_mem_of_isPrefix parsed.nodup (compiled.keptNames_isPrefix count)]
  apply List.filter_congr
  intro name isVariable
  obtain ⟨converter, inSegments⟩ := Segment.mem_names_iff.mp isVariable
  obtain ⟨number, body, isGroup⟩ := assembled.exists_slot inSegments
  rw [Bool.eq_iff_iff, decide_eq_true_iff, ← assembled.isSome_lookup_iff inForm isGroup,
    List.any_map, List.any_eq_true]
  constructor
  · rintro ⟨⟨known, otherNumber⟩, isNamed, isCaptured⟩
    obtain ⟨isKnown, isCaptured⟩ := Bool.and_eq_true_iff.mp isCaptured
    obtain rfl : known = name := eq_of_beq isKnown
    have isNumber := lookup_of_mem assembled.nodupNames isNamed
    rw [assembled.lookup_names isGroup] at isNumber
    injection isNumber with same
    subst same
    simpa using isCaptured
  · intro isCaptured
    refine ⟨(name, number), ?_, by simpa using isCaptured⟩
    rw [assembled.names_eq]
    exact List.mem_flatMap.mpr ⟨_, isGroup, List.mem_cons_self ..⟩

/-! ### Variables that may be left out -/

/-- All variables that may be left out have a default. -/
theorem hasDefault_of_mem_optionalNames
    (compile_eq : compile template defaults requirements = .ok compiled) {name : String}
    (isOptional : name ∈ compiled.optionalNames) : defaults.hasName name = true := by
  obtain ⟨converter, membership⟩ := Segment.mem_names_iff.mp isOptional
  rw [(compiles_of_compile compile_eq).optionalFrom_eq] at membership
  exact hasDefault_of_mem_drop_optionalStart membership

end CompiledTemplate

end UrlRouting
