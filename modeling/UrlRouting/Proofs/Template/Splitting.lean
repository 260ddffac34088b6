import UrlRouting.Proofs.Template.PathLanguage

/-!
# How ambiguous paths are split

Where the variables of a template have no requirements of their own, a path can often be split into
the texts of the variables in several ways.  A match splits it in the one way that gives the first
variable as much as possible, then the second one, and so on, where to leave a variable out counts
as less than any text (`CompiledTemplate.captures_greatest`).
-/

namespace UrlRouting

open Regex

theorem Converter.unnumbered (converter : Converter) :
    converter.expression.regex.numbers = [] := by
  cases converter <;> rfl

/-- A converter takes as much as it can first, and then less and less. -/
theorem Converter.takesLess (converter : Converter) (state : State) :
    TakesLess (converter.expression.regex.ways state) := by
  cases converter with
  | str | int =>
      rw [expression, ← concat, ← concat, ways_concat_singleton]
      exact takesLess_some_oneOf state
  | float =>
      apply takesLess_number
      intro char isDigit isPoint
      have isDot : char = '.' := by
        apply Char.toNat_inj.mp
        simpa [CharClass.contains, ClassItem.contains, CaseRule.variants, eq_comm] using isPoint
      rw [isDot] at isDigit
      exact absurd isDigit (by decide)

namespace Slot

/-! ### Slots of variables without requirements -/

/-- The group of a variable holds the expression of a converter. -/
def IsPlain : Slot → Prop
  | literal _ => True
  | group _ _ _ body => ∃ converter : Converter, body = converter.expression.regex

theorem map_snd_named {slots : List Slot} (plain : ∀ slot ∈ slots, slot.IsPlain) :
    (slots.filterMap named?).map (·.2) = slots.flatMap numbers := by
  induction slots with
  | nil => rfl
  | cons slot rest inductionHypothesis =>
      obtain ⟨plainSlot, plainRest⟩ := List.forall_mem_cons.mp plain
      rw [List.flatMap_cons, ← inductionHypothesis plainRest]
      cases slot with
      | literal text => rfl
      | group name converter number body =>
          obtain ⟨converter, rfl⟩ := plainSlot
          rw [numbers, converter.unnumbered]
          rfl

theorem descends_literal (chars : List Char) :
    Descends [] (concat (chars.map charTree)).ways := by
  induction chars with
  | nil => exact .empty
  | cons char rest inductionHypothesis =>
      exact (Descends.oneOf _).flatMap inductionHypothesis (List.disjoint_nil_left _)

theorem descends_group {name : String} {converter : Option Converter} {number : Nat} {body : Regex}
    (plain : (group name converter number body).IsPlain) :
    Descends (group name converter number body).numbers (Regex.group number body).ways := by
  obtain ⟨converter, rfl⟩ := plain
  rw [numbers, converter.unnumbered]
  exact .group converter.isRegular.regex converter.unnumbered converter.takesLess

theorem descends_slot {slot : Slot} (plain : slot.IsPlain) :
    Descends slot.numbers (concat slot.trees).ways := by
  cases slot with
  | literal text => exact descends_literal text.toList
  | group name converter number body =>
      rw [trees, ways_concat_singleton]
      exact descends_group plain

theorem disjoint_flatMap_numbers {slot : Slot} {slots : List Slot}
    (apart : ∀ other ∈ slots, slot.numbers.Disjoint other.numbers) :
    slot.numbers.Disjoint (slots.flatMap numbers) := by
  intro number inSlot inSlots
  obtain ⟨other, isOther, inOther⟩ := List.mem_flatMap.mp inSlots
  exact apart other isOther inSlot inOther

theorem descends_trees {slots : List Slot} (plain : ∀ slot ∈ slots, slot.IsPlain)
    (disjoint : slots.Pairwise fun first second => first.numbers.Disjoint second.numbers) :
    Descends (slots.flatMap numbers) (concat (slots.flatMap trees)).ways := by
  induction slots with
  | nil => exact .empty
  | cons slot rest inductionHypothesis =>
      obtain ⟨plainSlot, plainRest⟩ := List.forall_mem_cons.mp plain
      obtain ⟨apart, disjointRest⟩ := List.pairwise_cons.mp disjoint
      have descends := (descends_slot plainSlot).flatMap
        (inductionHypothesis plainRest disjointRest) (disjoint_flatMap_numbers apart)
      simpa only [List.flatMap_cons, ← ways_concat_append] using descends

theorem descends_optionalTrees {slots : List Slot} (plain : ∀ slot ∈ slots, slot.IsPlain)
    (disjoint : slots.Pairwise fun first second => first.numbers.Disjoint second.numbers)
    (before : List Char) :
    Descends (slots.flatMap numbers) (concat (optionalTrees before slots)).ways := by
  induction slots generalizing before with
  | nil => exact .empty
  | cons slot rest inductionHypothesis =>
      obtain ⟨plainSlot, plainRest⟩ := List.forall_mem_cons.mp plain
      obtain ⟨apart, disjointRest⟩ := List.pairwise_cons.mp disjoint
      cases slot with
      | literal text => exact inductionHypothesis plainRest disjointRest text.toList
      | group name converter number body =>
          have descendsRest := inductionHypothesis plainRest disjointRest []
          have apartRest := disjoint_flatMap_numbers apart
          have descends := (descends_literal before).flatMap
            ((descends_group plainSlot).flatMap descendsRest apartRest) (List.disjoint_nil_left _)
          rw [optionalTrees, ways_concat_singleton]
          apply Descends.optional
          · rw [funext (ways_concat_append _ _)]
            exact descends
          · intro first last membership
            obtain ⟨afterLiteral, -, inUnit⟩ := mem_ways_concat_append.mp membership
            obtain ⟨afterGroup, inGroup, inRest⟩ := List.mem_flatMap.mp inUnit
            obtain ⟨next, -, rfl⟩ := List.mem_map.mp inGroup
            rw [descendsRest.others inRest number (apartRest (List.mem_cons_self ..)),
              List.lookup_cons_self]
            rfl

end Slot

namespace CompiledTemplate

/-- The lengths of the texts of all variables in a path, in the order of the template; -1 for a
variable that is left out. -/
def lengths (compiled : CompiledTemplate) (values : String → String) (count : Nat) : List Int :=
  compiled.variableNames.map fun name =>
    if name ∈ compiled.keptNames count then ((values name).length : Int) else -1

variable {template : String} {defaults : Attributes} {requirements : Requirements}
  {compiled : CompiledTemplate} {fixed optional : List Slot}

theorem lengths_congr {values values' : String → String} {count : Nat}
    (same : ∀ name ∈ compiled.keptNames count, values name = values' name) :
    compiled.lengths values count = compiled.lengths values' count := by
  apply List.map_congr_left
  intro name _
  by_cases kept : name ∈ compiled.keptNames count
  · rw [if_pos kept, if_pos kept, same name kept]
  · rw [if_neg kept, if_neg kept]

namespace Shape

theorem isPlain (compiles : Compiles template defaults requirements compiled)
    (shape : Shape requirements compiled fixed optional)
    (plain : ∀ name ∈ compiled.variableNames, requirements.get? (.text name) = none) :
    ∀ slot ∈ fixed ++ optional, slot.IsPlain := by
  intro slot membership
  cases slot with
  | literal text => trivial
  | group name converter number body =>
      have inSegments := shape.mem_segments membership
      obtain ⟨expression, limit, compilesSource, mirrors⟩ := shape.holds _ membership
      rw [compiles.sourceOf_eq inSegments, Requirements.sourceFor,
        plain name (Segment.mem_names_iff.mpr ⟨converter, inSegments⟩), Option.getD_none,
        Converter.compile_pattern] at compilesSource
      injection compilesSource with same
      subst same
      exact ⟨converter.getD .str, mirrors.eq_of_unnumbered
        (converter.getD .str).isRegular.regex (converter.getD .str).unnumbered⟩

theorem descends (shape : Shape requirements compiled fixed optional)
    (plain : ∀ slot ∈ fixed ++ optional, slot.IsPlain) :
    Descends (compiled.expression.names.map (·.2)) compiled.expression.regex.ways := by
  obtain ⟨plainFixed, plainOptional⟩ := List.forall_mem_append.mp plain
  obtain ⟨disjointFixed, disjointOptional, apart⟩ := List.pairwise_append.mp shape.disjoint
  have apartAll : (fixed.flatMap Slot.numbers).Disjoint (optional.flatMap Slot.numbers) := by
    intro number inFixed
    obtain ⟨slot, isSlot, inSlot⟩ := List.mem_flatMap.mp inFixed
    exact Slot.disjoint_flatMap_numbers (apart slot isSlot) inSlot
  have descendsSlots : Descends (fixed.flatMap Slot.numbers ++ optional.flatMap Slot.numbers)
      (concat (fixed.flatMap Slot.trees ++
        Slot.optionalTrees compiled.leadSeparator.toList optional)).ways := by
    rw [funext (ways_concat_append _ _)]
    exact (Slot.descends_trees plainFixed disjointFixed).flatMap
      (Slot.descends_optionalTrees plainOptional disjointOptional _) apartAll
  have descendsRest := descendsSlots.flatMap (.anchor .lastLineEnd) (List.disjoint_nil_right _)
  have descendsAll := (Descends.anchor .textStart).flatMap descendsRest (List.disjoint_nil_left _)
  rw [List.append_nil, List.nil_append, ← ways_concat_singleton,
    ← funext (ways_concat_append _ _)] at descendsAll
  rw [shape.named_eq, Slot.map_snd_named plain, shape.regex_eq, List.flatMap_append]
  exact descendsAll

variable {path : List Char} {count : Nat} {last : State}

theorem sizes_eq_lengths (shape : Shape requirements compiled fixed optional)
    (fits : Slot.Fits (passed compiled fixed optional count) ⟨.start path, []⟩ last) :
    last.captures.sizes (compiled.expression.names.map (·.2)) =
      compiled.lengths (valueOf compiled last.captures) count := by
  rw [lengths, ← shape.map_fst_names.1, Captures.sizes, List.map_map, List.map_map]
  apply List.map_congr_left
  rintro ⟨name, number⟩ membership
  by_cases kept : name ∈ compiled.keptNames count
  · obtain ⟨text, isText, same⟩ :=
      Option.map_eq_some_iff.mp (shape.lookup_of_kept fits membership kept)
    simp [kept, Captures.size, isText, ← same]
  · simp [kept, Captures.size, shape.lookup_of_not_kept fits membership kept]

/-- What is captured tells which variables are in a path. -/
theorem mem_keptNames_iff (shape : Shape requirements compiled fixed optional)
    (fits : Slot.Fits (passed compiled fixed optional count) ⟨.start path, []⟩ last)
    {name : String} : name ∈ compiled.keptNames count ↔
      ∃ number, (name, number) ∈ compiled.expression.names ∧
        (last.captures.lookup number).isSome := by
  constructor
  · intro kept
    have inNames : name ∈ compiled.expression.names.map (·.1) := by
      rw [shape.map_fst_names.1]
      exact mem_variableNames_of_mem_keptNames kept
    obtain ⟨⟨name, number⟩, membership, rfl⟩ := List.mem_map.mp inNames
    have known := shape.lookup_of_kept fits membership kept
    exact ⟨number, membership, by rw [← Option.isSome_map, known]; rfl⟩
  · rintro ⟨number, membership, known⟩
    by_contra notKept
    rw [shape.lookup_of_not_kept fits membership notKept] at known
    simp at known

theorem count_eq_of_fits (shape : Shape requirements compiled fixed optional) {count' : Nat}
    (bounded : count ≤ compiled.optionalNames.length)
    (bounded' : count' ≤ compiled.optionalNames.length)
    (fits : Slot.Fits (passed compiled fixed optional count) ⟨.start path, []⟩ last)
    (fits' : Slot.Fits (passed compiled fixed optional count') ⟨.start path, []⟩ last) :
    count' = count := by
  have same : ∀ name, name ∈ compiled.keptNames count ↔ name ∈ compiled.keptNames count' := by
    intro name
    rw [shape.mem_keptNames_iff fits, shape.mem_keptNames_iff fits']
  have nodup (count : Nat) : (compiled.keptNames count).Nodup := by
    refine List.Nodup.sublist ?_ shape.nodup
    rw [keptNames_eq, variableNames_eq]
    exact (List.take_sublist ..).append_left _
  have length_eq := ((List.perm_ext_iff_of_nodup (nodup count) (nodup count')).mpr same).length_eq
  rw [keptNames_eq, keptNames_eq, List.length_append, List.length_append, List.length_take,
    List.length_take, Nat.min_eq_left bounded, Nat.min_eq_left bounded'] at length_eq
  exact (Nat.add_left_cancel length_eq).symm

theorem valueOf_eq_of_takes (shape : Shape requirements compiled fixed optional)
    {values : String → String}
    (takes : Slot.Takes values (passed compiled fixed optional count) ⟨.start path, []⟩ last) :
    ∀ name ∈ compiled.keptNames count, valueOf compiled last.captures name = values name := by
  intro name kept
  obtain ⟨converter, inKept⟩ := Segment.mem_names_iff.mp kept
  obtain ⟨number, body, inPassed⟩ := shape.exists_group inKept
  rw [valueOf, shape.lookup_names (mem_of_mem_passed inPassed), Option.bind_some]
  have filled := takes.filled _ inPassed
  rw [Slot.taken] at filled
  rw [filled]
  exact String.ofList_toList

end Shape

/-- A match captures the texts of the one splitting of a path that is greatest, going by the lengths
of the texts in the order of the template. -/
theorem captures_greatest (compile_eq : compile template defaults requirements = .ok compiled)
    (plain : ∀ name ∈ compiled.variableNames, requirements.get? (.text name) = none)
    {path : String} {captured : List (String × Option String)}
    (found : compiled.expression.fullMatch? path = some captured) :
    ∃ count values, compiled.Spells requirements values count path ∧
      (captured = compiled.variableNames.map fun name =>
        (name, if name ∈ compiled.keptNames count then some (values name) else none)) ∧
      ∀ count' values', compiled.Spells requirements values' count' path →
        compiled.lengths values' count' < compiled.lengths values count ∨
          (count' = count ∧ ∀ name ∈ compiled.keptNames count, values' name = values name) := by
  have compiles := compiles_of_compile compile_eq
  have regular : requirements.AreRegular compiled.variableNames := by
    intro name isVariable source required
    rw [plain name isVariable] at required
    simp at required
  obtain ⟨fixed, optional, shape⟩ := exists_shape compiles regular
  obtain ⟨captures, matched, rfl⟩ := Option.map_eq_some_iff.mp found
  have descends := shape.descends (shape.isPlain compiles plain)
  have unbound : ∀ number ∈ compiled.expression.names.map (·.2),
      (State.mk (.start path.toList) []).captures.lookup number = none := fun _ _ => rfl
  have ordered := descends.pairwise unbound
  obtain ⟨last, membership, atEnd, rfl, greatest⟩ := exists_first_of_fullMatch? ordered matched
  obtain ⟨count, bounded, fits⟩ := shape.exists_fits_of_mem_ways membership
  refine ⟨count, Shape.valueOf compiled last.captures, shape.spells_of_fits bounded atEnd fits,
    shape.captured_eq fits, ?_⟩
  intro count' values' spells
  obtain ⟨other, isOther, otherAtEnd, takes⟩ := shape.exists_takes spells
  have same := shape.valueOf_eq_of_takes takes
  rcases greatest other isOther otherAtEnd with rfl | less
  · right
    obtain rfl := shape.count_eq_of_fits bounded spells.bounded fits takes.toFits
    exact ⟨rfl, fun name kept => (same name kept).symm⟩
  · left
    rwa [shape.sizes_eq_lengths fits, shape.sizes_eq_lengths takes.toFits, lengths_congr same]
      at less

/-- Of two variables side by side, the first one takes all but the last character. -/
theorem pair_captures_greatest : ∃ compiled,
    compile "/\x7bfirst\x7d\x7bsecond\x7d" [] [] = .ok compiled ∧
      (∀ name ∈ compiled.variableNames, Entries.get? ([] : Requirements) (.text name) = none) ∧
      compiled.expression.fullMatch? "/abc" =
        some [("first", some "ab"), ("second", some "c")] ∧
      ∃ count values, compiled.Spells [] values count "/abc" ∧
        ([("first", some "ab"), ("second", some "c")] = compiled.variableNames.map fun name =>
          (name, if name ∈ compiled.keptNames count then some (values name) else none)) ∧
        ∀ count' values', compiled.Spells [] values' count' "/abc" →
          compiled.lengths values' count' < compiled.lengths values count ∨
            (count' = count ∧ ∀ name ∈ compiled.keptNames count, values' name = values name) := by
  obtain ⟨compiled, compile_eq, found⟩ : ∃ compiled,
      compile "/\x7bfirst\x7d\x7bsecond\x7d" [] [] = .ok compiled ∧
        compiled.expression.fullMatch? "/abc" =
          some [("first", some "ab"), ("second", some "c")] := ⟨_, by cbv, by cbv⟩
  have plain : ∀ name ∈ compiled.variableNames,
      Entries.get? ([] : Requirements) (.text name) = none := fun _ _ => rfl
  exact ⟨compiled, compile_eq, plain, found, captures_greatest compile_eq plain found⟩

end CompiledTemplate

end UrlRouting
