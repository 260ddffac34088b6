import UrlRouting.Proofs.Regex.Locality
import UrlRouting.Proofs.Template.Placement

/-!
# More defaults

With more defaults, more of the variables may be left out, and the part that may be left out starts
earlier.  The forms of a template stay (`CompiledTemplate.exists_formTrees_eq`), and so do its paths
(`CompiledTemplate.keepsPaths_of_compile`), except for one form: a literal that stood in every path
may now be taken only with the variable behind it, so that a path that ends in it is lost.
-/

namespace UrlRouting

open Regex

theorem throughVariable_append {α : Type} (isVariable : α → Bool) (front more : List α)
    {count : Nat} (positive : 0 < count) :
    throughVariable isVariable (front.countP isVariable + count) (front ++ more) =
      front ++ throughVariable isVariable count more := by
  induction front with
  | nil => rw [List.countP_nil, Nat.zero_add, List.nil_append, List.nil_append]
  | cons item rest inductionHypothesis =>
      obtain ⟨fewer, total⟩ : ∃ fewer, rest.countP isVariable + count = fewer + 1 :=
        Nat.exists_eq_succ_of_ne_zero (by omega)
      rw [List.cons_append, List.cons_append, ← inductionHypothesis, List.countP_cons]
      by_cases isOne : isVariable item = true
      · rw [if_pos isOne, Nat.add_right_comm, throughVariable, if_pos isOne]
      · rw [if_neg isOne, Nat.add_zero, total, throughVariable, if_neg isOne]

namespace CompiledTemplate

/-! ### Forms -/

variable {compiled extended : CompiledTemplate}

/-- A literal before the part of a template that may be left out is, in another template, taken only
with the variable behind it, and is more than the separator that is left out with that part. -/
def Strands (compiled extended : CompiledTemplate) : Prop :=
  extended.optionalFrom < compiled.optionalFrom ∧
    ∃ text, compiled.segments[compiled.optionalFrom - 1]? = some (.literal text) ∧
      text.toList ≠ compiled.leadSeparator.toList

theorem length_optionalNames_of_drop {front more : List Segment}
    (drop_eq : compiled.segments.drop compiled.optionalFrom = front ++ more) :
    compiled.optionalNames.length =
      front.countP Segment.isVariable + (more.filterMap (·.variableName?)).length := by
  rw [optionalNames, drop_eq, List.filterMap_append, List.length_append,
    List.length_filterMap_eq_countP]
  rfl

/-- A path may go up to any variable of the part that may be left out. -/
theorem exists_kept_of_drop {front rest : List Segment} {name : String}
    {converter : Option Converter}
    (drop_eq : compiled.segments.drop compiled.optionalFrom =
      front ++ .var name converter :: rest) :
    ∃ count ≤ compiled.optionalNames.length, count ≠ 0 ∧
      compiled.kept count = compiled.segments.take compiled.optionalFrom ++ front ++
        [.var name converter] := by
  refine ⟨front.countP Segment.isVariable + 1, ?_, Nat.succ_ne_zero _, ?_⟩
  · rw [length_optionalNames_of_drop drop_eq]
    simp [Segment.variableName?]
  · rw [kept, drop_eq, throughVariable_append _ _ _ Nat.one_pos, throughVariable_var,
      throughVariable_zero, List.append_assoc]

variable {template : String} {defaults extension : Attributes} {requirements : Requirements}

/-- Between two places where the part that may be left out can start. -/
theorem exists_between (segments_eq : extended.segments = compiled.segments)
    (le : extended.optionalFrom ≤ compiled.optionalFrom)
    (inside : compiled.optionalFrom ≤ compiled.segments.length) :
    ∃ between, between.length = compiled.optionalFrom - extended.optionalFrom ∧
      compiled.segments.take compiled.optionalFrom =
        extended.segments.take extended.optionalFrom ++ between ∧
      extended.segments.drop extended.optionalFrom =
        between ++ compiled.segments.drop compiled.optionalFrom := by
  obtain ⟨more, total⟩ := Nat.exists_eq_add_of_le le
  refine ⟨(compiled.segments.drop extended.optionalFrom).take more, ?_, ?_, ?_⟩
  · rw [List.length_take, List.length_drop]
    omega
  · rw [segments_eq, total, List.take_add]
  · rw [segments_eq, total, ← List.drop_drop, List.take_append_drop]

theorem formTrees_zero (compiled : CompiledTemplate) (place : String → Nat × Regex) :
    compiled.formTrees place 0 =
      (trimmed compiled.leadSeparator (compiled.segments.take compiled.optionalFrom)).flatMap
        (Slot.segmentTrees place) := rfl

theorem formTrees_of_ne_zero {count : Nat} (notZero : count ≠ 0)
    (place : String → Nat × Regex) :
    compiled.formTrees place count =
      (compiled.kept count).flatMap (Slot.segmentTrees place) := if_neg notZero

theorem exists_var_before_literal {text : String} {front : List Segment} (nonempty : front ≠ [])
    (separated : (front ++ [Segment.literal text]).IsChain fun first second =>
      first.isVariable ∨ second.isVariable) :
    ∃ others name converter, front = others ++ [.var name converter] := by
  rcases List.eq_nil_or_concat front with rfl | ⟨others, last, rfl⟩
  · exact absurd rfl nonempty
  · rw [List.concat_eq_append] at separated ⊢
    have isVariable := (List.isChain_append.mp separated).2.2 last (by simp) (.literal text) rfl
    cases last with
    | literal other => simp [Segment.isVariable, Segment.variableName?] at isVariable
    | var name converter => exact ⟨others, name, converter, rfl⟩

/-- If the literal before the part that may be left out is just its separator, nothing of it is
left without that part. -/
theorem formTrees_zero_of_separator {front : List Segment} {text : String}
    (take_eq : compiled.segments.take compiled.optionalFrom = front ++ [.literal text])
    (isLead : text.toList = compiled.leadSeparator.toList) (nonempty : text ≠ "")
    (place : String → Nat × Regex) :
    compiled.formTrees place 0 = front.flatMap (Slot.segmentTrees place) := by
  rw [formTrees_zero, take_eq]
  cases separator : compiled.leadSeparator with
  | none =>
      rw [separator] at isLead
      exact absurd (String.toList_injective isLead) nonempty
  | some lead =>
      rw [separator] at isLead
      rw [trimmed_append_literal, isLead]
      simp [Slot.segmentTrees]

/-- Without the part that may be left out, a path has a form of the template with more defaults,
unless a literal is stranded. -/
theorem exists_formTrees_eq_zero (parsed : Segment.AreParsed compiled.segments)
    {first : Segment} {between : List Segment} (isVariable : first.isVariable = true)
    (less : extended.optionalFrom < compiled.optionalFrom)
    (inside : compiled.optionalFrom ≤ compiled.segments.length)
    (take_eq : compiled.segments.take compiled.optionalFrom =
      extended.segments.take extended.optionalFrom ++ first :: between)
    (drop_eq : extended.segments.drop extended.optionalFrom =
      first :: between ++ compiled.segments.drop compiled.optionalFrom)
    (place : String → Nat × Regex) :
    (∃ count ≤ extended.optionalNames.length,
        extended.formTrees place count = compiled.formTrees place 0) ∨
      Strands compiled extended := by
  rcases List.eq_nil_or_concat (first :: between) with nothing | ⟨front, last, split_eq⟩
  · simp at nothing
  rw [split_eq, List.concat_eq_append] at take_eq drop_eq
  cases last with
  | var name converter =>
      left
      rw [List.append_assoc, List.singleton_append] at drop_eq
      obtain ⟨count, bounded, notZero, kept_eq⟩ := exists_kept_of_drop drop_eq
      refine ⟨count, bounded, ?_⟩
      rw [formTrees_of_ne_zero notZero, formTrees_zero, kept_eq, take_eq, ← List.append_assoc,
        trimmed_append_var]
  | literal text =>
      have isLast : compiled.segments[compiled.optionalFrom - 1]? = some (.literal text) := by
        have last_eq := congrArg List.getLast? take_eq
        rw [List.getLast?_take, if_neg (Nat.ne_zero_of_lt less), ← List.append_assoc,
          List.getLast?_concat] at last_eq
        cases found : compiled.segments[compiled.optionalFrom - 1]? with
        | none =>
            rw [List.getElem?_eq_none_iff] at found
            omega
        | some segment => simpa [found] using last_eq
      by_cases isLead : text.toList = compiled.leadSeparator.toList
      · left
        have notFirst : front ≠ [] := by
          rintro rfl
          obtain ⟨rfl, -⟩ := List.cons.inj split_eq
          exact absurd isVariable Bool.false_ne_true
        have separated := parsed.separated.take compiled.optionalFrom
        rw [take_eq] at separated
        obtain ⟨others, name, converter, rfl⟩ :=
          exists_var_before_literal notFirst (List.isChain_append.mp separated).2.1
        rw [List.append_assoc, List.append_assoc, List.singleton_append] at drop_eq
        obtain ⟨count, bounded, notZero, kept_eq⟩ := exists_kept_of_drop drop_eq
        refine ⟨count, bounded, ?_⟩
        rw [formTrees_of_ne_zero notZero, kept_eq, List.append_assoc]
        rw [← List.append_assoc] at take_eq
        exact (formTrees_zero_of_separator take_eq isLead
          (parsed.nonempty text (List.mem_of_getElem? isLast)) place).symm
      · right
        exact ⟨less, text, isLast, isLead⟩

/-- The forms of a template are forms of the template with more defaults, but for the one without
the part that may be left out, if a literal is stranded before that part. -/
theorem exists_formTrees_eq (compiles : Compiles template defaults requirements compiled)
    (compiles' : Compiles template extension requirements extended)
    (grows : ∀ name, defaults.hasName name = true → extension.hasName name = true)
    (place : String → Nat × Regex) {count : Nat}
    (bounded : count ≤ compiled.optionalNames.length) :
    (∃ count' ≤ extended.optionalNames.length,
        extended.formTrees place count' = compiled.formTrees place count) ∨
      (count = 0 ∧ Strands compiled extended) := by
  have segments_eq : extended.segments = compiled.segments :=
    Except.ok.inj (compiles'.parse.symm.trans compiles.parse)
  have le : extended.optionalFrom ≤ compiled.optionalFrom := by
    rw [compiles'.optionalFrom_eq, compiles.optionalFrom_eq, segments_eq]
    exact optionalStart_anti grows compiled.segments
  have inside : compiled.optionalFrom ≤ compiled.segments.length := by
    rw [compiles.optionalFrom_eq]
    exact optionalStart_le_length ..
  obtain ⟨between, length_eq, take_eq, drop_eq⟩ := exists_between segments_eq le inside
  by_cases isZero : count = 0
  · subst isZero
    by_cases same : extended.optionalFrom = compiled.optionalFrom
    · left
      refine ⟨0, Nat.zero_le _, ?_⟩
      rw [formTrees_zero, formTrees_zero, compiles'.leadSeparator_eq, compiles.leadSeparator_eq,
        segments_eq, same]
    · have less : extended.optionalFrom < compiled.optionalFrom := lt_of_le_of_ne le same
      have start_eq := compiles'.optionalFrom_eq
      rw [segments_eq] at start_eq
      obtain ⟨name, converter, rest, isFirst⟩ := exists_drop_optionalStart
        (start_eq ▸ less.trans_le inside)
      cases between with
      | nil =>
          rw [List.length_nil] at length_eq
          omega
      | cons first between =>
          rw [← start_eq, ← segments_eq, drop_eq] at isFirst
          obtain ⟨rfl, -⟩ := List.cons.inj isFirst
          rcases exists_formTrees_eq_zero (Segment.areParsed_of_parse compiles.parse) rfl less
            inside take_eq drop_eq place with found | strands
          · exact .inl found
          · exact .inr ⟨rfl, strands⟩
  · left
    have notZero : between.countP Segment.isVariable + count ≠ 0 := by omega
    refine ⟨between.countP Segment.isVariable + count, ?_, ?_⟩
    · rw [length_optionalNames_of_drop drop_eq]
      exact Nat.add_le_add_left bounded _
    · rw [formTrees_of_ne_zero notZero, formTrees_of_ne_zero isZero, kept, kept, drop_eq, take_eq,
        throughVariable_append _ _ _ (Nat.pos_of_ne_zero isZero), List.append_assoc]

/-! ### Paths -/

/-- A match of a path takes nothing of the part that may be left out, and ends in a literal that is
stranded with other defaults. -/
def LosesEnding (compiled extended : CompiledTemplate) (path : String) : Prop :=
  Strands compiled extended ∧
    ∃ captured, compiled.expression.fullMatch? path = some captured ∧
      ∀ name ∈ compiled.optionalNames, (name, none) ∈ captured

/-- The paths of a template stay paths with other defaults, unless they lose their ending. -/
def KeepsPaths (compiled extended : CompiledTemplate) : Prop :=
  ∀ path, (compiled.expression.fullMatch? path).isSome →
    (extended.expression.fullMatch? path).isSome ∨ LosesEnding compiled extended path

variable {fixed optional : List Slot} {place : String → Nat × Regex}

/-- The groups of the part that may be left out capture nothing in the form without it. -/
theorem IsAssembled.exists_uncaptured (assembled : IsAssembled compiled fixed optional)
    (compiles : Compiles template defaults requirements compiled)
    (follow : Slot.FollowPlaces place (fixed ++ optional)) {cursor : Cursor} {last : State}
    (membership : last ∈ (concat (compiled.formTrees place 0)).ways ⟨cursor, []⟩)
    {name : String} (isOptional : name ∈ compiled.optionalNames) :
    ∃ number, (name, number) ∈ compiled.expression.names ∧
      last.captures.lookup number = none := by
  have trees_eq := assembled.flatMap_trees compiles.leadSeparator_eq follow 0
  rw [Slot.opened, if_pos rfl, List.flatMap_nil, List.append_nil] at trees_eq
  rw [← trees_eq] at membership
  have leads := leads_of_mem_any_ways membership
  rw [Slot.numbers_flatMap_trees] at leads
  rw [optionalNames, ← assembled.optional_eq, ← Slot.map_fst_filterMap_named] at isOptional
  obtain ⟨⟨_, number⟩, isNamed, rfl⟩ := List.mem_map.mp isOptional
  obtain ⟨slot, inOptional, isSlot⟩ := List.mem_filterMap.mp isNamed
  cases slot with
  | literal text => simp [Slot.named?] at isSlot
  | group other converter number' body =>
      simp only [Slot.named?, Option.some.injEq, Prod.mk.injEq] at isSlot
      obtain ⟨rfl, rfl⟩ := isSlot
      refine ⟨number', ?_, ?_⟩
      · rw [assembled.names_eq]
        exact List.mem_flatMap.mpr
          ⟨_, List.mem_append_right _ inOptional, List.mem_cons_self ..⟩
      · refine leads.captures number' fun inFixed => ?_
        obtain ⟨earlier, isFixed, inEarlier⟩ := List.mem_flatMap.mp inFixed
        exact Nat.lt_irrefl number' ((List.pairwise_append.mp assembled.ordered).2.2 earlier
          isFixed _ inOptional number' inEarlier number' (List.mem_cons_self ..))

/-- With more defaults, a template keeps all its paths that do not lose their ending. -/
theorem keepsPaths_of_compile
    (compile_eq : compile template defaults requirements = .ok compiled)
    (compile_eq' : compile template extension requirements = .ok extended)
    (grows : ∀ name, defaults.hasName name = true → extension.hasName name = true) :
    KeepsPaths compiled extended := by
  have compiles := compiles_of_compile compile_eq
  have compiles' := compiles_of_compile compile_eq'
  have segments_eq : extended.segments = compiled.segments :=
    Except.ok.inj (compiles'.parse.symm.trans compiles.parse)
  obtain ⟨place, fixed, optional, fixed', optional', assembled, follow, assembled', follow'⟩ :=
    exists_placements compiles compiles' (congrArg _ segments_eq)
  intro path isTaken
  obtain ⟨captured, found⟩ := Option.isSome_iff_exists.mp isTaken
  obtain ⟨captures, matched, rfl⟩ := Option.map_eq_some_iff.mp found
  obtain ⟨last, membership, atEnd, rfl⟩ := mem_ways_of_fullMatch? matched
  obtain ⟨atStart, isEnd, count, bounded, inForm⟩ :=
    (assembled.mem_ways_iff compiles follow).mp membership
  rcases exists_formTrees_eq compiles compiles' grows place bounded with
    ⟨count', bounded', form_eq⟩ | ⟨rfl, strands⟩
  · left
    rw [← form_eq] at inForm
    have membership' := (assembled'.mem_ways_iff compiles' follow').mpr
      ⟨atStart, isEnd, count', bounded', inForm⟩
    rw [Expression.fullMatch?, Option.isSome_map]
    exact fullMatch?_isSome_of_mem_ways membership' atEnd
  · right
    refine ⟨strands, _, found, fun name isOptional => ?_⟩
    obtain ⟨number, isNamed, uncaptured⟩ :=
      assembled.exists_uncaptured compiles follow inForm isOptional
    exact List.mem_map.mpr ⟨_, isNamed, by simp [uncaptured]⟩

end CompiledTemplate

end UrlRouting
