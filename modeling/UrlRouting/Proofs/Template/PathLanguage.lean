import UrlRouting.Proofs.Template.SlotWays

/-!
# The paths of a template

The expression of a template takes exactly the texts that have one of its forms, with texts for the
variables that their requirements describe (`CompiledTemplate.matches_iff_spells`).  It captures
these texts (`CompiledTemplate.exists_spells_of_fullMatch?`).
-/

namespace UrlRouting.CompiledTemplate

open Regex

/-! ### The shape of the expression -/

/-- The slots of a template whose requirements are regular. -/
structure Shape (requirements : Requirements) (compiled : CompiledTemplate)
    (fixed optional : List Slot) : Prop extends IsAssembled compiled fixed optional where
  named_eq : compiled.expression.names = (fixed ++ optional).filterMap Slot.named?
  nodup : compiled.variableNames.Nodup
  trimmed_eq : ∀ values, (fixed.flatMap (·.segment.filled values)) ++
      compiled.leadSeparator.toList =
    (compiled.segments.take compiled.optionalFrom).flatMap (Segment.filled values)
  separated : Slot.AreSeparated compiled.leadSeparator.toList optional
  regular : Slot.AreRegular (fixed ++ optional)
  language_eq : ∀ name converter number body,
    .group name converter number body ∈ fixed ++ optional →
      body.language =
        Expression.languageOf (requirements.sourceFor name (converter.getD .str))

/-- The group of a variable describes what the requirement of the variable does. -/
theorem Compiles.group_spec {template : String} {defaults : Attributes}
    {requirements : Requirements} {compiled : CompiledTemplate}
    (compiles : Compiles template defaults requirements compiled)
    (regular : requirements.AreRegular compiled.variableNames) {name : String}
    {converter : Option Converter} {number : Nat} {body : Regex}
    (membership : .var name converter ∈ compiled.segments)
    (holds : (Slot.group name converter number body).Holds (sourceOf compiled.requirements)) :
    body.IsRegular ∧
      body.language =
        Expression.languageOf (requirements.sourceFor name (converter.getD .str)) := by
  obtain ⟨expression, limit, compilesSource, mirrors⟩ := holds
  rw [compiles.sourceOf_eq membership] at compilesSource
  obtain ⟨other, compilesOther, isRegular⟩ := compiles.exists_expression membership regular
  rw [compilesSource] at compilesOther
  injection compilesOther with same
  subst same
  refine ⟨mirrors.isRegular isRegular.regex, ?_⟩
  rw [mirrors.language_eq, Expression.languageOf_eq compilesSource]

theorem Compiles.areRegular {template : String} {defaults : Attributes}
    {requirements : Requirements} {compiled : CompiledTemplate} {fixed optional : List Slot}
    (compiles : Compiles template defaults requirements compiled)
    (regular : requirements.AreRegular compiled.variableNames)
    (assembled : IsAssembled compiled fixed optional) : Slot.AreRegular (fixed ++ optional) := by
  intro slot membership tree inTrees
  cases slot with
  | literal text =>
      obtain ⟨char, -, rfl⟩ := List.mem_map.mp inTrees
      trivial
  | group name converter number body =>
      rw [List.mem_singleton.mp inTrees]
      exact (compiles.group_spec regular (assembled.mem_segments membership)
        (assembled.holds _ membership)).1

/-- What may be left out does not start with a literal if a separator stands before it. -/
theorem separated_of_parsed {compiled : CompiledTemplate} {optional : List Slot}
    (leadSeparator_eq :
      compiled.leadSeparator = leadSeparatorOf compiled.segments compiled.optionalFrom)
    (optional_eq : optional.map Slot.segment = compiled.segments.drop compiled.optionalFrom)
    (parsed : Segment.AreParsed compiled.segments) :
    Slot.AreSeparated compiled.leadSeparator.toList optional := by
  have chain := parsed.separated
  rw [← List.take_append_drop compiled.optionalFrom compiled.segments, ← optional_eq] at chain
  obtain ⟨-, chainOptional, between⟩ := List.isChain_append.mp chain
  refine ⟨(List.isChain_map Slot.segment).mp chainOptional, ?_⟩
  rw [leadSeparator_eq]
  cases isLead : leadSeparatorOf compiled.segments compiled.optionalFrom with
  | none => exact .inl rfl
  | some lead =>
      obtain ⟨front, text, take_eq, -, -⟩ := leadSeparatorOf_eq_some isLead
      right
      intro slot isHead
      have isVariable := between (.literal text) (by simp [take_eq]) slot.segment
        (by simpa using ⟨slot, isHead, rfl⟩)
      exact isVariable.resolve_left Bool.false_ne_true

theorem exists_shape {template : String} {defaults : Attributes} {requirements : Requirements}
    {compiled : CompiledTemplate} (compiles : Compiles template defaults requirements compiled)
    (regular : requirements.AreRegular compiled.variableNames) :
    ∃ fixed optional, Shape requirements compiled fixed optional := by
  have parsed := Segment.areParsed_of_parse compiles.parse
  obtain ⟨fixed, optional, assembled⟩ := exists_assembled compiles
  have spec := fun name converter number body
      (membership : .group name converter number body ∈ fixed ++ optional) =>
    compiles.group_spec regular (assembled.mem_segments membership) (assembled.holds _ membership)
  refine ⟨fixed, optional, assembled, ?_, parsed.nodup, ?_, ?_,
    compiles.areRegular regular assembled, ?_⟩
  · rw [assembled.names_eq, List.filterMap_eq_flatMap_toList]
    apply List.flatMap_congr
    intro slot membership
    cases slot with
    | literal text => rfl
    | group name converter number body =>
        obtain ⟨expression, compilesSource, isRegular⟩ :=
          compiles.exists_expression (assembled.mem_segments membership) regular
        rw [← compiles.sourceOf_eq (assembled.mem_segments membership)] at compilesSource
        simp [Slot.names, Slot.named?, compilesSource, isRegular.unnamed]
  · intro values
    have flatMap_eq : fixed.flatMap (·.segment.filled values) =
        (fixed.map Slot.segment).flatMap (Segment.filled values) := by
      rw [List.flatMap_map]
    have whole := trimmed_flatMap_append (Segment.filled values)
      (fun text => (List.map_id text.toList).symm) compiled.segments compiled.optionalFrom
    rw [flatMap_eq, assembled.fixed_eq, compiles.leadSeparator_eq]
    rwa [List.map_id] at whole
  · exact separated_of_parsed compiles.leadSeparator_eq assembled.optional_eq parsed
  · intro name converter number body membership
    exact (spec name converter number body membership).2

/-! ### Slots of a path -/

section

variable {compiled : CompiledTemplate} {fixed optional : List Slot}

/-- The slots of a path with `count` of the variables that may be left out. -/
def Shape.passed (compiled : CompiledTemplate) (fixed optional : List Slot) (count : Nat) :
    List Slot :=
  fixed ++ Slot.opened compiled.leadSeparator.toList count optional

theorem Shape.mem_passed_of_mem_throughVariable {count : Nat} {slot : Slot}
    (membership : slot ∈ throughVariable Slot.isVariable count optional) :
    slot ∈ passed compiled fixed optional count := by
  apply List.mem_append_right _
  cases count with
  | zero => simp at membership
  | succ count =>
      rw [Slot.opened, if_neg (Nat.succ_ne_zero count)]
      exact List.mem_cons_of_mem _ membership

theorem Shape.mem_of_mem_passed {count : Nat} {name : String} {converter : Option Converter}
    {number : Nat} {body : Regex}
    (membership : .group name converter number body ∈ passed compiled fixed optional count) :
    .group name converter number body ∈ fixed ++ optional := by
  rcases List.mem_append.mp membership with inFixed | inOpened
  · exact List.mem_append_left _ inFixed
  · rcases Slot.mem_of_mem_opened inOpened with isLiteral | inOptional
    · simp at isLiteral
    · exact List.mem_append_right _ inOptional

end

namespace IsAssembled

open Shape

variable {compiled : CompiledTemplate} {fixed optional : List Slot}

theorem exists_group (assembled : IsAssembled compiled fixed optional) {count : Nat}
    {name : String} {converter : Option Converter}
    (membership : .var name converter ∈ compiled.kept count) :
    ∃ number body, .group name converter number body ∈ passed compiled fixed optional count := by
  have isGroup : ∃ slot ∈ passed compiled fixed optional count,
      slot.segment = .var name converter := by
    rcases List.mem_append.mp membership with inFixed | inOptional
    · have inTrimmed : .var name converter ∈ fixed.map Slot.segment := by
        rw [assembled.fixed_eq]
        exact (mem_trimmed_iff rfl).mpr inFixed
      obtain ⟨slot, inSlots, isSegment⟩ := List.mem_map.mp inTrimmed
      exact ⟨slot, List.mem_append_left _ inSlots, isSegment⟩
    · rw [← assembled.optional_eq, ← Slot.map_segment_throughVariable] at inOptional
      obtain ⟨slot, inSlots, isSegment⟩ := List.mem_map.mp inOptional
      exact ⟨slot, mem_passed_of_mem_throughVariable inSlots, isSegment⟩
  obtain ⟨slot, inPassed, isSegment⟩ := isGroup
  cases slot with
  | literal text => simp [Slot.segment] at isSegment
  | group name' converter' number body =>
      injection isSegment with same sameConverter
      subst same sameConverter
      exact ⟨number, body, inPassed⟩

theorem mem_kept_of_group (assembled : IsAssembled compiled fixed optional) {count : Nat}
    {name : String} {converter : Option Converter} {number : Nat} {body : Regex}
    (membership : .group name converter number body ∈ passed compiled fixed optional count) :
    .var name converter ∈ compiled.kept count := by
  rcases List.mem_append.mp membership with inFixed | inOpened
  · have inTrimmed := List.mem_map_of_mem (f := Slot.segment) inFixed
    rw [assembled.fixed_eq] at inTrimmed
    exact List.mem_append_left _ ((mem_trimmed_iff rfl).mp inTrimmed)
  · apply List.mem_append_right _
    rw [← assembled.optional_eq, ← Slot.map_segment_throughVariable]
    unfold Slot.opened at inOpened
    split at inOpened
    · simp at inOpened
    · rcases List.mem_cons.mp inOpened with same | inThrough
      · simp at same
      · exact List.mem_map_of_mem (f := Slot.segment) inThrough

/-- The number of a group that is not in a path is in no group of the path. -/
theorem notMem_numbers_of_not_kept (assembled : IsAssembled compiled fixed optional) {count : Nat}
    {name : String} {converter : Option Converter} {number : Nat} {body : Regex}
    (membership : .group name converter number body ∈ fixed ++ optional)
    (notKept : name ∉ compiled.keptNames count) :
    ∀ slot ∈ passed compiled fixed optional count, number ∉ slot.numbers := by
  intro slot inPassed
  cases slot with
  | literal text => simp [Slot.numbers]
  | group other otherConverter otherNumber otherBody =>
      have different : Slot.group name converter number body ≠
          .group other otherConverter otherNumber otherBody := by
        rintro same
        rw [← same] at inPassed
        exact notKept (Segment.mem_names_iff.mpr ⟨_, assembled.mem_kept_of_group inPassed⟩)
      have : Std.Symm fun first second : Slot => first.numbers.Disjoint second.numbers :=
        ⟨fun _ _ => List.Disjoint.symm⟩
      have apart := assembled.disjoint.forall membership (mem_of_mem_passed inPassed) different
      exact apart (List.mem_cons_self ..)

end IsAssembled

/-! ### Paths -/

namespace Shape

variable {requirements : Requirements} {compiled : CompiledTemplate} {fixed optional : List Slot}

theorem form_eq (shape : Shape requirements compiled fixed optional) (values : String → String)
    (count : Nat) :
    compiled.form (Segment.filled values) count =
      (passed compiled fixed optional count).flatMap (·.segment.filled values) := by
  have whole := shape.trimmed_eq values
  rw [passed, List.flatMap_append, Slot.flatMap_opened, form, kept]
  cases count with
  | zero =>
      simp only [throughVariable, List.append_nil, true_and, if_true]
      rw [← whole]
      cases compiled.leadSeparator <;> simp
  | succ count =>
      have through_eq : throughVariable Segment.isVariable (count + 1)
          (compiled.segments.drop compiled.optionalFrom) =
          (throughVariable Slot.isVariable (count + 1) optional).map Slot.segment := by
        rw [← shape.optional_eq, Slot.map_segment_throughVariable]
      simp only [Nat.succ_ne_zero, false_and, if_false]
      rw [List.flatMap_append, ← whole, through_eq, List.flatMap_map, List.append_assoc]

theorem map_fst_names (shape : Shape requirements compiled fixed optional) :
    compiled.expression.names.map (·.1) = compiled.variableNames ∧
      (optional.filterMap Slot.named?).length = compiled.optionalNames.length := by
  refine ⟨?_, shape.length_filterMap_named⟩
  rw [shape.named_eq, Slot.map_fst_filterMap_named, shape.filterMap_variableName]

theorem disjoint_opened {count : Nat}
    (apart : ∀ slot ∈ fixed, ∀ other ∈ optional, slot.numbers.Disjoint other.numbers) :
    ∀ slot ∈ fixed, ∀ other ∈ Slot.opened compiled.leadSeparator.toList count optional,
      slot.numbers.Disjoint other.numbers := by
  intro slot inFixed other inOpened
  rcases Slot.mem_of_mem_opened inOpened with rfl | inOptional
  · simp [Slot.numbers]
  · exact apart slot inFixed other inOptional

/-- A way through the expression goes through the slots of a path. -/
theorem exists_fits_of_mem_ways (shape : Shape requirements compiled fixed optional)
    {path : List Char} {last : State}
    (membership : last ∈ compiled.expression.regex.ways ⟨.start path, []⟩) :
    ∃ count ≤ compiled.optionalNames.length,
      Slot.Fits (passed compiled fixed optional count) ⟨.start path, []⟩ last := by
  rw [shape.regex_eq, concat, ways, List.mem_flatMap] at membership
  obtain ⟨first, isFirst, membership⟩ := membership
  obtain ⟨-, rfl⟩ := mem_ways_anchor.mp isFirst
  obtain ⟨next, inSlots, isEnd⟩ := mem_ways_concat_append.mp membership
  obtain ⟨middle, inFixed, inOptional⟩ := mem_ways_concat_append.mp inSlots
  obtain ⟨-, rfl⟩ := mem_ways_anchor.mp (mem_ways_concat_singleton.mp isEnd)
  obtain ⟨disjointFixed, disjointOptional, apart⟩ := List.pairwise_append.mp shape.disjoint
  have fitsFixed := Slot.fits_of_mem_ways
    (fun slot inSlots => shape.regular slot (List.mem_append_left _ inSlots)) disjointFixed inFixed
  obtain ⟨count, bounded, fitsOptional⟩ := Slot.exists_fits_of_mem_optional shape.separated
    (fun slot inSlots => shape.regular slot (List.mem_append_right _ inSlots)) disjointOptional
    inOptional
  refine ⟨count, shape.map_fst_names.2 ▸ bounded, fitsFixed.append fitsOptional ?_⟩
  exact disjoint_opened apart

theorem lookup_names (shape : Shape requirements compiled fixed optional) {name : String}
    {converter : Option Converter} {number : Nat} {body : Regex}
    (membership : .group name converter number body ∈ fixed ++ optional) :
    compiled.expression.names.lookup name = some number := by
  apply lookup_of_mem
  · rw [shape.map_fst_names.1]
    exact shape.nodup
  · rw [shape.named_eq]
    exact List.mem_filterMap.mpr ⟨_, membership, rfl⟩

def valueOf (compiled : CompiledTemplate) (captures : Captures) (name : String) : String :=
  String.ofList
    (((compiled.expression.names.lookup name).bind fun number => captures.lookup number).getD [])

/-- What is captured on the way through the slots of a path are the texts of its variables. -/
theorem spells_of_fits (shape : Shape requirements compiled fixed optional) {count : Nat}
    (bounded : count ≤ compiled.optionalNames.length) {path : String} {last : State}
    (atEnd : last.cursor.after = [])
    (fits : Slot.Fits (passed compiled fixed optional count) ⟨.start path.toList, []⟩ last) :
    compiled.Spells requirements (valueOf compiled last.captures) count path := by
  refine ⟨bounded, ?_, ?_⟩
  · intro name converter membership
    obtain ⟨number, body, inPassed⟩ := shape.exists_group membership
    obtain ⟨text, inside, isCaptured⟩ := fits.captured _ inPassed
    rw [shape.language_eq name converter number body (mem_of_mem_passed inPassed)] at inside
    have value : (valueOf compiled last.captures name).toList = text := by
      simp [valueOf, shape.lookup_names (mem_of_mem_passed inPassed), isCaptured]
    rw [value]
    exact inside
  · have whole := fits.passes.1
    rw [atEnd, List.append_nil] at whole
    rw [shape.form_eq]
    refine whole.trans (List.flatMap_congr ?_)
    intro slot membership
    cases slot with
    | literal text => rfl
    | group name converter number body =>
        simp [Slot.taken, Slot.segment, Segment.filled, valueOf,
          shape.lookup_names (mem_of_mem_passed membership)]

/-- Groups that are not passed capture nothing. -/
theorem lookup_of_not_kept (shape : Shape requirements compiled fixed optional) {count : Nat}
    {path : List Char} {last : State}
    (fits : Slot.Fits (passed compiled fixed optional count) ⟨.start path, []⟩ last)
    {name : String} {number : Nat} (membership : (name, number) ∈ compiled.expression.names)
    (notKept : name ∉ compiled.keptNames count) : last.captures.lookup number = none := by
  rw [shape.named_eq] at membership
  obtain ⟨slot, inSlots, isNamed⟩ := List.mem_filterMap.mp membership
  cases slot with
  | literal text => simp [Slot.named?] at isNamed
  | group name' converter number' body =>
      simp only [Slot.named?, Option.some.injEq, Prod.mk.injEq] at isNamed
      obtain ⟨rfl, rfl⟩ := isNamed
      exact fits.others number' (shape.notMem_numbers_of_not_kept inSlots notKept)

/-- The name of a variable in a path is bound to the text that its group captures. -/
theorem lookup_of_kept (shape : Shape requirements compiled fixed optional) {count : Nat}
    {path : List Char} {last : State}
    (fits : Slot.Fits (passed compiled fixed optional count) ⟨.start path, []⟩ last)
    {name : String} {number : Nat} (membership : (name, number) ∈ compiled.expression.names)
    (kept : name ∈ compiled.keptNames count) :
    (last.captures.lookup number).map String.ofList =
      some (valueOf compiled last.captures name) := by
  obtain ⟨converter, inKept⟩ := Segment.mem_names_iff.mp kept
  obtain ⟨number', body, inPassed⟩ := shape.exists_group inKept
  obtain ⟨text, -, isCaptured⟩ := fits.captured _ inPassed
  have isNumber := shape.lookup_names (mem_of_mem_passed inPassed)
  have nodup : (compiled.expression.names.map (·.1)).Nodup := by
    rw [shape.map_fst_names.1]
    exact shape.nodup
  rw [lookup_of_mem nodup membership] at isNumber
  injection isNumber with same
  subst same
  simp [valueOf, lookup_of_mem nodup membership, isCaptured]

/-- The names are bound to the texts of the variables in a path, and the others to nothing. -/
theorem captured_eq (shape : Shape requirements compiled fixed optional) {count : Nat}
    {path : List Char} {last : State}
    (fits : Slot.Fits (passed compiled fixed optional count) ⟨.start path, []⟩ last) :
    (compiled.expression.names.map fun (name, number) =>
        (name, (last.captures.lookup number).map String.ofList)) =
      compiled.variableNames.map fun name =>
        (name, if name ∈ compiled.keptNames count then some (valueOf compiled last.captures name)
          else none) := by
  rw [← shape.map_fst_names.1, List.map_map]
  apply List.map_congr_left
  rintro ⟨name, number⟩ membership
  by_cases kept : name ∈ compiled.keptNames count
  · simp [kept, shape.lookup_of_kept fits membership kept]
  · simp [kept, shape.lookup_of_not_kept fits membership kept]

/-- There is a way through the slots of a path for all texts of its variables that their
requirements describe. -/
theorem exists_takes (shape : Shape requirements compiled fixed optional) {count : Nat}
    {values : String → String} {path : String}
    (spells : compiled.Spells requirements values count path) :
    ∃ last ∈ compiled.expression.regex.ways ⟨.start path.toList, []⟩, last.cursor.after = [] ∧
      Slot.Takes values (passed compiled fixed optional count) ⟨.start path.toList, []⟩ last := by
  have admits : ∀ slot ∈ passed compiled fixed optional count, slot.Admits values := by
    intro slot inPassed
    cases slot with
    | literal text => trivial
    | group name converter number body =>
        rw [Slot.Admits, shape.language_eq name converter number body (mem_of_mem_passed inPassed)]
        exact spells.admitted name converter (shape.mem_kept_of_group inPassed)
  have passes : (State.mk (.start path.toList) []).cursor.Passes
      ((passed compiled fixed optional count).flatMap (·.segment.filled values))
      ⟨path.toList.reverse, []⟩ := by
    rw [← shape.form_eq, ← spells.path_eq]
    simp [Cursor.Passes, Cursor.start]
  obtain ⟨regularFixed, regularOptional⟩ := List.forall_mem_append.mp shape.regular
  obtain ⟨disjointFixed, disjointOptional, apart⟩ := List.pairwise_append.mp shape.disjoint
  rw [passed, List.flatMap_append] at passes
  obtain ⟨_, passesFixed, passesOptional⟩ := passes.split
  obtain ⟨middle, inFixed, rfl, takesFixed⟩ := Slot.exists_takes regularFixed disjointFixed
    (fun slot inFixed => admits slot (List.mem_append_left _ inFixed)) passesFixed
  obtain ⟨last, inOptional, isPlace, takesOptional⟩ := Slot.exists_takes_optional shape.separated
    regularOptional disjointOptional (shape.map_fst_names.2 ▸ spells.bounded)
    (fun slot inThrough => admits slot (mem_passed_of_mem_throughVariable inThrough))
    passesOptional
  have atEnd : last.cursor.after = [] := by rw [isPlace]
  refine ⟨last, ?_, atEnd, takesFixed.append takesOptional (disjoint_opened apart)⟩
  rw [shape.regex_eq, concat, ways, List.mem_flatMap]
  refine ⟨_, mem_ways_anchor.mpr ⟨rfl, rfl⟩, mem_ways_concat_append.mpr ⟨last, ?_, ?_⟩⟩
  · exact mem_ways_concat_append.mpr ⟨middle, inFixed, inOptional⟩
  · exact mem_ways_concat_singleton.mpr
      (mem_ways_anchor.mpr ⟨by simp [Cursor.satisfies, atEnd], rfl⟩)

end Shape

/-! ### The language of a template -/

variable {template : String} {defaults : Attributes} {requirements : Requirements}
  {compiled : CompiledTemplate}

/-- A match captures the texts of the variables in the path, and nothing for the others. -/
theorem exists_spells_of_fullMatch?
    (compile_eq : compile template defaults requirements = .ok compiled)
    (regular : requirements.AreRegular compiled.variableNames) {path : String}
    {captured : List (String × Option String)}
    (found : compiled.expression.fullMatch? path = some captured) :
    ∃ count values, compiled.Spells requirements values count path ∧
      captured = compiled.variableNames.map fun name =>
        (name, if name ∈ compiled.keptNames count then some (values name) else none) := by
  obtain ⟨fixed, optional, shape⟩ := exists_shape (compiles_of_compile compile_eq) regular
  obtain ⟨captures, matched, rfl⟩ := Option.map_eq_some_iff.mp found
  obtain ⟨last, membership, atEnd, rfl⟩ := mem_ways_of_fullMatch? matched
  obtain ⟨count, bounded, fits⟩ := shape.exists_fits_of_mem_ways membership
  exact ⟨count, Shape.valueOf compiled last.captures,
    shape.spells_of_fits bounded atEnd fits, shape.captured_eq fits⟩

theorem fullMatch?_isSome_of_spells
    (compile_eq : compile template defaults requirements = .ok compiled)
    (regular : requirements.AreRegular compiled.variableNames) {path : String} {count : Nat}
    {values : String → String} (spells : compiled.Spells requirements values count path) :
    (compiled.expression.fullMatch? path).isSome := by
  obtain ⟨fixed, optional, shape⟩ := exists_shape (compiles_of_compile compile_eq) regular
  obtain ⟨last, membership, atEnd, -⟩ := shape.exists_takes spells
  rw [Expression.fullMatch?, Option.isSome_map]
  exact fullMatch?_isSome_of_mem_ways membership atEnd

/-- The expression of a template takes exactly the paths that have one of its forms, whatever the
template. -/
theorem matches_iff_spells
    (compile_eq : compile template defaults requirements = .ok compiled)
    (regular : requirements.AreRegular compiled.variableNames) (path : String) :
    (compiled.expression.fullMatch? path).isSome ↔
      ∃ count values, compiled.Spells requirements values count path := by
  constructor
  · intro found
    obtain ⟨captured, found⟩ := Option.isSome_iff_exists.mp found
    obtain ⟨count, values, spells, -⟩ := exists_spells_of_fullMatch? compile_eq regular found
    exact ⟨count, values, spells⟩
  · rintro ⟨count, values, spells⟩
    exact fullMatch?_isSome_of_spells compile_eq regular spells

/-- A page number, which may be left out, makes a path after the start of a blog. -/
theorem blog_matches_iff_spells : ∃ compiled requirements,
    compile "/blog/\x7bpage\x7d" [(.text "page", .int 1)] requirements = .ok compiled ∧
      requirements.AreRegular compiled.variableNames ∧
      ∀ path, (compiled.expression.fullMatch? path).isSome ↔
        ∃ count values, compiled.Spells requirements values count path := by
  obtain ⟨compiled, compile_eq⟩ : ∃ compiled, compile "/blog/\x7bpage\x7d"
      [(.text "page", .int 1)] [(.text "page", "[0-9]+")] = .ok compiled := ⟨_, by cbv⟩
  have regular : Requirements.AreRegular [(.text "page", "[0-9]+")] compiled.variableNames := by
    apply Requirements.areRegular_of_forall_mem
    intro entry membership
    rw [List.mem_singleton.mp membership]
    exact ⟨_, by cbv, by decide⟩
  exact ⟨compiled, _, compile_eq, regular, matches_iff_spells compile_eq regular⟩

end UrlRouting.CompiledTemplate
