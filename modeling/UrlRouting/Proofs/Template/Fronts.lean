import UrlRouting.Proofs.Regex.Front
import UrlRouting.Proofs.Template.Endings
import UrlRouting.Proofs.Template.Validity

/-!
# Templates with a text in front

A template that compiles does so as well with a text in front that has no variables in it
(`CompiledTemplate.exists_compile_append`).  If the template starts with a literal, the text becomes
part of it and what may be left out stays the same (`CompiledTemplate.isFronted_of_compiles`), so the
longer template takes what the shorter one takes, behind the text
(`CompiledTemplate.IsFronted.fullMatch?_append`), and nothing else
(`CompiledTemplate.IsFronted.fullMatch?_eq_none`).
-/

namespace UrlRouting

open Regex

/-! ### Cutting -/

namespace Segment

/-- Segments with a text in front of them, which becomes part of a literal there. -/
def withFront (front : String) : List Segment → List Segment
  | .literal text :: rest => .literal (front ++ text) :: rest
  | segments => .literal front :: segments

theorem filter_withFront (front : String) (segments : List Segment) :
    (withFront front segments).filter isVariable = segments.filter isVariable := by
  match segments with
  | [] | .literal _ :: _ | .var _ _ :: _ => rfl

theorem findAngle?_append {front : List Char} (plain : '<' ∉ front) (chars : List Char) :
    findAngle? (front ++ chars) = findAngle? chars := by
  induction front with
  | nil => rfl
  | cons char rest inductionHypothesis =>
      rw [List.mem_cons, not_or] at plain
      have other : (char == '<') = false := beq_eq_false_iff_ne.mpr (Ne.symm plain.1)
      rw [List.cons_append, findAngle?, other]
      exact inductionHypothesis plain.2

theorem pieces_append {front : List Char} (plain : '\x7b' ∉ front) (chars : List Char) :
    pieces (front ++ chars) = front.map .char ++ pieces chars := by
  induction front with
  | nil => rfl
  | cons char rest inductionHypothesis =>
      rw [List.mem_cons, not_or] at plain
      have other : (char == '\x7b') = false := beq_eq_false_iff_ne.mpr (Ne.symm plain.1)
      rw [List.cons_append, pieces, other, inductionHypothesis plain.2]
      rfl

theorem ofPieces_map_append (template : String) (seen : List String) (chars front : List Char)
    (pieces : List Piece) :
    ofPieces template seen chars (front.map .char ++ pieces) =
      ofPieces template seen (front.reverse ++ chars) pieces := by
  induction front generalizing chars with
  | nil => rfl
  | cons char rest inductionHypothesis =>
      rw [List.map_cons, List.cons_append, ofPieces, inductionHypothesis, List.reverse_cons,
        List.append_assoc, List.singleton_append]

/-- A placeholder that is accepted is accepted whatever the literal before it, and in a template of
whatever text. -/
theorem exists_ofPieces_placeholder {template : String} {seen : List String} {chars : List Char}
    {placeholder : Placeholder} {rest : List Piece} {segments : List Segment}
    (cut : ofPieces template seen chars (.placeholder placeholder :: rest) = .ok segments) :
    ∃ converter more, ofPieces template (placeholder.name :: seen) [] rest = .ok more ∧
      segments = literalOf chars ++ .var placeholder.name converter :: more ∧
      ∀ other before, ofPieces other (placeholder.name :: seen) [] rest = .ok more →
        ofPieces other seen before (.placeholder placeholder :: rest) =
          .ok (literalOf before ++ .var placeholder.name converter :: more) := by
  rcases placeholder with ⟨name, converterName⟩
  rw [ofPieces] at cut
  split at cut
  · simp at cut
  · next known =>
      split at cut
      · simp at cut
      · next fresh =>
          split at cut
          · simp at cut
          · next more cutRest =>
              injection cut with same
              refine ⟨_, more, cutRest, same.symm, ?_⟩
              intro other before cutOther
              rw [ofPieces]
              split
              · next written isUnknown => exact absurd isUnknown (known written)
              · rw [if_neg fresh, cutOther]

theorem literalOf_append (chars : List Char) {front : List Char} (nonempty : front ≠ []) :
    literalOf (chars ++ front.reverse) = withFront (String.ofList front) (literalOf chars) := by
  cases chars with
  | nil => simp [literalOf, nonempty, withFront]
  | cons char rest => simp [literalOf, withFront, String.ofList_append]

theorem withFront_literalOf_append (front : String) (chars : List Char) (name : String)
    (converter : Option Converter) (rest : List Segment) :
    withFront front (literalOf chars ++ .var name converter :: rest) =
      withFront front (literalOf chars) ++ .var name converter :: rest := by
  cases chars <;> rfl

/-- Which template it is only matters for what is said of a refusal, and a literal at the front can
be longer. -/
theorem ofPieces_append {template : String} {seen : List String} {chars : List Char}
    {pieces : List Piece} {segments : List Segment}
    (cut : ofPieces template seen chars pieces = .ok segments) (other : String) :
    ofPieces other seen chars pieces = .ok segments ∧
      ∀ front ≠ [], ofPieces other seen (chars ++ front.reverse) pieces =
        .ok (withFront (String.ofList front) segments) := by
  induction pieces generalizing seen chars segments with
  | nil =>
      rw [ofPieces] at cut
      injection cut with same
      subst same
      exact ⟨rfl, fun front nonempty => congrArg Except.ok (literalOf_append chars nonempty)⟩
  | cons piece rest inductionHypothesis =>
      cases piece with
      | char letter =>
          rw [ofPieces] at cut
          exact inductionHypothesis cut
      | placeholder placeholder =>
          obtain ⟨converter, more, cutRest, rfl, accepted⟩ := exists_ofPieces_placeholder cut
          have cutOther (before : List Char) :=
            accepted other before (inductionHypothesis cutRest).1
          refine ⟨cutOther chars, fun front nonempty => ?_⟩
          rw [cutOther, literalOf_append chars nonempty, withFront_literalOf_append]

/-- A text without brackets and braces in front of a template is part of a literal, or one of its
own. -/
theorem parse_append {template front : String} {segments : List Segment}
    (parses : parse template = .ok segments) (nonempty : front ≠ "")
    (noBrace : '\x7b' ∉ front.toList) (noAngle : '<' ∉ front.toList) :
    parse (front ++ template) = .ok (withFront front segments) := by
  unfold parse at parses ⊢
  rw [String.toList_append, findAngle?_append noAngle, pieces_append noBrace, ofPieces_map_append]
  split at parses
  · simp at parses
  · have moved := (ofPieces_append parses (front ++ template)).2 front.toList
      (by simpa using nonempty)
    rw [String.ofList_toList] at moved
    rw [List.append_nil]
    exact moved

end Segment

namespace CompiledTemplate

/-! ### Compilation -/

theorem requirementsOf_withFront (requirements : Requirements) (front : String)
    (segments : List Segment) :
    requirementsOf requirements (Segment.withFront front segments) =
      requirementsOf requirements segments := by
  rw [← requirementsOf_filter, Segment.filter_withFront, requirementsOf_filter]

theorem compile_eq_ok {template : String} {defaults : Attributes} {requirements : Requirements}
    {segments : List Segment} {constraints : List (String × Expression)} {expression : Expression}
    (parses : Segment.parse template = .ok segments)
    (constrains : constraintsOf (requirementsOf requirements segments) = .ok constraints)
    (reads : Expression.compile (sourceText (requirementsOf requirements segments) segments
      (optionalStart defaults.hasName segments)
      (leadSeparatorOf segments (optionalStart defaults.hasName segments))) = .ok expression) :
    compile template defaults requirements = .ok ⟨segments, optionalStart defaults.hasName segments,
      leadSeparatorOf segments (optionalStart defaults.hasName segments),
      requirementsOf requirements segments, constraints, expression⟩ := by
  simp only [compile, parses, constrains, reads]

variable {template front : String} {defaults : Attributes} {requirements : Requirements}
  {compiled extended : CompiledTemplate}

/-- A template that compiles does so with a text in front as well. -/
theorem exists_compile_append
    (compiles : Compiles template defaults requirements compiled) (nonempty : front ≠ "")
    (noBrace : '\x7b' ∉ front.toList) (noAngle : '<' ∉ front.toList) :
    ∃ extended, compile (front ++ template) defaults requirements = .ok extended ∧
      extended.segments = Segment.withFront front compiled.segments := by
  have sameRequirements : requirementsOf requirements (Segment.withFront front compiled.segments) =
      compiled.requirements := by
    rw [requirementsOf_withFront, compiles.requirements_eq]
  obtain ⟨expression, reads⟩ := compiles.exists_expression_of_filter_eq
    (Segment.filter_withFront front compiled.segments)
    (optionalStart defaults.hasName (Segment.withFront front compiled.segments))
    (leadSeparatorOf (Segment.withFront front compiled.segments)
      (optionalStart defaults.hasName (Segment.withFront front compiled.segments)))
  rw [← sameRequirements] at reads
  have constrains : constraintsOf (requirementsOf requirements
      (Segment.withFront front compiled.segments)) = .ok compiled.constraints := by
    rw [sameRequirements, compiles.constraints]
  have parses := Segment.parse_append compiles.parse nonempty noBrace noAngle
  exact ⟨_, compile_eq_ok parses constrains reads, rfl⟩

/-! ### The first literal -/

theorem exists_trimmed_cons_literal (lead : Option Char) (front : String) {text : String}
    (nonempty : text ≠ "") (rest : List Segment) :
    ∃ first others, trimmed lead (.literal text :: rest) = .literal first :: others ∧
      trimmed lead (.literal (front ++ text) :: rest) = .literal (front ++ first) :: others := by
  cases rest with
  | nil =>
      refine ⟨_, [], rfl, ?_⟩
      have notNil : text.toList ≠ [] := by simpa using nonempty
      cases lead with
      | none => rfl
      | some lead =>
          simp [trimmed, List.dropLast_append_of_ne_nil notNil, String.ofList_append]
  | cons next others => exact ⟨text, trimmed lead (next :: others), rfl, rfl⟩

/-! ### The expression -/

/-- The expression of a template with a text in front takes that text first, and then what the
expression of the template takes. -/
structure IsFronted (front : String) (compiled extended : CompiledTemplate) : Prop where
  regex_eq : ∃ trees, (∀ chars, Ignores chars (concat trees).ways) ∧
    compiled.expression.regex = concat (.anchor .textStart :: trees) ∧
    extended.expression.regex =
      concat (.anchor .textStart :: (front.toList.map Slot.charTree ++ trees))
  names_eq : extended.expression.names = compiled.expression.names

theorem isRegular_of_mem_optionalTrees {slots : List Slot} (regular : Slot.AreRegular slots)
    (before : List Char) : ∀ tree ∈ Slot.optionalTrees before slots, tree.IsRegular := by
  induction slots generalizing before with
  | nil => simp [Slot.optionalTrees]
  | cons slot rest inductionHypothesis =>
      obtain ⟨regularSlot, regularRest⟩ := List.forall_mem_cons.mp regular
      cases slot with
      | literal text => exact inductionHypothesis regularRest text.toList
      | group name converter number body =>
          have regularGroup : ∀ tree ∈ before.map Slot.charTree ++
              .group number body :: Slot.optionalTrees [] rest, tree.IsRegular := by
            intro tree membership
            rcases List.mem_append.mp membership with inBefore | inGroup
            · obtain ⟨char, -, rfl⟩ := List.mem_map.mp inBefore
              trivial
            · rcases List.mem_cons.mp inGroup with rfl | inRest
              · exact regularSlot _ (List.mem_singleton_self _)
              · exact inductionHypothesis regularRest [] tree inRest
          intro tree membership
          rw [List.mem_singleton.mp membership]
          exact ⟨by decide, concat_isRegular regularGroup⟩

section

variable (compiles : Compiles template defaults requirements compiled)
  (compiles' : Compiles (front ++ template) defaults requirements extended) (nonempty : front ≠ "")
  {text : String} {rest : List Segment} (segments_eq : compiled.segments = .literal text :: rest)
  (segments_eq' : extended.segments = .literal (front ++ text) :: rest)
  (notRoot : compiled.optionalFrom = 1 → rest ≠ [] → text ≠ "/")

include compiles segments_eq

theorem Compiles.nonempty_of_segments_eq : text ≠ "" := by
  apply (Segment.areParsed_of_parse compiles.parse).nonempty
  rw [segments_eq]
  exact List.mem_cons_self ..

include compiles' segments_eq'

theorem optionalFrom_eq_of_front : extended.optionalFrom = compiled.optionalFrom := by
  rw [compiles'.optionalFrom_eq, compiles.optionalFrom_eq, segments_eq, segments_eq']
  exact optionalStart_cons_literal ..

include nonempty notRoot

theorem leadSeparator_eq_of_front : extended.leadSeparator = compiled.leadSeparator := by
  have textNonempty := compiles.nonempty_of_segments_eq segments_eq
  rw [compiles'.leadSeparator_eq, compiles.leadSeparator_eq,
    optionalFrom_eq_of_front compiles compiles' segments_eq segments_eq', segments_eq, segments_eq']
  apply leadSeparatorOf_cons_literal
  · rw [String.toList_append, List.getLast?_append_of_ne_nil]
    simpa using textNonempty
  · intro isFirst notAlone
    refine ⟨notRoot isFirst notAlone, fun isRoot => ?_⟩
    have lengths := congrArg String.length isRoot
    have frontLength := mt String.length_eq_zero_iff.mp nonempty
    have textLength := mt String.length_eq_zero_iff.mp textNonempty
    rw [String.length_append, show "/".length = 1 from rfl] at lengths
    omega

/-- Only the first literal of a template is another one with a text in front. -/
theorem exists_sameSlots : ∃ first between optional,
    IsAssembled compiled (.literal first :: between) optional ∧
      IsAssembled extended (.literal (front ++ first) :: between) optional := by
  have variables_eq : extended.segments.filter Segment.isVariable =
      compiled.segments.filter Segment.isVariable := by
    rw [segments_eq, segments_eq']
    rfl
  obtain ⟨place, fixed, optional, fixed', optional', assembled, follow, assembled', follow'⟩ :=
    exists_placements compiles compiles' variables_eq
  have optionalFrom_eq := optionalFrom_eq_of_front compiles compiles' segments_eq segments_eq'
  have leadSeparator_eq := leadSeparator_eq_of_front compiles compiles' nonempty segments_eq
    segments_eq' notRoot
  obtain ⟨count, isAfterFirst⟩ : ∃ count, compiled.optionalFrom = count + 1 := by
    apply Nat.exists_eq_succ_of_ne_zero
    rw [compiles.optionalFrom_eq, segments_eq]
    exact (optionalStart_pos ..).ne'
  obtain ⟨first, others, trimmed_eq, trimmed_eq'⟩ :=
    exists_trimmed_cons_literal compiled.leadSeparator front
      (compiles.nonempty_of_segments_eq segments_eq) (rest.take count)
  have fixed_eq := assembled.fixed_eq
  have fixed_eq' := assembled'.fixed_eq
  rw [segments_eq, isAfterFirst, List.take_succ_cons, trimmed_eq] at fixed_eq
  rw [segments_eq', leadSeparator_eq, optionalFrom_eq, isAfterFirst, List.take_succ_cons,
    trimmed_eq'] at fixed_eq'
  obtain ⟨slot, between, rfl, isFirst, between_eq⟩ := List.map_eq_cons_iff.mp fixed_eq
  obtain ⟨slot', between', rfl, isFirst', between_eq'⟩ := List.map_eq_cons_iff.mp fixed_eq'
  obtain rfl := Slot.eq_literal_of_segment isFirst
  obtain rfl := Slot.eq_literal_of_segment isFirst'
  -- What stands behind the first literal has the same segments, and these have the same places.
  have sameSegments : (between' ++ optional').map Slot.segment =
      (between ++ optional).map Slot.segment := by
    rw [List.map_append, List.map_append, between_eq, between_eq', assembled.optional_eq,
      assembled'.optional_eq, optionalFrom_eq, isAfterFirst, segments_eq, segments_eq']
    rfl
  have sameSlots : between' ++ optional' = between ++ optional := by
    rw [List.cons_append] at follow follow'
    have followRest : Slot.FollowPlaces place (between ++ optional) :=
      (List.forall_mem_cons.mp follow).2
    have followRest' : Slot.FollowPlaces place (between' ++ optional') :=
      (List.forall_mem_cons.mp follow').2
    exact followRest'.eq_of_map_segment followRest sameSegments
  have sameLength : between'.length = between.length := by
    rw [← List.length_map Slot.segment, ← List.length_map Slot.segment, between_eq, between_eq']
  obtain ⟨rfl, rfl⟩ := List.append_inj sameSlots sameLength
  exact ⟨first, between', optional', assembled, assembled'⟩

theorem isFronted_of_compiles (regular : requirements.AreRegular compiled.variableNames) :
    IsFronted front compiled extended := by
  obtain ⟨first, between, optional, assembled, assembled'⟩ :=
    exists_sameSlots compiles compiles' nonempty segments_eq segments_eq' notRoot
  have leadSeparator_eq := leadSeparator_eq_of_front compiles compiles' nonempty segments_eq
    segments_eq' notRoot
  have variables_eq : extended.segments.filter Segment.isVariable =
      compiled.segments.filter Segment.isVariable := by
    rw [segments_eq, segments_eq']
    rfl
  obtain ⟨regularFixed, regularOptional⟩ :=
    List.forall_mem_append.mp (compiles.areRegular regular assembled)
  refine ⟨⟨(Slot.literal first :: between).flatMap Slot.trees ++
    (Slot.optionalTrees compiled.leadSeparator.toList optional ++ [.anchor .lastLineEnd]),
    fun chars => ?_, ?_, ?_⟩, ?_⟩
  · have ignoresEnd : Ignores chars (concat [.anchor .lastLineEnd]).ways := by
      rw [ways_concat_singleton]
      exact .lastLineEnd
    have fixedRegular : (concat ((Slot.literal first :: between).flatMap Slot.trees)).IsRegular := by
      apply concat_isRegular
      intro tree inFixed
      obtain ⟨slot, membership, inSlot⟩ := List.mem_flatMap.mp inFixed
      exact regularFixed slot membership tree inSlot
    have optionalRegular := concat_isRegular
      (isRegular_of_mem_optionalTrees regularOptional compiled.leadSeparator.toList)
    apply Ignores.concat_append (.of_isRegular fixedRegular)
    exact .concat_append (.of_isRegular optionalRegular) ignoresEnd
  · rw [assembled.regex_eq]
    simp
  · rw [assembled'.regex_eq, leadSeparator_eq]
    simp [Slot.trees, String.toList_append]
  · rw [assembled.names_eq, assembled'.names_eq,
      compiles.requirements_eq_of_filter_eq compiles' variables_eq]
    rfl

end

/-! ### Matches -/

theorem ways_literal (chars before rest : List Char) (captures : Captures) :
    (concat (chars.map Slot.charTree)).ways ⟨⟨before, chars ++ rest⟩, captures⟩ =
      [⟨⟨chars.reverse ++ before, rest⟩, captures⟩] := by
  induction chars generalizing before with
  | nil => rfl
  | cons char others inductionHypothesis =>
      simp only [List.map_cons, concat, ways, List.cons_append]
      rw [Slot.charTree, ways_oneOf_cons (Slot.contains_single_iff.mpr rfl),
        List.flatMap_singleton, inductionHypothesis, List.reverse_cons, List.append_assoc,
        List.singleton_append]

section

variable (fronted : IsFronted front compiled extended)

include fronted

theorem IsFronted.fullMatch?_append (rest : String) :
    extended.expression.fullMatch? (front ++ rest) = compiled.expression.fullMatch? rest := by
  obtain ⟨trees, ignores, regex_eq, regex_eq'⟩ := fronted.regex_eq
  have takes : (concat (front.toList.map Slot.charTree)).ways
      ⟨.start (front.toList ++ rest.toList), []⟩ = [State.behind front.toList
        ⟨.start rest.toList, []⟩] := by
    rw [Cursor.start, ways_literal, List.append_nil]
    rfl
  rw [Expression.fullMatch?, Expression.fullMatch?, regex_eq, regex_eq', fronted.names_eq,
    String.toList_append, Regex.fullMatch?_append takes (ignores _)]

/-- No path without the front is taken. -/
theorem IsFronted.fullMatch?_eq_none {path : String} (other : ∀ rest, path ≠ front ++ rest) :
    extended.expression.fullMatch? path = none := by
  obtain ⟨trees, -, -, regex_eq⟩ := fronted.regex_eq
  rw [Expression.fullMatch?, Option.map_eq_none_iff]
  by_contra isTaken
  obtain ⟨captures, found⟩ := Option.ne_none_iff_exists'.mp isTaken
  obtain ⟨last, membership, -, -⟩ := mem_ways_of_fullMatch? found
  rw [regex_eq, concat, ways, List.mem_flatMap] at membership
  obtain ⟨start, atStart, goesOn⟩ := membership
  obtain ⟨-, rfl⟩ := mem_ways_anchor.mp atStart
  obtain ⟨middle, inFront, -⟩ := mem_ways_concat_append.mp goesOn
  obtain ⟨passes, -⟩ := Slot.passes_of_mem_literal inFront
  have path_eq : path.toList = front.toList ++ middle.cursor.after := passes.1
  apply other (String.ofList middle.cursor.after)
  rw [← String.toList_inj, String.toList_append, String.toList_ofList, path_eq]

end

end CompiledTemplate

end UrlRouting
