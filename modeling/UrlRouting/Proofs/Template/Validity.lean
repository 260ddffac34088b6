import UrlRouting.Proofs.Regex.Attachment
import UrlRouting.Proofs.Template.Placement

/-!
# Which templates have an expression

Whether the text that is made of segments is an expression hangs on their variables, with the
sources of these, but neither on the literals between them nor on which of the variables may be left
out (`CompiledTemplate.Compiles.exists_expression_of_filter_eq`).
-/

namespace UrlRouting

open Regex

/-! ### Readings without their items -/

theorem Regex.Progress.Gains.pushAll (progress : Progress) (items : List Item) :
    progress.Gains (progress.pushAll items) [] :=
  { Progress.Gains.refl progress with flags := rfl, opening := rfl }

theorem Slot.ArePlaced.exists_of_append {sources : String → String} {before after : Groups}
    {slots more : List Slot} {finals : List Progress}
    (placed : ArePlaced sources before (slots ++ more) finals after) :
    ∃ middle firstFinals moreFinals, finals = firstFinals ++ moreFinals ∧
      ArePlaced sources before slots firstFinals middle ∧
      ArePlaced sources middle more moreFinals after := by
  induction slots generalizing before finals with
  | nil => exact ⟨before, [], finals, rfl, .nil before, placed⟩
  | cons slot rest inductionHypothesis =>
      cases placed with
      | literal text placedRest =>
          obtain ⟨middle, firstFinals, moreFinals, rfl, first, second⟩ :=
            inductionHypothesis placedRest
          exact ⟨middle, firstFinals, moreFinals, rfl, .literal text first, second⟩
      | @group _ _ _ _ _ converter final allows bracketed placedRest =>
          obtain ⟨middle, firstFinals, moreFinals, rfl, first, second⟩ :=
            inductionHypothesis placedRest
          exact ⟨middle, final :: firstFinals, moreFinals, rfl,
            .group converter allows bracketed first, second⟩

namespace CompiledTemplate

variable {requirements : List (String × String)} {progress : Progress} {more : List Char}
  {before after : Groups} {slots : List Slot} {finals : List Progress}

section

variable (unflagged : progress.frame.flags = .none) (ends : '$' ∈ more)

include unflagged ends

theorem readAll_groupText {name : String} (named : ∀ char ∈ name.toList, Segment.isNameChar char)
    (allows : progress.groups.bare.Allows name) {final : Progress}
    (bracketed : IsBracketed (progress.groups.bare.named name) (progress.groups.bare.count + 1)
      (sourceOf requirements name) final) :
    ∃ next, readAll progress (Token.ofChars (groupText requirements name ++ more)) =
        readAll next (Token.ofChars more) ∧
      progress.Gains next [final] ∧ next.groups.bare = (final.groups.close final.frame).bare := by
  have inside : '>' ∉ name.toList := fun membership => absurd (named _ membership) (by decide)
  have endsSource : '$' ∈ (sourceOf requirements name).toList ++ ')' :: more :=
    List.mem_append_right _ (List.mem_cons_of_mem _ ends)
  obtain ⟨start, opens⟩ := readAll_namedGroup unflagged inside ⟨allows.isName, allows.fresh⟩
    (Token.ofChars_ne_dangling (by decide) endsSource)
  have same : ({ progress with groups := progress.groups.named name } : Progress).groups.bare =
      (progress.groups.bare.named name).bare := rfl
  obtain ⟨next, closes, gains, groups_eq⟩ :=
    bracketed.readAll_eq same start (Token.ofChars_ne_dangling (by decide) ends)
  refine ⟨next, ?_, { gains with }, groups_eq⟩
  rw [ofChars_groupText named, opens]
  exact closes

/-- Slots that have their places are read to them wherever they stand. -/
theorem readAll_flatMap_slotText
    (placed : Slot.ArePlaced (sourceOf requirements) before slots finals after)
    (same : progress.groups.bare = before)
    (readable : Readable (sourceOf requirements) (slots.map Slot.segment)) :
    ∃ next, readAll progress
          (Token.ofChars ((slots.map Slot.segment).flatMap (slotText requirements) ++ more)) =
        readAll next (Token.ofChars more) ∧
      progress.Gains next finals ∧ next.groups.bare = after := by
  induction placed generalizing progress with
  | nil => exact ⟨progress, rfl, .refl progress, same⟩
  | @literal before after slots finals text _ inductionHypothesis =>
      have endsRest : '$' ∈ (slots.map Slot.segment).flatMap (slotText requirements) ++ more :=
        List.mem_append_right _ ends
      have gainsLiteral := Progress.Gains.pushAll progress
        (text.toList.map fun char => .other (Slot.charTree char))
      obtain ⟨next, reads, gains, groups_eq⟩ :=
        inductionHypothesis (gainsLiteral.flags.trans unflagged) same readable.tail
      refine ⟨next, ?_, gainsLiteral.trans gains, groups_eq⟩
      rw [← reads, List.map_cons, List.flatMap_cons, List.append_assoc]
      exact readAll_escaped unflagged text.toList endsRest
  | @group before after slots finals name converter final allows bracketed _ inductionHypothesis =>
      subst same
      have endsRest : '$' ∈ (slots.map Slot.segment).flatMap (slotText requirements) ++ more :=
        List.mem_append_right _ ends
      obtain ⟨named, -⟩ := readable _ (List.mem_cons_self ..) name rfl
      obtain ⟨middle, readsGroup, gainsGroup, groupsMiddle⟩ :=
        readAll_groupText unflagged endsRest named allows bracketed
      obtain ⟨next, reads, gains, groups_eq⟩ :=
        inductionHypothesis (gainsGroup.flags.trans unflagged) groupsMiddle readable.tail
      refine ⟨next, ?_, gainsGroup.trans gains, groups_eq⟩
      rw [← reads, ← readsGroup, List.map_cons, List.flatMap_cons, List.append_assoc]
      rfl

/-- Slots may be nested in optional brackets as well. -/
theorem readAll_optionalText_eq
    (placed : Slot.ArePlaced (sourceOf requirements) before slots finals after)
    (same : progress.groups.bare = before)
    (readable : Readable (sourceOf requirements) (slots.map Slot.segment)) (chars : List Char)
    (bare : ∀ char, more.head? = some char → char ≠ '?' ∧ char ≠ '+') :
    ∃ next, readAll progress
          (Token.ofChars (optionalText requirements chars (slots.map Slot.segment) ++ more)) =
        readAll next (Token.ofChars more) ∧
      progress.Gains next finals ∧ next.groups.bare = after := by
  induction placed generalizing progress chars more with
  | nil => exact ⟨progress, rfl, .refl progress, same⟩
  | literal text _ inductionHypothesis =>
      exact inductionHypothesis unflagged ends same readable.tail text.toList bare
  | @group before after slots finals name converter final allows bracketed _ inductionHypothesis =>
      subst same
      have written : optionalText requirements chars
            ((Slot.group name converter (progress.groups.bare.count + 1) final.frame.body ::
              slots).map Slot.segment) ++ more =
          '(' :: '?' :: ':' :: (escaped chars ++ (groupText requirements name ++
            (optionalText requirements [] (slots.map Slot.segment) ++ ')' :: '?' :: more))) := by
        simp [optionalText, Slot.segment]
      have endsInside : '$' ∈ ')' :: '?' :: more := by simp [ends]
      have endsRest : '$' ∈ optionalText requirements [] (slots.map Slot.segment) ++
          ')' :: '?' :: more := List.mem_append_right _ endsInside
      have endsGroup : '$' ∈ groupText requirements name ++
          (optionalText requirements [] (slots.map Slot.segment) ++ ')' :: '?' :: more) :=
        List.mem_append_right _ endsRest
      obtain ⟨named, -⟩ := readable _ (List.mem_cons_self ..) name rfl
      obtain ⟨start, opens⟩ := readAll_group unflagged
        (Token.ofChars_ne_dangling (by decide) (List.mem_append_right (escaped chars) endsGroup))
      have gainsLiteral := Progress.Gains.pushAll (progress.enter .plain start .none)
        (chars.map fun char => .other (Slot.charTree char))
      obtain ⟨middle, readsGroup, gainsGroup, groupsMiddle⟩ :=
        readAll_groupText gainsLiteral.flags endsRest named allows bracketed
      obtain ⟨last, readsRest, gainsRest, groups_eq⟩ :=
        inductionHypothesis (gainsGroup.flags.trans gainsLiteral.flags) endsInside groupsMiddle
          readable.tail [] (by simp)
      have gains := (gainsLiteral.trans gainsGroup).trans gainsRest
      have closes := readAll_optionalUnit ends gains.outer gains.opening unflagged bare
      refine ⟨_, Eq.trans ?_ closes,
        ⟨rfl, rfl, rfl, gains.wholeFlags, gains.mentions, gains.variableLookbehind⟩, groups_eq⟩
      rw [written]
      iterate 3 rw [Token.ofChars_cons (by decide)]
      rw [opens, readAll_escaped rfl _ endsGroup, readsGroup, readsRest]
      iterate 2 rw [Token.ofChars_cons (by decide)]

end

/-! ### Whole expressions -/

/-- The whole text that segments make is read, and nothing is left open but what the sources of the
variables left open. -/
theorem readAll_sourceText
    (placed : Slot.ArePlaced (sourceOf requirements) .none slots finals after)
    (readable : Readable (sourceOf requirements) (slots.map Slot.segment))
    {segments : List Segment} {optionalFrom : Nat} {lead : Option Char}
    (same : slots.map Slot.segment =
      trimmed lead (segments.take optionalFrom) ++ segments.drop optionalFrom) {text : List Char}
    (source : (sourceText requirements segments optionalFrom lead).toList = text) (size : Nat) :
    Token.ofChars text ≠ [.dangling] ∧
      ∃ last, readAll (.start size) (Token.ofChars text) = .ok last ∧
        Progress.Gains (.start size) last finals ∧ last.groups.bare = after := by
  obtain ⟨fixed, optional, rfl, fixed_eq, optional_eq⟩ := List.map_eq_append_iff.mp same
  obtain ⟨middle, fixedFinals, optionalFinals, rfl, placedFixed, placedOptional⟩ :=
    placed.exists_of_append
  rw [List.map_append] at readable
  have readableFixed : Readable (sourceOf requirements) (fixed.map Slot.segment) :=
    fun segment membership => readable segment (List.mem_append_left _ membership)
  have readableOptional : Readable (sourceOf requirements) (optional.map Slot.segment) :=
    fun segment membership => readable segment (List.mem_append_right _ membership)
  obtain rfl : '^' :: ((fixed.map Slot.segment).flatMap (slotText requirements) ++
      (optionalText requirements lead.toList (optional.map Slot.segment) ++ ['$'])) = text := by
    rw [← source]
    simp [sourceText, fixedText_eq_flatMap, fixed_eq, optional_eq]
  have endsOptional : '$' ∈
      optionalText requirements lead.toList (optional.map Slot.segment) ++ ['$'] := by simp
  have endsFixed : '$' ∈ (fixed.map Slot.segment).flatMap (slotText requirements) ++
      (optionalText requirements lead.toList (optional.map Slot.segment) ++ ['$']) :=
    List.mem_append_right _ endsOptional
  have gainsStart : Progress.Gains (.start size)
      ((Progress.start size).push (.anchor (.anchor .textStart))) [] :=
    { Progress.Gains.refl (.start size) with flags := rfl, opening := rfl }
  obtain ⟨next, readsFixed, gainsFixed, groupsMiddle⟩ :=
    readAll_flatMap_slotText (gainsStart.flags.trans rfl) endsOptional placedFixed rfl readableFixed
  obtain ⟨last, readsOptional, gainsOptional, groups_eq⟩ :=
    readAll_optionalText_eq (gainsFixed.flags.trans rfl) (List.mem_singleton_self _)
      placedOptional groupsMiddle readableOptional lead.toList (by simp)
  have gains := (gainsStart.trans gainsFixed).trans gainsOptional
  have unflagged : last.frame.flags = .none := gains.flags.trans rfl
  rw [Token.ofChars_cons (by decide)]
  refine ⟨by simp, last.push (.anchor (.anchor .lastLineEnd)), ?_, { gains with }, groups_eq⟩
  rw [readAll_textStart rfl (Token.ofChars_ne_dangling (by decide) endsFixed), readsFixed,
    readsOptional, Token.ofChars_cons (by decide),
    readAll_lastLineEnd unflagged (by simp [Token.ofChars]), Token.ofChars, readAll_nil]

/-- What can be told of readings in brackets only when the whole text has been read. -/
def AreSettled (finals : List Progress) (after : Groups) : Prop :=
  ∀ final ∈ finals, final.variableLookbehind = false ∧
    ∀ number ∈ final.groups.mentions, number ≤ after.count

theorem exists_finish_iff (closed : progress.outer = []) (unflagged : progress.wholeFlags = []) :
    (∃ last, finish progress = .ok last) ↔ progress.variableLookbehind = false ∧
      ∀ number ∈ progress.groups.mentions, number ≤ progress.groups.count := by
  have checked : checkWholeFlags progress = .ok () := by
    rw [checkWholeFlags, unflagged]
    rfl
  simp only [finish, closed, checked, Bind.bind, Except.bind, List.isEmpty_nil, Bool.not_true,
    Bool.false_eq_true, if_false]
  split
  · next number place found =>
      constructor
      · rintro ⟨last, finished⟩
        cases finished
      · rintro ⟨-, known⟩
        have isKnown := known number (List.mem_map_of_mem (List.mem_of_find?_eq_some found))
        have beyond : progress.groups.count < number := by simpa using List.find?_some found
        omega
  · next found =>
      have known : ∀ number ∈ progress.groups.mentions, number ≤ progress.groups.count := by
        intro number membership
        obtain ⟨mention, isMentioned, rfl⟩ := List.mem_map.mp membership
        simpa using List.find?_eq_none.mp found mention isMentioned
      cases progress.variableLookbehind with
      | true => simp
      | false => exact ⟨fun _ => ⟨rfl, known⟩, fun _ => ⟨progress, rfl⟩⟩

theorem exists_compile_iff {source : String} {last : Progress}
    (notAlone : Token.ofChars source.toList ≠ [.dangling])
    (reads : readAll (.start (Token.width (Token.ofChars source.toList)))
      (Token.ofChars source.toList) = .ok last) :
    (∃ expression, Expression.compile source = .ok expression) ↔
      ∃ finished, finish last = .ok finished := by
  have tokens : readTokens (Token.ofChars source.toList) = finish last := by
    rw [readTokens, Reader.guardRest_eq_ok_iff.mpr notAlone, reads]
    rfl
  simp only [Expression.compile, tokens]
  cases finish last <;> simp

/-- The text that segments make is an expression if nothing in the sources of their variables is
left open at its end. -/
theorem exists_compile_sourceText_iff
    (placed : Slot.ArePlaced (sourceOf requirements) .none slots finals after)
    (readable : Readable (sourceOf requirements) (slots.map Slot.segment))
    {segments : List Segment} {optionalFrom : Nat} {lead : Option Char}
    (same : slots.map Slot.segment =
      trimmed lead (segments.take optionalFrom) ++ segments.drop optionalFrom) :
    (∃ expression,
        Expression.compile (sourceText requirements segments optionalFrom lead) = .ok expression) ↔
      AreSettled finals after := by
  obtain ⟨notAlone, last, reads, gains, groups_eq⟩ :=
    readAll_sourceText placed readable same rfl (Token.width (Token.ofChars
      (sourceText requirements segments optionalFrom lead).toList))
  have noMentions (size number : Nat) : number ∉ (Progress.start size).groups.mentions :=
    List.not_mem_nil
  have isAny : last.variableLookbehind = finals.any (·.variableLookbehind) :=
    gains.variableLookbehind.trans (Bool.false_or _)
  have count_eq : last.groups.count = after.count := by
    rw [← groups_eq]
    rfl
  rw [exists_compile_iff notAlone reads, exists_finish_iff gains.outer gains.wholeFlags, isAny,
    count_eq]
  simp only [gains.mentions, noMentions, false_or, List.any_eq_false]
  constructor
  · rintro ⟨fixedWidths, known⟩ final membership
    exact ⟨by simpa using fixedWidths final membership,
      fun number mentioned => known number ⟨final, membership, mentioned⟩⟩
  · intro settled
    refine ⟨fun final membership => by simpa using (settled final membership).1, ?_⟩
    rintro number ⟨final, membership, mentioned⟩
    exact (settled final membership).2 number mentioned

/-- Other literals, or other variables with defaults, make an expression out of the same variables
as well. -/
theorem Compiles.exists_expression_of_filter_eq {template : String} {defaults : Attributes}
    {demands : Requirements} {compiled : CompiledTemplate}
    (compiles : Compiles template defaults demands compiled) {segments : List Segment}
    (same : segments.filter Segment.isVariable = compiled.segments.filter Segment.isVariable)
    (optionalFrom : Nat) (lead : Option Char) :
    ∃ expression, Expression.compile
      (sourceText compiled.requirements segments optionalFrom lead) = .ok expression := by
  obtain ⟨fixed, optional, finals, after, assembled, placed⟩ := exists_placed compiles
  have readable := readable_of_compiles compiles
  have isReadable {others : List Segment} (sameOthers : others.filter Segment.isVariable =
      compiled.segments.filter Segment.isVariable) :
      Readable (sourceOf compiled.requirements) others := by
    intro segment membership name isName
    have inFilter : segment ∈ others.filter Segment.isVariable :=
      List.mem_filter.mpr ⟨membership, by rw [Segment.isVariable, isName]; rfl⟩
    rw [sameOthers] at inFilter
    exact readable segment (List.mem_of_mem_filter inFilter) name isName
  have filter_eq (others : List Segment) (from' : Nat) (lead' : Option Char) :
      (trimmed lead' (others.take from') ++ others.drop from').filter Segment.isVariable =
        others.filter Segment.isVariable := by
    rw [List.filter_append, filter_trimmed, ← List.filter_append, List.take_append_drop]
  have segments_eq : (fixed ++ optional).map Slot.segment =
      trimmed compiled.leadSeparator (compiled.segments.take compiled.optionalFrom) ++
        compiled.segments.drop compiled.optionalFrom := by
    rw [List.map_append, assembled.fixed_eq, assembled.optional_eq]
  have settled := (exists_compile_sourceText_iff placed
    (segments_eq ▸ isReadable (filter_eq ..)) segments_eq).mp ⟨_, compiles.expression⟩
  obtain ⟨slots, slots_eq, placed'⟩ := placed.exists_of_segments
    (assembled.map_filter.trans (same.symm.trans (filter_eq segments optionalFrom lead).symm))
  exact (exists_compile_sourceText_iff placed'
    (slots_eq ▸ isReadable ((filter_eq ..).trans same)) slots_eq).mpr settled

end CompiledTemplate

end UrlRouting
