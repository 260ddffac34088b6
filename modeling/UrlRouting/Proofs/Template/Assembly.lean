import UrlRouting.Proofs.Regex.Source
import UrlRouting.Proofs.Template.Forms

/-!
# The expression of a template

The text of the expression of a template is read segment by segment: each literal gives the
characters that it is made of, and each variable a group that holds the expression of its
requirement (`CompiledTemplate.exists_assembled`).
-/

namespace UrlRouting

open Regex

/-- A segment as it stands in the expression: a literal, or a variable with its group. -/
inductive Slot where
  | literal (text : String)
  | group (name : String) (converter : Option Converter) (number : Nat) (body : Regex)

namespace Slot

def segment : Slot → Segment
  | literal text => .literal text
  | group name converter _ _ => .var name converter

def charTree (char : Char) : Regex := .oneOf ⟨false, [.single char.toNat], .exact⟩

def trees : Slot → List Regex
  | literal text => text.toList.map charTree
  | group _ _ number body => [.group number body]

def numbers : Slot → List Nat
  | literal _ => []
  | group _ _ number body => number :: body.numbers

def named? : Slot → Option (String × Nat)
  | literal _ => none
  | group name _ number _ => some (name, number)

theorem map_fst_filterMap {α : Type} {found : Slot → Option (String × α)}
    (named : ∀ slot, (found slot).map (·.1) = slot.segment.variableName?) (slots : List Slot) :
    (slots.filterMap found).map (·.1) = (slots.map segment).filterMap (·.variableName?) := by
  rw [List.map_filterMap, List.filterMap_map]
  exact List.filterMap_congr fun slot _ => named slot

theorem map_fst_filterMap_named (slots : List Slot) :
    (slots.filterMap named?).map (·.1) = (slots.map segment).filterMap (·.variableName?) :=
  map_fst_filterMap (fun slot => by cases slot <;> rfl) slots

/-- The named groups of a slot: that of its variable, and those of the variable's source, whose
numbers count on from it. -/
def names (sources : String → String) : Slot → List (String × Nat)
  | literal _ => []
  | group name _ number _ =>
      (name, number) ::
        match Expression.compile (sources name) with
        | .ok expression => expression.names.map fun (inner, count) => (inner, count + number)
        | .error _ => []

/-- The group of a variable holds the expression that is read from the variable's source. -/
def Holds (sources : String → String) : Slot → Prop
  | literal _ => True
  | group name _ number body =>
      ∃ expression limit, Expression.compile (sources name) = .ok expression ∧
        expression.regex.Mirrors number limit expression.regex.IsByName body

/-- The groups of one slot come before those of another one. -/
def Precedes (first second : Slot) : Prop :=
  ∀ number ∈ first.numbers, ∀ other ∈ second.numbers, number < other

theorem Precedes.disjoint {first second : Slot} (precedes : first.Precedes second) :
    first.numbers.Disjoint second.numbers :=
  fun number inFirst inSecond => Nat.lt_irrefl _ (precedes number inFirst number inSecond)

/-- Slots that have their group numbers, above `low` and up to `high`, in order. -/
structure Between (low high : Nat) (slots : List Slot) : Prop where
  le : low ≤ high
  bounds : ∀ slot ∈ slots, ∀ number ∈ slot.numbers, low < number ∧ number ≤ high
  ordered : slots.Pairwise Precedes

theorem Between.nil (low : Nat) : Between low low [] := ⟨le_rfl, by simp, .nil⟩

theorem Between.single {low high : Nat} {slot : Slot} (le : low ≤ high)
    (bounds : ∀ number ∈ slot.numbers, low < number ∧ number ≤ high) :
    Between low high [slot] :=
  ⟨le, fun _ membership => List.mem_singleton.mp membership ▸ bounds,
    List.pairwise_singleton ..⟩

theorem Between.append {low middle high : Nat} {slots more : List Slot}
    (between : Between low middle slots) (betweenMore : Between middle high more) :
    Between low high (slots ++ more) := by
  refine ⟨between.le.trans betweenMore.le, ?_, ?_⟩
  · intro slot membership number inSlot
    rcases List.mem_append.mp membership with inFirst | inSecond
    · have := between.bounds slot inFirst number inSlot
      exact ⟨this.1, this.2.trans betweenMore.le⟩
    · have := betweenMore.bounds slot inSecond number inSlot
      exact ⟨between.le.trans_lt this.1, this.2⟩
  · refine List.pairwise_append.mpr ⟨between.ordered, betweenMore.ordered, ?_⟩
    intro first inFirst second inSecond number inOne other inOther
    have below := (between.bounds first inFirst number inOne).2
    have above := (betweenMore.bounds second inSecond other inOther).1
    omega

/-- Each group of slots is what the source of its variable becomes behind the groups before it, read
to one of `finals`; of `before` and `after` the slots, places do not matter. -/
inductive ArePlaced (sources : String → String) : (before : Groups) → List Slot →
    (finals : List Progress) → (after : Groups) → Prop where
  | nil (groups : Groups) : ArePlaced sources groups [] [] groups
  | literal {before after : Groups} {slots : List Slot} {finals : List Progress} (text : String) :
      ArePlaced sources before slots finals after →
      ArePlaced sources before (.literal text :: slots) finals after
  | group {before after : Groups} {slots : List Slot} {finals : List Progress} {name : String}
      (converter : Option Converter) {final : Progress} :
      before.Allows name →
      IsBracketed (before.named name) (before.count + 1) (sources name) final →
      ArePlaced sources (final.groups.close final.frame).bare slots finals after →
      ArePlaced sources before
        (.group name converter (before.count + 1) final.frame.body :: slots) (final :: finals)
        after

theorem ArePlaced.append {sources : String → String} {before middle after : Groups}
    {slots more : List Slot} {finals moreFinals : List Progress}
    (placed : ArePlaced sources before slots finals middle)
    (placedMore : ArePlaced sources middle more moreFinals after) :
    ArePlaced sources before (slots ++ more) (finals ++ moreFinals) after := by
  induction placed with
  | nil => exact placedMore
  | literal text _ inductionHypothesis => exact .literal text (inductionHypothesis placedMore)
  | group converter allows bracketed _ inductionHypothesis =>
      exact .group converter allows bracketed (inductionHypothesis placedMore)

/-- The slots that may be left out, as the nested expression that they are read to; `before` is
the literal since the last variable. -/
def optionalTrees (before : List Char) : List Slot → List Regex
  | [] => []
  | literal text :: rest => optionalTrees text.toList rest
  | group _ _ number body :: rest =>
      [.repeated 0 (some 1) .greedy
        (concat (before.map charTree ++ .group number body :: optionalTrees [] rest))]

end Slot

/-! ### Reading segments -/

/-- Items are added to the bracket under way. -/
def Regex.Progress.pushAll (progress : Progress) (items : List Item) : Progress :=
  { progress with frame := { progress.frame with items := items.reverse ++ progress.frame.items } }

theorem Regex.Progress.pushAll_cons (progress : Progress) (item : Item) (items : List Item) :
    progress.pushAll (item :: items) = (progress.push item).pushAll items := by
  simp [pushAll, push, Frame.push]

/-- Items and names are added to what has been read. -/
structure Regex.Progress.Adds (first last : Progress) (items : List Item)
    (names : List (String × Nat)) : Prop where
  frame : last.frame = { first.frame with items := items.reverse ++ first.frame.items }
  outer : last.outer = first.outer
  names : last.groups.names = first.groups.names ++ names

namespace Regex.Progress.Adds

variable {first middle last : Progress} {items moreItems : List Item}
  {names moreNames : List (String × Nat)}

theorem refl (progress : Progress) : progress.Adds progress [] [] := ⟨rfl, rfl, by simp⟩

theorem trans (adds : first.Adds middle items names)
    (addsMore : middle.Adds last moreItems moreNames) :
    first.Adds last (items ++ moreItems) (names ++ moreNames) := by
  refine ⟨?_, addsMore.outer.trans adds.outer, ?_⟩
  · rw [addsMore.frame, adds.frame]
    simp
  · rw [addsMore.names, adds.names, List.append_assoc]

theorem pushAll (progress : Progress) (items : List Item) :
    progress.Adds (progress.pushAll items) items [] :=
  ⟨rfl, rfl, (List.append_nil _).symm⟩

/-- A plain bracket becomes the sequence of all that was added inside of it. -/
theorem body_eq {start : Nat} {flags : Flags}
    (adds : (first.enter .plain start flags).Adds last items names) :
    last.frame.body = concat (items.map (·.regex)) := by
  rw [adds.frame]
  simp [Frame.body, Frame.sequence, Progress.enter, Frame.opened, anyOf]

end Regex.Progress.Adds

/-- A part of a template is read outside of all flags, no name has come twice before, and no group
that is yet to come has closed. -/
structure Regex.Progress.IsReady (progress : Progress) : Prop where
  unflagged : progress.frame.flags = .none
  nodup : (progress.groups.names.map (·.1)).Nodup
  bounded : progress.groups.IsBounded

/-- Segments that have been read to slots, one for each, with the items that were added. -/
structure Slot.AreRead (sources : String → String) (segments : List Segment) (slots : List Slot)
    (items : List Item) (first last : Progress) : Prop where
  segments : slots.map Slot.segment = segments
  adds : first.Adds last items (slots.flatMap (Slot.names sources))
  ready : last.IsReady
  between : Slot.Between first.groups.count last.groups.count slots
  holds : ∀ slot ∈ slots, slot.Holds sources
  placed : ∃ finals, Slot.ArePlaced sources first.groups.bare slots finals last.groups.bare

namespace Slot.AreRead

variable {sources : String → String} {segments moreSegments : List Segment}
  {slots moreSlots : List Slot} {items moreItems : List Item} {first middle last : Progress}

theorem nil {progress : Progress} (ready : progress.IsReady) :
    AreRead sources [] [] [] progress progress :=
  ⟨rfl, .refl progress, ready, .nil _, by simp, [], .nil _⟩

theorem append (read : AreRead sources segments slots items first middle)
    (readMore : AreRead sources moreSegments moreSlots moreItems middle last) :
    AreRead sources (segments ++ moreSegments) (slots ++ moreSlots) (items ++ moreItems)
      first last := by
  obtain ⟨finals, placed⟩ := read.placed
  obtain ⟨moreFinals, placedMore⟩ := readMore.placed
  refine ⟨?_, ?_, readMore.ready, read.between.append readMore.between, ?_,
    finals ++ moreFinals, placed.append placedMore⟩
  · rw [List.map_append, read.segments, readMore.segments]
  · rw [List.flatMap_append]
    exact read.adds.trans readMore.adds
  · intro slot membership
    rcases List.mem_append.mp membership with inFirst | inSecond
    · exact read.holds slot inFirst
    · exact readMore.holds slot inSecond

/-- Where literals are not read to items, they can be counted as read. -/
theorem literal_cons (ready : first.IsReady)
    (read : AreRead sources segments slots items first last) (text : String) :
    AreRead sources (.literal text :: segments) (.literal text :: slots) items first last := by
  have literal : AreRead sources [.literal text] [.literal text] [] first first :=
    ⟨rfl, .refl first, ready, .single le_rfl (by simp [Slot.numbers]), by simp [Slot.Holds],
      [], .literal text (.nil _)⟩
  exact literal.append read

end Slot.AreRead

namespace CompiledTemplate

/-- Segments that can be part of an expression: names are names, and what stands for the variables
are expressions on their own. -/
def Readable (sources : String → String) (segments : List Segment) : Prop :=
  ∀ segment ∈ segments, ∀ name, segment.variableName? = some name →
    (∀ char ∈ name.toList, Segment.isNameChar char) ∧
      ∃ expression, Expression.compile (sources name) = .ok expression

theorem Readable.head {sources : String → String} {segment : Segment} {rest : List Segment}
    (readable : Readable sources (segment :: rest)) : Readable sources [segment] := by
  intro other membership
  rw [List.mem_singleton.mp membership]
  exact readable segment (List.mem_cons_self ..)

theorem Readable.tail {sources : String → String} {segment : Segment} {rest : List Segment}
    (readable : Readable sources (segment :: rest)) : Readable sources rest :=
  fun other membership => readable other (List.mem_cons_of_mem _ membership)

theorem reads_escape_of_special {char : Char} (special : char ∈ specialChars)
    (input : List Token) :
    Reader.Reads (Escape.inExpression char) input (.code char.toNat) input := by
  have different {other : Char} (ordinary : other ∉ specialChars) : char ≠ other := by
    rintro rfl
    exact ordinary special
  have kinds : specialChars.all fun char => Escape.shorthand? char = none ∧ (char == '0') = false ∧
      char.isDigit = false ∧ char.isAlpha = false := by decide
  have controls : specialChars.all fun char => Escape.control? char = none ∨
      Escape.control? char = some char.toNat := by decide
  obtain ⟨noShorthand, notZero, notDigit, notAlpha⟩ :=
    of_decide_eq_true (List.all_eq_true.mp kinds char special)
  have other : Escape.otherCode char = Reader.pure char.toNat := by
    unfold Escape.otherCode
    split
    iterate 4 exact absurd rfl (different (by decide))
    rw [Escape.literalCode, if_neg (by rw [notAlpha]; exact Bool.false_ne_true)]
  unfold Escape.inExpression
  split
  iterate 4 exact absurd rfl (different (by decide))
  rcases of_decide_eq_true (List.all_eq_true.mp controls char special) with
    noControl | isControl
  · simp only [noShorthand, noControl, notZero, notDigit, other, Bool.false_eq_true, if_false]
    exact Reader.reads_bind.mpr ⟨_, _, Reader.reads_pure.mpr ⟨rfl, rfl⟩, by simp⟩
  · simp only [noShorthand, isControl, Reader.reads_return, and_self]

theorem readAll_escaped {progress : Progress} (unflagged : progress.frame.flags = .none)
    (chars : List Char) {more : List Char} (ends : '$' ∈ more) :
    readAll progress (Token.ofChars (escaped chars ++ more)) =
      readAll (progress.pushAll (chars.map fun char => .other (Slot.charTree char)))
        (Token.ofChars more) := by
  induction chars generalizing progress with
  | nil => rfl
  | cons char rest inductionHypothesis =>
      have guard : Token.ofChars (escaped rest ++ more) ≠ [.dangling] :=
        Token.ofChars_ne_dangling (by decide) (List.mem_append_right _ ends)
      have reads : readAll progress (Token.ofChars (escaped (char :: rest) ++ more)) =
          readAll (progress.pushCode char.toNat) (Token.ofChars (escaped rest ++ more)) := by
        rw [escaped, List.flatMap_cons, List.append_assoc]
        by_cases special : char ∈ specialChars
        · rw [if_pos (by simpa using special), List.cons_append, List.cons_append,
            List.nil_append, Token.ofChars_escaped]
          exact Regex.readAll_escaped (reads_escape_of_special special) guard
        · have ordinary : char ∉ operators := by
            have subset : operators ⊆ specialChars := by decide
            exact fun isOperator => special (subset isOperator)
          have plain : char ≠ '\\' := by
            rintro rfl
            exact ordinary (by decide)
          rw [if_neg (by simpa using special), List.cons_append, List.nil_append,
            Token.ofChars_cons plain]
          exact readAll_plain unflagged guard ordinary
      have isTree : progress.pushCode char.toNat =
          progress.push (.other (Slot.charTree char)) := by
        simp [Progress.pushCode, Progress.pushSet, Slot.charTree, unflagged, Flags.caseRule,
          Flags.none]
      rw [reads, isTree, List.map_cons, Progress.pushAll_cons]
      exact inductionHypothesis unflagged

theorem ofChars_groupText {name : String} (named : ∀ char ∈ name.toList, Segment.isNameChar char)
    (requirements : List (String × String)) (more : List Char) :
    Token.ofChars (groupText requirements name ++ more) =
      .plain '(' :: .plain '?' :: .plain 'P' :: .plain '<' ::
        (name.toList.map .plain ++ .plain '>' ::
          Token.ofChars ((sourceOf requirements name).toList ++ ')' :: more)) := by
  have plain : '\\' ∉ name.toList := fun membership => absurd (named _ membership) (by decide)
  have written : groupText requirements name ++ more = '(' :: '?' :: 'P' :: '<' ::
      (name.toList ++ '>' :: ((sourceOf requirements name).toList ++ ')' :: more)) := by
    simp [groupText]
  rw [written]
  iterate 4 rw [Token.ofChars_cons (by decide)]
  rw [Token.ofChars_map_append plain, Token.ofChars_cons (by decide)]

section

variable {progress whole : Progress} (ready : progress.IsReady) {more : List Char}
  (ends : '$' ∈ more)

include ready ends

/-- The group of a variable needs a source that is an expression on its own. -/
theorem readAll_variable {requirements : List (String × String)} {name : String}
    {converter : Option Converter}
    (readable : Readable (sourceOf requirements) [.var name converter])
    (reads : readAll progress (Token.ofChars (groupText requirements name ++ more)) = .ok whole) :
    ∃ number body next,
      Slot.AreRead (sourceOf requirements) [.var name converter]
        [.group name converter number body] [.other (.group number body)] progress next ∧
      readAll next (Token.ofChars more) = .ok whole := by
  obtain ⟨named, expression, compiles⟩ := readable _ (List.mem_singleton_self _) name rfl
  have inside : '>' ∉ name.toList := fun membership => absurd (named _ membership) (by decide)
  have guard : Token.ofChars ((sourceOf requirements name).toList ++ ')' :: more) ≠ [.dangling] :=
    Token.ofChars_ne_dangling (by decide) (List.mem_append_right _ (List.mem_cons_of_mem _ ends))
  rw [ofChars_groupText named] at reads
  have allows := allows_of_readAll_namedGroup ready.unflagged inside guard reads
  obtain ⟨start, readsInside⟩ := readAll_namedGroup ready.unflagged inside allows guard
  rw [readsInside] at reads
  have nodupInside : ((progress.groups.named name).names.map (·.1)).Nodup :=
    nodup_append_of_lookup ready.nodup allows.fresh _
  have boundedInside : (progress.groups.named name).IsBounded :=
    ready.bounded.mono (Nat.le_succ _) rfl
  obtain ⟨final, next, mirrors, bracketed, groups_eq, frame, outer, names', nodup, bounded, le,
    readsMore⟩ := readAll_capture compiles nodupInside boundedInside le_rfl
      (Token.ofChars_ne_dangling (by decide) ends) reads
  have unflagged : next.frame.flags = .none := by
    rw [frame]
    exact ready.unflagged
  dsimp only [Groups.named] at mirrors le names'
  have placed : Slot.ArePlaced (sourceOf requirements) progress.groups.bare
      [.group name converter (progress.groups.count + 1) final.frame.body] [final]
      next.groups.bare := by
    rw [groups_eq]
    exact .group converter ⟨allows.isName, allows.fresh⟩ (bracketed.congr rfl) (.nil _)
  refine ⟨progress.groups.count + 1, final.frame.body, next,
    ⟨rfl, ⟨frame, outer, ?_⟩, ⟨unflagged, nodup, bounded⟩, ?_, ?_, [final], placed⟩, readsMore⟩
  · simp [names', Slot.names, compiles]
  · refine .single ((Nat.le_succ _).trans le) ?_
    intro other inSlot
    rcases List.mem_cons.mp inSlot with rfl | inBody
    · exact ⟨Nat.lt_succ_self _, le⟩
    · have bounds := mirrors.mem_numbers inBody
      exact ⟨(Nat.lt_succ_self _).trans bounds.1, bounds.2⟩
  · intro slot membership
    rw [List.mem_singleton.mp membership]
    exact ⟨expression, _, compiles, mirrors⟩

def slotText (requirements : List (String × String)) : Segment → List Char
  | .literal text => escaped text.toList
  | .var name _ => groupText requirements name

theorem readAll_slot {requirements : List (String × String)} {segment : Segment}
    (readable : Readable (sourceOf requirements) [segment])
    (reads : readAll progress (Token.ofChars (slotText requirements segment ++ more)) =
      .ok whole) :
    ∃ slot next,
      Slot.AreRead (sourceOf requirements) [segment] [slot] (slot.trees.map .other)
        progress next ∧
      readAll next (Token.ofChars more) = .ok whole := by
  cases segment with
  | literal text =>
      rw [slotText, readAll_escaped ready.unflagged _ ends] at reads
      have readyNext : (progress.pushAll
          (text.toList.map fun char => .other (Slot.charTree char))).IsReady :=
        ⟨ready.unflagged, ready.nodup, ready.bounded⟩
      refine ⟨.literal text, _, ⟨rfl, ?_, readyNext, .single le_rfl (by simp [Slot.numbers]),
        by simp [Slot.Holds], [], .literal text (.nil _)⟩, reads⟩
      simp only [Slot.trees, List.map_map, Function.comp_def]
      exact .pushAll progress _
  | var name converter =>
      obtain ⟨number, body, next, read, readsMore⟩ := readAll_variable ready ends readable reads
      exact ⟨.group name converter number body, next, read, readsMore⟩

theorem readAll_slots {requirements : List (String × String)} {segments : List Segment}
    (readable : Readable (sourceOf requirements) segments)
    (reads : readAll progress
      (Token.ofChars (segments.flatMap (slotText requirements) ++ more)) = .ok whole) :
    ∃ slots next,
      Slot.AreRead (sourceOf requirements) segments slots
        ((slots.flatMap Slot.trees).map .other) progress next ∧
      readAll next (Token.ofChars more) = .ok whole := by
  induction segments generalizing progress with
  | nil => exact ⟨[], progress, .nil ready, reads⟩
  | cons segment rest inductionHypothesis =>
      rw [List.flatMap_cons, List.append_assoc] at reads
      obtain ⟨slot, middle, read, readsRest⟩ :=
        readAll_slot ready (List.mem_append_right _ ends) readable.head reads
      obtain ⟨slots, next, readRest, readsMore⟩ :=
        inductionHypothesis read.ready readable.tail readsRest
      refine ⟨slot :: slots, next, ?_, readsMore⟩
      rw [List.flatMap_cons, List.map_append]
      exact read.append readRest

omit ready in
/-- A plain bracket that is made optional becomes one repetition. -/
theorem readAll_optionalUnit {frame : Frame} {outer : List Frame}
    (stack : progress.outer = frame :: outer) (isPlain : progress.frame.opening = .plain)
    (unflagged : frame.flags = .none)
    (bare : ∀ char, more.head? = some char → char ≠ '?' ∧ char ≠ '+') :
    readAll progress (.closing :: .plain '?' :: Token.ofChars more) =
      readAll { progress with
        frame := frame.push (.repetition (.repeated 0 (some 1) .greedy progress.frame.body))
        outer := outer } (Token.ofChars more) := by
  have closes : progress.close frame outer =
      { progress with frame := frame.push (.other progress.frame.body), outer := outer } := by
    simp [Progress.close, Frame.item, Groups.close, Frame.isVariableLookbehind, isPlain]
  have bareToken : ∀ token, (Token.ofChars more).head? = some token →
      token ≠ .plain '?' ∧ token ≠ .plain '+' := by
    intro token isHead
    constructor
    · rintro rfl
      exact (bare _ (Token.head?_of_ofChars isHead)).1 rfl
    · rintro rfl
      exact (bare _ (Token.head?_of_ofChars isHead)).2 rfl
  rw [readAll_closing stack (by simp), closes]
  exact readAll_optional (by exact unflagged) rfl bareToken
    (Token.ofChars_ne_dangling (by decide) ends)

/-- What may be left out is read to one repetition, if there is a variable at all. -/
theorem readAll_optionalText {requirements : List (String × String)} {before : List Char}
    {segments : List Segment} (readable : Readable (sourceOf requirements) segments)
    (bare : ∀ char, more.head? = some char → char ≠ '?' ∧ char ≠ '+')
    (reads : readAll progress
      (Token.ofChars (optionalText requirements before segments ++ more)) = .ok whole) :
    ∃ slots next,
      Slot.AreRead (sourceOf requirements) segments slots
        ((Slot.optionalTrees before slots).map .repetition) progress next ∧
      readAll next (Token.ofChars more) = .ok whole := by
  -- The induction is on the segments; a variable opens a bracket that the rest is read in.
  induction segments generalizing progress before more with
  | nil => exact ⟨[], progress, .nil ready, reads⟩
  | cons segment rest inductionHypothesis =>
      cases segment with
      | literal text =>
          rw [optionalText] at reads
          obtain ⟨slots, next, read, readsMore⟩ :=
            inductionHypothesis ready ends readable.tail bare reads
          exact ⟨.literal text :: slots, next, read.literal_cons ready text, readsMore⟩
      | var name converter =>
          have written : optionalText requirements before (.var name converter :: rest) ++ more =
              '(' :: '?' :: ':' :: (escaped before ++ (groupText requirements name ++
                (optionalText requirements [] rest ++ ')' :: '?' :: more))) := by
            simp [optionalText]
          have endsRest : '$' ∈ optionalText requirements [] rest ++ ')' :: '?' :: more := by
            simp [ends]
          have endsGroup : '$' ∈ groupText requirements name ++
              (optionalText requirements [] rest ++ ')' :: '?' :: more) :=
            List.mem_append_right _ endsRest
          rw [written] at reads
          iterate 3 rw [Token.ofChars_cons (by decide)] at reads
          obtain ⟨start, readsUnit⟩ := readAll_group ready.unflagged
            (Token.ofChars_ne_dangling (by decide) (List.mem_append_right _ endsGroup))
          rw [readsUnit, readAll_escaped rfl _ endsGroup] at reads
          have addsLiteral := Progress.Adds.pushAll (progress.enter .plain start .none)
            (before.map fun char => .other (Slot.charTree char))
          have readyLiteral : ((progress.enter .plain start .none).pushAll
              (before.map fun char => .other (Slot.charTree char))).IsReady :=
            ⟨rfl, ready.nodup, ready.bounded⟩
          obtain ⟨number, body, afterGroup, readGroup, readsRest⟩ :=
            readAll_variable readyLiteral endsRest readable.head reads
          obtain ⟨slots, afterRest, readRest, readsEnd⟩ := inductionHypothesis readGroup.ready
            (by simp [ends]) readable.tail (by simp) readsRest
          have read := readGroup.append readRest
          have adds := addsLiteral.trans read.adds
          have isPlain : afterRest.frame.opening = .plain := by
            rw [adds.frame]
            rfl
          iterate 2 rw [Token.ofChars_cons (by decide)] at readsEnd
          rw [readAll_optionalUnit ends adds.outer isPlain ready.unflagged bare,
            adds.body_eq] at readsEnd
          refine ⟨.group name converter number body :: slots, _, ?_, readsEnd⟩
          refine ⟨read.segments, ⟨?_, rfl, adds.names⟩,
            ⟨ready.unflagged, readRest.ready.nodup, readRest.ready.bounded⟩, read.between,
            read.holds, read.placed⟩
          simp [Slot.optionalTrees, Item.regex, Function.comp_def, Frame.push]

end

/-! ### The whole expression -/

theorem readable_of_compiles {template : String} {defaults : Attributes}
    {requirements : Requirements} {compiled : CompiledTemplate}
    (compiles : Compiles template defaults requirements compiled) :
    Readable (sourceOf compiled.requirements) compiled.segments := by
  intro segment membership name isName
  have parsed := Segment.areParsed_of_parse compiles.parse
  refine ⟨parsed.named segment membership name isName, ?_⟩
  cases segment with
  | literal text => simp [Segment.variableName?] at isName
  | var other converter =>
      injection isName with same
      subst same
      rw [compiles.sourceOf_eq membership]
      exact compiles.exists_compile membership

theorem fixedText_eq_flatMap (requirements : List (String × String)) (lead : Option Char)
    (segments : List Segment) :
    fixedText requirements lead segments =
      (trimmed lead segments).flatMap (slotText requirements) := by
  fun_induction trimmed lead segments with
  | case1 => rfl
  | case2 text =>
      cases lead <;> simp [fixedText, slotText]
  | case3 segment rest notLast inductionHypothesis =>
      cases segment with
      | literal text =>
          cases rest with
          | nil => exact absurd rfl (notLast text rfl)
          | cons next others =>
              rw [fixedText, inductionHypothesis]
              rfl
              simp
      | var name converter =>
          rw [fixedText, inductionHypothesis]
          rfl

/-- The expression of a template consists of slots: of the segments that every path has, and of
those that may be left out. -/
structure IsAssembled (compiled : CompiledTemplate) (fixed optional : List Slot) : Prop where
  fixed_eq : fixed.map Slot.segment =
    trimmed compiled.leadSeparator (compiled.segments.take compiled.optionalFrom)
  optional_eq : optional.map Slot.segment = compiled.segments.drop compiled.optionalFrom
  regex_eq : compiled.expression.regex = concat (.anchor .textStart :: (fixed.flatMap Slot.trees ++
    Slot.optionalTrees compiled.leadSeparator.toList optional ++ [.anchor .lastLineEnd]))
  names_eq : compiled.expression.names =
    (fixed ++ optional).flatMap (Slot.names (sourceOf compiled.requirements))
  nodupNames : (compiled.expression.names.map (·.1)).Nodup
  ordered : (fixed ++ optional).Pairwise Slot.Precedes
  holds : ∀ slot ∈ fixed ++ optional, slot.Holds (sourceOf compiled.requirements)

namespace IsAssembled

variable {compiled : CompiledTemplate} {fixed optional : List Slot}

theorem disjoint (assembled : IsAssembled compiled fixed optional) :
    (fixed ++ optional).Pairwise fun first second => first.numbers.Disjoint second.numbers :=
  assembled.ordered.imp Slot.Precedes.disjoint

theorem filterMap_variableName (assembled : IsAssembled compiled fixed optional) :
    ((fixed ++ optional).map Slot.segment).filterMap (·.variableName?) =
      compiled.variableNames := by
  rw [List.map_append, assembled.fixed_eq, assembled.optional_eq, List.filterMap_append,
    filterMap_trimmed, ← List.filterMap_append, List.take_append_drop]
  rfl

theorem length_filterMap_named (assembled : IsAssembled compiled fixed optional) :
    (optional.filterMap Slot.named?).length = compiled.optionalNames.length := by
  rw [← List.length_map (f := (·.1)), Slot.map_fst_filterMap_named, assembled.optional_eq]
  rfl

theorem mem_segments (assembled : IsAssembled compiled fixed optional) {name : String}
    {converter : Option Converter} {number : Nat} {body : Regex}
    (membership : .group name converter number body ∈ fixed ++ optional) :
    .var name converter ∈ compiled.segments := by
  rcases List.mem_append.mp membership with inFixed | inOptional
  · have inTrimmed := List.mem_map_of_mem (f := Slot.segment) inFixed
    rw [assembled.fixed_eq] at inTrimmed
    exact List.mem_of_mem_take ((mem_trimmed_iff rfl).mp inTrimmed)
  · have inDropped := List.mem_map_of_mem (f := Slot.segment) inOptional
    rw [assembled.optional_eq] at inDropped
    exact List.mem_of_mem_drop inDropped

end IsAssembled

theorem exists_placed {template : String} {defaults : Attributes} {requirements : Requirements}
    {compiled : CompiledTemplate} (compiles : Compiles template defaults requirements compiled) :
    ∃ fixed optional finals after, IsAssembled compiled fixed optional ∧
      Slot.ArePlaced (sourceOf compiled.requirements) .none (fixed ++ optional) finals after := by
  have readable := readable_of_compiles compiles
  have readableFixed : Readable (sourceOf compiled.requirements)
      (trimmed compiled.leadSeparator (compiled.segments.take compiled.optionalFrom)) :=
    fun segment membership name isName => readable segment
      (List.mem_of_mem_take ((mem_trimmed_iff isName).mp membership)) name isName
  have readableOptional : Readable (sourceOf compiled.requirements)
      (compiled.segments.drop compiled.optionalFrom) :=
    fun segment membership => readable segment (List.mem_of_mem_drop membership)
  obtain ⟨last, readsTokens, expression_eq⟩ := exists_readTokens_of_compile compiles.expression
  obtain ⟨-, reads, -⟩ := readTokens_eq_ok readsTokens
  have source : (sourceText compiled.requirements compiled.segments compiled.optionalFrom
        compiled.leadSeparator).toList =
      '^' :: ((trimmed compiled.leadSeparator
          (compiled.segments.take compiled.optionalFrom)).flatMap
            (slotText compiled.requirements) ++
        (optionalText compiled.requirements compiled.leadSeparator.toList
          (compiled.segments.drop compiled.optionalFrom) ++ ['$'])) := by
    simp [sourceText, fixedText_eq_flatMap]
  have ends : '$' ∈ (trimmed compiled.leadSeparator
      (compiled.segments.take compiled.optionalFrom)).flatMap (slotText compiled.requirements) ++
        (optionalText compiled.requirements compiled.leadSeparator.toList
          (compiled.segments.drop compiled.optionalFrom) ++ ['$']) := by
    simp
  rw [source, Token.ofChars_cons (by decide),
    readAll_textStart rfl (Token.ofChars_ne_dangling (by decide) ends)] at reads
  obtain ⟨fixed, middle, readFixed, readsOptional⟩ :=
    readAll_slots ⟨by rfl, by exact List.nodup_nil, fun _ _ => rfl⟩ (by simp) readableFixed reads
  obtain ⟨optional, next, readOptional, readsEnd⟩ := readAll_optionalText readFixed.ready
    (List.mem_singleton_self _) readableOptional (by simp) readsOptional
  rw [Token.ofChars_cons (by decide)] at readsEnd
  rw [readAll_lastLineEnd readOptional.ready.unflagged (by simp [Token.ofChars]), Token.ofChars,
    readAll_nil] at readsEnd
  injection readsEnd with same
  have read := readFixed.append readOptional
  obtain ⟨finals, placed⟩ := read.placed
  refine ⟨fixed, optional, finals, next.groups.bare, ⟨readFixed.segments, readOptional.segments,
    ?_, ?_, ?_, read.between.ordered, read.holds⟩, placed⟩
  · rw [expression_eq, ← same]
    simp only [Progress.push, Frame.push, Frame.body, Frame.sequence, read.adds.frame]
    simp [Progress.start, Frame.opened, anyOf, Item.regex, Function.comp_def]
  · rw [expression_eq, ← same]
    simpa [Progress.push, Progress.start, Groups.none] using read.adds.names
  · rw [expression_eq, ← same]
    exact readOptional.ready.nodup

theorem exists_assembled {template : String} {defaults : Attributes} {requirements : Requirements}
    {compiled : CompiledTemplate} (compiles : Compiles template defaults requirements compiled) :
    ∃ fixed optional, IsAssembled compiled fixed optional := by
  obtain ⟨fixed, optional, _, _, assembled, -⟩ := exists_placed compiles
  exact ⟨fixed, optional, assembled⟩

end CompiledTemplate

end UrlRouting
