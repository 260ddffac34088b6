import UrlRouting.Proofs.Regex.Groups

/-!
# Expressions inside other expressions

A text that is read inside a bracket gives the expression that it gives on its own, up to the
numbers of its groups, which go on counting from those before the bracket (`Regex.Mirrors`).  The
central invariant (`Within`) relates how far a text has been read on its own to how far it has been
read inside a bracket: the frames on top of the bracket's are those of the text alone.  The
look-behinds of a text that mentions groups by their names only (`Progress.IsByName`) go back as
far in both.
-/

namespace UrlRouting.Regex

/-! ### Mentions by name -/

/-- Whether a tree mentions groups by their names only. -/
def IsByName : Regex → Prop
  | empty | oneOf _ | anchor _ => True
  | seq first second | alt first second => first.IsByName ∧ second.IsByName
  | repeated _ _ _ body | group _ body | atomic body | lookahead _ body | lookbehind _ _ body =>
      body.IsByName
  | reference _ byName _ => byName = true
  | conditional _ byName present absent => byName = true ∧ present.IsByName ∧ absent.IsByName

theorem isByName_concat_iff {trees : List Regex} :
    (concat trees).IsByName ↔ ∀ tree ∈ trees, tree.IsByName := by
  induction trees with
  | nil => exact iff_of_true trivial (by simp)
  | cons tree rest inductionHypothesis =>
      rw [concat, IsByName, inductionHypothesis, List.forall_mem_cons]

theorem isByName_anyOf_iff {trees : List Regex} :
    (anyOf trees).IsByName ↔ ∀ tree ∈ trees, tree.IsByName := by
  induction trees with
  | nil => exact iff_of_true trivial (by simp)
  | cons tree rest inductionHypothesis =>
      cases rest with
      | nil => simp [anyOf]
      | cons next others =>
          have isAlt : anyOf (tree :: next :: others) = alt tree (anyOf (next :: others)) := rfl
          rw [isAlt, IsByName, inductionHypothesis, List.forall_mem_cons (a := tree)]

namespace Frame

variable {frame : Frame} {groups : Groups}

/-- Whether what an open bracket would become now mentions groups by their names only. -/
def IsByName (frame : Frame) : Prop := (frame.item .none).regex.IsByName

theorem isByName_item_iff : (frame.item groups).regex.IsByName ↔ frame.IsByName := by
  rcases frame with ⟨opening, start, flags, choices, items⟩
  cases opening with
  | conditional number byName present? => cases present? <;> rfl
  | _ => rfl

theorem isByName_sequence_iff :
    frame.sequence.IsByName ↔ ∀ item ∈ frame.items, item.regex.IsByName := by
  simp [sequence, isByName_concat_iff]

theorem isByName_body_iff :
    frame.body.IsByName ↔
      (∀ item ∈ frame.items, item.regex.IsByName) ∧ ∀ tree ∈ frame.choices, tree.IsByName := by
  rw [body, isByName_anyOf_iff, ← isByName_sequence_iff]
  simp only [List.mem_reverse, List.forall_mem_cons]

namespace IsByName

theorem items (byName : frame.IsByName) : ∀ item ∈ frame.items, item.regex.IsByName := by
  rcases frame with ⟨opening, start, flags, choices, items⟩
  cases opening with
  | conditional number mentioned present? =>
      cases present? with
      | none => exact isByName_sequence_iff.mp byName.2.1
      | some present => exact isByName_sequence_iff.mp byName.2.2
  | _ => exact (isByName_body_iff.mp byName).1

/-- Items may be added, or written in other ways. -/
theorem of_items {items : List Item}
    (keeps : (∀ item ∈ items, item.regex.IsByName) → ∀ item ∈ frame.items, item.regex.IsByName)
    (byName : ({ frame with items := items } : Frame).IsByName) : frame.IsByName := by
  have areKept := keeps byName.items
  rcases frame with ⟨opening, start, flags, choices, others⟩
  cases opening with
  | conditional number mentioned present? =>
      cases present? with
      | none => exact ⟨byName.1, isByName_sequence_iff.mpr areKept, trivial⟩
      | some present => exact ⟨byName.1, byName.2.1, isByName_sequence_iff.mpr areKept⟩
  | _ => exact isByName_body_iff.mpr ⟨areKept, (isByName_body_iff.mp byName).2⟩

theorem of_push {item : Item} (byName : (frame.push item).IsByName) : frame.IsByName :=
  of_items (fun areNamed => (List.forall_mem_cons.mp areNamed).2) byName

/-- A complete choice stays, unless it is the second one of a condition. -/
theorem of_split (possible : ∀ number mentioned present,
      frame.opening ≠ .conditional number mentioned (some present))
    (byName : frame.split.IsByName) : frame.IsByName := by
  have completed (choices : List Regex)
      (isByName : ({ frame with choices := frame.sequence :: frame.choices, items := [] } :
        Frame).body.IsByName) : frame.body.IsByName := by
    obtain ⟨-, areNamed⟩ := isByName_body_iff.mp isByName
    obtain ⟨isNamed, restNamed⟩ := List.forall_mem_cons.mp areNamed
    exact isByName_body_iff.mpr ⟨isByName_sequence_iff.mp isNamed, restNamed⟩
  rcases frame with ⟨opening, start, flags, choices, items⟩
  cases opening with
  | conditional number mentioned present? =>
      cases present? with
      | none => exact ⟨byName.1, byName.2.1, trivial⟩
      | some present => exact absurd rfl (possible number mentioned present)
  | _ => exact completed choices byName

end IsByName

end Frame

/-- Whether all that has been read mentions groups by their names only. -/
def Progress.IsByName (progress : Progress) : Prop :=
  ∀ frame ∈ progress.frame :: progress.outer, frame.IsByName

namespace Progress.IsByName

variable {progress : Progress}

theorem of_push {item : Item} (byName : (progress.push item).IsByName) : progress.IsByName := by
  obtain ⟨inner, around⟩ := List.forall_mem_cons.mp byName
  exact List.forall_mem_cons.mpr ⟨inner.of_push, around⟩

theorem of_items {items : List Item}
    (keeps : (∀ item ∈ items, item.regex.IsByName) →
      ∀ item ∈ progress.frame.items, item.regex.IsByName)
    (byName : ({ progress with frame := { progress.frame with items := items } } :
      Progress).IsByName) : progress.IsByName := by
  obtain ⟨inner, around⟩ := List.forall_mem_cons.mp byName
  exact List.forall_mem_cons.mpr ⟨inner.of_items keeps, around⟩

theorem of_enter {groups : Groups} {opening : Opening} {start : Nat} {flags : Flags}
    (byName : ({ progress with groups := groups }.enter opening start flags).IsByName) :
    progress.IsByName :=
  (List.forall_mem_cons.mp byName).2

theorem of_split (possible : ∀ number mentioned present,
      progress.frame.opening ≠ .conditional number mentioned (some present))
    (byName : progress.split.IsByName) : progress.IsByName := by
  obtain ⟨inner, around⟩ := List.forall_mem_cons.mp byName
  exact List.forall_mem_cons.mpr ⟨inner.of_split possible, around⟩

theorem of_close {frame : Frame} {outer : List Frame} (stack : progress.outer = frame :: outer)
    (byName : (progress.close frame outer).IsByName) : progress.IsByName := by
  obtain ⟨inner, around⟩ := List.forall_mem_cons.mp byName
  refine List.forall_mem_cons.mpr ⟨?_, ?_⟩
  · exact Frame.isByName_item_iff.mp (inner.items _ (List.mem_cons_self ..))
  · rw [stack]
    exact List.forall_mem_cons.mpr ⟨inner.of_push, around⟩

end Progress.IsByName

/-! ### Trees -/

/-- A mention by name is one of the group that counts on; one by number may be any. -/
def Refers (offset : Nat) (byName : Bool) (number number' : Nat) : Prop :=
  byName = true → 0 < number ∧ number' = number + offset

/-- A second tree is a first one whose groups are numbered from `offset` on and up to `limit`.
What mentions groups by their numbers may differ, and so may how far look-behinds go back, unless
all that is read mentions groups by name (`named`). -/
inductive Mirrors (offset limit : Nat) (named : Prop) : Regex → Regex → Prop where
  | empty : Mirrors offset limit named empty empty
  | oneOf (set : CharClass) : Mirrors offset limit named (oneOf set) (oneOf set)
  | anchor (place : Anchor) : Mirrors offset limit named (anchor place) (anchor place)
  | seq {first first' second second' : Regex} :
      Mirrors offset limit named first first' → Mirrors offset limit named second second' →
      Mirrors offset limit named (seq first second) (seq first' second')
  | alt {first first' second second' : Regex} :
      Mirrors offset limit named first first' → Mirrors offset limit named second second' →
      Mirrors offset limit named (alt first second) (alt first' second')
  | repeated {body body' : Regex} (least : Nat) (most : Option Nat) (greed : Greed) :
      Mirrors offset limit named body body' →
      Mirrors offset limit named (repeated least most greed body) (repeated least most greed body')
  | group {number : Nat} {body body' : Regex} : 0 < number → number + offset ≤ limit →
      Mirrors offset limit named body body' →
      Mirrors offset limit named (group number body) (group (number + offset) body')
  | reference {number number' : Nat} {byName : Bool} (rule : CaseRule) :
      Refers offset byName number number' →
      Mirrors offset limit named (reference number byName rule) (reference number' byName rule)
  | atomic {body body' : Regex} :
      Mirrors offset limit named body body' →
      Mirrors offset limit named (atomic body) (atomic body')
  | lookahead {body body' : Regex} (positive : Bool) :
      Mirrors offset limit named body body' →
      Mirrors offset limit named (lookahead positive body) (lookahead positive body')
  | lookbehind {body body' : Regex} (positive : Bool) {width width' : Nat} :
      (named → width' = width) → Mirrors offset limit named body body' →
      Mirrors offset limit named (lookbehind positive width body) (lookbehind positive width' body')
  | conditional {present present' absent absent' : Regex} {number number' : Nat}
      {byName : Bool} : Refers offset byName number number' →
      Mirrors offset limit named present present' → Mirrors offset limit named absent absent' →
      Mirrors offset limit named (conditional number byName present absent)
        (conditional number' byName present' absent')

variable {offset limit limit' : Nat} {named named' : Prop}

namespace Mirrors

variable {tree tree' : Regex} {trees trees' : List Regex}

theorem mono (mirrors : Mirrors offset limit named tree tree') (le : limit ≤ limit')
    (weaker : named' → named) : Mirrors offset limit' named' tree tree' := by
  induction mirrors with
  | empty => exact .empty
  | oneOf set => exact .oneOf set
  | anchor place => exact .anchor place
  | seq _ _ first second => exact .seq first second
  | alt _ _ first second => exact .alt first second
  | repeated least most greed _ body => exact .repeated least most greed body
  | group positive bounded _ body => exact .group positive (bounded.trans le) body
  | reference rule refers => exact .reference rule refers
  | atomic _ body => exact .atomic body
  | lookahead positive _ body => exact .lookahead positive body
  | lookbehind positive same _ body =>
      exact .lookbehind positive (fun isNamed => same (weaker isNamed)) body
  | conditional refers _ _ present absent =>
      exact .conditional refers present absent

theorem concat (mirrors : List.Forall₂ (Mirrors offset limit named) trees trees') :
    Mirrors offset limit named (Regex.concat trees) (Regex.concat trees') := by
  induction mirrors with
  | nil => exact .empty
  | cons first _ rest => exact .seq first rest

theorem anyOf (mirrors : List.Forall₂ (Mirrors offset limit named) trees trees') :
    Mirrors offset limit named (Regex.anyOf trees) (Regex.anyOf trees') := by
  induction mirrors with
  | nil => exact .empty
  | cons first others rest =>
      cases others with
      | nil => exact first
      | cons second others => exact .alt first rest

theorem isRegular (mirrors : Mirrors offset limit named tree tree') (regular : tree.IsRegular) :
    tree'.IsRegular := by
  induction mirrors with
  | empty | oneOf => trivial
  | seq _ _ first second | alt _ _ first second => exact ⟨first regular.1, second regular.2⟩
  | repeated _ _ _ _ body => exact ⟨regular.1, body regular.2⟩
  | group _ _ _ body => exact body regular
  | anchor | reference | atomic | lookahead | lookbehind | conditional => exact regular.elim

theorem language_eq (mirrors : Mirrors offset limit named tree tree') :
    tree'.language = tree.language := by
  induction mirrors with
  | seq _ _ first second | alt _ _ first second => rw [language, language, first, second]
  | repeated _ _ _ _ body => rw [language, language, body]
  | group _ _ _ body => rw [language, language, body]
  | empty | oneOf | anchor | reference | atomic | lookahead | lookbehind | conditional => rfl

/-- Only the groups of a regular expression can differ. -/
theorem eq_of_unnumbered (mirrors : Mirrors offset limit named tree tree')
    (regular : tree.IsRegular) (unnumbered : tree.numbers = []) : tree' = tree := by
  induction mirrors with
  | empty | oneOf => rfl
  | seq _ _ first second | alt _ _ first second =>
      obtain ⟨noFirst, noSecond⟩ := List.append_eq_nil_iff.mp unnumbered
      rw [first regular.1 noFirst, second regular.2 noSecond]
  | repeated _ _ _ _ body => rw [body regular.2 unnumbered]
  | group => exact (List.cons_ne_nil _ _ unnumbered).elim
  | anchor | reference | atomic | lookahead | lookbehind | conditional => exact regular.elim

theorem mem_numbers (mirrors : Mirrors offset limit named tree tree') {number : Nat}
    (membership : number ∈ tree'.numbers) : offset < number ∧ number ≤ limit := by
  induction mirrors with
  | empty | oneOf | anchor | reference => simp [numbers] at membership
  | seq _ _ first second | alt _ _ first second =>
      rcases List.mem_append.mp membership with inFirst | inSecond
      · exact first inFirst
      · exact second inSecond
  | conditional _ _ _ present absent =>
      rcases List.mem_append.mp membership with inPresent | inAbsent
      · exact present inPresent
      · exact absent inAbsent
  | group positive bounded _ body =>
      rcases List.mem_cons.mp membership with rfl | inBody
      · omega
      · exact body inBody
  | repeated _ _ _ _ body | atomic _ body | lookahead _ _ body | lookbehind _ _ _ body =>
      exact body membership

/-- What a tree can take hangs on other groups only where it mentions them. -/
theorem width_eq (mirrors : Mirrors offset limit named tree tree') (byName : tree.IsByName)
    {widths widths' : List (Nat × Width)} (countOn : CountOn offset widths widths') :
    tree'.width widths' = tree.width widths := by
  induction mirrors with
  | empty | oneOf | anchor | lookahead | lookbehind => rfl
  | seq _ _ first second | alt _ _ first second =>
      rw [width, width, first byName.1, second byName.2]
  | repeated _ _ _ _ body => rw [width, width, body byName]
  | group _ _ _ body | atomic _ body => exact body byName
  | reference rule refers =>
      obtain ⟨positive, rfl⟩ := refers byName
      rw [width, width, countOn _ positive]
  | conditional _ _ _ present absent =>
      rw [width, width, present byName.2.1, absent byName.2.2]

end Mirrors

/-! ### Open brackets -/

/-- Items that mirror each other are of one kind. -/
inductive Item.Mirrors (offset limit : Nat) (named : Prop) : Item → Item → Prop where
  | anchor {tree tree' : Regex} : tree.Mirrors offset limit named tree' →
      Item.Mirrors offset limit named (anchor tree) (anchor tree')
  | repetition {tree tree' : Regex} : tree.Mirrors offset limit named tree' →
      Item.Mirrors offset limit named (repetition tree) (repetition tree')
  | other {tree tree' : Regex} : tree.Mirrors offset limit named tree' →
      Item.Mirrors offset limit named (other tree) (other tree')

/-- Brackets of one kind, of which none is that of the whole text. -/
inductive Opening.Mirrors (offset limit : Nat) (named : Prop) : Opening → Opening → Prop where
  | plain : Opening.Mirrors offset limit named plain plain
  | capture {number : Nat} : 0 < number → number + offset ≤ limit →
      Opening.Mirrors offset limit named (capture number) (capture (number + offset))
  | atomic : Opening.Mirrors offset limit named atomic atomic
  | lookahead (positive : Bool) :
      Opening.Mirrors offset limit named (lookahead positive) (lookahead positive)
  | lookbehind (positive outermost outermost' : Bool) :
      Opening.Mirrors offset limit named (lookbehind positive outermost)
        (lookbehind positive outermost')
  | condition {number number' : Nat} {byName : Bool} :
      Refers offset byName number number' →
      Opening.Mirrors offset limit named (conditional number byName none)
        (conditional number' byName none)
  | conditional {present present' : Regex} {number number' : Nat} {byName : Bool} :
      Refers offset byName number number' → present.Mirrors offset limit named present' →
      Opening.Mirrors offset limit named (conditional number byName (some present))
        (conditional number' byName (some present'))

theorem Item.Mirrors.regex {item item' : Item} (mirrors : item.Mirrors offset limit named item') :
    item.regex.Mirrors offset limit named item'.regex := by
  cases mirrors <;> assumption

theorem Item.Mirrors.mono {item item' : Item} (mirrors : item.Mirrors offset limit named item')
    (le : limit ≤ limit') (weaker : named' → named) : item.Mirrors offset limit' named' item' := by
  cases mirrors with
  | anchor tree => exact .anchor (tree.mono le weaker)
  | repetition tree => exact .repetition (tree.mono le weaker)
  | other tree => exact .other (tree.mono le weaker)

theorem Opening.Mirrors.mono {opening opening' : Opening}
    (mirrors : opening.Mirrors offset limit named opening') (le : limit ≤ limit')
    (weaker : named' → named) : opening.Mirrors offset limit' named' opening' := by
  cases mirrors with
  | plain => exact .plain
  | capture positive bounded => exact .capture positive (bounded.trans le)
  | atomic => exact .atomic
  | lookahead positive => exact .lookahead positive
  | lookbehind positive outermost outermost' => exact .lookbehind positive outermost outermost'
  | condition refers => exact .condition refers
  | conditional refers present => exact .conditional refers (present.mono le weaker)

theorem Opening.Mirrors.le_of_capture {opening : Opening} {number : Nat}
    (mirrors : opening.Mirrors offset limit named (.capture number)) : number ≤ limit := by
  cases mirrors
  assumption

/-- Frames that hold mirrored parts under the same flags, whatever their brackets. -/
structure Frame.Mirrors (offset limit : Nat) (named : Prop) (frame frame' : Frame) : Prop where
  flags : frame'.flags = frame.flags
  choices : List.Forall₂ (Regex.Mirrors offset limit named) frame.choices frame'.choices
  items : List.Forall₂ (Item.Mirrors offset limit named) frame.items frame'.items

namespace Frame.Mirrors

variable {frame frame' : Frame}

theorem mono (mirrors : frame.Mirrors offset limit named frame') (le : limit ≤ limit')
    (weaker : named' → named) : frame.Mirrors offset limit' named' frame' :=
  ⟨mirrors.flags, mirrors.choices.imp fun _ _ tree => tree.mono le weaker,
    mirrors.items.imp fun _ _ item => item.mono le weaker⟩

theorem sequence (mirrors : frame.Mirrors offset limit named frame') :
    frame.sequence.Mirrors offset limit named frame'.sequence := by
  apply Regex.Mirrors.concat
  rw [List.forall₂_map_left_iff, List.forall₂_map_right_iff, List.forall₂_reverse_iff]
  exact mirrors.items.imp fun _ _ item => item.regex

theorem body (mirrors : frame.Mirrors offset limit named frame') :
    frame.body.Mirrors offset limit named frame'.body :=
  Regex.Mirrors.anyOf
    (List.forall₂_reverse_iff.mpr (.cons mirrors.sequence mirrors.choices))

theorem push (mirrors : frame.Mirrors offset limit named frame') {item item' : Item}
    (same : item.Mirrors offset limit named item') :
    (frame.push item).Mirrors offset limit named (frame'.push item') :=
  ⟨mirrors.flags, mirrors.choices, .cons same mirrors.items⟩

theorem opened (offset limit : Nat) (named : Prop) (opening opening' : Opening) (start start' : Nat)
    (flags : Flags) :
    (opened opening start flags).Mirrors offset limit named (.opened opening' start' flags) :=
  ⟨rfl, .nil, .nil⟩

/-- A choice is complete in both frames, or in the condition of both. -/
theorem split (mirrors : frame.Mirrors offset limit named frame')
    (same : frame.opening.Mirrors offset limit named frame'.opening) :
    frame.split.opening.Mirrors offset limit named frame'.split.opening ∧
      frame.split.Mirrors offset limit named frame'.split := by
  have sequence := mirrors.sequence
  rcases mirrors with ⟨flags, choices, items⟩
  rcases frame with ⟨opening, start, flags₁, choices₁, items₁⟩
  rcases frame' with ⟨opening', start', flags₁', choices₁', items₁'⟩
  cases same with
  | plain => exact ⟨.plain, flags, .cons sequence choices, .nil⟩
  | capture positive bounded =>
      exact ⟨.capture positive bounded, flags, .cons sequence choices, .nil⟩
  | atomic => exact ⟨.atomic, flags, .cons sequence choices, .nil⟩
  | lookahead positive => exact ⟨.lookahead positive, flags, .cons sequence choices, .nil⟩
  | lookbehind positive outermost outermost' =>
      exact ⟨.lookbehind positive outermost outermost', flags, .cons sequence choices, .nil⟩
  | condition refers => exact ⟨.conditional refers sequence, flags, choices, .nil⟩
  | conditional refers _ => exact ⟨.conditional refers sequence, flags, choices, .nil⟩

/-- What a bracket becomes mirrors what the other one becomes.  Look-behinds go back as far if the
groups that they mention are as wide. -/
theorem item (mirrors : frame.Mirrors offset limit named frame')
    (same : frame.opening.Mirrors offset limit named frame'.opening) {groups groups' : Groups}
    (byName : named → frame.IsByName)
    (countOn : named → CountOn offset groups.widths groups'.widths) :
    (frame.item groups).Mirrors offset limit named (frame'.item groups') := by
  have sequence := mirrors.sequence
  have body := mirrors.body
  rcases frame with ⟨opening, start, flags, choices, items⟩
  rcases frame' with ⟨opening', start', flags', choices', items'⟩
  apply Item.Mirrors.other
  cases same with
  | plain => exact body
  | capture positive bounded => exact .group positive bounded body
  | atomic => exact .atomic body
  | lookahead positive => exact .lookahead positive body
  | lookbehind positive outermost outermost' =>
      refine .lookbehind positive ?_ body
      intro isNamed
      rw [body.width_eq (byName isNamed) (countOn isNamed)]
  | condition refers => exact .conditional refers sequence .empty
  | conditional refers present => exact .conditional refers present sequence

/-- The groups go on being as wide when brackets close. -/
theorem widths_close (mirrors : frame.Mirrors offset limit named frame')
    (same : frame.opening.Mirrors offset limit named frame'.opening) {groups groups' : Groups}
    (byName : frame.IsByName) (countOn : CountOn offset groups.widths groups'.widths) :
    CountOn offset (groups.close frame).widths (groups'.close frame').widths := by
  have body := mirrors.body
  rcases frame with ⟨opening, start, flags, choices, items⟩
  rcases frame' with ⟨opening', start', flags', choices', items'⟩
  rw [Groups.close_widths, Groups.close_widths]
  cases same with
  | @capture number =>
      dsimp only
      rw [body.width_eq byName countOn]
      exact countOn.cons number _
  | _ => exact countOn

end Frame.Mirrors

/-- The frames of a text alone and those of the text inside a capturing bracket: the last one of
the former mirrors the bracket's, behind which comes the context. -/
inductive Encloses (offset limit : Nat) (named : Prop) (number : Nat) (context : List Frame) :
    List Frame → List Frame → Prop where
  | bracket {frame frame' : Frame} : frame.opening = .whole → frame'.opening = .capture number →
      frame.flags = .none → frame.Mirrors offset limit named frame' →
      Encloses offset limit named number context [frame] (frame' :: context)
  | inner {frame frame' : Frame} {frames frames' : List Frame} :
      frame.opening.Mirrors offset limit named frame'.opening →
      frame.Mirrors offset limit named frame' →
      Encloses offset limit named number context frames frames' →
      Encloses offset limit named number context (frame :: frames) (frame' :: frames')

namespace Encloses

variable {number : Nat} {context frames frames' : List Frame} {frame frame' : Frame}

theorem mono (encloses : Encloses offset limit named number context frames frames')
    (le : limit ≤ limit') (weaker : named' → named) :
    Encloses offset limit' named' number context frames frames' := by
  induction encloses with
  | bracket whole isCapture unflagged mirrors =>
      exact .bracket whole isCapture unflagged (mirrors.mono le weaker)
  | inner same mirrors _ rest =>
      exact .inner (same.mono le weaker) (mirrors.mono le weaker) rest

/-- The innermost frames are those of the bracket, or of brackets of one kind inside it. -/
theorem head (encloses : Encloses offset limit named number context (frame :: frames)
    (frame' :: frames')) :
    frame.Mirrors offset limit named frame' ∧
      ((frame.opening = .whole ∧ frame'.opening = .capture number ∧ frame.flags = .none ∧
          frames = [] ∧ frames' = context) ∨
        (frame.opening.Mirrors offset limit named frame'.opening ∧
          Encloses offset limit named number context frames frames')) := by
  cases encloses with
  | bracket whole isCapture unflagged mirrors =>
      exact ⟨mirrors, .inl ⟨whole, isCapture, unflagged, rfl, rfl⟩⟩
  | inner same mirrors rest => exact ⟨mirrors, .inr ⟨same, rest⟩⟩

/-- The innermost frames may change together as long as brackets and flags stay. -/
theorem replace {changed changed' : Frame}
    (encloses : Encloses offset limit named number context (frame :: frames) (frame' :: frames'))
    (opening_eq : changed.opening = frame.opening) (flags_eq : changed.flags = frame.flags)
    (opening_eq' : changed'.opening = frame'.opening)
    (mirrors : changed.Mirrors offset limit named changed') :
    Encloses offset limit named number context (changed :: frames) (changed' :: frames') := by
  rcases encloses.head with ⟨-, ⟨whole, isCapture, unflagged, rfl, rfl⟩ | ⟨same, rest⟩⟩
  · exact .bracket (opening_eq.trans whole) (opening_eq'.trans isCapture)
      (flags_eq.trans unflagged) mirrors
  · refine .inner ?_ mirrors rest
    rw [opening_eq, opening_eq']
    exact same

/-- A choice is complete in the innermost frames. -/
theorem split
    (encloses : Encloses offset limit named number context (frame :: frames) (frame' :: frames')) :
    Encloses offset limit named number context (frame.split :: frames)
      (frame'.split :: frames') := by
  rcases encloses.head with ⟨mirrors, ⟨whole, isCapture, unflagged, rfl, rfl⟩ | ⟨same, rest⟩⟩
  · have mirrored : frame.split.Mirrors offset limit named frame'.split := by
      simp only [Frame.split, whole, isCapture]
      exact ⟨mirrors.flags, .cons mirrors.sequence mirrors.choices, .nil⟩
    exact .bracket (by simp only [Frame.split, whole]) (by simp only [Frame.split, isCapture])
      (by simp only [Frame.split, whole, unflagged]) mirrored
  · exact .inner (mirrors.split same).1 (mirrors.split same).2 rest

/-- The innermost frames close together unless that of the text alone is the last. -/
theorem close {inner inner' : Frame} {outer' : List Frame}
    (encloses : Encloses offset limit named number context (inner :: frame :: frames)
      (inner' :: outer')) (groups groups' : Groups) (byName : named → inner.IsByName)
    (countOn : named → CountOn offset groups.widths groups'.widths) :
    inner.Mirrors offset limit named inner' ∧
      inner.opening.Mirrors offset limit named inner'.opening ∧
      ∃ frame' frames', outer' = frame' :: frames' ∧
        Encloses offset limit named number context (frame.push (inner.item groups) :: frames)
          (frame'.push (inner'.item groups') :: frames') := by
  rcases encloses.head with ⟨mirrors, ⟨-, -, -, none, -⟩ | ⟨same, rest⟩⟩
  · cases none
  · obtain ⟨frame', frames', rfl⟩ : ∃ frame' frames', outer' = frame' :: frames' := by
      cases rest with
      | bracket => exact ⟨_, _, rfl⟩
      | inner => exact ⟨_, _, rfl⟩
    -- The bracket's item lands in the frame around it, whose own bracket stays open.
    exact ⟨mirrors, same, frame', frames', rfl,
      rest.replace rfl rfl rfl (rest.head.1.push (mirrors.item same byName countOn))⟩

end Encloses

/-! ### Progress inside a bracket -/

/-- How far a text has been read alone, and inside a capturing bracket opened from `outside`. -/
structure Within (outside : Progress) (number : Nat) (alone inside : Progress) : Prop where
  groups : Groups.Continues outside.groups alone.groups inside.groups
  frames : Encloses outside.groups.count inside.groups.count alone.IsByName number
    (outside.frame :: outside.outer) (alone.frame :: alone.outer) (inside.frame :: inside.outer)
  bounded : inside.groups.IsBounded
  widths : alone.IsByName →
    CountOn outside.groups.count alone.groups.widths inside.groups.widths

namespace Within

variable {outside alone inside : Progress} {number : Nat}

theorem frame (within : Within outside number alone inside) :
    alone.frame.Mirrors outside.groups.count inside.groups.count alone.IsByName inside.frame :=
  within.frames.head.1

theorem flags (within : Within outside number alone inside) :
    inside.frame.flags = alone.frame.flags := within.frame.flags

/-- Outside of all its own brackets a text is read without flags. -/
theorem unflagged (within : Within outside number alone inside) (closed : alone.outer = []) :
    alone.frame.flags = .none := by
  rcases within.frames.head with ⟨-, ⟨-, -, unflagged, -⟩ | ⟨-, rest⟩⟩
  · exact unflagged
  · rw [closed] at rest
    cases rest

/-- Where all brackets are closed, it is the tree of the text that mentions groups. -/
theorem isByName (within : Within outside number alone inside) (closed : alone.outer = [])
    (byName : alone.frame.body.IsByName) : alone.IsByName := by
  rcases within.frames.head with ⟨-, ⟨whole, -⟩ | ⟨-, rest⟩⟩
  · rw [Progress.IsByName, closed, List.forall_mem_singleton, Frame.IsByName, Frame.item, whole]
    exact byName
  · rw [closed] at rest
    cases rest

theorem start {outside : Progress} (nodup : (outside.groups.names.map (·.1)).Nodup)
    (bounded : outside.groups.IsBounded) (number size start : Nat) :
    Within outside number (.start size) (outside.enter (.capture number) start .none) where
  groups := .start nodup
  frames := .bracket rfl rfl rfl (.opened ..)
  bounded := bounded
  widths := fun _ _ positive => bounded _ (Nat.lt_add_of_pos_left positive)

theorem push (within : Within outside number alone inside) {item item' : Item}
    (mirrors : item.Mirrors outside.groups.count inside.groups.count alone.IsByName item') :
    Within outside number (alone.push item) (inside.push item') where
  groups := within.groups
  frames := by
    have weaker : (alone.push item).IsByName → alone.IsByName := .of_push
    exact (within.frames.mono le_rfl weaker).replace rfl rfl rfl
      ((within.frame.push mirrors).mono le_rfl weaker)
  bounded := within.bounded
  widths := fun byName => within.widths byName.of_push

/-- A bracket is opened, which may be that of the next group. -/
theorem enter (within : Within outside number alone inside) {groups groups' : Groups}
    {bracket bracket' : Opening} {start start' : Nat} {flags flags' : Flags}
    (continues : Groups.Continues outside.groups groups groups')
    (grows : alone.groups.count ≤ groups.count)
    (mirrors : bracket.Mirrors outside.groups.count groups'.count alone.IsByName bracket')
    (flags_eq : flags' = flags) (widths_eq : groups.widths = alone.groups.widths)
    (widths_eq' : groups'.widths = inside.groups.widths) :
    Within outside number ({ alone with groups := groups }.enter bracket start flags)
      ({ inside with groups := groups' }.enter bracket' start' flags') := by
  have le : inside.groups.count ≤ groups'.count := by
    rw [within.groups.count, continues.count]
    omega
  subst flags_eq
  refine ⟨continues, .inner (mirrors.mono le_rfl .of_enter) (.opened ..)
    (within.frames.mono le .of_enter), within.bounded.mono le widths_eq', ?_⟩
  intro byName
  simp only [Progress.enter, widths_eq, widths_eq']
  exact within.widths byName.of_enter

theorem items (within : Within outside number alone inside) {items items' : List Item}
    (mirrors : List.Forall₂
      (Item.Mirrors outside.groups.count inside.groups.count alone.IsByName) items items')
    (keeps : (∀ item ∈ items, item.regex.IsByName) →
      ∀ item ∈ alone.frame.items, item.regex.IsByName) :
    Within outside number
      { alone with frame := { alone.frame with items := items } }
      { inside with frame := { inside.frame with items := items' } } where
  groups := within.groups
  frames := by
    have weaker := Progress.IsByName.of_items keeps
    have mirrored : ({ alone.frame with items := items } : Frame).Mirrors _ _ _
        { inside.frame with items := items' } :=
      ⟨within.flags, within.frame.choices, mirrors⟩
    exact (within.frames.mono le_rfl weaker).replace rfl rfl rfl (mirrored.mono le_rfl weaker)
  bounded := within.bounded
  widths := fun byName => within.widths (byName.of_items keeps)

/-- A choice is complete. -/
theorem split (within : Within outside number alone inside)
    (possible : ∀ mentioned byName present,
      alone.frame.opening ≠ .conditional mentioned byName (some present)) :
    Within outside number alone.split inside.split where
  groups := within.groups
  frames := within.frames.split.mono le_rfl (.of_split possible)
  bounded := within.bounded
  widths := fun byName => within.widths (byName.of_split possible)

theorem close (within : Within outside number alone inside) {frame : Frame} {outer : List Frame}
    (stack : alone.outer = frame :: outer) :
    ∃ frame' outer', inside.outer = frame' :: outer' ∧
      Within outside number (alone.close frame outer) (inside.close frame' outer') := by
  have frames := within.frames
  rw [stack] at frames
  have isByName (byName : alone.IsByName) : alone.frame.IsByName :=
    byName _ (List.mem_cons_self ..)
  obtain ⟨mirrors, same, frame', outer', stack', closed⟩ :=
    frames.close alone.groups inside.groups isByName within.widths
  refine ⟨frame', outer', stack', within.groups.close _ _, ?_, within.bounded.close ?_, ?_⟩
  · simp only [Progress.close, Groups.close_count]
    exact closed.mono le_rfl (.of_close stack)
  · intro closing isCapture
    rw [isCapture] at same
    exact same.le_of_capture
  · intro byName
    have before := byName.of_close stack
    exact mirrors.widths_close same (isByName before) (within.widths before)

end Within

end UrlRouting.Regex
