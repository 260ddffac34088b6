import UrlRouting.Proofs.Regex.Independence

/-!
# Expressions in brackets

An expression that does not refer back can be put into a bracket, whatever the groups before it are
(`Regex.exists_isBracketed`).  The central invariant (`Beside`) relates how far the text has been
read alone and how far in the bracket; no reader is refused there as long as nothing refers back
(`Reader.Parallels`).
-/

namespace UrlRouting.Regex

open Reader

/-! ### Readers of the same text -/

/-- Whenever a first reader gives something clean, a second one gives something for the same tokens,
and the values are related. -/
def Reader.Parallels {α β : Type} (first : Reader α) (second : Reader β) (clean : α → Prop)
    (related : α → β → Prop) : Prop :=
  ∀ ⦃input value rest⦄, Reads first input value rest → clean value →
    ∃ value', Reads second input value' rest ∧ related value value'

namespace Reader

section

variable {α α' β β' : Type} {first : Reader α} {first' : Reader α'} {second : α → Reader β}
  {second' : α' → Reader β'} {clean : β → Prop} {related : α → α' → Prop}
  {relatedNext : β → β' → Prop} {reader' : Reader β'}

@[simp]
theorem parallels_fail (fault : RegexFault) (back : Nat) :
    Parallels (fail fault back) reader' clean relatedNext :=
  fun _ _ _ reads => absurd reads not_reads_fail

@[simp]
theorem parallels_failAt (fault : RegexFault) (fromEnd : Nat) :
    Parallels (failAt fault fromEnd) reader' clean relatedNext :=
  fun _ _ _ reads => absurd reads not_reads_failAt

@[simp]
theorem parallels_failNowhere (fault : RegexFault) :
    Parallels (failNowhere fault) reader' clean relatedNext :=
  fun _ _ _ reads => absurd reads not_reads_failNowhere

theorem parallels_pure {value : β} {value' : β'} (holds : relatedNext value value') :
    Parallels (Reader.pure value) (Reader.pure value') clean relatedNext := by
  intro input given rest reads _
  obtain ⟨rfl, rfl⟩ := reads_pure.mp reads
  exact ⟨value', reads_pure.mpr ⟨rfl, rfl⟩, holds⟩

theorem parallels_return {value : β} {value' : β'} (holds : relatedNext value value') :
    Parallels (Pure.pure value : Reader β) (Pure.pure value') clean relatedNext :=
  parallels_pure holds

/-- Nothing has to be shown for a reader that gives nothing clean. -/
theorem parallels_of_gives {reader : Reader β} (spoils : Gives reader fun value => ¬ clean value) :
    Parallels reader reader' clean relatedNext :=
  fun _ _ _ reads isClean => absurd isClean (spoils reads)

theorem Parallels.bind (parallels : Parallels first first' (fun _ => True) related)
    (parallelsNext : ∀ value value', related value value' →
      Parallels (second value) (second' value') clean relatedNext) :
    Parallels (first >>= second) (first' >>= second') clean relatedNext := by
  intro input value rest reads isClean
  obtain ⟨middle, between, readsFirst, readsSecond⟩ := reads_bind.mp reads
  obtain ⟨middle', readsFirst', holds⟩ := parallels readsFirst trivial
  obtain ⟨value', readsSecond', holdsNext⟩ := parallelsNext middle middle' holds readsSecond isClean
  exact ⟨value', reads_bind.mpr ⟨_, _, readsFirst', readsSecond'⟩, holdsNext⟩

/-- The same reader gives the same value for the same tokens. -/
theorem Gives.bind_parallels {holds : α → Prop} (gives : Gives first holds)
    {second' : α → Reader β'} (parallelsNext : ∀ value, holds value →
      Parallels (second value) (second' value) clean relatedNext) :
    Parallels (first >>= second) (first >>= second') clean relatedNext := by
  intro input value rest reads isClean
  obtain ⟨middle, between, readsFirst, readsSecond⟩ := reads_bind.mp reads
  obtain ⟨value', readsSecond', related⟩ :=
    parallelsNext middle (gives readsFirst) readsSecond isClean
  exact ⟨value', reads_bind.mpr ⟨_, _, readsFirst, readsSecond'⟩, related⟩

theorem parallels_bind {second' : α → Reader β'}
    (parallelsNext : ∀ value, Parallels (second value) (second' value) clean relatedNext) :
    Parallels (first >>= second) (first >>= second') clean relatedNext :=
  Gives.bind_parallels (fun _ _ _ _ => trivial : Gives first fun _ => True) fun value _ =>
    parallelsNext value

end

end Reader

/-! ### Alone and in a bracket -/

def Opening.isOutermost : Opening → Bool
  | lookbehind _ outermost => outermost
  | _ => false

theorem Opening.isLookbehind_of_isOutermost {opening : Opening}
    (isOutermost : opening.isOutermost = true) : opening.isLookbehind = true := by
  cases opening <;> first | rfl | cases isOutermost

theorem Opening.isOutermost_split (frame : Frame) :
    frame.split.opening.isOutermost = frame.opening.isOutermost := by
  unfold Frame.split
  split <;> simp_all [isOutermost]

namespace Groups

theorem close_mentioned (groups : Groups) (frame : Frame) :
    (groups.close frame).mentioned = groups.mentioned := by
  unfold close
  split <;> rfl

/-- Only with the outermost one does the text inside of look-behinds end. -/
theorem close_beforeLookbehind (groups : Groups) (frame : Frame) :
    (groups.close frame).beforeLookbehind =
      if frame.opening.isOutermost then .none else groups.beforeLookbehind := by
  unfold close
  cases frame.opening with
  | lookbehind positive outermost => cases outermost <;> rfl
  | _ => rfl

end Groups

/-- What does not refer back is as wide behind other groups, so the same look-behinds are
refused. -/
theorem Frame.Mirrors.isVariableLookbehind_eq {offset limit : Nat} {named : Prop}
    {frame frame' : Frame} (mirrors : frame.Mirrors offset limit named frame')
    (same : frame.opening.Mirrors offset limit named frame'.opening) {behind : Bool}
    (free : frame.refersBack behind = false) (groups groups' : Groups) :
    frame'.isVariableLookbehind groups' = frame.isVariableLookbehind groups := by
  have body := mirrors.body
  rcases frame with ⟨opening, start, flags, choices, items⟩
  rcases frame' with ⟨opening', start', flags', choices', items'⟩
  cases same with
  | lookbehind =>
      rw [isVariableLookbehind, isVariableLookbehind]
      dsimp only
      rw [body.width_eq_of_refersBack free]
  | _ => rfl

/-- How far a text has been read alone, where it has named no groups, and in a capturing bracket
behind some groups, with nothing around the bracket. -/
structure Beside (before : Groups) (number : Nat) (alone bracketed : Progress) : Prop where
  unnamed : alone.groups.names = []
  groups : Groups.Continues before alone.groups bracketed.groups
  mentioned : bracketed.groups.mentioned = alone.groups.mentioned
  frames : Encloses before.count bracketed.groups.count False number [] alone.frames
    bracketed.frames
  outermost : bracketed.frames.map (·.opening.isOutermost) =
    alone.frames.map (·.opening.isOutermost)
  beforeLookbehind :
    bracketed.groups.beforeLookbehind.isSome = alone.groups.beforeLookbehind.isSome
  isBehind : alone.groups.beforeLookbehind.isSome = true →
    alone.frames.any (·.opening.isOutermost) = true
  variableLookbehind : bracketed.variableLookbehind = alone.variableLookbehind

namespace Beside

variable {before : Groups} {number : Nat} {alone bracketed : Progress}

theorem start (nodup : (before.names.map (·.1)).Nodup)
    (noLookbehind : before.beforeLookbehind = none) (number size : Nat) :
    Beside before number (.start size) (.detached before number) where
  unnamed := rfl
  groups := (Groups.Continues.start nodup).congr rfl rfl rfl rfl
  mentioned := rfl
  frames := .bracket rfl rfl rfl (.opened ..)
  outermost := rfl
  beforeLookbehind := congrArg Option.isSome noLookbehind
  isBehind := nofun
  variableLookbehind := rfl

theorem mirrors (beside : Beside before number alone bracketed) :
    alone.frame.Mirrors before.count bracketed.groups.count False bracketed.frame :=
  beside.frames.head.1

theorem flags_eq (beside : Beside before number alone bracketed) :
    bracketed.frame.flags = alone.frame.flags := beside.mirrors.flags

/-- The innermost frames change together. -/
theorem changed (beside : Beside before number alone bracketed) {frame frame' : Frame}
    (opening_eq : frame.opening = alone.frame.opening) (flags_eq : frame.flags = alone.frame.flags)
    (opening_eq' : frame'.opening = bracketed.frame.opening)
    (mirrors : frame.Mirrors before.count bracketed.groups.count False frame') :
    Beside before number { alone with frame := frame } { bracketed with frame := frame' } where
  unnamed := beside.unnamed
  groups := beside.groups
  mentioned := beside.mentioned
  frames := beside.frames.replace opening_eq flags_eq opening_eq' mirrors
  outermost := by
    simp only [Progress.frames, List.map_cons, opening_eq, opening_eq']
    exact beside.outermost
  beforeLookbehind := beside.beforeLookbehind
  isBehind := by
    simp only [Progress.frames, List.any_cons, opening_eq]
    exact beside.isBehind
  variableLookbehind := beside.variableLookbehind

theorem push (beside : Beside before number alone bracketed) {item item' : Item}
    (mirrors : item.Mirrors before.count bracketed.groups.count False item') :
    Beside before number (alone.push item) (bracketed.push item') :=
  beside.changed rfl rfl rfl (beside.mirrors.push mirrors)

theorem items (beside : Beside before number alone bracketed) {items items' : List Item}
    (mirrors : List.Forall₂ (Item.Mirrors before.count bracketed.groups.count False) items items') :
    Beside before number { alone with frame := { alone.frame with items := items } }
      { bracketed with frame := { bracketed.frame with items := items' } } :=
  beside.changed rfl rfl rfl ⟨beside.flags_eq, beside.mirrors.choices, mirrors⟩

/-- A bracket is opened, which may be that of the next group. -/
theorem enter (beside : Beside before number alone bracketed) {groups groups' : Groups}
    {bracket bracket' : Opening} {start start' : Nat} {flags flags' : Flags}
    (unnamed : groups.names = []) (continues : Groups.Continues before groups groups')
    (grows : alone.groups.count ≤ groups.count) (mentioned : groups'.mentioned = groups.mentioned)
    (mirrors : bracket.Mirrors before.count groups'.count False bracket')
    (outermost : bracket'.isOutermost = bracket.isOutermost)
    (beforeLookbehind : groups'.beforeLookbehind.isSome = groups.beforeLookbehind.isSome)
    (isBehind : groups.beforeLookbehind.isSome = true →
      alone.groups.beforeLookbehind.isSome = true ∨ bracket.isOutermost = true)
    (flags_eq : flags' = flags) :
    Beside before number ({ alone with groups := groups }.enter bracket start flags)
      ({ bracketed with groups := groups' }.enter bracket' start' flags') where
  unnamed := unnamed
  groups := continues
  mentioned := mentioned
  frames := by
    have le : bracketed.groups.count ≤ groups'.count := by
      rw [beside.groups.count, continues.count]
      omega
    subst flags_eq
    exact .inner mirrors (.opened ..) (beside.frames.mono le id)
  outermost := congrArg₂ List.cons outermost beside.outermost
  beforeLookbehind := beforeLookbehind
  isBehind := by
    intro isSome
    change (bracket.isOutermost || alone.frames.any (·.opening.isOutermost)) = true
    rw [Bool.or_eq_true]
    exact (isBehind isSome).symm.imp_right beside.isBehind
  variableLookbehind := beside.variableLookbehind

/-- A choice is complete. -/
theorem split (beside : Beside before number alone bracketed) :
    Beside before number alone.split bracketed.split where
  unnamed := beside.unnamed
  groups := beside.groups
  mentioned := beside.mentioned
  frames := beside.frames.split
  outermost := by
    simp only [Progress.frames, Progress.split, List.map_cons, Opening.isOutermost_split]
    exact beside.outermost
  beforeLookbehind := beside.beforeLookbehind
  isBehind := by
    simp only [Progress.frames, Progress.split, List.any_cons, Opening.isOutermost_split]
    exact beside.isBehind
  variableLookbehind := beside.variableLookbehind

/-- A bracket closes, unless something in it refers back. -/
theorem close (beside : Beside before number alone bracketed) {frame : Frame} {outer : List Frame}
    (stack : alone.outer = frame :: outer)
    (independent : (alone.close frame outer).IsIndependent) :
    ∃ frame' outer', bracketed.outer = frame' :: outer' ∧
      Beside before number (alone.close frame outer) (bracketed.close frame' outer') := by
  have frames := beside.frames
  have outermost := beside.outermost
  have isBehind := beside.isBehind
  rw [Progress.frames, Progress.frames, stack] at frames
  obtain ⟨mirrors, same, frame', outer', stack', closed⟩ :=
    frames.close alone.groups bracketed.groups False.elim False.elim
  rw [Progress.frames, Progress.frames, stack, stack'] at outermost
  rw [Progress.frames, stack, List.any_cons] at isBehind
  obtain ⟨sameHead, sameRest⟩ := List.cons_eq_cons.mp outermost
  have free := (independent.of_close stack).free
  rw [Progress.frames, refersBackAmong, Bool.or_eq_false_iff] at free
  refine ⟨frame', outer', stack', ?_, beside.groups.close _ _, ?_, ?_, sameRest, ?_, ?_, ?_⟩
  · rw [Progress.close, Groups.close_names]
    exact beside.unnamed
  · simp only [Progress.close, Groups.close_mentioned]
    exact beside.mentioned
  · simp only [Progress.frames, Progress.close, Groups.close_count]
    exact closed
  · simp only [Progress.close, Groups.close_beforeLookbehind, sameHead]
    split
    · rfl
    · exact beside.beforeLookbehind
  · intro isSome
    simp only [Progress.close, Groups.close_beforeLookbehind] at isSome
    split at isSome
    · cases isSome
    · next inner =>
        have outer := isBehind isSome
        rw [eq_false_of_ne_true inner, Bool.false_or] at outer
        exact outer
  · simp only [Progress.close]
    rw [beside.variableLookbehind,
      mirrors.isVariableLookbehind_eq same free.1 alone.groups bracketed.groups]

end Beside

/-! ### Items -/

section

variable {before : Groups} {number : Nat} {alone bracketed : Progress}
  (beside : Beside before number alone bracketed)

include beside

theorem Beside.pushSet (negated : Bool) (items : List ClassItem) :
    Beside before number (alone.pushSet negated items) (bracketed.pushSet negated items) := by
  unfold Progress.pushSet
  rw [beside.flags_eq]
  exact beside.push (.other (.oneOf _))

theorem Beside.pushAnchor (place : Anchor) :
    Beside before number (alone.push (.anchor (.anchor place)))
      (bracketed.push (.anchor (.anchor place))) :=
  beside.push (.anchor (.anchor place))

theorem Beside.pushLineAnchor (single multi : Anchor) :
    Beside before number (alone.pushLineAnchor single multi)
      (bracketed.pushLineAnchor single multi) := by
  unfold Progress.pushLineAnchor
  rw [beside.flags_eq]
  exact beside.pushAnchor _

end

/-- A reference refers back wherever it stands. -/
theorem not_isIndependent_pushReference (progress : Progress) (number : Nat) (byName : Bool) :
    ¬ (progress.pushReference number byName).IsIndependent := by
  intro independent
  have free := independent.free
  rw [Progress.frames, refersBackAmong, Progress.pushReference, Progress.push,
    Frame.refersBack_push] at free
  cases free

section

variable {before : Groups} {number : Nat} {alone bracketed : Progress}
  (beside : Beside before number alone bracketed)

include beside

theorem parallels_pushEscape (escape : Escape) :
    Parallels (alone.pushEscape escape) (bracketed.pushEscape escape) Progress.IsIndependent
      (Beside before number) := by
  unfold Progress.pushEscape
  rw [beside.flags_eq]
  cases escape with
  | code code => exact parallels_return (beside.pushSet false _)
  | shorthand kind negated => exact parallels_return (beside.pushSet false _)
  | textStart | textEnd | wordEdge | notWordEdge => exact parallels_return (beside.pushAnchor _)
  | reference mentioned =>
      apply parallels_of_gives
      dsimp only
      split
      · simp
      · split
        · simp
        · exact gives_bind fun _ => gives_return (not_isIndependent_pushReference _ _ _)

theorem parallels_readClass (start : Nat) :
    Parallels (readClass alone start) (readClass bracketed start) Progress.IsIndependent
      (Beside before number) := by
  unfold readClass
  rw [beside.flags_eq]
  exact parallels_bind fun negated => parallels_bind fun items =>
    parallels_return (beside.pushSet negated items)

theorem parallels_repeatLast (least : Nat) (most : Option Nat) (start : Nat) :
    Parallels (repeatLast alone least most start) (repeatLast bracketed least most start)
      Progress.IsIndependent (Beside before number) := by
  unfold repeatLast
  have mirrors := beside.mirrors.items
  generalize alone.frame.items = items at mirrors
  generalize bracketed.frame.items = items' at mirrors
  cases mirrors with
  | nil => simp
  | cons last others =>
      cases last with
      | anchor => simp
      | repetition => simp
      | other tree =>
          refine parallels_bind fun greed => parallels_return ?_
          exact beside.items (.cons (.repetition (.repeated least most greed tree)) others)

theorem parallels_readBrace (start : Nat) :
    Parallels (readBrace alone start) (readBrace bracketed start) Progress.IsIndependent
      (Beside before number) := by
  unfold readBrace
  refine parallels_bind fun token? => ?_
  split
  · exact parallels_return (beside.pushSet _ _)
  · refine parallels_bind fun bounds? => ?_
    cases bounds? with
    | none => exact parallels_return (beside.pushSet _ _)
    | some bounds =>
        dsimp only
        generalize (if bounds.2.isEmpty then none else some (Text.numberOf 10 bounds.2)) = most
        split
        · simp
        · split
          · simp
          · exact parallels_repeatLast beside _ _ _

/-! ### Groups -/

theorem Beside.enterPlain {bracket bracket' : Opening}
    (mirrors : bracket.Mirrors before.count bracketed.groups.count False bracket')
    (outermost : bracket'.isOutermost = bracket.isOutermost) (start : Nat) {flags flags' : Flags}
    (flags_eq : flags' = flags) :
    Beside before number (alone.enter bracket start flags)
      (bracketed.enter bracket' start flags') :=
  beside.enter beside.unnamed beside.groups le_rfl beside.mentioned mirrors outermost
    beside.beforeLookbehind .inl flags_eq

theorem parallels_enterCapture (name? : Option String) (start : Nat) :
    Parallels (enterCapture alone name? start) (enterCapture bracketed name? start)
      Progress.IsIndependent (Beside before number) := by
  have count : bracketed.groups.count + 1 = alone.groups.count + 1 + before.count := by
    rw [beside.groups.count]
    omega
  have mirrors : (Opening.capture (alone.groups.count + 1)).Mirrors before.count
      (bracketed.groups.count + 1) False (.capture (bracketed.groups.count + 1)) := by
    rw [count]
    exact .capture (Nat.succ_pos _) le_rfl
  unfold enterCapture
  cases name? with
  | none =>
      exact parallels_pure (beside.enter beside.unnamed beside.groups.unnamed (Nat.le_succ _)
        beside.mentioned mirrors rfl beside.beforeLookbehind .inl beside.flags_eq)
  | some name =>
      apply parallels_of_gives
      dsimp only
      split
      · simp
      · refine gives_pure fun independent => ?_
        exact absurd independent.unnamed (by simp [Progress.enter])

theorem parallels_readNamed (start : Nat) :
    Parallels (readNamed alone start) (readNamed bracketed start) Progress.IsIndependent
      (Beside before number) := by
  refine parallels_bind fun isName => ?_
  cases isName with
  | true => exact parallels_bind fun name => parallels_enterCapture beside (some name) start
  | false =>
      refine parallels_bind fun isReference => ?_
      cases isReference with
      | true =>
          refine parallels_of_gives (gives_bind fun name => ?_)
          split
          · simp
          · split
            · simp
            · exact gives_bind fun _ => gives_return (not_isIndependent_pushReference _ _ _)
      | false =>
          refine parallels_bind fun token? => ?_
          cases token? <;> simp

/-- Without names, a condition mentions a group by its number. -/
theorem parallels_readCondition :
    Parallels (readCondition alone) (readCondition bracketed) (fun _ => True)
      fun (mentioned, byName, groups) (mentioned', byName', groups') =>
        mentioned' = mentioned ∧ byName = false ∧ byName' = false ∧
          ∃ mentions, groups = { alone.groups with mentioned := mentions } ∧
            groups' = { bracketed.groups with mentioned := mentions } := by
  unfold readCondition
  rw [beside.unnamed, beside.mentioned]
  refine parallels_bind fun name => ?_
  dsimp only
  split
  · rw [List.lookup_nil]
    simp
  · split
    · simp
    · split
      · simp
      · split
        · simp
        · exact parallels_bind fun size => parallels_return ⟨rfl, rfl, rfl, _, rfl, rfl⟩

/-- Inside of a look-behind a condition refers back. -/
theorem Beside.not_isIndependent_enter
    (isBehind : alone.groups.beforeLookbehind.isSome = true) (groups : Groups) (mentioned : Nat)
    (byName : Bool) (start : Nat) (flags : Flags) :
    ¬ ({ alone with groups := groups }.enter (.conditional mentioned byName none) start
      flags).IsIndependent := by
  intro independent
  have free := independent.free
  have inLookbehind : alone.frames.any (·.opening.isLookbehind) = true := by
    obtain ⟨frame, membership, isOutermost⟩ := List.any_eq_true.mp (beside.isBehind isBehind)
    exact List.any_eq_true.mpr
      ⟨frame, membership, Opening.isLookbehind_of_isOutermost isOutermost⟩
  change ((Frame.opened (.conditional mentioned byName none) start flags).refersBack
    (alone.frames.any (·.opening.isLookbehind)) || refersBackAmong alone.frames) = false at free
  rw [inLookbehind] at free
  cases free

theorem parallels_enterConditional (start : Nat) :
    Parallels (enterConditional alone start) (enterConditional bracketed start)
      Progress.IsIndependent (Beside before number) := by
  by_cases isBehind : alone.groups.beforeLookbehind.isSome = true
  · exact parallels_of_gives (gives_bind fun condition => gives_bind fun _ =>
      gives_return (beside.not_isIndependent_enter isBehind _ _ _ _ _))
  · have isBehind' := isBehind
    rw [← beside.beforeLookbehind] at isBehind'
    rw [Option.not_isSome_iff_eq_none] at isBehind isBehind'
    apply (parallels_readCondition beside).bind
    rintro ⟨mentioned, byName, _⟩ ⟨_, _, _⟩ ⟨rfl, rfl, rfl, mentions, rfl, rfl⟩
    simp only [Groups.checkLookbehind, isBehind, isBehind']
    refine parallels_bind fun _ => parallels_return ?_
    exact beside.enter beside.unnamed (beside.groups.congr rfl rfl rfl rfl) le_rfl rfl
      (.condition fun isNamed => by cases isNamed) rfl rfl (fun isSome => by cases isSome)
      beside.flags_eq

theorem parallels_enterLookbehind (start : Nat) :
    Parallels (enterLookbehind alone start) (enterLookbehind bracketed start)
      Progress.IsIndependent (Beside before number) := by
  have outermost : bracketed.groups.beforeLookbehind.isNone =
      alone.groups.beforeLookbehind.isNone := by
    rw [← Option.not_isSome, ← Option.not_isSome, beside.beforeLookbehind]
  unfold enterLookbehind
  refine parallels_bind fun token? => ?_
  cases token? with
  | none => simp
  | some token =>
      dsimp only
      rw [outermost]
      split
      · apply parallels_return
        refine beside.enter ?_ ?_ ?_ ?_ (.lookbehind _ _ _) rfl ?_ ?_ beside.flags_eq
        · split <;> exact beside.unnamed
        · split <;> exact beside.groups.congr rfl rfl rfl rfl
        · split <;> exact le_rfl
        · split <;> exact beside.mentioned
        · split
          · rfl
          · exact beside.beforeLookbehind
        · split
          · next isNone => exact fun _ => .inr isNone
          · exact .inl
      · simp

end

/-! ### Flags -/

theorem ne_nil_of_readFlagsOn (most : Nat) (on : List Char) (letter : Char) :
    Gives (readFlagsOn most on letter) fun result => result.1 ≠ [] := by
  induction most generalizing on letter with
  | zero => simp [readFlagsOn]
  | succ most inductionHypothesis =>
      unfold readFlagsOn
      split
      · simp
      · split
        · simp
        · refine gives_bind fun token? => ?_
          rcases token? with _ | ⟨char⟩ | ⟨char⟩ | _
          · simp
          · dsimp only
            split
            · exact gives_return (List.cons_ne_nil _ _)
            · split
              · exact inductionHypothesis _ _
              · simp [notAFlag]
          · simp [notAFlag]
          · simp [notAFlag]

/-- A group that sets flags for the whole text sets some. -/
theorem ne_nil_of_readFlags (first : Char) :
    Gives (readFlags first) fun group => ∀ on, group = .whole on → on ≠ [] := by
  have set : Gives (readFlagsSet first) fun result => result.2 = ')' → result.1 ≠ [] := by
    unfold readFlagsSet
    split
    · exact gives_pure fun isClosing => absurd isClosing (by decide)
    · intro input value rest reads _
      exact ne_nil_of_readFlagsOn _ _ _ reads
  refine set.bind fun (on, stop) nonempty => ?_
  dsimp only
  split
  · next isClosing =>
      refine gives_return fun on' same => ?_
      cases same
      exact nonempty (beq_iff_eq.mp isClosing)
  · split
    · simp
    · refine gives_bind fun off => ?_
      split
      · simp
      · split
        · simp
        · exact gives_return fun on' same => by cases same

section

variable {before : Groups} {number : Nat} {alone bracketed : Progress}
  (beside : Beside before number alone bracketed)

include beside

theorem parallels_readFlagGroup (start : Nat) (first : Char) :
    Parallels (readFlagGroup alone start first) (readFlagGroup bracketed start first)
      Progress.IsIndependent (Beside before number) := by
  refine (ne_nil_of_readFlags first).bind_parallels fun group nonempty => ?_
  cases group with
  | whole on =>
      apply parallels_of_gives
      dsimp only
      split
      · refine gives_return fun independent => ?_
        exact nonempty on rfl (List.append_eq_nil_iff.mp independent.unflagged).1
      · simp
  | «scoped» on off =>
      exact parallels_return (beside.enterPlain .plain rfl start (by rw [beside.flags_eq]))

theorem parallels_readGroup (start : Nat) :
    Parallels (readGroup alone start) (readGroup bracketed start) Progress.IsIndependent
      (Beside before number) := by
  have enters {bracket bracket' : Opening}
      (mirrors : bracket.Mirrors before.count bracketed.groups.count False bracket')
      (outermost : bracket'.isOutermost = bracket.isOutermost) :=
    beside.enterPlain mirrors outermost start beside.flags_eq
  unfold readGroup
  refine parallels_bind fun isExtension => ?_
  cases isExtension with
  | false => exact parallels_enterCapture beside none start
  | true =>
      refine parallels_bind fun token? => ?_
      cases token? with
      | none => simp
      | some token =>
          dsimp only
          split
          · exact parallels_readNamed beside start
          · exact parallels_return (enters .plain rfl)
          · exact parallels_return (enters .atomic rfl)
          · exact parallels_return (enters (.lookahead _) rfl)
          · exact parallels_return (enters (.lookahead _) rfl)
          · exact parallels_enterLookbehind beside start
          · exact parallels_enterConditional beside start
          · exact parallels_bind fun _ => parallels_return beside
          · split
            · exact parallels_readFlagGroup beside start _
            · simp
          · simp

/-! ### The whole text -/

theorem parallels_readItem (token : Token) (start : Nat) :
    Parallels (readItem alone token start) (readItem bracketed token start) Progress.IsIndependent
      (Beside before number) := by
  unfold readItem
  rw [beside.flags_eq]
  cases token with
  | dangling => simp
  | escaped char => exact parallels_bind fun escape => parallels_pushEscape beside escape
  | plain char =>
      dsimp only
      split
      · exact parallels_return beside
      · split
        · exact parallels_bind fun _ => parallels_return beside
        · split
          · exact parallels_readClass beside start
          · exact parallels_repeatLast beside _ _ start
          · exact parallels_repeatLast beside _ _ start
          · exact parallels_repeatLast beside _ _ start
          · exact parallels_readBrace beside start
          · exact parallels_return (beside.pushSet _ _)
          · exact parallels_readGroup beside start
          · exact parallels_return (beside.pushLineAnchor _ _)
          · exact parallels_return (beside.pushLineAnchor _ _)
          · exact parallels_return (beside.pushSet _ _)

/-- A step that is taken alone is taken in the bracket. -/
theorem Beside.exists_steps {next : Progress} {token : Token} {rest left : List Token}
    (steps : Steps alone token rest next left) (independent : next.IsIndependent) :
    ∃ next', Steps bracketed token rest next' left ∧ Beside before number next next' := by
  cases steps with
  | close stack =>
      obtain ⟨frame', outer', stack', closed⟩ := beside.close stack independent
      exact ⟨_, .close stack', closed⟩
  | split possible =>
      refine ⟨_, .split fun mentioned byName present isSecond => ?_, beside.split⟩
      rcases beside.frames.head with ⟨-, ⟨-, isCapture, -⟩ | ⟨same, -⟩⟩
      · rw [isSecond] at isCapture
        cases isCapture
      · rw [isSecond] at same
        generalize isOpening : alone.frame.opening = opening at same
        cases same
        exact possible _ _ _ isOpening
  | item notClosing notBar reads =>
      obtain ⟨next', reads', besideNext⟩ := parallels_readItem beside _ _ reads independent
      exact ⟨next', .item notClosing notBar reads', besideNext⟩

/-- A text that is read to its end alone is read to its end in the bracket. -/
theorem Runs.exists_beside {last : Progress} {input : List Token} (runs : Runs last alone input)
    (independent : last.IsIndependent) :
    ∃ last', Runs last' bracketed input ∧ Beside before number last last' := by
  induction runs generalizing bracketed with
  | done => exact ⟨bracketed, .done, beside⟩
  | step guard steps rest inductionHypothesis =>
      obtain ⟨next', steps', besideNext⟩ :=
        beside.exists_steps steps (rest.isIndependent independent)
      obtain ⟨last', runs', besideLast⟩ := inductionHypothesis besideNext
      exact ⟨last', .step guard steps' runs', besideLast⟩

theorem Beside.isBracket (closed : alone.outer = []) :
    alone.frame.opening = .whole ∧ bracketed.outer = [] ∧
      bracketed.frame.opening = .capture number ∧ bracketed.frame.flags = .none := by
  rcases beside.frames.head with ⟨-, ⟨whole, isCapture, unflagged, -, stack⟩ | ⟨-, rest⟩⟩
  · exact ⟨whole, stack, isCapture, beside.flags_eq.trans unflagged⟩
  · rw [closed] at rest
    cases rest

theorem Beside.beforeLookbehind_eq_none (closed : alone.outer = []) :
    bracketed.groups.beforeLookbehind = none := by
  have isBehind := beside.isBehind
  rw [Progress.frames, closed, List.any_cons, (beside.isBracket closed).1] at isBehind
  rw [← Option.not_isSome_iff_eq_none, beside.beforeLookbehind]
  exact fun isSome => absurd (isBehind isSome) (by decide)

end

/-- A text that does not refer back can be read in a bracket behind any groups. -/
theorem exists_isBracketed {source : String} {last : Progress}
    (reads : readTokens (Token.ofChars source.toList) = .ok last)
    (unnamed : last.groups.names = []) (unflagged : last.wholeFlags = [])
    (free : last.frame.body.refersBack false = false) {before : Groups}
    (nodup : (before.names.map (·.1)).Nodup) (noLookbehind : before.beforeLookbehind = none)
    (number : Nat) :
    ∃ final, IsBracketed before number source final ∧ Beside before number last final := by
  obtain ⟨-, readsAll, closed⟩ := readTokens_eq_ok reads
  have runs := readAll_eq_ok_iff_runs.mp readsAll
  have isWhole : last.IsWhole := runs.isWhole rfl
  obtain ⟨final, runs', beside⟩ := runs.exists_beside
    (.start nodup noLookbehind number _) (isWhole.isIndependent closed unnamed unflagged free)
  obtain ⟨-, stack, isCapture, unflagged'⟩ := beside.isBracket closed
  exact ⟨final, ⟨dangling_not_mem_of_readTokens reads, readAll_eq_ok_iff_runs.mpr runs', stack,
    isCapture, unflagged'⟩, beside⟩

end UrlRouting.Regex
