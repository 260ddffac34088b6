import UrlRouting.Proofs.Regex.Source

/-!
# Brackets in any context

What can be read in a capturing bracket without its context is read to the same group in every
context with the same groups before the bracket (`Regex.IsBracketed.readAll_eq`).  A reading without
context goes side by side with one inside of a context (`Attached`), and no reader is refused in the
context that is not refused without (`Reader.CarriesTo`).
-/

namespace UrlRouting.Regex

open Reader

/-! ### Readers that are not refused -/

/-- Whenever a first reader gives something, so does a second one in front of a closing parenthesis,
whatever comes next; it leaves what the first one leaves, and the values are related. -/
def Reader.CarriesTo {α β : Type} (first : Reader α) (second : Reader β) (related : α → β → Prop) :
    Prop :=
  ∀ ⦃input value rest⦄, Reads first input value rest →
    ∀ more, ∃ value', Reads second (input ++ .closing :: more) value' (rest ++ .closing :: more) ∧
      related value value'

namespace Reader

section

variable {α α' β β' : Type} {first : Reader α} {first' : Reader α'}
  {second : α → Reader β} {second' : α' → Reader β'}
  {related : α → α' → Prop} {relatedNext : β → β' → Prop}

theorem carriesTo_of_not_reads
    (fails : ∀ input value rest, ¬ Reads first input value rest) :
    CarriesTo first first' related :=
  fun _ _ _ reads => absurd reads (fails _ _ _)

@[simp]
theorem carriesTo_fail (fault : RegexFault) (back : Nat) :
    CarriesTo (fail (α := α) fault back) first' related :=
  carriesTo_of_not_reads fun _ _ _ => not_reads_fail

@[simp]
theorem carriesTo_failAt (fault : RegexFault) (fromEnd : Nat) :
    CarriesTo (failAt (α := α) fault fromEnd) first' related :=
  carriesTo_of_not_reads fun _ _ _ => not_reads_failAt

@[simp]
theorem carriesTo_failNowhere (fault : RegexFault) :
    CarriesTo (failNowhere (α := α) fault) first' related :=
  carriesTo_of_not_reads fun _ _ _ => not_reads_failNowhere

theorem carriesTo_pure {value : α} {value' : α'} (holds : related value value') :
    CarriesTo (Reader.pure value) (Reader.pure value') related := by
  intro input given rest reads more
  obtain ⟨rfl, rfl⟩ := reads_pure.mp reads
  exact ⟨value', reads_pure.mpr ⟨rfl, rfl⟩, holds⟩

theorem carriesTo_return {value : α} {value' : α'} (holds : related value value') :
    CarriesTo (Pure.pure value : Reader α) (Pure.pure value') related :=
  carriesTo_pure holds

theorem CarriesTo.bind (carries : CarriesTo first first' related)
    (carriesNext : ∀ value value', related value value' →
      CarriesTo (second value) (second' value') relatedNext) :
    CarriesTo (first >>= second) (first' >>= second') relatedNext := by
  intro input value rest reads more
  obtain ⟨middle, between, readsFirst, readsSecond⟩ := reads_bind.mp reads
  obtain ⟨middle', readsFirst', holds⟩ := carries readsFirst more
  obtain ⟨value', readsSecond', holdsNext⟩ := carriesNext middle middle' holds readsSecond more
  exact ⟨value', reads_bind.mpr ⟨_, _, readsFirst', readsSecond'⟩, holdsNext⟩

/-- A reader that asks nothing about the progress gives the same value in both places. -/
theorem Carries.bindTo {first first' : Reader α} {second' : α → Reader β'}
    (carries : Carries first first')
    (carriesNext : ∀ value, CarriesTo (second value) (second' value) relatedNext) :
    CarriesTo (first >>= second) (first' >>= second') relatedNext := by
  intro input value rest reads more
  obtain ⟨middle, between, readsFirst, readsSecond⟩ := reads_bind.mp reads
  obtain ⟨value', readsSecond', holds⟩ := carriesNext middle readsSecond more
  exact ⟨value', reads_bind.mpr ⟨_, _, carries readsFirst more, readsSecond'⟩, holds⟩

theorem carriesTo_left_bind {second : Nat → Reader β} {second' : Nat → Reader β'}
    (carriesNext : ∀ size size', CarriesTo (second size) (second' size') relatedNext) :
    CarriesTo (left >>= second) (left >>= second') relatedNext := by
  intro input value rest reads more
  obtain ⟨size, between, readsSize, readsSecond⟩ := reads_bind.mp reads
  obtain ⟨rfl, rfl⟩ := reads_left.mp readsSize
  obtain ⟨value', readsSecond', holds⟩ := carriesNext _ _ readsSecond more
  exact ⟨value', reads_bind.mpr ⟨_, _, reads_left.mpr ⟨rfl, rfl⟩, readsSecond'⟩, holds⟩

theorem carriesTo_next_bind {second : Option Token → Reader β} {second' : Option Token → Reader β'}
    (refused : ∀ input value rest, ¬ Reads (second none) input value rest)
    (carriesNext : ∀ token, CarriesTo (second (some token)) (second' (some token)) relatedNext) :
    CarriesTo (next >>= second) (next >>= second') relatedNext := by
  intro input value rest reads more
  obtain ⟨token?, between, readsNext, readsSecond⟩ := reads_bind.mp reads
  rcases reads_next_iff.mp readsNext with ⟨_, rfl, _⟩ | ⟨token, rfl, rfl, -⟩
  · exact absurd readsSecond (refused _ _ _)
  · obtain ⟨value', readsSecond', holds⟩ := carriesNext token readsSecond more
    exact ⟨value', reads_bind.mpr
      ⟨_, _, reads_next_cons (append_closing_ne_dangling _ _), readsSecond'⟩, holds⟩

/-- A look at the next token tells whether it is a certain character, unless that is the closing
parenthesis. -/
theorem carriesTo_peek_bind {char : Char} (other : char ≠ ')') {onThen onElse : Reader β}
    {onThen' onElse' : Reader β'} (carriesThen : CarriesTo onThen onThen' relatedNext)
    (carriesElse : CarriesTo onElse onElse' relatedNext) :
    CarriesTo (do if (← peek) = some (.plain char) then onThen else onElse)
      (do if (← peek) = some (.plain char) then onThen' else onElse') relatedNext := by
  intro input value rest reads more
  obtain ⟨_, _, peeked, readsNext⟩ := reads_bind.mp reads
  obtain ⟨rfl, rfl⟩ := reads_peek.mp peeked
  have same : (input ++ .closing :: more).head? = some (.plain char) ↔
      input.head? = some (.plain char) := by
    cases input with
    | nil => simp [other.symm]
    | cons token others => rfl
  by_cases isNext : input.head? = some (.plain char)
  · rw [if_pos isNext] at readsNext
    obtain ⟨value', readsNext', holds⟩ := carriesThen readsNext more
    refine ⟨value', reads_bind.mpr ⟨_, _, reads_peek.mpr ⟨rfl, rfl⟩, ?_⟩, holds⟩
    rwa [if_pos (same.mpr isNext)]
  · rw [if_neg isNext] at readsNext
    obtain ⟨value', readsNext', holds⟩ := carriesElse readsNext more
    refine ⟨value', reads_bind.mpr ⟨_, _, reads_peek.mpr ⟨rfl, rfl⟩, ?_⟩, holds⟩
    rwa [if_neg (mt same.mp isNext)]

end

end Reader

/-! ### With and without a context -/

/-- The numbers of the groups on whose presence something depends. -/
def Groups.mentions (groups : Groups) : List Nat := groups.mentioned.map (·.1)

@[simp]
theorem Groups.mentions_close (groups : Groups) (frame : Frame) :
    (groups.close frame).mentions = groups.mentions := by
  unfold Groups.close
  split <;> rfl

/-- How far a text has been read in a bracket without context, and how far in a bracket that was
opened from `outside`. -/
structure Attached (outside detached inside : Progress) : Prop where
  groups_bare : inside.groups.bare = detached.groups.bare
  mentions : ∀ number, number ∈ inside.groups.mentions ↔
    number ∈ outside.groups.mentions ∨ number ∈ detached.groups.mentions
  variableLookbehind :
    inside.variableLookbehind = (outside.variableLookbehind || detached.variableLookbehind)
  wholeFlags : inside.wholeFlags = outside.wholeFlags
  frame_bare : inside.frame.bare = detached.frame.bare
  outer : ∃ opened, inside.outer = opened ++ outside.frame :: outside.outer ∧
    opened.map Frame.bare = detached.outer.map Frame.bare
  notWhole : ∀ frame ∈ detached.frame :: detached.outer, frame.opening ≠ .whole

namespace Attached

variable {outside detached inside : Progress}

theorem flags_eq (attached : Attached outside detached inside) :
    inside.frame.flags = detached.frame.flags := (Frame.bare_eq_iff.mp attached.frame_bare).2.1

theorem opening_eq (attached : Attached outside detached inside) :
    inside.frame.opening = detached.frame.opening := (Frame.bare_eq_iff.mp attached.frame_bare).1

theorem items_eq (attached : Attached outside detached inside) :
    inside.frame.items = detached.frame.items := (Frame.bare_eq_iff.mp attached.frame_bare).2.2.2

theorem start {outside : Progress} {groups : Groups} (same : outside.groups.bare = groups.bare)
    (number start : Nat) :
    Attached outside (.detached groups number) (outside.enter (.capture number) start .none) where
  groups_bare := same
  mentions := by simp [Progress.enter, Progress.detached, Groups.mentions, Groups.bare]
  variableLookbehind := by simp [Progress.enter, Progress.detached]
  wholeFlags := rfl
  frame_bare := rfl
  outer := ⟨[], rfl, rfl⟩
  notWhole := by simp [Progress.detached, Frame.opened]

/-- The innermost frame changes in the same way in both places. -/
theorem changed (attached : Attached outside detached inside) {frame frame' : Frame}
    (same : frame'.bare = frame.bare) (opening_eq : frame.opening ≠ .whole) :
    Attached outside { detached with frame := frame } { inside with frame := frame' } where
  groups_bare := attached.groups_bare
  mentions := attached.mentions
  variableLookbehind := attached.variableLookbehind
  wholeFlags := attached.wholeFlags
  frame_bare := same
  outer := attached.outer
  notWhole := List.forall_mem_cons.mpr ⟨opening_eq, (List.forall_mem_cons.mp attached.notWhole).2⟩

theorem opening_ne_whole (attached : Attached outside detached inside) :
    detached.frame.opening ≠ .whole := attached.notWhole _ (List.mem_cons_self ..)

theorem push (attached : Attached outside detached inside) (item : Item) :
    Attached outside (detached.push item) (inside.push item) :=
  attached.changed (Frame.push_of_bare attached.frame_bare item) attached.opening_ne_whole

theorem items (attached : Attached outside detached inside) (items : List Item) :
    Attached outside { detached with frame := { detached.frame with items := items } }
      { inside with frame := { inside.frame with items := items } } :=
  attached.changed (congrArg (fun frame => { frame with items := items }) attached.frame_bare)
    attached.opening_ne_whole

theorem split (attached : Attached outside detached inside) :
    Attached outside detached.split inside.split := by
  refine attached.changed ?_ ?_
  · rw [← Frame.split_bare, ← Frame.split_bare, attached.frame_bare]
  · have notWhole := attached.opening_ne_whole
    unfold Frame.split
    split <;> simp_all

/-- A bracket is opened, which may be that of the next group. -/
theorem enter (attached : Attached outside detached inside) {groups groups' : Groups}
    {bracket : Opening} (start start' : Nat) (flags : Flags) (same : groups'.bare = groups.bare)
    (mentions : ∀ number, number ∈ groups'.mentions ↔
      number ∈ outside.groups.mentions ∨ number ∈ groups.mentions)
    (notWhole : bracket ≠ .whole) :
    Attached outside ({ detached with groups := groups }.enter bracket start flags)
      ({ inside with groups := groups' }.enter bracket start' flags) where
  groups_bare := same
  mentions := mentions
  variableLookbehind := attached.variableLookbehind
  wholeFlags := attached.wholeFlags
  frame_bare := rfl
  outer := by
    obtain ⟨opened, outer_eq, same⟩ := attached.outer
    refine ⟨inside.frame :: opened, congrArg (inside.frame :: ·) outer_eq, ?_⟩
    rw [List.map_cons, same, attached.frame_bare]
    rfl
  notWhole := List.forall_mem_cons.mpr ⟨notWhole, attached.notWhole⟩

theorem enterPlain (attached : Attached outside detached inside) {bracket : Opening}
    (start start' : Nat) (flags : Flags) (notWhole : bracket ≠ .whole) :
    Attached outside (detached.enter bracket start flags) (inside.enter bracket start' flags) :=
  attached.enter start start' flags attached.groups_bare attached.mentions notWhole

theorem close (attached : Attached outside detached inside) {frame : Frame} {outer : List Frame}
    (stack : detached.outer = frame :: outer) :
    ∃ frame' outer', inside.outer = frame' :: outer' ∧
      Attached outside (detached.close frame outer) (inside.close frame' outer') := by
  obtain ⟨opened, outer_eq, same⟩ := attached.outer
  rw [stack, List.map_cons] at same
  obtain ⟨frame', opened', rfl, frame_bare, same⟩ := List.map_eq_cons_iff.mp same
  have item : inside.frame.item inside.groups = detached.frame.item detached.groups := by
    rw [← Frame.item_bare, attached.frame_bare, attached.groups_bare, Frame.item_bare]
  have isVariable : inside.frame.isVariableLookbehind inside.groups =
      detached.frame.isVariableLookbehind detached.groups := by
    obtain ⟨-, -, widths_eq, -⟩ := Groups.bare_eq_iff.mp attached.groups_bare
    rw [Frame.isVariableLookbehind, Frame.isVariableLookbehind, attached.opening_eq,
      Frame.body_of_bare attached.frame_bare, widths_eq]
  have notWhole := (List.forall_mem_cons.mp attached.notWhole).2
  rw [stack] at notWhole
  refine ⟨frame', opened' ++ outside.frame :: outside.outer, outer_eq, ?_, ?_, ?_,
    attached.wholeFlags, ?_, ⟨opened', rfl, same⟩,
    List.forall_mem_cons.mpr (List.forall_mem_cons.mp notWhole)⟩
  · simp only [Progress.close]
    rw [← Groups.close_bare, attached.frame_bare, attached.groups_bare, Groups.close_bare]
  · intro number
    simp only [Progress.close, Groups.mentions_close]
    exact attached.mentions number
  · simp only [Progress.close]
    rw [attached.variableLookbehind, isVariable, Bool.or_assoc]
  · simp only [Progress.close]
    rw [item]
    exact Frame.push_of_bare frame_bare _

end Attached

/-! ### Items -/

variable {outside detached inside : Progress}

theorem Attached.pushSet (attached : Attached outside detached inside) (negated : Bool)
    (items : List ClassItem) :
    Attached outside (detached.pushSet negated items) (inside.pushSet negated items) := by
  unfold Progress.pushSet
  rw [attached.flags_eq]
  exact attached.push _

theorem Attached.pushLineAnchor (attached : Attached outside detached inside)
    (single multi : Anchor) :
    Attached outside (detached.pushLineAnchor single multi)
      (inside.pushLineAnchor single multi) := by
  unfold Progress.pushLineAnchor
  rw [attached.flags_eq]
  exact attached.push _

theorem Attached.pushReference (attached : Attached outside detached inside) (mentioned : Nat)
    (byName : Bool) :
    Attached outside (detached.pushReference mentioned byName)
      (inside.pushReference mentioned byName) := by
  unfold Progress.pushReference
  rw [attached.flags_eq]
  exact attached.push _

theorem carriesTo_checkLookbehind (groups : Groups) (number : Nat) :
    CarriesTo (groups.checkLookbehind number) (groups.checkLookbehind number)
      fun _ _ => True := by
  unfold Groups.checkLookbehind
  split
  · exact carriesTo_pure trivial
  · split
    · simp
    · split
      · simp
      · exact carriesTo_pure trivial

theorem attached_pushEscape (attached : Attached outside detached inside) (escape : Escape) :
    CarriesTo (detached.pushEscape escape) (inside.pushEscape escape) (Attached outside) := by
  unfold Progress.pushEscape
  rw [attached.flags_eq]
  cases escape with
  | code code => exact carriesTo_return (attached.pushSet false _)
  | shorthand kind negated => exact carriesTo_return (attached.pushSet false _)
  | textStart | textEnd | wordEdge | notWordEdge => exact carriesTo_return (attached.push _)
  | reference mentioned =>
      dsimp only
      rw [Groups.count_of_bare attached.groups_bare, Groups.isClosed_of_bare attached.groups_bare,
        Groups.checkLookbehind_of_bare attached.groups_bare]
      split
      · simp
      · split
        · simp
        · exact (carriesTo_checkLookbehind _ _).bind fun _ _ _ =>
            carriesTo_return (attached.pushReference _ _)

theorem attached_readClass (attached : Attached outside detached inside) (start start' : Nat) :
    CarriesTo (readClass detached start) (readClass inside start') (Attached outside) := by
  unfold readClass
  rw [attached.flags_eq]
  refine (carries_accept (by decide)).bindTo fun negated => ?_
  refine Carries.bindTo (carries_unbounded fun _ _ le =>
    carries_classMembers _ start start' le []) fun items => ?_
  exact carriesTo_return (attached.pushSet negated items)

theorem attached_repeatLast (attached : Attached outside detached inside) (least : Nat)
    (most : Option Nat) (start start' : Nat) :
    CarriesTo (repeatLast detached least most start) (repeatLast inside least most start')
      (Attached outside) := by
  unfold repeatLast
  rw [attached.items_eq]
  split
  · simp
  · simp
  · simp
  · exact carries_readGreed.bindTo fun greed => carriesTo_return (attached.items _)

theorem attached_readBrace (attached : Attached outside detached inside) (start start' : Nat) :
    CarriesTo (readBrace detached start) (readBrace inside start') (Attached outside) := by
  unfold readBrace
  apply carriesTo_peek_bind (by decide) (carriesTo_return (attached.pushSet _ _))
  refine (carries_attempt carries_readBounds).bindTo fun bounds? => ?_
  cases bounds? with
  | none => exact carriesTo_return (attached.pushSet _ _)
  | some bounds =>
      dsimp only
      generalize (if bounds.2.isEmpty then none else some (Text.numberOf 10 bounds.2)) = most
      split
      · simp
      · split
        · simp
        · exact attached_repeatLast attached _ _ start start'

/-! ### Groups -/

theorem attached_enterCapture (attached : Attached outside detached inside)
    (name : Option String) (start start' : Nat) :
    CarriesTo (enterCapture detached name start) (enterCapture inside name start')
      (Attached outside) := by
  obtain ⟨count_eq, names_eq, widths_eq, before_eq⟩ := Groups.bare_eq_iff.mp attached.groups_bare
  unfold enterCapture
  rw [count_eq, names_eq, attached.flags_eq]
  cases name with
  | none =>
      exact carriesTo_pure (attached.enter start start' _
        (Groups.bare_eq_iff.mpr ⟨rfl, names_eq, widths_eq, before_eq⟩) attached.mentions nofun)
  | some name =>
      dsimp only
      split
      · simp
      · exact carriesTo_pure (attached.enter start start' _
          (Groups.bare_eq_iff.mpr ⟨rfl, rfl, widths_eq, before_eq⟩) attached.mentions nofun)

theorem attached_readNamedReference (attached : Attached outside detached inside) :
    CarriesTo (readNamedReference detached) (readNamedReference inside) (Attached outside) := by
  unfold readNamedReference
  simp only [Groups.names_of_bare attached.groups_bare,
    Groups.isClosed_of_bare attached.groups_bare,
    Groups.checkLookbehind_of_bare attached.groups_bare]
  refine (carries_readGroupName _).bindTo fun name => ?_
  split
  · simp
  · split
    · simp
    · exact (carriesTo_checkLookbehind _ _).bind fun _ _ _ =>
        carriesTo_return (attached.pushReference _ _)

theorem mem_map_fst_iff_isSome_lookup {mentioned : List (Nat × Nat)} {number : Nat} :
    number ∈ mentioned.map (·.1) ↔ (mentioned.lookup number).isSome = true := by
  cases found : mentioned.lookup number with
  | none =>
      have absent := List.lookup_eq_none_iff.mp found
      refine iff_of_false ?_ (by simp)
      intro membership
      obtain ⟨entry, inMentioned, rfl⟩ := List.mem_map.mp membership
      simpa using absent entry inMentioned
  | some place =>
      obtain ⟨front, rest, rfl, -⟩ := List.lookup_eq_some_iff.mp found
      exact iff_of_true (by simp) rfl

/-- A group that is mentioned again is noted only once. -/
theorem mem_mentions_noted (groups : Groups) (number place other : Nat) :
    other ∈ Groups.mentions { groups with
        mentioned := if (groups.mentioned.lookup number).isSome then groups.mentioned
          else groups.mentioned ++ [(number, place)] } ↔
      other ∈ groups.mentions ∨ other = number := by
  unfold Groups.mentions
  by_cases known : (groups.mentioned.lookup number).isSome
  · dsimp only
    rw [if_pos known]
    constructor
    · exact .inl
    · rintro (isThere | rfl)
      · exact isThere
      · exact mem_map_fst_iff_isSome_lookup.mpr known
  · dsimp only
    rw [if_neg known, List.map_append, List.mem_append, List.map_singleton, List.mem_singleton]

theorem attached_readCondition (attached : Attached outside detached inside) :
    CarriesTo (readCondition detached) (readCondition inside)
      fun (mentioned, byName, groups) (mentioned', byName', groups') =>
        mentioned' = mentioned ∧ byName' = byName ∧ groups'.bare = groups.bare ∧
          ∀ number, number ∈ groups'.mentions ↔
            number ∈ outside.groups.mentions ∨ number ∈ groups.mentions := by
  unfold readCondition
  rw [Groups.names_of_bare attached.groups_bare]
  refine (carries_name _ _).bindTo fun name => ?_
  dsimp only
  split
  · split
    · simp
    · exact carriesTo_return ⟨rfl, rfl, attached.groups_bare, attached.mentions⟩
  · split
    · simp
    · split
      · simp
      · split
        · simp
        · refine carriesTo_left_bind fun size size' => carriesTo_return ⟨rfl, rfl, ?_, ?_⟩
          · exact Groups.bare_eq_iff.mpr (Groups.bare_eq_iff.mp attached.groups_bare)
          · intro number
            rw [mem_mentions_noted, mem_mentions_noted, attached.mentions, or_assoc]

theorem attached_enterConditional (attached : Attached outside detached inside)
    (start start' : Nat) :
    CarriesTo (enterConditional detached start) (enterConditional inside start')
      (Attached outside) := by
  apply (attached_readCondition attached).bind
  rintro ⟨mentioned, byName, groups⟩ ⟨_, _, groups'⟩ ⟨rfl, rfl, same, mentions⟩
  dsimp only
  rw [Groups.checkLookbehind_of_bare same, attached.flags_eq]
  exact (carriesTo_checkLookbehind _ _).bind fun _ _ _ =>
    carriesTo_return (attached.enter start start' _ same mentions nofun)

theorem attached_readNamed (attached : Attached outside detached inside) (start start' : Nat) :
    CarriesTo (readNamed detached start) (readNamed inside start') (Attached outside) := by
  refine (carries_accept (by decide)).bindTo fun isName => ?_
  cases isName with
  | true =>
      exact (carries_readGroupName _).bindTo fun name =>
        attached_enterCapture attached (some name) start start'
  | false =>
      refine (carries_accept (by decide)).bindTo fun isReference => ?_
      cases isReference with
      | true => exact attached_readNamedReference attached
      | false => exact carriesTo_next_bind (fun _ _ _ => not_reads_fail) fun token => by simp

theorem attached_enterLookbehind (attached : Attached outside detached inside)
    (start start' : Nat) :
    CarriesTo (enterLookbehind detached start) (enterLookbehind inside start')
      (Attached outside) := by
  obtain ⟨count_eq, names_eq, widths_eq, before_eq⟩ := Groups.bare_eq_iff.mp attached.groups_bare
  unfold enterLookbehind
  rw [before_eq, attached.flags_eq, count_eq]
  refine carriesTo_next_bind (fun _ _ _ => not_reads_fail) fun token => ?_
  dsimp only
  split
  · apply carriesTo_return
    refine attached.enter start start' _ ?_ ?_ nofun
    · split
      · exact Groups.bare_eq_iff.mpr ⟨count_eq, names_eq, widths_eq, rfl⟩
      · exact attached.groups_bare
    · split <;> exact attached.mentions
  · simp

theorem attached_readFlagGroup (attached : Attached outside detached inside) (start start' : Nat)
    (first : Char) :
    CarriesTo (readFlagGroup detached start first) (readFlagGroup inside start' first)
      (Attached outside) := by
  refine (carries_readFlags first).bindTo fun group => ?_
  cases group with
  | whole on => simp [attached.opening_ne_whole]
  | «scoped» on off =>
      dsimp only
      rw [attached.flags_eq]
      exact carriesTo_return (attached.enterPlain start start' _ nofun)

theorem attached_readGroup (attached : Attached outside detached inside) (start start' : Nat) :
    CarriesTo (readGroup detached start) (readGroup inside start') (Attached outside) := by
  unfold readGroup
  rw [attached.flags_eq]
  refine (carries_accept (by decide)).bindTo fun isExtension => ?_
  cases isExtension with
  | false => exact attached_enterCapture attached none start start'
  | true =>
      refine carriesTo_next_bind (fun _ _ _ => not_reads_fail) fun token => ?_
      dsimp only
      split
      · exact attached_readNamed attached start start'
      · exact carriesTo_return (attached.enterPlain start start' _ nofun)
      · exact carriesTo_return (attached.enterPlain start start' _ nofun)
      · exact carriesTo_return (attached.enterPlain start start' _ nofun)
      · exact carriesTo_return (attached.enterPlain start start' _ nofun)
      · exact attached_enterLookbehind attached start start'
      · exact attached_enterConditional attached start start'
      · exact Carries.bindTo (carries_unbounded fun _ _ le =>
          carries_skipComment start start' le) fun _ => carriesTo_return attached
      · split
        · exact attached_readFlagGroup attached start start' _
        · simp
      · simp

/-! ### The whole text -/

theorem attached_readItem (attached : Attached outside detached inside) (token : Token)
    (quiet : ¬ (detached.frame.flags.verbose = true ∧ token = .plain '#')) (start start' : Nat) :
    CarriesTo (readItem detached token start) (readItem inside token start')
      (Attached outside) := by
  unfold readItem
  rw [attached.flags_eq]
  cases token with
  | dangling => simp
  | escaped char =>
      exact (Escape.carries_inExpression char).bindTo fun escape =>
        attached_pushEscape attached escape
  | plain char =>
      dsimp only
      split
      · exact carriesTo_return attached
      · split
        · simp_all
        · split
          · exact attached_readClass attached start start'
          · exact attached_repeatLast attached _ _ start start'
          · exact attached_repeatLast attached _ _ start start'
          · exact attached_repeatLast attached _ _ start start'
          · exact attached_readBrace attached start start'
          · exact carriesTo_return (attached.pushSet _ _)
          · exact attached_readGroup attached start start'
          · exact carriesTo_return (attached.pushLineAnchor _ _)
          · exact carriesTo_return (attached.pushLineAnchor _ _)
          · exact carriesTo_return (attached.pushSet _ _)

/-- A comment that does not end with the text is skipped in both places. -/
theorem attached_comment (attached : Attached outside detached inside)
    (isVerbose : detached.frame.flags.verbose = true) {start start' : Nat}
    {rest left : List Token} {next : Progress}
    (reads : Reads (readItem detached (.plain '#') start) rest next left)
    (goesOn : ¬ (left = [] ∧ next.frame.flags.verbose = true)) (more : List Token) :
    ∃ next', Reads (readItem inside (.plain '#') start') (rest ++ .closing :: more) next'
        (left ++ .closing :: more) ∧ Attached outside next next' := by
  rw [readItem_comment isVerbose] at reads
  obtain ⟨_, _, skips, returns⟩ := reads_bind.mp reads
  obtain ⟨rfl, rfl⟩ := reads_return.mp returns
  have bounds : rest.length < rest.length + 1 ∧
      rest.length + 1 ≤ (rest ++ .closing :: more).length + 1 := by simp
  rcases reads_skipLine_append skips bounds more with atEnd | carried
  · exact absurd ⟨atEnd, isVerbose⟩ goesOn
  · refine ⟨inside, ?_, attached⟩
    rw [readItem_comment (by rw [attached.flags_eq]; exact isVerbose)]
    exact reads_bind.mpr ⟨_, _, carried, reads_return.mpr ⟨rfl, rfl⟩⟩

theorem attached_step (attached : Attached outside detached inside) {token : Token}
    {rest left : List Token} {next : Progress} (reads : Reads (step detached token) rest next left)
    (goesOn : ¬ (left = [] ∧ next.frame.flags.verbose = true)) (more : List Token) :
    ∃ next', Reads (step inside token) (rest ++ .closing :: more) next' (left ++ .closing :: more) ∧
      Attached outside next next' := by
  obtain ⟨-, steps⟩ := steps_of_reads_step reads
  have guard := append_closing_ne_dangling rest more
  cases steps with
  | close stack =>
      obtain ⟨frame', outer', stack', closed⟩ := attached.close stack
      exact ⟨_, (Steps.close stack').reads guard, closed⟩
  | split possible =>
      rw [← attached.opening_eq] at possible
      exact ⟨_, (Steps.split possible).reads guard, attached.split⟩
  | item notClosing notBar readsItem =>
      have toStep {next' : Progress} (reads' : Reads (readItem inside token _)
          (rest ++ .closing :: more) next' (left ++ .closing :: more)) :
          Reads (step inside token) (rest ++ .closing :: more) next' (left ++ .closing :: more) :=
        (Steps.item notClosing notBar reads').reads guard
      by_cases comment : detached.frame.flags.verbose = true ∧ token = .plain '#'
      · obtain ⟨isVerbose, rfl⟩ := comment
        obtain ⟨next', reads', stays⟩ := attached_comment attached isVerbose readsItem goesOn more
        exact ⟨next', toStep reads', stays⟩
      · obtain ⟨next', reads', stays⟩ :=
          attached_readItem attached token comment _ _ readsItem more
        exact ⟨next', toStep reads', stays⟩

/-- A text that is read without a context is read inside of a bracket up to where it closes. -/
theorem readAll_attached (attached : Attached outside detached inside) {input : List Token}
    {final : Progress} (reads : readAll detached input = .ok final)
    (unflagged : final.frame.flags.verbose = false) (more : List Token) :
    ∃ final', Attached outside final final' ∧
      readAll inside (input ++ .closing :: more) = readAll final' (.closing :: more) := by
  -- As for a text alone, a step may take many tokens.
  induction length : input.length using Nat.strongRecOn generalizing detached inside input with
  | _ length inductionHypothesis =>
      subst length
      cases input with
      | nil =>
          rw [readAll_nil] at reads
          injection reads with same
          subst same
          exact ⟨inside, attached, rfl⟩
      | cons token rest =>
          obtain ⟨next, left, stepReads, readsLeft⟩ := readAll_cons_eq_ok_iff.mp reads
          have goesOn : ¬ (left = [] ∧ next.frame.flags.verbose = true) := by
            rintro ⟨rfl, isVerbose⟩
            rw [readAll_nil] at readsLeft
            injection readsLeft with same
            rw [same, unflagged] at isVerbose
            cases isVerbose
          obtain ⟨next', stepReads', stays⟩ := attached_step attached stepReads goesOn more
          have shorter : left.length < (token :: rest).length := by
            obtain ⟨taken, -, rfl, rfl⟩ := stepReads
            exact Nat.lt_succ_of_le taken.le
          obtain ⟨final', attachedFinal, readsOn⟩ :=
            inductionHypothesis _ shorter stays readsLeft rfl
          refine ⟨final', attachedFinal, ?_⟩
          rw [List.cons_append, readAll_cons_of_reads stepReads', readsOn]

/-! ### Brackets -/

/-- From one point of a text to a later one outside of the same brackets, with `finals` the ends of
the brackets without context between them. -/
structure Progress.Gains (first last : Progress) (finals : List Progress) : Prop where
  flags : last.frame.flags = first.frame.flags
  opening : last.frame.opening = first.frame.opening
  outer : last.outer = first.outer
  wholeFlags : last.wholeFlags = first.wholeFlags
  mentions : ∀ number, number ∈ last.groups.mentions ↔
    number ∈ first.groups.mentions ∨ ∃ final ∈ finals, number ∈ final.groups.mentions
  variableLookbehind : last.variableLookbehind =
    (first.variableLookbehind || finals.any (·.variableLookbehind))

namespace Progress.Gains

variable {first middle last : Progress} {finals moreFinals : List Progress}

theorem refl (progress : Progress) : progress.Gains progress [] :=
  ⟨rfl, rfl, rfl, rfl, by simp, by simp⟩

theorem trans (gains : first.Gains middle finals) (gainsMore : middle.Gains last moreFinals) :
    first.Gains last (finals ++ moreFinals) where
  flags := gainsMore.flags.trans gains.flags
  opening := gainsMore.opening.trans gains.opening
  outer := gainsMore.outer.trans gains.outer
  wholeFlags := gainsMore.wholeFlags.trans gains.wholeFlags
  mentions number := by
    rw [gainsMore.mentions, gains.mentions, or_assoc]
    simp only [List.mem_append, or_and_right, exists_or]
  variableLookbehind := by
    rw [gainsMore.variableLookbehind, gains.variableLookbehind, List.any_append, Bool.or_assoc]

end Progress.Gains

theorem Attached.closing {outside final final' : Progress} {number : Nat}
    (attached : Attached outside final final') (closed : final.outer = [])
    (isCapture : final.frame.opening = .capture number) :
    final'.outer = outside.frame :: outside.outer ∧
      outside.Gains (final'.close outside.frame outside.outer) [final] ∧
      (final'.close outside.frame outside.outer).groups.bare =
        (final.groups.close final.frame).bare := by
  obtain ⟨opened, stack, same⟩ := attached.outer
  rw [closed, List.map_nil, List.map_eq_nil_iff] at same
  subst same
  refine ⟨stack, ⟨rfl, rfl, rfl, attached.wholeFlags, ?_, ?_⟩, ?_⟩
  · intro other
    rw [Progress.close, Groups.mentions_close, attached.mentions]
    simp
  · have notLookbehind : final'.frame.isVariableLookbehind final'.groups = false := by
      rw [Frame.isVariableLookbehind, attached.opening_eq, isCapture]
    rw [Progress.close, notLookbehind, Bool.or_false, attached.variableLookbehind]
    simp
  · rw [Progress.close, ← Groups.close_bare, attached.groups_bare, attached.frame_bare,
      Groups.close_bare]

/-- What can be read in a bracket without context is read in it behind the same groups wherever the
bracket stands. -/
theorem IsBracketed.readAll_eq {groups : Groups} {number : Nat} {source : String}
    {final outside : Progress} (bracketed : IsBracketed groups number source final)
    (same : outside.groups.bare = groups.bare) (start : Nat) {more : List Char}
    (guard : Token.ofChars more ≠ [.dangling]) :
    ∃ next, readAll (outside.enter (.capture number) start .none)
        (Token.ofChars (source.toList ++ ')' :: more)) = readAll next (Token.ofChars more) ∧
      outside.Gains next [final] ∧ next.groups.bare = (final.groups.close final.frame).bare := by
  obtain ⟨final', attached, readsOn⟩ :=
    readAll_attached (.start same number start) bracketed.reads
      (by rw [bracketed.unflagged]; rfl) (Token.ofChars more)
  obtain ⟨stack, gains, groups_eq⟩ := attached.closing bracketed.closed bracketed.isCapture
  refine ⟨final'.close outside.frame outside.outer, ?_, gains, groups_eq⟩
  rw [Token.ofChars_append bracketed.complete, Token.ofChars_cons (by decide), readsOn]
  exact readAll_closing stack guard

end UrlRouting.Regex
