import UrlRouting.Proofs.Regex.Mirror

/-!
# Brackets without their context

What a text inside a bracket is read to does not hang on the text around the bracket, as long as the
groups before the bracket are the same.  To tell what it is, the text is read once more, from a
state with these groups and without the context (`Progress.detached`).  Such a reading goes side by
side with one inside the context (`Abreast`), up to where brackets opened and groups were mentioned.
-/

namespace UrlRouting.Regex

/-! ### Places left out -/

/-- The groups, leaving out where they are mentioned. -/
def Groups.bare (groups : Groups) : Groups := { groups with mentioned := [] }

/-- A frame, leaving out where it opened. -/
def Frame.bare (frame : Frame) : Frame := { frame with start := 0 }

namespace Groups

variable {groups groups' : Groups}

theorem bare_eq_iff :
    groups'.bare = groups.bare ↔
      groups'.count = groups.count ∧ groups'.names = groups.names ∧
        groups'.widths = groups.widths ∧
        groups'.beforeLookbehind = groups.beforeLookbehind := by
  simp [bare]

theorem count_of_bare (same : groups'.bare = groups.bare) : groups'.count = groups.count :=
  (bare_eq_iff.mp same).1

theorem names_of_bare (same : groups'.bare = groups.bare) : groups'.names = groups.names :=
  (bare_eq_iff.mp same).2.1

theorem isClosed_of_bare (same : groups'.bare = groups.bare) (number : Nat) :
    groups'.isClosed number = groups.isClosed number := by
  rw [isClosed, isClosed, (bare_eq_iff.mp same).2.2.1]

theorem checkLookbehind_of_bare (same : groups'.bare = groups.bare) (number : Nat) :
    groups'.checkLookbehind number = groups.checkLookbehind number := by
  simp only [checkLookbehind, isClosed_of_bare same, (bare_eq_iff.mp same).2.2.2]

theorem close_bare (groups : Groups) (frame : Frame) :
    groups.bare.close frame.bare = (groups.close frame).bare := by
  unfold close
  simp only [Frame.bare]
  split <;> rfl

/-- The next group, which has a name. -/
def named (groups : Groups) (name : String) : Groups :=
  { groups with
    count := groups.count + 1
    names := groups.names ++ [(name, groups.count + 1)] }

end Groups

namespace Frame

variable {frame frame' : Frame}

theorem bare_eq_iff :
    frame'.bare = frame.bare ↔
      frame'.opening = frame.opening ∧ frame'.flags = frame.flags ∧
        frame'.choices = frame.choices ∧ frame'.items = frame.items := by
  simp [bare]

theorem body_of_bare (same : frame'.bare = frame.bare) : frame'.body = frame.body := by
  obtain ⟨-, -, choices, items⟩ := bare_eq_iff.mp same
  rw [body, body, sequence, sequence, choices, items]

theorem push_of_bare (same : frame'.bare = frame.bare) (item : Item) :
    (frame'.push item).bare = (frame.push item).bare :=
  congrArg (Frame.push · item) same

theorem split_bare (frame : Frame) : frame.bare.split = frame.split.bare := by
  unfold split
  simp only [bare]
  split <;> rfl

theorem item_bare (frame : Frame) (groups : Groups) :
    frame.bare.item groups.bare = frame.item groups := rfl

end Frame

/-! ### A bracket alone -/

/-- The start of a text in a capturing bracket behind other groups, with nothing around it. -/
def Progress.detached (groups : Groups) (number : Nat) : Progress :=
  ⟨groups.bare, .opened (.capture number) 0 .none, [], [], false⟩

/-- How far a text has been read alone, inside a capturing bracket opened from `outside`, and
detached from what is around that bracket. -/
structure Abreast (outside : Progress) (number : Nat) (alone inside detached : Progress) : Prop
    extends Within outside number alone inside where
  groups_bare : detached.groups.bare = inside.groups.bare
  depth : detached.outer.length = alone.outer.length
  frames_bare : (detached.frame :: detached.outer).map Frame.bare <+:
    (inside.frame :: inside.outer).map Frame.bare

namespace Abreast

variable {outside alone inside detached : Progress} {number : Nat}

theorem frame_bare (abreast : Abreast outside number alone inside detached) :
    detached.frame.bare = inside.frame.bare :=
  (List.cons_prefix_cons.mp abreast.frames_bare).1

theorem outer_bare (abreast : Abreast outside number alone inside detached) :
    detached.outer.map Frame.bare <+: inside.outer.map Frame.bare :=
  (List.cons_prefix_cons.mp abreast.frames_bare).2

theorem flags_eq (abreast : Abreast outside number alone inside detached) :
    detached.frame.flags = inside.frame.flags := (Frame.bare_eq_iff.mp abreast.frame_bare).2.1

theorem items_eq (abreast : Abreast outside number alone inside detached) :
    detached.frame.items = inside.frame.items := (Frame.bare_eq_iff.mp abreast.frame_bare).2.2.2

theorem count_eq (abreast : Abreast outside number alone inside detached) :
    detached.groups.count = inside.groups.count := Groups.count_of_bare abreast.groups_bare

theorem names_eq (abreast : Abreast outside number alone inside detached) :
    detached.groups.names = inside.groups.names := Groups.names_of_bare abreast.groups_bare

theorem isClosed_eq (abreast : Abreast outside number alone inside detached) (mentioned : Nat) :
    detached.groups.isClosed mentioned = inside.groups.isClosed mentioned :=
  Groups.isClosed_of_bare abreast.groups_bare mentioned

theorem checkLookbehind_eq (abreast : Abreast outside number alone inside detached)
    (mentioned : Nat) :
    detached.groups.checkLookbehind mentioned = inside.groups.checkLookbehind mentioned :=
  Groups.checkLookbehind_of_bare abreast.groups_bare mentioned

theorem start {outside : Progress} (nodup : (outside.groups.names.map (·.1)).Nodup)
    (bounded : outside.groups.IsBounded) (number size start : Nat) :
    Abreast outside number (.start size) (outside.enter (.capture number) start .none)
      (.detached outside.groups number) where
  toWithin := .start nodup bounded number size start
  groups_bare := rfl
  depth := rfl
  frames_bare := List.cons_prefix_cons.mpr ⟨rfl, List.nil_prefix⟩

theorem push (abreast : Abreast outside number alone inside detached) {item item' : Item}
    (mirrors : item.Mirrors outside.groups.count inside.groups.count alone.IsByName item') :
    Abreast outside number (alone.push item) (inside.push item') (detached.push item') where
  toWithin := abreast.toWithin.push mirrors
  groups_bare := abreast.groups_bare
  depth := abreast.depth
  frames_bare := List.cons_prefix_cons.mpr
    ⟨Frame.push_of_bare abreast.frame_bare item', abreast.outer_bare⟩

/-- A bracket is opened, which may be that of the next group. -/
theorem enter (abreast : Abreast outside number alone inside detached)
    {groups groups' groups'' : Groups} {bracket bracket' : Opening} {start start' start'' : Nat}
    {flags flags' : Flags} (continues : Groups.Continues outside.groups groups groups')
    (grows : alone.groups.count ≤ groups.count)
    (mirrors : bracket.Mirrors outside.groups.count groups'.count alone.IsByName bracket')
    (flags_eq : flags' = flags) (widths_eq : groups.widths = alone.groups.widths)
    (widths_eq' : groups'.widths = inside.groups.widths) (same : groups''.bare = groups'.bare) :
    Abreast outside number ({ alone with groups := groups }.enter bracket start flags)
      ({ inside with groups := groups' }.enter bracket' start' flags')
      ({ detached with groups := groups'' }.enter bracket' start'' flags') where
  toWithin := abreast.toWithin.enter continues grows mirrors flags_eq widths_eq widths_eq'
  groups_bare := same
  depth := congrArg (· + 1) abreast.depth
  frames_bare := List.cons_prefix_cons.mpr ⟨rfl, abreast.frames_bare⟩

theorem items (abreast : Abreast outside number alone inside detached) {items items' : List Item}
    (mirrors : List.Forall₂
      (Item.Mirrors outside.groups.count inside.groups.count alone.IsByName) items items')
    (keeps : (∀ item ∈ items, item.regex.IsByName) →
      ∀ item ∈ alone.frame.items, item.regex.IsByName) :
    Abreast outside number
      { alone with frame := { alone.frame with items := items } }
      { inside with frame := { inside.frame with items := items' } }
      { detached with frame := { detached.frame with items := items' } } where
  toWithin := abreast.toWithin.items mirrors keeps
  groups_bare := abreast.groups_bare
  depth := abreast.depth
  frames_bare := List.cons_prefix_cons.mpr
    ⟨congrArg (fun frame => { frame with items := items' }) abreast.frame_bare,
      abreast.outer_bare⟩

/-- A choice is complete. -/
theorem split (abreast : Abreast outside number alone inside detached)
    (possible : ∀ mentioned byName present,
      alone.frame.opening ≠ .conditional mentioned byName (some present)) :
    Abreast outside number alone.split inside.split detached.split where
  toWithin := abreast.toWithin.split possible
  groups_bare := abreast.groups_bare
  depth := abreast.depth
  frames_bare := by
    refine List.cons_prefix_cons.mpr ⟨?_, abreast.outer_bare⟩
    simp only [Progress.split]
    rw [← Frame.split_bare, ← Frame.split_bare, abreast.frame_bare]

theorem close (abreast : Abreast outside number alone inside detached) {frame : Frame}
    {outer : List Frame} (stack : alone.outer = frame :: outer) :
    ∃ frame' outer' frame'' outer'',
      inside.outer = frame' :: outer' ∧ detached.outer = frame'' :: outer'' ∧
      Abreast outside number (alone.close frame outer) (inside.close frame' outer')
        (detached.close frame'' outer'') := by
  obtain ⟨frame', outer', stack', closed⟩ := abreast.toWithin.close stack
  obtain ⟨frame'', outer'', stack''⟩ : ∃ frame'' outer'', detached.outer = frame'' :: outer'' :=
    List.exists_cons_of_length_eq_add_one (by rw [abreast.depth, stack]; rfl)
  have deeper := abreast.outer_bare
  rw [stack', stack''] at deeper
  obtain ⟨frame_bare, outer_bare⟩ := List.cons_prefix_cons.mp deeper
  have item : detached.frame.item detached.groups = inside.frame.item inside.groups := by
    rw [← Frame.item_bare, abreast.frame_bare, abreast.groups_bare, Frame.item_bare]
  refine ⟨frame', outer', frame'', outer'', stack', stack'', closed, ?_, ?_, ?_⟩
  · simp only [Progress.close]
    rw [← Groups.close_bare, abreast.frame_bare, abreast.groups_bare, Groups.close_bare]
  · have depth := abreast.depth
    rw [stack, stack''] at depth
    exact Nat.succ_injective depth
  · simp only [Progress.close]
    rw [item]
    exact List.cons_prefix_cons.mpr ⟨Frame.push_of_bare frame_bare _, outer_bare⟩

end Abreast

end UrlRouting.Regex
