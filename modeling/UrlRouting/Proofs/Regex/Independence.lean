import UrlRouting.Proofs.Regex.Source

/-!
# Texts that do not refer back

A text that names no groups, sets no flags for the whole of itself and refers to none of its groups
has this at each point of its reading (`Regex.Progress.IsIndependent`), since nothing that has been
read is forgotten (`Regex.Runs.isIndependent`).
-/

namespace UrlRouting.Regex

open Reader

/-! ### Trees -/

/-- Whether a tree takes again what one of its groups has taken. -/
def hasReference : Regex → Bool
  | empty | oneOf _ | anchor _ => false
  | seq first second | alt first second => first.hasReference || second.hasReference
  | repeated _ _ _ body | group _ body | atomic body | lookahead _ body | lookbehind _ _ body =>
      body.hasReference
  | reference .. => true
  | conditional _ _ present absent => present.hasReference || absent.hasReference

/-- Whether a tree asks inside of a look-behind if one of its groups has taken something. -/
def asksBehind (behind : Bool) : Regex → Bool
  | empty | oneOf _ | anchor _ | reference .. => false
  | seq first second | alt first second => first.asksBehind behind || second.asksBehind behind
  | repeated _ _ _ body | group _ body | atomic body | lookahead _ body => body.asksBehind behind
  | lookbehind _ _ body => body.asksBehind true
  | conditional _ _ present absent =>
      behind || present.asksBehind behind || absent.asksBehind behind

/-- Whether a tree refers to a group that has to be closed.  Outside of look-behinds the reader need
not know the group that a condition mentions. -/
def refersBack (behind : Bool) : Regex → Bool
  | empty | oneOf _ | anchor _ => false
  | seq first second | alt first second => first.refersBack behind || second.refersBack behind
  | repeated _ _ _ body | group _ body | atomic body | lookahead _ body => body.refersBack behind
  | lookbehind _ _ body => body.refersBack true
  | reference .. => true
  | conditional _ _ present absent =>
      behind || present.refersBack behind || absent.refersBack behind

theorem refersBack_eq (tree : Regex) (behind : Bool) :
    tree.refersBack behind = (tree.hasReference || tree.asksBehind behind) := by
  induction tree generalizing behind with
  | empty | oneOf | anchor | reference => rfl
  | seq _ _ first second | alt _ _ first second =>
      rw [refersBack, hasReference, asksBehind, first, second]
      ac_rfl
  | repeated _ _ _ _ body | group _ _ body | atomic _ body | lookahead _ _ body =>
      exact body behind
  | lookbehind _ _ _ body => exact body true
  | conditional _ _ _ _ present absent =>
      rw [refersBack, hasReference, asksBehind, present, absent]
      ac_rfl

variable {behind : Bool}

theorem refersBack_concat (trees : List Regex) :
    (concat trees).refersBack behind = trees.any (·.refersBack behind) := by
  induction trees with
  | nil => rfl
  | cons tree rest inductionHypothesis =>
      rw [concat, refersBack, inductionHypothesis, List.any_cons]

theorem refersBack_anyOf (trees : List Regex) :
    (anyOf trees).refersBack behind = trees.any (·.refersBack behind) := by
  induction trees with
  | nil => rfl
  | cons tree rest inductionHypothesis =>
      cases rest with
      | nil => simp [anyOf]
      | cons next others =>
          have isAlt : anyOf (tree :: next :: others) = alt tree (anyOf (next :: others)) := rfl
          rw [isAlt, refersBack, inductionHypothesis]
          rfl

/-- A regular expression refers to nothing. -/
theorem refersBack_of_isRegular {tree : Regex} (regular : tree.IsRegular) :
    tree.refersBack behind = false := by
  induction tree with
  | empty | oneOf => rfl
  | seq first second inFirst inSecond | alt first second inFirst inSecond =>
      rw [refersBack, inFirst regular.1, inSecond regular.2, Bool.or_false]
  | repeated _ _ _ _ inBody => exact inBody regular.2
  | group _ _ inBody => exact inBody regular
  | anchor | reference | atomic | lookahead | lookbehind | conditional => exact regular.elim

/-- What a tree that does not refer back can take does not hang on other groups. -/
theorem Mirrors.width_eq_of_refersBack {offset limit : Nat} {named : Prop} {tree tree' : Regex}
    (mirrors : Mirrors offset limit named tree tree') (free : tree.refersBack behind = false)
    (groups groups' : List (Nat × Width)) : tree'.width groups' = tree.width groups := by
  induction mirrors with
  | empty | oneOf | anchor | lookahead | lookbehind => rfl
  | seq _ _ first second | alt _ _ first second =>
      obtain ⟨freeFirst, freeSecond⟩ := Bool.or_eq_false_iff.mp free
      rw [width, width, first freeFirst, second freeSecond]
  | repeated _ _ _ _ body => rw [width, width, body free]
  | group _ _ _ body | atomic _ body => rw [width, width, body free]
  | reference => cases free
  | conditional _ _ _ present absent =>
      obtain ⟨freeFront, freeAbsent⟩ := Bool.or_eq_false_iff.mp free
      rw [width, width, present (Bool.or_eq_false_iff.mp freeFront).2, absent freeAbsent]

/-! ### Open brackets -/

def Opening.isLookbehind : Opening → Bool
  | lookbehind .. => true
  | _ => false

namespace Frame

variable {frame : Frame}

/-- Whether what an open bracket would become now refers back. -/
def refersBack (behind : Bool) (frame : Frame) : Bool :=
  (frame.item .none).regex.refersBack behind

theorem refersBack_item (frame : Frame) (groups : Groups) :
    (frame.item groups).regex.refersBack behind = frame.refersBack behind := by
  rcases frame with ⟨opening, start, flags, choices, items⟩
  cases opening with
  | conditional number byName present? => cases present? <;> rfl
  | _ => rfl

theorem refersBack_sequence (frame : Frame) :
    frame.sequence.refersBack behind = frame.items.any (·.regex.refersBack behind) := by
  rw [sequence, refersBack_concat, List.any_map, List.any_reverse]
  rfl

theorem refersBack_body (frame : Frame) :
    frame.body.refersBack behind =
      (frame.items.any (·.regex.refersBack behind) || frame.choices.any (·.refersBack behind)) := by
  rw [body, refersBack_anyOf, List.any_reverse, List.any_cons, refersBack_sequence]

theorem refersBack_push (frame : Frame) (item : Item) :
    (frame.push item).refersBack behind =
      (item.regex.refersBack (behind || frame.opening.isLookbehind) ||
        frame.refersBack behind) := by
  have sequence_eq (inner : Bool) : (frame.push item).sequence.refersBack inner =
      (item.regex.refersBack inner || frame.sequence.refersBack inner) := by
    rw [refersBack_sequence, refersBack_sequence, push, List.any_cons]
  have body_eq (inner : Bool) : (frame.push item).body.refersBack inner =
      (item.regex.refersBack inner || frame.body.refersBack inner) := by
    rw [refersBack_body, refersBack_body, push, List.any_cons, Bool.or_assoc]
  rcases frame with ⟨opening, start, flags, choices, items⟩
  cases opening with
  | lookbehind =>
      dsimp only [Opening.isLookbehind]
      rw [Bool.or_true]
      exact body_eq true
  | conditional number byName present? =>
      dsimp only [Opening.isLookbehind]
      rw [Bool.or_false]
      cases present? with
      | none =>
          change (behind || _ || false) = (_ || (behind || _ || false))
          rw [sequence_eq, Bool.or_false, Bool.or_false, Bool.or_left_comm]
      | some present =>
          change (behind || _ || _) = (_ || (behind || _ || _))
          rw [sequence_eq, Bool.or_left_comm]
  | _ =>
      dsimp only [Opening.isLookbehind]
      rw [Bool.or_false]
      exact body_eq behind

/-- The items so far may be written in other ways. -/
theorem refersBack_items {items : List Item}
    (same : ∀ inner, items.any (·.regex.refersBack inner) =
      frame.items.any (·.regex.refersBack inner)) :
    ({ frame with items := items } : Frame).refersBack behind = frame.refersBack behind := by
  have sequence_eq (inner : Bool) : ({ frame with items := items } : Frame).sequence.refersBack
      inner = frame.sequence.refersBack inner := by
    rw [refersBack_sequence, refersBack_sequence, same]
  have body_eq (inner : Bool) : ({ frame with items := items } : Frame).body.refersBack inner =
      frame.body.refersBack inner := by
    rw [refersBack_body, refersBack_body, same]
  rcases frame with ⟨opening, start, flags, choices, others⟩
  cases opening with
  | lookbehind => exact body_eq true
  | conditional number byName present? =>
      cases present? with
      | none =>
          change (behind || _ || false) = (behind || _ || false)
          rw [sequence_eq]
      | some present =>
          change (behind || _ || _) = (behind || _ || _)
          rw [sequence_eq]
  | _ => exact body_eq behind

theorem refersBack_completed (frame : Frame) :
    ({ frame with choices := frame.sequence :: frame.choices, items := [] } : Frame).body.refersBack
      behind = frame.body.refersBack behind := by
  rw [refersBack_body, refersBack_body, List.any_cons, List.any_nil, Bool.false_or,
    refersBack_sequence]

/-- A complete choice stays, unless it is the second one of a condition. -/
theorem refersBack_split (possible : ∀ number byName present,
    frame.opening ≠ .conditional number byName (some present)) :
    frame.split.refersBack behind = frame.refersBack behind := by
  rcases frame with ⟨opening, start, flags, choices, items⟩
  cases opening with
  | conditional number byName present? =>
      cases present? with
      | none => rfl
      | some present => exact absurd rfl (possible number byName present)
  | _ => exact refersBack_completed _

end Frame

/-! ### Progress -/

/-- Whether one of some open brackets would refer back, of which the innermost is the first. -/
def refersBackAmong : List Frame → Bool
  | [] => false
  | frame :: outer =>
      frame.refersBack (outer.any (·.opening.isLookbehind)) || refersBackAmong outer

namespace Progress

def frames (progress : Progress) : List Frame := progress.frame :: progress.outer

/-- What has been read names no groups, sets no flags for the whole, and does not refer back. -/
structure IsIndependent (progress : Progress) : Prop where
  unnamed : progress.groups.names = []
  unflagged : progress.wholeFlags = []
  free : refersBackAmong progress.frames = false

/-- What an item does to what has been read. -/
inductive Changes (progress : Progress) : Progress → Prop where
  | skip : Changes progress progress
  | push (item : Item) : Changes progress (progress.push item)
  | repetition {regex : Regex} {items : List Item} (least : Nat) (most : Option Nat)
      (greed : Greed) : progress.frame.items = .other regex :: items →
      Changes progress { progress with frame := { progress.frame with
        items := .repetition (.repeated least most greed regex) :: items } }
  | enter {groups : Groups} {names : List (String × Nat)} (opening : Opening) (start : Nat)
      (flags : Flags) : groups.names = progress.groups.names ++ names →
      Changes progress ({ progress with groups := groups }.enter opening start flags)
  | flag (on : List Char) (flags : Flags) :
      Changes progress { progress with
        frame := { progress.frame with flags := flags }
        wholeFlags := on ++ progress.wholeFlags }

variable {progress next : Progress}

/-- Nothing that has been read is forgotten. -/
theorem IsIndependent.of_changes (independent : next.IsIndependent)
    (changes : progress.Changes next) : progress.IsIndependent := by
  obtain ⟨unnamed, unflagged, free⟩ := independent
  cases changes with
  | skip => exact ⟨unnamed, unflagged, free⟩
  | push item =>
      refine ⟨unnamed, unflagged, ?_⟩
      rw [frames, refersBackAmong] at free ⊢
      rw [Progress.push, Frame.refersBack_push, Bool.or_assoc] at free
      exact (Bool.or_eq_false_iff.mp free).2
  | @repetition regex items least most greed last =>
      have same (behind : Bool) : ({ progress.frame with
            items := .repetition (.repeated least most greed regex) :: items } :
            Frame).refersBack behind = progress.frame.refersBack behind :=
        Frame.refersBack_items fun inner => by rw [last]; rfl
      refine ⟨unnamed, unflagged, ?_⟩
      rw [frames, refersBackAmong, ← same]
      exact free
  | @enter groups names opening start flags names_eq =>
      refine ⟨?_, unflagged, (Bool.or_eq_false_iff.mp free).2⟩
      exact (List.append_eq_nil_iff.mp (names_eq.symm.trans unnamed)).1
  | flag on flags => exact ⟨unnamed, (List.append_eq_nil_iff.mp unflagged).2, free⟩

end Progress

/-! ### What readers give -/

/-- Whatever a reader gives has a property. -/
def Reader.Gives {α : Type} (reader : Reader α) (holds : α → Prop) : Prop :=
  ∀ ⦃input value rest⦄, Reads reader input value rest → holds value

namespace Reader

section

variable {α β : Type} {first : Reader α} {second : α → Reader β} {holdsFirst : α → Prop}
  {holds : β → Prop}

@[simp]
theorem gives_fail (fault : RegexFault) (back : Nat) : Gives (fail fault back) holds :=
  fun _ _ _ reads => absurd reads not_reads_fail

@[simp]
theorem gives_failAt (fault : RegexFault) (fromEnd : Nat) : Gives (failAt fault fromEnd) holds :=
  fun _ _ _ reads => absurd reads not_reads_failAt

@[simp]
theorem gives_failNowhere (fault : RegexFault) : Gives (failNowhere fault) holds :=
  fun _ _ _ reads => absurd reads not_reads_failNowhere

theorem gives_pure {value : β} (isRight : holds value) : Gives (Reader.pure value) holds := by
  intro input given rest reads
  obtain ⟨rfl, -⟩ := reads_pure.mp reads
  exact isRight

theorem gives_return {value : β} (isRight : holds value) :
    Gives (Pure.pure value : Reader β) holds := gives_pure isRight

theorem Gives.bind (gives : Gives first holdsFirst)
    (givesNext : ∀ value, holdsFirst value → Gives (second value) holds) :
    Gives (first >>= second) holds := by
  intro input value rest reads
  obtain ⟨middle, between, readsFirst, readsSecond⟩ := reads_bind.mp reads
  exact givesNext middle (gives readsFirst) readsSecond

theorem gives_bind (givesNext : ∀ value, Gives (second value) holds) :
    Gives (first >>= second) holds :=
  Gives.bind (fun _ _ _ _ => trivial : Gives first fun _ => True) fun value _ => givesNext value

end

end Reader

variable {progress : Progress}

theorem changes_pushEscape (escape : Escape) :
    Gives (progress.pushEscape escape) progress.Changes := by
  unfold Progress.pushEscape
  cases escape with
  | code | shorthand | textStart | textEnd | wordEdge | notWordEdge => exact gives_return (.push _)
  | reference number =>
      dsimp only
      split
      · simp
      · split
        · simp
        · exact gives_bind fun _ => gives_return (.push _)

theorem changes_readClass (start : Nat) : Gives (readClass progress start) progress.Changes :=
  gives_bind fun _ => gives_bind fun _ => gives_return (.push _)

theorem changes_repeatLast (least : Nat) (most : Option Nat) (start : Nat) :
    Gives (repeatLast progress least most start) progress.Changes := by
  unfold repeatLast
  split
  · simp
  · simp
  · simp
  · next last => exact gives_bind fun greed => gives_return (.repetition least most greed last)

theorem changes_readBrace (start : Nat) : Gives (readBrace progress start) progress.Changes := by
  refine gives_bind fun token? => ?_
  split
  · exact gives_return (.push _)
  · refine gives_bind fun bounds? => ?_
    cases bounds? with
    | none => exact gives_return (.push _)
    | some bounds =>
        dsimp only
        generalize (if bounds.2.isEmpty then none else some (Text.numberOf 10 bounds.2)) = most
        split
        · simp
        · split
          · simp
          · exact changes_repeatLast _ _ _

theorem changes_enter (opening : Opening) (start : Nat) (flags : Flags) :
    progress.Changes (progress.enter opening start flags) :=
  .enter opening start flags (List.append_nil _).symm

theorem changes_enterCapture (name? : Option String) (start : Nat) :
    Gives (enterCapture progress name? start) progress.Changes := by
  unfold enterCapture
  cases name? with
  | none => exact gives_pure (.enter _ _ _ (List.append_nil _).symm)
  | some name =>
      dsimp only
      split
      · simp
      · exact gives_pure (.enter _ _ _ rfl)

theorem changes_readNamed (start : Nat) : Gives (readNamed progress start) progress.Changes := by
  refine gives_bind fun isName => ?_
  cases isName with
  | true => exact gives_bind fun name => changes_enterCapture (some name) start
  | false =>
      refine gives_bind fun isReference => ?_
      cases isReference with
      | true =>
          refine gives_bind fun name => ?_
          split
          · simp
          · split
            · simp
            · exact gives_bind fun _ => gives_return (.push _)
      | false =>
          refine gives_bind fun token? => ?_
          cases token? <;> simp

theorem changes_enterLookbehind (start : Nat) :
    Gives (enterLookbehind progress start) progress.Changes := by
  refine gives_bind fun token? => ?_
  cases token? with
  | none => simp
  | some token =>
      dsimp only
      split
      · refine gives_return (.enter _ _ _ (Eq.trans ?_ (List.append_nil _).symm))
        split <;> rfl
      · simp

/-- A condition leaves the groups as they are but for what is mentioned of them. -/
theorem names_readCondition :
    Gives (readCondition progress) fun condition =>
      condition.2.2.names = progress.groups.names := by
  refine gives_bind fun name => ?_
  dsimp only
  split
  · split
    · simp
    · exact gives_return rfl
  · split
    · simp
    · split
      · simp
      · split
        · simp
        · exact gives_bind fun place => gives_return rfl

theorem changes_enterConditional (start : Nat) :
    Gives (enterConditional progress start) progress.Changes := by
  refine names_readCondition.bind fun condition names_eq => ?_
  exact gives_bind fun _ => gives_return (.enter _ _ _ (names_eq.trans (List.append_nil _).symm))

theorem changes_readFlagGroup (start : Nat) (first : Char) :
    Gives (readFlagGroup progress start first) progress.Changes := by
  refine gives_bind fun group => ?_
  cases group with
  | whole on =>
      dsimp only
      split
      · exact gives_return (.flag on _)
      · simp
  | «scoped» on off => exact gives_return (changes_enter _ _ _)

theorem changes_readGroup (start : Nat) : Gives (readGroup progress start) progress.Changes := by
  refine gives_bind fun isExtension => ?_
  cases isExtension with
  | false => exact changes_enterCapture none start
  | true =>
      refine gives_bind fun token? => ?_
      cases token? with
      | none => simp
      | some token =>
          dsimp only
          split
          · exact changes_readNamed start
          · exact gives_return (changes_enter _ _ _)
          · exact gives_return (changes_enter _ _ _)
          · exact gives_return (changes_enter _ _ _)
          · exact gives_return (changes_enter _ _ _)
          · exact changes_enterLookbehind start
          · exact changes_enterConditional start
          · exact gives_bind fun _ => gives_return .skip
          · split
            · exact changes_readFlagGroup start _
            · simp
          · simp

theorem changes_readItem (token : Token) (start : Nat) :
    Gives (readItem progress token start) progress.Changes := by
  unfold readItem
  cases token with
  | dangling => simp
  | escaped char => exact gives_bind fun escape => changes_pushEscape escape
  | plain char =>
      dsimp only
      split
      · exact gives_return .skip
      · split
        · exact gives_bind fun _ => gives_return .skip
        · split
          · exact changes_readClass start
          · exact changes_repeatLast _ _ start
          · exact changes_repeatLast _ _ start
          · exact changes_repeatLast _ _ start
          · exact changes_readBrace start
          · exact gives_return (.push _)
          · exact changes_readGroup start
          · exact gives_return (.push _)
          · exact gives_return (.push _)
          · exact gives_return (.push _)

/-! ### Whole texts -/

namespace Progress.IsIndependent

theorem of_close {frame : Frame} {outer : List Frame}
    (independent : (progress.close frame outer).IsIndependent)
    (stack : progress.outer = frame :: outer) : progress.IsIndependent := by
  obtain ⟨unnamed, unflagged, free⟩ := independent
  rw [Progress.close, Groups.close_names] at unnamed
  refine ⟨unnamed, unflagged, ?_⟩
  rw [frames, refersBackAmong, Progress.close, Frame.refersBack_push, Frame.refersBack_item,
    Bool.or_assoc] at free
  rw [frames, stack, refersBackAmong, refersBackAmong, List.any_cons,
    Bool.or_comm (Opening.isLookbehind _)]
  exact free

theorem of_split (independent : progress.split.IsIndependent)
    (possible : ∀ number byName present,
      progress.frame.opening ≠ .conditional number byName (some present)) :
    progress.IsIndependent := by
  obtain ⟨unnamed, unflagged, free⟩ := independent
  refine ⟨unnamed, unflagged, ?_⟩
  rw [frames, refersBackAmong, ← Frame.refersBack_split possible]
  exact free

theorem of_steps {next : Progress} (independent : next.IsIndependent) {token : Token}
    {rest left : List Token} (steps : Steps progress token rest next left) :
    progress.IsIndependent := by
  cases steps with
  | close stack => exact independent.of_close stack
  | split possible => exact independent.of_split possible
  | item _ _ reads => exact independent.of_changes (changes_readItem _ _ reads)

end Progress.IsIndependent

/-- Nothing but the text itself is around all brackets. -/
def Progress.IsWhole (progress : Progress) : Prop :=
  (progress.frames.map (·.opening)).getLast? = some .whole

namespace Progress.IsWhole

theorem of_changes {next : Progress} (isWhole : progress.IsWhole)
    (changes : progress.Changes next) : next.IsWhole := by
  cases changes with
  | skip | push | repetition | flag => exact isWhole
  | enter opening =>
      change (opening :: progress.frames.map (·.opening)).getLast? = some .whole
      rw [List.getLast?_cons, isWhole]
      rfl

theorem close {frame : Frame} {outer : List Frame} (isWhole : progress.IsWhole)
    (stack : progress.outer = frame :: outer) : (progress.close frame outer).IsWhole := by
  rw [IsWhole, frames, stack, List.map_cons, List.map_cons, List.getLast?_cons_cons] at isWhole
  exact isWhole

theorem split (isWhole : progress.IsWhole) : progress.split.IsWhole := by
  have frames_eq : progress.split.frames = progress.frame.split :: progress.outer := rfl
  rw [IsWhole, frames_eq]
  rw [IsWhole, frames] at isWhole
  cases stack : progress.outer with
  | nil =>
      rw [stack] at isWhole
      have opening_eq : progress.frame.opening = .whole := Option.some.inj isWhole
      simp [Frame.split, opening_eq]
  | cons frame outer =>
      rw [stack, List.map_cons, List.map_cons, List.getLast?_cons_cons] at isWhole
      rw [List.map_cons, List.map_cons, List.getLast?_cons_cons]
      exact isWhole

theorem of_steps {next : Progress} {token : Token} {rest left : List Token}
    (isWhole : progress.IsWhole) (steps : Steps progress token rest next left) :
    next.IsWhole := by
  cases steps with
  | close stack => exact isWhole.close stack
  | split => exact isWhole.split
  | item _ _ reads => exact isWhole.of_changes (changes_readItem _ _ reads)

end Progress.IsWhole

/-- A text that is read step by step up to a last point. -/
inductive Runs (last : Progress) : Progress → List Token → Prop where
  | done : Runs last last []
  | step {progress next : Progress} {token : Token} {rest left : List Token} :
      rest ≠ [.dangling] → Steps progress token rest next left → Runs last next left →
      Runs last progress (token :: rest)

theorem readAll_eq_ok_iff_runs {last : Progress} {input : List Token} :
    readAll progress input = .ok last ↔ Runs last progress input := by
  constructor
  · intro reads
    induction length : input.length using Nat.strongRecOn generalizing progress input with
    | _ length inductionHypothesis =>
        subst length
        cases input with
        | nil =>
            rw [readAll_nil] at reads
            cases reads
            exact .done
        | cons token rest =>
            obtain ⟨next, left, stepReads, readsLeft⟩ := readAll_cons_eq_ok_iff.mp reads
            have shorter : left.length < (token :: rest).length := by
              obtain ⟨taken, -, rfl, rfl⟩ := stepReads
              exact Nat.lt_succ_of_le taken.le
            obtain ⟨guard, steps⟩ := steps_of_reads_step stepReads
            exact .step guard steps (inductionHypothesis _ shorter readsLeft rfl)
  · intro runs
    induction runs with
    | done => exact readAll_nil last
    | step guard steps _ inductionHypothesis =>
        rw [readAll_cons_of_reads (steps.reads guard), inductionHypothesis]

theorem Runs.isIndependent {last : Progress} {input : List Token}
    (runs : Runs last progress input) (independent : last.IsIndependent) :
    progress.IsIndependent := by
  induction runs with
  | done => exact independent
  | step _ steps _ inductionHypothesis => exact inductionHypothesis.of_steps steps

/-- Where all brackets are closed, it is the tree of the text that must not refer back. -/
theorem Progress.IsWhole.isIndependent (isWhole : progress.IsWhole) (closed : progress.outer = [])
    (unnamed : progress.groups.names = []) (unflagged : progress.wholeFlags = [])
    (free : progress.frame.body.refersBack false = false) : progress.IsIndependent := by
  refine ⟨unnamed, unflagged, ?_⟩
  rw [IsWhole, frames, closed] at isWhole
  have opening_eq : progress.frame.opening = .whole := Option.some.inj isWhole
  rw [frames, closed, refersBackAmong, refersBackAmong, Bool.or_false, Frame.refersBack, Frame.item,
    opening_eq]
  exact free

theorem Runs.isWhole {last : Progress} {input : List Token} (runs : Runs last progress input)
    (isWhole : progress.IsWhole) : last.IsWhole := by
  induction runs with
  | done => exact isWhole
  | step _ steps _ inductionHypothesis => exact inductionHypothesis (isWhole.of_steps steps)

end UrlRouting.Regex
