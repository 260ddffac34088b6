import UrlRouting.Proofs.Regex.Detachment
import UrlRouting.Proofs.Regex.ReadingParts

/-!
# Reading inside a capturing bracket

A text that can be read alone and is read inside a bracket is read in the same steps both times, and
also detached from what is around the bracket: each reader keeps the invariant `Abreast` and stops
at the same place (`Agrees`), hence so does a step, and hence the whole text (`readAll_abreast`).
Nothing is claimed of texts that are refused inside of the bracket.
-/

namespace UrlRouting.Regex

open Reader

/-! ### Readers side by side -/

/-- Whenever a reader gives something alone, and a second one in front of a closing parenthesis,
the second one leaves what the first one leaves, and a third one gives something alone, with the
values related. -/
def Reader.Agrees {α β : Type} (first : Reader α) (second third : Reader β)
    (related : α → β → β → Prop) : Prop :=
  ∀ ⦃input value rest more value' rest'⦄, Reads first input value rest →
    Reads second (input ++ .closing :: more) value' rest' →
      rest' = rest ++ .closing :: more ∧
        ∃ value'', Reads third input value'' rest ∧ related value value' value''

namespace Reader

section

variable {α α' β β' : Type} {first : Reader α} {first' first'' : Reader α'}
  {second : α → Reader β} {second' second'' : α' → Reader β'}
  {related : α → α' → α' → Prop} {relatedNext : β → β' → β' → Prop}

@[simp]
theorem agrees_fail_left (fault : RegexFault) (back : Nat) :
    Agrees (fail (α := α) fault back) first' first'' related :=
  fun _ _ _ _ _ _ reads _ => absurd reads not_reads_fail

@[simp]
theorem agrees_failNowhere_left (fault : RegexFault) :
    Agrees (failNowhere (α := α) fault) first' first'' related :=
  fun _ _ _ _ _ _ reads _ => absurd reads not_reads_failNowhere

@[simp]
theorem agrees_fail_right (fault : RegexFault) (back : Nat) :
    Agrees first (fail (α := α') fault back) first'' related :=
  fun _ _ _ _ _ _ _ reads => absurd reads not_reads_fail

@[simp]
theorem agrees_failAt_right (fault : RegexFault) (fromEnd : Nat) :
    Agrees first (failAt (α := α') fault fromEnd) first'' related :=
  fun _ _ _ _ _ _ _ reads => absurd reads not_reads_failAt

theorem agrees_pure {value : α} {value' value'' : α'} (holds : related value value' value'') :
    Agrees (Reader.pure value) (Reader.pure value') (Reader.pure value'') related := by
  intro input given rest more given' rest' reads reads'
  obtain ⟨rfl, rfl⟩ := reads_pure.mp reads
  obtain ⟨rfl, rfl⟩ := reads_pure.mp reads'
  exact ⟨rfl, value'', reads_pure.mpr ⟨rfl, rfl⟩, holds⟩

theorem agrees_return {value : α} {value' value'' : α'} (holds : related value value' value'') :
    Agrees (Pure.pure value : Reader α) (Pure.pure value') (Pure.pure value'') related :=
  agrees_pure holds

theorem Agrees.bind (agrees : Agrees first first' first'' related)
    (agreesNext : ∀ value value' value'', related value value' value'' →
      Agrees (second value) (second' value') (second'' value'') relatedNext) :
    Agrees (first >>= second) (first' >>= second') (first'' >>= second'') relatedNext := by
  intro input value rest more value' rest' reads reads'
  obtain ⟨middle, between, readsFirst, readsSecond⟩ := reads_bind.mp reads
  obtain ⟨middle', between', readsFirst', readsSecond'⟩ := reads_bind.mp reads'
  obtain ⟨rfl, middle'', readsFirst'', holds⟩ := agrees readsFirst readsFirst'
  obtain ⟨left, value'', readsSecond'', holdsNext⟩ :=
    agreesNext middle middle' middle'' holds readsSecond readsSecond'
  exact ⟨left, value'', reads_bind.mpr ⟨_, _, readsFirst'', readsSecond''⟩, holdsNext⟩

/-- Of a reader that asks nothing about the progress the third one is the first one. -/
theorem Carries.bind_agrees {first first' : Reader α} {second' second'' : α → Reader β'}
    (carries : Carries first first')
    (agreesNext : ∀ value, Agrees (second value) (second' value) (second'' value) relatedNext) :
    Agrees (first >>= second) (first' >>= second') (first >>= second'') relatedNext := by
  intro input value rest more value' rest' reads reads'
  obtain ⟨middle, between, readsFirst, readsSecond⟩ := reads_bind.mp reads
  obtain ⟨middle', between', readsFirst', readsSecond'⟩ := reads_bind.mp reads'
  obtain ⟨rfl, rfl⟩ := (carries readsFirst more).unique readsFirst'
  obtain ⟨left, value'', readsSecond'', holds⟩ := agreesNext _ readsSecond readsSecond'
  exact ⟨left, value'', reads_bind.mpr ⟨_, _, readsFirst, readsSecond''⟩, holds⟩

theorem agrees_left_bind {second : Nat → Reader β} {second' second'' : Nat → Reader β'}
    (agreesNext : ∀ size size',
      Agrees (second size) (second' size') (second'' size) relatedNext) :
    Agrees (left >>= second) (left >>= second') (left >>= second'') relatedNext := by
  intro input value rest more value' rest' reads reads'
  obtain ⟨size, _, readsSize, readsSecond⟩ := reads_bind.mp reads
  obtain ⟨size', _, readsSize', readsSecond'⟩ := reads_bind.mp reads'
  obtain ⟨rfl, rfl⟩ := reads_left.mp readsSize
  obtain ⟨rfl, rfl⟩ := reads_left.mp readsSize'
  obtain ⟨left, value'', readsSecond'', holds⟩ := agreesNext _ _ readsSecond readsSecond'
  exact ⟨left, value'', reads_bind.mpr ⟨_, _, readsSize, readsSecond''⟩, holds⟩

theorem agrees_next_bind {second : Option Token → Reader β}
    {second' second'' : Option Token → Reader β'}
    (refused : ∀ input value rest, ¬ Reads (second none) input value rest)
    (agreesNext : ∀ token,
      Agrees (second (some token)) (second' (some token)) (second'' (some token)) relatedNext) :
    Agrees (next >>= second) (next >>= second') (next >>= second'') relatedNext := by
  intro input value rest more value' rest' reads reads'
  obtain ⟨token?, between, readsNext, readsSecond⟩ := reads_bind.mp reads
  obtain ⟨token?', between', readsNext', readsSecond'⟩ := reads_bind.mp reads'
  rcases reads_next_iff.mp readsNext with ⟨_, rfl, _⟩ | ⟨token, rfl, rfl, _⟩
  · exact absurd readsSecond (refused _ _ _)
  · obtain ⟨rfl, rfl⟩ := (reads_next_cons (append_closing_ne_dangling _ more)).unique readsNext'
    obtain ⟨left, value'', readsSecond'', holds⟩ := agreesNext token readsSecond readsSecond'
    exact ⟨left, value'', reads_bind.mpr ⟨_, _, readsNext, readsSecond''⟩, holds⟩

/-- A look at the next token tells whether it is a certain character, unless that is the closing
parenthesis. -/
theorem agrees_peek_bind {char : Char} (other : char ≠ ')') {onThen onElse : Reader β}
    {onThen' onElse' onThen'' onElse'' : Reader β'}
    (agreesThen : Agrees onThen onThen' onThen'' relatedNext)
    (agreesElse : Agrees onElse onElse' onElse'' relatedNext) :
    Agrees (do if (← peek) = some (.plain char) then onThen else onElse)
      (do if (← peek) = some (.plain char) then onThen' else onElse')
      (do if (← peek) = some (.plain char) then onThen'' else onElse'') relatedNext := by
  intro input value rest more value' rest' reads reads'
  obtain ⟨_, _, peeked, readsNext⟩ := reads_bind.mp reads
  obtain ⟨_, _, peeked', readsNext'⟩ := reads_bind.mp reads'
  obtain ⟨rfl, rfl⟩ := reads_peek.mp peeked
  obtain ⟨rfl, rfl⟩ := reads_peek.mp peeked'
  have same : (input ++ .closing :: more).head? = some (.plain char) ↔
      input.head? = some (.plain char) := by
    cases input with
    | nil => simp [other.symm]
    | cons token others => rfl
  simp only [same] at readsNext'
  by_cases isNext : input.head? = some (.plain char)
  · rw [if_pos isNext] at readsNext readsNext'
    obtain ⟨left, value'', readsNext'', holds⟩ := agreesThen readsNext readsNext'
    exact ⟨left, value'', reads_bind.mpr ⟨_, _, peeked, by rwa [if_pos isNext]⟩, holds⟩
  · rw [if_neg isNext] at readsNext readsNext'
    obtain ⟨left, value'', readsNext'', holds⟩ := agreesElse readsNext readsNext'
    exact ⟨left, value'', reads_bind.mpr ⟨_, _, peeked, by rwa [if_neg isNext]⟩, holds⟩

end

end Reader

/-! ### Items -/

variable {outside alone inside detached : Progress} {number : Nat}

theorem Abreast.pushSet (abreast : Abreast outside number alone inside detached)
    (negated : Bool) (items : List ClassItem) :
    Abreast outside number (alone.pushSet negated items) (inside.pushSet negated items)
      (detached.pushSet negated items) := by
  unfold Progress.pushSet
  rw [abreast.flags_eq, abreast.flags]
  exact abreast.push (.other (.oneOf _))

theorem Abreast.pushAnchor (abreast : Abreast outside number alone inside detached)
    (place : Anchor) :
    Abreast outside number (alone.push (.anchor (.anchor place)))
      (inside.push (.anchor (.anchor place))) (detached.push (.anchor (.anchor place))) :=
  abreast.push (.anchor (.anchor place))

theorem Abreast.pushLineAnchor (abreast : Abreast outside number alone inside detached)
    (single multi : Anchor) :
    Abreast outside number (alone.pushLineAnchor single multi)
      (inside.pushLineAnchor single multi) (detached.pushLineAnchor single multi) := by
  unfold Progress.pushLineAnchor
  rw [abreast.flags_eq, abreast.flags]
  exact abreast.pushAnchor _

theorem Abreast.pushReference (abreast : Abreast outside number alone inside detached)
    {mentioned mentioned' : Nat} {byName : Bool}
    (refers : Refers outside.groups.count byName mentioned mentioned') :
    Abreast outside number (alone.pushReference mentioned byName)
      (inside.pushReference mentioned' byName) (detached.pushReference mentioned' byName) := by
  unfold Progress.pushReference
  rw [abreast.flags_eq, abreast.flags]
  exact abreast.push (.other (.reference _ refers))

theorem agrees_checkLookbehind (groups groups' : Groups) (number number' : Nat) :
    Agrees (groups.checkLookbehind number) (groups'.checkLookbehind number')
      (groups'.checkLookbehind number') fun _ _ _ => True := by
  unfold Groups.checkLookbehind
  split
  · split
    · exact agrees_pure trivial
    · split
      · simp
      · split
        · simp
        · exact agrees_pure trivial
  · split
    · simp
    · split
      · simp
      · split
        · exact agrees_pure trivial
        · split
          · simp
          · split
            · simp
            · exact agrees_pure trivial

theorem agrees_pushEscape (abreast : Abreast outside number alone inside detached)
    (escape : Escape) :
    Agrees (alone.pushEscape escape) (inside.pushEscape escape) (detached.pushEscape escape)
      (Abreast outside number) := by
  unfold Progress.pushEscape
  rw [abreast.flags_eq, abreast.flags]
  cases escape with
  | code code => exact agrees_return (abreast.pushSet false _)
  | shorthand kind negated => exact agrees_return (abreast.pushSet false _)
  | textStart => exact agrees_return (abreast.pushAnchor _)
  | textEnd => exact agrees_return (abreast.pushAnchor _)
  | wordEdge => exact agrees_return (abreast.pushAnchor _)
  | notWordEdge => exact agrees_return (abreast.pushAnchor _)
  | reference mentioned =>
      simp only [abreast.count_eq, abreast.isClosed_eq, abreast.checkLookbehind_eq]
      split
      · simp
      · split
        · simp
        · split
          · simp
          · split
            · simp
            · exact (agrees_checkLookbehind _ _ _ _).bind fun _ _ _ _ =>
                agrees_return (abreast.pushReference nofun)

theorem agrees_readClass (abreast : Abreast outside number alone inside detached)
    (start start' : Nat) :
    Agrees (readClass alone start) (readClass inside start') (readClass detached start)
      (Abreast outside number) := by
  unfold readClass
  rw [abreast.flags_eq, abreast.flags]
  refine (carries_accept (by decide)).bind_agrees fun negated => ?_
  refine Carries.bind_agrees (carries_unbounded fun _ _ le =>
    carries_classMembers _ start start' le []) fun items => ?_
  exact agrees_return (abreast.pushSet negated items)

theorem carries_readGreed : Carries readGreed readGreed := by
  refine (carries_accept (by decide)).bind fun isLazy => ?_
  cases isLazy with
  | true => simp
  | false =>
      refine (carries_accept (by decide)).bind fun isPossessive => ?_
      cases isPossessive <;> simp

theorem agrees_repeatLast (abreast : Abreast outside number alone inside detached) (least : Nat)
    (most : Option Nat) (start start' : Nat) :
    Agrees (repeatLast alone least most start) (repeatLast inside least most start')
      (repeatLast detached least most start) (Abreast outside number) := by
  unfold repeatLast
  rw [abreast.items_eq]
  have mirrors := abreast.frame.items
  generalize items_eq : alone.frame.items = items at mirrors
  generalize inside.frame.items = items' at mirrors
  cases mirrors with
  | nil => simp
  | cons last others =>
      cases last with
      | anchor => simp
      | repetition => simp
      | other tree =>
          refine carries_readGreed.bind_agrees fun greed => agrees_return ?_
          refine abreast.items (.cons (.repetition (.repeated least most greed tree)) others) ?_
          intro areNamed
          rw [items_eq]
          exact List.forall_mem_cons.mpr (List.forall_mem_cons.mp areNamed)

theorem agrees_readBrace (abreast : Abreast outside number alone inside detached)
    (start start' : Nat) :
    Agrees (readBrace alone start) (readBrace inside start') (readBrace detached start)
      (Abreast outside number) := by
  unfold readBrace
  apply agrees_peek_bind (by decide) (agrees_return (abreast.pushSet _ _))
  refine (carries_attempt carries_readBounds).bind_agrees fun bounds? => ?_
  cases bounds? with
  | none => exact agrees_return (abreast.pushSet _ _)
  | some bounds =>
      dsimp only
      generalize (if bounds.2.isEmpty then none else some (Text.numberOf 10 bounds.2)) = most
      split
      · simp
      · split
        · simp
        · exact agrees_repeatLast abreast _ _ start start'

/-! ### Groups -/

theorem Abreast.enterPlain (abreast : Abreast outside number alone inside detached)
    {bracket bracket' : Opening}
    (mirrors : bracket.Mirrors outside.groups.count inside.groups.count alone.IsByName bracket')
    (start start' start'' : Nat) {flags flags' : Flags} (flags_eq : flags' = flags) :
    Abreast outside number (alone.enter bracket start flags)
      (inside.enter bracket' start' flags') (detached.enter bracket' start'' flags') :=
  abreast.enter abreast.groups le_rfl mirrors flags_eq rfl rfl abreast.groups_bare

theorem agrees_enterCapture (abreast : Abreast outside number alone inside detached)
    (name : Option String) (start start' : Nat) :
    Agrees (enterCapture alone name start) (enterCapture inside name start')
      (enterCapture detached name start) (Abreast outside number) := by
  have count : inside.groups.count + 1 = alone.groups.count + 1 + outside.groups.count := by
    rw [abreast.groups.count]
    omega
  have mirrors : (Opening.capture (alone.groups.count + 1)).Mirrors outside.groups.count
      (inside.groups.count + 1) alone.IsByName (.capture (inside.groups.count + 1)) := by
    rw [count]
    exact .capture (Nat.succ_pos _) le_rfl
  obtain ⟨-, names_eq, widths_eq, before_eq⟩ := Groups.bare_eq_iff.mp abreast.groups_bare
  unfold enterCapture
  simp only [abreast.count_eq, names_eq, abreast.flags_eq]
  cases name with
  | none =>
      exact agrees_pure
        (abreast.enter abreast.groups.unnamed (Nat.le_succ _) mirrors abreast.flags rfl rfl
          (Groups.bare_eq_iff.mpr ⟨rfl, rfl, widths_eq, before_eq⟩))
  | some name =>
      dsimp only
      split
      · simp
      · split
        · simp
        · next fresh =>
            exact agrees_pure
              (abreast.enter (abreast.groups.named fresh) (Nat.le_succ _) mirrors abreast.flags
                rfl rfl (Groups.bare_eq_iff.mpr ⟨rfl, rfl, widths_eq, before_eq⟩))

theorem agrees_readNamedReference (abreast : Abreast outside number alone inside detached) :
    Agrees (readNamedReference alone) (readNamedReference inside) (readNamedReference detached)
      (Abreast outside number) := by
  unfold readNamedReference
  simp only [abreast.names_eq, abreast.isClosed_eq, abreast.checkLookbehind_eq]
  refine (carries_readGroupName _).bind_agrees fun name => ?_
  split
  · simp
  · next known =>
      split
      · simp
      · split
        · simp
        · next known' =>
            split
            · simp
            · exact (agrees_checkLookbehind _ _ _ _).bind fun _ _ _ _ =>
                agrees_return (abreast.pushReference fun _ => abreast.groups.refers known known')

/-- What a condition mentions leaves the numbers and names of the groups as they are. -/
theorem agrees_readCondition (abreast : Abreast outside number alone inside detached) :
    Agrees (readCondition alone) (readCondition inside) (readCondition detached)
      fun (mentioned, byName, groups) (mentioned', byName', groups')
          (mentioned'', byName'', groups'') =>
        byName' = byName ∧ byName'' = byName ∧ mentioned'' = mentioned' ∧
          Refers outside.groups.count byName mentioned mentioned' ∧
          groups.count = alone.groups.count ∧ groups.widths = alone.groups.widths ∧
          groups'.widths = inside.groups.widths ∧
          Groups.Continues outside.groups groups groups' ∧ groups''.bare = groups'.bare := by
  unfold readCondition
  rw [abreast.names_eq]
  refine (carries_name _ _).bind_agrees fun name => ?_
  dsimp only
  split
  · split
    · simp
    · next known =>
        split
        · simp
        · next known' =>
            exact agrees_return
              ⟨rfl, rfl, rfl, fun _ => abreast.groups.refers known known', rfl, rfl, rfl,
                abreast.groups, abreast.groups_bare⟩
  · split
    · simp
    · split
      · simp
      · split
        · simp
        · exact agrees_left_bind fun _ _ => agrees_return
            ⟨rfl, rfl, rfl, nofun, rfl, rfl, rfl, abreast.groups.congr rfl rfl rfl rfl,
              Groups.bare_eq_iff.mpr (Groups.bare_eq_iff.mp abreast.groups_bare)⟩

theorem agrees_enterConditional (abreast : Abreast outside number alone inside detached)
    (start start' : Nat) :
    Agrees (enterConditional alone start) (enterConditional inside start')
      (enterConditional detached start) (Abreast outside number) := by
  apply (agrees_readCondition abreast).bind
  rintro ⟨mentioned, byName, groups⟩ ⟨mentioned', _, groups'⟩ ⟨_, _, groups''⟩
    ⟨rfl, rfl, rfl, refers, count, widths_eq, widths_eq', continues, same⟩
  simp only [Groups.checkLookbehind_of_bare same, abreast.flags_eq]
  refine (agrees_checkLookbehind _ _ _ _).bind fun _ _ _ _ => agrees_return ?_
  exact abreast.enter continues count.ge (.condition refers) abreast.flags widths_eq widths_eq' same

theorem agrees_readNamed (abreast : Abreast outside number alone inside detached)
    (start start' : Nat) :
    Agrees (readNamed alone start) (readNamed inside start') (readNamed detached start)
      (Abreast outside number) := by
  refine (carries_accept (by decide)).bind_agrees fun isName => ?_
  cases isName with
  | true =>
      exact (carries_readGroupName _).bind_agrees fun name =>
        agrees_enterCapture abreast (some name) start start'
  | false =>
      refine (carries_accept (by decide)).bind_agrees fun isReference => ?_
      cases isReference with
      | true => exact agrees_readNamedReference abreast
      | false => exact agrees_next_bind (fun _ _ _ => not_reads_fail) fun token => by simp

theorem agrees_enterLookbehind (abreast : Abreast outside number alone inside detached)
    (start start' : Nat) :
    Agrees (enterLookbehind alone start) (enterLookbehind inside start')
      (enterLookbehind detached start) (Abreast outside number) := by
  obtain ⟨count_eq, names_eq, widths_eq, before_eq⟩ := Groups.bare_eq_iff.mp abreast.groups_bare
  unfold enterLookbehind
  simp only [before_eq, abreast.flags_eq]
  refine agrees_next_bind (fun _ _ _ => not_reads_fail) fun token => ?_
  dsimp only
  split
  · apply agrees_return
    refine abreast.enter ?_ ?_ (.lookbehind _ _ _) abreast.flags ?_ ?_ ?_
    · split <;> split <;> exact abreast.groups.congr rfl rfl rfl rfl
    · split <;> exact le_rfl
    · split <;> rfl
    · split <;> rfl
    · split
      · exact Groups.bare_eq_iff.mpr ⟨count_eq, names_eq, widths_eq, congrArg some count_eq⟩
      · exact abreast.groups_bare
  · simp

/-- Inside of a bracket there are no flags for the whole expression. -/
theorem Within.opening_ne_whole (within : Within outside number alone inside) :
    inside.frame.opening ≠ .whole := by
  rcases within.frames.head with ⟨-, ⟨-, isCapture, -⟩ | ⟨same, -⟩⟩
  · simp [isCapture]
  · intro whole
    rw [whole] at same
    generalize alone.frame.opening = opening at same
    cases same

theorem agrees_readFlagGroup (abreast : Abreast outside number alone inside detached)
    (start start' : Nat) (first : Char) :
    Agrees (readFlagGroup alone start first) (readFlagGroup inside start' first)
      (readFlagGroup detached start first) (Abreast outside number) := by
  refine (carries_readFlags first).bind_agrees fun group => ?_
  cases group with
  | whole on => simp [abreast.opening_ne_whole]
  | «scoped» on off =>
      dsimp only
      rw [abreast.flags_eq]
      exact agrees_return (abreast.enterPlain .plain start start' start (by rw [abreast.flags]))

theorem agrees_readGroup (abreast : Abreast outside number alone inside detached)
    (start start' : Nat) :
    Agrees (readGroup alone start) (readGroup inside start') (readGroup detached start)
      (Abreast outside number) := by
  have enters {bracket bracket' : Opening}
      (mirrors : bracket.Mirrors outside.groups.count inside.groups.count alone.IsByName
        bracket') :=
    abreast.enterPlain mirrors start start' start abreast.flags
  unfold readGroup
  simp only [abreast.flags_eq]
  refine (carries_accept (by decide)).bind_agrees fun isExtension => ?_
  cases isExtension with
  | false => exact agrees_enterCapture abreast none start start'
  | true =>
      refine agrees_next_bind (fun _ _ _ => not_reads_fail) fun token => ?_
      dsimp only
      split
      · exact agrees_readNamed abreast start start'
      · exact agrees_return (enters .plain)
      · exact agrees_return (enters .atomic)
      · exact agrees_return (enters (.lookahead _))
      · exact agrees_return (enters (.lookahead _))
      · exact agrees_enterLookbehind abreast start start'
      · exact agrees_enterConditional abreast start start'
      · exact Carries.bind_agrees (carries_unbounded fun _ _ le =>
          carries_skipComment start start' le) fun _ => agrees_return abreast
      · split
        · exact agrees_readFlagGroup abreast start start' _
        · simp
      · simp

/-! ### The whole text -/

theorem agrees_readItem (abreast : Abreast outside number alone inside detached) (token : Token)
    (quiet : ¬ (alone.frame.flags.verbose = true ∧ token = .plain '#')) (start start' : Nat) :
    Agrees (readItem alone token start) (readItem inside token start')
      (readItem detached token start) (Abreast outside number) := by
  unfold readItem
  rw [abreast.flags_eq, abreast.flags]
  cases token with
  | dangling => simp
  | escaped char =>
      exact (Escape.carries_inExpression char).bind_agrees fun escape =>
        agrees_pushEscape abreast escape
  | plain char =>
      dsimp only
      split
      · exact agrees_return abreast
      · split
        · simp_all
        · split
          · exact agrees_readClass abreast start start'
          · exact agrees_repeatLast abreast _ _ start start'
          · exact agrees_repeatLast abreast _ _ start start'
          · exact agrees_repeatLast abreast _ _ start start'
          · exact agrees_readBrace abreast start start'
          · exact agrees_return (abreast.pushSet _ _)
          · exact agrees_readGroup abreast start start'
          · exact agrees_return (abreast.pushLineAnchor _ _)
          · exact agrees_return (abreast.pushLineAnchor _ _)
          · exact agrees_return (abreast.pushSet _ _)

theorem readItem_comment {progress : Progress} (isVerbose : progress.frame.flags.verbose = true)
    (start : Nat) :
    readItem progress (.plain '#') start = (do
      Reader.unbounded skipLine
      return progress) := by
  simp [readItem, isVerbose]

/-- A comment up to the end of its line, which may be that of the text. -/
theorem comment_abreast (abreast : Abreast outside number alone inside detached)
    (isVerbose : alone.frame.flags.verbose = true) {start start' : Nat}
    {rest left more left' : List Token} {next next' : Progress}
    (reads : Reads (readItem alone (.plain '#') start) rest next left)
    (reads' : Reads (readItem inside (.plain '#') start') (rest ++ .closing :: more) next' left') :
    (left' = left ++ .closing :: more ∧ ∃ next'',
        Reads (readItem detached (.plain '#') start) rest next'' left ∧
        Abreast outside number next next' next'') ∨
      (left = [] ∧ next = alone ∧ alone.frame.flags.verbose = true) := by
  rw [readItem_comment isVerbose] at reads
  rw [readItem_comment (by rw [abreast.flags]; exact isVerbose)] at reads'
  obtain ⟨_, _, skips, returns⟩ := reads_bind.mp reads
  obtain ⟨_, _, skips', returns'⟩ := reads_bind.mp reads'
  obtain ⟨rfl, rfl⟩ := reads_return.mp returns
  obtain ⟨rfl, rfl⟩ := reads_return.mp returns'
  have bounds : rest.length < rest.length + 1 ∧
      rest.length + 1 ≤ (rest ++ .closing :: more).length + 1 := by simp
  rcases reads_skipLine_append skips bounds more with atEnd | carried
  · exact .inr ⟨atEnd, rfl, isVerbose⟩
  · refine .inl ⟨(Reads.unique carried skips').2, detached, ?_, abreast⟩
    rw [readItem_comment (by rw [abreast.flags_eq, abreast.flags]; exact isVerbose)]
    exact reads_bind.mpr ⟨_, _, skips, reads_return.mpr ⟨rfl, rfl⟩⟩

/-- What a step does, and what it asks for. -/
inductive Steps (progress : Progress) : Token → List Token → Progress → List Token → Prop where
  | close {rest : List Token} {frame : Frame} {outer : List Frame} :
      progress.outer = frame :: outer →
      Steps progress .closing rest (progress.close frame outer) rest
  | split {rest : List Token} :
      (∀ number byName present,
        progress.frame.opening ≠ .conditional number byName (some present)) →
      Steps progress (.plain '|') rest progress.split rest
  | item {token : Token} {rest left : List Token} {next : Progress} :
      token ≠ .closing → token ≠ .plain '|' →
      Reads (readItem progress token (Token.width (token :: rest))) rest next left →
      Steps progress token rest next left

theorem steps_of_reads_step {progress next : Progress} {token : Token} {rest left : List Token}
    (reads : Reads (step progress token) rest next left) :
    rest ≠ [.dangling] ∧ Steps progress token rest next left := by
  obtain ⟨taken, equation, rfl, rfl⟩ := reads
  simp only [step] at equation
  split at equation
  · next isClosing =>
      subst isClosing
      split at equation
      · split at equation <;> simp at equation
      · next frame outer stack =>
          obtain ⟨guard, reads⟩ := reads_guarded.mp ⟨taken, equation, rfl, rfl⟩
          obtain ⟨same, left⟩ := reads_pure.mp reads
          rw [← same, ← left]
          exact ⟨guard, .close stack⟩
  · next notClosing =>
      split at equation
      · next isBar =>
          subst isBar
          split at equation
          · simp at equation
          · next possible =>
              obtain ⟨guard, reads⟩ := reads_guarded.mp ⟨taken, equation, rfl, rfl⟩
              obtain ⟨same, left⟩ := reads_pure.mp reads
              rw [← same, ← left]
              exact ⟨guard, .split possible⟩
      · next notBar =>
          obtain ⟨guard, reads⟩ := reads_guarded.mp ⟨taken, equation, rfl, rfl⟩
          exact ⟨guard, .item notClosing notBar reads⟩

theorem Steps.reads {progress next : Progress} {token : Token} {rest left : List Token}
    (steps : Steps progress token rest next left) (guard : rest ≠ [.dangling]) :
    Reads (step progress token) rest next left := by
  cases steps with
  | @close _ frame outer stack =>
      have isClose : step progress .closing rest =
          Reader.guarded (Reader.pure (progress.close frame outer)) rest := by simp [step, stack]
      rw [Reads, isClose]
      exact reads_guarded.mpr ⟨guard, reads_pure.mpr ⟨rfl, rfl⟩⟩
  | split possible =>
      have isSplit : step progress (.plain '|') rest =
          Reader.guarded (Reader.pure progress.split) rest := by
        have notClosing : Token.plain '|' ≠ .closing := by decide
        rw [step, if_neg notClosing, if_pos rfl]
        split
        · next isConditional => exact absurd isConditional (possible _ _ _)
        · rfl
      rw [Reads, isSplit]
      exact reads_guarded.mpr ⟨guard, reads_pure.mpr ⟨rfl, rfl⟩⟩
  | item notClosing notBar reads =>
      have isItem : step progress token rest =
          Reader.guarded (readItem progress token (Token.width (token :: rest))) rest := by
        rw [step, if_neg notClosing, if_neg notBar]
      rw [Reads, isItem]
      exact reads_guarded.mpr ⟨guard, reads⟩

/-- One step side by side.  A comment that ends with the text ends in a bracket that allows for
comments. -/
theorem step_abreast (abreast : Abreast outside number alone inside detached) {token : Token}
    {rest left more left' : List Token} {next next' : Progress}
    (reads : Reads (step alone token) rest next left)
    (reads' : Reads (step inside token) (rest ++ .closing :: more) next' left') :
    (left' = left ++ .closing :: more ∧ ∃ next'',
        Reads (step detached token) rest next'' left ∧
        Abreast outside number next next' next'') ∨
      (left = [] ∧ next = alone ∧ alone.frame.flags.verbose = true) := by
  obtain ⟨guard, steps⟩ := steps_of_reads_step reads
  obtain ⟨-, steps'⟩ := steps_of_reads_step reads'
  cases steps with
  | close stack =>
      obtain ⟨frame', outer', frame'', outer'', stack', stack'', closed⟩ := abreast.close stack
      cases steps' with
      | close same =>
          rw [stack'] at same
          obtain ⟨rfl, rfl⟩ := List.cons.inj same
          exact .inl ⟨rfl, _, (Steps.close stack'').reads guard, closed⟩
      | item notClosing => exact absurd rfl notClosing
  | split possible =>
      cases steps' with
      | split possible' =>
          have opening_eq := (Frame.bare_eq_iff.mp abreast.frame_bare).1
          rw [← opening_eq] at possible'
          exact .inl ⟨rfl, _, (Steps.split possible').reads guard, abreast.split possible⟩
      | item _ notBar => exact absurd rfl notBar
  | item notClosing notBar readsItem =>
      cases steps' with
      | close => exact absurd rfl notClosing
      | split => exact absurd rfl notBar
      | item _ _ readsItem' =>
          have toStep {next'' : Progress} (reads'' : Reads (readItem detached token _) rest next''
              left) : Reads (step detached token) rest next'' left :=
            (Steps.item notClosing notBar reads'').reads guard
          by_cases comment : alone.frame.flags.verbose = true ∧ token = .plain '#'
          · obtain ⟨isVerbose, rfl⟩ := comment
            rcases comment_abreast abreast isVerbose readsItem readsItem' with
              ⟨left_eq, next'', reads'', stays⟩ | atEnd
            · exact .inl ⟨left_eq, next'', toStep reads'', stays⟩
            · exact .inr atEnd
          · obtain ⟨left_eq, next'', reads'', stays⟩ :=
              agrees_readItem abreast token comment _ _ readsItem readsItem'
            exact .inl ⟨left_eq, next'', toStep reads'', stays⟩

end UrlRouting.Regex
