import UrlRouting.Proofs.Regex.Ways
import UrlRouting.Regex.Expression

/-!
# Languages of regular expressions

Expressions that are regular in the strict sense describe languages.  Running one of them passes
exactly the texts of its language, whatever has been captured before (`leads_of_mem_ways`,
`ways_cover_language`), so it takes a whole text if and only if the language holds the text
(`Expression.accepts_iff`).
-/

namespace UrlRouting

namespace Regex

/-- Whether an expression is built from characters, choices, sequences, capturing groups and
repetitions that can give back what they took. -/
def IsRegular : Regex → Prop
  | empty | oneOf _ => True
  | seq first second | alt first second => first.IsRegular ∧ second.IsRegular
  | repeated _ _ greed body => greed ≠ .possessive ∧ body.IsRegular
  | group _ body => body.IsRegular
  | anchor _ | reference .. | atomic _ | lookahead .. | lookbehind .. | conditional .. => False

instance decidableIsRegular : DecidablePred IsRegular
  | empty | oneOf _ => .isTrue trivial
  | seq first second | alt first second =>
      have := decidableIsRegular first
      have := decidableIsRegular second
      inferInstanceAs (Decidable (first.IsRegular ∧ second.IsRegular))
  | repeated _ _ greed body =>
      have := decidableIsRegular body
      inferInstanceAs (Decidable (greed ≠ .possessive ∧ body.IsRegular))
  | group _ body => decidableIsRegular body
  | anchor _ | reference .. | atomic _ | lookahead .. | lookbehind .. | conditional .. =>
      .isFalse id

/-- The texts made of any number of texts of a language, but no more than `most`. -/
def rounds (language : Language Char) (most : Option Nat) : Language Char :=
  {text | ∃ count, (∀ bound ∈ most, count ≤ bound) ∧ text ∈ language ^ count}

/-- The texts that a regular expression describes. -/
def language : Regex → Language Char
  | empty => 1
  | oneOf set => {text | ∃ char, text = [char] ∧ set.contains char}
  | seq first second => first.language * second.language
  | alt first second => first.language + second.language
  | repeated least most _ body =>
      body.language ^ least * rounds body.language (most.map (· - least))
  | group _ body => body.language
  | anchor _ | reference .. | atomic _ | lookahead .. | lookbehind .. | conditional .. => 0

def numbers : Regex → List Nat
  | empty | oneOf _ | anchor _ | reference .. => []
  | seq first second | alt first second => first.numbers ++ second.numbers
  | group number body => number :: body.numbers
  | repeated _ _ _ body | atomic body | lookahead _ body | lookbehind _ _ body => body.numbers
  | conditional _ _ present absent => present.numbers ++ absent.numbers

/-! ### Passing a text -/

/-- One place is reached from another by passing a text. -/
def Cursor.Passes (first : Cursor) (text : List Char) (last : Cursor) : Prop :=
  first.after = text ++ last.after ∧ last.before = text.reverse ++ first.before

theorem Cursor.Passes.refl (cursor : Cursor) : cursor.Passes [] cursor := ⟨rfl, rfl⟩

theorem Cursor.Passes.trans {first middle last : Cursor} {text more : List Char}
    (passes : first.Passes text middle) (passesMore : middle.Passes more last) :
    first.Passes (text ++ more) last := by
  constructor
  · rw [passes.1, passesMore.1, List.append_assoc]
  · rw [passesMore.2, passes.2, List.reverse_append, List.append_assoc]

theorem Cursor.Passes.split {first last : Cursor} {text more : List Char}
    (passes : first.Passes (text ++ more) last) :
    ∃ middle, first.Passes text middle ∧ middle.Passes more last :=
  ⟨⟨text.reverse ++ first.before, more ++ last.after⟩,
    ⟨by rw [passes.1, List.append_assoc], rfl⟩,
    ⟨rfl, by rw [passes.2, List.reverse_append, List.append_assoc]⟩⟩

theorem Cursor.Passes.eq_of_nil {first last : Cursor} (passes : first.Passes [] last) :
    last = first := by
  rcases first with ⟨before, after⟩
  rcases last with ⟨before', after'⟩
  rcases passes with ⟨equalAfter, equalBefore⟩
  simp_all

theorem Cursor.Passes.length_le {first last : Cursor} {text : List Char}
    (passes : first.Passes text last) : last.after.length ≤ first.after.length := by
  rw [passes.1, List.length_append]
  exact Nat.le_add_left ..

theorem Cursor.Passes.textTo {first last : Cursor} {text : List Char}
    (passes : first.Passes text last) : first.textTo last = text := by
  simp [Cursor.textTo, passes.1]

theorem Cursor.passes_singleton_iff {first last : Cursor} {char : Char} :
    first.Passes [char] last ↔ first.advance? = some (char, last) := by
  rcases first with ⟨before, after⟩
  rcases last with ⟨before', after'⟩
  cases after with
  | nil => simp [Cursor.Passes, Cursor.advance?]
  | cons head rest =>
      simp only [Cursor.Passes, Cursor.advance?, List.cons_append, List.nil_append,
        List.reverse_singleton, Option.some.injEq, Prod.mk.injEq, Cursor.mk.injEq, List.cons.injEq]
      constructor
      · rintro ⟨⟨rfl, rfl⟩, rfl⟩
        exact ⟨rfl, rfl, rfl⟩
      · rintro ⟨rfl, rfl, rfl⟩
        exact ⟨⟨rfl, rfl⟩, rfl⟩

/-! ### What ways do -/

/-- One state leads to another by a text of a language, and only groups of the given numbers
capture something on the way. -/
structure Leads (numbers : List Nat) (language : Language Char) (first last : State) : Prop where
  passes : ∃ text ∈ language, first.cursor.Passes text last.cursor
  captures : ∀ number ∉ numbers, last.captures.lookup number = first.captures.lookup number

/-- Some ways reach all places that lie behind a text of a language. -/
def Covers (ways : State → List State) (language : Language Char) : Prop :=
  ∀ ⦃state : State⦄ ⦃text : List Char⦄ ⦃place : Cursor⦄, text ∈ language →
    state.cursor.Passes text place → ∃ next ∈ ways state, next.cursor = place

variable {numbers : List Nat} {languageOfBody moreLanguage : Language Char}
  {first middle last state : State} {body : State → List State}

theorem Leads.refl (state : State) : Leads numbers 1 state state :=
  ⟨⟨[], rfl, .refl _⟩, fun _ _ => rfl⟩

theorem Leads.trans (leads : Leads numbers languageOfBody first middle)
    (leadsOn : Leads numbers moreLanguage middle last) :
    Leads numbers (languageOfBody * moreLanguage) first last := by
  obtain ⟨text, inside, passes⟩ := leads.passes
  obtain ⟨more, insideMore, passesMore⟩ := leadsOn.passes
  refine ⟨⟨text ++ more, Language.mem_mul.mpr ⟨text, inside, more, insideMore, rfl⟩,
    passes.trans passesMore⟩, ?_⟩
  intro number fresh
  rw [leadsOn.captures number fresh, leads.captures number fresh]

theorem Leads.mono {moreNumbers : List Nat} (leads : Leads numbers languageOfBody first last)
    (subset : numbers ⊆ moreNumbers) (le : languageOfBody ≤ moreLanguage) :
    Leads moreNumbers moreLanguage first last := by
  obtain ⟨text, inside, passes⟩ := leads.passes
  exact ⟨⟨text, le inside, passes⟩,
    fun number fresh => leads.captures number fun known => fresh (subset known)⟩

/-! ### Repetitions -/

theorem nil_mem_rounds (language : Language Char) (most : Option Nat) :
    [] ∈ rounds language most :=
  ⟨0, fun _ _ => Nat.zero_le _, by rw [pow_zero]; exact Language.nil_mem_one⟩

/-- One round and then up to `most - 1` rounds are up to `most` rounds. -/
theorem mul_rounds_le {most : Option Nat} (positive : most ≠ some 0) :
    languageOfBody * rounds languageOfBody (lessOne most) ≤ rounds languageOfBody most := by
  intro text membership
  obtain ⟨text, inside, more, ⟨count, bounded, insideMore⟩, rfl⟩ := Language.mem_mul.mp membership
  refine ⟨count + 1, ?_, ?_⟩
  · rintro bound rfl
    have := bounded (bound - 1) rfl
    have : bound ≠ 0 := fun equality => positive (by rw [equality])
    omega
  · rw [pow_succ']
    exact Language.mem_mul.mpr ⟨text, inside, more, insideMore, rfl⟩

/-- A single round is allowed unless none is. -/
theorem le_rounds {most : Option Nat} (positive : most ≠ some 0) :
    languageOfBody ≤ rounds languageOfBody most := by
  intro text inside
  refine mul_rounds_le positive (Language.mem_mul.mpr ⟨text, inside, [], ?_, List.append_nil _⟩)
  exact nil_mem_rounds _ _

section

variable (leadsBody : ∀ ⦃state next⦄, next ∈ body state → Leads numbers languageOfBody state next)

include leadsBody

theorem leads_of_mem_exactWays (count : Nat) (membership : last ∈ exactWays body count first) :
    Leads numbers (languageOfBody ^ count) first last := by
  induction count generalizing first with
  | zero =>
      rw [exactWays, List.mem_singleton] at membership
      subst membership
      rw [pow_zero]
      exact .refl _
  | succ count inductionHypothesis =>
      rw [exactWays, List.mem_flatMap] at membership
      obtain ⟨middle, inBody, inRest⟩ := membership
      rw [pow_succ']
      exact (leadsBody inBody).trans (inductionHypothesis inRest)

/-- Both orders of trying go from a round on only if the round took something, which makes no
difference to where they lead. -/
theorem leads_of_mem_rounds {most : Option Nat} {further : State → List State}
    (leadsFurther : ∀ next ∈ body first,
      next.cursor.after.length < first.cursor.after.length → last ∈ further next →
        Leads numbers (rounds languageOfBody (lessOne most)) next last)
    (positive : most ≠ some 0)
    (membership : last ∈ (body first).flatMap fun next =>
      if next.cursor.after.length < first.cursor.after.length then further next else [next]) :
    Leads numbers (rounds languageOfBody most) first last := by
  obtain ⟨next, inBody, inRest⟩ := List.mem_flatMap.mp membership
  by_cases shorter : next.cursor.after.length < first.cursor.after.length
  · rw [if_pos shorter] at inRest
    exact ((leadsBody inBody).trans (leadsFurther next inBody shorter inRest)).mono
      (List.Subset.refl _) (mul_rounds_le positive)
  · rw [if_neg shorter, List.mem_singleton] at inRest
    subst inRest
    exact (leadsBody inBody).mono (List.Subset.refl _) (le_rounds positive)

omit leadsBody in
theorem leads_rounds_refl (most : Option Nat) (state : State) :
    Leads numbers (rounds languageOfBody most) state state :=
  ⟨⟨[], nil_mem_rounds _ _, .refl _⟩, fun _ _ => rfl⟩

theorem leads_of_mem_greedyWays (most : Option Nat)
    (membership : last ∈ greedyWays body most first) :
    Leads numbers (rounds languageOfBody most) first last := by
  induction length : first.cursor.after.length using Nat.strongRecOn generalizing first most with
  | _ length inductionHypothesis =>
      subst length
      rw [greedyWays] at membership
      by_cases positive : most = some 0
      · rw [if_pos positive, List.mem_singleton] at membership
        subst membership
        exact leads_rounds_refl _ _
      · rw [if_neg positive, List.mem_append, List.mem_singleton] at membership
        rcases membership with further | stays
        · exact leads_of_mem_rounds leadsBody (fun next _ shorter inRest =>
            inductionHypothesis _ shorter _ inRest rfl) positive further
        · subst stays
          exact leads_rounds_refl _ _

theorem leads_of_mem_lazyWays (most : Option Nat)
    (membership : last ∈ lazyWays body most first) :
    Leads numbers (rounds languageOfBody most) first last := by
  induction length : first.cursor.after.length using Nat.strongRecOn generalizing first most with
  | _ length inductionHypothesis =>
      subst length
      rw [lazyWays] at membership
      by_cases positive : most = some 0
      · rw [if_pos positive, List.mem_singleton] at membership
        subst membership
        exact leads_rounds_refl _ _
      · rw [if_neg positive, List.mem_cons] at membership
        rcases membership with stays | further
        · subst stays
          exact leads_rounds_refl _ _
        · exact leads_of_mem_rounds leadsBody (fun next _ shorter inRest =>
            inductionHypothesis _ shorter _ inRest rfl) positive further

end

section

variable (covers : Covers body languageOfBody)

include covers

theorem exactWays_cover (count : Nat) : Covers (exactWays body count) (languageOfBody ^ count) := by
  induction count with
  | zero =>
      intro state text place inside passes
      rw [pow_zero, Language.mem_one] at inside
      subst inside
      exact ⟨state, by simp [exactWays], passes.eq_of_nil.symm⟩
  | succ count inductionHypothesis =>
      intro state text place inside passes
      rw [pow_succ'] at inside
      obtain ⟨text, inBody, more, inRest, rfl⟩ := Language.mem_mul.mp inside
      obtain ⟨middle, passesText, passesMore⟩ := passes.split
      obtain ⟨next, membership, rfl⟩ := covers inBody passesText
      obtain ⟨last, membershipRest, rfl⟩ := inductionHypothesis inRest passesMore
      exact ⟨last, List.mem_flatMap.mpr ⟨next, membership, membershipRest⟩, rfl⟩

/-- Rounds that take nothing can be left out; after every other round less of the text is left, so
both orders of trying go on after it. -/
theorem rounds_cover {ways : Option Nat → State → List State}
    (stays : ∀ most state, state ∈ ways most state)
    (goesOn : ∀ most state next last, most ≠ some 0 → next ∈ body state →
      next.cursor.after.length < state.cursor.after.length → last ∈ ways (lessOne most) next →
        last ∈ ways most state) (most : Option Nat) :
    Covers (ways most) (rounds languageOfBody most) := by
  rintro state text place ⟨count, bounded, inside⟩ passes
  -- The induction is on the rounds that the text is made of, not on those that are tried.
  induction count generalizing state text most with
  | zero =>
      rw [pow_zero, Language.mem_one] at inside
      subst inside
      exact ⟨state, stays most state, passes.eq_of_nil.symm⟩
  | succ count inductionHypothesis =>
      rw [pow_succ'] at inside
      obtain ⟨text, inBody, more, inRest, rfl⟩ := Language.mem_mul.mp inside
      by_cases nothing : text = []
      · subst nothing
        exact inductionHypothesis most
          (fun bound known => (Nat.le_succ count).trans (bounded bound known)) inRest passes
      · obtain ⟨middle, passesText, passesMore⟩ := passes.split
        obtain ⟨next, membership, rfl⟩ := covers inBody passesText
        have fewer : ∀ bound ∈ lessOne most, count ≤ bound := by
          intro bound known
          obtain ⟨larger, isMost, rfl⟩ := Option.map_eq_some_iff.mp known
          exact Nat.le_sub_one_of_lt (bounded larger isMost)
        obtain ⟨last, membershipRest, rfl⟩ :=
          inductionHypothesis (lessOne most) fewer inRest passesMore
        have shorter : next.cursor.after.length < state.cursor.after.length := by
          rw [passesText.1, List.length_append]
          have := List.length_pos_iff.mpr nothing
          omega
        have positive : most ≠ some 0 := fun none =>
          Nat.not_succ_le_zero count (bounded 0 none)
        exact ⟨last, goesOn most state next last positive membership shorter membershipRest, rfl⟩

theorem greedyWays_cover (most : Option Nat) :
    Covers (greedyWays body most) (rounds languageOfBody most) := by
  refine rounds_cover covers ?_ ?_ most
  · intro most state
    rw [greedyWays]
    split <;> simp
  · intro most state next last positive membership shorter further
    rw [greedyWays, if_neg positive, List.mem_append, List.mem_flatMap]
    exact .inl ⟨next, membership, by rw [if_pos shorter]; exact further⟩

theorem lazyWays_cover (most : Option Nat) :
    Covers (lazyWays body most) (rounds languageOfBody most) := by
  refine rounds_cover covers ?_ ?_ most
  · intro most state
    rw [lazyWays]
    split <;> simp
  · intro most state next last positive membership shorter further
    rw [lazyWays, if_neg positive, List.mem_cons, List.mem_flatMap]
    exact .inr ⟨next, membership, by rw [if_pos shorter]; exact further⟩

end

/-! ### Regular expressions -/

theorem leads_of_mem_repeated {regex : Regex} (least : Nat) (most : Option Nat) {greed : Greed}
    (gives : greed ≠ .possessive)
    (leadsBody : ∀ ⦃state next⦄, next ∈ regex.ways state →
      Leads numbers languageOfBody state next)
    (membership : last ∈ (repeated least most greed regex).ways first) :
    Leads numbers (languageOfBody ^ least * rounds languageOfBody (most.map (· - least)))
      first last := by
  cases greed with
  | possessive => exact absurd rfl gives
  | greedy =>
      rw [ways, List.mem_flatMap] at membership
      obtain ⟨middle, inLeast, inRest⟩ := membership
      exact (leads_of_mem_exactWays leadsBody least inLeast).trans
        (leads_of_mem_greedyWays leadsBody _ inRest)
  | lazy =>
      rw [ways, List.mem_flatMap] at membership
      obtain ⟨middle, inLeast, inRest⟩ := membership
      exact (leads_of_mem_exactWays leadsBody least inLeast).trans
        (leads_of_mem_lazyWays leadsBody _ inRest)

/-- The ways of a regular expression pass texts of its language, and only its groups capture. -/
theorem leads_of_mem_ways {regex : Regex} (regular : regex.IsRegular)
    (membership : last ∈ regex.ways first) :
    Leads regex.numbers regex.language first last := by
  induction regex generalizing first last with
  | empty =>
      rw [ways, List.mem_singleton] at membership
      subst membership
      exact .refl _
  | oneOf set =>
      rw [ways] at membership
      cases step : first.cursor.advance? with
      | none => simp [step] at membership
      | some next =>
          rcases next with ⟨char, next⟩
          by_cases member : set.contains char
          · simp only [step, member, if_true, List.mem_singleton] at membership
            subst membership
            exact ⟨⟨[char], ⟨char, rfl, member⟩, Cursor.passes_singleton_iff.mpr step⟩,
              fun _ _ => rfl⟩
          · simp [step, member] at membership
  | seq left right leadsLeft leadsRight =>
      rw [ways, List.mem_flatMap] at membership
      obtain ⟨middle, inLeft, inRight⟩ := membership
      exact ((leadsLeft regular.1 inLeft).mono (List.subset_append_left _ _) le_rfl).trans
        ((leadsRight regular.2 inRight).mono (List.subset_append_right _ _) le_rfl)
  | alt left right leadsLeft leadsRight =>
      rw [ways, List.mem_append] at membership
      rcases membership with inLeft | inRight
      · exact (leadsLeft regular.1 inLeft).mono (List.subset_append_left _ _)
          fun _ inside => (Language.mem_add _ _ _).mpr (.inl inside)
      · exact (leadsRight regular.2 inRight).mono (List.subset_append_right _ _)
          fun _ inside => (Language.mem_add _ _ _).mpr (.inr inside)
  | repeated least most greed body leadsBody =>
      exact leads_of_mem_repeated least most regular.1
        (fun _ _ inBody => leadsBody regular.2 inBody) membership
  | group number body leadsBody =>
      rw [ways, List.mem_map] at membership
      obtain ⟨next, inBody, rfl⟩ := membership
      have leads := leadsBody regular inBody
      refine ⟨leads.passes, ?_⟩
      intro other fresh
      rw [Regex.numbers, List.mem_cons, not_or] at fresh
      simp only [List.lookup_cons, beq_eq_false_iff_ne.mpr fresh.1]
      exact leads.captures other fresh.2
  | anchor _ | reference _ _ _ | atomic _ | lookahead _ _ | lookbehind _ _ _
  | conditional _ _ _ _ => exact regular.elim

/-- The ways of a regular expression reach all places behind a text of its language. -/
theorem ways_cover_language {regex : Regex} (regular : regex.IsRegular) :
    Covers regex.ways regex.language := by
  induction regex with
  | empty =>
      intro state text place inside passes
      rw [language, Language.mem_one] at inside
      subst inside
      exact ⟨state, by simp [ways], passes.eq_of_nil.symm⟩
  | oneOf set =>
      rintro state text place ⟨char, rfl, member⟩ passes
      have step := Cursor.passes_singleton_iff.mp passes
      exact ⟨{ state with cursor := place }, by simp [ways, step, member], rfl⟩
  | seq left right coversLeft coversRight =>
      intro state text place inside passes
      obtain ⟨text, inLeft, more, inRight, rfl⟩ := Language.mem_mul.mp inside
      obtain ⟨middle, passesText, passesMore⟩ := passes.split
      obtain ⟨next, membership, rfl⟩ := coversLeft regular.1 inLeft passesText
      obtain ⟨last, membershipRight, rfl⟩ := coversRight regular.2 inRight passesMore
      exact ⟨last, List.mem_flatMap.mpr ⟨next, membership, membershipRight⟩, rfl⟩
  | alt left right coversLeft coversRight =>
      intro state text place inside passes
      rcases (Language.mem_add _ _ _).mp inside with inLeft | inRight
      · obtain ⟨next, membership, equality⟩ := coversLeft regular.1 inLeft passes
        exact ⟨next, List.mem_append_left _ membership, equality⟩
      · obtain ⟨next, membership, equality⟩ := coversRight regular.2 inRight passes
        exact ⟨next, List.mem_append_right _ membership, equality⟩
  | repeated least most greed body covers =>
      intro state text place inside passes
      obtain ⟨text, inLeast, more, inRest, rfl⟩ := Language.mem_mul.mp inside
      obtain ⟨middle, passesText, passesMore⟩ := passes.split
      obtain ⟨next, membership, rfl⟩ :=
        exactWays_cover (covers regular.2) least inLeast passesText
      cases greed with
      | possessive => exact absurd rfl regular.1
      | greedy =>
          obtain ⟨last, membershipRest, rfl⟩ :=
            greedyWays_cover (covers regular.2) _ inRest passesMore
          exact ⟨last, List.mem_flatMap.mpr ⟨next, membership, membershipRest⟩, rfl⟩
      | lazy =>
          obtain ⟨last, membershipRest, rfl⟩ :=
            lazyWays_cover (covers regular.2) _ inRest passesMore
          exact ⟨last, List.mem_flatMap.mpr ⟨next, membership, membershipRest⟩, rfl⟩
  | group number body covers =>
      intro state text place inside passes
      obtain ⟨next, membership, equality⟩ := covers regular inside passes
      exact ⟨_, List.mem_map.mpr ⟨next, membership, rfl⟩, equality⟩
  | anchor _ | reference _ _ _ | atomic _ | lookahead _ _ | lookbehind _ _ _
  | conditional _ _ _ _ => exact regular.elim

/-- A regular expression takes the whole of exactly the texts of its language. -/
theorem fullMatch?_isSome_iff {regex : Regex} (regular : regex.IsRegular) (text : List Char) :
    (regex.fullMatch? text).isSome ↔ text ∈ regex.language := by
  constructor
  · intro found
    obtain ⟨captures, found⟩ := Option.isSome_iff_exists.mp found
    obtain ⟨last, membership, atEnd, -⟩ := mem_ways_of_fullMatch? found
    obtain ⟨passed, inside, passes⟩ := (leads_of_mem_ways regular membership).passes
    have equality : text = passed := by simpa [Cursor.start, atEnd] using passes.1
    rw [equality]
    exact inside
  · intro inside
    have passes : (Cursor.start text).Passes text ⟨text.reverse, []⟩ := by
      simp [Cursor.Passes, Cursor.start]
    have covered : ∃ next ∈ regex.ways ⟨.start text, []⟩, next.cursor = ⟨text.reverse, []⟩ :=
      ways_cover_language regular inside passes
    obtain ⟨last, membership, equality⟩ := covered
    exact fullMatch?_isSome_of_mem_ways membership (by rw [equality])

end Regex

namespace Expression

/-- Whether the syntax of an expression is regular and none of its groups has a name. -/
structure IsRegular (expression : Expression) : Prop where
  regex : expression.regex.IsRegular
  unnamed : expression.names = []

instance (expression : Expression) : Decidable expression.IsRegular :=
  decidable_of_iff (expression.regex.IsRegular ∧ expression.names = [])
    ⟨fun ⟨regex, unnamed⟩ => ⟨regex, unnamed⟩, fun regular => ⟨regular.regex, regular.unnamed⟩⟩

theorem accepts_iff {expression : Expression} (regular : expression.IsRegular) (text : String) :
    expression.accepts text ↔ text.toList ∈ expression.regex.language :=
  Regex.fullMatch?_isSome_iff regular.regex text.toList

end Expression

end UrlRouting
