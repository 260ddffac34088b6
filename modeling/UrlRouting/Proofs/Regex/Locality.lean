import UrlRouting.Proofs.Regex.Mirror
import UrlRouting.Proofs.Regex.Order

/-!
# Parts of texts

An expression inside of another one sees the text around what it takes.  Where it asks nothing about
that text (`IsLocal`), each of its ways to take a part of a text is also one to take the part alone
(`Mirrors.follows`).
-/

namespace UrlRouting.Regex

variable {offset limit : Nat} {before after : List Char} {strict : Bool}
  {first last alone inside next : State} {states states' : List State}

/-! ### Where ways lead -/

theorem Leads.any {numbers : List Nat} {language : Language Char}
    (leads : Leads numbers language first last) : Leads numbers ⊤ first last :=
  leads.mono (List.Subset.refl _) le_top

theorem leads_captures {numbers : List Nat} {captures : Captures}
    (same : ∀ number ∉ numbers, captures.lookup number = first.captures.lookup number) :
    Leads numbers ⊤ first { first with captures := captures } :=
  ⟨⟨[], trivial, .refl _⟩, same⟩

theorem mem_ways_of_search_eq_some {regex : Regex} (found : regex.search first some = some last) :
    last ∈ regex.ways first := by
  rw [(search_tries regex).some_eq_head?] at found
  exact List.mem_of_head? found

theorem exists_passes_of_takeText? {rule : CaseRule} {text : List Char} {first last : Cursor}
    (takes : takeText? rule text first = some last) : ∃ passed, first.Passes passed last := by
  induction text generalizing first with
  | nil =>
      injection takes with same
      subst same
      exact ⟨[], .refl _⟩
  | cons expected rest inductionHypothesis =>
      rw [takeText?] at takes
      split at takes
      · next char next step =>
          split at takes
          · obtain ⟨passed, passes⟩ := inductionHypothesis takes
            exact ⟨[char] ++ passed, (Cursor.passes_singleton_iff.mpr step).trans passes⟩
          · simp at takes
      · simp at takes

section

variable {body : Regex}
  (leadsBody : ∀ ⦃first last⦄, last ∈ body.ways first → Leads body.numbers ⊤ first last)

include leadsBody

theorem leads_of_exactlyPossessively {count : Nat}
    (found : exactlyPossessively body.search count first = some last) :
    Leads body.numbers ⊤ first last := by
  induction count generalizing first with
  | zero =>
      injection found with same
      subst same
      exact (Leads.refl first).any
  | succ count inductionHypothesis =>
      obtain ⟨next, isNext, isLast⟩ := Option.bind_eq_some_iff.mp found
      exact ((leadsBody (mem_ways_of_search_eq_some isNext)).trans
        (inductionHypothesis isLast)).any

theorem leads_possessively (most : Option Nat) (first : State) :
    Leads body.numbers ⊤ first (possessively body.search most first) := by
  induction length : first.cursor.after.length using Nat.strongRecOn generalizing first most with
  | _ length inductionHypothesis =>
      subst length
      rw [possessively]
      split
      · exact (Leads.refl first).any
      · split
        · next next isNext =>
            have leads := leadsBody (mem_ways_of_search_eq_some isNext)
            split
            · next shorter =>
                exact (leads.trans (inductionHypothesis _ shorter (lessOne most) next rfl)).any
            · exact leads
        · exact (Leads.refl first).any

end

/-- Every way goes on in the text, and only groups of the expression capture anything. -/
theorem leads_of_mem_any_ways {regex : Regex} (membership : last ∈ regex.ways first) :
    Leads regex.numbers ⊤ first last := by
  induction regex generalizing first last with
  | empty =>
      rw [List.mem_singleton.mp membership]
      exact (Leads.refl first).any
  | oneOf set =>
      have isRegular : (oneOf set).IsRegular := trivial
      exact (leads_of_mem_ways isRegular membership).any
  | anchor place =>
      rw [(mem_ways_anchor.mp membership).2]
      exact (Leads.refl first).any
  | seq left right leadsLeft leadsRight =>
      obtain ⟨middle, inLeft, inRight⟩ := List.mem_flatMap.mp membership
      exact (((leadsLeft inLeft).mono (List.subset_append_left _ _) le_rfl).trans
        ((leadsRight inRight).mono (List.subset_append_right _ _) le_rfl)).any
  | alt left right leadsLeft leadsRight =>
      rcases List.mem_append.mp membership with inLeft | inRight
      · exact (leadsLeft inLeft).mono (List.subset_append_left _ _) le_rfl
      · exact (leadsRight inRight).mono (List.subset_append_right _ _) le_rfl
  | repeated least most greed body inductionHypothesis =>
      have leadsBody : ∀ ⦃first last⦄, last ∈ body.ways first →
          Leads body.numbers ⊤ first last := fun _ _ inBody => inductionHypothesis inBody
      cases greed with
      | greedy | lazy =>
          exact (leads_of_mem_repeated least most (by simp) leadsBody membership).any
      | possessive =>
          obtain ⟨middle, isMiddle, rfl⟩ :=
            Option.map_eq_some_iff.mp (Option.mem_toList.mp membership)
          exact ((leads_of_exactlyPossessively leadsBody isMiddle).trans
            (leads_possessively leadsBody _ middle)).any
  | group number body leadsBody =>
      obtain ⟨next, inBody, rfl⟩ := List.mem_map.mp membership
      have leads := leadsBody inBody
      refine ⟨leads.passes, ?_⟩
      intro other fresh
      rw [Regex.numbers, List.mem_cons, not_or] at fresh
      simp only [List.lookup_cons, beq_eq_false_iff_ne.mpr fresh.1]
      exact leads.captures other fresh.2
  | reference number byName rule =>
      obtain ⟨text, -, takes⟩ := Option.bind_eq_some_iff.mp (Option.mem_toList.mp membership)
      obtain ⟨place, isPlace, rfl⟩ := Option.map_eq_some_iff.mp takes
      obtain ⟨passed, passes⟩ := exists_passes_of_takeText? isPlace
      exact ⟨⟨passed, trivial, passes⟩, fun _ _ => rfl⟩
  | atomic body leadsBody =>
      exact leadsBody (List.mem_of_head? (Option.mem_toList.mp membership))
  | lookahead positive body leadsBody =>
      rw [ways] at membership
      dsimp only at membership
      split at membership
      · next found isFound =>
          cases positive with
          | true =>
              rw [List.mem_singleton.mp membership]
              exact leads_captures (leadsBody (List.mem_of_head? isFound)).captures
          | false => simp at membership
      · cases positive with
        | true => simp at membership
        | false =>
            rw [List.mem_singleton.mp membership]
            exact (Leads.refl first).any
  | lookbehind positive width body leadsBody =>
      rw [ways] at membership
      dsimp only at membership
      split at membership
      · next found isFound =>
          obtain ⟨earlier, -, isFirst⟩ := Option.bind_eq_some_iff.mp isFound
          cases positive with
          | true =>
              rw [List.mem_singleton.mp membership]
              exact leads_captures (leadsBody (List.mem_of_head? isFirst)).captures
          | false => simp at membership
      · cases positive with
        | true => simp at membership
        | false =>
            rw [List.mem_singleton.mp membership]
            exact (Leads.refl first).any
  | conditional number byName present absent leadsPresent leadsAbsent =>
      rw [ways] at membership
      dsimp only at membership
      split at membership
      · exact (leadsPresent membership).mono (List.subset_append_left _ _) le_rfl
      · exact (leadsAbsent membership).mono (List.subset_append_right _ _) le_rfl

theorem length_le_of_mem_ways {regex : Regex} (membership : last ∈ regex.ways first) :
    last.cursor.after.length ≤ first.cursor.after.length :=
  (leads_of_mem_any_ways membership).length_le

theorem length_le_of_mem_greedyWays {body : Regex} {most : Option Nat}
    (membership : last ∈ greedyWays body.ways most first) :
    last.cursor.after.length ≤ first.cursor.after.length :=
  (leads_of_mem_greedyWays (fun _ _ => leads_of_mem_any_ways) most membership).length_le

theorem length_le_of_mem_lazyWays {body : Regex} {most : Option Nat}
    (membership : last ∈ lazyWays body.ways most first) :
    last.cursor.after.length ≤ first.cursor.after.length :=
  (leads_of_mem_lazyWays (fun _ _ => leads_of_mem_any_ways) most membership).length_le

theorem length_possessively_le (body : Regex) (most : Option Nat) (first : State) :
    (possessively body.search most first).cursor.after.length ≤ first.cursor.after.length :=
  (leads_possessively (fun _ _ => leads_of_mem_any_ways) most first).length_le

/-! ### What sees nothing around a part -/

/-- Whether what an expression takes of a text can be told from that part alone.  If `strict`, it
takes the part alone in the same ways, otherwise there may be more ways to take it alone.  What
gives up all ways but one, or asks that there is none, needs the same ways in its body. -/
def IsLocal : Regex → (strict : Bool) → Prop
  | empty, _ | oneOf _, _ => True
  | anchor (.wordEdge _), _ | anchor (.notWordEdge _), _ => False
  | anchor _, strict => strict = false
  | seq first second, strict | alt first second, strict =>
      first.IsLocal strict ∧ second.IsLocal strict
  | repeated _ _ .possessive body, strict => strict = false ∧ body.IsLocal true
  | repeated _ _ _ body, strict => body.IsLocal strict
  | group _ body, strict => body.IsLocal strict
  | reference _ byName _, _ => byName = true
  | atomic body, strict => strict = false ∧ body.IsLocal true
  | lookahead positive body, strict | lookbehind positive _ body, strict =>
      strict = false ∧ positive = false ∧ body.IsLocal true
  | conditional _ byName present absent, strict =>
      byName = true ∧ present.IsLocal strict ∧ absent.IsLocal strict

instance decidableIsLocal : (regex : Regex) → (strict : Bool) → Decidable (regex.IsLocal strict)
  | empty, _ | oneOf _, _ => .isTrue trivial
  | anchor (.wordEdge _), _ | anchor (.notWordEdge _), _ => .isFalse id
  | anchor .textStart, strict | anchor .lineStart, strict | anchor .textEnd, strict
  | anchor .lastLineEnd, strict | anchor .lineEnd, strict =>
      inferInstanceAs (Decidable (strict = false))
  | seq first second, strict | alt first second, strict =>
      have := decidableIsLocal first strict
      have := decidableIsLocal second strict
      inferInstanceAs (Decidable (first.IsLocal strict ∧ second.IsLocal strict))
  | repeated _ _ .possessive body, strict =>
      have := decidableIsLocal body true
      inferInstanceAs (Decidable (strict = false ∧ body.IsLocal true))
  | repeated _ _ .greedy body, strict | repeated _ _ .lazy body, strict | group _ body, strict =>
      decidableIsLocal body strict
  | reference _ byName _, _ => inferInstanceAs (Decidable (byName = true))
  | atomic body, strict =>
      have := decidableIsLocal body true
      inferInstanceAs (Decidable (strict = false ∧ body.IsLocal true))
  | lookahead positive body, strict | lookbehind positive _ body, strict =>
      have := decidableIsLocal body true
      inferInstanceAs (Decidable (strict = false ∧ positive = false ∧ body.IsLocal true))
  | conditional _ byName present absent, strict =>
      have := decidableIsLocal present strict
      have := decidableIsLocal absent strict
      inferInstanceAs
        (Decidable (byName = true ∧ present.IsLocal strict ∧ absent.IsLocal strict))

/-! ### States alone and inside -/

/-- A place in a part of a text, and the same place in the text, with the text before and after the
part.  The groups that capture inside are those that capture alone, with larger numbers. -/
structure Embeds (offset : Nat) (before after : List Char) (alone inside : State) : Prop where
  before_eq : inside.cursor.before = alone.cursor.before ++ before
  after_eq : inside.cursor.after = alone.cursor.after ++ after
  captures : ∀ number, 0 < number →
    inside.captures.lookup (number + offset) = alone.captures.lookup number

/-- The states inside are those alone, in their order, apart from states behind the part.  Unless
`strict`, there may be more states alone. -/
inductive Follows (offset : Nat) (before after : List Char) (strict : Bool) :
    List State → List State → Prop where
  | nil : Follows offset before after strict [] []
  | cons {alone inside : State} {states states' : List State} :
      Embeds offset before after alone inside →
      Follows offset before after strict states states' →
      Follows offset before after strict (alone :: states) (inside :: states')
  | behind {inside : State} {states states' : List State} :
      inside.cursor.after.length < after.length →
      Follows offset before after strict states states' →
      Follows offset before after strict states (inside :: states')
  | more {alone : State} {states states' : List State} : strict = false →
      Follows offset before after strict states states' →
      Follows offset before after strict (alone :: states) states'

theorem Embeds.length_eq (embeds : Embeds offset before after alone inside) :
    inside.cursor.after.length = alone.cursor.after.length + after.length := by
  rw [embeds.after_eq, List.length_append]

theorem Embeds.shorter_iff {next' : State} (embeds : Embeds offset before after alone inside)
    (embedsNext : Embeds offset before after next next') :
    next'.cursor.after.length < inside.cursor.after.length ↔
      next.cursor.after.length < alone.cursor.after.length := by
  rw [embeds.length_eq, embedsNext.length_eq]
  exact Nat.add_lt_add_iff_right

namespace Follows

variable {moreStates moreStates' : List State}

theorem single (embeds : Embeds offset before after alone inside) :
    Follows offset before after strict [alone] [inside] := .cons embeds .nil

theorem append (follows : Follows offset before after strict states states')
    (followsMore : Follows offset before after strict moreStates moreStates') :
    Follows offset before after strict (states ++ moreStates) (states' ++ moreStates') := by
  induction follows with
  | nil => exact followsMore
  | cons embeds _ inductionHypothesis => exact .cons embeds inductionHypothesis
  | behind isBehind _ inductionHypothesis => exact .behind isBehind inductionHypothesis
  | more free _ inductionHypothesis => exact .more free inductionHypothesis

theorem of_behind (behind : ∀ state ∈ states', state.cursor.after.length < after.length) :
    Follows offset before after strict [] states' := by
  induction states' with
  | nil => exact .nil
  | cons state rest inductionHypothesis =>
      obtain ⟨isBehind, behindRest⟩ := List.forall_mem_cons.mp behind
      exact .behind isBehind (inductionHypothesis behindRest)

theorem of_more (free : strict = false) (states : List State) :
    Follows offset before after strict states [] := by
  induction states with
  | nil => exact .nil
  | cons state rest inductionHypothesis => exact .more free inductionHypothesis

/-- From states behind the part no way leads back into it. -/
theorem flatMap {branches branches' : State → List State}
    (shrinks : ∀ state, ∀ next ∈ branches' state,
      next.cursor.after.length ≤ state.cursor.after.length)
    (followsBranches : ∀ alone inside, Embeds offset before after alone inside →
      Follows offset before after strict (branches alone) (branches' inside))
    (follows : Follows offset before after strict states states') :
    Follows offset before after strict (states.flatMap branches) (states'.flatMap branches') := by
  induction follows with
  | nil => exact .nil
  | cons embeds _ inductionHypothesis =>
      exact (followsBranches _ _ embeds).append inductionHypothesis
  | behind isBehind _ inductionHypothesis =>
      refine (of_behind ?_).append inductionHypothesis
      exact fun next isNext => (shrinks _ next isNext).trans_lt isBehind
  | more free _ inductionHypothesis => exact (of_more free _).append inductionHypothesis

/-- A state that is not behind the part is one of the states alone. -/
theorem exists_of_mem (follows : Follows offset before after strict states states')
    (membership : inside ∈ states') (notBehind : after.length ≤ inside.cursor.after.length) :
    ∃ alone ∈ states, Embeds offset before after alone inside := by
  induction follows with
  | nil => simp at membership
  | cons embeds _ inductionHypothesis =>
      rcases List.mem_cons.mp membership with rfl | inRest
      · exact ⟨_, List.mem_cons_self .., embeds⟩
      · obtain ⟨alone, isAlone, embedsAlone⟩ := inductionHypothesis inRest
        exact ⟨alone, List.mem_cons_of_mem _ isAlone, embedsAlone⟩
  | behind isBehind _ inductionHypothesis =>
      rcases List.mem_cons.mp membership with rfl | inRest
      · omega
      · exact inductionHypothesis inRest
  | more _ _ inductionHypothesis =>
      obtain ⟨alone, isAlone, embedsAlone⟩ := inductionHypothesis membership
      exact ⟨alone, List.mem_cons_of_mem _ isAlone, embedsAlone⟩

theorem head?_eq_none (follows : Follows offset before after true states states')
    (isNone : states'.head? = none) : states.head? = none := by
  cases follows with
  | nil => rfl
  | cons | behind => simp at isNone
  | more free => simp at free

/-- The first state inside is the first one alone, or behind the part. -/
theorem head (follows : Follows offset before after true states states') :
    Follows offset before after false states.head?.toList states'.head?.toList := by
  cases follows with
  | nil => exact .nil
  | cons embeds => exact .single embeds
  | behind isBehind => exact .behind isBehind (of_more rfl _)
  | more free => simp at free

end Follows

/-! ### Characters and places -/

/-- Inside, a next character of the part is the next one of the text. -/
theorem Embeds.advance?_eq {char : Char} {place : Cursor}
    (embeds : Embeds offset before after alone inside)
    (advances : alone.cursor.advance? = some (char, place)) :
    ∃ place', inside.cursor.advance? = some (char, place') ∧
      Embeds offset before after { alone with cursor := place }
        { inside with cursor := place' } := by
  rcases alone with ⟨⟨aloneBefore, _ | ⟨next, aloneAfter⟩⟩, captures⟩
  · simp [Cursor.advance?] at advances
  · simp only [Cursor.advance?, Option.some.injEq, Prod.mk.injEq] at advances
    obtain ⟨rfl, rfl⟩ := advances
    rcases inside with ⟨⟨insideBefore, insideAfter⟩, captures'⟩
    obtain ⟨rfl, rfl, same⟩ := embeds
    exact ⟨_, rfl, rfl, rfl, same⟩

/-- Where the part ends, a next character of the text is behind it. -/
theorem Embeds.length_lt {char : Char} {place : Cursor}
    (embeds : Embeds offset before after alone inside) (atEnd : alone.cursor.advance? = none)
    (advances : inside.cursor.advance? = some (char, place)) :
    place.after.length < after.length := by
  rcases alone with ⟨⟨aloneBefore, _ | ⟨next, aloneAfter⟩⟩, captures⟩
  · have isAfter : inside.cursor.after = after := embeds.after_eq
    rw [← isAfter, (Cursor.passes_singleton_iff.mpr advances).1]
    exact Nat.lt_succ_self _
  · simp [Cursor.advance?] at atEnd

theorem follows_takeText? (rule : CaseRule) (text : List Char)
    (embeds : Embeds offset before after alone inside) :
    Follows offset before after strict
      ((takeText? rule text alone.cursor).map fun place => { alone with cursor := place }).toList
      ((takeText? rule text inside.cursor).map
        fun place => { inside with cursor := place }).toList := by
  induction text generalizing alone inside with
  | nil => exact .single embeds
  | cons expected rest inductionHypothesis =>
      rw [takeText?, takeText?]
      cases advances : alone.cursor.advance? with
      | none =>
          refine .of_behind ?_
          intro state isState
          obtain ⟨last, isLast, rfl⟩ := Option.map_eq_some_iff.mp (Option.mem_toList.mp isState)
          cases advances' : inside.cursor.advance? with
          | none => simp [advances'] at isLast
          | some step =>
              simp only [advances', Option.ite_none_right_eq_some] at isLast
              obtain ⟨passed, passes⟩ := exists_passes_of_takeText? isLast.2
              exact passes.length_le.trans_lt (embeds.length_lt advances advances')
      | some step =>
          obtain ⟨place', advances', embedsNext⟩ := embeds.advance?_eq advances
          simp only [advances']
          by_cases same : sameChar rule expected step.1
          · rw [if_pos same, if_pos same]
            exact inductionHypothesis embedsNext
          · rw [if_neg same, if_neg same]
            exact .nil

theorem follows_oneOf (set : CharClass) (embeds : Embeds offset before after alone inside) :
    Follows offset before after strict ((oneOf set).ways alone) ((oneOf set).ways inside) := by
  rw [ways]
  dsimp only
  cases advances : alone.cursor.advance? with
  | none =>
      cases advances' : inside.cursor.advance? with
      | none => exact .nil
      | some step =>
          refine .of_behind ?_
          intro state isState
          dsimp only at isState
          split at isState
          · rw [List.mem_singleton.mp isState]
            exact embeds.length_lt advances advances'
          · simp at isState
  | some step =>
      obtain ⟨place', advances', embedsNext⟩ := embeds.advance?_eq advances
      simp only [advances']
      by_cases member : set.contains step.1
      · rw [if_pos member, if_pos member]
        exact .single embedsNext
      · rw [if_neg member, if_neg member]
        exact .nil

/-- A condition that holds at a place in the text holds at the place in the part, where the text
around the part is missing. -/
theorem satisfies_of_embeds {place : Anchor} (isLocal : (anchor place).IsLocal strict)
    (embeds : Embeds offset before after alone inside)
    (satisfied : inside.cursor.satisfies place) : alone.cursor.satisfies place := by
  cases place with
  | textStart | textEnd =>
      simp_all [Cursor.satisfies, embeds.before_eq, embeds.after_eq]
  | lineStart | lineEnd | lastLineEnd =>
      simp only [Cursor.satisfies, embeds.before_eq, embeds.after_eq] at satisfied ⊢
      rcases alone with ⟨⟨_ | _, _ | _⟩, captures⟩ <;> simp_all
  | wordEdge ascii | notWordEdge ascii => exact isLocal.elim

theorem follows_anchor {place : Anchor} (isLocal : (anchor place).IsLocal strict)
    (embeds : Embeds offset before after alone inside) :
    Follows offset before after strict ((anchor place).ways alone)
      ((anchor place).ways inside) := by
  have free : strict = false := by
    cases place with
    | wordEdge | notWordEdge => exact isLocal.elim
    | textStart | lineStart | textEnd | lastLineEnd | lineEnd => exact isLocal
  simp only [ways]
  by_cases satisfied : inside.cursor.satisfies place
  · rw [if_pos satisfied, if_pos (satisfies_of_embeds isLocal embeds satisfied)]
    exact .single embeds
  · rw [if_neg satisfied]
    exact .of_more free _

theorem exists_back?_of_embeds {width : Nat} {earlier : Cursor}
    (embeds : Embeds offset before after alone inside)
    (goesBack : alone.cursor.back? width = some earlier) :
    ∃ earlier', inside.cursor.back? width = some earlier' ∧
      Embeds offset before after { alone with cursor := earlier }
        { inside with cursor := earlier' } := by
  induction width generalizing alone inside with
  | zero =>
      injection goesBack with same
      subst same
      exact ⟨_, rfl, embeds⟩
  | succ width inductionHypothesis =>
      rcases alone with ⟨⟨_ | ⟨char, aloneBefore⟩, aloneAfter⟩, captures⟩
      · simp [Cursor.back?] at goesBack
      · rcases inside with ⟨⟨insideBefore, insideAfter⟩, captures'⟩
        obtain ⟨rfl, rfl, sameCaptures⟩ := embeds
        have embedsBack : Embeds offset before after ⟨⟨aloneBefore, char :: aloneAfter⟩, captures⟩
            ⟨⟨aloneBefore ++ before, char :: aloneAfter ++ after⟩, captures'⟩ :=
          ⟨rfl, rfl, sameCaptures⟩
        exact inductionHypothesis embedsBack goesBack

theorem Embeds.textTo_eq {next' : State} (embeds : Embeds offset before after alone inside)
    (embedsNext : Embeds offset before after next next') :
    inside.cursor.textTo next'.cursor = alone.cursor.textTo next.cursor := by
  rw [Cursor.textTo, Cursor.textTo, embeds.length_eq, embedsNext.length_eq, embeds.after_eq,
    Nat.add_sub_add_right, List.take_append_of_le_length (Nat.sub_le ..)]

theorem Embeds.capture {next' : State} (embeds : Embeds offset before after next next')
    (number : Nat) (text : List Char) :
    Embeds offset before after { next with captures := (number, text) :: next.captures }
      { next' with captures := (number + offset, text) :: next'.captures } :=
  ⟨embeds.before_eq, embeds.after_eq, CountOn.cons embeds.captures number text⟩

/-! ### Repetitions -/

section

variable {body body' : Regex}
  (followsBody : ∀ ⦃alone inside : State⦄, Embeds offset before after alone inside →
    Follows offset before after strict (body.ways alone) (body'.ways inside))

include followsBody

theorem follows_exactWays (count : Nat) (embeds : Embeds offset before after alone inside) :
    Follows offset before after strict (exactWays body.ways count alone)
      (exactWays body'.ways count inside) := by
  induction count generalizing alone inside with
  | zero => exact .single embeds
  | succ count inductionHypothesis =>
      refine Follows.flatMap ?_ (fun _ _ => inductionHypothesis) (followsBody embeds)
      intro state next isNext
      exact (leads_of_mem_exactWays (fun _ _ => leads_of_mem_any_ways) count isNext).length_le

/-- Both orders of trying go on where less of the text is left, in the part and in the text. -/
theorem follows_rounds {further further' : State → List State}
    (shrinks : ∀ state, ∀ next ∈ further' state,
      next.cursor.after.length ≤ state.cursor.after.length)
    (followsFurther : ∀ ⦃next next' : State⦄, Embeds offset before after next next' →
      next.cursor.after.length < alone.cursor.after.length →
        Follows offset before after strict (further next) (further' next'))
    (embeds : Embeds offset before after alone inside) :
    Follows offset before after strict
      ((body.ways alone).flatMap fun next =>
        if next.cursor.after.length < alone.cursor.after.length then further next else [next])
      ((body'.ways inside).flatMap fun next =>
        if next.cursor.after.length < inside.cursor.after.length then further' next
        else [next]) := by
  refine Follows.flatMap ?_ ?_ (followsBody embeds)
  · intro state next isNext
    split at isNext
    · exact shrinks state next isNext
    · rw [List.mem_singleton.mp isNext]
  · intro next next' embedsNext
    have sameTest := embeds.shorter_iff embedsNext
    by_cases shorter : next.cursor.after.length < alone.cursor.after.length
    · rw [if_pos shorter, if_pos (sameTest.mpr shorter)]
      exact followsFurther embedsNext shorter
    · rw [if_neg shorter, if_neg (sameTest.not.mpr shorter)]
      exact .single embedsNext

theorem follows_greedyWays (most : Option Nat)
    (embeds : Embeds offset before after alone inside) :
    Follows offset before after strict (greedyWays body.ways most alone)
      (greedyWays body'.ways most inside) := by
  induction length : alone.cursor.after.length using Nat.strongRecOn
    generalizing alone inside most with
  | _ length inductionHypothesis =>
      subst length
      rw [greedyWays, greedyWays]
      by_cases bound : most = some 0
      · rw [if_pos bound, if_pos bound]
        exact .single embeds
      · rw [if_neg bound, if_neg bound]
        refine (follows_rounds followsBody ?_ ?_ embeds).append (.single embeds)
        · exact fun _ _ => length_le_of_mem_greedyWays
        · intro next next' embedsNext shorter
          exact inductionHypothesis _ shorter _ embedsNext rfl

theorem follows_lazyWays (most : Option Nat)
    (embeds : Embeds offset before after alone inside) :
    Follows offset before after strict (lazyWays body.ways most alone)
      (lazyWays body'.ways most inside) := by
  induction length : alone.cursor.after.length using Nat.strongRecOn
    generalizing alone inside most with
  | _ length inductionHypothesis =>
      subst length
      rw [lazyWays, lazyWays]
      by_cases bound : most = some 0
      · rw [if_pos bound, if_pos bound]
        exact .single embeds
      · rw [if_neg bound, if_neg bound]
        refine .cons embeds (follows_rounds followsBody ?_ ?_ embeds)
        · exact fun _ _ => length_le_of_mem_lazyWays
        · intro next next' embedsNext shorter
          exact inductionHypothesis _ shorter _ embedsNext rfl

end

section

variable {body body' : Regex}
  (followsBody : ∀ ⦃alone inside : State⦄, Embeds offset before after alone inside →
    Follows offset before after true (body.ways alone) (body'.ways inside))

include followsBody

theorem follows_exactlyPossessively (count : Nat)
    (embeds : Embeds offset before after alone inside) :
    Follows offset before after false (exactlyPossessively body.search count alone).toList
      (exactlyPossessively body'.search count inside).toList := by
  induction count generalizing alone inside with
  | zero => exact .single embeds
  | succ count inductionHypothesis =>
      simp only [exactlyPossessively, (search_tries _).some_eq_head?, Option.toList_bind]
      refine Follows.flatMap ?_ (fun _ _ => inductionHypothesis) (followsBody embeds).head
      intro state next isNext
      exact (leads_of_exactlyPossessively (fun _ _ => leads_of_mem_any_ways)
        (Option.mem_toList.mp isNext)).length_le

theorem follows_possessively (most : Option Nat)
    (embeds : Embeds offset before after alone inside) :
    Follows offset before after false [possessively body.search most alone]
      [possessively body'.search most inside] := by
  induction length : alone.cursor.after.length using Nat.strongRecOn
    generalizing alone inside most with
  | _ length inductionHypothesis =>
      subst length
      rw [possessively, possessively]
      by_cases bound : most = some 0
      · rw [if_pos bound, if_pos bound]
        exact .single embeds
      · rw [if_neg bound, if_neg bound, (search_tries _).some_eq_head?,
          (search_tries _).some_eq_head?]
        have follows := followsBody embeds
        generalize body.ways alone = states, body'.ways inside = states' at follows
        cases follows with
        | nil => exact .single embeds
        | @cons next next' _ _ embedsNext _ =>
            have sameTest := embeds.shorter_iff embedsNext
            by_cases shorter : next.cursor.after.length < alone.cursor.after.length
            · simp only [List.head?_cons, if_pos shorter, if_pos (sameTest.mpr shorter)]
              exact inductionHypothesis _ shorter _ embedsNext rfl
            · simp only [List.head?_cons, if_neg shorter, if_neg (sameTest.not.mpr shorter)]
              exact .single embedsNext
        | @behind next' _ _ isBehind _ =>
            -- The text may go on behind the part, where no round leads back from.
            refine .behind (lt_of_le_of_lt ?_ isBehind) (.of_more rfl _)
            simp only [List.head?_cons]
            split
            · exact length_possessively_le ..
            · exact le_rfl
        | more free => simp at free

end

/-! ### Expressions -/

theorem IsLocal.isByName {tree : Regex} (isLocal : tree.IsLocal strict) : tree.IsByName := by
  induction tree generalizing strict with
  | empty | oneOf | anchor => trivial
  | seq _ _ first second | alt _ _ first second => exact ⟨first isLocal.1, second isLocal.2⟩
  | repeated _ _ greed _ body =>
      cases greed with
      | greedy | lazy => exact body isLocal
      | possessive => exact body isLocal.2
  | group _ _ body => exact body isLocal
  | reference => exact isLocal
  | atomic _ body => exact body isLocal.2
  | lookahead _ _ body | lookbehind _ _ _ body => exact body isLocal.2.2
  | conditional _ _ _ _ present absent =>
      exact ⟨isLocal.1, present isLocal.2.1, absent isLocal.2.2⟩

theorem follows_group {body body' : Regex} (number : Nat)
    (followsBody : Follows offset before after strict (body.ways alone) (body'.ways inside))
    (embeds : Embeds offset before after alone inside) :
    Follows offset before after strict ((group number body).ways alone)
      ((group (number + offset) body').ways inside) := by
  simp only [ways, List.map_eq_flatMap]
  refine Follows.flatMap ?_ ?_ followsBody
  · intro state next isNext
    rw [List.mem_singleton.mp isNext]
  · intro next next' embedsNext
    rw [embeds.textTo_eq embedsNext]
    exact .single (embedsNext.capture number _)

theorem ways_lookahead_negative (body : Regex) (state : State) :
    (lookahead false body).ways state =
      if (body.ways state).head? = none then [state] else [] := by
  rw [ways]
  dsimp only
  cases (body.ways state).head? <;> rfl

theorem ways_lookbehind_negative (width : Nat) (body : Regex) (state : State) :
    (lookbehind false width body).ways state =
      if ((state.cursor.back? width).bind fun earlier =>
        (body.ways { state with cursor := earlier }).head?) = none then [state] else [] := by
  rw [ways]
  dsimp only
  cases (state.cursor.back? width).bind fun earlier =>
    (body.ways { state with cursor := earlier }).head? <;> rfl

/-- What must not be found is missing alone if it is missing inside. -/
theorem follows_negative {found found' : Option State} (missing : found' = none → found = none)
    (embeds : Embeds offset before after alone inside) :
    Follows offset before after false (if found = none then [alone] else [])
      (if found' = none then [inside] else []) := by
  by_cases isNone : found' = none
  · rw [if_pos isNone, if_pos (missing isNone)]
    exact .single embeds
  · rw [if_neg isNone]
    exact .of_more rfl _

/-- An expression inside of another one takes a part of a text in ways in which it takes the part
alone. -/
theorem Mirrors.follows {named : Prop} {tree tree' : Regex}
    (mirrors : Mirrors offset limit named tree tree') (isNamed : named)
    (isLocal : tree.IsLocal strict) (embeds : Embeds offset before after alone inside) :
    Follows offset before after strict (tree.ways alone) (tree'.ways inside) := by
  induction mirrors generalizing strict alone inside with
  | empty => exact .single embeds
  | oneOf set => exact follows_oneOf set embeds
  | anchor place => exact follows_anchor isLocal embeds
  | seq _ _ followsFirst followsSecond =>
      exact Follows.flatMap (fun _ _ => length_le_of_mem_ways)
        (fun _ _ => followsSecond isLocal.2) (followsFirst isLocal.1 embeds)
  | alt _ _ followsFirst followsSecond =>
      exact (followsFirst isLocal.1 embeds).append (followsSecond isLocal.2 embeds)
  | repeated least most greed _ followsBody =>
      cases greed with
      | greedy =>
          refine Follows.flatMap ?_ ?_
            (follows_exactWays (fun _ _ => followsBody isLocal) least embeds)
          · exact fun _ _ => length_le_of_mem_greedyWays
          · intro next next' embedsNext
            exact follows_greedyWays (fun _ _ => followsBody isLocal) _ embedsNext
      | lazy =>
          refine Follows.flatMap ?_ ?_
            (follows_exactWays (fun _ _ => followsBody isLocal) least embeds)
          · exact fun _ _ => length_le_of_mem_lazyWays
          · intro next next' embedsNext
            exact follows_lazyWays (fun _ _ => followsBody isLocal) _ embedsNext
      | possessive =>
          obtain ⟨rfl, isLocalBody⟩ := isLocal
          simp only [ways, Option.toList_map, List.map_eq_flatMap]
          refine Follows.flatMap ?_ ?_
            (follows_exactlyPossessively (fun _ _ => followsBody isLocalBody) least embeds)
          · intro state next isNext
            rw [List.mem_singleton.mp isNext]
            exact length_possessively_le ..
          · intro next next' embedsNext
            exact follows_possessively (fun _ _ => followsBody isLocalBody) _ embedsNext
  | group positive _ _ followsBody => exact follows_group _ (followsBody isLocal embeds) embeds
  | reference rule refers =>
      obtain ⟨positive, rfl⟩ := refers isLocal
      simp only [ways, embeds.captures _ positive]
      cases alone.captures.lookup _ with
      | none => exact .nil
      | some text => exact follows_takeText? rule text embeds
  | atomic _ followsBody =>
      obtain ⟨rfl, isLocalBody⟩ := isLocal
      exact (followsBody isLocalBody embeds).head
  | lookahead positive _ followsBody =>
      obtain ⟨rfl, rfl, isLocalBody⟩ := isLocal
      rw [ways_lookahead_negative, ways_lookahead_negative]
      exact follows_negative ((followsBody isLocalBody embeds).head?_eq_none ·) embeds
  | lookbehind positive same _ followsBody =>
      obtain ⟨rfl, rfl, isLocalBody⟩ := isLocal
      rw [ways_lookbehind_negative, ways_lookbehind_negative, same isNamed]
      refine follows_negative ?_ embeds
      intro isNone
      -- A place that is reached going back in the part is the same place in the text.
      refine Option.bind_eq_none_iff.mpr fun earlier goesBack => ?_
      obtain ⟨earlier', goesBack', embedsEarlier⟩ := exists_back?_of_embeds embeds goesBack
      rw [goesBack', Option.bind_some] at isNone
      exact (followsBody isLocalBody embedsEarlier).head?_eq_none isNone
  | conditional refers _ _ followsPresent followsAbsent =>
      obtain ⟨byName, isLocalPresent, isLocalAbsent⟩ := isLocal
      obtain ⟨positive, rfl⟩ := refers byName
      simp only [ways, embeds.captures _ positive]
      split
      · exact followsPresent isLocalPresent embeds
      · exact followsAbsent isLocalAbsent embeds

end UrlRouting.Regex
