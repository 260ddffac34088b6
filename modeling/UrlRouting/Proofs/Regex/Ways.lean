import Mathlib
import UrlRouting.Regex.Matcher

/-!
# The ways in which an expression can be taken

`Regex.ways` lists all states that an expression can lead to, in the order in which a search tries
them.  A search gives the first of them with which its continuation succeeds, so what can be
matched, and what is captured on the way, can be read off this list.
-/

namespace UrlRouting.Regex

def exactWays (body : State → List State) : (count : Nat) → State → List State
  | 0, state => [state]
  | count + 1, state => (body state).flatMap (exactWays body count)

/-- The ways to take something up to `most` times, more often first. -/
def greedyWays (body : State → List State) (most : Option Nat) (state : State) : List State :=
  if most = some 0 then [state]
  else
    ((body state).flatMap fun next =>
      if next.cursor.after.length < state.cursor.after.length then
        greedyWays body (lessOne most) next
      else [next]) ++ [state]
termination_by state.cursor.after.length

/-- The ways to take something up to `most` times, less often first. -/
def lazyWays (body : State → List State) (most : Option Nat) (state : State) : List State :=
  if most = some 0 then [state]
  else
    state :: (body state).flatMap fun next =>
      if next.cursor.after.length < state.cursor.after.length then
        lazyWays body (lessOne most) next
      else [next]
termination_by state.cursor.after.length

/-- The states that an expression can lead to, in the order in which they are tried.  What is
searched for without a way back has at most one. -/
def ways : Regex → State → List State
  | empty => fun state => [state]
  | oneOf set => fun state =>
      match state.cursor.advance? with
      | some (char, next) => if set.contains char then [{ state with cursor := next }] else []
      | none => []
  | anchor place => fun state => if state.cursor.satisfies place then [state] else []
  | seq first second => fun state => (first.ways state).flatMap second.ways
  | alt first second => fun state => first.ways state ++ second.ways state
  | repeated least most .greedy body => fun state =>
      (exactWays body.ways least state).flatMap (greedyWays body.ways (most.map (· - least)))
  | repeated least most .lazy body => fun state =>
      (exactWays body.ways least state).flatMap (lazyWays body.ways (most.map (· - least)))
  | repeated least most .possessive body => fun state =>
      ((exactlyPossessively body.search least state).map
        (possessively body.search (most.map (· - least)))).toList
  | group number body => fun state =>
      (body.ways state).map fun next =>
        { next with captures := (number, state.cursor.textTo next.cursor) :: next.captures }
  | reference number _ rule => fun state =>
      ((state.captures.lookup number).bind fun text =>
        (takeText? rule text state.cursor).map fun next => { state with cursor := next }).toList
  | atomic body => fun state => (body.ways state).head?.toList
  | lookahead positive body => fun state =>
      match (body.ways state).head? with
      | some found => if positive then [{ state with captures := found.captures }] else []
      | none => if positive then [] else [state]
  | lookbehind positive width body => fun state =>
      match (state.cursor.back? width).bind fun earlier =>
          (body.ways { state with cursor := earlier }).head? with
      | some found => if positive then [{ state with captures := found.captures }] else []
      | none => if positive then [] else [state]
  | conditional number _ present absent => fun state =>
      if (state.captures.lookup number).isSome then present.ways state else absent.ways state

/-! ### Searches go through the ways -/

/-- A search that tries some ways in order. -/
def Tries (search : Search) (ways : State → List State) : Prop :=
  ∀ state onward, search state onward = (ways state).findSome? onward

theorem findSome?_flatMap {α β γ : Type} (list : List α) (branches : α → List β)
    (find : β → Option γ) :
    (list.flatMap branches).findSome? find =
      list.findSome? fun value => (branches value).findSome? find := by
  induction list with
  | nil => rfl
  | cons value rest inductionHypothesis =>
      rw [List.flatMap_cons, List.findSome?_append, List.findSome?_cons, inductionHypothesis]
      cases (branches value).findSome? find <;> rfl

variable {body : Search} {bodyWays : State → List State}

theorem Tries.some_eq_head? (tries : Tries body bodyWays) (state : State) :
    body state some = (bodyWays state).head? := by
  rw [tries]
  cases bodyWays state <;> rfl

theorem exactly_tries (tries : Tries body bodyWays) (count : Nat) :
    Tries (exactly body count) (exactWays bodyWays count) := by
  induction count with
  | zero => intro state onward; simp [exactly, exactWays]
  | succ count inductionHypothesis =>
      intro state onward
      rw [exactly, exactWays, tries, findSome?_flatMap]
      congr 1
      funext next
      exact inductionHypothesis next onward

theorem greedily_tries (tries : Tries body bodyWays) (most : Option Nat) :
    Tries (greedily body most) (greedyWays bodyWays most) := by
  intro state onward
  -- Another round is tried only if it leaves less of the text, so that length is what falls.
  induction length : state.cursor.after.length using Nat.strongRecOn
    generalizing state most with
  | _ length inductionHypothesis =>
      subst length
      rw [greedily, greedyWays]
      by_cases bound : most = some 0
      · simp [bound]
      · simp only [bound, if_false, List.findSome?_append, findSome?_flatMap, tries state,
          Option.orElse_eq_orElse, Option.orElse_eq_or, List.findSome?_singleton]
        congr 2
        funext next
        by_cases shorter : next.cursor.after.length < state.cursor.after.length
        · simp only [shorter, if_true]
          exact inductionHypothesis _ shorter _ next rfl
        · simp [shorter]

theorem lazily_tries (tries : Tries body bodyWays) (most : Option Nat) :
    Tries (lazily body most) (lazyWays bodyWays most) := by
  intro state onward
  induction length : state.cursor.after.length using Nat.strongRecOn
    generalizing state most with
  | _ length inductionHypothesis =>
      subst length
      rw [lazily, lazyWays]
      by_cases bound : most = some 0
      · cases found : onward state <;> simp [bound, found]
      · simp only [bound, if_false, tries state, List.findSome?_cons]
        cases found : onward state with
        | some result => rfl
        | none =>
            simp only [findSome?_flatMap, Option.orElse_eq_orElse, Option.orElse_eq_or,
              Option.none_or]
            congr 1
            funext next
            by_cases shorter : next.cursor.after.length < state.cursor.after.length
            · simp only [shorter, if_true]
              exact inductionHypothesis _ shorter _ next rfl
            · simp [shorter]

theorem repeatSearch_tries {regex : Regex} (tries : Tries regex.search regex.ways)
    (least : Nat) (most : Option Nat) (greed : Greed) :
    Tries (repeatSearch least most greed regex.search) (repeated least most greed regex).ways := by
  intro state onward
  cases greed with
  | greedy =>
      simp only [repeatSearch, ways, findSome?_flatMap]
      rw [exactly_tries tries]
      congr 1
      funext next
      exact greedily_tries tries _ next onward
  | lazy =>
      simp only [repeatSearch, ways, findSome?_flatMap]
      rw [exactly_tries tries]
      congr 1
      funext next
      exact lazily_tries tries _ next onward
  | possessive =>
      simp only [repeatSearch, ways]
      cases exactlyPossessively regex.search least state <;> simp

/-- A search for an expression tries its ways in order. -/
theorem search_tries (regex : Regex) : Tries regex.search regex.ways := by
  induction regex with
  | empty => intro state onward; simp [search, ways]
  | oneOf set =>
      intro state onward
      simp only [search, ways]
      cases state.cursor.advance? with
      | none => rfl
      | some step => by_cases member : set.contains step.1 <;> simp [member]
  | anchor place =>
      intro state onward
      by_cases satisfied : state.cursor.satisfies place <;> simp [search, ways, satisfied]
  | seq first second triesFirst triesSecond =>
      intro state onward
      simp only [search, ways, findSome?_flatMap]
      rw [triesFirst]
      congr 1
      funext next
      exact triesSecond next onward
  | alt first second triesFirst triesSecond =>
      intro state onward
      simp only [search, ways, List.findSome?_append, Option.orElse_eq_orElse,
        Option.orElse_eq_or]
      rw [triesFirst, triesSecond]
  | repeated least most greed body tries => exact repeatSearch_tries tries least most greed
  | group number body tries =>
      intro state onward
      simp only [search, ways, List.findSome?_map]
      rw [tries]
      rfl
  | reference number byName rule =>
      intro state onward
      simp only [search, ways]
      cases state.captures.lookup number with
      | none => rfl
      | some text => cases taken : takeText? rule text state.cursor <;> simp [taken]
  | atomic body tries =>
      intro state onward
      simp only [search, ways, tries.some_eq_head?]
      cases (body.ways state).head? <;> simp
  | lookahead positive body tries =>
      intro state onward
      simp only [search, ways, tries.some_eq_head?]
      cases (body.ways state).head? <;> cases positive <;> simp
  | lookbehind positive width body tries =>
      intro state onward
      simp only [search, ways]
      cases state.cursor.back? width with
      | none => cases positive <;> simp
      | some earlier =>
          simp only [tries.some_eq_head?, Option.bind_some]
          cases (body.ways { state with cursor := earlier }).head? <;> cases positive <;> simp
  | conditional number byName present absent triesPresent triesAbsent =>
      intro state onward
      simp only [search, ways]
      by_cases known : (state.captures.lookup number).isSome
      · simp [known, triesPresent state onward]
      · simp [known, triesAbsent state onward]

/-! ### Matches of a whole text -/

/-- A match is the first of the ways that take the whole text. -/
theorem exists_first_of_fullMatch? {regex : Regex} {text : List Char} {captures : Captures}
    {before : State → State → Prop} (ordered : (regex.ways ⟨.start text, []⟩).Pairwise before)
    (found : regex.fullMatch? text = some captures) :
    ∃ last ∈ regex.ways ⟨.start text, []⟩, last.cursor.after = [] ∧ last.captures = captures ∧
      ∀ other ∈ regex.ways ⟨.start text, []⟩, other.cursor.after = [] →
        other = last ∨ before last other := by
  simp only [fullMatch?, search_tries regex _ _, Option.map_eq_some_iff] at found
  obtain ⟨last, found, rfl⟩ := found
  obtain ⟨front, way, rest, ways_eq, ends, skipped⟩ := List.findSome?_eq_some_iff.mp found
  by_cases atEnd : way.cursor.after.isEmpty
  · simp only [atEnd, if_true, Option.some.injEq] at ends
    subst ends
    rw [ways_eq] at ordered ⊢
    obtain ⟨-, orderedFrom, -⟩ := List.pairwise_append.mp ordered
    refine ⟨way, by simp, List.isEmpty_iff.mp atEnd, rfl, ?_⟩
    intro other membership otherAtEnd
    rcases List.mem_append.mp membership with inFront | inRest
    · have skips := skipped other inFront
      simp [otherAtEnd] at skips
    · rcases List.mem_cons.mp inRest with same | later
      · exact .inl same
      · exact .inr ((List.pairwise_cons.mp orderedFrom).1 other later)
  · simp [atEnd] at ends

/-- What a match captures is captured on a way that takes the whole text. -/
theorem mem_ways_of_fullMatch? {regex : Regex} {text : List Char} {captures : Captures}
    (found : regex.fullMatch? text = some captures) :
    ∃ last ∈ regex.ways ⟨.start text, []⟩, last.cursor.after = [] ∧ last.captures = captures := by
  have unordered : (regex.ways ⟨.start text, []⟩).Pairwise fun _ _ => True :=
    List.pairwise_of_forall fun _ _ => trivial
  obtain ⟨last, membership, atEnd, isLast, -⟩ := exists_first_of_fullMatch? unordered found
  exact ⟨last, membership, atEnd, isLast⟩

theorem fullMatch?_isSome_of_mem_ways {regex : Regex} {text : List Char} {last : State}
    (membership : last ∈ regex.ways ⟨.start text, []⟩) (atEnd : last.cursor.after = []) :
    (regex.fullMatch? text).isSome := by
  simp only [fullMatch?, search_tries regex _ _, Option.isSome_map, List.findSome?_isSome_iff]
  exact ⟨last, membership, by simp [atEnd]⟩

end UrlRouting.Regex
