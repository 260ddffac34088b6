import UrlRouting.Proofs.Regex.Order

/-!
# Texts behind a front

An expression that looks at nothing before the place that it is run from takes the rest of a text in
the same ways whatever the front of the text is (`Ignores`).  Regular expressions are of that kind,
so a match of a text with a given front is one of the rest (`fullMatch?_append`).
-/

namespace UrlRouting.Regex

/-- The same place in a text that has something in front. -/
def State.behind (front : List Char) (state : State) : State :=
  { state with cursor := ⟨state.cursor.before ++ front.reverse, state.cursor.after⟩ }

/-- Whether ways are the same whatever stands in front of the text. -/
def Ignores (front : List Char) (ways : State → List State) : Prop :=
  ∀ state, ways (state.behind front) = (ways state).map (·.behind front)

variable {front : List Char} {someWays moreWays : State → List State}

namespace Ignores

theorem flatMap (ignores : Ignores front someWays) (ignoresMore : Ignores front moreWays) :
    Ignores front fun state => (someWays state).flatMap moreWays := by
  intro state
  dsimp only
  rw [ignores, List.flatMap_map, List.map_flatMap]
  exact List.flatMap_congr fun next _ => ignoresMore next

theorem exactWays (ignores : Ignores front someWays) (count : Nat) :
    Ignores front (exactWays someWays count) := by
  induction count with
  | zero => intro state; rfl
  | succ count inductionHypothesis => exact ignores.flatMap inductionHypothesis

/-- A round goes on behind the front just where it goes on without it. -/
theorem rounds {further : State → List State} (ignores : Ignores front someWays) (state : State)
    (ignoresFurther : ∀ next : State, next.cursor.after.length < state.cursor.after.length →
      further (next.behind front) = (further next).map (·.behind front)) :
    ((someWays (state.behind front)).flatMap fun next =>
        if next.cursor.after.length < (state.behind front).cursor.after.length then further next
        else [next]) =
      ((someWays state).flatMap fun next =>
        if next.cursor.after.length < state.cursor.after.length then further next
        else [next]).map (·.behind front) := by
  rw [ignores, List.flatMap_map, List.map_flatMap]
  refine List.flatMap_congr fun next _ => ?_
  by_cases shorter : next.cursor.after.length < state.cursor.after.length
  · rw [if_pos shorter, ← ignoresFurther next shorter]
    exact if_pos shorter
  · rw [if_neg shorter]
    exact if_neg shorter

theorem greedyWays (ignores : Ignores front someWays) (most : Option Nat) :
    Ignores front (greedyWays someWays most) := by
  intro state
  induction length : state.cursor.after.length using Nat.strongRecOn
    generalizing state most with
  | _ length inductionHypothesis =>
      subst length
      rw [Regex.greedyWays, Regex.greedyWays]
      split
      · rfl
      · rw [List.map_append, ← ignores.rounds state fun next shorter =>
          inductionHypothesis _ shorter (lessOne most) next rfl]
        rfl

theorem lazyWays (ignores : Ignores front someWays) (most : Option Nat) :
    Ignores front (lazyWays someWays most) := by
  intro state
  induction length : state.cursor.after.length using Nat.strongRecOn
    generalizing state most with
  | _ length inductionHypothesis =>
      subst length
      rw [Regex.lazyWays, Regex.lazyWays]
      split
      · rfl
      · rw [List.map_cons, ← ignores.rounds state fun next shorter =>
          inductionHypothesis _ shorter (lessOne most) next rfl]

theorem oneOf (set : CharClass) : Ignores front (oneOf set).ways := by
  rintro ⟨⟨before, after⟩, captures⟩
  cases after with
  | nil => rfl
  | cons char rest =>
      simp only [ways, State.behind, Cursor.advance?]
      split <;> rfl

theorem lastLineEnd : Ignores front (anchor .lastLineEnd).ways := by
  intro state
  have same : (state.behind front).cursor.satisfies .lastLineEnd =
      state.cursor.satisfies .lastLineEnd := rfl
  simp only [ways, same]
  cases state.cursor.satisfies .lastLineEnd <;> rfl

theorem of_isRegular {regex : Regex} (regular : regex.IsRegular) : Ignores front regex.ways := by
  induction regex with
  | empty => intro state; rfl
  | oneOf set => exact oneOf set
  | seq _ _ first second => exact (first regular.1).flatMap (second regular.2)
  | alt left right ignoresLeft ignoresRight =>
      intro state
      simp only [ways]
      rw [ignoresLeft regular.1, ignoresRight regular.2, List.map_append]
  | repeated least most greed body inductionHypothesis =>
      have ignores := inductionHypothesis regular.2
      cases greed with
      | greedy => exact (ignores.exactWays least).flatMap (ignores.greedyWays _)
      | lazy => exact (ignores.exactWays least).flatMap (ignores.lazyWays _)
      | possessive => exact absurd rfl regular.1
  | group number body inductionHypothesis =>
      intro state
      simp only [ways]
      rw [inductionHypothesis regular, List.map_map, List.map_map]
      rfl
  | anchor | reference | atomic | lookahead | lookbehind | conditional => exact regular.elim

theorem concat_append {trees others : List Regex} (ignores : Ignores front (concat trees).ways)
    (ignoresOthers : Ignores front (concat others).ways) :
    Ignores front (concat (trees ++ others)).ways := by
  intro state
  rw [ways_concat_append, ways_concat_append]
  exact ignores.flatMap ignoresOthers state

end Ignores

/-- Behind what takes just the front, a match is one of the rest. -/
theorem fullMatch?_append {leading trees : List Regex} {rest : List Char}
    (takes : (concat leading).ways ⟨.start (front ++ rest), []⟩ =
      [State.behind front ⟨.start rest, []⟩])
    (ignores : Ignores front (concat trees).ways) :
    (concat (anchor .textStart :: (leading ++ trees))).fullMatch? (front ++ rest) =
      (concat (anchor .textStart :: trees)).fullMatch? rest := by
  have atStart (others : List Regex) (text : List Char) :
      (concat (anchor .textStart :: others)).ways ⟨.start text, []⟩ =
        (concat others).ways ⟨.start text, []⟩ := by
    simp [concat, ways, Cursor.satisfies, Cursor.start]
  simp only [fullMatch?, search_tries _ _ _]
  rw [atStart, atStart, ways_concat_append, takes, List.flatMap_singleton, ignores,
    List.findSome?_map, List.map_findSome?, List.map_findSome?]
  congr 1
  funext last
  -- The front is neither left over nor captured.
  simp only [Function.comp_apply, State.behind]
  split <;> rfl

end UrlRouting.Regex
