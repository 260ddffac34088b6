import UrlRouting.Proofs.Regex.Language

/-!
# The order of ways

A match is the first way that takes the whole text, so it matters in which order the ways come.
A greedy repetition of a character takes less and less (`TakesLess`).  In a sequence of groups that
do so, the lengths of what is captured fall from way to way, compared at the first group in which
they differ (`Descends`).
-/

namespace UrlRouting.Regex

variable {first last state next : State} {trees more : List Regex}

/-! ### Sequences -/

theorem ways_concat_append (trees more : List Regex) (state : State) :
    (concat (trees ++ more)).ways state =
      ((concat trees).ways state).flatMap (concat more).ways := by
  induction trees generalizing state with
  | nil => simp [concat, ways]
  | cons tree rest inductionHypothesis =>
      simp only [List.cons_append, concat, ways, List.flatMap_assoc]
      exact List.flatMap_congr fun next _ => inductionHypothesis next

theorem ways_concat_singleton (tree : Regex) : (concat [tree]).ways = tree.ways := by
  funext state
  simp [concat, ways]

theorem mem_ways_concat_append : last ∈ (concat (trees ++ more)).ways first ↔
    ∃ middle ∈ (concat trees).ways first, last ∈ (concat more).ways middle := by
  rw [ways_concat_append, List.mem_flatMap]

theorem mem_ways_concat_singleton {tree : Regex} :
    last ∈ (concat [tree]).ways first ↔ last ∈ tree.ways first := by
  rw [ways_concat_singleton]

theorem numbers_concat_append (trees more : List Regex) :
    (concat (trees ++ more)).numbers = (concat trees).numbers ++ (concat more).numbers := by
  induction trees with
  | nil => rfl
  | cons tree rest inductionHypothesis =>
      rw [List.cons_append, concat, concat, numbers, numbers, inductionHypothesis,
        List.append_assoc]

theorem concat_isRegular (regular : ∀ tree ∈ trees, tree.IsRegular) : (concat trees).IsRegular := by
  induction trees with
  | nil => trivial
  | cons tree rest inductionHypothesis =>
      exact ⟨regular tree (List.mem_cons_self ..),
        inductionHypothesis fun other membership =>
          regular other (List.mem_cons_of_mem _ membership)⟩

theorem mem_ways_anchor {place : Anchor} :
    last ∈ (anchor place).ways first ↔ first.cursor.satisfies place = true ∧ last = first := by
  rw [ways]
  dsimp only
  split <;> simp_all

/-- What may be left out is taken, or else not. -/
theorem ways_optional (body : Regex) (state : State) :
    (repeated 0 (some 1) .greedy body).ways state = body.ways state ++ [state] := by
  have once (next : State) : greedyWays body.ways (lessOne (some 1)) next = [next] := by
    rw [greedyWays]
    rfl
  simp only [ways, exactWays, List.flatMap_singleton, Option.map_some, Nat.sub_zero]
  rw [greedyWays]
  simp [once]

theorem mem_ways_optional {body : Regex} :
    last ∈ (repeated 0 (some 1) .greedy body).ways first ↔
      last ∈ body.ways first ∨ last = first := by
  rw [ways_optional, List.mem_append, List.mem_singleton]

/-! ### Repeated characters -/

/-- Every way takes more of the text than all ways behind it. -/
def TakesLess (ways : List State) : Prop :=
  ways.Pairwise fun earlier later => earlier.cursor.after.length < later.cursor.after.length

theorem Leads.length_le {numbers : List Nat} {language : Language Char}
    (leads : Leads numbers language first last) :
    last.cursor.after.length ≤ first.cursor.after.length := by
  obtain ⟨text, -, passes⟩ := leads.passes
  exact passes.length_le

variable {set : CharClass} {char : Char} {before rest : List Char} {captures : Captures}

theorem ways_oneOf_cons (member : set.contains char) :
    (oneOf set).ways ⟨⟨before, char :: rest⟩, captures⟩ =
      [⟨⟨char :: before, rest⟩, captures⟩] := by
  simp [ways, Cursor.advance?, member]

theorem exists_cons_of_mem_ways_oneOf (membership : next ∈ (oneOf set).ways state) :
    ∃ char rest, state.cursor.after = char :: rest ∧ set.contains char ∧
      next = ⟨⟨char :: state.cursor.before, rest⟩, state.captures⟩ := by
  rcases state with ⟨⟨before, _ | ⟨char, rest⟩⟩, captures⟩
  · simp [ways, Cursor.advance?] at membership
  · by_cases member : set.contains char
    · rw [ways_oneOf_cons member, List.mem_singleton] at membership
      exact ⟨char, rest, rfl, member, membership⟩
    · simp [ways, Cursor.advance?, member] at membership

theorem pairwise_ways_oneOf (related : State → State → Prop) (state : State) :
    ((oneOf set).ways state).Pairwise related := by
  rcases state with ⟨⟨before, _ | ⟨char, rest⟩⟩, captures⟩
  · simp [ways, Cursor.advance?]
  · by_cases member : set.contains char
    · rw [ways_oneOf_cons member]
      exact List.pairwise_singleton ..
    · simp [ways, Cursor.advance?, member]

/-- One way takes more than another one, which stops before a character of a set. -/
def StopsBefore (set : CharClass) (earlier later : State) : Prop :=
  earlier.cursor.after.length < later.cursor.after.length ∧
    ∃ char ∈ later.cursor.after.head?, set.contains char

theorem length_le_of_mem_greedyWays_oneOf {most : Option Nat}
    (membership : last ∈ greedyWays (oneOf set).ways most first) :
    last.cursor.after.length ≤ first.cursor.after.length := by
  have isRegular : (oneOf set).IsRegular := trivial
  exact (leads_of_mem_greedyWays (fun _ _ inSet => leads_of_mem_ways isRegular inSet)
    most membership).length_le

/-- A greedy repetition gives back one character after the other. -/
theorem pairwise_greedyWays_oneOf (before rest : List Char) (captures : Captures) :
    (greedyWays (oneOf set).ways none ⟨⟨before, rest⟩, captures⟩).Pairwise (StopsBefore set) := by
  induction rest generalizing before with
  | nil =>
      rw [greedyWays]
      simp [ways, Cursor.advance?]
  | cons char rest inductionHypothesis =>
      rw [greedyWays]
      by_cases member : set.contains char
      · simp only [ways_oneOf_cons member, reduceCtorEq, if_false, List.flatMap_singleton,
          List.length_cons, Nat.lt_succ_self, if_true, lessOne, Option.map_none]
        refine List.pairwise_append.mpr
          ⟨inductionHypothesis (char :: before), List.pairwise_singleton .., ?_⟩
        intro earlier further later isLast
        rw [List.mem_singleton.mp isLast]
        exact ⟨Nat.lt_succ_of_le (length_le_of_mem_greedyWays_oneOf further), char, rfl, member⟩
      · simp [ways, Cursor.advance?, member]

theorem pairwise_some_oneOf (state : State) :
    ((repeated 1 none .greedy (oneOf set)).ways state).Pairwise (StopsBefore set) := by
  rcases state with ⟨⟨before, _ | ⟨char, rest⟩⟩, captures⟩
  · simp [ways, exactWays, Cursor.advance?]
  · by_cases member : set.contains char
    · rw [ways]
      simp only [exactWays, ways_oneOf_cons member, List.flatMap_singleton, Option.map_none]
      exact pairwise_greedyWays_oneOf (char :: before) rest captures
    · simp [ways, exactWays, Cursor.advance?, member]

theorem takesLess_some_oneOf (state : State) :
    TakesLess ((repeated 1 none .greedy (oneOf set)).ways state) :=
  (pairwise_some_oneOf state).imp And.left

section

variable {digits point : CharClass}

theorem starts_of_mem_fraction
    (membership : last ∈
      (concat [oneOf point, repeated 1 none .greedy (oneOf digits)]).ways first) :
    ∃ char ∈ first.cursor.after.head?, point.contains char ∧
      last.cursor.after.length < first.cursor.after.length := by
  obtain ⟨next, inPoint, inDigits⟩ := List.mem_flatMap.mp membership
  obtain ⟨char, rest, isAfter, member, rfl⟩ := exists_cons_of_mem_ways_oneOf inPoint
  have leads := leads_of_mem_ways (by exact ⟨⟨by decide, trivial⟩, trivial⟩) inDigits
  refine ⟨char, by rw [isAfter]; rfl, member, leads.length_le.trans_lt ?_⟩
  rw [isAfter]
  exact Nat.lt_succ_self _

theorem takesLess_fraction (state : State) :
    TakesLess ((concat [oneOf point, repeated 1 none .greedy (oneOf digits)]).ways state) := by
  rw [concat, ways, ways_concat_singleton]
  exact List.pairwise_flatMap.mpr
    ⟨fun next _ => takesLess_some_oneOf next, pairwise_ways_oneOf _ state⟩

/-- With fewer digits than there are, no fraction is taken, since the next character is a digit and
not the point. -/
theorem takesLess_number (apart : ∀ char, digits.contains char → ¬ point.contains char)
    (state : State) :
    TakesLess ((concat [repeated 1 none .greedy (oneOf digits), repeated 0 (some 1) .greedy
      (concat [oneOf point, repeated 1 none .greedy (oneOf digits)])]).ways state) := by
  rw [concat, ways, ways_concat_singleton]
  refine List.pairwise_flatMap.mpr ⟨?_, ?_⟩
  · intro next _
    rw [ways_optional]
    refine List.pairwise_append.mpr
      ⟨takesLess_fraction next, List.pairwise_singleton .., ?_⟩
    intro earlier inFraction later isNext
    obtain ⟨-, -, -, shorter⟩ := starts_of_mem_fraction inFraction
    rwa [List.mem_singleton.mp isNext]
  · refine (pairwise_some_oneOf state).imp ?_
    rintro earlier later ⟨less, digit, isNext, isDigit⟩ last inEarlier last' inLater
    have le : last.cursor.after.length ≤ earlier.cursor.after.length := by
      rcases mem_ways_optional.mp inEarlier with inFraction | rfl
      · obtain ⟨-, -, -, shorter⟩ := starts_of_mem_fraction inFraction
        exact shorter.le
      · exact le_rfl
    have same : last' = later := by
      refine (mem_ways_optional.mp inLater).resolve_left ?_
      intro inFraction
      obtain ⟨char, isFirst, isPoint, -⟩ := starts_of_mem_fraction inFraction
      rw [Option.mem_unique isNext isFirst] at isDigit
      exact apart char isDigit isPoint
    rw [same]
    exact le.trans_lt less

end

/-! ### Captured lengths -/

/-- The length of what a group has captured, or -1 if it has captured nothing. -/
def Captures.size (captures : Captures) (number : Nat) : Int :=
  match captures.lookup number with
  | some text => text.length
  | none => -1

def Captures.sizes (captures : Captures) (numbers : List Nat) : List Int :=
  numbers.map captures.size

/-- Groups that hold nothing yet capture less and less from way to way, and no others capture
anything. -/
structure Descends (numbers : List Nat) (ways : State → List State) : Prop where
  others : ∀ ⦃first last⦄, last ∈ ways first → ∀ number ∉ numbers,
    last.captures.lookup number = first.captures.lookup number
  pairwise : ∀ ⦃first⦄, (∀ number ∈ numbers, first.captures.lookup number = none) →
    (ways first).Pairwise fun earlier later =>
      later.captures.sizes numbers < earlier.captures.sizes numbers

theorem append_lt_append {sizes sizes' : List Int} (less : sizes < sizes')
    (length_eq : sizes.length = sizes'.length) (more more' : List Int) :
    sizes ++ more < sizes' ++ more' := by
  induction sizes generalizing sizes' with
  | nil =>
      rw [List.length_nil, eq_comm, List.length_eq_zero_iff] at length_eq
      rw [length_eq] at less
      exact absurd less (List.not_lt_nil _)
  | cons size rest inductionHypothesis =>
      cases sizes' with
      | nil => simp at length_eq
      | cons size' rest' =>
          rw [List.cons_append, List.cons_append, List.cons_lt_cons_iff]
          rcases List.cons_lt_cons_iff.mp less with smaller | ⟨same, lessRest⟩
          · exact .inl smaller
          · exact .inr ⟨same, inductionHypothesis lessRest (Nat.succ_inj.mp length_eq)⟩

namespace Descends

variable {numbers moreNumbers : List Nat} {someWays moreWays : State → List State}

theorem flatMap (descends : Descends numbers someWays)
    (descendsMore : Descends moreNumbers moreWays) (disjoint : numbers.Disjoint moreNumbers) :
    Descends (numbers ++ moreNumbers) fun state => (someWays state).flatMap moreWays := by
  -- What the first groups have captured stays as it is on all ways through the others.
  have same {middle last : State} (membership : last ∈ moreWays middle) :
      last.captures.sizes numbers = middle.captures.sizes numbers := by
    apply List.map_congr_left
    intro number inNumbers
    rw [Captures.size, Captures.size, descendsMore.others membership number (disjoint inNumbers)]
  refine ⟨?_, ?_⟩
  · intro first last membership number outside
    obtain ⟨middle, inFirst, inMore⟩ := List.mem_flatMap.mp membership
    rw [List.mem_append, not_or] at outside
    rw [descendsMore.others inMore number outside.2, descends.others inFirst number outside.1]
  · intro first fresh
    have freshFirst := fun number inNumbers => fresh number (List.mem_append_left _ inNumbers)
    refine List.pairwise_flatMap.mpr ⟨?_, ?_⟩
    · intro middle inFirst
      have freshMore : ∀ number ∈ moreNumbers, middle.captures.lookup number = none := by
        intro number inMore
        rw [descends.others inFirst number fun inNumbers => disjoint inNumbers inMore]
        exact fresh number (List.mem_append_right _ inMore)
      refine (descendsMore.pairwise freshMore).imp_of_mem ?_
      intro earlier later isEarlier isLater less
      simp only [Captures.sizes, List.map_append] at same ⊢
      rw [same isEarlier, same isLater]
      exact List.append_left_lt less
    · refine (descends.pairwise freshFirst).imp ?_
      intro earlier later less last isEarlier last' isLater
      rw [← same isEarlier, ← same isLater] at less
      simp only [Captures.sizes, List.map_append] at less ⊢
      exact append_lt_append less (by simp) _ _

theorem empty : Descends [] Regex.empty.ways := by
  refine ⟨?_, fun state _ => List.pairwise_singleton ..⟩
  intro first last membership number _
  rw [List.mem_singleton.mp membership]

theorem oneOf (set : CharClass) : Descends [] (Regex.oneOf set).ways := by
  refine ⟨?_, fun state _ => pairwise_ways_oneOf _ state⟩
  intro first last membership number _
  obtain ⟨char, rest, -, -, rfl⟩ := exists_cons_of_mem_ways_oneOf membership
  rfl

theorem anchor (place : Anchor) : Descends [] (Regex.anchor place).ways := by
  refine ⟨?_, ?_⟩
  · intro first last membership number _
    rw [(mem_ways_anchor.mp membership).2]
  · intro first _
    rw [ways]
    dsimp only
    split
    · exact List.pairwise_singleton ..
    · exact .nil

theorem group {number : Nat} {body : Regex} (regular : body.IsRegular)
    (unnumbered : body.numbers = []) (takesLess : ∀ state, TakesLess (body.ways state)) :
    Descends [number] (Regex.group number body).ways := by
  refine ⟨?_, ?_⟩
  · intro first last membership other outside
    have isRegular : (Regex.group number body).IsRegular := regular
    have leads := leads_of_mem_ways isRegular membership
    rw [Regex.numbers, unnumbered] at leads
    exact leads.captures other outside
  · intro first _
    rw [ways, List.pairwise_map]
    refine (takesLess first).imp_of_mem ?_
    intro earlier later isEarlier isLater less
    have size_eq {next : State} (inBody : next ∈ body.ways first) :
        Captures.sizes ((number, first.cursor.textTo next.cursor) :: next.captures) [number] =
          [(first.cursor.after.length : Int) - next.cursor.after.length] := by
      have le := (leads_of_mem_ways regular inBody).length_le
      simp [Captures.sizes, Captures.size, Cursor.textTo, Nat.cast_sub le]
    simp only [size_eq isEarlier, size_eq isLater]
    exact List.cons_lt_cons_iff.mpr (.inl (by omega))

theorem optional {number : Nat} {body : Regex}
    (descends : Descends (number :: numbers) body.ways)
    (captured : ∀ ⦃first last⦄, last ∈ body.ways first → (last.captures.lookup number).isSome) :
    Descends (number :: numbers) (repeated 0 (some 1) .greedy body).ways := by
  refine ⟨?_, ?_⟩
  · intro first last membership other outside
    rcases mem_ways_optional.mp membership with inBody | rfl
    · exact descends.others inBody other outside
    · rfl
  · intro first fresh
    rw [ways_optional]
    refine List.pairwise_append.mpr
      ⟨descends.pairwise fresh, List.pairwise_singleton .., ?_⟩
    intro earlier inBody later isFirst
    rw [List.mem_singleton.mp isFirst]
    obtain ⟨text, isText⟩ := Option.isSome_iff_exists.mp (captured inBody)
    have without := fresh number (List.mem_cons_self ..)
    simp only [Captures.sizes, List.map_cons, Captures.size, isText, without]
    exact List.cons_lt_cons_iff.mpr (.inl (by omega))

end Descends

end UrlRouting.Regex
