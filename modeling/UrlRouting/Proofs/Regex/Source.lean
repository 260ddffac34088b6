import UrlRouting.Proofs.Regex.Nesting
import UrlRouting.Regex.Expression

/-!
# Texts of expressions inside other texts

The step of the reader is carried over to whole texts.  A text that is an expression on its own,
and is followed by the parenthesis that closes a capturing bracket, gives a group with that
expression inside (`readAll_capture`).
-/

namespace UrlRouting.Regex

open Reader

/-! ### Tokens -/

namespace Token

theorem ofChars_cons {char : Char} (plain : char ≠ '\\') (rest : List Char) :
    ofChars (char :: rest) = .plain char :: ofChars rest := by
  cases rest <;> simp [ofChars, plain]

theorem ofChars_map_append {chars : List Char} (plain : '\\' ∉ chars) (rest : List Char) :
    ofChars (chars ++ rest) = chars.map .plain ++ ofChars rest := by
  induction chars with
  | nil => rfl
  | cons char chars inductionHypothesis =>
      rw [List.mem_cons, not_or] at plain
      rw [List.cons_append, ofChars_cons (Ne.symm plain.1), inductionHypothesis plain.2]
      rfl

@[simp]
theorem ofChars_escaped (char : Char) (rest : List Char) :
    ofChars ('\\' :: char :: rest) = .escaped char :: ofChars rest := by
  simp [ofChars]

theorem head?_of_ofChars {chars : List Char} {char : Char}
    (isHead : (ofChars chars).head? = some (.plain char)) : chars.head? = some char := by
  match chars with
  | [] => simp [ofChars] at isHead
  | first :: rest =>
      by_cases isBackslash : first = '\\'
      · subst isBackslash
        cases rest <;> simp [ofChars] at isHead
      · simpa [ofChars_cons isBackslash] using isHead

/-- A text that does not end in the middle of an escape is cut into tokens on its own. -/
theorem ofChars_append {chars : List Char} (complete : dangling ∉ ofChars chars)
    (rest : List Char) : ofChars (chars ++ rest) = ofChars chars ++ ofChars rest := by
  fun_induction ofChars chars with
  | case1 => rfl
  | case2 char =>
      by_cases isBackslash : char = '\\'
      · simp [isBackslash] at complete
      · simp [isBackslash, ofChars_cons isBackslash]
  | case3 char next others isBackslash inductionHypothesis =>
      rw [beq_iff_eq] at isBackslash
      subst isBackslash
      simp only [List.mem_cons, not_or] at complete
      simp [inductionHypothesis complete.2]
  | case4 char next others notBackslash inductionHypothesis =>
      have plain : char ≠ '\\' := by simpa using notBackslash
      simp only [List.mem_cons, not_or] at complete
      have rest_eq := inductionHypothesis (by simpa using complete.2)
      rw [List.cons_append, ofChars_cons plain]
      simpa using rest_eq

theorem ofChars_ne_dangling {char : Char} (plain : char ≠ '\\') {chars : List Char}
    (membership : char ∈ chars) : ofChars chars ≠ [dangling] := by
  intro isDangling
  match chars with
  | [] => simp at membership
  | [only] =>
      have same : only = '\\' := by simpa [ofChars] using isDangling
      exact plain ((List.mem_singleton.mp membership).trans same)
  | first :: second :: rest =>
      rw [ofChars] at isDangling
      split at isDangling <;> simp at isDangling

/-- Only at the end of a text is a backslash without a character. -/
theorem getLast?_of_dangling_mem {chars : List Char} (membership : dangling ∈ ofChars chars) :
    (ofChars chars).getLast? = some dangling := by
  fun_induction ofChars chars with
  | case1 => simp at membership
  | case2 char =>
      rw [List.mem_singleton] at membership
      rw [← membership]
      rfl
  | case3 char next others _ inductionHypothesis =>
      simp only [List.mem_cons, reduceCtorEq, false_or] at membership
      rw [List.getLast?_cons, inductionHypothesis membership]
      rfl
  | case4 char next others _ inductionHypothesis =>
      simp only [List.mem_cons, reduceCtorEq, false_or] at membership
      rw [List.getLast?_cons, inductionHypothesis membership]
      rfl

end Token

/-! ### Whole texts -/

@[simp]
theorem readAll_nil (progress : Progress) : readAll progress [] = .ok progress := by
  rw [readAll]

theorem readAll_cons_eq_ok_iff {progress last : Progress} {token : Token} {rest : List Token} :
    readAll progress (token :: rest) = .ok last ↔
      ∃ next left, Reads (step progress token) rest next left ∧ readAll next left = .ok last := by
  rw [readAll]
  constructor
  · intro equation
    split at equation
    · simp at equation
    · next taken step => exact ⟨_, _, ⟨taken, step, rfl, rfl⟩, equation⟩
  · rintro ⟨next, left, ⟨taken, step, rfl, rfl⟩, equation⟩
    rw [step]
    exact equation

/-- No step takes a backslash at the end, so a text with one is refused. -/
theorem not_endsDangling_of_readAll {progress last : Progress} {input : List Token}
    (reads : readAll progress input = .ok last) : ¬ Token.EndsDangling input := by
  intro ends
  induction length : input.length using Nat.strongRecOn generalizing progress input with
  | _ length inductionHypothesis =>
      subst length
      cases input with
      | nil => simp [Token.EndsDangling] at ends
      | cons token rest =>
          obtain ⟨next, left, stepReads, readsLeft⟩ := readAll_cons_eq_ok_iff.mp reads
          obtain ⟨guard, -⟩ := steps_of_reads_step stepReads
          obtain ⟨taken, -, rfl, rfl⟩ := stepReads
          exact inductionHypothesis _ (Nat.lt_succ_of_le taken.le) readsLeft
            (taken.keeps (ends.of_cons guard)) rfl

/-- A text that can be read alone is read inside a bracket just before the bracket closes, and
detached from the context of the bracket. -/
theorem readAll_abreast {outside alone inside detached last whole : Progress} {number : Nat}
    {input more : List Token} (abreast : Abreast outside number alone inside detached)
    (reads : readAll alone input = .ok last) (closed : last.outer = [])
    (readsOn : readAll inside (input ++ .closing :: more) = .ok whole) :
    ∃ final final', Abreast outside number last final final' ∧
      readAll final (.closing :: more) = .ok whole ∧ readAll detached input = .ok final' := by
  -- A step may take many tokens, so the induction is on the number of those that are left.
  induction length : input.length using Nat.strongRecOn
    generalizing alone inside detached input with
  | _ length inductionHypothesis =>
      subst length
      cases input with
      | nil =>
          rw [readAll_nil] at reads
          injection reads with same
          subst same
          exact ⟨inside, detached, abreast, readsOn, readAll_nil detached⟩
      | cons token rest =>
          obtain ⟨next, left, stepReads, readsLeft⟩ := readAll_cons_eq_ok_iff.mp reads
          rw [List.cons_append] at readsOn
          obtain ⟨next', left', stepReads', readsLeft'⟩ := readAll_cons_eq_ok_iff.mp readsOn
          rcases step_abreast abreast stepReads stepReads' with
            ⟨rfl, next'', stepReads'', stays⟩ | ⟨rfl, rfl, isVerbose⟩
          · have shorter : left.length < (token :: rest).length := by
              obtain ⟨taken, -, rfl, rfl⟩ := stepReads
              exact Nat.lt_succ_of_le taken.le
            obtain ⟨final, final', abreastFinal, readsFinal, readsLeft''⟩ :=
              inductionHypothesis _ shorter stays readsLeft readsLeft' rfl
            exact ⟨final, final', abreastFinal, readsFinal,
              readAll_cons_eq_ok_iff.mpr ⟨next'', left, stepReads'', readsLeft''⟩⟩
          · rw [readAll_nil] at readsLeft
            injection readsLeft with same
            subst same
            -- The comment is outside of all brackets, where no flags are set.
            exact absurd isVerbose (by simp [abreast.unflagged closed, Flags.none])

theorem finish_eq_ok {progress last : Progress} (finishes : finish progress = .ok last) :
    last = progress ∧ progress.outer = [] := by
  unfold finish at finishes
  by_cases closed : progress.outer.isEmpty
  · simp only [closed, Bool.not_true, Bool.false_eq_true, if_false] at finishes
    cases flags : checkWholeFlags progress with
    | error trouble => simp [flags, Bind.bind, Except.bind] at finishes
    | ok _ =>
        simp only [flags, Bind.bind, Except.bind] at finishes
        split at finishes
        · simp at finishes
        · split at finishes
          · simp at finishes
          · injection finishes with same
            exact ⟨same.symm, List.isEmpty_iff.mp closed⟩
  · simp [closed] at finishes

theorem readTokens_eq_ok {input : List Token} {last : Progress}
    (reads : readTokens input = .ok last) :
    input ≠ [.dangling] ∧ readAll (.start (Token.width input)) input = .ok last ∧
      last.outer = [] := by
  unfold readTokens at reads
  cases guard : guardRest input with
  | error trouble => simp [guard, Bind.bind, Except.bind] at reads
  | ok _ =>
      cases readsAll : readAll (.start (Token.width input)) input with
      | error trouble => simp [guard, readsAll, Bind.bind, Except.bind] at reads
      | ok progress =>
          simp only [guard, readsAll, Bind.bind, Except.bind] at reads
          obtain ⟨rfl, closed⟩ := finish_eq_ok reads
          exact ⟨guardRest_eq_ok_iff.mp guard, rfl, closed⟩

/-- A text that can be read does not end in the middle of an escape. -/
theorem dangling_not_mem_of_readTokens {chars : List Char} {last : Progress}
    (reads : readTokens (Token.ofChars chars) = .ok last) :
    Token.dangling ∉ Token.ofChars chars := by
  intro membership
  obtain ⟨notAlone, readsAll, -⟩ := readTokens_eq_ok reads
  have isLast := Token.getLast?_of_dangling_mem membership
  apply not_endsDangling_of_readAll readsAll
  rw [Token.EndsDangling]
  generalize Token.ofChars chars = tokens at *
  rcases tokens with _ | ⟨first, _ | ⟨second, rest⟩⟩
  · simp at membership
  · simp_all
  · simpa using isLast

theorem exists_readTokens_of_compile {source : String} {expression : Expression}
    (compiles : Expression.compile source = .ok expression) :
    ∃ last, readTokens (Token.ofChars source.toList) = .ok last ∧
      expression = ⟨source, last.frame.body, last.groups.names⟩ := by
  simp only [Expression.compile] at compiles
  split at compiles
  · next last reads =>
      injection compiles with same
      exact ⟨last, reads, same.symm⟩
  · simp at compiles

/-! ### Items -/

theorem readAll_cons_of_reads {progress next : Progress} {token : Token} {rest left : List Token}
    (reads : Reads (step progress token) rest next left) :
    readAll progress (token :: rest) = readAll next left := by
  obtain ⟨taken, equation, rfl, rfl⟩ := reads
  rw [readAll, equation]

theorem readAll_closing {progress : Progress} {frame : Frame} {outer : List Frame}
    {more : List Token} (stack : progress.outer = frame :: outer) (guard : more ≠ [.dangling]) :
    readAll progress (.closing :: more) = readAll (progress.close frame outer) more :=
  readAll_cons_of_reads ((Steps.close stack).reads guard)

theorem readAll_item {progress next : Progress} {token : Token} {rest left : List Token}
    (notClosing : token ≠ .closing) (notBar : token ≠ .plain '|') (guard : rest ≠ [.dangling])
    (reads : Reads (readItem progress token (Token.width (token :: rest))) rest next left) :
    readAll progress (token :: rest) = readAll next left :=
  readAll_cons_of_reads ((Steps.item notClosing notBar reads).reads guard)

/-- A token that is an item of its own adds it and takes nothing else. -/
theorem readAll_of_readItem_eq {progress added : Progress} {token : Token} {rest : List Token}
    (notClosing : token ≠ .closing) (notBar : token ≠ .plain '|') (guard : rest ≠ [.dangling])
    (item_eq : ∀ start, readItem progress token start = Pure.pure added) :
    readAll progress (token :: rest) = readAll added rest := by
  apply readAll_item notClosing notBar guard
  rw [item_eq]
  exact reads_return.mpr ⟨rfl, rfl⟩

/-! ### Characters -/

/-- Characters that start something else than themselves, or end it. -/
def operators : List Char := ['(', ')', '[', '\x7b', '?', '*', '+', '.', '^', '$', '|', '\\']

theorem readAll_escaped {progress : Progress} {char : Char} {rest : List Token}
    (literal : ∀ input, Reads (Escape.inExpression char) input (.code char.toNat) input)
    (guard : rest ≠ [.dangling]) :
    readAll progress (.escaped char :: rest) = readAll (progress.pushCode char.toNat) rest := by
  apply readAll_item (by simp) (by simp) guard
  exact reads_bind.mpr ⟨_, _, literal rest, reads_return.mpr ⟨rfl, rfl⟩⟩

section

variable {progress : Progress} (unflagged : progress.frame.flags = .none) {rest : List Token}
  (guard : rest ≠ [.dangling])

include unflagged guard

theorem readAll_plain {char : Char} (ordinary : char ∉ operators) :
    readAll progress (.plain char :: rest) = readAll (progress.pushCode char.toNat) rest := by
  have different {other : Char} (membership : other ∈ operators) : char ≠ other := by
    rintro rfl
    exact ordinary membership
  have isCode (start : Nat) : readItem progress (.plain char) start =
      Pure.pure (progress.pushCode char.toNat) := by
    simp only [readItem, unflagged, Flags.none, Bool.false_and, Bool.false_eq_true, if_false]
    split
    all_goals first | rfl | exact absurd rfl (different (by decide))
  exact readAll_of_readItem_eq (by simpa using different (by decide))
    (by simpa using different (by decide)) guard isCode

theorem readAll_textStart :
    readAll progress (.plain '^' :: rest) =
      readAll (progress.push (.anchor (.anchor .textStart))) rest := by
  apply readAll_of_readItem_eq (by simp) (by simp) guard
  intro start
  simp [readItem, unflagged, Flags.none, Progress.pushLineAnchor]

theorem readAll_lastLineEnd :
    readAll progress (.plain '$' :: rest) =
      readAll (progress.push (.anchor (.anchor .lastLineEnd))) rest := by
  apply readAll_of_readItem_eq (by simp) (by simp) guard
  intro start
  simp [readItem, unflagged, Flags.none, Progress.pushLineAnchor]

end

/-! ### Brackets -/

theorem reads_accept_cons (char : Char) {rest : List Token} (guard : rest ≠ [.dangling]) :
    Reads (accept char) (.plain char :: rest) true rest :=
  reads_accept_iff.mpr (.inl ⟨rfl, rfl, guard⟩)

theorem reads_takeBefore_map {terminator : Char} {chars : List Char}
    (inside : terminator ∉ chars) {most : Nat} (enough : chars.length < most)
    {rest : List Token} (guard : rest ≠ [.dangling]) :
    Reads (takeBefore terminator most) (chars.map .plain ++ .plain terminator :: rest)
      (some chars) rest := by
  induction chars generalizing most with
  | nil =>
      obtain ⟨most, rfl⟩ : ∃ fewer, most = fewer + 1 := ⟨most - 1, by omega⟩
      refine reads_bind.mpr ⟨_, _, reads_next_cons guard, ?_⟩
      simp
  | cons char chars inductionHypothesis =>
      obtain ⟨most, rfl⟩ : ∃ fewer, most = fewer + 1 := ⟨most - 1, by omega⟩
      rw [List.mem_cons, not_or] at inside
      have goesOn : chars.map .plain ++ .plain terminator :: rest ≠ [.dangling] := by
        cases chars <;> simp
      have other : Token.plain char ≠ .plain terminator := by simpa using Ne.symm inside.1
      refine reads_bind.mpr ⟨_, _, reads_next_cons goesOn, ?_⟩
      simp only [other, if_false]
      refine reads_bind.mpr
        ⟨_, _, inductionHypothesis inside.2 (by simpa using enough), reads_return.mpr ⟨?_, rfl⟩⟩
      rfl

theorem reads_groupName_iff {terminator : Char} {chars : List Char} (inside : terminator ∉ chars)
    {rest left : List Token} (guard : rest ≠ [.dangling]) {name : String} :
    Reads (readGroupName terminator) (chars.map .plain ++ .plain terminator :: rest) name left ↔
      Text.isName (String.ofList chars) = true ∧ name = String.ofList chars ∧ left = rest := by
  have takes : Reads (unbounded (takeBefore terminator))
      (chars.map .plain ++ .plain terminator :: rest) (some chars) rest := by
    apply reads_takeBefore_map inside _ guard
    rw [List.length_append, List.length_map]
    omega
  constructor
  · intro reads
    obtain ⟨read, between, readsName, checks⟩ := reads_bind.mp reads
    obtain ⟨size, _, readsSize, readsName⟩ := reads_bind.mp readsName
    obtain ⟨rfl, rfl⟩ := reads_left.mp readsSize
    obtain ⟨taken?, left', takes', returns⟩ := reads_bind.mp readsName
    obtain ⟨rfl, rfl⟩ := takes.unique takes'
    have same : read = String.ofList chars ∧ between = left' := by
      cases chars with
      | nil => simp at returns
      | cons char chars =>
          exact ⟨(reads_return.mp returns).1.symm, (reads_return.mp returns).2.symm⟩
    obtain ⟨rfl, rfl⟩ := same
    split at checks
    · next isName =>
        exact ⟨isName, (reads_return.mp checks).1.symm, (reads_return.mp checks).2.symm⟩
    · exact absurd checks not_reads_fail
  · rintro ⟨isName, rfl, rfl⟩
    have readsName : Reads (Reader.name terminator "group name")
        (chars.map .plain ++ .plain terminator :: left) (String.ofList chars) left := by
      refine reads_bind.mpr ⟨_, _, reads_left.mpr ⟨rfl, rfl⟩, reads_bind.mpr ⟨_, _, takes, ?_⟩⟩
      cases chars with
      | nil => exact absurd isName (by decide)
      | cons char chars => exact reads_return.mpr ⟨rfl, rfl⟩
    refine reads_bind.mpr ⟨_, _, readsName, ?_⟩
    rw [if_pos isName]
    exact reads_return.mpr ⟨rfl, rfl⟩

/-- Whether the next group can get a name. -/
structure Groups.Allows (groups : Groups) (name : String) : Prop where
  isName : Text.isName name = true
  fresh : groups.names.lookup name = .none

section

variable {progress : Progress} (unflagged : progress.frame.flags = .none)

include unflagged

theorem readItem_parenthesis (start : Nat) :
    readItem progress (.plain '(') start = readGroup progress start := by
  simp [readItem, unflagged, Flags.none]

theorem readAll_parenthesis {opened : Nat → Progress} {rest left : List Token}
    (guard : rest ≠ [.dangling])
    (reads : ∀ start, Reads (readGroup progress start) rest (opened start) left) :
    ∃ start, readAll progress (.plain '(' :: rest) = readAll (opened start) left := by
  refine ⟨Token.width (.plain '(' :: rest), ?_⟩
  apply readAll_item (by simp) (by simp) guard
  rw [readItem_parenthesis unflagged]
  exact reads _

theorem readAll_group {rest : List Token} (guard : rest ≠ [.dangling]) :
    ∃ start, readAll progress (.plain '(' :: .plain '?' :: .plain ':' :: rest) =
      readAll (progress.enter .plain start .none) rest := by
  apply readAll_parenthesis unflagged (by simp)
  intro start
  refine reads_bind.mpr ⟨_, _, reads_accept_cons '?' (by simp), ?_⟩
  refine reads_bind.mpr ⟨_, _, reads_next_cons guard, ?_⟩
  rw [unflagged]
  exact reads_return.mpr ⟨rfl, rfl⟩

/-- A group with a name is the next one, and no earlier group has that name. -/
theorem readAll_namedGroup {name : String} (inside : '>' ∉ name.toList)
    (allows : progress.groups.Allows name) {rest : List Token} (guard : rest ≠ [.dangling]) :
    ∃ start, readAll progress (.plain '(' :: .plain '?' :: .plain 'P' :: .plain '<' ::
        (name.toList.map .plain ++ .plain '>' :: rest)) =
      readAll ({ progress with groups := progress.groups.named name }.enter
        (.capture (progress.groups.count + 1)) start .none) rest := by
  have goesOn : name.toList.map .plain ++ .plain '>' :: rest ≠ [.dangling] := by
    cases name.toList <;> simp
  have readsName : Reads (readGroupName '>') (name.toList.map .plain ++ .plain '>' :: rest)
      name rest := by
    rw [reads_groupName_iff inside guard, String.ofList_toList]
    exact ⟨allows.isName, rfl, rfl⟩
  apply readAll_parenthesis unflagged (by simp)
  intro start
  refine reads_bind.mpr ⟨_, _, reads_accept_cons '?' (by simp), ?_⟩
  refine reads_bind.mpr ⟨_, _, reads_next_cons (by simp), ?_⟩
  refine reads_bind.mpr ⟨_, _, reads_accept_cons '<' goesOn, ?_⟩
  refine reads_bind.mpr ⟨_, _, readsName, ?_⟩
  simp only [enterCapture, allows.fresh, unflagged]
  exact reads_pure.mpr ⟨rfl, rfl⟩

theorem allows_of_readAll_namedGroup {name : String} (inside : '>' ∉ name.toList)
    {rest : List Token} (guard : rest ≠ [.dangling]) {whole : Progress}
    (reads : readAll progress (.plain '(' :: .plain '?' :: .plain 'P' :: .plain '<' ::
      (name.toList.map .plain ++ .plain '>' :: rest)) = .ok whole) :
    progress.groups.Allows name := by
  have goesOn : name.toList.map .plain ++ .plain '>' :: rest ≠ [.dangling] := by
    cases name.toList <;> simp
  obtain ⟨next, left, stepReads, -⟩ := readAll_cons_eq_ok_iff.mp reads
  obtain ⟨-, steps⟩ := steps_of_reads_step stepReads
  cases steps with
  | item _ _ readsItem =>
      rw [readItem_parenthesis unflagged] at readsItem
      obtain ⟨_, _, accepts, readsExtension⟩ := reads_bind.mp readsItem
      obtain ⟨rfl, rfl⟩ := (reads_accept_cons '?' (by simp)).unique accepts
      obtain ⟨_, _, takes, readsLetter⟩ := reads_bind.mp readsExtension
      obtain ⟨rfl, rfl⟩ := (reads_next_cons (by simp)).unique takes
      obtain ⟨_, _, acceptsName, readsNamed⟩ := reads_bind.mp readsLetter
      obtain ⟨rfl, rfl⟩ := (reads_accept_cons '<' goesOn).unique acceptsName
      obtain ⟨_, _, readsName, enters⟩ := reads_bind.mp readsNamed
      obtain ⟨isName, rfl, rfl⟩ := (reads_groupName_iff inside guard).mp readsName
      rw [String.ofList_toList] at isName enters
      refine ⟨isName, ?_⟩
      unfold enterCapture at enters
      dsimp only at enters
      split at enters
      · exact absurd enters not_reads_fail
      · assumption

end

/-- A question mark makes what stands before it optional, unless another sign follows. -/
theorem readAll_optional {progress : Progress} (unflagged : progress.frame.flags = .none)
    {tree : Regex} {items : List Item}
    (last : progress.frame.items = .other tree :: items) {rest : List Token}
    (bare : ∀ token, rest.head? = some token → token ≠ .plain '?' ∧ token ≠ .plain '+')
    (guard : rest ≠ [.dangling]) :
    readAll progress (.plain '?' :: rest) =
      readAll { progress with frame := { progress.frame with
        items := .repetition (.repeated 0 (some 1) .greedy tree) :: items } } rest := by
  have notAccepted {char : Char} (other : ∀ token, rest.head? = some token → token ≠ .plain char) :
      Reads (accept char) rest false rest :=
    reads_accept_iff.mpr (.inr ⟨rfl, rfl, fun isNext => other _ isNext rfl⟩)
  have readsGreed : Reads readGreed rest .greedy rest := by
    refine reads_bind.mpr ⟨_, _, notAccepted fun token isNext => (bare token isNext).1, ?_⟩
    refine reads_bind.mpr ⟨_, _, notAccepted fun token isNext => (bare token isNext).2, ?_⟩
    exact reads_return.mpr ⟨rfl, rfl⟩
  apply readAll_item (by simp) (by simp) guard
  simp only [readItem, unflagged, Flags.none, Bool.false_and, Bool.false_eq_true, if_false,
    repeatLast, last]
  exact reads_bind.mpr ⟨_, _, readsGreed, reads_return.mpr ⟨rfl, rfl⟩⟩

/-! ### Capturing brackets -/

/-- A text can be read in a capturing bracket behind other groups, without what is around the
bracket, to its end, where the bracket is the only open one. -/
structure IsBracketed (groups : Groups) (number : Nat) (source : String) (final : Progress) :
    Prop where
  complete : Token.dangling ∉ Token.ofChars source.toList
  reads : readAll (.detached groups number) (Token.ofChars source.toList) = .ok final
  closed : final.outer = []
  isCapture : final.frame.opening = .capture number
  unflagged : final.frame.flags = .none

theorem IsBracketed.unique {groups : Groups} {number : Nat} {source : String}
    {final final' : Progress} (bracketed : IsBracketed groups number source final)
    (bracketed' : IsBracketed groups number source final') : final = final' :=
  Except.ok.inj (bracketed.reads.symm.trans bracketed'.reads)

theorem IsBracketed.congr {groups groups' : Groups} {number : Nat} {source : String}
    {final : Progress} (bracketed : IsBracketed groups number source final)
    (same : groups'.bare = groups.bare) : IsBracketed groups' number source final where
  complete := bracketed.complete
  reads := by
    rw [Progress.detached, same]
    exact bracketed.reads
  closed := bracketed.closed
  isCapture := bracketed.isCapture
  unflagged := bracketed.unflagged

/-- An expression between a capturing bracket and its closing parenthesis becomes a group, whose
own groups are counted on from those before.  Only the groups before matter for what it becomes. -/
theorem readAll_capture {source : String} {expression : Expression}
    (compiles : Expression.compile source = .ok expression) {outside whole : Progress}
    (nodup : (outside.groups.names.map (·.1)).Nodup) (bounded : outside.groups.IsBounded)
    {number start : Nat} (isCounted : number ≤ outside.groups.count) {more : List Char}
    (guard : Token.ofChars more ≠ [.dangling])
    (reads : readAll (outside.enter (.capture number) start .none)
      (Token.ofChars (source.toList ++ ')' :: more)) = .ok whole) :
    ∃ final next,
      expression.regex.Mirrors outside.groups.count next.groups.count expression.regex.IsByName
        final.frame.body ∧
      IsBracketed outside.groups number source final ∧
      next.groups.bare = (final.groups.close final.frame).bare ∧
      next.frame = outside.frame.push (.other (.group number final.frame.body)) ∧
      next.outer = outside.outer ∧
      next.groups.names = outside.groups.names ++
        expression.names.map (fun (name, number) => (name, number + outside.groups.count)) ∧
      (next.groups.names.map (·.1)).Nodup ∧ next.groups.IsBounded ∧
      outside.groups.count ≤ next.groups.count ∧
      readAll next (Token.ofChars more) = .ok whole := by
  obtain ⟨last, readsAlone, rfl⟩ := exists_readTokens_of_compile compiles
  have complete := dangling_not_mem_of_readTokens readsAlone
  obtain ⟨-, readsAlone, closed⟩ := readTokens_eq_ok readsAlone
  rw [Token.ofChars_append complete, Token.ofChars_cons (by decide)] at reads
  obtain ⟨final, final', abreast, readsOn, readsDetached⟩ :=
    readAll_abreast (.start nodup bounded number _ start) readsAlone closed reads
  obtain ⟨isCapture, stack⟩ : final.frame.opening = .capture number ∧
      final.outer = outside.frame :: outside.outer := by
    rcases abreast.frames.head with ⟨-, ⟨-, isCapture, -, -, stack⟩ | ⟨-, rest⟩⟩
    · exact ⟨isCapture, stack⟩
    · rw [closed] at rest
      cases rest
  have bracketed : IsBracketed outside.groups number source final' := by
    refine ⟨complete, readsDetached, ?_, ?_, ?_⟩
    · apply List.length_eq_zero_iff.mp
      rw [abreast.depth, closed, List.length_nil]
    · rw [(Frame.bare_eq_iff.mp abreast.frame_bare).1, isCapture]
    · rw [abreast.flags_eq, abreast.flags, abreast.unflagged closed]
  have groups := abreast.groups.close final.frame final.frame
  have body_eq := Frame.body_of_bare abreast.frame_bare
  rw [readAll_closing stack guard] at readsOn
  refine ⟨final', final.close outside.frame outside.outer, ?_, bracketed, ?_, ?_, rfl, ?_,
    groups.nodup, ?_, ?_, readsOn⟩
  · rw [body_eq]
    simpa [Progress.close] using
      abreast.frame.body.mono le_rfl (abreast.isByName closed)
  · simp only [Progress.close]
    rw [← Groups.close_bare, ← abreast.groups_bare, ← abreast.frame_bare, Groups.close_bare]
  · simp [Progress.close, Frame.item, isCapture, body_eq]
  · simpa [Progress.close] using abreast.groups.names
  · apply abreast.bounded.close
    intro closing isClosing
    rw [isCapture] at isClosing
    cases isClosing
    rw [abreast.groups.count]
    exact isCounted.trans (Nat.le_add_left ..)
  · simp [Progress.close, abreast.groups.count]

end UrlRouting.Regex
