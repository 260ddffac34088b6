import UrlRouting.Regex.Syntax

/-!
Backtracking search.  An expression is run from a place in the text with a continuation for what
follows it; it tries its ways of matching in order and gives the first one with which the
continuation succeeds.  Repetitions recurse on the text that remains, since a round that takes no
character is the last one.
-/

namespace UrlRouting.Regex

/-- A place in a text: the characters before it, nearest first, and those after it. -/
structure Cursor where
  before : List Char
  after : List Char
  deriving DecidableEq, Repr

/-- The texts captured so far, by group number; the first entry of a number counts. -/
abbrev Captures := List (Nat × List Char)

/-- A place in the text and what has been captured on the way there. -/
structure State where
  cursor : Cursor
  captures : Captures
  deriving DecidableEq, Repr

/-- A search with a continuation. -/
abbrev Search := State → (State → Option State) → Option State

namespace Cursor

def start (text : List Char) : Cursor := ⟨[], text⟩

def advance? (cursor : Cursor) : Option (Char × Cursor) :=
  match cursor.after with
  | [] => none
  | char :: rest => some (char, ⟨char :: cursor.before, rest⟩)

/-- `count` characters back, if there are as many. -/
def back? : (count : Nat) → Cursor → Option Cursor
  | 0, cursor => some cursor
  | _ + 1, ⟨[], _⟩ => none
  | count + 1, ⟨char :: before, after⟩ => back? count ⟨before, char :: after⟩

def textTo (first last : Cursor) : List Char :=
  first.after.take (first.after.length - last.after.length)

def isWordEdge (ascii : Bool) (cursor : Cursor) : Bool :=
  let isWord := fun char : Char => Shorthand.word.contains ascii char
  (cursor.before.head?.any isWord) != (cursor.after.head?.any isWord)

/-- Whether a condition on places holds.  In the empty text no condition on word edges does. -/
def satisfies (cursor : Cursor) : Anchor → Bool
  | .textStart => cursor.before.isEmpty
  | .lineStart => cursor.before.head?.all (· == '\n')
  | .textEnd => cursor.after.isEmpty
  | .lastLineEnd => cursor.after.isEmpty || cursor.after == ['\n']
  | .lineEnd => cursor.after.head?.all (· == '\n')
  | .wordEdge ascii =>
      !(cursor.before.isEmpty && cursor.after.isEmpty) && cursor.isWordEdge ascii
  | .notWordEdge ascii =>
      !(cursor.before.isEmpty && cursor.after.isEmpty) && !cursor.isWordEdge ascii

end Cursor

def sameChar (rule : CaseRule) (a b : Char) : Bool :=
  match rule with
  | .exact => a == b
  | .ascii => a.toLower == b.toLower
  | .unicode => Text.lowerCode a.toNat == Text.lowerCode b.toNat

def takeText? (rule : CaseRule) : List Char → Cursor → Option Cursor
  | [], cursor => some cursor
  | expected :: rest, cursor =>
      match cursor.advance? with
      | some (char, next) => if sameChar rule expected char then takeText? rule rest next else none
      | none => none

def exactly (body : Search) : (count : Nat) → Search
  | 0, state, onward => onward state
  | count + 1, state, onward => body state fun next => exactly body count next onward

def lessOne (most : Option Nat) : Option Nat := most.map (· - 1)

/-- Runs a search as often as it succeeds, up to `most` times, then fewer times.  A round that
takes no character ends the repetition. -/
def greedily (body : Search) (most : Option Nat) (state : State)
    (onward : State → Option State) : Option State :=
  if most = some 0 then onward state
  else
    let further := body state fun next =>
      if next.cursor.after.length < state.cursor.after.length then
        greedily body (lessOne most) next onward
      else onward next
    further <|> onward state
termination_by state.cursor.after.length

/-- Runs a search not at all, then more times, up to `most`. -/
def lazily (body : Search) (most : Option Nat) (state : State)
    (onward : State → Option State) : Option State :=
  onward state <|>
    if most = some 0 then none
    else
      body state fun next =>
        if next.cursor.after.length < state.cursor.after.length then
          lazily body (lessOne most) next onward
        else onward next
termination_by state.cursor.after.length

/-- Runs a search up to `most` times, each round for itself and without a way back. -/
def possessively (body : Search) (most : Option Nat) (state : State) : State :=
  if most = some 0 then state
  else
    match body state some with
    | some next =>
        if next.cursor.after.length < state.cursor.after.length then
          possessively body (lessOne most) next
        else next
    | none => state
termination_by state.cursor.after.length

def exactlyPossessively (body : Search) : (count : Nat) → State → Option State
  | 0, state => some state
  | count + 1, state => (body state some).bind (exactlyPossessively body count)

/-- Runs a search between `least` and `most` times. -/
def repeatSearch (least : Nat) (most : Option Nat) (greed : Greed) (body : Search) : Search :=
  let extra := most.map (· - least)
  match greed with
  | .greedy => fun state onward =>
      exactly body least state fun next => greedily body extra next onward
  | .lazy => fun state onward =>
      exactly body least state fun next => lazily body extra next onward
  | .possessive => fun state onward =>
      (exactlyPossessively body least state).bind fun next =>
        onward (possessively body extra next)

def search : Regex → Search
  | empty => fun state onward => onward state
  | oneOf set => fun state onward =>
      match state.cursor.advance? with
      | some (char, next) =>
          if set.contains char then onward { state with cursor := next } else none
      | none => none
  | anchor place => fun state onward =>
      if state.cursor.satisfies place then onward state else none
  | seq first second => fun state onward =>
      first.search state fun next => second.search next onward
  | alt first second => fun state onward =>
      first.search state onward <|> second.search state onward
  | repeated least most greed body => repeatSearch least most greed body.search
  | group number body => fun state onward =>
      body.search state fun next =>
        onward
          { next with captures := (number, state.cursor.textTo next.cursor) :: next.captures }
  | reference number _ rule => fun state onward =>
      match state.captures.lookup number with
      | some text =>
          match takeText? rule text state.cursor with
          | some next => onward { state with cursor := next }
          | none => none
      | none => none
  | atomic body => fun state onward => (body.search state some).bind onward
  | lookahead positive body => fun state onward =>
      match body.search state some with
      | some found => if positive then onward { state with captures := found.captures } else none
      | none => if positive then none else onward state
  | lookbehind positive width body => fun state onward =>
      match state.cursor.back? width with
      | some earlier =>
          match body.search { state with cursor := earlier } some with
          | some found =>
              if positive then onward { state with captures := found.captures } else none
          | none => if positive then none else onward state
      | none => if positive then none else onward state
  | conditional number _ present absent => fun state onward =>
      if (state.captures.lookup number).isSome then present.search state onward
      else absent.search state onward

def fullMatch? (regex : Regex) (text : List Char) : Option Captures :=
  (regex.search ⟨.start text, []⟩ fun last =>
    if last.cursor.after.isEmpty then some last else none).map (·.captures)

end UrlRouting.Regex
