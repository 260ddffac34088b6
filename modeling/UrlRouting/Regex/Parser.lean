import UrlRouting.Regex.Group

/-!
From the text of a regular expression to its syntax: character classes, repetitions and the whole
text, one item after the other.
-/

namespace UrlRouting.Regex

/-! ### Character classes -/

/-- A member of a class that has been read, with the first token of its text. -/
def classMember (ascii : Bool) : Token → Reader ClassItem
  | .escaped char => Escape.inClass ascii char
  | .plain char => Reader.pure (.single char.toNat)
  | .dangling => Reader.pure (.single 92)

/-- A range between two members.  Its ends must be single characters in ascending order. -/
def classRange (first last : Token) (low high : ClassItem) : Reader ClassItem :=
  let fault := Reader.fail (.badRange first.shown last.shown)
    (first.chars.length + 1 + last.chars.length)
  match low, high with
  | .single low, .single high =>
      if high < low then fault else Reader.pure (.range low high)
  | _, _ => fault

/-- The members up to the closing bracket; `start` is the distance of the opening one from the
end, and the number bounds the members to read. -/
def classMembers (ascii : Bool) (start : Nat) :
    (most : Nat) → (read : List ClassItem) → Reader (List ClassItem)
  | 0, _ => Reader.failAt .unterminatedClass start
  | most + 1, read => do
      match ← Reader.next with
      | none => Reader.failAt .unterminatedClass start
      | some first =>
          if first = .plain ']' && !read.isEmpty then
            return read.reverse
          else
            let low ← classMember ascii first
            if ← Reader.accept '-' then
              match ← Reader.next with
              | none => Reader.failAt .unterminatedClass start
              | some last =>
                  if last = .plain ']' then
                    return (.single 45 :: low :: read).reverse
                  else
                    let high ← classMember ascii last
                    let range ← classRange first last low high
                    classMembers ascii start most (range :: read)
            else
              classMembers ascii start most (low :: read)

def readClass (progress : Progress) (start : Nat) : Reader Progress := do
  let negated ← Reader.accept '^'
  let items ← Reader.unbounded (classMembers progress.frame.flags.ascii start · [])
  return progress.pushSet negated items

/-! ### Repetitions -/

def roundLimit : Nat := 4294967295

def readGreed : Reader Greed := do
  if ← Reader.accept '?' then
    return .lazy
  else if ← Reader.accept '+' then
    return .possessive
  else
    return .greedy

/-- Puts a repetition around the last item; `start` is the distance of its sign from the end. -/
def repeatLast (progress : Progress) (least : Nat) (most : Option Nat) (start : Nat) :
    Reader Progress := do
  match progress.frame.items with
  | [] | .anchor _ :: _ => Reader.failAt .nothingToRepeat start
  | .repetition _ :: _ => Reader.failAt .repeatedRepetition start
  | .other regex :: items =>
      let item := Item.repetition (.repeated least most (← readGreed) regex)
      return { progress with frame := { progress.frame with items := item :: items } }

/-- The bounds of a repetition in braces, `none` if what follows the brace is something else. -/
def readBounds : Reader (Option (List Char × List Char)) := do
  let low ← Reader.takeAll Char.isDigit
  let high ← if ← Reader.accept ',' then Reader.takeAll Char.isDigit else pure low
  if ← Reader.accept '\x7d' then return some (low, high) else return none

/-- An opening brace that has been read: a repetition, or the brace itself. -/
def readBrace (progress : Progress) (start : Nat) : Reader Progress := do
  if (← Reader.peek) = some (.plain '\x7d') then
    return progress.pushCode 0x7b
  else
    match ← Reader.attempt readBounds with
    | none => return progress.pushCode 0x7b
    | some (low, high) =>
        let least := Text.numberOf 10 low
        let most := if high.isEmpty then none else some (Text.numberOf 10 high)
        if roundLimit ≤ least || most.any (roundLimit ≤ ·) then
          Reader.failNowhere .repetitionTooLarge
        else if most.any (· < least) then
          Reader.failAt .leastAboveMost (start - 1)
        else
          repeatLast progress least most start

/-! ### The whole text -/

def skipLine : (most : Nat) → Reader Unit
  | 0 => Reader.pure ()
  | most + 1 => do
      match ← Reader.next with
      | none => return ()
      | some token => if token = .plain '\n' then return () else skipLine most

/-- What a token that has been read starts; `start` is its distance from the end. -/
def readItem (progress : Progress) (token : Token) (start : Nat) : Reader Progress := do
  match token with
  | .dangling => Reader.failAt .danglingBackslash 1
  | .escaped char => progress.pushEscape (← Escape.inExpression char)
  | .plain char =>
      if progress.frame.flags.verbose && [9, 10, 11, 12, 13, 32].contains char.toNat then
        return progress
      else if progress.frame.flags.verbose && char == '#' then
        Reader.unbounded skipLine
        return progress
      else
        match char with
        | '[' => readClass progress start
        | '?' => repeatLast progress 0 (some 1) start
        | '*' => repeatLast progress 0 none start
        | '+' => repeatLast progress 1 none start
        | '\x7b' => readBrace progress start
        | '.' =>
            let others := if progress.frame.flags.dotAll then [] else [.single 10]
            return progress.pushSet true others
        | '(' => readGroup progress start
        | '^' => return progress.pushLineAnchor .textStart .lineStart
        | '$' => return progress.pushLineAnchor .lastLineEnd .lineEnd
        | _ => return progress.pushCode char.toNat

/-- At the end of the choices that no bracket holds, the flags for the whole text must not exclude
each other. -/
def checkWholeFlags (progress : Progress) : Except Trouble Unit :=
  if progress.wholeFlags.contains 'a' && progress.wholeFlags.contains 'u' then
    .error ⟨.contraryFlags, none⟩
  else .ok ()

/-- One item, bar or closing parenthesis, whose first token is given and not yet taken. -/
def step (progress : Progress) (token : Token) : Reader Progress := fun rest =>
  let start := Token.width (token :: rest)
  if token = .plain ')' then
    match progress.outer with
    | [] =>
        match checkWholeFlags progress with
        | .error trouble => .error trouble
        | .ok () => .error ⟨.unbalancedParenthesis, some start⟩
    | frame :: outer => Reader.guarded (Reader.pure (progress.close frame outer)) rest
  else if token = .plain '|' then
    match progress.frame.opening with
    | .conditional _ _ (some _) => .error ⟨.tooManyBranches, some start⟩
    | _ => Reader.guarded (Reader.pure progress.split) rest
  else
    Reader.guarded (readItem progress token start) rest

def readAll (progress : Progress) (input : List Token) : Except Trouble Progress :=
  match input with
  | [] => .ok progress
  | token :: rest =>
      match step progress token rest with
      | .error trouble => .error trouble
      | .ok taken => readAll taken.value taken.rest
termination_by input.length
decreasing_by exact Nat.lt_succ_of_le taken.le

def finish (progress : Progress) : Except Trouble Progress := do
  if !progress.outer.isEmpty then
    .error ⟨.unterminatedGroup, some progress.frame.start⟩
  else
    checkWholeFlags progress
    match progress.groups.mentioned.find? fun (number, _) => progress.groups.count < number with
    | some (number, place) => .error ⟨.noSuchGroup number, some place⟩
    | none =>
        if progress.variableLookbehind then .error ⟨.variableLookbehind, none⟩ else .ok progress

def readTokens (input : List Token) : Except Trouble Progress := do
  Reader.guardRest input
  finish (← readAll (.start (Token.width input)) input)

end UrlRouting.Regex
