import UrlRouting.Regex.Progress
import UrlRouting.Text.Numeral

/-!
Parentheses: capturing groups, groups of flags, conditions and comments.
-/

namespace UrlRouting.Regex

/-- Flags in a group: for the whole expression, or for the group. -/
inductive FlagGroup where
  | whole (on : List Char)
  | scoped (on off : List Char)
  deriving DecidableEq, Repr

def notAFlag {α : Type} (token : Token) (expected : String) : Reader α :=
  match token with
  | .plain char =>
      Reader.fail (if Text.isLetter char then .unknownFlag else .missingAfterFlag expected) 1
  | other => Reader.fail (.missingAfterFlag expected) other.chars.length

/-- Flags to clear, up to the colon; `letter` has been read. -/
def readFlagsOff : (most : Nat) → (off : List Char) → (letter : Char) → Reader (List Char)
  | 0, _, _ => Reader.fail (.missingAfterFlag ":") 0
  | most + 1, off, letter => do
      if Flags.typeLetters.contains letter then
        Reader.fail .typeFlagOff 0
      else
        match ← Reader.next with
        | none => Reader.fail (.missingAfterFlag ":") 0
        | some (.plain ':') => return letter :: off
        | some token =>
            match token with
            | .plain char =>
                if Flags.letters.contains char then
                  readFlagsOff most (letter :: off) char
                else
                  notAFlag token ":"
            | _ => notAFlag token ":"

/-- Flags to set, up to the sign that ends them; `letter` has been read. -/
def readFlagsOn : (most : Nat) → (on : List Char) → (letter : Char) → Reader (List Char × Char)
  | 0, _, _ => Reader.fail (.missingAfterFlag "-, : or )") 0
  | most + 1, on, letter => do
      if letter == 'L' then
        Reader.fail .localeFlag 0
      else if Flags.typeLetters.contains letter &&
          on.any (fun other => other != letter && Flags.typeLetters.contains other) then
        Reader.fail .incompatibleFlags 0
      else
        match ← Reader.next with
        | none => Reader.fail (.missingAfterFlag "-, : or )") 0
        | some token =>
            match token with
            | .plain char =>
                if [')', '-', ':'].contains char then
                  return (letter :: on, char)
                else if Flags.letters.contains char then
                  readFlagsOn most (letter :: on) char
                else
                  notAFlag token "-, : or )"
            | _ => notAFlag token "-, : or )"

def readFlagsAfterMinus : Reader (List Char) := do
  match ← Reader.next with
  | none => Reader.fail (.missingAfterFlag "flag") 0
  | some token =>
      match token with
      | .plain char =>
          if Flags.letters.contains char then
            Reader.unbounded (readFlagsOff · [] char)
          else
            notAFlag token "flag"
      | _ => notAFlag token "flag"

/-- The flags to set, of which the first letter or the minus sign has been read, and the sign that
ends them. -/
def readFlagsSet (first : Char) : Reader (List Char × Char) :=
  if first == '-' then Reader.pure ([], '-') else Reader.unbounded (readFlagsOn · [] first)

def readFlagsCleared (stop : Char) : Reader (List Char) :=
  if stop == '-' then readFlagsAfterMinus else Reader.pure []

def readFlags (first : Char) : Reader FlagGroup := do
  let (on, stop) ← readFlagsSet first
  if stop == ')' then
    return .whole on
  else if on.contains 't' then
    Reader.fail .globalFlagOn 1
  else
    let off ← readFlagsCleared stop
    if off.contains 't' then
      Reader.fail .globalFlagOff 1
    else if on.any off.contains then
      Reader.fail .flagOnAndOff 1
    else
      return .scoped on off

def readGroupName (terminator : Char) : Reader String := do
  let name ← Reader.name terminator "group name"
  if Text.isName name then return name
  else Reader.fail (.badGroupName name) (name.length + 1)

def enterCapture (progress : Progress) (name : Option String) (start : Nat) : Reader Progress :=
  let number := progress.groups.count + 1
  let flags := progress.frame.flags
  match name with
  | none =>
      let groups := { progress.groups with count := number }
      Reader.pure ({ progress with groups := groups }.enter (.capture number) start flags)
  | some name =>
      match progress.groups.names.lookup name with
      | some earlier => Reader.fail (.groupRedefined name number earlier) (name.length + 1)
      | none =>
          let groups :=
            { progress.groups with
              count := number
              names := progress.groups.names ++ [(name, number)] }
          Reader.pure ({ progress with groups := groups }.enter (.capture number) start flags)

def readNamedReference (progress : Progress) : Reader Progress := do
  let name ← readGroupName ')'
  match progress.groups.names.lookup name with
  | none => Reader.fail (.unknownGroupName name) (name.length + 1)
  | some number =>
      if !progress.groups.isClosed number then
        Reader.fail .openGroup (name.length + 1)
      else
        progress.groups.checkLookbehind number
        return progress.pushReference number true

/-- The number from which on a group is refused before the text has been read to its end. -/
def groupLimit : Nat := 1073741823

/-- The number of the group that a condition mentions, whether by its name, and the groups with what
is mentioned of them. -/
def readCondition (progress : Progress) : Reader (Nat × Bool × Groups) := do
  let name ← Reader.name ')' "group name"
  let size := name.length + 1
  if Text.isName name then
    match progress.groups.names.lookup name with
    | none => Reader.fail (.unknownGroupName name) size
    | some number => return (number, true, progress.groups)
  else
    match Text.naturalDigits? name with
    | none => Reader.fail (.badGroupName name) size
    | some digits =>
        let number := Text.numberOf 10 digits
        if number = 0 then
          Reader.fail .badGroupNumber size
        else if groupLimit ≤ number then
          Reader.fail (.noSuchGroup number) size
        else
          let place := (← Reader.left) + size
          let known := (progress.groups.mentioned.lookup number).isSome
          let mentioned :=
            if known then progress.groups.mentioned
            else progress.groups.mentioned ++ [(number, place)]
          return (number, false, { progress.groups with mentioned := mentioned })

def skipComment (start : Nat) : (most : Nat) → Reader Unit
  | 0 => Reader.failAt .unterminatedComment start
  | most + 1 => do
      match ← Reader.next with
      | none => Reader.failAt .unterminatedComment start
      | some token => if token = .plain ')' then return () else skipComment start most

/-- A group with a letter `P`. -/
def readNamed (progress : Progress) (start : Nat) : Reader Progress := do
  if ← Reader.accept '<' then
    let name ← readGroupName '>'
    enterCapture progress (some name) start
  else if ← Reader.accept '=' then
    readNamedReference progress
  else
    match ← Reader.next with
    | none => Reader.fail .endOfPattern 0
    | some token =>
        Reader.fail (.unknownExtension ("P" ++ token.shown)) (token.chars.length + 2)

def enterLookbehind (progress : Progress) (start : Nat) : Reader Progress := do
  match ← Reader.next with
  | none => Reader.fail .endOfPattern 0
  | some token =>
      if token = .plain '=' || token = .plain '!' then
        let outermost := progress.groups.beforeLookbehind.isNone
        let groups :=
          if outermost then
            { progress.groups with beforeLookbehind := some progress.groups.count }
          else progress.groups
        let opening := Opening.lookbehind (token = .plain '=') outermost
        return { progress with groups := groups }.enter opening start progress.frame.flags
      else
        Reader.fail (.unknownExtension ("<" ++ token.shown)) (token.chars.length + 2)

def enterConditional (progress : Progress) (start : Nat) : Reader Progress := do
  let (number, byName, groups) ← readCondition progress
  groups.checkLookbehind number
  return { progress with groups := groups }.enter (.conditional number byName none) start
    progress.frame.flags

def readFlagGroup (progress : Progress) (start : Nat) (first : Char) : Reader Progress := do
  let frame := progress.frame
  match ← readFlags first with
  | .whole on =>
      if frame.opening = .whole && frame.choices.isEmpty && frame.items.isEmpty then
        return { progress with
          frame := { frame with flags := frame.flags.change on [] }
          wholeFlags := on ++ progress.wholeFlags }
      else
        Reader.failAt .flagsNotAtStart start
  | .scoped on off => return progress.enter .plain start (frame.flags.change on off)

/-- A parenthesis that has been read; `start` is its distance from the end. -/
def readGroup (progress : Progress) (start : Nat) : Reader Progress := do
  let flags := progress.frame.flags
  if ← Reader.accept '?' then
    match ← Reader.next with
    | none => Reader.fail .endOfPattern 0
    | some token =>
        match token with
        | .plain 'P' => readNamed progress start
        | .plain ':' => return progress.enter .plain start flags
        | .plain '>' => return progress.enter .atomic start flags
        | .plain '=' => return progress.enter (.lookahead true) start flags
        | .plain '!' => return progress.enter (.lookahead false) start flags
        | .plain '<' => enterLookbehind progress start
        | .plain '(' => enterConditional progress start
        | .plain '#' =>
            Reader.unbounded (skipComment start)
            return progress
        | .plain char =>
            if Flags.letters.contains char || char == '-' then
              readFlagGroup progress start char
            else
              Reader.fail (.unknownExtension token.shown) (token.chars.length + 1)
        | _ => Reader.fail (.unknownExtension token.shown) (token.chars.length + 1)
  else
    enterCapture progress none start

end UrlRouting.Regex
