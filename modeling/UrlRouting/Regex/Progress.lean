import UrlRouting.Regex.Escape

/-!
How far the text of a regular expression has been read.  Brackets that are still open are kept on a
stack of frames, so the text is read in one pass, item by item.
-/

namespace UrlRouting.Regex

/-- Flags that change what the parts of an expression mean. -/
structure Flags where
  ignoreCase : Bool
  multiline : Bool
  dotAll : Bool
  verbose : Bool
  ascii : Bool
  deriving DecidableEq, Repr

namespace Flags

def none : Flags := ⟨false, false, false, false, false⟩

def letters : List Char := ['i', 'L', 'm', 's', 'x', 'a', 't', 'u']

def typeLetters : List Char := ['a', 'L', 'u']

/-- Sets the flags of `on` and clears those of `off`. -/
def change (flags : Flags) (on off : List Char) : Flags :=
  let after := fun (flag : Bool) (letter : Char) =>
    (flag || on.contains letter) && !off.contains letter
  { ignoreCase := after flags.ignoreCase 'i'
    multiline := after flags.multiline 'm'
    dotAll := after flags.dotAll 's'
    verbose := after flags.verbose 'x'
    ascii := (flags.ascii && !on.contains 'u') || on.contains 'a' }

def caseRule (flags : Flags) : CaseRule :=
  if !flags.ignoreCase then .exact else if flags.ascii then .ascii else .unicode

end Flags

/-- An item of a sequence.  What is a condition on places, or repeated already, cannot be
repeated. -/
inductive Item where
  | anchor (regex : Regex)
  | repetition (regex : Regex)
  | other (regex : Regex)
  deriving DecidableEq, Repr

def Item.regex : Item → Regex
  | anchor regex | repetition regex | other regex => regex

/-- What the parts of an open bracket become when it closes. -/
inductive Opening where
  | whole
  | plain
  | capture (number : Nat)
  | atomic
  | lookahead (positive : Bool)
  | lookbehind (positive outermost : Bool)
  | conditional (number : Nat) (byName : Bool) (present : Option Regex)
  deriving DecidableEq, Repr

/-- An open bracket: how many characters are left from where it opens, the flags inside, the
choices that are complete, and the items of the one under way.  Both lists have the last first. -/
structure Frame where
  opening : Opening
  start : Nat
  flags : Flags
  choices : List Regex
  items : List Item
  deriving DecidableEq, Repr

namespace Frame

def opened (opening : Opening) (start : Nat) (flags : Flags) : Frame :=
  ⟨opening, start, flags, [], []⟩

def sequence (frame : Frame) : Regex :=
  concat (frame.items.reverse.map (·.regex))

def body (frame : Frame) : Regex :=
  anyOf (frame.sequence :: frame.choices).reverse

def push (frame : Frame) (item : Item) : Frame :=
  { frame with items := item :: frame.items }

def split (frame : Frame) : Frame :=
  match frame.opening with
  | .conditional number byName _ =>
      { frame with opening := .conditional number byName (some frame.sequence), items := [] }
  | _ => { frame with choices := frame.sequence :: frame.choices, items := [] }

end Frame

/-- The capturing groups so far: their number, the names of those that have one, the widths of the
closed ones, the number of groups before the outermost open look-behind, and the groups on whose
presence something depends, with the distance of the mention from the end. -/
structure Groups where
  count : Nat
  names : List (String × Nat)
  widths : List (Nat × Width)
  beforeLookbehind : Option Nat
  mentioned : List (Nat × Nat)
  deriving DecidableEq, Repr

namespace Groups

def none : Groups := ⟨0, [], [], Option.none, []⟩

def isClosed (groups : Groups) (number : Nat) : Bool :=
  (groups.widths.lookup number).isSome

/-- A look-behind refers only to groups that are closed before it opens. -/
def checkLookbehind (groups : Groups) (number : Nat) : Reader Unit :=
  match groups.beforeLookbehind with
  | Option.none => Reader.pure ()
  | some limit =>
      if !groups.isClosed number then Reader.fail .openGroup 0
      else if limit < number then Reader.fail .groupInSameLookbehind 0
      else Reader.pure ()

def close (groups : Groups) (frame : Frame) : Groups :=
  match frame.opening with
  | .capture number =>
      { groups with widths := (number, frame.body.width groups.widths) :: groups.widths }
  | .lookbehind _ true => { groups with beforeLookbehind := Option.none }
  | _ => groups

end Groups

namespace Frame

def item (frame : Frame) (groups : Groups) : Item :=
  .other <|
    match frame.opening with
    | .whole | .plain => frame.body
    | .capture number => .group number frame.body
    | .atomic => .atomic frame.body
    | .lookahead positive => .lookahead positive frame.body
    | .lookbehind positive _ =>
        .lookbehind positive ((frame.body.width groups.widths).fixed?.getD 0) frame.body
    | .conditional number byName (some present) =>
        .conditional number byName present frame.sequence
    | .conditional number byName none => .conditional number byName frame.sequence .empty

def isVariableLookbehind (frame : Frame) (groups : Groups) : Bool :=
  match frame.opening with
  | .lookbehind .. => (frame.body.width groups.widths).fixed?.isNone
  | _ => false

end Frame

/-- What has been read: the groups, the innermost open bracket, those around it, the letters of the
flags set for the whole text, and whether a look-behind of variable width was met. -/
structure Progress where
  groups : Groups
  frame : Frame
  outer : List Frame
  wholeFlags : List Char
  variableLookbehind : Bool
  deriving DecidableEq, Repr

namespace Progress

/-- The start of a text of `size` characters. -/
def start (size : Nat) : Progress :=
  ⟨.none, .opened .whole size .none, [], [], false⟩

def push (progress : Progress) (item : Item) : Progress :=
  { progress with frame := progress.frame.push item }

def pushSet (progress : Progress) (negated : Bool) (items : List ClassItem) : Progress :=
  progress.push (.other (.oneOf ⟨negated, items, progress.frame.flags.caseRule⟩))

def pushCode (progress : Progress) (code : Nat) : Progress :=
  progress.pushSet false [.single code]

def enter (progress : Progress) (opening : Opening) (start : Nat) (flags : Flags) : Progress :=
  { progress with
    frame := .opened opening start flags
    outer := progress.frame :: progress.outer }

def pushReference (progress : Progress) (number : Nat) (byName : Bool) : Progress :=
  progress.push (.other (.reference number byName progress.frame.flags.caseRule))

/-- Adds an escape; `size` is the length of a group number as written. -/
def pushEscape (progress : Progress) (escape : Escape) : Reader Progress := do
  let ascii := progress.frame.flags.ascii
  match escape with
  | .code code => return progress.pushCode code
  | .shorthand kind negated => return progress.pushSet false [.shorthand kind negated ascii]
  | .textStart => return progress.push (.anchor (.anchor .textStart))
  | .textEnd => return progress.push (.anchor (.anchor .textEnd))
  | .wordEdge => return progress.push (.anchor (.anchor (.wordEdge ascii)))
  | .notWordEdge => return progress.push (.anchor (.anchor (.notWordEdge ascii)))
  | .reference number =>
      let size := (Nat.toDigits 10 number).length
      if progress.groups.count < number then
        Reader.fail (.noSuchGroup number) size
      else if !progress.groups.isClosed number then
        Reader.fail .openGroup (size + 1)
      else
        progress.groups.checkLookbehind number
        return progress.pushReference number false

/-- Adds `^` or `$`. -/
def pushLineAnchor (progress : Progress) (single multi : Anchor) : Progress :=
  progress.push (.anchor (.anchor (if progress.frame.flags.multiline then multi else single)))

def close (progress : Progress) (frame : Frame) (outer : List Frame) : Progress :=
  let inner := progress.frame
  let groups := progress.groups
  { progress with
    groups := groups.close inner
    frame := frame.push (inner.item groups)
    outer := outer
    variableLookbehind := progress.variableLookbehind || inner.isVariableLookbehind groups }

/-- A vertical bar: the choice under way is complete. -/
def split (progress : Progress) : Progress := { progress with frame := progress.frame.split }

end Progress

end UrlRouting.Regex
