import UrlRouting.Descent
import UrlRouting.Reading
import UrlRouting.Yaml.Cursor

/-!
Texts of scalars: in quotes, plain, and in blocks of lines.  Line ends inside a scalar are folded: a
single one becomes a space, of several the first is dropped.
-/

namespace UrlRouting.Yaml

/-- What was read, last character first, and the place behind it. -/
structure Reading where
  text : List Char
  cursor : Cursor

namespace Reading

def add (reading : Reading) (chars : List Char) (cursor : Cursor) : Reading :=
  ⟨chars.reverse ++ reading.text, cursor⟩

def result (reading : Reading) : String := String.ofList reading.text.reverse

def size (reading : Reading) : Nat := reading.cursor.size

end Reading

def folded (lineEnd : Char) (more : List Char) : List Char :=
  if lineEnd != '\n' then lineEnd :: more
  else if more.isEmpty then [' '] else more

/-! ### Scalars in quotes -/

/-- One line end of several, in quotes, with the blanks before it.  A mark between documents must
not stand at the start of a line. -/
def quotedBreakStep (reading : Reading) : Except ReadingFault (Step Reading Reading) :=
  if reading.cursor.isAtDocumentMark then .error illFormed
  else
    let cursor := reading.cursor.skipWhile isBlank
    match cursor.lineEnd? with
    | some (char, following) => .ok (.next (reading.add [char] following))
    | none => .ok (.done ⟨reading.text, cursor⟩)

/-- The line ends behind a line end in quotes, and the place behind them and behind blanks. -/
def quotedBreaks (cursor : Cursor) : Except ReadingFault (List Char × Cursor) := do
  let reading ← descend Reading.size illFormed quotedBreakStep ⟨[], cursor⟩
  return (reading.text.reverse, reading.cursor)

def quotedSpaces (reading : Reading) : Except ReadingFault Reading := do
  let blanks := reading.cursor.rest.takeWhile isBlank
  let cursor := reading.cursor.skip blanks.length
  match cursor.lineEnd? with
  | some (char, following) =>
      let (more, cursor) ← quotedBreaks following
      return reading.add (folded char more) cursor
  | none => return reading.add blanks cursor

def escaped? (char : Char) : Option Char :=
  match char with
  | '0' => some '\x00'
  | 'a' => some '\x07'
  | 'b' => some '\x08'
  | 't' => some '\t'
  | '\t' => some '\t'
  | 'n' => some '\n'
  | 'v' => some '\x0b'
  | 'f' => some '\x0c'
  | 'r' => some '\r'
  | 'e' => some '\x1b'
  | ' ' => some ' '
  | '"' => some '"'
  | '\\' => some '\\'
  | '/' => some '/'
  | 'N' => some '\x85'
  | '_' => some '\u00a0'
  | 'L' => some '\u2028'
  | 'P' => some '\u2029'
  | _ => none

def codeLength? (char : Char) : Option Nat :=
  match char with
  | 'x' => some 2
  | 'u' => some 4
  | 'U' => some 8
  | _ => none

/-- The character of a code; a code that is no character is replaced, one that is too large is
refused. -/
def charOfCode (code : Nat) : Except ReadingFault Char :=
  if 0x10ffff < code then .error (.scalar (.codeTooLarge code))
  else .ok (if code.isValidChar then Char.ofNat code else '\ufffd')

/-- The character of exactly `count` hexadecimal digits. -/
def readCode (count : Nat) (chars : List Char) : Except ReadingFault Char :=
  match Text.hexNumber? count chars with
  | some code => charOfCode code
  | none => .error illFormed

def readEscape (reading : Reading) : Except ReadingFault Reading := do
  let cursor := reading.cursor.next
  match cursor.peek? with
  | none => throw illFormed
  | some char =>
      match escaped? char, codeLength? char, cursor.lineEnd? with
      | some meant, _, _ => return reading.add [meant] cursor.next
      | none, some count, _ =>
          let meant ← readCode count cursor.next.rest
          return reading.add [meant] (cursor.next.skip count)
      | none, none, some (_, following) =>
          let (more, cursor) ← quotedBreaks following
          return reading.add more cursor
      | none, none, none => throw illFormed

def quotedStep (quote : Char) (reading : Reading) : Except ReadingFault (Step Reading Reading) :=
  let cursor := reading.cursor
  match cursor.peek? with
  | none => .error illFormed
  | some char =>
      if char == quote then
        if quote == '\'' && cursor.peekAt? 1 == some '\'' then
          .ok (.next (reading.add ['\''] (cursor.skip 2)))
        else .ok (.done ⟨reading.text, cursor.next⟩)
      else if char == '\\' && quote == '"' then (readEscape reading).map .next
      else if isBlank char || isBreak char then (quotedSpaces reading).map .next
      else .ok (.next (reading.add [char] cursor.next))

def readQuoted (quote : Char) (cursor : Cursor) : Except ReadingFault (String × Cursor) := do
  let reading ← descend Reading.size illFormed (quotedStep quote) ⟨[], cursor.next⟩
  return (reading.result, reading.cursor)

/-! ### Plain scalars -/

/-- The number of characters of a plain scalar up to a blank or to a sign that ends it: a colon
before a blank, and between brackets also some other signs. -/
def plainLength (inFlow : Bool) : List Char → Nat
  | [] => 0
  | char :: rest =>
      let isSeparator := fun other => inFlow && [',', '[', ']', '\x7b', '\x7d'].contains other
      if isBlank char || isBreak char || isSeparator char || (inFlow && char == '?') then 0
      else if char == ':' && (endsMark rest.head? || rest.head?.any isSeparator) then 0
      else plainLength inFlow rest + 1

/-- One line end of several behind a part of a plain scalar, or a space between them.  Nothing comes
of it where a mark between documents stands. -/
def plainBreakStep (reading : Reading) : Except ReadingFault (Step Reading (Option Reading)) :=
  if reading.cursor.column == 0 && reading.cursor.isAtDocumentMark then .ok (.done none)
  else
    match reading.cursor.lineEnd? with
    | some (char, following) => .ok (.next (reading.add [char] following))
    | none =>
        if reading.cursor.peek? == some ' ' then
          .ok (.next ⟨reading.text, reading.cursor.skipSpaces⟩)
        else .ok (.done (some reading))

/-- What stands behind a part of a plain scalar. -/
structure PlainGap where
  /-- The characters that stand for the gap if another part follows; none if none can follow. -/
  text : List Char
  hasBreak : Bool
  cursor : Cursor

def plainGap (cursor : Cursor) : Except ReadingFault PlainGap := do
  let spaces := cursor.rest.takeWhile (· == ' ')
  let behind := cursor.skip spaces.length
  match behind.lineEnd? with
  | none => return ⟨spaces, false, behind⟩
  | some (char, following) =>
      match ← descend Reading.size illFormed plainBreakStep ⟨[], following⟩ with
      | none => return ⟨[], true, following⟩
      | some reading => return ⟨folded char reading.text.reverse, true, reading.cursor⟩

/-- A plain scalar while it is read: the text with the gap behind it, and whether the last gap has a
line end. -/
structure PlainReading where
  reading : Reading
  gap : List Char
  hasBreak : Bool

/-- One part of a plain scalar.  Between brackets indentation does not count. -/
def plainStep (inFlow : Bool) (leastColumn : Nat) (state : PlainReading) :
    Except ReadingFault (Step PlainReading PlainReading) := do
  let cursor := state.reading.cursor
  let length := plainLength inFlow cursor.rest
  if cursor.peek? == some '#' || length == 0 then return .done state
  else
    let part := cursor.rest.take length
    let gap ← plainGap (cursor.skip length)
    let text := part.reverse ++ state.gap.reverse ++ state.reading.text
    let following : PlainReading := ⟨⟨text, gap.cursor⟩, gap.text, gap.hasBreak⟩
    let isOver := gap.text.isEmpty || gap.cursor.peek? == some '#' ||
      (!inFlow && gap.cursor.column < leastColumn)
    return if isOver then .done following else .next following

/-- A plain scalar, and whether a line end stands between it and the place behind it. -/
def readPlain (inFlow : Bool) (leastColumn : Nat) (cursor : Cursor) :
    Except ReadingFault (String × Bool × Cursor) := do
  let state ← descend (fun state => state.reading.size) illFormed (plainStep inFlow leastColumn)
    ⟨⟨[], cursor⟩, [], false⟩
  return (state.reading.result, state.hasBreak, state.reading.cursor)

/-! ### Scalars in blocks -/

/-- What becomes of the line ends at the end of a block: the last one of the text is kept, all are
kept, or none. -/
inductive Chomping where
  | clip
  | keep
  | strip
  deriving DecidableEq, Repr

def chomping? (char? : Option Char) : Option Chomping :=
  match char? with
  | some '+' => some .keep
  | some '-' => some .strip
  | _ => none

/-- A digit that tells how far a block is indented.  It must not be zero. -/
def readIncrement (cursor : Cursor) : Except ReadingFault (Option Nat × Cursor) :=
  match cursor.peek? with
  | some char =>
      if char == '0' then .error illFormed
      else if char.isDigit then .ok (some (char.toNat - 48), cursor.next)
      else .ok (none, cursor)
  | none => .ok (none, cursor)

def readBlockHeader (cursor : Cursor) :
    Except ReadingFault (Chomping × Option Nat × Cursor) := do
  let (chomping, increment, cursor) ← match chomping? cursor.peek? with
    | some chomping => do
        let (increment, cursor) ← readIncrement cursor.next
        pure (chomping, increment, cursor)
    | none => do
        let (increment, cursor) ← readIncrement cursor
        match increment, chomping? cursor.peek? with
        | some _, some chomping => pure (chomping, increment, cursor.next)
        | _, _ => pure (.clip, increment, cursor)
  if endsWord cursor.peek? then
    match cursor.finishLine? with
    | some cursor => return (chomping, increment, cursor)
    | none => throw illFormed
  else throw illFormed

/-- One line end of several at the start of a block, or the spaces between them; the greatest column
that spaces reach is kept. -/
def blockStartStep (state : Reading × Nat) :
    Except ReadingFault (Step (Reading × Nat) (Reading × Nat)) :=
  let (reading, column) := state
  match reading.cursor.lineEnd? with
  | some (char, following) => .ok (.next (reading.add [char] following, column))
  | none =>
      if reading.cursor.peek? == some ' ' then
        let cursor := reading.cursor.skipSpaces
        .ok (.next (⟨reading.text, cursor⟩, max column cursor.column))
      else .ok (.done state)

def blockBreakStep (column : Nat) (reading : Reading) :
    Except ReadingFault (Step Reading Reading) :=
  let cursor := reading.cursor.skipIndent column
  match cursor.lineEnd? with
  | some (char, following) => .ok (.next (reading.add [char] following))
  | none => .ok (.done ⟨reading.text, cursor⟩)

/-- The line ends in a block of known column, and the place behind them and behind indentation. -/
def blockBreaks (column : Nat) (cursor : Cursor) : Except ReadingFault (List Char × Cursor) := do
  let reading ← descend Reading.size illFormed (blockBreakStep column) ⟨[], cursor⟩
  return (reading.text.reverse, reading.cursor)

/-- The column of a block, the line ends before its text, and the place behind them. -/
def blockStart (leastColumn : Nat) (increment : Option Nat) (cursor : Cursor) :
    Except ReadingFault (Nat × List Char × Cursor) := do
  match increment with
  | some increment =>
      let column := leastColumn + increment - 1
      let (breaks, cursor) ← blockBreaks column cursor
      return (column, breaks, cursor)
  | none =>
      let (reading, column) ← descend (fun state => state.1.size) illFormed blockStartStep
        (⟨[], cursor⟩, 0)
      return (max leastColumn column, reading.text.reverse, reading.cursor)

/-- A block while it is read: the text up to a line end, that line end, and those behind it. -/
structure BlockReading where
  reading : Reading
  lineEnd : List Char
  breaks : List Char

def isInBlock (column : Nat) (cursor : Cursor) : Bool :=
  cursor.column == column && !cursor.rest.isEmpty

/-- How the line end and the line ends behind it count between two lines of a block.  Only between
lines that do not start with a blank they are folded. -/
def blockGap (folding : Bool) (startsBlank nextStartsBlank : Bool) (lineEnd breaks : List Char) :
    List Char :=
  if folding && lineEnd == ['\n'] && !startsBlank && !nextStartsBlank then
    (if breaks.isEmpty then [' '] else []) ++ breaks
  else lineEnd ++ breaks

def blockStep (folding : Bool) (column : Nat) (state : BlockReading) :
    Except ReadingFault (Step BlockReading BlockReading) := do
  let cursor := state.reading.cursor
  if isInBlock column cursor then
    let line := cursor.rest.takeWhile (!isBreak ·)
    let behind := cursor.skip line.length
    let (lineEnd, following) := match behind.lineEnd? with
      | some (char, following) => ([char], following)
      | none => ([], behind)
    let (breaks, following) ← blockBreaks column following
    let withLine := line.reverse ++ state.reading.text
    if isInBlock column following then
      let gap := blockGap folding (line.head?.any isBlank) (following.peek?.any isBlank) lineEnd
        breaks
      return .next ⟨⟨gap.reverse ++ withLine, following⟩, [], []⟩
    else return .done ⟨⟨withLine, following⟩, lineEnd, breaks⟩
  else return .done state

def readBlock (folding : Bool) (leastColumn : Nat) (cursor : Cursor) :
    Except ReadingFault (String × Cursor) := do
  let (chomping, increment, cursor) ← readBlockHeader cursor.next
  let (column, breaks, cursor) ← blockStart leastColumn increment cursor
  let first : List Char := if isInBlock column cursor then breaks else []
  let state ← descend (fun state => state.reading.size) illFormed (blockStep folding column)
    ⟨⟨first.reverse, cursor⟩, [], if isInBlock column cursor then [] else breaks⟩
  let tail := match chomping with
    | .strip => []
    | .clip => state.lineEnd
    | .keep => state.lineEnd ++ state.breaks
  return (String.ofList (state.reading.text.reverse ++ tail), state.reading.cursor)

end UrlRouting.Yaml
