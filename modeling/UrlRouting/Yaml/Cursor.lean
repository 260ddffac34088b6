/-!
Places in YAML texts, and the classes of characters that count there.  The end of a text counts as
a blank and as a line end.
-/

namespace UrlRouting.Yaml

def isBreak (char : Char) : Bool :=
  char == '\n' || char == '\x85' || char == '\u2028' || char == '\u2029'

def isBlank (char : Char) : Bool := char == ' ' || char == '\t'

def isNameChar (char : Char) : Bool := char.isAlphanum || char == '-' || char == '_'

def isPrintable (char : Char) : Bool :=
  let code := char.toNat
  char == '\t' || char == '\n' || char == '\r' || (0x20 ≤ code && code < 0x7f) || code == 0x85 ||
    (0xa0 ≤ code && code != 0xfffe && code != 0xffff)

def endsWord (char? : Option Char) : Bool := char?.all fun char => char == ' ' || isBreak char

def endsMark (char? : Option Char) : Bool := char?.all fun char => isBlank char || isBreak char

/-- A place in a text: the characters from there on, and the numbers of characters, of lines, and of
characters in the line before it. -/
structure Cursor where
  rest : List Char
  index : Nat
  line : Nat
  column : Nat
  deriving Repr

namespace Cursor

def start (chars : List Char) : Cursor := ⟨chars, 0, 0, 0⟩

def peek? (cursor : Cursor) : Option Char := cursor.rest.head?

/-- The character `distance` characters further on. -/
def peekAt? (cursor : Cursor) (distance : Nat) : Option Char := cursor.rest[distance]?

def next (cursor : Cursor) : Cursor :=
  match cursor.rest with
  | [] => cursor
  | char :: rest =>
      if isBreak char then ⟨rest, cursor.index + 1, cursor.line + 1, 0⟩
      else
        let width := if char == '\ufeff' then 0 else 1
        ⟨rest, cursor.index + 1, cursor.line, cursor.column + width⟩

def skip : Nat → Cursor → Cursor
  | 0, cursor => cursor
  | count + 1, cursor => skip count cursor.next

def skipWhile (test : Char → Bool) (cursor : Cursor) : Cursor :=
  cursor.skip (cursor.rest.takeWhile test).length

def skipSpaces (cursor : Cursor) : Cursor := cursor.skipWhile (· == ' ')

def skipIndent (column : Nat) (cursor : Cursor) : Cursor :=
  let spaces := (cursor.rest.takeWhile (· == ' ')).length
  cursor.skip (min spaces (column - cursor.column))

def skipLine (cursor : Cursor) : Cursor := cursor.skipWhile (!isBreak ·)

def skipComment (cursor : Cursor) : Cursor :=
  if cursor.peek? == some '#' then cursor.skipLine else cursor

def lineEnd? (cursor : Cursor) : Option (Char × Cursor) :=
  match cursor.peek? with
  | some char =>
      if isBreak char then some (if char == '\x85' then '\n' else char, cursor.next) else none
  | none => none

/-- The place behind the rest of a line on which nothing stands but a comment. -/
def finishLine? (cursor : Cursor) : Option Cursor :=
  let behind := cursor.skipSpaces.skipComment
  match behind.lineEnd? with
  | some (_, following) => some following
  | none => if behind.rest.isEmpty then some behind else none

def isAtMark (mark : Char) (cursor : Cursor) : Bool :=
  cursor.rest.take 3 == [mark, mark, mark] && endsMark (cursor.peekAt? 3)

/-- Whether a mark between documents stands here, if this is the start of a line. -/
def isAtDocumentMark (cursor : Cursor) : Bool := cursor.isAtMark '-' || cursor.isAtMark '.'

def size (cursor : Cursor) : Nat := cursor.rest.length

end Cursor

end UrlRouting.Yaml
