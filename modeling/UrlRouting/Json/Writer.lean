import UrlRouting.Json.Reader

/-!
Writing of values as JSON texts in ASCII, two blanks deeper inside each bracket.
-/

namespace UrlRouting.Json

/-- A 16-bit number as an escape. -/
def codeEscape (code : Nat) : List Char := '\\' :: 'u' :: Text.hexDigits 4 code

/-- One character inside quotes: visible ASCII as it is, quotes and backslashes behind a backslash,
and all else as an escape, in two halves if it is beyond the first 65536. -/
def writeChar (char : Char) : List Char :=
  match char with
  | '"' => ['\\', '"']
  | '\\' => ['\\', '\\']
  | '\n' => ['\\', 'n']
  | '\r' => ['\\', 'r']
  | '\t' => ['\\', 't']
  | '\x08' => ['\\', 'b']
  | '\x0c' => ['\\', 'f']
  | char =>
      let code := char.toNat
      if 32 ≤ code && code < 127 then [char]
      else if code < 0x10000 then codeEscape code
      else
        let above := code - 0x10000
        codeEscape (0xd800 + above / 1024) ++ codeEscape (0xdc00 + above % 1024)

def writeText (text : String) : List Char :=
  '"' :: text.toList.flatMap writeChar ++ ['"']

def writeInt (n : Int) : List Char :=
  if n < 0 then '-' :: Nat.toDigits 10 n.natAbs else Nat.toDigits 10 n.natAbs

/-- A number that may have a fraction, with words for what is no finite number. -/
def writeFloat (x : Binary64) : List Char :=
  match x with
  | .nan => "NaN".toList
  | .infinite negative => if negative then "-Infinity".toList else "Infinity".toList
  | x => x.text.toList

def nameOf? : Value → Option String
  | .text name => some name
  | .null => some "null"
  | .bool value => some (if value then "true" else "false")
  | .int n => some (String.ofList (writeInt n))
  | .float x => some (String.ofList (writeFloat x))
  | _ => none

/-- What keeps a value from being written: a key that is no name, or an integer with too many
digits. -/
inductive Obstacle where
  | namelessKey (kind : String)
  | tooManyDigits
  deriving DecidableEq, Repr

def keyObstacle? : Value → Option Obstacle
  | .int n => if (Value.int n).hasText then none else some .tooManyDigits
  | key => if (nameOf? key).isNone then some (.namelessKey key.kindName) else none

mutual

/-- The first obstacle in a value, in the order of writing. -/
def obstacle? : Value → Option Obstacle
  | .int n => if (Value.int n).hasText then none else some .tooManyDigits
  | .list items | .tuple items => obstacleIn? items
  | .map entries => obstacleAmong? entries
  | _ => none

def obstacleIn? : List Value → Option Obstacle
  | [] => none
  | item :: rest => (obstacle? item).or (obstacleIn? rest)

def obstacleAmong? : List (Value × Value) → Option Obstacle
  | [] => none
  | (key, value) :: rest =>
      ((keyObstacle? key).or (obstacle? value)).or (obstacleAmong? rest)

end

def newLine (depth : Nat) : List Char := '\n' :: List.replicate (2 * depth) ' '

def enclose (opening closing : Char) (depth : Nat) (parts : List (List Char)) : List Char :=
  if parts.isEmpty then [opening, closing]
  else
    opening :: newLine (depth + 1) ++ (',' :: newLine (depth + 1)).intercalate parts ++
      newLine depth ++ [closing]

mutual

/-- A value that stands inside `depth` brackets.  What JSON has no notation for stands as its
text. -/
def write (depth : Nat) : Value → List Char
  | .null => "null".toList
  | .bool value => if value then "true".toList else "false".toList
  | .int n => writeInt n
  | .float x => writeFloat x
  | .list items | .tuple items => enclose '[' ']' depth (writeItems (depth + 1) items)
  | .map entries => enclose '\x7b' '\x7d' depth (writeEntries (depth + 1) entries)
  | value => writeText value.toText

def writeItems (depth : Nat) : List Value → List (List Char)
  | [] => []
  | item :: rest => write depth item :: writeItems depth rest

def writeEntries (depth : Nat) : List (Value × Value) → List (List Char)
  | [] => []
  | (key, value) :: rest =>
      (writeText ((nameOf? key).getD key.toText) ++ ':' :: ' ' :: write depth value) ::
        writeEntries depth rest

end

end UrlRouting.Json
