import UrlRouting.Reading

/-!
What can be wrong with a JSON text, and how it is reported: by line, column and character.
-/

namespace UrlRouting.Json

inductive Mistake where
  | byteOrderMark
  | noValue
  | extraData
  | noName
  | noColon
  | noComma
  | controlCharacter
  | unterminatedText
  | unknownEscape
  | incompleteEscape
  deriving DecidableEq, Repr

def Mistake.text : Mistake → String
  | byteOrderMark => "Unexpected UTF-8 BOM (decode using utf-8-sig)"
  | noValue => "Expecting value"
  | extraData => "Extra data"
  | noName => "Expecting property name enclosed in double quotes"
  | noColon => "Expecting ':' delimiter"
  | noComma => "Expecting ',' delimiter"
  | controlCharacter => "Invalid control character at"
  | unterminatedText => "Unterminated string starting at"
  | unknownEscape => "Invalid \\escape"
  | incompleteEscape => "Invalid \\uXXXX escape"

/-- What stops a reader: a mistake with the number of characters from its place to the end of the
text, or an integer that is too long. -/
inductive Fault where
  | form (mistake : Mistake) (remaining : Nat)
  | scalar (fault : ScalarFault)
  deriving DecidableEq, Repr

/-- A place in a text.  Lines and columns count from one, characters from zero. -/
def place (chars : List Char) (remaining : Nat) : String :=
  let before := chars.take (chars.length - remaining)
  let line := before.count '\n' + 1
  let column := (before.reverse.takeWhile (· != '\n')).length + 1
  s!"line {line} column {column} (char {before.length})"

def Fault.report (chars : List Char) : Fault → ReadingFault
  | .form mistake remaining => .malformed (some s!"{mistake.text}: {place chars remaining}")
  | .scalar fault => .scalar fault

end UrlRouting.Json
