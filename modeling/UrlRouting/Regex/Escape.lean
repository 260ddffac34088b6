import UrlRouting.Regex.Token
import UrlRouting.Regex.Syntax
import UrlRouting.Text.Digits

/-!
Escapes: a backslash and a character, inside and outside of a character class.
-/

namespace UrlRouting.Regex

/-- What an escape outside of a character class stands for. -/
inductive Escape where
  | code (code : Nat)
  | shorthand (kind : Shorthand) (negated : Bool)
  | textStart
  | textEnd
  | wordEdge
  | notWordEdge
  | reference (number : Nat)
  deriving DecidableEq, Repr

namespace Escape

def isOctalDigit (char : Char) : Bool := '0' ≤ char && char ≤ '7'

def control? : Char → Option Nat
  | 'a' => some 7
  | 'b' => some 8
  | 'f' => some 12
  | 'n' => some 10
  | 'r' => some 13
  | 't' => some 9
  | 'v' => some 11
  | '\\' => some 92
  | _ => none

/-- Letters that stand for a class of characters, the capital ones for all others. -/
def shorthand? : Char → Option (Shorthand × Bool)
  | 'd' => some (.digit, false)
  | 'D' => some (.digit, true)
  | 's' => some (.blank, false)
  | 'S' => some (.blank, true)
  | 'w' => some (.word, false)
  | 'W' => some (.word, true)
  | _ => none

def written (char : Char) (more : List Char) : String :=
  String.ofList ('\\' :: char :: more)

/-- An escape of exactly `count` hexadecimal digits. -/
def hexCode (char : Char) (count : Nat) : Reader Nat := do
  let digits ← Reader.takeUpTo (fun char => (Text.hexValue? char).isSome) count
  if digits.length ≠ count then
    Reader.fail (.incompleteEscape (written char digits)) (digits.length + 2)
  else if 0x80000000 ≤ Text.numberOf 16 digits then
    Reader.failNowhere .codeTooLarge
  else if 0x10ffff < Text.numberOf 16 digits then
    Reader.fail (.badEscape (written char digits)) (digits.length + 2)
  else
    return Text.numberOf 16 digits

def namedCode : Reader Nat := do
  if ← Reader.accept '\x7b' then
    let name ← Reader.name '\x7d' "character name"
    Reader.fail (.unknownCharacterName name) (name.length + 4)
  else
    Reader.fail .missingBrace 0

/-- An octal escape whose digits have been read. -/
def octalCode (digits : List Char) : Reader Nat :=
  if 0o377 < Text.numberOf 8 digits then
    Reader.fail (.octalTooLarge (String.ofList ('\\' :: digits))) (digits.length + 1)
  else
    Reader.pure (Text.numberOf 8 digits)

/-- A character that stands for itself after a backslash: any but an ASCII letter. -/
def literalCode (char : Char) : Reader Nat :=
  if char.isAlpha then Reader.fail (.badEscape (written char [])) 2 else Reader.pure char.toNat

/-- The escapes that name a code point by digits or by name, or mean the character itself. -/
def otherCode (char : Char) : Reader Nat :=
  match char with
  | 'x' => hexCode 'x' 2
  | 'u' => hexCode 'u' 4
  | 'U' => hexCode 'U' 8
  | 'N' => namedCode
  | _ => literalCode char

def inClass (ascii : Bool) (char : Char) : Reader ClassItem := do
  match control? char, shorthand? char with
  | some control, _ => return .single control
  | _, some (kind, negated) => return .shorthand kind negated ascii
  | _, _ =>
      if isOctalDigit char then
        let digits ← Reader.takeUpTo isOctalDigit 2
        return .single (← octalCode (char :: digits))
      else if char.isDigit then
        Reader.fail (.badEscape (written char [])) 2
      else
        return .single (← otherCode char)

/-- An escape of one digit or more from `1` up: three octal digits name a character, all else
refers to a group. -/
def digitEscape (first : Char) : Reader Escape := do
  match ← Reader.takeUpTo Char.isDigit 1 with
  | second :: _ =>
      if isOctalDigit first && isOctalDigit second then
        match ← Reader.takeUpTo isOctalDigit 1 with
        | third :: _ => return .code (← octalCode [first, second, third])
        | [] => return .reference (Text.numberOf 10 [first, second])
      else
        return .reference (Text.numberOf 10 [first, second])
  | [] => return .reference (Text.numberOf 10 [first])

def inExpression (char : Char) : Reader Escape := do
  match char with
  | 'A' => return .textStart
  | 'Z' => return .textEnd
  | 'b' => return .wordEdge
  | 'B' => return .notWordEdge
  | _ =>
      match shorthand? char, control? char with
      | some (kind, negated), _ => return .shorthand kind negated
      | _, some control => return .code control
      | _, _ =>
          if char == '0' then
            let digits ← Reader.takeUpTo isOctalDigit 2
            return .code (Text.numberOf 8 digits)
          else if char.isDigit then
            digitEscape char
          else
            return .code (← otherCode char)

end Escape

end UrlRouting.Regex
