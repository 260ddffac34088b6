import UrlRouting.Text.Category

/-!
Integers in running text: digits of any script, with blanks around and underscores in between.
-/

namespace UrlRouting.Text

/-- The first code point of the run of equal category around `code`. -/
def runStart (code : Nat) : Nat :=
  categoryRuns.foldl (fun start run => if run.1 ≤ code then run.1 else start) 0

/-- Decimal digits of every script as those from `0` to `9`; other characters stay.  A run of
digits begins with a zero, and the values repeat after ten. -/
def asciiDigit (char : Char) : Char :=
  if isDecimalDigit char then Char.ofNat (48 + (char.toNat - runStart char.toNat) % 10) else char

/-- A text without blanks on either side. -/
def trimmed (chars : List Char) : List Char :=
  ((chars.dropWhile isBlank).reverse.dropWhile isBlank).reverse

def spacedDigits? : List Char → Option (List Char)
  | [] => none
  | [digit] => if digit.isDigit then some [digit] else none
  | digit :: '_' :: rest => if digit.isDigit then (spacedDigits? rest).map (digit :: ·) else none
  | digit :: rest => if digit.isDigit then (spacedDigits? rest).map (digit :: ·) else none

/-- The digits of an integer that is not below zero, which may have a sign. -/
def naturalDigits? (text : String) : Option (List Char) :=
  match (trimmed text.toList).map asciiDigit with
  | '+' :: rest => spacedDigits? rest
  | '-' :: rest => (spacedDigits? rest).filter fun digits => digits.all (· == '0')
  | chars => spacedDigits? chars

end UrlRouting.Text
