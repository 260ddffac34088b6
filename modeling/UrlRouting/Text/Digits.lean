/-!
Digits and the numbers that they denote: to the base sixteen, and to the bases below it.
-/

namespace UrlRouting.Text

/-- The digit of a number below 16, in lower case. -/
def hexDigit (n : Nat) : Char :=
  if n < 10 then Char.ofNat (48 + n) else Char.ofNat (87 + n)

/-- The lowest `width` hexadecimal digits of `n`, highest first. -/
def hexDigits : (width : Nat) → (n : Nat) → List Char
  | 0, _ => []
  | width + 1, n => hexDigits width (n / 16) ++ [hexDigit (n % 16)]

def hexValue? (char : Char) : Option Nat :=
  if char.isDigit then some (char.toNat - 48)
  else if 'a' ≤ char && char ≤ 'f' then some (char.toNat - 87)
  else if 'A' ≤ char && char ≤ 'F' then some (char.toNat - 55)
  else none

def ofDigits (base : Nat) (values : List Nat) : Nat :=
  values.foldl (fun number value => number * base + value) 0

/-- The number that written digits denote to a base; other characters do not count. -/
def numberOf (base : Nat) (digits : List Char) : Nat :=
  ofDigits base (digits.filterMap hexValue?)

/-- The number of exactly `count` digits at the front. -/
def hexNumber? (count : Nat) (chars : List Char) : Option Nat := do
  let values ← (chars.take count).mapM hexValue?
  if values.length == count then return ofDigits 16 values else none

end UrlRouting.Text
