import UrlRouting.Text.Digits

/-!
Binary floating-point numbers of 64 bits as exact dyadic rationals: rounding a quotient to the
nearest number, reading decimal notation, and writing the fewest digits that read back.
-/

namespace UrlRouting

/-- A number `mantissa * 2 ^ exponent` of either sign, an infinity, or no number at all.  Numbers
are kept with `mantissa < 2 ^ 53`, and with `2 ^ 52 ≤ mantissa` unless `exponent` is `-1074`. -/
inductive Binary64 where
  | nan
  | infinite (negative : Bool)
  | finite (negative : Bool) (mantissa : Nat) (exponent : Int)
  deriving DecidableEq, Repr

namespace Binary64

/-- The quotient nearest to `num / den`; a tie goes to the even one. -/
def divideToNearest (num den : Nat) : Nat :=
  let quotient := num / den
  let twice := 2 * (num % den)
  if twice < den then quotient
  else if den < twice then quotient + 1
  else if quotient % 2 == 0 then quotient else quotient + 1

/-- Numerator and denominator of `num / den / 2 ^ exponent`. -/
def scaled (num den : Nat) (exponent : Int) : Nat × Nat :=
  if 0 ≤ exponent then (num, den * Nat.pow 2 exponent.toNat)
  else (num * Nat.pow 2 (-exponent).toNat, den)

/-- The number nearest to `num / den`, infinite from half a unit above the largest one. -/
def ofRatio (negative : Bool) (num den : Nat) : Binary64 :=
  if num == 0 then .finite negative 0 (-1074)
  else
    let guess : Int := (num.log2 : Int) - den.log2 - 52
    let (top, bottom) := scaled num den guess
    -- The quotient of the logarithms is off by one at most.
    let exponent := max (if top / bottom < Nat.pow 2 52 then guess - 1 else guess) (-1074)
    let (top, bottom) := scaled num den exponent
    let mantissa := divideToNearest top bottom
    let (mantissa, exponent) :=
      if mantissa == Nat.pow 2 53 then (Nat.pow 2 52, exponent + 1) else (mantissa, exponent)
    if 971 < exponent then .infinite negative else .finite negative mantissa exponent

/-- The number nearest to `digits * 10 ^ power`. -/
def ofDecimal (negative : Bool) (digits : Nat) (power : Int) : Binary64 :=
  let magnitude : Int := (Nat.toDigits 10 digits).length + power
  if digits == 0 || magnitude < -400 then .finite negative 0 (-1074)
  else if 400 < magnitude then .infinite negative
  else if 0 ≤ power then ofRatio negative (digits * Nat.pow 10 power.toNat) 1
  else ofRatio negative digits (Nat.pow 10 (-power).toNat)

def ofInt (n : Int) : Binary64 :=
  ofRatio (n < 0) n.natAbs 1

def isZero : Binary64 → Bool
  | .finite _ mantissa _ => mantissa == 0
  | _ => false

def toInt? : Binary64 → Option Int
  | .finite negative mantissa exponent =>
      let magnitude? : Option Nat :=
        if 0 ≤ exponent then some (mantissa * Nat.pow 2 exponent.toNat)
        else
          let divisor := Nat.pow 2 (-exponent).toNat
          if mantissa % divisor == 0 then some (mantissa / divisor) else none
      magnitude?.map fun magnitude => if negative then -(magnitude : Int) else magnitude
  | _ => none

/-- Equality of numbers: the two zeros are one number, and no number differs from every other. -/
def sameNumber : Binary64 → Binary64 → Bool
  | .nan, .nan => true
  | .infinite a, .infinite b => a == b
  | .finite a m e, .finite b n f => (m == 0 && n == 0) || (a == b && m == n && e == f)
  | _, _ => false

def negate : Binary64 → Binary64
  | .nan => .nan
  | .infinite negative => .infinite !negative
  | .finite negative mantissa exponent => .finite (!negative) mantissa exponent

def toRatio (negative : Bool) (mantissa : Nat) (exponent : Int) : Int × Nat :=
  let numerator : Nat := if 0 ≤ exponent then mantissa * Nat.pow 2 exponent.toNat else mantissa
  let denominator : Nat := if 0 ≤ exponent then 1 else Nat.pow 2 (-exponent).toNat
  (if negative then -(numerator : Int) else numerator, denominator)

def ofSignedRatio (num : Int) (den : Nat) : Binary64 :=
  ofRatio (num < 0) num.natAbs den

def add : Binary64 → Binary64 → Binary64
  | .nan, _ | _, .nan => .nan
  | .infinite a, .infinite b => if a == b then .infinite a else .nan
  | .infinite a, _ | _, .infinite a => .infinite a
  | .finite a m e, .finite b n f =>
      let (p, q) := toRatio a m e
      let (r, s) := toRatio b n f
      if m == 0 && n == 0 then .finite (a && b) 0 (-1074)
      else ofSignedRatio (p * s + r * q) (q * s)

def scale : Binary64 → Nat → Binary64
  | .finite negative mantissa exponent, factor =>
      let (num, den) := toRatio negative mantissa exponent
      ofRatio negative (num.natAbs * factor) den
  | other, _ => other

/-! ### Decimal text -/

structure Decimal where
  digits : Nat
  power : Int
  deriving DecidableEq, Repr

/-- The two decimals of `count` digits next to `num / den`, the lower one first.  `power` is such
that the quotient lies between `10 ^ (count - 1)` and `10 ^ count` times `10 ^ power`. -/
def neighbours (num den : Nat) (power : Int) : Decimal × Decimal × Ordering :=
  let (top, bottom) :=
    if 0 ≤ power then (num, den * Nat.pow 10 power.toNat)
    else (num * Nat.pow 10 (-power).toNat, den)
  let lower := top / bottom
  (⟨lower, power⟩, ⟨lower + 1, power⟩, compare (2 * (top % bottom)) bottom)

def onGrid? (target : Binary64) (num den : Nat) (power : Int) : Option Decimal :=
  let (lower, upper, side) := neighbours num den power
  let lowerReads := ofDecimal false lower.digits lower.power == target
  let upperReads := ofDecimal false upper.digits upper.power == target
  let lowerNearer := match side with
    | .lt => true
    | .gt => false
    | .eq => lower.digits % 2 == 0
  if lowerReads && (lowerNearer || !upperReads) then some lower
  else if upperReads then some upper
  else none

/-- The first of the grids with `count`, `count + 1`, … digits that holds a decimal which reads
back; the last one tried always does. -/
def shortestFrom (target : Binary64) (num den : Nat) (magnitude : Int) :
    (remaining : Nat) → (count : Nat) → Decimal
  | 0, count => (neighbours num den (magnitude - count)).1
  | remaining + 1, count =>
      match onGrid? target num den (magnitude - count) with
      | some decimal => decimal
      | none => shortestFrom target num den magnitude remaining (count + 1)

/-- The least `n` with `num / den < 10 ^ n`, searched upwards from `guess`. -/
def magnitudeFrom (num den : Nat) : (remaining : Nat) → (guess : Int) → Int
  | 0, guess => guess
  | remaining + 1, guess =>
      let below :=
        if 0 ≤ guess then num < den * Nat.pow 10 guess.toNat
        else num * Nat.pow 10 (-guess).toNat < den
      if below then guess else magnitudeFrom num den remaining (guess + 1)

/-- The shortest decimal that reads back as `mantissa * 2 ^ exponent`. -/
def shortest (mantissa : Nat) (exponent : Int) : Decimal :=
  let (num, den) := toRatio false mantissa exponent
  let num := num.natAbs
  -- The logarithm to base ten is about three tenths of that to base two.
  let guess := (((num.log2 : Int) - den.log2) * 3) / 10 - 2
  shortestFrom (.finite false mantissa exponent) num den (magnitudeFrom num den 120 guess) 17 1

def stripZeros : (fuel : Nat) → Nat → Int → Decimal
  | 0, digits, power => ⟨digits, power⟩
  | fuel + 1, digits, power =>
      if digits != 0 && digits % 10 == 0 then stripZeros fuel (digits / 10) (power + 1)
      else ⟨digits, power⟩

/-- A number whose point stands at or before `10 ^ 16` is written in positional notation with a
digit after the point, down to `0.0001`; all else has one digit before the point and a signed
exponent of two digits at least. -/
def decimalText (decimal : Decimal) : String :=
  let digits := Nat.toDigits 10 decimal.digits
  let count := digits.length
  let point : Int := count + decimal.power
  if -4 < point && point ≤ 16 then
    if point ≤ 0 then
      String.ofList ("0.".toList ++ List.replicate (-point).toNat '0' ++ digits)
    else if point.toNat < count then
      String.ofList (digits.take point.toNat ++ '.' :: digits.drop point.toNat)
    else
      String.ofList (digits ++ List.replicate (point.toNat - count) '0' ++ ['.', '0'])
  else
    let exponent := point - 1
    let exponentDigits := Nat.toDigits 10 exponent.natAbs
    let padded := if exponentDigits.length < 2 then '0' :: exponentDigits else exponentDigits
    let fraction := if count == 1 then [] else '.' :: digits.drop 1
    String.ofList
      (digits.take 1 ++ fraction ++ 'e' :: (if exponent < 0 then '-' else '+') :: padded)

def text : Binary64 → String
  | .nan => "nan"
  | .infinite negative => if negative then "-inf" else "inf"
  | .finite negative mantissa exponent =>
      let sign := if negative then "-" else ""
      if mantissa == 0 then sign ++ "0.0"
      else
        let decimal := shortest mantissa exponent
        sign ++ decimalText (stripZeros 20 decimal.digits decimal.power)

def readExponent? : List Char → Option Int
  | [] => some 0
  | mark :: rest =>
      if mark == 'e' || mark == 'E' then
        let (negative, digits) := match rest with
          | '-' :: digits => (true, digits)
          | '+' :: digits => (false, digits)
          | digits => (false, digits)
        if digits.isEmpty || !digits.all Char.isDigit then none
        else
          let value : Int := Text.numberOf 10 digits
          some (if negative then -value else value)
      else none

/-- Reads digits with an optional fraction and an optional exponent; a digit must stand on one
side of the point. -/
def readUnsigned? (negative : Bool) (chars : List Char) : Option Binary64 :=
  let whole := chars.takeWhile Char.isDigit
  let rest := chars.dropWhile Char.isDigit
  let (fraction, rest) := match rest with
    | '.' :: rest => (rest.takeWhile Char.isDigit, rest.dropWhile Char.isDigit)
    | rest => ([], rest)
  if whole.isEmpty && fraction.isEmpty then none
  else (readExponent? rest).map fun exponent =>
    ofDecimal negative (Text.numberOf 10 (whole ++ fraction)) (exponent - fraction.length)

/-- Reads a number in decimal notation, or one of the words for what is no finite number. -/
def read? (text : String) : Option Binary64 :=
  let (negative, chars) := match text.toList with
    | '-' :: rest => (true, rest)
    | '+' :: rest => (false, rest)
    | chars => (false, chars)
  if chars == "inf".toList then some (.infinite negative)
  else if chars == "nan".toList then some .nan
  else readUnsigned? negative chars

end Binary64

end UrlRouting
