import UrlRouting.Text.Casing
import UrlRouting.Text.Numeral
import UrlRouting.Yaml.Cursor
import UrlRouting.Yaml.Tag

/-!
The values of scalars, by their tags and texts.
-/

namespace UrlRouting.Yaml

/-! ### Numbers -/

def digitValue? (base : Nat) (char : Char) : Option Nat :=
  (Text.hexValue? char).filter (· < base)

def baseLetter? (base : Nat) : Option Char :=
  match base with
  | 2 => some 'b'
  | 8 => some 'o'
  | 16 => some 'x'
  | _ => none

def skipBase (base : Nat) (chars : List Char) : List Char :=
  match chars with
  | '0' :: letter :: rest => if (baseLetter? base).any (· == letter.toLower) then rest else chars
  | chars => chars

def integerOf (base : Nat) (chars : List Char) : Except ScalarFault Int :=
  let inner := (Text.trimmed chars).map Text.asciiDigit
  let negative := inner.head? == some '-'
  let digits := skipBase base (skipSign inner)
  match digits.isEmpty, digits.mapM (digitValue? base) with
  | false, some values =>
      if base == 10 then integerOfDigits negative digits
      else
        let size : Int := (Text.ofDigits base values : Nat)
        .ok (if negative then -size else size)
  | _, _ => .error (.notInteger base (String.ofList chars))

def fractionOf (chars : List Char) : Except ScalarFault Binary64 :=
  let inner := (Text.trimmed chars).map Text.asciiDigit
  if skipSign inner == "infinity".toList then .ok (.infinite (inner.head? == some '-'))
  else
    match Binary64.read? (String.ofList inner) with
    | some number => .ok number
    | none => .error (.notNumber (String.ofList chars))

/-- The value of an integer: to the base two, eight, ten, sixteen or sixty. -/
def integerValue (text : String) : Except ScalarFault Int := do
  let chars := text.toList.filter (· != '_')
  if chars.isEmpty then throw .emptyNumber
  let signed := fun magnitude : Int => if chars.head? == some '-' then -magnitude else magnitude
  match skipSign chars with
  | [] => throw .emptyNumber
  | ['0'] => return 0
  | '0' :: 'b' :: digits => return signed (← integerOf 2 digits)
  | '0' :: 'x' :: digits => return signed (← integerOf 16 digits)
  | '0' :: digits => return signed (← integerOf 8 ('0' :: digits))
  | unsigned =>
      let parts ← (splitColons unsigned).mapM (integerOf 10)
      return signed (parts.foldl (fun total part => total * 60 + part) 0)

/-- The sum of parts, the last one whole, the one before it times sixty, and so on. -/
def sixtieths : (factor : Nat) → (total : Binary64) → List Binary64 → Binary64
  | _, total, [] => total
  | factor, total, part :: rest => sixtieths (factor * 60) (total.add (part.scale factor)) rest

/-- The value of a number: with a point, to the base sixty, or not finite. -/
def fractionValue (text : String) : Except ScalarFault Binary64 := do
  let chars := (text.toList.filter (· != '_')).map fun char =>
    Char.ofNat (Text.lowerCode char.toNat)
  if chars.isEmpty then throw .emptyNumber
  let negative := chars.head? == some '-'
  let unsigned := skipSign chars
  if unsigned == ".inf".toList then return .infinite negative
  else if unsigned == ".nan".toList then return .nan
  else
    let magnitude ← match splitColons unsigned with
      | [only] => fractionOf only
      | parts => do
          let parts ← parts.mapM fractionOf
          pure (sixtieths 1 (.ofInt 0) parts.reverse)
    return if negative then magnitude.negate else magnitude

/-! ### Dates and times -/

def readPair (chars : List Char) : Nat × List Char :=
  let digits := (chars.take 2).takeWhile Char.isDigit
  (Text.numberOf 10 digits, chars.drop digits.length)

/-- Digits behind a point as millionths; the seventh digit and all behind it do not count. -/
def readMillionths (chars : List Char) : Nat × List Char :=
  match chars with
  | '.' :: rest =>
      let first := (rest.takeWhile Char.isDigit).take 6
      (Text.numberOf 10 first * Nat.pow 10 (6 - first.length), rest.dropWhile Char.isDigit)
  | chars => (0, chars)

def offsetOf (chars : List Char) : Option Int :=
  match chars.dropWhile isBlank with
  | [] => none
  | 'Z' :: _ => some 0
  | sign :: rest =>
      let (hours, rest) := readPair rest
      let (minutes, _) := readPair (rest.drop 1)
      let seconds : Int := (hours * 60 + minutes) * 60
      some (if sign == '-' then -seconds else seconds)

/-- A moment of a day.  A difference to universal time must be less than a day. -/
def momentOf (date : Except CalendarFault Date) (clock : Except CalendarFault Clock)
    (offset : Option Int) : Except CalendarFault Moment := do
  match offset with
  | some seconds => if 86400 ≤ seconds.natAbs then throw (.offset seconds)
  | none => pure ()
  return ⟨← date, ← clock, offset⟩

def isCalendarText (chars : List Char) : Bool :=
  isTimestamp chars ||
    (fits "9999-" (chars.take 5) &&
      match skipDigits? (chars.drop 5) with
      | some ('-' :: rest) => skipDigits? rest == some []
      | _ => false)

def calendarValue (text : String) : Except ScalarFault Value :=
  let chars := text.toList
  if isCalendarText chars then
    let (month, rest) := readPair (chars.drop 5)
    let (day, rest) := readPair (rest.drop 1)
    let date := Date.make (Text.numberOf 10 (chars.take 4)) month day
    let value : Except CalendarFault Value := match rest with
      | [] => date.map Value.date
      | _ :: rest => do
          let (hour, rest) := readPair (rest.dropWhile isBlank)
          let (minute, rest) := readPair (rest.drop 1)
          let (second, rest) := readPair (rest.drop 1)
          let (microsecond, rest) := readMillionths rest
          let clock := Clock.make hour minute second microsecond
          let moment ← momentOf date clock (offsetOf rest)
          pure (.moment moment)
    value.mapError .notInCalendar
  else .error .notTimestamp

/-! ### Bytes -/

def sixBits? (char : Char) : Option Nat :=
  let code := char.toNat
  if char.isUpper then some (code - 65)
  else if char.isLower then some (code - 71)
  else if char.isDigit then some (code + 4)
  else if char == '+' then some 62
  else if char == '/' then some 63
  else none

/-- The bytes of characters that stand for six bits each.  `held` are the bits that do not yet make
a byte, behind `count` characters of a group of four; `padding` is the number of equals signs in a
row.  Other characters do not count; what stands behind a complete group does not either. -/
def bytesOfSixes (count held padding : Nat) : List Char → Option (List UInt8)
  | [] => if count == 0 then some [] else none
  | char :: rest =>
      if char == '=' then
        if 2 ≤ count && 4 ≤ count + padding + 1 then some []
        else bytesOfSixes count held (if 2 ≤ count then padding + 1 else padding) rest
      else
        match sixBits? char with
        | none => bytesOfSixes count held padding rest
        | some six =>
            let add := fun (byte kept : Nat) =>
              (bytesOfSixes ((count + 1) % 4) kept 0 rest).map (UInt8.ofNat byte :: ·)
            match count with
            | 0 => bytesOfSixes 1 six 0 rest
            | 1 => add (held * 4 + six / 16) (six % 16)
            | 2 => add (held * 16 + six / 4) (six % 4)
            | _ => add (held * 64 + six) 0

def bytesOf? (text : String) : Option (List UInt8) :=
  if text.toList.all fun char => char.toNat < 128 then bytesOfSixes 0 0 0 text.toList else none

/-! ### Scalars -/

def truthValue (text : String) : Except ScalarFault Bool :=
  let lower := String.ofList (text.toList.map fun char => Char.ofNat (Text.lowerCode char.toNat))
  match truthWords.lookup lower with
  | some value => .ok value
  | none => .error (.notTruthValue lower)

def scalarValue (tag : Tag) (text : String) : Except ReadingFault Value :=
  let ofScalar := fun result : Except ScalarFault Value => result.mapError ReadingFault.scalar
  match tag with
  | .null => .ok .null
  | .bool => ofScalar ((truthValue text).map .bool)
  | .int => ofScalar ((integerValue text).map .int)
  | .float => ofScalar ((fractionValue text).map .float)
  | .timestamp => ofScalar (calendarValue text)
  | .binary =>
      match bytesOf? text with
      | some bytes => .ok (.bytes bytes)
      | none => .error illFormed
  | .text => .ok (.text text)
  | _ => .error illFormed

end UrlRouting.Yaml
