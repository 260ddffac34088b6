import UrlRouting.Toml.Lexeme

/-!
Numbers, dates, times and words in TOML texts.
-/

namespace UrlRouting.Toml

/-! ### Dates and times -/

/-- The number of exactly `count` digits, which must lie within bounds. -/
def readDigits? (count least most : Nat) (chars : List Char) : Option (Nat × List Char) :=
  let digits := chars.take count
  let number := Text.numberOf 10 digits
  if digits.length == count && digits.all Char.isDigit && least ≤ number && number ≤ most then
    some (number, chars.drop count)
  else none

def readSign? (sign : Char) (chars : List Char) : Option (List Char) :=
  match chars with
  | char :: rest => if char == sign then some rest else none
  | [] => none

/-- Year, month and day.  Whether the month has that day is not looked at. -/
def readDate? (chars : List Char) : Option ((Nat × Nat × Nat) × List Char) := do
  let (year, rest) ← readDigits? 4 0 9999 chars
  let (month, rest) ← readDigits? 2 1 12 (← readSign? '-' rest)
  let (day, rest) ← readDigits? 2 1 31 (← readSign? '-' rest)
  return ((year, month, day), rest)

/-- Digits behind a point as millionths; the seventh digit and all behind it do not count. -/
def readMillionths (chars : List Char) : Nat × List Char :=
  match chars with
  | '.' :: rest =>
      let digits := rest.takeWhile Char.isDigit
      if digits.isEmpty then (0, chars)
      else
        let first := digits.take 6
        (Text.numberOf 10 first * Nat.pow 10 (6 - first.length), rest.dropWhile Char.isDigit)
  | chars => (0, chars)

def readClock? (chars : List Char) : Option (Clock × List Char) := do
  let (hour, rest) ← readDigits? 2 0 23 chars
  let (minute, rest) ← readDigits? 2 0 59 (← readSign? ':' rest)
  let (second, rest) ← readDigits? 2 0 59 (← readSign? ':' rest)
  let (microsecond, rest) := readMillionths rest
  return (⟨hour, minute, second, microsecond⟩, rest)

def readSpan? (chars : List Char) : Option (Nat × List Char) := do
  let (hours, rest) ← readDigits? 2 0 23 chars
  let (minutes, rest) ← readDigits? 2 0 59 (← readSign? ':' rest)
  return ((hours * 60 + minutes) * 60, rest)

def readOffset (chars : List Char) : Option Int × List Char :=
  match chars with
  | [] => (none, [])
  | sign :: rest =>
      if sign == 'Z' || sign == 'z' then (some 0, rest)
      else if sign == '+' || sign == '-' then
        match readSpan? rest with
        | some (seconds, rest) => (some (if sign == '-' then -seconds else seconds), rest)
        | none => (none, chars)
      else (none, chars)

def readClockBehind? (chars : List Char) : Option ((Clock × Option Int) × List Char) :=
  match chars with
  | [] => none
  | mark :: rest =>
      if mark == 'T' || mark == 't' || mark == ' ' then
        (readClock? rest).map fun (clock, rest) =>
          let (offset, rest) := readOffset rest
          ((clock, offset), rest)
      else none

def readCalendar? (chars : List Char) : Option (Except ReadingFault (Value × List Char)) :=
  (readDate? chars).map fun ((year, month, day), rest) =>
    match Date.make year month day with
    | .error _ => .error illFormed
    | .ok date =>
        match readClockBehind? rest with
        | some ((clock, offset), rest) => .ok (.moment ⟨date, clock, offset⟩, rest)
        | none => .ok (.date date, rest)

/-! ### Numbers -/

def moreDigits (isDigit : Char → Bool) : List Char → List Char × List Char
  | [] => ([], [])
  | '_' :: digit :: rest =>
      if isDigit digit then
        let (digits, rest) := moreDigits isDigit rest
        (digit :: digits, rest)
      else ([], '_' :: digit :: rest)
  | digit :: rest =>
      if isDigit digit then
        let (digits, rest) := moreDigits isDigit rest
        (digit :: digits, rest)
      else ([], digit :: rest)

def readRun? (isDigit : Char → Bool) (chars : List Char) : Option (List Char × List Char) :=
  match chars with
  | [] => none
  | digit :: rest =>
      if isDigit digit then
        let (digits, rest) := moreDigits isDigit rest
        some (digit :: digits, rest)
      else none

/-- An integer to the base 2, 8 or 16, as the letter behind a zero tells. -/
def readBased? (chars : List Char) : Option (Value × List Char) :=
  let run := fun (base : Nat) (isDigit : Char → Bool) (rest : List Char) =>
    (readRun? isDigit rest).map fun (digits, rest) =>
      (Value.int (Text.numberOf base digits : Nat), rest)
  match chars with
  | '0' :: 'x' :: rest => run 16 (fun char => (Text.hexValue? char).isSome) rest
  | '0' :: 'o' :: rest => run 8 (fun char => '0' ≤ char && char ≤ '7') rest
  | '0' :: 'b' :: rest => run 2 (fun char => char == '0' || char == '1') rest
  | _ => none

/-- The digits before a point: a zero, or digits that do not start with one. -/
def readWhole? (chars : List Char) : Option (List Char × List Char) :=
  match chars with
  | '0' :: rest => some (['0'], rest)
  | chars => readRun? Char.isDigit chars

def readFraction (chars : List Char) : List Char × List Char :=
  match chars with
  | '.' :: rest => (readRun? Char.isDigit rest).getD ([], chars)
  | chars => ([], chars)

def readExponent (chars : List Char) : Option Int × List Char :=
  match chars with
  | [] => (none, [])
  | mark :: rest =>
      if mark == 'e' || mark == 'E' then
        let (negative, rest) := match rest with
          | '-' :: rest => (true, rest)
          | '+' :: rest => (false, rest)
          | rest => (false, rest)
        match readRun? Char.isDigit rest with
        | none => (none, chars)
        | some (digits, rest) =>
            let size : Int := Text.numberOf 10 digits
            (some (if negative then -size else size), rest)
      else (none, chars)

def readUnsigned? (negative : Bool) (chars : List Char) :
    Option (Except ReadingFault (Value × List Char)) :=
  (readWhole? chars).map fun (whole, rest) =>
    let (fraction, rest) := readFraction rest
    let (exponent, rest) := readExponent rest
    if fraction.isEmpty && exponent.isNone then
      match integerOfDigits negative whole with
      | .ok number => .ok (.int number, rest)
      | .error fault => .error (.scalar fault)
    else
      let digits := Text.numberOf 10 (whole ++ fraction)
      .ok (.float (.ofDecimal negative digits (exponent.getD 0 - fraction.length)), rest)

/-- What is not a finite number, without its sign. -/
def readUnfinite? (negative : Bool) (chars : List Char) : Option (Value × List Char) :=
  match chars with
  | 'i' :: 'n' :: 'f' :: rest => some (.float (.infinite negative), rest)
  | 'n' :: 'a' :: 'n' :: rest => some (.float .nan, rest)
  | _ => none

def readNumber (chars : List Char) : Except ReadingFault (Value × List Char) :=
  let (negative, unsigned) := match chars with
    | '-' :: rest => (true, rest)
    | '+' :: rest => (false, rest)
    | chars => (false, chars)
  match readUnsigned? negative unsigned with
  | some read => read
  | none => required (readUnfinite? negative unsigned)

def readScalar (chars : List Char) : Except ReadingFault (Value × List Char) :=
  match chars with
  | '"' :: _ | '\'' :: _ => (readText chars).map fun (text, rest) => (.text text, rest)
  | 't' :: 'r' :: 'u' :: 'e' :: rest => .ok (.bool true, rest)
  | 'f' :: 'a' :: 'l' :: 's' :: 'e' :: rest => .ok (.bool false, rest)
  | chars =>
      match readCalendar? chars with
      | some read => read
      | none =>
          match readClock? chars with
          | some (clock, rest) => .ok (.clock clock, rest)
          | none =>
              match readBased? chars with
              | some found => .ok found
              | none => readNumber chars

end UrlRouting.Toml
