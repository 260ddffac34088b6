import UrlRouting.Value

/-!
What can come of reading a text in one of the notations for configuration files: a value, or a
fault.  A text that is not well-formed is told apart from a well-formed one with a scalar that no
value can be made of.
-/

namespace UrlRouting

inductive ScalarFault where
  | tooManyDigits (count : Nat)
  | notInteger (base : Nat) (text : String)
  | emptyNumber
  | notNumber (text : String)
  | notTruthValue (text : String)
  | notTimestamp
  | notInCalendar (fault : CalendarFault)
  | codeTooLarge (code : Nat)
  deriving DecidableEq, Repr

def ScalarFault.message : ScalarFault → String
  | tooManyDigits count =>
      "Exceeds the limit (4300 digits) for integer string conversion: " ++
        s!"value has {count} digits; use sys.set_int_max_str_digits() to increase the limit"
  | notInteger base text =>
      s!"invalid literal for int() with base {base}: " ++ Text.quoted text
  | emptyNumber => "string index out of range"
  | notNumber text => "could not convert string to float: " ++ Text.quoted text
  | notTruthValue text => Text.quoted text
  | notTimestamp => "'NoneType' object has no attribute 'groupdict'"
  | notInCalendar fault => fault.message
  | codeTooLarge code =>
      if code < 0x80000000 then "chr() arg not in range(0x110000)"
      else "Python int too large to convert to C int"

/-- Why a text has no value.  What is wrong with its form is told in detail by some notations
only. -/
inductive ReadingFault where
  | malformed (detail : Option String)
  | scalar (fault : ScalarFault)
  deriving DecidableEq, Repr

/-- A text that is not well-formed, for a reason that is not told. -/
def illFormed : ReadingFault := .malformed none

/-- The integer of some decimal digits, unless they are too many. -/
def integerOfDigits (negative : Bool) (digits : List Char) : Except ScalarFault Int :=
  if digitLimit < digits.length then .error (.tooManyDigits digits.length)
  else
    let magnitude : Int := Text.numberOf 10 digits
    .ok (if negative then -magnitude else magnitude)

end UrlRouting
