import UrlRouting.Calendar
import UrlRouting.Entries
import UrlRouting.Number.Binary64
import UrlRouting.Text.Quoted

/-!
The values that routes carry as defaults and that links are made from: what configuration files
can hold, and tuples and byte strings besides.
-/

namespace UrlRouting

/-- The most decimal digits of an integer that is read from a text or written as one. -/
def digitLimit : Nat := 4300

/-- A value.  Lists, tuples and maps hold values in their turn. -/
inductive Value where
  | null
  | bool (value : Bool)
  | int (value : Int)
  | float (value : Binary64)
  | text (value : String)
  | bytes (value : List UInt8)
  | date (value : Date)
  | moment (value : Moment)
  | clock (value : Clock)
  | list (items : List Value)
  | tuple (items : List Value)
  | map (entries : List (Value × Value))
  deriving Repr, Inhabited

namespace Value

def kindName : Value → String
  | null => "NoneType"
  | bool _ => "bool"
  | int _ => "int"
  | float _ => "float"
  | text _ => "str"
  | bytes _ => "bytes"
  | date _ => "date"
  | moment _ => "datetime"
  | clock _ => "time"
  | list _ => "list"
  | tuple _ => "tuple"
  | map _ => "dict"

/-- Whether a value counts as given: nothing, false, zero and what is empty do not. -/
def isGiven : Value → Bool
  | null => false
  | bool value => value
  | int value => value != 0
  | float value => !value.isZero
  | text value => !value.isEmpty
  | bytes value => !value.isEmpty
  | list items | tuple items => !items.isEmpty
  | map entries => !entries.isEmpty
  | date _ | moment _ | clock _ => true

/-- The number that a value is equal to: truth values count as zero and one, and a fraction-free
number is an integer. -/
def toInt? : Value → Option Int
  | bool value => some (if value then 1 else 0)
  | int value => some value
  | float value => value.toInt?
  | _ => none

mutual

def same : Value → Value → Bool
  | null, null => true
  | text a, text b => a == b
  | bytes a, bytes b => a == b
  | date a, date b => a == b
  | clock a, clock b => a == b
  | moment a, moment b => a.same b
  | float a, float b => a.sameNumber b
  | list a, list b => sameItems a b
  | tuple a, tuple b => sameItems a b
  | map a, map b => sameEntries a b
  | a, b =>
      match a.toInt?, b.toInt? with
      | some m, some n => m == n
      | _, _ => false

def sameItems : List Value → List Value → Bool
  | [], [] => true
  | a :: as, b :: bs => a.same b && sameItems as bs
  | _, _ => false

def sameEntries : List (Value × Value) → List (Value × Value) → Bool
  | [], [] => true
  | (a, x) :: as, (b, y) :: bs => a.same b && x.same y && sameEntries as bs
  | _, _ => false

end

instance : BEq Value := ⟨same⟩

def bracketed (opening closing : String) (items : List String) : String :=
  opening ++ ", ".intercalate items ++ closing

mutual

/-- A value in a listing: as its text, but with quotes around texts. -/
def shown : Value → String
  | null => "None"
  | bool value => if value then "True" else "False"
  | int value => toString value
  | float value => value.text
  | text value => Text.quoted value
  | bytes value => Text.quotedBytes value
  | date value => value.shown
  | moment value => value.shown
  | clock value => value.shown
  | list items => bracketed "[" "]" (shownItems items)
  | tuple [item] => bracketed "(" ",)" [item.shown]
  | tuple items => bracketed "(" ")" (shownItems items)
  | map entries => bracketed "\x7b" "\x7d" (shownEntries entries)

def shownItems : List Value → List String
  | [] => []
  | item :: rest => item.shown :: shownItems rest

def shownEntries : List (Value × Value) → List String
  | [] => []
  | (key, value) :: rest => (key.shown ++ ": " ++ value.shown) :: shownEntries rest

end

/-- The text of a value, with all digits of the integers in it. -/
def toText : Value → String
  | text value => value
  | date value => value.text
  | moment value => value.text
  | clock value => value.text
  | value => value.shown

mutual

/-- Whether a value can be turned into its text: an integer with too many digits cannot, and
neither can a value that holds one. -/
def hasText : Value → Bool
  | int value => decide ((Nat.toDigits 10 value.natAbs).length ≤ digitLimit)
  | list items | tuple items => haveText items
  | map entries => entriesHaveText entries
  | _ => true

def haveText : List Value → Bool
  | [] => true
  | item :: rest => item.hasText && haveText rest

def entriesHaveText : List (Value × Value) → Bool
  | [] => true
  | (key, value) :: rest => key.hasText && value.hasText && entriesHaveText rest

end

end Value

/-- Values by key, such as the defaults of a route or the parameters of a match. -/
abbrev Attributes := Entries Value Value

def Attributes.named? (attributes : Attributes) (name : String) : Option Value :=
  Entries.get? attributes (.text name)

def Attributes.hasName (attributes : Attributes) (name : String) : Bool :=
  Entries.has attributes (.text name)

def Attributes.putName (attributes : Attributes) (name : String) (value : Value) : Attributes :=
  Entries.put (.text name) value attributes

end UrlRouting
