import UrlRouting.Value

/-!
Query strings: names and values joined by `=` and `&`, with everything but unreserved ASCII
characters encoded byte by byte.  A value that runs through others gives one pair for each.
-/

namespace UrlRouting.Query

/-- Bytes that stand for themselves: ASCII letters and digits, and four signs. -/
def isUnreserved (byte : UInt8) : Bool :=
  let char := Char.ofNat byte.toNat
  char.isAlphanum || ['_', '.', '-', '~'].contains char

/-- The digit of a number below 16, in upper case. -/
def upperHexDigit (n : Nat) : Char :=
  if n < 10 then Char.ofNat (48 + n) else Char.ofNat (55 + n)

/-- One byte: itself, a plus sign for a space, or a percent sign and two digits. -/
def encodeByte (byte : UInt8) : List Char :=
  if isUnreserved byte then [Char.ofNat byte.toNat]
  else if byte == 32 then ['+']
  else ['%', upperHexDigit (byte.toNat / 16), upperHexDigit (byte.toNat % 16)]

def encodeBytes (bytes : List UInt8) : List Char := bytes.flatMap encodeByte

def bytesOf (text : String) : List UInt8 := text.toUTF8.toList

def bytesOfValue : Value → List UInt8
  | .bytes bytes => bytes
  | value => bytesOf value.toText

/-- The values that a parameter gives: those it runs through, or itself. -/
def valuesOf : Value → List Value
  | .list items | .tuple items => items
  | .map entries => entries.map (·.1)
  | value => [value]

/-- Whether every value that some parameters give can be turned into its text. -/
def haveTexts (parameters : List (String × Value)) : Bool :=
  parameters.all fun (_, value) => (valuesOf value).all Value.hasText

def pairs (parameters : List (String × Value)) : List (List UInt8 × List UInt8) :=
  parameters.flatMap fun (name, value) =>
    (valuesOf value).map fun item => (bytesOf name, bytesOfValue item)

def encodePair (pair : List UInt8 × List UInt8) : List Char :=
  encodeBytes pair.1 ++ '=' :: encodeBytes pair.2

def encodePairs (pairs : List (List UInt8 × List UInt8)) : List Char :=
  ['&'].intercalate (pairs.map encodePair)

def encode (parameters : List (String × Value)) : String :=
  String.ofList (encodePairs (pairs parameters))

end UrlRouting.Query
