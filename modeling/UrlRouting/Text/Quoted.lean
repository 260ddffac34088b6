import UrlRouting.Text.Category
import UrlRouting.Text.Digits

/-!
Quoted text, as messages and listings show it: single quotes unless the text holds a single quote
and no double quote, a backslash before the quote and before a backslash, and escapes for
characters that leave no visible trace.
-/

namespace UrlRouting.Text

/-- A code point as an escape of two, four or eight hexadecimal digits, the fewest that do. -/
def codeEscape (code : Nat) : List Char :=
  if code < 0x100 then '\\' :: 'x' :: hexDigits 2 code
  else if code < 0x10000 then '\\' :: 'u' :: hexDigits 4 code
  else '\\' :: 'U' :: hexDigits 8 code

def quoteFor (chars : List Char) : Char :=
  if chars.contains '\'' && !chars.contains '"' then '"' else '\''

def quotedChar (quote char : Char) : List Char :=
  if char == quote || char == '\\' then ['\\', char]
  else if char == '\n' then ['\\', 'n']
  else if char == '\r' then ['\\', 'r']
  else if char == '\t' then ['\\', 't']
  else if isPrintable char then [char]
  else codeEscape char.toNat

def quoted (text : String) : String :=
  let quote := quoteFor text.toList
  String.ofList (quote :: text.toList.flatMap (quotedChar quote) ++ [quote])

/-- One byte inside quotes: visible ASCII as it is, all else escaped. -/
def quotedByte (quote : Char) (byte : UInt8) : List Char :=
  let char := Char.ofNat byte.toNat
  if char == quote || char == '\\' then ['\\', char]
  else if char == '\n' then ['\\', 'n']
  else if char == '\r' then ['\\', 'r']
  else if char == '\t' then ['\\', 't']
  else if 32 ≤ byte.toNat && byte.toNat < 127 then [char]
  else codeEscape byte.toNat

def quotedBytes (bytes : List UInt8) : String :=
  let quote := quoteFor (bytes.map fun byte => Char.ofNat byte.toNat)
  String.ofList ('b' :: quote :: bytes.flatMap (quotedByte quote) ++ [quote])

end UrlRouting.Text
