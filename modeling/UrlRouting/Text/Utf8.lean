import UrlRouting.Text.Quoted

/-!
Decoding of bytes as UTF-8, with the exact place and kind of the first mistake.
-/

namespace UrlRouting.Text

inductive Utf8Mistake where
  | start
  | continuation
  | endOfData
  deriving DecidableEq, Repr

/-- A mistake, the offset of the sequence in which it occurs, and the bytes of the sequence that
are beyond rescue. -/
structure Utf8Fault where
  mistake : Utf8Mistake
  offset : Nat
  bytes : List UInt8
  deriving DecidableEq, Repr

def Utf8Fault.message (fault : Utf8Fault) : String :=
  let reason := match fault.mistake with
    | .start => "invalid start byte"
    | .continuation => "invalid continuation byte"
    | .endOfData => "unexpected end of data"
  let place := match fault.bytes with
    | [byte] => s!"byte 0x{String.ofList (hexDigits 2 byte.toNat)} in position {fault.offset}"
    | bytes => s!"bytes in position {fault.offset}-{fault.offset + bytes.length - 1}"
  s!"'utf-8' codec can't decode {place}: {reason}"

def isContinuation (byte : UInt8) : Bool := 0x80 ≤ byte && byte < 0xc0

/-- The length of the sequence that a byte starts; no length if it starts none. -/
def sequenceLength (first : UInt8) : Option Nat :=
  if first < 0x80 then some 1
  else if first < 0xc2 then none
  else if first < 0xe0 then some 2
  else if first < 0xf0 then some 3
  else if first < 0xf5 then some 4
  else none

/-- Whether a byte can be the second of a sequence: shorter forms of the same character,
surrogates, and code points beyond the last one are refused. -/
def isSecond (first second : UInt8) : Bool :=
  isContinuation second &&
    (if first == 0xe0 then 0xa0 ≤ second
    else if first == 0xed then second < 0xa0
    else if first == 0xf0 then 0x90 ≤ second
    else if first == 0xf4 then second < 0x90
    else true)

/-- The number of bytes, from the first on, that fit together as a sequence of a given length. -/
def fittingLength (length : Nat) (first : UInt8) (rest : List UInt8) : Nat :=
  match rest with
  | [] => 1
  | second :: rest =>
      if length ≤ 1 || !isSecond first second then 1
      else 2 + ((rest.take (length - 2)).takeWhile isContinuation).length

def sequenceCode (first : UInt8) (rest : List UInt8) : Nat :=
  let top :=
    if first < 0x80 then first.toNat
    else if first < 0xe0 then first.toNat - 0xc0
    else if first < 0xf0 then first.toNat - 0xe0
    else first.toNat - 0xf0
  rest.foldl (fun code byte => code * 64 + (byte.toNat - 0x80)) top

/-- The characters of some bytes; `offset` is the number of bytes before them. -/
def decodeFrom (offset : Nat) (bytes : List UInt8) : Except Utf8Fault (List Char) :=
  match bytes with
  | [] => .ok []
  | first :: rest =>
      match sequenceLength first with
      | none => .error ⟨.start, offset, [first]⟩
      | some length =>
          let fitting := fittingLength length first rest
          if fitting < length then
            let mistake := if rest.length < fitting then .endOfData else .continuation
            .error ⟨mistake, offset, first :: rest.take (fitting - 1)⟩
          else
            match decodeFrom (offset + length) (rest.drop (length - 1)) with
            | .error fault => .error fault
            | .ok chars =>
                .ok (Char.ofNat (sequenceCode first (rest.take (length - 1))) :: chars)
termination_by bytes.length
decreasing_by simp only [List.length_drop, List.length_cons]; omega

def decodeUtf8 (bytes : List UInt8) : Except Utf8Fault String :=
  (decodeFrom 0 bytes).map String.ofList

def encodeUtf8 (text : String) : List UInt8 := text.toUTF8.toList

def normalizeLineEnds : List Char → List Char
  | [] => []
  | '\r' :: '\n' :: rest => '\n' :: normalizeLineEnds rest
  | char :: rest => (if char == '\r' then '\n' else char) :: normalizeLineEnds rest

end UrlRouting.Text
