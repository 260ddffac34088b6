import UrlRouting.Text.Utf8
import UrlRouting.Yaml.ScalarText

/-!
The tokens of a YAML text.  Indentation shows in them: a collection in block style starts where a
line is indented more than those around it and ends where one is indented less.  A key need not be
marked: it is recognized by the colon behind it, and its token is put in front of it afterwards.
-/

namespace UrlRouting.Yaml

/-- A tag as it is written: the handle of a namespace, if it has one, and the rest. -/
structure TagName where
  handle : Option String
  suffix : String
  deriving DecidableEq, Repr

/-- A directive: the first number of a version, a handle with what it stands for, or another. -/
inductive Directive where
  | version (major : Nat)
  | handle (handle meaning : String)
  | other
  deriving DecidableEq, Repr

inductive Token where
  | directive (directive : Directive)
  | documentStart
  | documentEnd
  | blockSequenceStart
  | blockMappingStart
  | blockEnd
  | flowSequenceStart
  | flowSequenceEnd
  | flowMappingStart
  | flowMappingEnd
  | blockEntry
  | flowEntry
  | key
  | value
  | alias (name : String)
  | anchor (name : String)
  | tag (name : TagName)
  | scalar (text : String) (isPlain : Bool)
  deriving DecidableEq, Repr

/-! ### Names -/

def readName? (cursor : Cursor) : Option (String × Cursor) :=
  let name := cursor.rest.takeWhile isNameChar
  if name.isEmpty then none else some (String.ofList name, cursor.skip name.length)

def readAnchor? (cursor : Cursor) : Option (String × Cursor) := do
  let (name, cursor) ← readName? cursor
  let isEnd := cursor.peek?.any fun char => "?:,]\x7d%@`".toList.contains char
  if endsMark cursor.peek? || isEnd then return (name, cursor) else none

/-- The bytes of characters that are written as percent signs with two digits each. -/
def percentBytes : List Char → Option (List UInt8 × List Char)
  | '%' :: a :: b :: rest => do
      let high ← Text.hexValue? a
      let low ← Text.hexValue? b
      let (bytes, rest) ← percentBytes rest
      return (UInt8.ofNat (high * 16 + low) :: bytes, rest)
  | '%' :: _ => none
  | rest => some ([], rest)

def isTagChar (char : Char) : Bool :=
  char.isAlphanum || "-;/?:@&=+$,_.!~*'()[]%".toList.contains char

def tagTextStep (reading : Reading) : Except ReadingFault (Step Reading Reading) :=
  match reading.cursor.peek? with
  | none => .ok (.done reading)
  | some char =>
      if char == '%' then
        match percentBytes reading.cursor.rest with
        | none => .error illFormed
        | some (bytes, _) =>
            match Text.decodeUtf8 bytes with
            | .error _ => .error illFormed
            | .ok text =>
                .ok (.next (reading.add text.toList (reading.cursor.skip (bytes.length * 3))))
      else if isTagChar char then .ok (.next (reading.add [char] reading.cursor.next))
      else .ok (.done reading)

/-- The rest of a tag, which must not be empty. -/
def readTagText (cursor : Cursor) : Except ReadingFault (String × Cursor) := do
  let reading ← descend Reading.size illFormed tagTextStep ⟨[], cursor⟩
  if reading.cursor.size < cursor.size then return (reading.result, reading.cursor)
  else throw illFormed

/-- The handle of a tag: an exclamation mark, or a name between two. -/
def readHandle? (cursor : Cursor) : Option (String × Cursor) :=
  if cursor.peek? != some '!' then none
  else if cursor.peekAt? 1 == some ' ' then some ("!", cursor.next)
  else
    let name := cursor.next.rest.takeWhile isNameChar
    let behind := cursor.next.skip name.length
    if behind.peek? == some '!' then
      some (String.ofList ('!' :: name ++ ['!']), behind.next)
    else none

def hasSecondMark (cursor : Cursor) : Bool :=
  (cursor.next.rest.takeWhile fun char => !(char == ' ' || isBreak char)).contains '!'

def readTag (cursor : Cursor) : Except ReadingFault (TagName × Cursor) := do
  let inside := cursor.next
  let (name, behind) ←
    if inside.peek? == some '<' then do
      let (suffix, behind) ← readTagText inside.next
      if behind.peek? == some '>' then pure (TagName.mk none suffix, behind.next)
      else throw illFormed
    else if endsMark inside.peek? then pure (⟨none, "!"⟩, inside)
    else if hasSecondMark cursor then do
      match readHandle? cursor with
      | none => throw illFormed
      | some (handle, behind) =>
          let (suffix, behind) ← readTagText behind
          pure (⟨some handle, suffix⟩, behind)
    else do
      let (suffix, behind) ← readTagText inside
      pure (⟨some "!", suffix⟩, behind)
  if endsWord behind.peek? then return (name, behind) else throw illFormed

/-! ### Directives -/

def readNumber? (cursor : Cursor) : Option (Nat × Cursor) :=
  let digits := cursor.rest.takeWhile Char.isDigit
  if digits.isEmpty then none
  else some (Text.numberOf 10 digits, cursor.skip digits.length)

def readVersion? (cursor : Cursor) : Option (Directive × Cursor) := do
  let (major, cursor) ← readNumber? cursor.skipSpaces
  let (_, cursor) ← if cursor.peek? == some '.' then readNumber? cursor.next else none
  return (.version major, cursor)

def readHandleMeaning (cursor : Cursor) : Except ReadingFault (Directive × Cursor) := do
  match readHandle? cursor.skipSpaces with
  | none => throw illFormed
  | some (handle, cursor) =>
      if cursor.peek? == some ' ' then
        let (meaning, cursor) ← readTagText cursor.skipSpaces
        return (.handle handle meaning, cursor)
      else throw illFormed

/-- A directive whose percent sign is the next character, up to the end of its line. -/
def readDirective (cursor : Cursor) : Except ReadingFault (Directive × Cursor) := do
  match readName? cursor.next with
  | none => throw illFormed
  | some (name, cursor) =>
      if endsWord cursor.peek? then
        let (directive, behind) ←
          if name == "YAML" then
            match readVersion? cursor with
            | some found => pure found
            | none => throw illFormed
          else if name == "TAG" then readHandleMeaning cursor
          else pure (.other, cursor.skipLine)
        match endsWord behind.peek?, behind.finishLine? with
        | true, some following => return (directive, following)
        | _, _ => throw illFormed
      else throw illFormed

end UrlRouting.Yaml
