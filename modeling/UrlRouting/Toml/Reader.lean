import UrlRouting.Toml.Scalar
import UrlRouting.Toml.Tree

/-!
Reading of TOML texts: values with their brackets, and the statements that build the table of a
text one after another.
-/

namespace UrlRouting.Toml

/-! ### Values -/

/-- A bracket that is open: an array with the items before the place of reading, last one first, or
a table on one line with what has been assigned in it and the key that waits for its value. -/
inductive Frame where
  | array (items : List Value)
  | table (entries : Table) (key : List String)

/-- The place of reading: before a value, or behind one. -/
structure Place where
  frames : List Frame
  value : Option Value
  chars : List Char

def assignAt (number : Nat) (header : List Table.Way) (key : List String) (value : Value)
    (table : Table) : Option Table :=
  match key.getLast? with
  | none => none
  | some name =>
      table.changeAt (Table.assign name value)
        (header ++ key.dropLast.map (Table.Way.dotted number))

def readKeyAndSign (chars : List Char) : Except ReadingFault (List String × List Char) := do
  let (key, rest) ← readKey chars
  match rest with
  | '=' :: rest => return (key, skipBlanks rest)
  | _ => throw illFormed

def enter (frames : List Frame) (chars : List Char) : Except ReadingFault Place :=
  match chars with
  | '[' :: rest => do
      match ← skipLines false rest with
      | ']' :: rest => return ⟨frames, some (.list []), rest⟩
      | rest => return ⟨.array [] :: frames, none, rest⟩
  | '\x7b' :: rest => do
      match skipBlanks rest with
      | '\x7d' :: rest => return ⟨frames, some (.map []), rest⟩
      | rest =>
          let (key, rest) ← readKeyAndSign rest
          return ⟨.table [] key :: frames, none, rest⟩
  | chars => do
      let (value, rest) ← readScalar chars
      return ⟨frames, some value, rest⟩

/-- Goes on behind an item of an array; a comma may stand behind the last one. -/
def leaveItem (items : List Value) (frames : List Frame) (chars : List Char) :
    Except ReadingFault Place := do
  let close := fun rest => Place.mk frames (some (.list items.reverse)) rest
  match ← skipLines false chars with
  | ']' :: rest => return close rest
  | ',' :: rest =>
      match ← skipLines false rest with
      | ']' :: rest => return close rest
      | rest => return ⟨.array items :: frames, none, rest⟩
  | _ => throw illFormed

def leavePair (entries : Table) (frames : List Frame) (chars : List Char) :
    Except ReadingFault Place :=
  match skipBlanks chars with
  | '\x7d' :: rest => .ok ⟨frames, some entries.toValue, rest⟩
  | ',' :: rest => do
      let (key, rest) ← readKeyAndSign (skipBlanks rest)
      return ⟨.table entries key :: frames, none, rest⟩
  | _ => .error illFormed

def valueStep (place : Place) : Except ReadingFault (Step Place (Value × List Char)) :=
  match place.value, place.frames with
  | none, frames => (enter frames place.chars).map .next
  | some value, [] => .ok (.done (value, place.chars))
  | some value, .array items :: frames =>
      (leaveItem (value :: items) frames place.chars).map .next
  | some value, .table entries key :: frames =>
      match assignAt 0 [] key value entries with
      | none => .error illFormed
      | some entries => (leavePair entries frames place.chars).map .next

def readValue (chars : List Char) : Except ReadingFault (Value × List Char) :=
  descend (fun place => place.chars.length) illFormed valueStep ⟨[], none, chars⟩

/-! ### Statements -/

/-- A text of which a part has been read: its table, the header of the section of the place of
reading, and the number of that section. -/
structure Document where
  table : Table
  header : List String
  number : Nat

def Document.way (header : List String) : List Table.Way := header.map Table.Way.header

def readHeader (document : Document) (chars : List Char) :
    Except ReadingFault (Document × List Char) := do
  let (isArray, inside) := match chars with
    | '[' :: rest => (true, rest)
    | rest => (false, rest)
  let (header, rest) ← readKey (skipBlanks inside)
  let number := document.number + 1
  let change := fun name => if isArray then Table.extend name else Table.define number name
  let table? := header.getLast?.bind fun name =>
    document.table.changeAt (change name) (Document.way header.dropLast)
  match table?, isArray, rest with
  | some table, true, ']' :: ']' :: rest => return (⟨table, header, number⟩, rest)
  | some table, false, ']' :: rest => return (⟨table, header, number⟩, rest)
  | _, _, _ => throw illFormed

def readAssignment (document : Document) (chars : List Char) :
    Except ReadingFault (Document × List Char) := do
  let (key, rest) ← readKeyAndSign chars
  let (value, rest) ← readValue rest
  match assignAt document.number (Document.way document.header) key value document.table with
  | some table => return ({ document with table := table }, rest)
  | none => throw illFormed

def readStatement (document : Document) (chars : List Char) :
    Except ReadingFault (Document × List Char) :=
  match chars with
  | [] => .ok (document, [])
  | char :: rest =>
      if char == '\n' || char == '#' then .ok (document, chars)
      else if char == '[' then readHeader document rest
      else readAssignment document chars

def lineStep (state : Document × List Char) :
    Except ReadingFault (Step (Document × List Char) Document) := do
  let (document, chars) := state
  let (document, rest) ← readStatement document (skipBlanks chars)
  match ← skipComment (skipBlanks rest) with
  | [] => return .done document
  | '\n' :: rest => return .next (document, rest)
  | _ => throw illFormed

def read (chars : List Char) : Except ReadingFault Value := do
  let document ← descend (fun state => state.2.length) illFormed lineStep (⟨[], [], 0⟩, chars)
  return document.table.toValue

end UrlRouting.Toml
