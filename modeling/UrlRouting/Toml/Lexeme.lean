import UrlRouting.Descent
import UrlRouting.Reading

/-!
The smallest parts of TOML texts: blanks, comments, texts in quotes and keys.  A reader takes
characters from the front and gives those that are left.  Line ends are line feeds.
-/

namespace UrlRouting.Toml

/-- What a reader of something optional gives, where it must not be missing. -/
def required {α : Type} (found : Option (α × List Char)) : Except ReadingFault (α × List Char) :=
  match found with
  | some found => .ok found
  | none => .error illFormed

/-! ### Blanks and comments -/

def isBlank (char : Char) : Bool := char == ' ' || char == '\t'

/-- Characters that stand nowhere but in line ends and escapes. -/
def isControl (char : Char) : Bool := char.toNat < 32 || char.toNat == 127

def isInLine (char : Char) : Bool := !isControl char || char == '\t'

def isInLines (char : Char) : Bool := isInLine char || char == '\n'

def skipBlanks (chars : List Char) : List Char := chars.dropWhile isBlank

def skipLines : (inComment : Bool) → List Char → Except ReadingFault (List Char)
  | _, [] => .ok []
  | true, char :: rest =>
      if char == '\n' then skipLines false rest
      else if isInLine char then skipLines true rest
      else .error illFormed
  | false, char :: rest =>
      if char == '#' then skipLines true rest
      else if isBlank char || char == '\n' then skipLines false rest
      else .ok (char :: rest)

def skipComment (chars : List Char) : Except ReadingFault (List Char) :=
  match chars with
  | '#' :: rest =>
      if (rest.takeWhile (· != '\n')).all isInLine then .ok (rest.dropWhile (· != '\n'))
      else .error illFormed
  | chars => .ok chars

/-! ### Texts -/

def readLiteral : List Char → Option (List Char × List Char)
  | [] => none
  | char :: rest =>
      if char == '\'' then some ([], rest)
      else if isInLine char then (readLiteral rest).map fun (text, rest) => (char :: text, rest)
      else none

def readLongLiteral : List Char → Option (List Char × List Char)
  | [] => none
  | '\'' :: '\'' :: '\'' :: rest => some ([], rest)
  | char :: rest =>
      if isInLines char then (readLongLiteral rest).map fun (text, rest) => (char :: text, rest)
      else none

/-- A text with up to two quotes that stand behind it and still belong to it. -/
def withQuotes (quote : Char) (text rest : List Char) : List Char × List Char :=
  let more := (rest.take 2).takeWhile (· == quote)
  (text ++ more, rest.drop more.length)

/-- The character of exactly `count` hexadecimal digits. -/
def readCode? (count : Nat) (chars : List Char) : Option (List Char × List Char) := do
  let code ← Text.hexNumber? count chars
  if code.isValidChar then return ([Char.ofNat code], chars.drop count) else none

def escaped? (char : Char) : Option Char :=
  match char with
  | 'b' => some '\x08'
  | 't' => some '\t'
  | 'n' => some '\n'
  | 'f' => some '\x0c'
  | 'r' => some '\r'
  | '"' => some '"'
  | '\\' => some '\\'
  | _ => none

/-- The characters behind a line end that is escaped together with the blanks before it and the
blanks and line ends behind it. -/
def skipLineEnd? (chars : List Char) : Option (List Char) :=
  match skipBlanks chars with
  | [] => some []
  | '\n' :: rest => some (rest.dropWhile fun char => isBlank char || char == '\n')
  | _ => none

def readEscape? (long : Bool) (chars : List Char) : Option (List Char × List Char) :=
  match chars with
  | [] => none
  | 'u' :: rest => readCode? 4 rest
  | 'U' :: rest => readCode? 8 rest
  | char :: rest =>
      if long && (isBlank char || char == '\n') then (skipLineEnd? chars).map (([], ·))
      else (escaped? char).map fun char => ([char], rest)

/-- One part of a text between quotation marks: what it adds to the text, which is kept last
character first, or the end. -/
def basicStep (long : Bool) (state : List Char × List Char) :
    Except ReadingFault (Step (List Char × List Char) (List Char × List Char)) :=
  let (text, chars) := state
  match chars with
  | [] => .error illFormed
  | '"' :: rest =>
      if !long then .ok (.done (text.reverse, rest))
      else if rest.take 2 == ['"', '"'] then
        .ok (.done (withQuotes '"' text.reverse (rest.drop 2)))
      else .ok (.next ('"' :: text, rest))
  | '\\' :: rest =>
      match readEscape? long rest with
      | some (more, rest) => .ok (.next (more.reverse ++ text, rest))
      | none => .error illFormed
  | char :: rest =>
      if if long then isInLines char else isInLine char then .ok (.next (char :: text, rest))
      else .error illFormed

/-- A text between quotation marks, one or three on each side, without the opening ones. -/
def readBasic (long : Bool) (chars : List Char) : Except ReadingFault (List Char × List Char) :=
  descend (fun state => state.2.length) illFormed (basicStep long) ([], chars)

def skipFirstLineEnd (chars : List Char) : List Char :=
  match chars with
  | '\n' :: rest => rest
  | chars => chars

def readText (chars : List Char) : Except ReadingFault (String × List Char) :=
  let text := match chars with
    | '"' :: '"' :: '"' :: rest => readBasic true (skipFirstLineEnd rest)
    | '"' :: rest => readBasic false rest
    | '\'' :: '\'' :: '\'' :: rest =>
        required ((readLongLiteral (skipFirstLineEnd rest)).map fun (text, rest) =>
          withQuotes '\'' text rest)
    | '\'' :: rest => required (readLiteral rest)
    | _ => .error illFormed
  text.map fun (text, rest) => (String.ofList text, rest)

/-! ### Keys -/

def isBare (char : Char) : Bool := char.isAlphanum || char == '-' || char == '_'

def readPart (chars : List Char) : Except ReadingFault (String × List Char) :=
  match chars with
  | '"' :: rest => (readBasic false rest).map fun (name, rest) => (String.ofList name, rest)
  | '\'' :: rest => required ((readLiteral rest).map fun (name, rest) => (String.ofList name, rest))
  | chars =>
      let name := chars.takeWhile isBare
      if name.isEmpty then .error illFormed
      else .ok (String.ofList name, chars.dropWhile isBare)

def keyStep (state : List String × List Char) :
    Except ReadingFault (Step (List String × List Char) (List String × List Char)) := do
  let (parts, chars) := state
  let (part, rest) ← readPart chars
  match skipBlanks rest with
  | '.' :: rest => return .next (parts ++ [part], skipBlanks rest)
  | rest => return .done (parts ++ [part], rest)

/-- The parts of a key, between points, and the characters behind it and behind blanks. -/
def readKey (chars : List Char) : Except ReadingFault (List String × List Char) :=
  descend (fun state => state.2.length) illFormed keyStep ([], chars)

end UrlRouting.Toml
