import UrlRouting.Text.Quoted

/-!
Route templates as text: literals, and variables in braces with an optional converter.  A template
is cut into segments from left to right, and the segments' texts make up the template.
-/

namespace UrlRouting

/-- The kinds of values that a variable can be declared to take. -/
inductive Converter where
  | str
  | int
  | float
  deriving DecidableEq, Repr

namespace Converter

def all : List Converter := [str, int, float]

def name : Converter → String
  | str => "str"
  | int => "int"
  | float => "float"

/-- The regular expression of the values; that of `str` is one non-empty path segment. -/
def pattern : Converter → String
  | str => "[^/]+"
  | int => "\\d+"
  | float => "\\d+(?:\\.\\d+)?"

def named? (name : String) : Option Converter :=
  all.find? (·.name == name)

end Converter

inductive Segment where
  | literal (text : String)
  | var (name : String) (converter : Option Converter)
  deriving DecidableEq, Repr

inductive TemplateFault where
  | angleBrackets (template placeholder : String)
  | unknownConverter (template name converter : String)
  | repeatedVariable (template name : String)
  deriving DecidableEq, Repr

def TemplateFault.message : TemplateFault → String
  | angleBrackets template placeholder =>
      "Route template " ++ Text.quoted template ++
        " uses <param> syntax (" ++ placeholder ++ "). " ++
        "Waypoint placeholders use \x7bparam\x7d, e.g. '/share/\x7bslug\x7d'."
  | unknownConverter template name converter =>
      "Unknown converter " ++ Text.quoted converter ++ " for variable " ++ Text.quoted name ++
        " in " ++ Text.quoted template ++ ". Known converters: float, int, str."
  | repeatedVariable template name =>
      "Variable " ++ Text.quoted name ++ " appears more than once in route template " ++
        Text.quoted template ++ "."

namespace Segment

def written : Segment → String
  | literal text => text
  | var name none => "\x7b" ++ name ++ "\x7d"
  | var name (some converter) => "\x7b" ++ name ++ ":" ++ converter.name ++ "\x7d"

def variableName? : Segment → Option String
  | literal _ => none
  | var name _ => some name

def isVariable (segment : Segment) : Bool := segment.variableName?.isSome

/-- The converter in force: that of a variable, or the plain one. -/
def converter : Segment → Converter
  | var _ (some converter) => converter
  | _ => .str

/-! ### Names -/

def isNameChar (char : Char) : Bool := char.isAlphanum || char == '_'

def isNameStart (char : Char) : Bool := char.isAlpha || char == '_'

def takeName? : List Char → Option (List Char × List Char)
  | [] => none
  | first :: rest =>
      if isNameStart first then some (first :: rest.takeWhile isNameChar, rest.dropWhile isNameChar)
      else none

/-! ### Placeholders in angle brackets -/

/-- The placeholder in angle brackets at the front, whose opening bracket has been taken: a name,
or a word of letters, a colon and a name. -/
def angleAt? (chars : List Char) : Option (List Char) := do
  let (first, rest) ← takeName? chars
  match rest with
  | '>' :: _ => some ('<' :: first ++ ['>'])
  | ':' :: rest =>
      if first.all isNameStart then
        let (second, rest) ← takeName? rest
        match rest with
        | '>' :: _ => some ('<' :: first ++ ':' :: second ++ ['>'])
        | _ => none
      else none
  | _ => none

def findAngle? : List Char → Option (List Char)
  | [] => none
  | char :: rest =>
      match (if char == '<' then angleAt? rest else none) with
      | some placeholder => some placeholder
      | none => findAngle? rest

/-! ### Variables -/

/-- A variable as written: its name and the name of its converter. -/
structure Placeholder where
  name : String
  converter : Option String
  deriving DecidableEq, Repr

def Placeholder.charsAfterBrace (placeholder : Placeholder) : List Char :=
  placeholder.name.toList ++
    (match placeholder.converter with
      | none => []
      | some converter => ':' :: converter.toList) ++ ['\x7d']

/-- The placeholder at the front, whose opening brace has been taken. -/
def placeholderAt? (chars : List Char) : Option Placeholder := do
  let (name, rest) ← takeName? chars
  match rest with
  | '\x7d' :: _ => some ⟨String.ofList name, none⟩
  | ':' :: rest =>
      let (converter, rest) ← takeName? rest
      match rest with
      | '\x7d' :: _ => some ⟨String.ofList name, some (String.ofList converter)⟩
      | _ => none
  | _ => none

/-- The next thing in a template: a character, or a placeholder. -/
inductive Piece where
  | char (char : Char)
  | placeholder (placeholder : Placeholder)
  deriving DecidableEq, Repr

def pieces : List Char → List Piece
  | [] => []
  | first :: rest =>
      match (if first == '\x7b' then placeholderAt? rest else none) with
      | some placeholder =>
          .placeholder placeholder :: pieces (rest.drop placeholder.charsAfterBrace.length)
      | none => .char first :: pieces rest
termination_by chars => chars.length
decreasing_by all_goals grind

def literalOf (chars : List Char) : List Segment :=
  if chars.isEmpty then [] else [.literal (String.ofList chars.reverse)]

/-- Joins characters to literals and checks the placeholders, from left to right.  `seen` holds
the names so far and `chars` the literal characters since the last placeholder. -/
def ofPieces (template : String) (seen : List String) (chars : List Char) :
    List Piece → Except TemplateFault (List Segment)
  | [] => .ok (literalOf chars)
  | .char char :: rest => ofPieces template seen (char :: chars) rest
  | .placeholder ⟨name, converterName⟩ :: rest =>
      match converterName.map fun written => (written, Converter.named? written) with
      | some (written, none) => .error (.unknownConverter template name written)
      | checked =>
          if seen.contains name then .error (.repeatedVariable template name)
          else
            match ofPieces template (name :: seen) [] rest with
            | .error fault => .error fault
            | .ok segments =>
                let converter := checked.bind (·.2)
                .ok (literalOf chars ++ .var name converter :: segments)

def parse (template : String) : Except TemplateFault (List Segment) :=
  match findAngle? template.toList with
  | some placeholder => .error (.angleBrackets template (String.ofList placeholder))
  | none => ofPieces template [] [] (pieces template.toList)

end Segment

end UrlRouting
