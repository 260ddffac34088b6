import UrlRouting.Regex.Expression
import UrlRouting.Template.Segment
import UrlRouting.Value

/-!
Templates ready for matching: the expression for the whole path, with a named group for each
variable.  Variables at the end of a template that all have defaults may be left out of a path,
from the last one backwards; each takes along the literal before it.
-/

namespace UrlRouting

/-- Regular expressions for variables, by name. -/
abbrev Requirements := Entries Value String

/-- A template and what is derived from it for matching and generation.  `segments` from
`optionalFrom` on may be left out, and with all of them the character `leadSeparator` that ends
the literal before.  `requirements` and `constraints` are those of the variables that are
restricted. -/
structure CompiledTemplate where
  segments : List Segment
  optionalFrom : Nat
  leadSeparator : Option Char
  requirements : List (String × String)
  constraints : List (String × Expression)
  expression : Expression
  deriving DecidableEq, Repr

inductive CompileFault where
  | malformed (fault : TemplateFault)
  | requirement (variableName source : String) (error : RegexError)
  | assembled (template source : String) (error : RegexError)
  deriving DecidableEq, Repr

def CompileFault.message : CompileFault → String
  | .malformed fault => fault.message
  | .requirement name source error =>
      "Invalid requirement " ++ Text.quoted source ++
        " for variable " ++ Text.quoted name ++ ": " ++ error.message source
  | .assembled template source error =>
      "Route template " ++ Text.quoted template ++ " compiles to an invalid pattern: " ++
        error.message source

namespace CompiledTemplate

def variableNames (compiled : CompiledTemplate) : List String :=
  compiled.segments.filterMap (·.variableName?)

def optionalNames (compiled : CompiledTemplate) : List String :=
  (compiled.segments.drop compiled.optionalFrom).filterMap (·.variableName?)

def pattern (compiled : CompiledTemplate) : String := compiled.expression.source

/-! ### The part that may be left out -/

def separators : List Char :=
  ['/', ',', ';', '.', ':', '-', '_', '~', '+', '*', '=', '@', '|']

/-- The number of segments at the end, read backwards, that may be left out: up to the last
variable with a default before one without. -/
def optionalLength (hasDefault : String → Bool) : List Segment → Nat
  | [] => 0
  | .literal _ :: rest =>
      match optionalLength hasDefault rest with
      | 0 => 0
      | n + 1 => n + 2
  | .var name _ :: rest =>
      if hasDefault name then optionalLength hasDefault rest + 1 else 0

/-- The index of the first segment that may be left out, or the number of segments.  A literal at
the end keeps all variables in place. -/
def optionalStart (hasDefault : String → Bool) (segments : List Segment) : Nat :=
  match segments.reverse with
  | [] | .literal _ :: _ => segments.length
  | backwards => segments.length - optionalLength hasDefault backwards

/-- The separator that is left out with the first optional variable.  The slash at the start of a
template stays, so that the root path can be matched. -/
def leadSeparatorOf (segments : List Segment) (optionalFrom : Nat) : Option Char :=
  if optionalFrom = 0 || segments.length ≤ optionalFrom then none
  else
    match segments[optionalFrom - 1]? with
    | some (.literal text) =>
        if optionalFrom = 1 && text = "/" then none
        else
          match text.toList.getLast? with
          | some last => if separators.contains last then some last else none
          | none => none
    | _ => none

/-! ### The text of the expression -/

/-- Characters that an expression would read as something other than themselves. -/
def specialChars : List Char :=
  ['\t', '\n', '\x0b', '\x0c', '\r', ' ', '#', '$', '&', '(', ')', '*', '+', '-', '.', '?', '[',
    '\\', ']', '^', '\x7b', '|', '\x7d', '~']

def escaped (chars : List Char) : List Char :=
  chars.flatMap fun char => if specialChars.contains char then ['\\', char] else [char]

def sourceOf (requirements : List (String × String)) (name : String) : String :=
  (requirements.lookup name).getD Converter.str.pattern

def groupText (requirements : List (String × String)) (name : String) : List Char :=
  ['(', '?', 'P', '<'] ++ name.toList ++ '>' :: (sourceOf requirements name).toList ++ [')']

/-- The segments that every path has; the separator at the end of the last one is left to the
optional part. -/
def fixedText (requirements : List (String × String)) (lead : Option Char) :
    List Segment → List Char
  | [] => []
  | [.literal text] =>
      escaped (if lead.isSome then text.toList.dropLast else text.toList)
  | .literal text :: rest => escaped text.toList ++ fixedText requirements lead rest
  | .var name _ :: rest => groupText requirements name ++ fixedText requirements lead rest

/-- The segments that may be left out, nested so that a later variable needs the earlier ones;
`before` is the literal since the last variable. -/
def optionalText (requirements : List (String × String)) (before : List Char) :
    List Segment → List Char
  | [] => []
  | .literal text :: rest => optionalText requirements text.toList rest
  | .var name _ :: rest =>
      ['(', '?', ':'] ++ escaped before ++ groupText requirements name ++
        optionalText requirements [] rest ++ [')', '?']

def sourceText (requirements : List (String × String)) (segments : List Segment)
    (optionalFrom : Nat) (lead : Option Char) : String :=
  String.ofList <|
    '^' :: fixedText requirements lead (segments.take optionalFrom) ++
      optionalText requirements lead.toList (segments.drop optionalFrom) ++ ['$']

/-! ### Compilation -/

/-- The expression that restricts a variable: an explicit requirement, or that of a converter. -/
def requirementOf (requirements : Requirements) (name : String) (converter : Converter) :
    Option String :=
  match requirements.get? (.text name) with
  | some source => some source
  | none => if converter = .str then none else some converter.pattern

/-- The restricted variables with their expressions, in the order of the template. -/
def requirementsOf (requirements : Requirements) : List Segment → List (String × String)
  | [] => []
  | .literal _ :: rest => requirementsOf requirements rest
  | .var name converter :: rest =>
      match requirementOf requirements name (converter.getD .str) with
      | some source => (name, source) :: requirementsOf requirements rest
      | none => requirementsOf requirements rest

def constraintsOf : List (String × String) → Except CompileFault (List (String × Expression))
  | [] => .ok []
  | (name, source) :: rest =>
      match Expression.compile source with
      | .error error => .error (.requirement name source error)
      | .ok expression =>
          match constraintsOf rest with
          | .error fault => .error fault
          | .ok constraints => .ok ((name, expression) :: constraints)

def compile (template : String) (defaults : Attributes) (requirements : Requirements) :
    Except CompileFault CompiledTemplate :=
  match Segment.parse template with
  | .error fault => .error (.malformed fault)
  | .ok segments =>
      let effective := requirementsOf requirements segments
      match constraintsOf effective with
      | .error fault => .error fault
      | .ok constraints =>
          let optionalFrom := optionalStart defaults.hasName segments
          let lead := leadSeparatorOf segments optionalFrom
          let source := sourceText effective segments optionalFrom lead
          match Expression.compile source with
          | .error error => .error (.assembled template source error)
          | .ok expression =>
              .ok ⟨segments, optionalFrom, lead, effective, constraints, expression⟩

end CompiledTemplate

end UrlRouting
