import UrlRouting.Text.Category

/-!
Words of a command line: what a word is to a command that knows some options.  Options may be
written in full or by the start of their name, their value in the next word or behind a sign of
equality in the same one.
-/

namespace UrlRouting.CommandLine

inductive ValueOption where
  | method
  | parameter
  | baseUrl
  deriving DecidableEq, Repr

def ValueOption.name : ValueOption → String
  | method => "--method"
  | parameter => "--param"
  | baseUrl => "--base-url"

/-- What a word is: an operand, the wish for help, an option with its value if that is attached, a
wish for help with a value, which it cannot have, an option that is not known, or the start of the
names of several options. -/
inductive Word where
  | operand (text : String)
  | help
  | valued (option : ValueOption) (attached : Option String)
  | helpWithValue
  | stray
  | ambiguous
  deriving DecidableEq, Repr

namespace Word

/-- The word that separates the options from operands that may look like options. -/
def separator : String := "--"

/-- What is before the first sign of equality, and what is behind it if there is one. -/
def splitAtEquals : List Char → List Char × Option (List Char)
  | [] => ([], none)
  | char :: rest =>
      if char == '=' then ([], some rest)
      else
        let (before, behind) := splitAtEquals rest
        (char :: before, behind)

/-- Whether the digits behind a minus sign make it a number, with or without a point. -/
def isMagnitude (chars : List Char) : Bool :=
  match chars.dropWhile Text.isDecimalDigit with
  | [] => !chars.isEmpty
  | '.' :: fraction => !fraction.isEmpty && fraction.all Text.isDecimalDigit
  | _ => false

def withoutLineBreak (chars : List Char) : List Char :=
  if chars.getLast? == some '\n' then chars.dropLast else chars

/-- A word that starts like an option but is none that is known.  It is an operand if it is a
negative number or holds a space. -/
def unknown (text : String) : Word :=
  if isMagnitude (withoutLineBreak (text.toList.drop 1)) || text.toList.contains ' ' then
    operand text
  else stray

/-- What follows the short name for help in a word: that name may be repeated, and anything else
but a minus sign or a sign of equality may follow it. -/
def afterShortHelp : List Char → Word
  | 'h' :: rest => afterShortHelp rest
  | '-' :: _ | '=' :: _ => helpWithValue
  | _ => help

def named (option? : Option ValueOption) (attached : Option String) : Word :=
  match option?, attached with
  | some option, attached => valued option attached
  | none, none => help
  | none, some _ => helpWithValue

def longNames (options : List ValueOption) : List (String × Option ValueOption) :=
  ("--help", none) :: options.map fun option => (option.name, some option)

/-- A word with two minus signs in front: a name in full counts before the start of any other. -/
def ofLong (options : List ValueOption) (text : String) : Word :=
  let (name, attached) := splitAtEquals text.toList
  let attached := attached.map String.ofList
  match (longNames options).lookup (String.ofList name) with
  | some option? => named option? attached
  | none =>
      match (longNames options).filter fun (long, _) => name.isPrefixOf long.toList with
      | [] => unknown text
      | [(_, option?)] => named option? attached
      | _ => ambiguous

def ofText (options : List ValueOption) (text : String) : Word :=
  match text.toList with
  | '-' :: '-' :: _ => ofLong options text
  | '-' :: 'h' :: rest => afterShortHelp rest
  | '-' :: _ :: _ => unknown text
  | _ => operand text

end Word

end UrlRouting.CommandLine
