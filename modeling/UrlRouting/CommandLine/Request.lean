import UrlRouting.CommandLine.Word

/-!
From the words of a command line to what is asked for.  The words before the command concern the
program, those behind it the command.
-/

namespace UrlRouting.CommandLine

inductive Command where
  | routes
  | resolve
  | link
  deriving DecidableEq, Repr

namespace Command

def all : List Command := [routes, resolve, link]

def name : Command → String
  | routes => "routes"
  | resolve => "match"
  | link => "generate"

def options : Command → List ValueOption
  | routes => []
  | resolve => [.method]
  | link => [.parameter, .baseUrl]

def named? (word : String) : Option Command := all.find? (·.name == word)

end Command

/-- What is asked for.  An operand has no text if a separator stands in its place. -/
inductive Request where
  | routes (file : String)
  | resolve (file : String) (path : Option String) (method : String)
  | link (file : String) (name : Option String) (parameters : List String) (baseUrl : String)
  deriving DecidableEq, Repr

def Request.file : Request → String
  | routes file | resolve file _ _ | link file _ _ _ => file

/-- What comes of reading a command line: a request, or the need for help, be it asked for or not,
with the program or one of its commands. -/
inductive Reading where
  | request (request : Request)
  | help (command? : Option Command)
  | misuse (command? : Option Command)
  deriving DecidableEq, Repr

/-- The arguments of a command as far as they are read: operands in order, values of options,
whether the last word was an operand, and whether there was a word that has no place. -/
structure Arguments where
  operands : List (Option String)
  method : String
  parameters : List String
  baseUrl : String
  afterOperand : Bool
  misplaced : Bool
  deriving DecidableEq, Repr

namespace Arguments

def initial : Arguments := ⟨[], "GET", [], "", false, false⟩

def withOperand (arguments : Arguments) (text : String) : Arguments :=
  { arguments with operands := arguments.operands ++ [some text], afterOperand := true }

def withValue (arguments : Arguments) (option : ValueOption) (value : String) : Arguments :=
  let arguments := { arguments with afterOperand := false }
  match option with
  | .method => { arguments with method := value }
  | .parameter => { arguments with parameters := arguments.parameters ++ [value] }
  | .baseUrl => { arguments with baseUrl := value }

/-- Reads words from left to right.  A wish for help ends the reading, and so does a word that
cannot be read; a word that has no place is noted only, because help may still be asked for. -/
def read (command : Command) (arguments : Arguments) : List Word → Except Reading Arguments
  | [] => .ok arguments
  | .help :: _ => .error (.help (some command))
  | .helpWithValue :: _ | .ambiguous :: _ => .error (.misuse (some command))
  | .stray :: rest => read command { arguments with afterOperand := false, misplaced := true } rest
  | .operand text :: rest => read command (arguments.withOperand text) rest
  | .valued option (some value) :: rest => read command (arguments.withValue option value) rest
  | .valued option _ :: .operand value :: rest =>
      read command (arguments.withValue option value) rest
  | .valued _ _ :: _ => .error (.misuse (some command))

/-- Adds the words behind the separator, all of which are operands.  The separator belongs to the
operand next to it, and needs one; a further separator in the place of another operand leaves that
one without a text. -/
def withPlain (arguments : Arguments) (words : List String) : Arguments :=
  let plain := fun word => if word == Word.separator then none else some word
  match words, arguments.afterOperand with
  | [], afterOperand => { arguments with misplaced := arguments.misplaced || !afterOperand }
  | words, true => { arguments with operands := arguments.operands ++ words.map plain }
  | first :: words, false =>
      { arguments with operands := arguments.operands ++ some first :: words.map plain }

/-- The request that the arguments of a command make, if they are as many as it needs. -/
def request? (command : Command) (arguments : Arguments) : Option Request :=
  if arguments.misplaced then none
  else
    match command, arguments.operands with
    | .routes, [some file] => some (.routes file)
    | .resolve, [some file, path] => some (.resolve file path arguments.method)
    | .link, [some file, name] =>
        some (.link file name arguments.parameters arguments.baseUrl)
    | _, _ => none

end Arguments

namespace Reading

/-- Reads the words behind a command.  The start of several names cannot be read at all, even
behind a wish for help. -/
def ofCommand (command : Command) (texts : List String) : Reading :=
  let marked := texts.takeWhile (· != Word.separator)
  let words := marked.map (Word.ofText command.options)
  if words.contains .ambiguous then misuse (some command)
  else
    match Arguments.initial.read command words with
    | .error reading => reading
    | .ok arguments =>
        let arguments :=
          match texts.drop marked.length with
          | [] => arguments
          | _ :: plain => arguments.withPlain plain
        match arguments.request? command with
        | some made => request made
        | none => misuse (some command)

/-- A reading of the words behind a word that has no place: a request among them is refused. -/
def refuseRequest : Reading → Reading
  | request _ => misuse none
  | reading => reading

def beforeCommand : List String → Reading
  | [] => misuse none
  | text :: rest =>
      if text == Word.separator then misuse none
      else
        match Word.ofText [] text with
        | .operand word =>
            match Command.named? word with
            | some command => ofCommand command rest
            | none => misuse none
        | .help => help none
        | .stray => refuseRequest (beforeCommand rest)
        | _ => misuse none

def ofTexts : List String → Reading
  | [] => help none
  | texts => beforeCommand texts

def file? : Reading → Option String
  | request made => some made.file
  | _ => none

end Reading

end UrlRouting.CommandLine
