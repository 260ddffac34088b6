import UrlRouting.Text.Casing

/-!
Paths of files: their normal form, in which messages show them, and the format that the suffix of
the last component announces, or that it announces a module.
-/

namespace UrlRouting

/-- A path: the slashes at its start, which are none, one or two, and its components. -/
structure FilePath where
  root : String
  components : List String
  deriving DecidableEq, Repr

inductive FileFormat where
  | json
  | toml
  | yaml
  deriving DecidableEq, Repr

namespace FilePath

def splitSlashes : List Char → List (List Char)
  | [] => [[]]
  | char :: rest =>
      match splitSlashes rest with
      | [] => [[char]]
      | first :: others => if char == '/' then [] :: first :: others else (char :: first) :: others

/-- Slashes at the start: exactly two are kept, any other number counts as one. -/
def rootOf : List Char → String
  | '/' :: '/' :: '/' :: _ => "/"
  | '/' :: '/' :: _ => "//"
  | '/' :: _ => "/"
  | _ => ""

/-- The path that a text denotes: empty components and single dots do not count. -/
def ofText (text : String) : FilePath :=
  let parts := (splitSlashes text.toList).filter fun part => !part.isEmpty && part != ['.']
  ⟨rootOf text.toList, parts.map String.ofList⟩

/-- The text of a path; one without components is a dot. -/
def text (path : FilePath) : String :=
  let text := path.root ++ "/".intercalate path.components
  if text.isEmpty then "." else text

/-- The suffix of a file name: from its last dot on, which must be neither its first nor its last
character. -/
def suffixOf (name : List Char) : List Char :=
  let after := name.reverse.takeWhile (· != '.')
  let before := name.length - after.length
  if after.length < name.length && 1 < before && !after.isEmpty then '.' :: after.reverse else []

def lowerCase (chars : List Char) : List Char :=
  chars.map fun char => Char.ofNat (Text.lowerCode char.toNat)

def formatOf? (suffix : List Char) : Option FileFormat :=
  let lower := lowerCase suffix
  if lower == ".json".toList then some .json
  else if lower == ".toml".toList then some .toml
  else if lower == ".yaml".toList || lower == ".yml".toList then some .yaml
  else none

def format? (path : FilePath) : Option FileFormat :=
  path.components.getLast?.bind fun name => formatOf? (suffixOf name.toList)

/-- Whether a path leads to a module, which has to be executed, and not to a notation. -/
def isModule (path : FilePath) : Bool :=
  path.components.getLast?.any fun name => lowerCase (suffixOf name.toList) == ".py".toList

end FilePath

end UrlRouting
