import UrlRouting.Declaration
import UrlRouting.FilePath
import UrlRouting.Json.Reader
import UrlRouting.Toml.Reader
import UrlRouting.Yaml.Reader

/-!
Files of routes: from the bytes of a file to its configuration and to the table of its routes.
-/

namespace UrlRouting

namespace FileFormat

def read : FileFormat → List Char → Except ReadingFault Value
  | json => Json.read
  | toml => Toml.read
  | yaml => Yaml.read

end FileFormat

/-- A path, and the bytes of the file to which it leads if it leads to a file. -/
structure RouteFile where
  path : String
  content : Option (List UInt8)

/-- What comes of a module when it is executed: it cannot be imported, it fails, or it defines its
routes or does not.  Modules are not executed here; whoever can execute them says what comes of
it. -/
inductive ModuleOutcome where
  | notImported
  | failed (detail : String)
  | undefined
  | defined (routes : Value)

namespace RouteFile

def shownPath (file : RouteFile) : String := (FilePath.ofText file.path).text

def failure (file : RouteFile) : ReadingFault → Failure
  | .malformed detail => .file (.unreadable file.shownPath detail)
  | .scalar fault => .scalar fault

def value (file : RouteFile) (format : FileFormat) (bytes : List UInt8) : Except Failure Value :=
  match Text.decodeUtf8 bytes with
  | .error fault => .error (.undecodable fault)
  | .ok text => (format.read (Text.normalizeLineEnds text.toList)).mapError file.failure

def moduleValue (file : RouteFile) : ModuleOutcome → Except Failure Value
  | .notImported => .error (.file (.notImported file.shownPath))
  | .failed detail => .error (.file (.moduleFailed file.shownPath detail))
  | .undefined => .error (.file (.noRoutes file.shownPath))
  | .defined routes => .ok routes

/-- The value of a file with some content: that of a module is what executing it gives, any other
suffix must announce a notation. -/
def contentValue (file : RouteFile) (executed : ModuleOutcome) (bytes : List UInt8) :
    Except Failure Value :=
  let path := FilePath.ofText file.path
  if path.isModule then file.moduleValue executed
  else
    match path.format? with
    | none => .error (.file (.unsupported file.shownPath))
    | some format => file.value format bytes

/-- The configuration in a file: there must be a file, and what is in it must be a map. -/
def configuration (file : RouteFile) (executed : ModuleOutcome := .notImported) :
    Except Failure Attributes :=
  match file.content with
  | none => .error (.fileNotFound file.path)
  | some bytes =>
      match file.contentValue executed bytes with
      | .error failure => .error failure
      | .ok (.map entries) => .ok entries
      | .ok other => .error (.file (.noMapping file.shownPath other.kindName))

/-- The table of a file's routes. -/
def table (file : RouteFile) (executed : ModuleOutcome := .notImported) :
    Reported (RouteTable Route) := do
  match file.configuration executed with
  | .error failure => throw failure
  | .ok entries =>
      let table ← RouteTable.ofConfiguration (.map entries)
      Reported.report (.fileLoaded table.size file.path)
      return table

end RouteFile

end UrlRouting
