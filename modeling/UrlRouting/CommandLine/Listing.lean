import UrlRouting.Route

/-!
The listing of a table of routes: three columns under a heading and a rule.
-/

namespace UrlRouting.CommandLine

structure Row where
  name : String
  methods : String
  path : String
  deriving DecidableEq, Repr

namespace Row

def heading : Row := ⟨"NAME", "METHOD", "PATH"⟩

def ofRoute (name : String) (route : Route) : Row := ⟨name, route.methods.shown, route.path⟩

def padded (width : Nat) (text : String) : String :=
  text ++ String.ofList (List.replicate (width - text.length) ' ')

def text (nameWidth methodsWidth : Nat) (row : Row) : String :=
  padded nameWidth row.name ++ "  " ++ padded methodsWidth row.methods ++ "  " ++ row.path

end Row

def greatestLength (texts : List String) : Nat :=
  texts.foldl (fun greatest text => max greatest text.length) 0

def ruleLimit : Nat := 80

/-- The lines of the listing of some routes.  The first two columns are as wide as their widest
text; the rule is as wide as the listing without the word over the paths, within a limit. -/
def listing (entries : List (String × Route)) : List String :=
  let rows := entries.map fun (name, route) => Row.ofRoute name route
  let nameWidth := greatestLength (Row.heading.name :: rows.map (·.name))
  let methodsWidth := greatestLength (Row.heading.methods :: rows.map (·.methods))
  let ruleWidth := nameWidth + methodsWidth + 4 + greatestLength (rows.map (·.path))
  let rule := String.ofList (List.replicate (min ruleWidth ruleLimit) '-')
  Row.heading.text nameWidth methodsWidth :: rule ::
    rows.map (Row.text nameWidth methodsWidth)

end UrlRouting.CommandLine
