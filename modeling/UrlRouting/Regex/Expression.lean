import UrlRouting.Regex.Parser
import UrlRouting.Regex.Matcher

/-!
A regular expression ready for use: its text, its syntax and the names of its groups.
-/

namespace UrlRouting

/-- A regular expression that has been read from its text.  The names of groups stand in the order
in which the groups open. -/
structure Expression where
  source : String
  regex : Regex
  names : List (String × Nat)
  deriving DecidableEq, Repr

namespace Expression

def compile (source : String) : Except RegexError Expression :=
  let tokens := Regex.Token.ofChars source.toList
  match Regex.readTokens tokens with
  | .ok progress => .ok ⟨source, progress.frame.body, progress.groups.names⟩
  | .error trouble =>
      .error ⟨trouble.fault, trouble.fromEnd.map (Regex.Token.width tokens - ·)⟩

/-- What the named groups hold after the expression has taken a whole text, in the order of the
names; `none` for a group that took no part. -/
def fullMatch? (expression : Expression) (text : String) :
    Option (List (String × Option String)) :=
  (expression.regex.fullMatch? text.toList).map fun captures =>
    expression.names.map fun (name, number) =>
      (name, (captures.lookup number).map String.ofList)

def accepts (expression : Expression) (text : String) : Bool :=
  (expression.regex.fullMatch? text.toList).isSome

end Expression

end UrlRouting
