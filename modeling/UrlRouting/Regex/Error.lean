import UrlRouting.Text.Quoted

/-!
What can be wrong with the text of a regular expression, and how it is reported.
-/

namespace UrlRouting

inductive RegexFault where
  | danglingBackslash
  | badEscape (escape : String)
  | incompleteEscape (escape : String)
  | octalTooLarge (escape : String)
  | codeTooLarge
  | missingBrace
  | unknownCharacterName (name : String)
  | missingName (what : String)
  | unterminatedName (terminator : Char)
  | badGroupName (name : String)
  | unknownGroupName (name : String)
  | badGroupNumber
  | noSuchGroup (number : Nat)
  | openGroup
  | groupInSameLookbehind
  | groupRedefined (name : String) (number earlier : Nat)
  | unterminatedClass
  | badRange (first last : String)
  | leastAboveMost
  | nothingToRepeat
  | repeatedRepetition
  | repetitionTooLarge
  | endOfPattern
  | unknownExtension (text : String)
  | unterminatedComment
  | unterminatedGroup
  | tooManyBranches
  | unbalancedParenthesis
  | flagsNotAtStart
  | localeFlag
  | incompatibleFlags
  | contraryFlags
  | unknownFlag
  | missingAfterFlag (expected : String)
  | globalFlagOn
  | globalFlagOff
  | typeFlagOff
  | flagOnAndOff
  | variableLookbehind
  deriving DecidableEq, Repr

def RegexFault.text : RegexFault → String
  | danglingBackslash => "bad escape (end of pattern)"
  | badEscape escape => s!"bad escape {escape}"
  | incompleteEscape escape => s!"incomplete escape {escape}"
  | octalTooLarge escape => s!"octal escape value {escape} outside of range 0-0o377"
  | codeTooLarge => "Python int too large to convert to C int"
  | missingBrace => "missing \x7b"
  | unknownCharacterName name => "undefined character name " ++ Text.quoted name
  | missingName what => s!"missing {what}"
  | unterminatedName terminator => s!"missing {terminator}, unterminated name"
  | badGroupName name => "bad character in group name " ++ Text.quoted name
  | unknownGroupName name => "unknown group name " ++ Text.quoted name
  | badGroupNumber => "bad group number"
  | noSuchGroup number => s!"invalid group reference {number}"
  | openGroup => "cannot refer to an open group"
  | groupInSameLookbehind => "cannot refer to group defined in the same lookbehind subpattern"
  | groupRedefined name number earlier =>
      "redefinition of group name " ++ Text.quoted name ++
        s!" as group {number}; was group {earlier}"
  | unterminatedClass => "unterminated character set"
  | badRange first last => s!"bad character range {first}-{last}"
  | leastAboveMost => "min repeat greater than max repeat"
  | nothingToRepeat => "nothing to repeat"
  | repeatedRepetition => "multiple repeat"
  | repetitionTooLarge => "the repetition number is too large"
  | endOfPattern => "unexpected end of pattern"
  | unknownExtension text => s!"unknown extension ?{text}"
  | unterminatedComment => "missing ), unterminated comment"
  | unterminatedGroup => "missing ), unterminated subpattern"
  | tooManyBranches => "conditional backref with more than two branches"
  | unbalancedParenthesis => "unbalanced parenthesis"
  | flagsNotAtStart => "global flags not at the start of the expression"
  | localeFlag => "bad inline flags: cannot use 'L' flag with a str pattern"
  | incompatibleFlags => "bad inline flags: flags 'a', 'u' and 'L' are incompatible"
  | contraryFlags => "ASCII and UNICODE flags are incompatible"
  | unknownFlag => "unknown flag"
  | missingAfterFlag expected => s!"missing {expected}"
  | globalFlagOn => "bad inline flags: cannot turn on global flag"
  | globalFlagOff => "bad inline flags: cannot turn off global flag"
  | typeFlagOff => "bad inline flags: cannot turn off flags 'a', 'u' and 'L'"
  | flagOnAndOff => "bad inline flags: flag turned on and off"
  | variableLookbehind => "look-behind requires fixed-width pattern"

/-- A fault and the place in the text where it was found, if it has one. -/
structure RegexError where
  fault : RegexFault
  position : Option Nat
  deriving DecidableEq, Repr

def lineAndColumn (text : List Char) (position : Nat) : Nat × Nat :=
  let before := text.take position
  (before.count '\n' + 1, (before.reverse.takeWhile (· != '\n')).length + 1)

/-- The report of an error in `source`.  The line and column are told only if there are several
lines. -/
def RegexError.message (error : RegexError) (source : String) : String :=
  match error.position with
  | none => error.fault.text
  | some position =>
      let place := s!"{error.fault.text} at position {position}"
      if source.toList.contains '\n' then
        let (line, column) := lineAndColumn source.toList position
        place ++ s!" (line {line}, column {column})"
      else place

end UrlRouting
