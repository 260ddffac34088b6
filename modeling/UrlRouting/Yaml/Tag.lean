import UrlRouting.Reading

/-!
What the nodes of a YAML text are, by their tags, and the tags of plain scalars, which depend on
their texts.
-/

namespace UrlRouting.Yaml

/-- The kind of a node.  A mapping is unmergeable if it cannot take over the pairs that it
should. -/
inductive Tag where
  | null
  | bool
  | int
  | float
  | binary
  | timestamp
  | orderedMap
  | pairs
  | set
  | text
  | sequence
  | mapping
  | merge
  | default
  | unmergeable
  | unknown
  deriving DecidableEq, Repr

namespace Tag

def namespaceName : String := "tag:yaml.org,2002:"

def known : List (String × Tag) := [
  ("null", null), ("bool", bool), ("int", int), ("float", float), ("binary", binary),
  ("timestamp", timestamp), ("omap", orderedMap), ("pairs", pairs), ("set", set), ("str", text),
  ("seq", sequence), ("map", mapping), ("merge", merge), ("value", default)]

def ofName (name : String) : Tag :=
  match known.find? fun (short, _) => namespaceName ++ short == name with
  | some (_, tag) => tag
  | none => unknown

def isScalar (tag : Tag) : Bool := [null, bool, int, float, binary, timestamp, text].contains tag

end Tag

/-! ### Plain scalars -/

def skipSign (chars : List Char) : List Char :=
  match chars with
  | '-' :: rest | '+' :: rest => rest
  | chars => chars

def isSpacedDigit (char : Char) : Bool := char.isDigit || char == '_'

def areSome (test : Char → Bool) (chars : List Char) : Bool := !chars.isEmpty && chars.all test

def isSpacedNumber (chars : List Char) : Bool :=
  chars.head?.any Char.isDigit && chars.all isSpacedDigit

def splitColons : List Char → List (List Char)
  | [] => [[]]
  | char :: rest =>
      match splitColons rest with
      | [] => [[char]]
      | first :: others => if char == ':' then [] :: first :: others else (char :: first) :: others

def isSixtieth (part : List Char) : Bool :=
  match part with
  | [digit] => digit.isDigit
  | [ten, digit] => '0' ≤ ten && ten ≤ '5' && digit.isDigit
  | _ => false

/-- Whether a text is an integer: to the base two, eight, ten, sixteen or sixty. -/
def isInteger (chars : List Char) : Bool :=
  let unsigned := skipSign chars
  match unsigned with
  | ['0'] => true
  | '0' :: 'b' :: digits => areSome (fun char => char == '0' || char == '1' || char == '_') digits
  | '0' :: 'x' :: digits =>
      areSome (fun char => (Text.hexValue? char).isSome || char == '_') digits
  | '0' :: digits => areSome (fun char => ('0' ≤ char && char ≤ '7') || char == '_') digits
  | unsigned =>
      match splitColons unsigned with
      | first :: others => isSpacedNumber first && others.all isSixtieth
      | [] => false

def isExponent (chars : List Char) : Bool :=
  match chars with
  | [] => true
  | mark :: sign :: digits =>
      (mark == 'e' || mark == 'E') && (sign == '-' || sign == '+') && areSome Char.isDigit digits
  | _ => false

def isFractionAndExponent (chars : List Char) : Bool :=
  isExponent (chars.dropWhile isSpacedDigit)

/-- Whether a text is a number with a point, to the base ten or sixty, or a word for what is no
finite number. -/
def isFraction (chars : List Char) : Bool :=
  let unsigned := skipSign chars
  let hasNoSign := unsigned.length == chars.length
  let isWord := fun (words : List String) => words.any fun word => unsigned == word.toList
  let whole := unsigned.takeWhile (· != '.')
  match unsigned.dropWhile (· != '.') with
  | [] => false
  | _ :: behind =>
      if whole.isEmpty then
        isWord [".inf", ".Inf", ".INF"] || (hasNoSign && isWord [".nan", ".NaN", ".NAN"]) ||
          (hasNoSign && behind.head?.any Char.isDigit && isFractionAndExponent behind)
      else
        match splitColons whole with
        | [only] => isSpacedNumber only && isFractionAndExponent behind
        | first :: others =>
            isSpacedNumber first && others.all isSixtieth && behind.all isSpacedDigit
        | [] => false

/-- Whether a list of as many characters as a text fits it: `9` stands for any digit. -/
def fits (shape : String) (chars : List Char) : Bool :=
  shape.length == chars.length &&
    (shape.toList.zip chars).all fun (expected, char) =>
      if expected == '9' then char.isDigit else expected == char

def skipDigits? (chars : List Char) : Option (List Char) :=
  match (chars.takeWhile Char.isDigit).length with
  | 1 => some (chars.drop 1)
  | 2 => some (chars.drop 2)
  | _ => none

/-- Whether characters are a difference to universal time behind blanks, or nothing. -/
def isOffset (chars : List Char) : Bool :=
  match chars.dropWhile fun char => char == ' ' || char == '\t' with
  | [] => chars.isEmpty
  | ['Z'] => true
  | sign :: rest =>
      (sign == '-' || sign == '+') &&
        match skipDigits? rest with
        | some [] => true
        | some minutes => fits ":99" minutes
        | none => false

def isClock (chars : List Char) : Bool :=
  let behindMark := match chars with
    | 'T' :: rest | 't' :: rest => some rest
    | ' ' :: rest | '\t' :: rest => some (rest.dropWhile fun char => char == ' ' || char == '\t')
    | _ => none
  match behindMark.bind skipDigits? with
  | none => false
  | some rest =>
      fits ":99:99" (rest.take 6) &&
        match rest.drop 6 with
        | '.' :: rest => isOffset (rest.dropWhile Char.isDigit)
        | rest => isOffset rest

def isTimestamp (chars : List Char) : Bool :=
  fits "9999-99-99" chars ||
    (fits "9999-" (chars.take 5) &&
      match skipDigits? (chars.drop 5) with
      | some ('-' :: rest) => (skipDigits? rest).any isClock
      | _ => false)

def truthWords : List (String × Bool) := [
  ("yes", true), ("no", false), ("true", true), ("false", false), ("on", true), ("off", false)]

/-- The spellings of a word: in lower case, with a capital, and in upper case. -/
def spellings (word : String) : List String := [word, word.capitalize, word.toUpper]

def tagOfPlain (text : String) : Tag :=
  let chars := text.toList
  if truthWords.any fun (word, _) => (spellings word).contains text then .bool
  else if isFraction chars then .float
  else if isInteger chars then .int
  else if text == "<<" then .merge
  else if text == "" || text == "~" || (spellings "null").contains text then .null
  else if isTimestamp chars then .timestamp
  else if text == "=" then .default
  else if ["!", "&", "*"].contains text then .unknown
  else .text

end UrlRouting.Yaml
