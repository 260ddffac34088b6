import UrlRouting.Yaml.Token

/-!
From the characters of a YAML text to its tokens.
-/

namespace UrlRouting.Yaml

/-- Something that is a key if a colon follows it: the number of tokens before it, its place, and
whether only a key can stand there. -/
structure Candidate where
  position : Nat
  isRequired : Bool
  index : Nat
  line : Nat
  column : Nat

/-- A text of which a part has been cut into tokens.  `levels` holds the columns of the collections
in block style that are open, innermost first; `candidates` holds one candidate for each number of
open brackets at most; `tokens` holds the last token first. -/
structure Scan where
  cursor : Cursor
  levels : List Nat
  depth : Nat
  allowsKey : Bool
  candidates : List (Nat × Candidate)
  tokens : List Token
  count : Nat

namespace Scan

/-- The start of a text.  A byte order mark there does not count. -/
def start (chars : List Char) : Scan :=
  let cursor := Cursor.start chars
  ⟨if chars.head? == some '\ufeff' then cursor.next else cursor, [], 0, true, [], [], 0⟩

/-- Whether the place is between brackets, where indentation does not count. -/
def inFlow (scan : Scan) : Bool := scan.depth != 0

/-- The least column of what belongs to the innermost collection in block style. -/
def leastColumn (scan : Scan) : Nat := (scan.levels.head?.map (· + 1)).getD 0

def push (scan : Scan) (token : Token) : Scan :=
  { scan with tokens := token :: scan.tokens, count := scan.count + 1 }

/-- Puts a token behind the first `position` ones. -/
def insertAt (scan : Scan) (position : Nat) (token : Token) : Scan :=
  let behind := scan.count - position
  { scan with
    tokens := scan.tokens.take behind ++ token :: scan.tokens.drop behind
    count := scan.count + 1 }

def goTo (scan : Scan) (cursor : Cursor) : Scan := { scan with cursor := cursor }

def allowing (scan : Scan) (allowsKey : Bool) : Scan := { scan with allowsKey := allowsKey }

/-! ### Candidates for keys -/

/-- Whether a colon at the place comes too late for a candidate: on another line, or too far. -/
def isStale (scan : Scan) (candidate : Candidate) : Bool :=
  candidate.line != scan.cursor.line || candidate.index + 1024 < scan.cursor.index

def dropStale (scan : Scan) : Except ReadingFault Scan :=
  let (stale, fresh) := scan.candidates.partition fun (_, candidate) => scan.isStale candidate
  if stale.any (·.2.isRequired) then .error illFormed
  else .ok { scan with candidates := fresh }

def dropCandidate (scan : Scan) : Except ReadingFault Scan :=
  if (scan.candidates.lookup scan.depth).any (·.isRequired) then .error illFormed
  else .ok { scan with candidates := scan.candidates.filter (·.1 != scan.depth) }

def noteCandidate (scan : Scan) : Except ReadingFault Scan := do
  if scan.allowsKey then
    let isRequired := !scan.inFlow && scan.levels.head? == some scan.cursor.column
    let cursor := scan.cursor
    let candidate := ⟨scan.count, isRequired, cursor.index, cursor.line, cursor.column⟩
    let scan ← scan.dropCandidate
    return { scan with candidates := (scan.depth, candidate) :: scan.candidates }
  else return scan

/-! ### Indentation -/

/-- The tokens and the levels when all collections right of a column have ended. -/
def unwound (column : Nat) : List Nat → List Token → Nat → List Nat × List Token × Nat
  | [], tokens, count => ([], tokens, count)
  | level :: levels, tokens, count =>
      if column < level then unwound column levels (.blockEnd :: tokens) (count + 1)
      else (level :: levels, tokens, count)

/-- Ends the collections in block style that are indented more than a column. -/
def unwind (scan : Scan) (column : Nat) : Scan :=
  if scan.inFlow then scan
  else
    let (levels, tokens, count) := unwound column scan.levels scan.tokens scan.count
    { scan with levels := levels, tokens := tokens, count := count }

def unwindAll (scan : Scan) : Scan :=
  if scan.inFlow then scan
  else
    { scan with
      levels := []
      tokens := scan.levels.map (fun _ => Token.blockEnd) ++ scan.tokens
      count := scan.count + scan.levels.length }

def startsAt (scan : Scan) (column : Nat) : Bool := !scan.inFlow && scan.leastColumn ≤ column

/-- Starts a collection in block style at a column, with its token at a position, unless the
innermost one has that column already. -/
def startAt (scan : Scan) (column position : Nat) (token : Token) : Scan :=
  if scan.startsAt column then
    { scan.insertAt position token with levels := column :: scan.levels }
  else scan

/-! ### Tokens -/

def gapStep (scan : Scan) : Except ReadingFault (Step Scan Scan) :=
  let cursor := scan.cursor.skipSpaces.skipComment
  match cursor.lineEnd? with
  | some (_, following) =>
      .ok (.next ((scan.goTo following).allowing (scan.allowsKey || !scan.inFlow)))
  | none => .ok (.done (scan.goTo cursor))

def skipGap (scan : Scan) : Except ReadingFault Scan :=
  descend (fun scan => scan.cursor.size) illFormed gapStep scan

def sign (scan : Scan) (token : Token) : Scan := (scan.goTo scan.cursor.next).push token

def mark (scan : Scan) (token : Token) : Except ReadingFault Scan := do
  let scan ← scan.unwindAll.dropCandidate
  return ((scan.allowing false).goTo (scan.cursor.skip 3)).push token

def directive (scan : Scan) : Except ReadingFault Scan := do
  let scan ← scan.unwindAll.dropCandidate
  let (directive, cursor) ← readDirective scan.cursor
  return ((scan.allowing false).goTo cursor).push (.directive directive)

def openFlow (scan : Scan) (token : Token) : Except ReadingFault Scan := do
  let scan ← scan.noteCandidate
  return { scan.sign token with depth := scan.depth + 1, allowsKey := true }

def closeFlow (scan : Scan) (token : Token) : Except ReadingFault Scan := do
  if scan.inFlow then
    let scan ← scan.dropCandidate
    return { scan.sign token with depth := scan.depth - 1, allowsKey := false }
  else throw illFormed

def flowEntry (scan : Scan) : Except ReadingFault Scan := do
  let scan ← scan.dropCandidate
  return (scan.allowing true).sign .flowEntry

def blockEntry (scan : Scan) : Except ReadingFault Scan := do
  if !scan.inFlow && !scan.allowsKey then throw illFormed
  else
    let scan := scan.startAt scan.cursor.column scan.count .blockSequenceStart
    let scan ← scan.dropCandidate
    return (scan.allowing true).sign .blockEntry

def markedKey (scan : Scan) : Except ReadingFault Scan := do
  if !scan.inFlow && !scan.allowsKey then throw illFormed
  else
    let scan := scan.startAt scan.cursor.column scan.count .blockMappingStart
    let scan ← scan.dropCandidate
    return (scan.allowing !scan.inFlow).sign .key

def value (scan : Scan) : Except ReadingFault Scan := do
  match scan.candidates.lookup scan.depth with
  | some candidate =>
      let candidates := scan.candidates.filter (·.1 != scan.depth)
      let scan := { scan with candidates := candidates }
      let scan := scan.insertAt candidate.position .key
      let scan := scan.startAt candidate.column candidate.position .blockMappingStart
      return (scan.allowing false).sign .value
  | none =>
      if !scan.inFlow && !scan.allowsKey then throw illFormed
      else
        let scan := scan.startAt scan.cursor.column scan.count .blockMappingStart
        let scan ← (scan.allowing !scan.inFlow).dropCandidate
        return scan.sign .value

def anchor (scan : Scan) (token : String → Token) : Except ReadingFault Scan := do
  let scan ← scan.noteCandidate
  match readAnchor? scan.cursor.next with
  | some (name, cursor) => return ((scan.allowing false).goTo cursor).push (token name)
  | none => throw illFormed

def tag (scan : Scan) : Except ReadingFault Scan := do
  let scan ← scan.noteCandidate
  let (name, cursor) ← readTag scan.cursor
  return ((scan.allowing false).goTo cursor).push (.tag name)

def block (scan : Scan) (folding : Bool) : Except ReadingFault Scan := do
  let scan ← (scan.allowing true).dropCandidate
  let (text, cursor) ← readBlock folding (max 1 scan.leastColumn) scan.cursor
  return (scan.goTo cursor).push (.scalar text false)

def quoted (scan : Scan) (quote : Char) : Except ReadingFault Scan := do
  let scan ← scan.noteCandidate
  let (text, cursor) ← readQuoted quote scan.cursor
  return ((scan.allowing false).goTo cursor).push (.scalar text false)

def plain (scan : Scan) : Except ReadingFault Scan := do
  let scan ← scan.noteCandidate
  let (text, hasBreak, cursor) ← readPlain scan.inFlow scan.leastColumn scan.cursor
  return ((scan.allowing hasBreak).goTo cursor).push (.scalar text true)

def startsPlain (scan : Scan) (char : Char) : Bool :=
  if "-?:,[]\x7b\x7d#&*!|>'\"%@`".toList.contains char || isBlank char || isBreak char then
    !endsMark (scan.cursor.peekAt? 1) &&
      (char == '-' || (!scan.inFlow && (char == '?' || char == ':')))
  else true

def token (scan : Scan) (char : Char) : Except ReadingFault Scan :=
  let atLineStart := scan.cursor.column == 0
  let isAlone := endsMark (scan.cursor.peekAt? 1)
  if char == '%' && atLineStart then scan.directive
  else if atLineStart && scan.cursor.isAtMark '-' then scan.mark .documentStart
  else if atLineStart && scan.cursor.isAtMark '.' then scan.mark .documentEnd
  else if char == '[' then scan.openFlow .flowSequenceStart
  else if char == '\x7b' then scan.openFlow .flowMappingStart
  else if char == ']' then scan.closeFlow .flowSequenceEnd
  else if char == '\x7d' then scan.closeFlow .flowMappingEnd
  else if char == ',' then scan.flowEntry
  else if char == '-' && isAlone then scan.blockEntry
  else if char == '?' && (scan.inFlow || isAlone) then scan.markedKey
  else if char == ':' && (scan.inFlow || isAlone) then scan.value
  else if char == '*' then scan.anchor .alias
  else if char == '&' then scan.anchor .anchor
  else if char == '!' then scan.tag
  else if char == '|' && !scan.inFlow then scan.block false
  else if char == '>' && !scan.inFlow then scan.block true
  else if char == '\'' || char == '"' then scan.quoted char
  else if scan.startsPlain char then scan.plain
  else .error illFormed

def tokenStep (scan : Scan) : Except ReadingFault (Step Scan (List Token)) := do
  let scan ← scan.skipGap
  let scan ← scan.dropStale
  let scan := scan.unwind scan.cursor.column
  match scan.cursor.peek? with
  | none =>
      let scan ← scan.unwindAll.dropCandidate
      return .done scan.tokens.reverse
  | some char => (scan.token char).map .next

end Scan

def tokensOf (chars : List Char) : Except ReadingFault (List Token) :=
  if chars.all isPrintable then
    descend (fun scan => scan.cursor.size) illFormed Scan.tokenStep (.start chars)
  else .error illFormed

end UrlRouting.Yaml
