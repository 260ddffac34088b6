import UrlRouting.Regex.Error

/-!
The pieces in which the text of a regular expression is read, and readers that take pieces from the
front and keep account of how many are left, so that whoever reads on terminates.
-/

namespace UrlRouting.Regex

/-- A character, a character after a backslash, or a backslash at the very end. -/
inductive Token where
  | plain (char : Char)
  | escaped (char : Char)
  | dangling
  deriving DecidableEq, Repr

namespace Token

def chars : Token → List Char
  | plain char => [char]
  | escaped char => ['\\', char]
  | dangling => ['\\']

def shown (token : Token) : String := String.ofList token.chars

def ofChars : List Char → List Token
  | [] => []
  | [char] => [if char == '\\' then dangling else plain char]
  | char :: next :: rest =>
      if char == '\\' then escaped next :: ofChars rest else plain char :: ofChars (next :: rest)

def width (tokens : List Token) : Nat :=
  tokens.foldr (fun token rest => token.chars.length + rest) 0

/-- Whether the last token is a backslash at the end and stands behind others. -/
def EndsDangling (tokens : List Token) : Prop := tokens.tail.getLast? = some dangling

/-- The last token stays behind others while it is not all that is left. -/
theorem EndsDangling.of_cons {token : Token} {rest : List Token}
    (ends : EndsDangling (token :: rest)) (guarded : rest ≠ [dangling]) : EndsDangling rest := by
  match rest with
  | [] => simp [EndsDangling] at ends
  | [last] =>
      have equality : last = dangling := by simpa [EndsDangling] using ends
      exact absurd (by rw [equality]) guarded
  | _ :: next :: more => simpa [EndsDangling] using ends

end Token

/-- A fault found while reading, with the distance from its place to the end of the text. -/
structure Trouble where
  fault : RegexFault
  fromEnd : Option Nat
  deriving DecidableEq, Repr

/-- What a reader gives: a value and the input that is left.  No reader takes a backslash at the
end along with what stands before it. -/
structure Taken (α : Type) (input : List Token) where
  value : α
  rest : List Token
  le : rest.length ≤ input.length
  keeps : Token.EndsDangling input → Token.EndsDangling rest

def Taken.nothing {α : Type} (value : α) (input : List Token) : Taken α input :=
  ⟨value, input, Nat.le_refl _, id⟩

def Reader (α : Type) : Type := (input : List Token) → Except Trouble (Taken α input)

namespace Reader

def pure {α : Type} (value : α) : Reader α := fun input => .ok (.nothing value input)

def bind {α β : Type} (first : Reader α) (second : α → Reader β) : Reader β := fun input =>
  match first input with
  | .error trouble => .error trouble
  | .ok taken =>
      match second taken.value taken.rest with
      | .error trouble => .error trouble
      | .ok more =>
          .ok ⟨more.value, more.rest, Nat.le_trans more.le taken.le, more.keeps ∘ taken.keeps⟩

instance : Monad Reader where
  pure := Reader.pure
  bind := Reader.bind

/-- Reports a fault `back` characters before the next token. -/
def fail {α : Type} (fault : RegexFault) (back : Nat) : Reader α := fun input =>
  .error ⟨fault, some (Token.width input + back)⟩

def failAt {α : Type} (fault : RegexFault) (fromEnd : Nat) : Reader α := fun _ =>
  .error ⟨fault, some fromEnd⟩

def failNowhere {α : Type} (fault : RegexFault) : Reader α := fun _ => .error ⟨fault, none⟩

def left : Reader Nat := fun input => .ok (.nothing (Token.width input) input)

def peek : Reader (Option Token) := fun input => .ok (.nothing input.head? input)

def guardRest (rest : List Token) : Except Trouble Unit :=
  if rest = [.dangling] then .error ⟨.danglingBackslash, some 1⟩ else .ok ()

theorem ne_dangling_of_guardRest {rest : List Token} (guarded : guardRest rest = .ok ()) :
    rest ≠ [.dangling] := by
  intro equality
  simp [guardRest, equality] at guarded

/-- Reads on only if what is left is not a backslash at the end. -/
def guarded {α : Type} (reader : Reader α) : Reader α := fun rest =>
  match guardRest rest with
  | .error trouble => .error trouble
  | .ok () => reader rest

def next : Reader (Option Token)
  | [] => .ok (.nothing none [])
  | token :: rest =>
      match guarded : guardRest rest with
      | .error trouble => .error trouble
      | .ok () =>
          .ok ⟨some token, rest, Nat.le_succ _, (·.of_cons (ne_dangling_of_guardRest guarded))⟩

def accept (char : Char) : Reader Bool := do
  if (← peek) = some (.plain char) then
    let _ ← next
    return true
  else
    return false

/-- Takes at most `most` characters of a kind. -/
def takeUpTo (kind : Char → Bool) : (most : Nat) → Reader (List Char)
  | 0 => Reader.pure []
  | most + 1 => do
      match ← peek with
      | some (.plain char) =>
          if kind char then
            let _ ← next
            return char :: (← takeUpTo kind most)
          else
            return []
      | _ => return []

/-- Runs a reader that is bounded by a number with a bound that the input does not reach. -/
def unbounded {α : Type} (reader : (most : Nat) → Reader α) : Reader α := fun input =>
  reader (input.length + 1) input

/-- Takes nothing unless a reader gives something. -/
def attempt {α : Type} (reader : Reader (Option α)) : Reader (Option α) := fun input =>
  match reader input with
  | .ok ⟨none, _, _, _⟩ => .ok (.nothing none input)
  | result => result

def takeAll (kind : Char → Bool) : Reader (List Char) := unbounded (takeUpTo kind)

/-- Takes tokens up to a terminator, which is dropped; `none` if there is no terminator.  The
number bounds the tokens to take. -/
def takeBefore (terminator : Char) : (most : Nat) → Reader (Option (List Char))
  | 0 => Reader.pure none
  | most + 1 => do
      match ← next with
      | none => return none
      | some token =>
          if token = .plain terminator then
            return some []
          else
            return (← takeBefore terminator most).map (token.chars ++ ·)

/-- The name before a terminator; `what` is how messages call it. -/
def name (terminator : Char) (what : String) : Reader String := do
  let start ← left
  match ← unbounded (takeBefore terminator) with
  | none =>
      if start = 0 then failAt (.missingName what) 0
      else failAt (.unterminatedName terminator) start
  | some [] => failAt (.missingName what) start
  | some chars => return String.ofList chars

end Reader

end UrlRouting.Regex
