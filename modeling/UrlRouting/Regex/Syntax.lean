import UrlRouting.Text.Category
import UrlRouting.Text.Casing

/-!
Abstract syntax of regular expressions, with the flags in force already applied to each part, and
the widths of the texts that an expression can take.
-/

namespace UrlRouting

/-- How two characters that differ in case compare. -/
inductive CaseRule where
  | exact
  | ascii
  | unicode
  deriving DecidableEq, Repr

/-- The code points that `code` stands for under a case rule, itself included. -/
def CaseRule.variants : CaseRule → Nat → List Nat
  | .exact, code => [code]
  | .ascii, code =>
      if 65 ≤ code && code ≤ 90 then [code, code + 32]
      else if 97 ≤ code && code ≤ 122 then [code, code - 32]
      else [code]
  | .unicode, code => Text.caseVariants code

/-- The classes of characters that have an escape of their own. -/
inductive Shorthand where
  | digit
  | blank
  | word
  deriving DecidableEq, Repr

/-- Whether a character belongs to a class, among all characters or among ASCII ones. -/
def Shorthand.contains (ascii : Bool) (char : Char) : Shorthand → Bool
  | .digit => if ascii then char.isDigit else Text.isDecimalDigit char
  | .blank => if ascii then [9, 10, 11, 12, 13, 32].contains char.toNat else Text.isBlank char
  | .word => if ascii then char.isAlphanum || char == '_' else Text.isWord char

/-- One member of a character class.  Code points are plain numbers, since an escape may name one
that no text contains. -/
inductive ClassItem where
  | single (code : Nat)
  | range (first last : Nat)
  | shorthand (kind : Shorthand) (negated ascii : Bool)
  deriving DecidableEq, Repr

def ClassItem.contains (rule : CaseRule) (char : Char) : ClassItem → Bool
  | .single code => (rule.variants char.toNat).contains code
  | .range first last =>
      (rule.variants char.toNat).any fun code => first ≤ code && code ≤ last
  | .shorthand kind negated ascii => negated != kind.contains ascii char

/-- A set of characters, given by its members or by those outside it. -/
structure CharClass where
  negated : Bool
  items : List ClassItem
  rule : CaseRule
  deriving DecidableEq, Repr

def CharClass.contains (set : CharClass) (char : Char) : Bool :=
  set.negated != set.items.any (·.contains set.rule char)

/-- A condition on a place between two characters. -/
inductive Anchor where
  | textStart
  | lineStart
  | textEnd
  | lastLineEnd
  | lineEnd
  | wordEdge (ascii : Bool)
  | notWordEdge (ascii : Bool)
  deriving DecidableEq, Repr

/-- The order in which a repetition tries how often to repeat. -/
inductive Greed where
  | greedy
  | lazy
  | possessive
  deriving DecidableEq, Repr

/-- Regular expressions.  Capturing groups are numbered from one in the order in which they open.
What depends on a group tells whether the text mentions it by its name. -/
inductive Regex where
  | empty
  | oneOf (set : CharClass)
  | anchor (place : Anchor)
  | seq (first second : Regex)
  | alt (first second : Regex)
  | repeated (least : Nat) (most : Option Nat) (greed : Greed) (body : Regex)
  | group (number : Nat) (body : Regex)
  | reference (number : Nat) (byName : Bool) (rule : CaseRule)
  | atomic (body : Regex)
  | lookahead (positive : Bool) (body : Regex)
  | lookbehind (positive : Bool) (width : Nat) (body : Regex)
  | conditional (number : Nat) (byName : Bool) (present absent : Regex)
  deriving DecidableEq, Repr

/-- The least and the greatest number of characters of a text; no greatest one if unbounded. -/
structure Width where
  least : Nat
  most : Option Nat
  deriving DecidableEq, Repr

namespace Width

def add (a b : Width) : Width :=
  ⟨a.least + b.least, a.most.bind fun m => b.most.map (m + ·)⟩

def join (a b : Width) : Width :=
  ⟨min a.least b.least, a.most.bind fun m => b.most.map (max m ·)⟩

/-- The width of a repeated text: unbounded only if what is repeated can take a character. -/
def repeated (least : Nat) (most : Option Nat) (body : Width) : Width :=
  ⟨body.least * least,
    match body.most, most with
    | some 0, _ => some 0
    | some m, some n => some (m * n)
    | none, some 0 => some 0
    | _, _ => none⟩

def fixed? (width : Width) : Option Nat :=
  if width.most = some width.least then some width.least else none

end Width

namespace Regex

/-- The width of the texts that an expression takes, given those of its closed groups. -/
def width (groups : List (Nat × Width)) : Regex → Width
  | empty | anchor _ | lookahead .. | lookbehind .. => ⟨0, some 0⟩
  | oneOf _ => ⟨1, some 1⟩
  | seq first second => (first.width groups).add (second.width groups)
  | alt first second => (first.width groups).join (second.width groups)
  | repeated least most _ body => Width.repeated least most (body.width groups)
  | group _ body | atomic body => body.width groups
  | reference number _ _ => (groups.lookup number).getD ⟨0, none⟩
  | conditional _ _ present absent => (present.width groups).join (absent.width groups)

def concat : List Regex → Regex
  | [] => empty
  | part :: rest => seq part (concat rest)

def anyOf : List Regex → Regex
  | [] => empty
  | [choice] => choice
  | choice :: rest => alt choice (anyOf rest)

end Regex

end UrlRouting
