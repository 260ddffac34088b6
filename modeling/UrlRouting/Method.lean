import UrlRouting.Text.Casing
import UrlRouting.Value

/-!
Sets of request methods, kept in ascending order.
-/

namespace UrlRouting

structure MethodSet where
  names : List String
  deriving DecidableEq, Repr, Inhabited

namespace MethodSet

def empty : MethodSet := ⟨[]⟩

/-- Puts a name into a list in ascending order, unless it is there. -/
def insertName (name : String) : List String → List String
  | [] => [name]
  | first :: rest =>
      if name < first then name :: first :: rest
      else if name = first then first :: rest
      else first :: insertName name rest

def insert (set : MethodSet) (name : String) : MethodSet := ⟨insertName name set.names⟩

def union (a b : MethodSet) : MethodSet := b.names.foldl insert a

def ofExact (names : List String) : MethodSet := names.foldl insert empty

def ofNames (names : List String) : MethodSet := ofExact (names.map Text.upper)

/-- Whether a set is what some names give in upper case. -/
def IsNormal (set : MethodSet) : Prop := ∃ names, set = ofNames names

theorem isNormal_ofNames (names : List String) : (ofNames names).IsNormal := ⟨names, rfl⟩

def isEmpty (set : MethodSet) : Bool := set.names.isEmpty

def contains (set : MethodSet) (name : String) : Bool := set.names.contains name

def joined (set : MethodSet) : String := ", ".intercalate set.names

/-- The names between commas, or a word for all methods if that leaves nothing to read. -/
def shown (set : MethodSet) : String := if set.joined.isEmpty then "ANY" else set.joined

end MethodSet

/-- Why a value does not name methods. -/
inductive MethodsFault where
  | notIterable (kind : String)
  | notText (kind : String)
  deriving DecidableEq, Repr

def MethodsFault.message : MethodsFault → String
  | notIterable kind => s!"'{kind}' object is not iterable"
  | notText kind => s!"'{kind}' object has no attribute 'upper'"

namespace Value

/-- The values that a value runs through: items, keys, characters or bytes. -/
def elements? : Value → Option (List Value)
  | list items | tuple items => some items
  | map entries => some (entries.map (·.1))
  | text value => some (value.toList.map fun char => text (String.singleton char))
  | bytes value => some (value.map fun byte => int byte.toNat)
  | _ => none

def texts : List Value → Except MethodsFault (List String)
  | [] => .ok []
  | text value :: rest => (texts rest).map (value :: ·)
  | other :: _ => .error (.notText other.kindName)

/-- The method names in what was given for them: one text is one name. -/
def methodNames (methods : Value) : Except MethodsFault (List String) :=
  match methods with
  | text name => .ok [name]
  | value =>
      if !value.isGiven then .ok []
      else
        match value.elements? with
        | some items => texts items
        | none => .error (.notIterable value.kindName)

end Value

end UrlRouting
