import UrlRouting.Event
import UrlRouting.Route
import Std.Data.TreeMap

/-!
Tables of named routes in the order of their registration.  The entries are the table; an index
from names to positions, rebuilt where positions shift, answers questions about a name.
-/

namespace UrlRouting

/-- Named things in order, and the position of each name. -/
structure RouteTable (α : Type) where
  entries : List (String × α)
  positions : Std.TreeMap String Nat

namespace RouteTable

variable {α : Type}

def empty : RouteTable α := ⟨[], ∅⟩

/-- The positions of the names of some entries, the first of which stands at `position`. -/
def positionsFrom (position : Nat) : List (String × α) → Std.TreeMap String Nat
  | [] => ∅
  | (name, _) :: rest => (positionsFrom (position + 1) rest).insert name position

def ofEntries (entries : List (String × α)) : RouteTable α :=
  ⟨entries, positionsFrom 0 entries⟩

def size (table : RouteTable α) : Nat := table.entries.length

def names (table : RouteTable α) : List String := table.entries.map (·.1)

def contains (table : RouteTable α) (name : String) : Bool := table.positions.contains name

def get? (table : RouteTable α) (name : String) : Option α :=
  (table.positions[name]?.bind fun position => table.entries[position]?).map (·.2)

def get (table : RouteTable α) (name : String) : Except Failure α :=
  match table.get? name with
  | some found => .ok found
  | none => .error (.unknownName name)

def append (table : RouteTable α) (name : String) (value : α) : RouteTable α :=
  ⟨table.entries ++ [(name, value)], table.positions.insert name table.size⟩

/-- Registers something under a name that is not taken. -/
def add (table : RouteTable α) (name : String) (value : α) : Except Failure (RouteTable α) :=
  if table.contains name then .error (.nameTaken name) else .ok (table.append name value)

/-- Removes a name; says whether it was taken. -/
def remove (table : RouteTable α) (name : String) : Bool × RouteTable α :=
  match table.positions[name]? with
  | none => (false, table)
  | some position => (true, ofEntries (table.entries.eraseIdx position))

/-- Puts something under a name: in the place of what is there, or at the end. -/
def override (table : RouteTable α) (name : String) (value : α) : RouteTable α :=
  match table.positions[name]? with
  | none => table.append name value
  | some position => { table with entries := table.entries.set position (name, value) }

/-- Puts the entries of another table behind those of this one.  A name that is taken is refused,
or overridden in its place. -/
def merge (table other : RouteTable α) (overriding : Bool) : Except Failure (RouteTable α) :=
  match if overriding then none else other.names.find? table.contains with
  | some name => .error (.mergedNameTaken name)
  | none => .ok (other.entries.foldl (fun table (name, value) => table.override name value) table)

def prefixNames (table : RouteTable α) (front : String) : RouteTable α :=
  if front.isEmpty then table
  else ofEntries (table.entries.map fun (name, value) => (front ++ name, value))

def shown (table : RouteTable α) : String := s!"RouteCollection({table.size} routes)"

def toValue (table : RouteTable Route) : Value :=
  .map (table.entries.map fun (name, route) => (.text name, route.toValue))

end RouteTable

end UrlRouting
