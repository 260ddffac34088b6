/-!
Maps that keep the order in which their keys came, as lists of pairs: a key that comes again keeps
its place and takes the new value.
-/

namespace UrlRouting

/-- Pairs of a key and a value, no key twice. -/
abbrev Entries (κ υ : Type) := List (κ × υ)

namespace Entries

variable {κ υ : Type} [BEq κ]

/-- Puts a value under a key: in the place of the equal key if there is one, at the end if not. -/
def put (key : κ) (value : υ) : Entries κ υ → Entries κ υ
  | [] => [(key, value)]
  | (known, old) :: rest =>
      if known == key then (known, value) :: rest else (known, old) :: put key value rest

def get? (entries : Entries κ υ) (key : κ) : Option υ :=
  (entries.find? fun (known, _) => known == key).map (·.2)

def has (entries : Entries κ υ) (key : κ) : Bool :=
  entries.any fun (known, _) => known == key

def merge (entries more : Entries κ υ) : Entries κ υ :=
  more.foldl (fun all (key, value) => all.put key value) entries

def ofPairs (pairs : List (κ × υ)) : Entries κ υ :=
  merge [] pairs

end Entries

end UrlRouting
