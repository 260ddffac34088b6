import UrlRouting.Reading

/-!
Tables while they are being read.  A table remembers the section that defined it, so that a later
section cannot define it again; what an assignment has put into a table never changes.
-/

namespace UrlRouting.Toml

/-- What stands under a name: an assigned value, a table, or an array of tables of which only the
last one can grow.  `definedIn` is the number of the section that defined a table, by its header or
by a dotted key; there is none as long as the table is only on the way to others. -/
inductive Node where
  | assigned (value : Value)
  | table (definedIn : Option Nat) (entries : List (String × Node))
  | tables (earlier : List (List (String × Node))) (last : List (String × Node))

abbrev Table := List (String × Node)

mutual

def Node.toValue : Node → Value
  | .assigned value => value
  | .table _ entries => .map (pairsOf entries)
  | .tables earlier last => .list (mapsOf earlier ++ [.map (pairsOf last)])

def pairsOf : List (String × Node) → List (Value × Value)
  | [] => []
  | (name, node) :: rest => (.text name, node.toValue) :: pairsOf rest

def mapsOf : List (List (String × Node)) → List Value
  | [] => []
  | entries :: rest => .map (pairsOf entries) :: mapsOf rest

end

namespace Table

def toValue (table : Table) : Value := .map (pairsOf table)

/-- Replaces what stands under a name, or puts something new at the end; `change` is given what is
there and can refuse. -/
def alter (name : String) (change : Option Node → Option Node) : Table → Option Table
  | [] => (change none).map fun node => [(name, node)]
  | (known, node) :: rest =>
      if known == name then (change (some node)).map fun node => (known, node) :: rest
      else (alter name change rest).map ((known, node) :: ·)

/-- A step on the way to a table: along the path of a header, or along a dotted key in the section
of a number. -/
inductive Way where
  | header (name : String)
  | dotted (number : Nat) (name : String)

/-- Changes the table at the end of a way, making the tables that are missing.  A dotted key goes
neither through tables that another section has defined nor into arrays of tables. -/
def changeAt (change : Table → Option Table) : List Way → Table → Option Table
  | [], table => change table
  | .header name :: ways, table =>
      table.alter name fun
        | none => (changeAt change ways []).map (Node.table none)
        | some (.table definedIn entries) =>
            (changeAt change ways entries).map (Node.table definedIn)
        | some (.tables earlier last) => (changeAt change ways last).map (Node.tables earlier)
        | some (.assigned _) => none
  | .dotted number name :: ways, table =>
      table.alter name fun
        | none => (changeAt change ways []).map (Node.table (some number))
        | some (.table definedIn entries) =>
            if definedIn.any (· != number) then none
            else (changeAt change ways entries).map (Node.table (some number))
        | _ => none

def assign (name : String) (value : Value) (table : Table) : Option Table :=
  table.alter name fun
    | none => some (.assigned value)
    | some _ => none

/-- Defines a table, unless another section has done so. -/
def define (number : Nat) (name : String) (table : Table) : Option Table :=
  table.alter name fun
    | none => some (.table (some number) [])
    | some (.table none entries) => some (.table (some number) entries)
    | some _ => none

def extend (name : String) (table : Table) : Option Table :=
  table.alter name fun
    | none => some (.tables [] [])
    | some (.tables earlier last) => some (.tables (earlier ++ [last]) [])
    | some _ => none

end Table

end UrlRouting.Toml
