import UrlRouting.Yaml.Merge
import UrlRouting.Yaml.ScalarValue

/-!
The values of nodes, and with them of YAML texts.  Of several faults the one nearest to the root
counts, and of those at equal distance the first.
-/

namespace UrlRouting.Yaml

mutual

/-- The text of a node that is taken for a scalar: a mapping stands for the value under its default
sign. -/
def Node.scalarText? : Node → Option String
  | .scalar _ text => some text
  | .mapping _ pairs => defaultText? pairs
  | .sequence _ _ => none

def defaultText? : List (Node × Node) → Option String
  | [] => none
  | (key, value) :: rest => if key.tag == .default then value.scalarText? else defaultText? rest

end

/-! ### Nodes -/

/-- A fault and its distance from the root. -/
structure DeepFault where
  depth : Nat
  fault : ReadingFault

/-- The results of some parts if none has a fault; else the first fault among those that are nearest
to the root. -/
def collect {α : Type} : List (Except DeepFault α) → Except DeepFault (List α)
  | [] => .ok []
  | .ok value :: rest => (collect rest).map (value :: ·)
  | .error fault :: rest =>
      match collect rest with
      | .error other => .error (if other.depth < fault.depth then other else fault)
      | .ok _ => .error fault

/-- Two results, of which the first one's fault counts unless that of the second is nearer to the
root. -/
def both {α β : Type} (first : Except DeepFault α) (second : Except DeepFault β) :
    Except DeepFault (α × β) :=
  match first, second with
  | .ok a, .ok b => .ok (a, b)
  | .error fault, .ok _ => .error fault
  | .ok _, .error fault => .error fault
  | .error fault, .error other => .error (if other.depth < fault.depth then other else fault)

/-- Whether a value can be a key: collections cannot. -/
def isKey : Value → Bool
  | .list _ | .tuple _ | .map _ => false
  | _ => true

def asKey (depth : Nat) (result : Except DeepFault Value) : Except DeepFault Value :=
  match result with
  | .ok value => if isKey value then .ok value else .error ⟨depth, illFormed⟩
  | .error fault => if depth < fault.depth then .error ⟨depth, illFormed⟩ else .error fault

mutual

/-- The value of a node.  Faults of a scalar or of a tag lie at the depth of the node, those of the
form of a collection one deeper. -/
def Node.value (depth : Nat) : Node → Except DeepFault Value
  | .scalar tag text =>
      let isCollection := [Tag.sequence, .mapping, .set, .orderedMap, .pairs].contains tag
      let depth := if isCollection then depth + 1 else depth
      (scalarValue tag text).mapError fun fault => ⟨depth, fault⟩
  | .sequence tag items =>
      match tag with
      | .sequence => (collect (itemValues (depth + 1) items)).map .list
      | .orderedMap | .pairs => (collect (entryValues (depth + 1) items)).map .list
      | .mapping | .set => .error ⟨depth + 1, illFormed⟩
      | _ => .error ⟨depth, illFormed⟩
  | .mapping tag pairs =>
      match tag with
      | .mapping => (collect (pairValues (depth + 1) pairs)).map fun pairs =>
          .map (Entries.ofPairs pairs)
      | .set => (collect (pairValues (depth + 1) pairs)).map fun pairs =>
          .tuple ((Entries.ofPairs pairs).map (·.1))
      | .sequence | .orderedMap | .pairs | .unmergeable => .error ⟨depth + 1, illFormed⟩
      | tag =>
          match if tag.isScalar then defaultText? pairs else none with
          | some text => (scalarValue tag text).mapError fun fault => ⟨depth, fault⟩
          | none => .error ⟨depth, illFormed⟩

def itemValues (depth : Nat) : List Node → List (Except DeepFault Value)
  | [] => []
  | item :: rest => item.value depth :: itemValues depth rest

def pairValues (depth : Nat) : List (Node × Node) → List (Except DeepFault (Value × Value))
  | [] => []
  | (key, value) :: rest =>
      both (asKey depth (key.value depth)) (value.value depth) :: pairValues depth rest

/-- The pairs of a sequence of mappings with one pair each; a key can be any value. -/
def entryValues (depth : Nat) : List Node → List (Except DeepFault Value)
  | [] => []
  | .mapping _ [(key, value)] :: rest =>
      ((both (key.value depth) (value.value depth)).map fun (key, value) => .tuple [key, value]) ::
        entryValues depth rest
  | _ :: rest => .error ⟨depth, illFormed⟩ :: entryValues depth rest

end

/-- The value of a YAML text; one without a document is nothing. -/
def read (chars : List Char) : Except ReadingFault Value := do
  let tokens ← tokensOf chars
  match ← Node.ofTokens? tokens with
  | none => return .null
  | some node => (node.merged.value 0).mapError (·.fault)

end UrlRouting.Yaml
