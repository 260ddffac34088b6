import UrlRouting.Yaml.Node

/-!
Mappings that take over the pairs of others.  A pair whose key is the merge sign stands for the
pairs of the mapping that is its value, or of the mappings in the sequence that is its value, the
last one first; all these come before the pairs of the mapping itself.
-/

namespace UrlRouting.Yaml

def Node.mergeable? : Node → Option (List (Node × Node))
  | .mapping tag pairs => if tag == .unmergeable then none else some pairs
  | _ => none

def mergedPairs? (value : Node) : Option (List (Node × Node)) :=
  match value with
  | .sequence _ items => (items.mapM Node.mergeable?).map fun lists => lists.reverse.flatten
  | value => value.mergeable?

/-- Pairs taken over and pairs of one's own.  The default sign is an ordinary key here. -/
def mergePairs? : List (Node × Node) → Option (List (Node × Node) × List (Node × Node))
  | [] => some ([], [])
  | (key, value) :: rest =>
      match key, mergePairs? rest with
      | _, none => none
      | key, some (taken, own) =>
          if key.tag == .merge then
            (mergedPairs? value).map fun more => (more ++ taken, own)
          else
            let key := match key with
              | .scalar .default text => .scalar .text text
              | key => key
            some (taken, (key, value) :: own)

mutual

def Node.merged : Node → Node
  | .scalar tag text => .scalar tag text
  | .sequence tag items => .sequence tag (mergedItems items)
  | .mapping tag pairs =>
      let inner := mergedInside pairs
      if tag.isScalar then .mapping tag inner
      else
        match mergePairs? inner with
        | some (taken, own) => .mapping tag (taken ++ own)
        | none => .mapping .unmergeable inner

def mergedItems : List Node → List Node
  | [] => []
  | item :: rest => item.merged :: mergedItems rest

def mergedInside : List (Node × Node) → List (Node × Node)
  | [] => []
  | (key, value) :: rest => (key.merged, value.merged) :: mergedInside rest

end

end UrlRouting.Yaml
