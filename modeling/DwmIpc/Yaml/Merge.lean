import DwmIpc.Yaml.Node

/-!
# Merge keys

The value of a merge key is a mapping, or a sequence of mappings, whose pairs come
in front of those of the mapping that the key stands in. `merge` carries out the
merge keys of one mapping, and of those that it needs for that. A mapping may be
merged into itself while its keys are carried out: a key that was met is taken out
first, so that ends.
-/

namespace DwmIpc.Yaml

/-- Two numbers of nodes, of a key and its value. -/
abbrev Pair := Nat × Nat

/-- The pairs of a node by its number, if it is a mapping. -/
def pairsOf? (nodes : Nodes) (number : Nat) : Option (List Pair) :=
  nodes[number]?.bind Node.pairs?

/-- Is the key of a pair of some kind? -/
def hasKey (tag : Tag) (nodes : Nodes) (pair : Pair) : Bool :=
  nodes[pair.1]?.any (·.tag = tag)

/-- The node with another kind. -/
def Node.withTag (tag : Tag) : Node → Node
  | scalar _ text => scalar tag text
  | sequence _ items => sequence tag items
  | mapping _ pairs => mapping tag pairs

/-- Gives a mapping its pairs. -/
def setPairs (number : Nat) (pairs : List Pair) (nodes : Nodes) : Nodes :=
  match nodes[number]? with
  | some node => nodes.setIfInBounds number (.mapping node.tag pairs)
  | none => nodes

/-- A key `=` is a text wherever it stands, once the mapping has no merge keys any more. -/
def settleKey (nodes : Nodes) (pair : Pair) : Nodes :=
  match nodes[pair.1]? with
  | some node =>
    if node.tag = .default then nodes.setIfInBounds pair.1 (node.withTag .text) else nodes
  | none => nodes

/-- How to carry out the merge keys of a mapping. -/
abbrev Merging := Nat → Nodes → Except Problem Nodes

/-- The pairs of a mapping when its own merge keys are carried out. -/
def completed (merge : Merging) (number : Nat) (nodes : Nodes) :
    Except Problem (List Pair × Nodes) :=
  match pairsOf? nodes number with
  | none => .error .malformed
  | some _ =>
    (merge number nodes).map fun nodes => ((pairsOf? nodes number).getD [], nodes)

/-- The pairs that the value of a merge key brings in; of a sequence the last mapping comes first. -/
def broughtIn (merge : Merging) (value : Nat) (nodes : Nodes) : Except Problem (List Pair × Nodes) :=
  match nodes[value]? with
  | some (.sequence _ items) =>
    items.foldlM (fun (done, nodes) item => do
      let (pairs, nodes) ← completed merge item nodes
      return (pairs ++ done, nodes)) ([], nodes)
  | _ => completed merge value nodes

/-- Carries out up to `count` merge keys of a mapping, after others that brought in `front`. -/
def mergeKeys (merge : Merging) (number : Nat) :
    (count : Nat) → (front : List Pair) → Nodes → Except Problem Nodes
  | 0, front, nodes =>
    let pairs := front ++ (pairsOf? nodes number).getD []
    .ok (pairs.foldl settleKey (setPairs number pairs nodes))
  | count + 1, front, nodes =>
    let pairs := (pairsOf? nodes number).getD []
    match pairs.find? (hasKey .merge nodes) with
    | none => mergeKeys merge number 0 front nodes
    | some (_, value) => do
      let own := pairs.eraseP (hasKey .merge nodes)
      let (pairs, nodes) ← broughtIn merge value (setPairs number own nodes)
      mergeKeys merge number count (front ++ pairs) nodes

/-- Carries out the merge keys of a mapping; `depth` mappings may wait for one another. -/
def merge : (depth : Nat) → Merging
  | 0, _, _ => .error .tooDeep
  | depth + 1, number, nodes =>
    mergeKeys (merge depth) number ((pairsOf? nodes number).getD []).length [] nodes

end DwmIpc.Yaml
