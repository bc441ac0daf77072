import Std.Data.HashMap
import DwmIpc.Json.Value
import DwmIpc.Yaml.Merge
import DwmIpc.Yaml.Scalar

/-!
# The values of YAML documents

A value is a scalar or a collection. What a collection holds has to have a value
too, but only the entries of the mapping that is the whole document are kept. Of
two entries with the same key the later value counts, in the place of the earlier
one. `Document.ofText` reads a text that holds at most one document.

Every node is given its value once. That of a collection is begun at once and
filled later, after all collections that were begun before it, so a collection
may lie in itself; a problem further out comes before those inside.
-/

namespace DwmIpc.Yaml

/-- A value. -/
inductive Value where
  | scalar (scalar : Scalar)
  | collection
  deriving DecidableEq

/-- The entries of a mapping. -/
abbrev Entries := List (Scalar × Value)

/-- What a document stands for. -/
inductive Document where
  | mapping (entries : Entries)
  | other (value : Value)

/-- Entries with different keys, and the place of each key. -/
structure Table where
  entries : Array (Scalar × Value)
  places : Std.HashMap Key Nat

namespace Table

/-- Gives a key its value: an earlier entry of the key keeps its place and its key. -/
def assign (key : Scalar) (value : Value) (t : Table) : Table :=
  match t.places[key.key]? with
  | some place => { t with entries := t.entries.modify place fun entry => (entry.1, value) }
  | none => ⟨t.entries.push (key, value), t.places.insert key.key t.entries.size⟩

/-- The table of a list of entries, the later ones in front. -/
def ofReversed (entries : Entries) : Table :=
  entries.foldr (fun entry t => t.assign entry.1 entry.2) ⟨#[], ∅⟩

end Table

/-- A JSON value as a YAML value. -/
def Value.ofJson : Json → Value
  | .null => .scalar .null
  | .bool b => .scalar (.bool b)
  | .int n => .scalar (.int n)
  | .float x => .scalar (.float x)
  | .str t => .scalar (.text t)
  | .arr _ | .obj _ => .collection

/-- The fields of a JSON object as entries. -/
def Entries.ofJson (fields : List (Text × Json)) : Entries :=
  fields.map fun (key, value) => (.text key, Value.ofJson value)

/-! ## Scalars -/

/-- How many mappings may wait for one another to be merged or to become a scalar. -/
def maxWaiting : Nat := 2 * maxDepth

/-- The text of a node that is to be a scalar. A mapping is what its key `=` stands for. -/
def scalarText (nodes : Nodes) : (depth : Nat) → (number : Nat) → Except Problem Text
  | 0, _ => .error .tooDeep
  | depth + 1, number =>
    match nodes[number]? with
    | some (.scalar _ text) => .ok text
    | some (.mapping _ pairs) =>
      match pairs.find? (hasKey .default nodes) with
      | some (_, value) => scalarText nodes depth value
      | none => .error .malformed
    | _ => .error .malformed

/-- The value of a node that is to be a scalar of some kind. A timestamp must be written as one. -/
def scalarOf (nodes : Nodes) (tag : Tag) (number : Nat) : Except Problem Scalar := do
  let text ← scalarText nodes maxWaiting number
  if tag = .timestamp ∧ (pairsOf? nodes number).isSome then impossible .composedTimestamp
  else Scalar.ofText tag number text

/-! ## Collections -/

/-- The state of the work: the nodes, the values given so far, and the numbers of the collections
that were begun, backwards. -/
structure Building where
  nodes : Nodes
  values : Array (Option Value)
  begun : List Nat

namespace Building

/-- The beginning of the work. -/
def start (nodes : Nodes) : Building :=
  ⟨nodes, Array.replicate nodes.size none, []⟩

/-- Notes the value of a node. -/
def note (number : Nat) (value : Value) (b : Building) : Building :=
  { b with values := b.values.setIfInBounds number (some value) }

/-- The value of a node. -/
def value (number : Nat) (b : Building) : Except Problem (Value × Building) :=
  match b.values[number]?.join with
  | some value => .ok (value, b)
  | none =>
    match (b.nodes[number]?.map Node.tag).getD .unknown with
    | .sequence | .mapping | .set | .pairs =>
      let b := b.note number .collection
      .ok (.collection, { b with begun := number :: b.begun })
    | .unknown | .merge | .default => .error .malformed
    | tag =>
      (scalarOf b.nodes tag number).map fun s => (.scalar s, b.note number (.scalar s))

/-- Gives a node its value, which must be a scalar. -/
def key (number : Nat) (b : Building) : Except Problem (Scalar × Building) :=
  match b.value number with
  | .error problem => .error problem
  | .ok (.scalar s, b) => .ok (s, b)
  | .ok (.collection, _) => .error .malformed

/-- Gives the items of a sequence their values. -/
def fillSequence (items : List Nat) (b : Building) : Except Problem Building :=
  items.foldlM (fun b item => (b.value item).map (·.2)) b

/-- Gives the keys and values of a mapping their values; gives the entries, backwards. -/
def fillMapping (pairs : List Pair) (b : Building) : Except Problem (Entries × Building) :=
  pairs.foldlM (fun (done, b) pair => do
    let (key, b) ← b.key pair.1
    let (value, b) ← b.value pair.2
    return ((key, value) :: done, b)) ([], b)

/-- Gives the keys and values of a sequence of single pairs their values; a key may be any value. -/
def fillPairs (items : List Nat) (b : Building) : Except Problem Building :=
  items.foldlM (fun b item =>
    match pairsOf? b.nodes item with
    | some [(key, value)] => do
      let (_, b) ← b.value key
      (b.value value).map (·.2)
    | _ => throw .malformed) b

/-- Fills a collection that was begun; gives the entries if it is a mapping, backwards. -/
def fill (number : Nat) (b : Building) : Except Problem (Entries × Building) :=
  match b.nodes[number]? with
  | some (.sequence .sequence items) => (b.fillSequence items).map ([], ·)
  | some (.sequence .pairs items) => (b.fillPairs items).map ([], ·)
  | some (.mapping .mapping _) | some (.mapping .set _) => do
    let ⟨nodes, values, begun⟩ := b
    let nodes ← merge maxWaiting number nodes
    fillMapping ((pairsOf? nodes number).getD []) ⟨nodes, values, begun⟩
  | _ => .error .malformed

/-- Fills the collections that were begun, and then those that were begun by that; every round takes
nodes that were not begun before. -/
def fillAll : (rounds : Nat) → Building → Except Problem Unit
  | 0, _ => .ok ()
  | rounds + 1, b =>
    match b.begun.reverse with
    | [] => .ok ()
    | numbers => do
      let b ← numbers.foldlM (fun b number => (b.fill number).map (·.2)) { b with begun := [] }
      fillAll rounds b

end Building

namespace Document

/-- What the nodes of a document stand for. -/
def ofNodes (nodes : Nodes) : Except Problem Document := do
  let (value, b) ← (Building.start nodes).value 0
  match value, b with
  | .scalar s, _ => return .other (.scalar s)
  | .collection, ⟨nodes, values, _⟩ =>
    let isMapping := nodes[0]?.any (·.tag = .mapping)
    let (entries, b) ← Building.fill 0 ⟨nodes, values, []⟩
    b.fillAll nodes.size
    return if isMapping then .mapping (Table.ofReversed entries).entries.toList
      else .other .collection

/-- What the only document in a text stands for; null if there is none. -/
def ofText (t : Text) : Except Problem Document :=
  if t.all isAllowed then do
    match ← Nodes.ofTokens (tokens t) with
    | none => return .other (.scalar .null)
    | some nodes => ofNodes nodes
  else .error .malformed

end Document

end DwmIpc.Yaml
