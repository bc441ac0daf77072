import Std.Data.HashMap
import DwmIpc.Yaml.Tag
import DwmIpc.Yaml.Token

/-!
# The nodes of a YAML document

Nodes have numbers, and a collection names the nodes in it by them; an alias is
the number of the node that its anchor names, so a node can stand in many places,
even inside itself. `Nodes.ofTokens` reads the tokens of a text that holds at most
one document; the root of it has the number 0. Functions that read a part of the
tokens give what they read and the `Source` after it.
-/

namespace DwmIpc.Yaml

/-- A node. -/
inductive Node where
  | scalar (tag : Tag) (text : Text)
  | sequence (tag : Tag) (items : List Nat)
  | mapping (tag : Tag) (pairs : List (Nat × Nat))

/-- The nodes of a document by their numbers. -/
abbrev Nodes := Array Node

namespace Node

/-- The kind of a node. -/
def tag : Node → Tag
  | scalar tag _ | sequence tag _ | mapping tag _ => tag

/-- The pairs of a node, if it is a mapping. -/
def pairs? : Node → Option (List (Nat × Nat))
  | mapping _ pairs => some pairs
  | _ => none

/-- A scalar that is left out. -/
def empty : Node := scalar .null []

end Node

/-- What is left of the tokens, the anchors so far, and the nodes so far. -/
structure Source where
  tokens : List Token
  anchors : Std.HashMap Text Nat
  nodes : Nodes

/-- The beginnings of tags that handles stand for. -/
abbrev Handles := List (Text × Text)

/-- The handles that every document has. -/
def Handles.standard : Handles := [(Text.ofString "!", Text.ofString "!"),
  (Text.ofString "!!", Text.ofString standardPart)]

/-- The kind that a written tag asks for; `none` leaves it open. -/
def Tag.ofWritten (handles : Handles) (name : TagName) : Except Problem (Option Tag) :=
  match name.handle with
  | none => .ok (if name.rest = Text.ofString "!" then none else some (ofName name.rest))
  | some handle =>
    match handles.find? (·.1 == handle) with
    | some (_, start) =>
      let full := start ++ name.rest
      .ok (if full = Text.ofString "!" then none else some (ofName full))
    | none => .error .malformed

/-- What may stand before the content of a node. -/
structure Properties where
  anchor : Option Text
  tag : Option TagName

/-- Reads an anchor and a tag, in any order. -/
def readProperties : List Token → Properties × List Token
  | .anchor a :: .tag t :: rest | .tag t :: .anchor a :: rest => (⟨some a, some t⟩, rest)
  | .anchor a :: rest => (⟨some a, none⟩, rest)
  | .tag t :: rest => (⟨none, some t⟩, rest)
  | rest => (⟨none, none⟩, rest)

/-- The end of a list of tokens where more were expected. -/
def unexpected (tokens : List Token) : Problem :=
  match tokens with
  | .problem problem :: _ => problem
  | _ => .malformed

namespace Source

/-- Without the first token. -/
def skip (s : Source) : Source := { s with tokens := s.tokens.tail }

/-- Adds a node; gives its number. -/
def add (node : Node) (s : Source) : Nat × Source :=
  let number := s.nodes.size
  (number, { s with nodes := s.nodes.push node })

/-- Adds a node that is still to be read, and its anchor. No anchor may be given twice; the content
after it is looked at first. -/
def reserve (anchor : Option Text) (s : Source) : Except Problem (Nat × Source) :=
  match anchor with
  | none => .ok (s.add .empty)
  | some name =>
    if s.anchors.contains name then .error (unexpected s.tokens)
    else
      let (number, s) := s.add .empty
      .ok (number, { s with anchors := s.anchors.insert name number })

/-- Gives a number its node. -/
def set (number : Nat) (node : Node) (s : Source) : Source :=
  { s with nodes := s.nodes.setIfInBounds number node }

/-- The number of the node that an alias names. -/
def aliased? (name : Text) (s : Source) : Except Problem Nat :=
  match s.anchors[name]? with
  | some number => .ok number
  | none => .error .malformed

/-- Does the next token satisfy a condition? -/
def nextIs (s : Source) (p : Token → Bool) : Bool := s.tokens.head?.any p

end Source

/-- The number of a node that was read, and the source after it. -/
abbrev NodeReading := Except Problem (Nat × Source)

/-- A collection that was read, and the source after it. -/
abbrev CollectionReading := Except Problem (Node × Source)

/-- Where a node stands: in a block, where a sequence need not be indented, or in brackets. -/
structure Place where
  inBlock : Bool
  indentless : Bool

/-- In brackets. -/
def Place.flow : Place := ⟨false, false⟩

/-- An entry of a block. -/
def Place.entry : Place := ⟨true, false⟩

/-- A key or value of a mapping in a block. -/
def Place.pair : Place := ⟨true, true⟩

mutual

/-- Reads a node; `depth` more collections may lie in one another. -/
def readNode (handles : Handles) : (fuel depth : Nat) → Place → Source → NodeReading
  | 0, _, _, _ => .error .malformed
  | fuel + 1, depth, place, s =>
    match s.tokens with
    | .alias name :: _ => (s.aliased? name).map (·, s.skip)
    | tokens =>
      let (properties, rest) := readProperties tokens
      let s := { s with tokens := rest }
      match properties.tag.mapM (Tag.ofWritten handles) with
      | .error problem =>
        .error (if properties.anchor.isSome then problem else unexpected s.tokens)
      | .ok tag =>
        match s.reserve properties.anchor with
        | .error problem => .error problem
        | .ok (number, s) =>
          (readContent handles fuel depth place properties tag.join s).map fun (node, s) =>
            (number, s.set number node)

/-- Reads what follows the properties of a node, which ask for the kind `tag`. -/
def readContent (handles : Handles) :
    (fuel depth : Nat) → Place → Properties → Option Tag → Source → CollectionReading
  | 0, _, _, _, _, _ => .error .malformed
  | fuel + 1, depth, place, properties, tag, s =>
    let leftOut (problem : Problem) (s : Source) : CollectionReading :=
      if properties.anchor.isSome || properties.tag.isSome then
        .ok (.scalar (tag.getD .null) [], s)
      else .error problem
    match s.tokens, depth with
    | .item :: _, depth =>
      if place.indentless then
        match depth with
        | 0 => .error .tooDeep
        | depth + 1 => readIndentless handles fuel depth (tag.getD .sequence) [] s
      else leftOut .malformed s
    | .scalar text plain :: _, _ =>
      let formed := plain || properties.tag.isSome
      .ok (.scalar (tag.getD (if formed then Tag.ofForm text else .text)) text, s.skip)
    | .flowSequence :: _, depth + 1 =>
      readFlowSequence handles fuel depth (tag.getD .sequence) true [] s.skip
    | .flowMapping :: _, depth + 1 =>
      readFlowMapping handles fuel depth (tag.getD .mapping) true [] s.skip
    | .blockSequence :: _, depth + 1 =>
      if place.inBlock then readBlockSequence handles fuel depth (tag.getD .sequence) [] s.skip
      else leftOut .malformed s
    | .blockMapping :: _, depth + 1 =>
      if place.inBlock then readBlockMapping handles fuel depth (tag.getD .mapping) [] s.skip
      else leftOut .malformed s
    | .flowSequence :: _, 0 | .flowMapping :: _, 0 | .blockSequence :: _, 0
    | .blockMapping :: _, 0 => .error .tooDeep
    | tokens, _ => leftOut (unexpected tokens) s

/-- Reads the entries of a sequence in a block up to its end. -/
def readBlockSequence (handles : Handles) :
    (fuel depth : Nat) → Tag → (done : List Nat) → Source → CollectionReading
  | 0, _, _, _, _ => .error .malformed
  | fuel + 1, depth, tag, done, s =>
    match s.tokens with
    | .item :: .item :: _ | .item :: .blockEnd :: _ =>
      let (number, s) := s.skip.add .empty
      readBlockSequence handles fuel depth tag (number :: done) s
    | .item :: _ =>
      match readNode handles fuel depth .entry s.skip with
      | .error problem => .error problem
      | .ok (number, s) => readBlockSequence handles fuel depth tag (number :: done) s
    | .blockEnd :: _ => .ok (.sequence tag done.reverse, s.skip)
    | tokens => .error (unexpected tokens)

/-- Reads the entries of a sequence that is not indented; nothing marks its end. -/
def readIndentless (handles : Handles) :
    (fuel depth : Nat) → Tag → (done : List Nat) → Source → CollectionReading
  | 0, _, _, _, _ => .error .malformed
  | fuel + 1, depth, tag, done, s =>
    match s.tokens with
    | .item :: .item :: _ | .item :: .key :: _ | .item :: .value :: _ | .item :: .blockEnd :: _ =>
      let (number, s) := s.skip.add .empty
      readIndentless handles fuel depth tag (number :: done) s
    | .item :: _ =>
      match readNode handles fuel depth .entry s.skip with
      | .error problem => .error problem
      | .ok (number, s) => readIndentless handles fuel depth tag (number :: done) s
    | _ => .ok (.sequence tag done.reverse, s)

/-- Reads the pairs of a mapping in a block up to its end. -/
def readBlockMapping (handles : Handles) :
    (fuel depth : Nat) → Tag → (done : List (Nat × Nat)) → Source → CollectionReading
  | 0, _, _, _, _ => .error .malformed
  | fuel + 1, depth, tag, done, s =>
    match s.tokens with
    | .key :: _ =>
      match readBlockPart handles fuel depth s.skip with
      | .error problem => .error problem
      | .ok (key, s) =>
        match readBlockValue handles fuel depth s with
        | .error problem => .error problem
        | .ok (value, s) => readBlockMapping handles fuel depth tag ((key, value) :: done) s
    | .blockEnd :: _ => .ok (.mapping tag done.reverse, s.skip)
    | tokens => .error (unexpected tokens)

/-- Reads the value of a pair in a block after its key; it may be left out with its token. -/
def readBlockValue (handles : Handles) : (fuel depth : Nat) → Source → NodeReading
  | 0, _, _ => .error .malformed
  | fuel + 1, depth, s =>
    if s.nextIs (· == .value) then readBlockPart handles fuel depth s.skip
    else .ok (s.add .empty)

/-- Reads a key or value of a mapping in a block, which may be left out. -/
def readBlockPart (handles : Handles) : (fuel depth : Nat) → Source → NodeReading
  | 0, _, _ => .error .malformed
  | fuel + 1, depth, s =>
    match s.tokens with
    | .key :: _ | .value :: _ | .blockEnd :: _ => .ok (s.add .empty)
    | _ => readNode handles fuel depth .pair s

/-- Reads the entries of a sequence in brackets up to its end; an entry may be a single pair. -/
def readFlowSequence (handles : Handles) :
    (fuel depth : Nat) → Tag → (first : Bool) → (done : List Nat) → Source → CollectionReading
  | 0, _, _, _, _, _ => .error .malformed
  | fuel + 1, depth, tag, first, done, s =>
    if s.nextIs (· == .flowSequenceEnd) then .ok (.sequence tag done.reverse, s.skip)
    else if !first && !s.nextIs (· == .comma) then .error (unexpected s.tokens)
    else
      let s := if first then s else s.skip
      match s.tokens with
      | .flowSequenceEnd :: _ => .ok (.sequence tag done.reverse, s.skip)
      | .key :: _ =>
        match depth with
        | 0 => .error .tooDeep
        | depth + 1 =>
          match readFlowPair handles fuel depth .flowSequenceEnd s.skip with
          | .error problem => .error problem
          | .ok (pair, s) =>
            let (number, s) := s.add (.mapping .mapping [pair])
            readFlowSequence handles fuel (depth + 1) tag false (number :: done) s
      | _ =>
        match readNode handles fuel depth .flow s with
        | .error problem => .error problem
        | .ok (number, s) => readFlowSequence handles fuel depth tag false (number :: done) s

/-- Reads the pairs of a mapping in brackets up to its end; a value may be left out. -/
def readFlowMapping (handles : Handles) :
    (fuel depth : Nat) → Tag → (first : Bool) → (done : List (Nat × Nat)) → Source →
      CollectionReading
  | 0, _, _, _, _, _ => .error .malformed
  | fuel + 1, depth, tag, first, done, s =>
    if s.nextIs (· == .flowMappingEnd) then .ok (.mapping tag done.reverse, s.skip)
    else if !first && !s.nextIs (· == .comma) then .error (unexpected s.tokens)
    else
      let s := if first then s else s.skip
      match s.tokens with
      | .flowMappingEnd :: _ => .ok (.mapping tag done.reverse, s.skip)
      | .key :: _ =>
        match readFlowPair handles fuel depth .flowMappingEnd s.skip with
        | .error problem => .error problem
        | .ok (pair, s) => readFlowMapping handles fuel depth tag false (pair :: done) s
      | _ =>
        match readNode handles fuel depth .flow s with
        | .error problem => .error problem
        | .ok (key, s) =>
          let (value, s) := s.add .empty
          readFlowMapping handles fuel depth tag false ((key, value) :: done) s

/-- Reads a pair in brackets after the token of its key; key and value may be left out. -/
def readFlowPair (handles : Handles) :
    (fuel depth : Nat) → (closing : Token) → Source → Except Problem ((Nat × Nat) × Source)
  | 0, _, _, _ => .error .malformed
  | fuel + 1, depth, closing, s =>
    let key :=
      if s.nextIs fun t => t == .value || t == .comma || t == closing then .ok (s.add .empty)
      else readNode handles fuel depth .flow s
    match key with
    | .error problem => .error problem
    | .ok (key, s) =>
      (readFlowValue handles fuel depth closing s).map fun (value, s) => ((key, value), s)

/-- Reads the value of a pair in brackets after its key; it may be left out with its token. -/
def readFlowValue (handles : Handles) :
    (fuel depth : Nat) → (closing : Token) → Source → NodeReading
  | 0, _, _, _ => .error .malformed
  | fuel + 1, depth, closing, s =>
    if s.nextIs (· == .value) then
      let s := s.skip
      if s.nextIs fun t => t == .comma || t == closing then .ok (s.add .empty)
      else readNode handles fuel depth .flow s
    else .ok (s.add .empty)

end

/-- Reads the directives before a document: the version may be given once and must be 1, no handle
may be given twice. -/
def readDirectives (version : Bool) (handles : Handles) :
    List Token → Except Problem (Handles × List Token)
  | .directive (.version major) :: rest =>
    if version || major ≠ 1 then .error .malformed else readDirectives true handles rest
  | .directive (.tag handle start) :: rest =>
    if handles.any (·.1 == handle) then .error .malformed
    else readDirectives version ((handle, start) :: handles) rest
  | .directive .other :: rest => readDirectives version handles rest
  | rest => .ok (handles, rest)

/-- How many collections may lie in one another. -/
def maxDepth : Nat := 480

/-- Nothing may follow a document but marks of its end. -/
def finish (nodes : Nodes) (tokens : List Token) : Except Problem (Option Nodes) :=
  match tokens.dropWhile (· == .documentEnd) with
  | [] => .ok (some nodes)
  | rest =>
    match readDirectives false [] rest with
    | .error problem => .error problem
    | .ok (_, rest) => .error (unexpected rest)

/-- The nodes of the only document, if there is one. -/
def Nodes.ofTokens (tokens : List Token) : Except Problem (Option Nodes) :=
  let fuel := 4 * tokens.length + 4
  match tokens with
  | [] => .ok none
  | .directive _ :: _ | .documentStart :: _ =>
    match readDirectives false [] tokens with
    | .error problem => .error problem
    | .ok (handles, .documentStart :: rest) =>
      match rest with
      | [] | .directive _ :: _ | .documentStart :: _ | .documentEnd :: _ => finish #[.empty] rest
      | _ =>
        match readNode (handles ++ Handles.standard) fuel maxDepth .entry ⟨rest, ∅, #[]⟩ with
        | .error problem => .error problem
        | .ok (_, s) => finish s.nodes s.tokens
    | .ok (_, rest) => .error (unexpected rest)
  | _ =>
    match readNode Handles.standard fuel maxDepth .entry ⟨tokens, ∅, #[]⟩ with
    | .error problem => .error problem
    | .ok (_, s) => finish s.nodes s.tokens

end DwmIpc.Yaml
