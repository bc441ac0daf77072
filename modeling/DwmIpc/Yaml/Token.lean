import DwmIpc.Yaml.Lexeme

/-!
# The tokens of a YAML text

Indentation becomes tokens here: a collection that starts at a new column opens a
block, and a line that starts left of it closes the block. That something is the
key of a mapping shows only at the colon after it, so the last place where a key
may start is remembered for each level of brackets, and the token for the key is
put in there when the colon comes. A key must lie on one line and within
`keyReach` code points.
-/

namespace DwmIpc.Yaml

/-- A token. Where the text is malformed, the tokens end with `problem`. -/
inductive Token where
  | documentStart
  | documentEnd
  | directive (directive : Directive)
  | blockSequence
  | blockMapping
  | blockEnd
  | flowSequence
  | flowSequenceEnd
  | flowMapping
  | flowMappingEnd
  | item
  | comma
  | key
  | value
  | anchor (name : Text)
  | alias (name : Text)
  | tag (name : TagName)
  | scalar (text : Text) (plain : Bool)
  | problem (problem : Problem)
  deriving DecidableEq

/-- A place where a key may start: the number of tokens and of open brackets before it, whether the
block demands a key there, and where it is. -/
structure PossibleKey where
  number : Nat
  level : Nat
  required : Bool
  line : Nat
  column : Nat
  index : Nat

/-- How far the colon may be from the start of its key. -/
def keyReach : Nat := 1024

/-- What is known while tokens are read: the columns of the open blocks, innermost first; the number
of open brackets; whether a key may start here; the possible keys within reach, at most one for each
level of brackets, innermost first; and the tokens so far, backwards, with their count. -/
structure Layout where
  cursor : Cursor
  blocks : List Nat
  level : Nat
  keyAllowed : Bool
  keys : List PossibleKey
  tokens : List Token
  count : Nat

namespace Layout

/-- The beginning of a text. -/
def start (t : Text) : Layout where
  cursor := Cursor.start t
  blocks := []
  level := 0
  keyAllowed := true
  keys := []
  tokens := []
  count := 0

/-- Inside brackets? -/
def inFlow (l : Layout) : Bool := decide (0 < l.level)

/-- The possible key of this level of brackets. -/
def key? (l : Layout) : Option PossibleKey :=
  l.keys.head?.filter (·.level = l.level)

/-- Adds a token and moves on. -/
def emit (token : Token) (cursor : Cursor) (l : Layout) : Layout :=
  { l with tokens := token :: l.tokens, count := l.count + 1, cursor }

/-- Puts a token behind the first `number` ones. -/
def insert (number : Nat) (token : Token) (l : Layout) : Layout :=
  let later := l.count - number
  { l with tokens := l.tokens.take later ++ token :: l.tokens.drop later, count := l.count + 1 }

/-- Opens a block at a column that is right of the innermost block; `number` is where its token
belongs. -/
def openBlock (token : Token) (number column : Nat) (l : Layout) : Layout :=
  if l.blocks.head?.all (· < column) then
    { l.insert number token with blocks := column :: l.blocks }
  else l

/-- Closes the blocks that satisfy a condition, innermost first. -/
def closeBlocks (p : Nat → Bool) (l : Layout) : Layout :=
  let closed := (l.blocks.takeWhile p).length
  { l with
    blocks := l.blocks.drop closed
    tokens := List.replicate closed .blockEnd ++ l.tokens
    count := l.count + closed }

/-- Closes the blocks that are right of the cursor; brackets suspend blocks. -/
def closeToColumn (l : Layout) : Layout :=
  if l.inFlow then l else l.closeBlocks (l.cursor.column < ·)

/-- Gives up the possible key of this level, unless the block demands it. -/
def dropKey (l : Layout) : Except Problem Layout :=
  match l.key? with
  | none => .ok l
  | some key => if key.required then .error .malformed else .ok { l with keys := l.keys.tail }

/-- Is a possible key out of reach? -/
def isStale (c : Cursor) (key : PossibleKey) : Bool :=
  key.line ≠ c.line || decide (keyReach < c.index - key.index)

/-- Gives up the possible keys that are out of reach. -/
def dropStaleKeys (l : Layout) : Except Problem Layout :=
  let (stale, fresh) := l.keys.partition (isStale l.cursor)
  if stale.any (·.required) then .error .malformed else .ok { l with keys := fresh }

/-- Remembers that a key may start here. -/
def saveKey (l : Layout) : Except Problem Layout :=
  if l.keyAllowed then do
    let l ← l.dropKey
    let c := l.cursor
    let required := !l.inFlow && l.blocks.head? == some c.column
    return { l with keys := ⟨l.count, l.level, required, c.line, c.column, c.index⟩ :: l.keys }
  else .ok l

/-- Allows or forbids a key to start here. -/
def allowKey (allowed : Bool) (l : Layout) : Layout := { l with keyAllowed := allowed }

/-- Skips spaces, comments and line breaks; after a break a key may start, except in brackets. -/
def skipBlanks : (fuel : Nat) → Layout → Layout
  | 0, l => l
  | fuel + 1, l =>
    let c := l.cursor.skip isSpace
    let c := if c.isAt '#' then c.skipLine else c
    match c.lineBreak? with
    | some (_, c) =>
      skipBlanks fuel { l with cursor := c, keyAllowed := l.keyAllowed || !l.inFlow }
    | none => { l with cursor := c }

/-- A token that ends all blocks: a separator of documents or a directive. -/
def topLevel (token : Token) (c : Cursor) (l : Layout) : Except Problem Layout := do
  let l ← (l.closeBlocks fun _ => true).dropKey
  return (l.allowKey false).emit token c

/-- An opening bracket. -/
def openFlow (token : Token) (l : Layout) : Except Problem Layout := do
  let l ← l.saveKey
  return ({ l with level := l.level + 1 }.allowKey true).emit token l.cursor.next

/-- A closing bracket. -/
def closeFlow (token : Token) (l : Layout) : Except Problem Layout := do
  let l ← l.dropKey
  match l.level with
  | 0 => throw .malformed
  | level + 1 => return ({ l with level }.allowKey false).emit token l.cursor.next

/-- A comma in brackets. -/
def comma (l : Layout) : Except Problem Layout := do
  let l ← (l.allowKey true).dropKey
  return l.emit .comma l.cursor.next

/-- A dash or question mark, which opens a block of its own kind. -/
def indicator (block token : Token) (keyAfter : Bool) (l : Layout) : Except Problem Layout := do
  if !l.inFlow && !l.keyAllowed then throw .malformed
  let l := if l.inFlow then l else l.openBlock block l.count l.cursor.column
  let l ← (l.allowKey keyAfter).dropKey
  return l.emit token l.cursor.next

/-- A colon: the possible key of this level becomes a key, or else the key is empty. -/
def colon (l : Layout) : Except Problem Layout :=
  match l.key? with
  | some key =>
    let l := { l with keys := l.keys.tail }.insert key.number .key
    let l := if l.inFlow then l else l.openBlock .blockMapping key.number key.column
    .ok ((l.allowKey false).emit .value l.cursor.next)
  | none => l.indicator .blockMapping .value (!l.inFlow)

/-- A token that may be, or start, a key. -/
def word (read : Cursor → Except Problem (Token × Cursor)) (l : Layout) : Except Problem Layout := do
  let l ← l.saveKey
  let (token, c) ← read l.cursor
  return (l.allowKey false).emit token c

/-- The column that lines of a scalar must reach. -/
def scalarIndent (l : Layout) : Nat :=
  match l.blocks with
  | [] => 0
  | column :: _ => column + 1

/-- A plain scalar. A key may start after it if it ends with its line. -/
def plainScalar (l : Layout) : Except Problem Layout := do
  let l ← l.saveKey
  let c := l.cursor
  let (text, broken, c) := plain l.inFlow l.scalarIndent c.fuel [] [] false c
  return (l.allowKey broken).emit (.scalar text true) c

/-- A block scalar. -/
def blockScalar (folded : Bool) (l : Layout) : Except Problem Layout := do
  let l ← (l.allowKey true).dropKey
  let (text, c) ← block folded l.scalarIndent l.cursor.next
  return l.emit (.scalar text false) c

/-- A quoted scalar. -/
def quotedScalar (double : Bool) (l : Layout) : Except Problem Layout :=
  l.word fun c => do
    let (text, c) ← quoted double c.fuel [] c.next
    return (.scalar text false, c)

/-- Characters that no plain scalar starts with. -/
def indicators : String := "-?:,[]\x7b\x7d#&*!|>'\"%@`"

/-- May a plain scalar start with `x`? -/
def startsPlain (x : CodePoint) (l : Layout) : Bool :=
  (!endsWord (some x) && !isOneOf x indicators) ||
    (!endsWord (l.cursor.peekAt 1) &&
      (x == .scalar '-' || (!l.inFlow && (x == .scalar '?' || x == .scalar ':'))))

/-- Reads the token that starts with the character `x` at the cursor. -/
def token (x : CodePoint) (l : Layout) : Except Problem Layout :=
  let c := l.cursor
  let ends := endsWord (c.peekAt 1)
  let separator := c.column = 0 && c.atSeparator
  if x = .scalar '%' ∧ c.column = 0 then do
    let (d, c) ← directive c.next
    l.topLevel (.directive d) c
  else if x = .scalar '-' ∧ separator then l.topLevel .documentStart (c.advance 3)
  else if x = .scalar '.' ∧ separator then l.topLevel .documentEnd (c.advance 3)
  else if x = .scalar '[' then l.openFlow .flowSequence
  else if x = .scalar '\x7b' then l.openFlow .flowMapping
  else if x = .scalar ']' then l.closeFlow .flowSequenceEnd
  else if x = .scalar '\x7d' then l.closeFlow .flowMappingEnd
  else if x = .scalar ',' then l.comma
  else if x = .scalar '-' ∧ ends then l.indicator .blockSequence .item true
  else if x = .scalar '?' ∧ (l.inFlow ∨ ends) then l.indicator .blockMapping .key (!l.inFlow)
  else if x = .scalar ':' ∧ (l.inFlow ∨ ends) then l.colon
  else if x = .scalar '*' then
    l.word fun c => do
      let (name, c) ← anchorName c.next
      return (.alias name, c)
  else if x = .scalar '&' then
    l.word fun c => do
      let (name, c) ← anchorName c.next
      return (.anchor name, c)
  else if x = .scalar '!' then
    l.word fun c => do
      let (name, c) ← tagName c
      return (.tag name, c)
  else if x = .scalar '|' ∧ !l.inFlow then l.blockScalar false
  else if x = .scalar '>' ∧ !l.inFlow then l.blockScalar true
  else if x = .scalar '\'' then l.quotedScalar false
  else if x = .scalar '"' then l.quotedScalar true
  else if l.startsPlain x then l.plainScalar
  else .error .malformed

/-- How many tokens in front are certain: before the first possible key within reach nothing can be
put in any more. -/
def settled (l : Layout) : Nat :=
  (l.keys.filter fun key => !isStale l.cursor key).foldl (fun least key => min least key.number) l.count

/-- The tokens of a text in which a problem follows. A possible key is undecided until the text
after it is read, so the problem comes before it. -/
def brokenOff (problem : Problem) (l : Layout) : List Token :=
  (.problem problem :: l.tokens.drop (l.count - l.settled)).reverse

/-- Reads the next token, with the ends of blocks before it; `none` at the end of the text. -/
def step (l : Layout) : Except Problem (Option Layout) := do
  let l := (← (l.skipBlanks l.cursor.fuel).dropStaleKeys).closeToColumn
  match l.cursor.peek with
  | none => return none
  | some x => return some (← l.token x)

/-- Ends all blocks. -/
def atEnd (l : Layout) : Except Problem Layout := do
  ((← (l.skipBlanks l.cursor.fuel).dropStaleKeys).closeBlocks fun _ => true).dropKey

/-- Reads tokens up to the end; every step takes a code point. -/
def readAll : (fuel : Nat) → Layout → List Token
  | 0, l => l.brokenOff .malformed
  | fuel + 1, l =>
    match l.step with
    | .error problem => l.brokenOff problem
    | .ok (some next) => readAll fuel next
    | .ok none =>
      match l.atEnd with
      | .error problem => l.brokenOff problem
      | .ok last => last.tokens.reverse

end Layout

/-- The tokens of a text. A byte order mark may stand in front. -/
def tokens (t : Text) : List Token :=
  let l := Layout.start t
  let l := if t.head? = some byteOrderMark then { l with cursor := l.cursor.next } else l
  l.readAll (t.length + 1)

end DwmIpc.Yaml
