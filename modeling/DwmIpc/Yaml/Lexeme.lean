import DwmIpc.Text.Utf8
import DwmIpc.Yaml.Cursor

/-!
# Scalars, names and tags in a YAML text

The parts of a document that consist of characters: plain, quoted and block
scalars with their folding of lines, the names of anchors, tags and directives.
Texts are collected backwards. Each reader gives what it read and the place
after it.
-/

namespace DwmIpc.Yaml

/-! ## Plain scalars -/

/-- How many code points in front belong to one word of a plain scalar. -/
def plainLength (flow : Bool) (length : Nat) : Text → Nat
  | [] => length
  | x :: rest =>
    if endsWord (some x) then length
    else if x = .scalar ':' ∧
        (endsWord rest.head? ∨ (flow ∧ rest.head?.any (isOneOf · ",[]\x7b\x7d"))) then length
    else if flow ∧ isOneOf x ",?[]{}" then length
    else plainLength flow (length + 1) rest

/-- Skips spaces and line breaks in front of the next line of a plain scalar; gives the breaks,
backwards, or `none` if a separator of documents comes. -/
def plainBreaks : (fuel : Nat) → (breaks : Text) → Cursor → Option Text × Cursor
  | 0, breaks, c => (some breaks, c)
  | fuel + 1, breaks, c =>
    if c.isAt ' ' then plainBreaks fuel breaks c.next
    else
      match c.lineBreak? with
      | none => (some breaks, c)
      | some (x, c) => if c.atSeparator then (none, c) else plainBreaks fuel (x :: breaks) c

/-- A single break between lines becomes a space, further breaks stay. The result is backwards, and
so are the `breaks` after the first one. -/
def fold (first : CodePoint) (breaks : Text) : Text :=
  if first ≠ .scalar '\n' then breaks ++ [first]
  else if breaks.isEmpty then [.scalar ' ']
  else breaks

/-- The white space after a word of a plain scalar: what stands for it if another word follows,
backwards; the place after it; and whether it holds a line break. -/
def plainSpaces (c : Cursor) : Text × Cursor × Bool :=
  let spaces := c.taken (c.run isSpace)
  let c := c.skip isSpace
  match c.lineBreak? with
  | none => (spaces, c, false)
  | some (first, c) =>
    if c.atSeparator then ([], c, true)
    else
      match plainBreaks c.fuel [] c with
      | (none, c) => ([], c, true)
      | (some breaks, c) => (fold first breaks, c, true)

/-- Reads a plain scalar, whose further lines are indented by `indent` at least. `done` is what was
read, backwards, `spaces` what stands before the next word. Tells whether a line break was the last
thing that was skipped. -/
def plain (flow : Bool) (indent : Nat) :
    (fuel : Nat) → (done spaces : Text) → (broken : Bool) → Cursor → Text × Bool × Cursor
  | 0, done, _, broken, c => (done.reverse, broken, c)
  | fuel + 1, done, spaces, broken, c =>
    let length := if c.isAt '#' then 0 else plainLength flow 0 c.rest
    if length = 0 then (done.reverse, broken, c)
    else
      let done := (c.taken length).reverse ++ (spaces ++ done)
      let (spaces, c, broken) := plainSpaces (c.advance length)
      if spaces.isEmpty || c.isAt '#' || (!flow && decide (c.column < indent)) then
        (done.reverse, broken, c)
      else plain flow indent fuel done spaces broken c

/-! ## Quoted scalars -/

/-- The characters that have an escape of one letter. -/
def escapes : List (Char × Char) :=
  [('0', '\x00'), ('a', '\x07'), ('b', '\x08'), ('t', '\t'), ('\t', '\t'), ('n', '\n'),
    ('v', '\x0b'), ('f', '\x0c'), ('r', '\r'), ('e', '\x1b'), (' ', ' '), ('"', '"'),
    ('\\', '\\'), ('/', '/'), ('N', '\x85'), ('_', '\xa0'), ('L', '\u2028'), ('P', '\u2029')]

/-- The letters that hexadecimal digits follow, and how many. -/
def numericEscapes : List (Char × Nat) := [('x', 2), ('u', 4), ('U', 8)]

/-- The value of a character in a list of pairs. -/
def assoc {α : Type} (table : List (Char × α)) : CodePoint → Option α
  | .scalar c => (table.find? (·.1 == c)).map (·.2)
  | .surrogate _ => none

/-- The number that hexadecimal digits denote. -/
def hexNumber? (digits : Text) : Option Nat :=
  digits.foldl (fun n d => do return (← n) * 16 + (← d.hexValue?)) (some 0)

/-- A number as a code point. Numbers with 32 significant bits are beyond a machine integer with a
sign, and are refused as such. -/
def codePointOf (n : Nat) : Except Problem CodePoint :=
  if n < 0x110000 then .ok (.ofNat n)
  else if n < 0x80000000 then .error (.impossible .badCodePoint)
  else .error (.impossible .hugeCodePoint)

/-- Skips the line breaks and blanks before the next line of a quoted scalar; gives the breaks,
backwards. -/
def quotedBreaks : (fuel : Nat) → (breaks : Text) → Cursor → Except Problem (Text × Cursor)
  | 0, _, _ => .error .malformed
  | fuel + 1, breaks, c =>
    if c.atSeparator then .error .malformed
    else
      let c := c.skip isBlank
      match c.lineBreak? with
      | none => .ok (breaks, c)
      | some (x, c) => quotedBreaks fuel (x :: breaks) c

/-- Reads an escape after its backslash; gives what it stands for, backwards. -/
def escape (c : Cursor) : Except Problem (Text × Cursor) :=
  match c.peek with
  | none => .error .malformed
  | some x =>
    match assoc escapes x, assoc numericEscapes x with
    | some character, _ => .ok ([.scalar character], c.next)
    | none, some count =>
      let digits := c.next.taken count
      match hexNumber? digits with
      | none => .error .malformed
      | some n =>
        if digits.length < count then .error .malformed
        else
          match codePointOf n with
          | .ok x => .ok ([x], c.next.advance count)
          | .error problem => .error problem
    | none, none =>
      match c.lineBreak? with
      | some (_, c) => quotedBreaks c.fuel [] c
      | none => .error .malformed

/-- The white space inside a quoted scalar; gives what stands for it, backwards. -/
def quotedSpaces (c : Cursor) : Except Problem (Text × Cursor) :=
  let blanks := c.taken (c.run isBlank)
  let c := c.skip isBlank
  match c.peek, c.lineBreak? with
  | none, _ => .error .malformed
  | some _, none => .ok (blanks.reverse, c)
  | some _, some (first, c) =>
    match quotedBreaks c.fuel [] c with
    | .error problem => .error problem
    | .ok (breaks, c) => .ok (fold first breaks, c)

/-- Reads a quoted scalar after its opening quote; `done` is what was read, backwards. -/
def quoted (double : Bool) : (fuel : Nat) → (done : Text) → Cursor → Except Problem (Text × Cursor)
  | 0, _, _ => .error .malformed
  | fuel + 1, done, c =>
    match c.rest with
    | [] => .error .malformed
    | x :: more =>
      if endsWord (some x) then
        match quotedSpaces c with
        | .error problem => .error problem
        | .ok (spaces, c) => quoted double fuel (spaces ++ done) c
      else if x = .scalar '\'' ∧ !double then
        if more.head? = some (.scalar '\'') then quoted double fuel (x :: done) (c.advance 2)
        else .ok (done.reverse, c.next)
      else if x = .scalar '"' ∧ double then .ok (done.reverse, c.next)
      else if x = .scalar '\\' ∧ double then
        match escape c.next with
        | .error problem => .error problem
        | .ok (text, c) => quoted double fuel (text ++ done) c
      else quoted double fuel (x :: done) c.next

/-! ## Block scalars -/

/-- What becomes of the line breaks at the end of a block scalar. -/
inductive Chomping where
  | strip
  | clip
  | keep
  deriving DecidableEq

/-- The chomping that a character asks for. -/
def chomping? : Option CodePoint → Option Chomping
  | some (.scalar '+') => some .keep
  | some (.scalar '-') => some .strip
  | _ => none

/-- The indentation that a digit asks for; zero is not allowed. -/
def increment? (next : Option CodePoint) : Except Problem (Option Nat) :=
  match next with
  | some (.scalar c) =>
    if c = '0' then .error .malformed
    else if c.isDigit then .ok (some (c.toNat - '0'.toNat))
    else .ok none
  | _ => .ok none

/-- Reads what follows the indicator of a block scalar on its line. -/
def blockHeader (c : Cursor) : Except Problem ((Chomping × Option Nat) × Cursor) := do
  let first := chomping? c.peek
  let c := if first.isSome then c.next else c
  let increment ← increment? c.peek
  let c := if increment.isSome then c.next else c
  let second := if first.isSome || increment.isNone then none else chomping? c.peek
  let c := if second.isSome then c.next else c
  if !endsSpaced c.peek then throw .malformed
  let c := c.skip isSpace
  let c := if c.isAt '#' then c.skipLine else c
  if !endsLine c.peek then throw .malformed
  let c := match c.lineBreak? with
    | some (_, c) => c
    | none => c
  return (((first.orElse fun _ => second).getD .clip, increment), c)

/-- Skips the empty lines before a block scalar; gives the breaks, backwards, and the largest column
of their spaces. -/
def blockIndentation : (fuel : Nat) → (breaks : Text) → (widest : Nat) → Cursor → Text × Nat × Cursor
  | 0, breaks, widest, c => (breaks, widest, c)
  | fuel + 1, breaks, widest, c =>
    if c.isAt ' ' then
      let c := c.next
      blockIndentation fuel breaks (max widest c.column) c
    else
      match c.lineBreak? with
      | some (x, c) => blockIndentation fuel (x :: breaks) widest c
      | none => (breaks, widest, c)

/-- Moves over spaces up to a column. -/
def indentTo (column : Nat) (c : Cursor) : Cursor :=
  c.advance (min (column - c.column) (c.run isSpace))

/-- Skips the line breaks between two lines of a block scalar; gives the breaks, backwards. -/
def blockBreaks (indent : Nat) : (fuel : Nat) → (breaks : Text) → Cursor → Text × Cursor
  | 0, breaks, c => (breaks, c)
  | fuel + 1, breaks, c =>
    let c := indentTo indent c
    match c.lineBreak? with
    | some (x, c) => blockBreaks indent fuel (x :: breaks) c
    | none => (breaks, c)

/-- Reads the lines of a block scalar. `done` is what was read and `breaks` the breaks before the
next line, both backwards; gives the text, the break after its last line and the breaks behind that,
all backwards. -/
def blockLines (folded : Bool) (indent : Nat) :
    (fuel : Nat) → (done breaks : Text) → Cursor → Text × Option CodePoint × Text × Cursor
  | 0, done, breaks, c => (done, none, breaks, c)
  | fuel + 1, done, breaks, c =>
    if c.column ≠ indent ∨ c.peek.isNone then (done, none, breaks, c)
    else
      let startsWithText := !c.peek.any isBlank
      let line := c.taken (c.run fun x => !isBreak x)
      let done := line.reverse ++ (breaks ++ done)
      match c.skipLine.lineBreak? with
      | none => (done, none, [], c.skipLine)
      | some (first, c) =>
        let (breaks, c) := blockBreaks indent c.fuel [] c
        if c.column = indent ∧ c.peek.isSome then
          if folded ∧ first = .scalar '\n' ∧ startsWithText ∧ !c.peek.any isBlank then
            blockLines folded indent fuel (if breaks.isEmpty then .scalar ' ' :: done else done)
              breaks c
          else blockLines folded indent fuel (first :: done) breaks c
        else (done, some first, breaks, c)

/-- Reads a block scalar after its indicator; the surrounding block is indented by `indent - 1`. -/
def block (folded : Bool) (indent : Nat) (c : Cursor) : Except Problem (Text × Cursor) := do
  let ((chomping, increment), c) ← blockHeader c
  let least := max indent 1
  let (breaks, width, c) :=
    match increment with
    | some more =>
      let width := least + more - 1
      let (breaks, c) := blockBreaks width c.fuel [] c
      (breaks, width, c)
    | none =>
      let (breaks, widest, c) := blockIndentation c.fuel [] 0 c
      (breaks, max least widest, c)
  let (done, last, breaks, c) := blockLines folded width c.fuel [] breaks c
  let done := if chomping = .strip then done else last.toList ++ done
  let done := if chomping = .keep then breaks ++ done else done
  return (done.reverse, c)

/-! ## Names, tags and directives -/

/-- Reads the name of an anchor or alias. -/
def anchorName (c : Cursor) : Except Problem (Text × Cursor) :=
  let length := c.run isNameCharacter
  let after := c.advance length
  if length = 0 then .error .malformed
  else if endsWord after.peek || after.peek.any (isOneOf · "?:,]\x7d%@`") then
    .ok (c.taken length, after)
  else .error .malformed

/-- The characters of a tag that stand for themselves. -/
def isTagCharacter (c : CodePoint) : Bool :=
  isNameCharacter c || isOneOf c ";/?:@&=+$,.!~*'()[]"

/-- A tag as it is written: a handle, if it has one, and the rest. -/
structure TagName where
  handle : Option Text
  rest : Text
  deriving DecidableEq

/-- Reads the bytes that escapes in a tag stand for: percent signs, each with two hexadecimal
digits. Gives the bytes backwards. -/
def tagBytes : (fuel : Nat) → (bytes : Bytes) → Cursor → Except Problem (Bytes × Cursor)
  | 0, bytes, c => .ok (bytes, c)
  | fuel + 1, bytes, c =>
    if c.isAt '%' then
      let digits := c.next.taken 2
      match hexNumber? digits with
      | none => .error .malformed
      | some n =>
        if digits.length < 2 then .error .malformed
        else tagBytes fuel (UInt8.ofNat n :: bytes) (c.next.advance 2)
    else .ok (bytes, c)

/-- Reads the rest of a tag; `done` is what was read, backwards. Escapes that follow one another
spell characters in UTF-8. -/
def tagRest : (fuel : Nat) → (done : Text) → Cursor → Except Problem (Text × Cursor)
  | 0, done, c => .ok (done.reverse, c)
  | fuel + 1, done, c =>
    if c.isAt '%' then do
      let (bytes, c) ← tagBytes c.fuel [] c
      match Utf8.decode? bytes.reverse with
      | none => throw .malformed
      | some characters => tagRest fuel (characters.reverse ++ done) c
    else
      let length := c.run isTagCharacter
      if length = 0 then .ok (done.reverse, c)
      else tagRest fuel ((c.taken length).reverse ++ done) (c.advance length)

/-- Reads the characters of a tag, at least one. -/
def tagCharacters (c : Cursor) : Except Problem (Text × Cursor) :=
  if c.isAt '%' || c.peek.any isTagCharacter then tagRest c.fuel [] c else .error .malformed

/-- Reads a handle: `!`, `!!`, or a name between exclamation marks. -/
def tagHandle (c : Cursor) : Except Problem (Text × Cursor) :=
  let name := c.next.run isNameCharacter
  if !c.isAt '!' then .error .malformed
  else if c.peekAt 1 = some (.scalar ' ') then .ok (c.taken 1, c.next)
  else if c.peekAt (name + 1) = some (.scalar '!') then
    .ok (c.taken (name + 2), c.advance (name + 2))
  else .error .malformed

/-- Reads a tag. -/
def tagName (c : Cursor) : Except Problem (TagName × Cursor) := do
  let (tag, c) ← (
    if c.peekAt 1 = some (.scalar '<') then do
      let (rest, c) ← tagCharacters (c.advance 2)
      if c.isAt '>' then return (⟨none, rest⟩, c.next) else throw .malformed
    else if endsWord (c.peekAt 1) then return (⟨none, Text.ofString "!"⟩, c.next)
    else if (c.next.rest.takeWhile fun x => !endsSpaced (some x)).contains (.scalar '!') then do
      let (handle, c) ← tagHandle c
      let (rest, c) ← tagCharacters c
      return (⟨some handle, rest⟩, c)
    else do
      let (rest, c) ← tagCharacters c.next
      return (⟨some (Text.ofString "!"), rest⟩, c) : Except Problem (TagName × Cursor))
  if endsSpaced c.peek then return (tag, c) else throw .malformed

/-- A directive. -/
inductive Directive where
  | version (major : Nat)
  | tag (handle start : Text)
  | other
  deriving DecidableEq

/-- Reads digits, at least one and at most `maxDigits`. -/
def digitsOf (c : Cursor) : Except Problem (Nat × Cursor) :=
  let digits := Text.digits c.rest
  if digits.isEmpty then .error .malformed
  else if maxDigits < digits.length then .error (.tooManyDigits digits.length)
  else .ok (Text.number digits, c.advance digits.length)

/-- Reads the arguments of a directive of some name. -/
def directiveArguments (name : Text) (c : Cursor) : Except Problem (Directive × Cursor) :=
  if name = Text.ofString "YAML" then do
    let (major, c) ← digitsOf (c.skip isSpace)
    if !c.isAt '.' then throw .malformed
    let (_, c) ← digitsOf c.next
    if endsSpaced c.peek then return (.version major, c) else throw .malformed
  else if name = Text.ofString "TAG" then do
    let (handle, c) ← tagHandle (c.skip isSpace)
    if !c.isAt ' ' then throw .malformed
    let (start, c) ← tagCharacters (c.skip isSpace)
    if endsSpaced c.peek then return (.tag handle start, c) else throw .malformed
  else return (.other, c.skipLine)

/-- Reads a directive after its percent sign, to the end of its line. -/
def directive (c : Cursor) : Except Problem (Directive × Cursor) := do
  let length := c.run isNameCharacter
  let name := c.taken length
  let c := c.advance length
  if length = 0 || !endsSpaced c.peek then throw .malformed
  let (directive, c) ← directiveArguments name c
  let c := c.skip isSpace
  let c := if c.isAt '#' then c.skipLine else c
  match c.peek, c.lineBreak? with
  | none, _ => return (directive, c)
  | some _, some (_, c) => return (directive, c)
  | some _, none => throw .malformed

end DwmIpc.Yaml
