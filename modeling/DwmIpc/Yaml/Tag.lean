import DwmIpc.Number.Numeral
import DwmIpc.Yaml.Timestamp

/-!
# The kinds of YAML nodes

A tag names the kind of a node. Without one a collection is what it looks like,
and so is a quoted scalar; a plain scalar is a text unless it has one of the forms
of YAML 1.1: null, a truth value, an integer (decimal, octal, hexadecimal, binary,
or to the base 60 with colons), a fraction (with a point), or a timestamp.
Underscores may divide the digits of a number.
-/

namespace DwmIpc.Yaml

/-- The kind of a node. -/
inductive Tag where
  | null
  | bool
  | int
  | float
  | binary
  | timestamp
  | text
  | sequence
  | mapping
  | set
  /-- A sequence of mappings with one pair each. -/
  | pairs
  /-- The key `<<`, whose value is merged into the mapping. -/
  | merge
  /-- The key `=`. -/
  | default
  | unknown
  deriving DecidableEq

/-! ## Tags by name -/

/-- The beginning of the names of the standard tags. -/
def standardPart : String := "tag:yaml.org,2002:"

/-- The standard tags that are supported. -/
def standardTags : List (String × Tag) :=
  [("null", .null), ("bool", .bool), ("int", .int), ("float", .float), ("binary", .binary),
    ("timestamp", .timestamp), ("str", .text), ("seq", .sequence), ("map", .mapping),
    ("set", .set), ("omap", .pairs), ("pairs", .pairs), ("merge", .merge), ("value", .default)]

/-- The kind that a full tag names. -/
def Tag.ofName (name : Text) : Tag :=
  match standardTags.find? fun (word, _) => Text.ofString (standardPart ++ word) == name with
  | some (_, tag) => tag
  | none => .unknown

/-! ## Forms of untagged scalars -/

/-- The characters of a text; a text with a surrogate has none of the forms. -/
def characters? (t : Text) : Option (List Char) :=
  t.mapM fun
    | .scalar c => some c
    | .surrogate _ => none

/-- The spellings of null. -/
def nulls : List String := ["", "~", "null", "Null", "NULL"]

/-- The words for the truth values; each may also be capitalised or in upper case. -/
def truthWords : List (String × Bool) :=
  [("yes", true), ("no", false), ("true", true), ("false", false), ("on", true), ("off", false)]

/-- The three spellings of a word in lower case. -/
def spellings (word : String) : List String :=
  [word, word.capitalize, word.toUpper]

/-- Does a text spell a truth value? -/
def isTruth (s : List Char) : Bool :=
  truthWords.any fun (word, _) => (spellings word).contains (String.ofList s)

/-- A digit or underscore. -/
def isDigitOrBar (c : Char) : Bool := c.isDigit || c == '_'

/-- A digit, then digits and underscores. -/
def isDivided : List Char → Bool
  | c :: rest => c.isDigit && rest.all isDigitOrBar
  | [] => false

/-- A digit to the base 60: one or two decimal digits, of which the first of two is below 6. -/
def isSexagesimal : List Char → Bool
  | [c] => c.isDigit
  | [c, d] => c.isDigit && c < '6' && d.isDigit
  | _ => false

/-- A digit to the base 16. -/
def isHexDigit (c : Char) : Bool := (Numeral.digit? 16 c).isSome

/-- Is an unsigned text an integer? -/
def isInteger : List Char → Bool
  | '0' :: 'b' :: digits => !digits.isEmpty && digits.all fun c => c == '0' || c == '1' || c == '_'
  | '0' :: 'x' :: digits => !digits.isEmpty && digits.all fun c => isHexDigit c || c == '_'
  | '0' :: digits => digits.all fun c => ('0' ≤ c && c ≤ '7') || c == '_'
  | s =>
    match partsBetween ':' s with
    | first :: rest => isDivided first && rest.all isSexagesimal
    | [] => false

/-- Is this an exponent: nothing, or `e` with a sign and digits? -/
def isExponent : List Char → Bool
  | [] => true
  | e :: s :: digits =>
    (e == 'e' || e == 'E') && (s == '+' || s == '-') && !digits.isEmpty && digits.all Char.isDigit
  | _ => false

/-- Is this what may follow the point of a fraction? -/
def isFractionEnd (s : List Char) : Bool := isExponent (s.dropWhile isDigitOrBar)

/-- Is an unsigned text a fraction to the base 10 with a digit before the point? -/
def isDecimalFraction (s : List Char) : Bool :=
  match s.dropWhile isDigitOrBar with
  | '.' :: rest => isDivided (s.takeWhile isDigitOrBar) && isFractionEnd rest
  | _ => false

/-- Is an unsigned text a fraction to the base 60? -/
def isSexagesimalFraction (s : List Char) : Bool :=
  match partsBetween '.' s with
  | [whole, fraction] =>
    match partsBetween ':' whole with
    | first :: next :: rest =>
      isDivided first && (next :: rest).all isSexagesimal && fraction.all isDigitOrBar
    | _ => false
  | _ => false

/-- Is a text a fraction, an infinity or not a number? -/
def isFraction (s : List Char) : Bool :=
  let (_, u) := Numeral.sign s
  isDecimalFraction u || isSexagesimalFraction u ||
    ["inf", "Inf", "INF"].any (fun w => u == '.' :: w.toList) ||
    ["nan", "NaN", "NAN"].any (fun w => s == '.' :: w.toList) ||
    (match s with
      | '.' :: c :: rest => c.isDigit && isFractionEnd rest
      | _ => false)

/-- The characters that begin a node; alone, they stand for no value. -/
def isIndicator (s : List Char) : Bool :=
  s = ['!'] || s = ['&'] || s = ['*']

/-- The characters without a line feed at their end, unless there are no others. -/
def withoutLineFeed (s : List Char) : List Char :=
  match s.reverse with
  | '\n' :: c :: rest => (c :: rest).reverse
  | _ => s

/-- The kind of a scalar by its form; a line feed at its end does not count. -/
def Tag.ofForm (t : Text) : Tag :=
  match (characters? t).map withoutLineFeed with
  | none => .text
  | some s =>
    if nulls.contains (String.ofList s) then .null
    else if isTruth s then .bool
    else if isFraction s then .float
    else if isInteger (Numeral.sign s).2 then .int
    else if isTimestamp s then .timestamp
    else if s = ['<', '<'] then .merge
    else if s = ['='] then .default
    else if isIndicator s then .unknown
    else .text

end DwmIpc.Yaml
