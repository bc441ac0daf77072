import DwmIpc.Json.Value
import DwmIpc.Number.Shortest
import DwmIpc.Text.Quoted

/-!
# Literals

The notation of a value in messages: texts are quoted, lists and mappings have a
blank after each comma and colon, and the three constants are capitalised. An
integer with too many digits has no literal (`hasLiteral`).
-/

namespace DwmIpc.Json

mutual

/-- The literal of a value. -/
def literal : Json → Text
  | .null => "None"
  | .bool true => "True"
  | .bool false => "False"
  | .int n => Text.ofInt n
  | .float x => DecimalLayout.plain.text x
  | .str t => Quoted.text t
  | .arr items => .scalar '[' :: Text.joinWith ", " (literals items) ++ [.scalar ']']
  | .obj fields =>
    .scalar '\x7b' :: Text.joinWith ", " (fieldLiterals fields) ++ [.scalar '\x7d']

/-- The literals of the items of a list. -/
def literals : List Json → List Text
  | [] => []
  | item :: rest => literal item :: literals rest

/-- The literals of the fields of a mapping. -/
def fieldLiterals : List (Text × Json) → List Text
  | [] => []
  | (key, value) :: rest =>
    (Quoted.text key ++ Text.ofString ": " ++ literal value) :: fieldLiterals rest

end

mutual

/-- Does the value have a literal? -/
def hasLiteral : Json → Bool
  | .int n => decide (n.natAbs < Nat.pow 10 maxDigits)
  | .arr items => haveLiterals items
  | .obj fields => fieldsHaveLiterals fields
  | _ => true

/-- Do all items of a list have literals? -/
def haveLiterals : List Json → Bool
  | [] => true
  | item :: rest => hasLiteral item && haveLiterals rest

/-- Do the values of all fields of a mapping have literals? -/
def fieldsHaveLiterals : List (Text × Json) → Bool
  | [] => true
  | (_, value) :: rest => hasLiteral value && fieldsHaveLiterals rest

end

end DwmIpc.Json
