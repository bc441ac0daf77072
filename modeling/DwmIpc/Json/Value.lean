import DwmIpc.Number.Double
import DwmIpc.Text.Basic

/-!
# JSON values

Integers are unbounded and apart from doubles, texts may hold surrogates, and an
object is the list of its fields in order, no key twice (`assign`).
-/

namespace DwmIpc

/-- A JSON value. -/
inductive Json where
  | null
  | bool (value : Bool)
  | int (value : Int)
  | float (value : Double)
  | str (value : Text)
  | arr (items : List Json)
  | obj (fields : List (Text × Json))
  deriving Inhabited

namespace Json

/-- Gives a key its value: an earlier field of the key keeps its place and takes the new value.
The list holds the fields backwards, so a new key goes to the front. -/
def assign (fields : List (Text × Json)) (key : Text) (value : Json) : List (Text × Json) :=
  if fields.any (·.1 == key) then
    fields.map fun field => if field.1 = key then (key, value) else field
  else (key, value) :: fields

/-- The value of a key. -/
def field? (fields : List (Text × Json)) (key : Text) : Option Json :=
  (fields.find? (·.1 == key)).map (·.2)

end Json

end DwmIpc
