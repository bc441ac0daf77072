import DwmIpc.Text.Quoted

/-!
# Problems of YAML texts

A text may be no YAML document at all, or one in which something has no value: a
`ValueFault` is one cause of that, and `ValueFault.message` holds their wordings.
-/

namespace DwmIpc.Yaml

/-- Why something in a document has no value. -/
inductive ValueFault where
  /-- No integer to the base. -/
  | badInteger (base : Nat) (written : Text)
  | badFraction (written : Text)
  /-- Neither true nor false. -/
  | badTruth (written : Text)
  /-- A number without a digit. -/
  | emptyNumber
  | badTimestamp
  /-- A timestamp that is not a scalar. -/
  | composedTimestamp
  | badYear (year : Nat)
  | badMonth
  | badDay
  | badHour
  | badMinute
  | badSecond
  /-- An offset from universal time, in minutes, that is not shorter than a day. -/
  | badOffset (minutes : Int)
  /-- A number of a code point beyond the last one. -/
  | badCodePoint
  /-- A number of a code point that is no 32-bit integer with a sign. -/
  | hugeCodePoint
  /-- A digit of a fraction to the base 60 whose weight is no finite double. -/
  | hugeWeight
  deriving DecidableEq

/-- Why a text has no value. -/
inductive Problem where
  | malformed
  | tooDeep
  | tooManyDigits (count : Nat)
  | impossible (fault : ValueFault)
  deriving DecidableEq

/-- The number of minutes in a day. -/
def minutesPerDay : Nat := 1440

/-- A number of minutes as whole days and the seconds beyond them; what is zero is left out. -/
def durationText (minutes : Int) : Text :=
  let days := minutes.fdiv minutesPerDay
  let seconds := minutes.fmod minutesPerDay * 60
  let parts := [("days", days), ("seconds", seconds)].filter (·.2 ≠ 0)
  Text.ofString "datetime.timedelta(" ++
    Text.joinWith ", " (parts.map fun (name, n) => Text.ofString name ++ "=" ++ Text.ofInt n) ++
    Text.ofString ")"

/-- How much of a text is shown that is no integer. -/
def shownLength : Nat := 200

/-- The text of a fault. -/
def ValueFault.message : ValueFault → Text
  | badInteger base written =>
    Text.ofString "invalid literal for int() with base " ++ Text.ofNat base ++ Text.ofString ": " ++
      (Quoted.text written).take shownLength
  | badFraction written =>
    Text.ofString "could not convert string to float: " ++ Quoted.text written
  | badTruth written => Quoted.text written
  | emptyNumber => "string index out of range"
  | badTimestamp => "'NoneType' object has no attribute 'groupdict'"
  | composedTimestamp => "expected string or bytes-like object, got 'list'"
  | badYear year => Text.ofString "year " ++ Text.ofNat year ++ Text.ofString " is out of range"
  | badMonth => "month must be in 1..12"
  | badDay => "day is out of range for month"
  | badHour => "hour must be in 0..23"
  | badMinute => "minute must be in 0..59"
  | badSecond => "second must be in 0..59"
  | badOffset minutes =>
    Text.ofString "offset must be a timedelta strictly between -timedelta(hours=24) and " ++
      Text.ofString "timedelta(hours=24), not " ++ durationText minutes ++ Text.ofString "."
  | badCodePoint => "chr() arg not in range(0x110000)"
  | hugeCodePoint => "Python int too large to convert to C int"
  | hugeWeight => "int too large to convert to float"

end DwmIpc.Yaml
