import DwmIpc.Number.Shortest
import DwmIpc.Yaml.Problem

/-!
# Timestamps

A timestamp is a date, or a date with a time of day, which may have an offset
from universal time. `Timestamp.ofCharacters?` reads the form alone;
`Timestamp.fault?` says what is wrong with the numbers in it.
-/

namespace DwmIpc.Yaml

/-- A date, and a time of day with an offset from universal time, both in minutes if given. -/
structure Timestamp where
  year : Nat
  month : Nat
  day : Nat
  time : Option (Nat × Nat × Nat × List Char)
  offset : Option Int

/-- The number of between `least` and `most` digits in front, the longest run of them, and what
follows. -/
def digitRun? (least most : Nat) (s : List Char) : Option (Nat × List Char) :=
  let digits := (s.take most).takeWhile Char.isDigit
  if least ≤ digits.length then some (Text.number digits, s.drop digits.length) else none

/-- What follows a character. -/
def after? (c : Char) : List Char → Option (List Char)
  | d :: rest => if d = c then some rest else none
  | [] => none

/-- A blank. -/
def isBlankCharacter (c : Char) : Bool := c == ' ' || c == '\t'

/-- The offset at the end of a timestamp. -/
def offset? (s : List Char) : Option (Option Int) :=
  match s.dropWhile isBlankCharacter with
  | [] => if s.isEmpty then some none else none
  | ['Z'] => some (some 0)
  | c :: rest => do
    if c ≠ '+' ∧ c ≠ '-' then none
    let (hours, rest) ← digitRun? 1 2 rest
    let minutes ← (
      match rest with
      | [] => some 0
      | ':' :: rest => do
        let (minutes, rest) ← digitRun? 2 2 rest
        if rest.isEmpty then some minutes else none
      | _ => none)
    let total : Int := (hours * 60 + minutes : Nat)
    return some (if c = '-' then -total else total)

/-- The time of day in a timestamp, after the date. -/
def timeOfDay? (s : List Char) : Option ((Nat × Nat × Nat × List Char) × Option Int) := do
  let s ← (
    match s with
    | 'T' :: rest | 't' :: rest => some rest
    | c :: rest => if isBlankCharacter c then some (rest.dropWhile isBlankCharacter) else none
    | [] => none)
  let (hour, s) ← digitRun? 1 2 s
  let (minute, s) ← digitRun? 2 2 (← after? ':' s)
  let (second, s) ← digitRun? 2 2 (← after? ':' s)
  let (fraction, s) :=
    match s with
    | '.' :: rest => (rest.takeWhile Char.isDigit, rest.dropWhile Char.isDigit)
    | _ => ([], s)
  return ((hour, minute, second, fraction), ← offset? s)

/-- Reads a timestamp: a date, or a date with a time. -/
def Timestamp.ofCharacters? (s : List Char) : Option Timestamp := do
  let (year, s) ← digitRun? 4 4 s
  let (month, s) ← digitRun? 1 2 (← after? '-' s)
  let (day, s) ← digitRun? 1 2 (← after? '-' s)
  if s.isEmpty then return ⟨year, month, day, none, none⟩
  else
    let (time, offset) ← timeOfDay? s
    return ⟨year, month, day, some time, offset⟩

/-- The length of a date with two digits for month and day. -/
def fullDateLength : Nat := 10

/-- Has an untagged scalar the form of a timestamp? Without a time it must be a full date. -/
def isTimestamp (s : List Char) : Bool :=
  (Timestamp.ofCharacters? s).any fun t => t.time.isSome || s.length == fullDateLength

/-- Has the year a 29 February? -/
def isLeap (year : Nat) : Bool :=
  year % 4 = 0 && (year % 100 ≠ 0 || year % 400 = 0)

/-- The length of a month. -/
def daysIn (year month : Nat) : Nat :=
  if month = 2 then if isLeap year then 29 else 28
  else if month = 4 ∨ month = 6 ∨ month = 9 ∨ month = 11 then 30
  else 31

/-- What is wrong with an offset: it must be shorter than a day. -/
def offsetFault? (minutes : Int) : Option ValueFault :=
  if minutes.natAbs < minutesPerDay then none else some (.badOffset minutes)

/-- What is wrong with a date or a time of day. -/
def Timestamp.calendarFault? (t : Timestamp) : Option ValueFault :=
  if t.year = 0 then some (.badYear t.year)
  else if t.month < 1 ∨ 12 < t.month then some .badMonth
  else if t.day < 1 ∨ daysIn t.year t.month < t.day then some .badDay
  else
    match t.time with
    | none => none
    | some (hour, minute, second, _) =>
      if 23 < hour then some .badHour
      else if 59 < minute then some .badMinute
      else if 59 < second then some .badSecond
      else none

/-- What is wrong with a timestamp, the offset first. -/
def Timestamp.fault? (t : Timestamp) : Option ValueFault :=
  (t.offset.bind offsetFault?).orElse fun _ => t.calendarFault?

/-- The number of a day, with the first day of the year 1 as number 1. -/
def dayNumber (year month day : Nat) : Nat :=
  let years := year - 1
  years * 365 + years / 4 - years / 100 + years / 400 +
    (List.range (month - 1)).foldr (fun m days => daysIn year (m + 1) + days) 0 + day

/-- At least two digits. -/
def twoDigits (n : Nat) : Text := (DecimalLayout.padded 2 n).map .scalar

/-- The standard text of a date. -/
def Timestamp.dateText (t : Timestamp) : Text :=
  (DecimalLayout.padded 4 t.year).map .scalar ++ Text.ofString "-" ++ twoDigits t.month ++
    Text.ofString "-" ++ twoDigits t.day

/-- The six digits of the microseconds in a fraction of a second. -/
def microseconds (fraction : List Char) : List Char :=
  (fraction ++ List.replicate 6 '0').take 6

/-- The standard text of an offset. -/
def offsetText (minutes : Int) : Text :=
  Text.ofString (if minutes < 0 then "-" else "+") ++ twoDigits (minutes.natAbs / 60) ++
    Text.ofString ":" ++ twoDigits (minutes.natAbs % 60)

/-- The standard text of a timestamp. -/
def Timestamp.text (t : Timestamp) : Text :=
  match t.time with
  | none => t.dateText
  | some (hour, minute, second, fraction) =>
    let micro := microseconds fraction
    t.dateText ++ Text.ofString " " ++ twoDigits hour ++ Text.ofString ":" ++ twoDigits minute ++
      Text.ofString ":" ++ twoDigits second ++
      (if micro.all (· == '0') then [] else .scalar '.' :: micro.map .scalar) ++
      (match t.offset with
        | some minutes => offsetText minutes
        | none => [])

/-- The microsecond that a timestamp is, if it has a time and an offset. -/
def Timestamp.instant? (t : Timestamp) : Option Int := do
  let (hour, minute, second, fraction) ← t.time
  let offset ← t.offset
  let minutes : Int := ((dayNumber t.year t.month t.day * 24 + hour) * 60 + minute : Nat)
  return ((minutes - offset) * 60 + second) * 1000000 + Text.number (microseconds fraction)

end DwmIpc.Yaml
