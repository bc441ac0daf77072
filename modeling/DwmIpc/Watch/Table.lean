import DwmIpc.Text.Basic

/-!
# The table of watches

Watches are numbered in the order of their registration, and a number is never
used again: removing a watch leaves its place empty.
-/

namespace DwmIpc

/-- A callback that waits for events of one name. -/
structure Watch (κ : Type) where
  event : Text
  callback : κ

/-- The watches by their numbers; removed ones are `none`. -/
abbrev WatchTable (κ : Type) := List (Option (Watch κ))

namespace WatchTable

variable {κ : Type}

/-- Registers a watch; its number is the length of the table before. -/
def add (table : WatchTable κ) (watch : Watch κ) : WatchTable κ :=
  table ++ [some watch]

/-- Removes the watch of a number; a number outside the table removes nothing. -/
def remove (table : WatchTable κ) (index : Int) : WatchTable κ :=
  if 0 ≤ index then table.set index.toNat none else table

/-- The watches that were not removed. -/
def live (table : WatchTable κ) : List (Watch κ) :=
  table.filterMap id

/-- The names that are watched, each once, in the order of their first live watch. -/
def names (table : WatchTable κ) : List Text :=
  ((live table).map (·.event)).eraseDups

theorem length_add (table : WatchTable κ) (watch : Watch κ) :
    (add table watch).length = table.length + 1 := by
  simp only [add, List.length_append, List.length_singleton]

theorem length_remove (table : WatchTable κ) (index : Int) :
    (remove table index).length = table.length := by
  unfold remove
  split <;> simp only [List.length_set]

end WatchTable

end DwmIpc
