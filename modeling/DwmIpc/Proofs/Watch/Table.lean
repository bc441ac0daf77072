import DwmIpc.Watch.Table
import Mathlib.Data.List.Induction

/-!
# Reading the table of watches

Two readers go through the table: a dispatch looks for the live watches of an event
(`waiting`), and subscribing for the names of the live watches (`names`). Both go by
the numbers: `waiting` ascends (`pairwise_waitingFrom`), and a name comes before another
if one of its live watches comes before all of the other's (`pairwise_names`).
-/

namespace DwmIpc

namespace WatchTable

variable {κ : Type} {table : WatchTable κ} {event : Text} {index i : Nat} {watch : Watch κ}

/-- The watch with this number is there, and was not removed. -/
def LiveAt (table : WatchTable κ) (i : Nat) (watch : Watch κ) : Prop :=
  table[i]? = some (some watch)

theorem LiveAt.lt (h : LiveAt table i watch) : i < table.length :=
  (List.getElem?_eq_some_iff.1 h).1

/-- In a table with one entry more, the other entries are as before. -/
theorem liveAt_append_old {entry : Option (Watch κ)} (hlt : i < table.length) :
    LiveAt (table ++ [entry]) i watch ↔ LiveAt table i watch := by
  rw [LiveAt, LiveAt, List.getElem?_append_left hlt]

/-! ## Who is waiting -/

/-- An entry of the table with its number, if it is live and waits for the event. -/
def waits? (event : Text) : Option (Watch κ) × Nat → Option (Nat × Watch κ)
  | (some watch, i) => if watch.event = event then some (i, watch) else none
  | (none, _) => none

/-- The live watches of an event with their numbers, from the number `index` on. -/
def waitingFrom (table : WatchTable κ) (event : Text) (index : Nat) : List (Nat × Watch κ) :=
  ((table.drop index).zipIdx index).filterMap (waits? event)

/-- The live watches of an event with their numbers. -/
def waiting (table : WatchTable κ) (event : Text) : List (Nat × Watch κ) :=
  waitingFrom table event 0

/-- A watch waits for an event if it is live and has its name. -/
theorem waits?_eq_some {entry : Option (Watch κ)} {x : Nat × Watch κ} :
    waits? event (entry, index) = some x ↔
      x.1 = index ∧ entry = some x.2 ∧ x.2.event = event := by
  obtain ⟨i, watch⟩ := x
  cases entry with
  | none => simp [waits?]
  | some watch' =>
    rw [waits?]
    grind

theorem waitingFrom_over (h : table[index]? = none) : waitingFrom table event index = [] := by
  rw [waitingFrom, List.drop_of_length_le (List.getElem?_eq_none_iff.1 h)]
  rfl

/-- Those that wait from here on: this one, or not, and those behind it. -/
theorem waitingFrom_eq {entry : Option (Watch κ)} (h : table[index]? = some entry) :
    waitingFrom table event index =
      (waits? event (entry, index)).toList ++ waitingFrom table event (index + 1) := by
  obtain ⟨hlt, hentry⟩ := List.getElem?_eq_some_iff.1 h
  rw [waitingFrom, List.drop_eq_getElem_cons hlt, hentry, List.zipIdx_cons, List.filterMap_cons]
  cases waits? event (entry, index) <;> rfl

/-- A watch that was removed does not wait. -/
theorem waitingFrom_removed (h : table[index]? = some none) :
    waitingFrom table event index = waitingFrom table event (index + 1) :=
  waitingFrom_eq h

/-- A watch for another event does not wait for this one. -/
theorem waitingFrom_other (h : table[index]? = some (some watch)) (hne : watch.event ≠ event) :
    waitingFrom table event index = waitingFrom table event (index + 1) := by
  rw [waitingFrom_eq h, waits?, if_neg hne]
  rfl

/-- A watch for the event is the first that waits. -/
theorem waitingFrom_waits (h : table[index]? = some (some watch)) (heq : watch.event = event) :
    waitingFrom table event index = (index, watch) :: waitingFrom table event (index + 1) := by
  rw [waitingFrom_eq h, waits?, if_pos heq]
  rfl

/-- Those that wait from a number on are the live watches of the event from there on. -/
theorem mem_waitingFrom :
    (i, watch) ∈ waitingFrom table event index ↔
      LiveAt table i watch ∧ watch.event = event ∧ index ≤ i := by
  rw [waitingFrom, List.mem_filterMap, LiveAt]
  constructor
  · rintro ⟨⟨entry, n⟩, hmem, hfound⟩
    obtain ⟨rfl, rfl, hevent⟩ := waits?_eq_some.1 hfound
    obtain ⟨hle, hentry⟩ := List.mem_zipIdx_iff_le_and_getElem?_sub.1 hmem
    rw [List.getElem?_drop, Nat.add_sub_cancel' hle] at hentry
    exact ⟨hentry, hevent, hle⟩
  · rintro ⟨hentry, hevent, hle⟩
    refine ⟨(some watch, i), List.mem_zipIdx_iff_le_and_getElem?_sub.2 ⟨hle, ?_⟩,
      waits?_eq_some.2 ⟨rfl, rfl, hevent⟩⟩
    rw [List.getElem?_drop, Nat.add_sub_cancel' hle]
    exact hentry

/-- Their numbers ascend. -/
theorem pairwise_waitingFrom (table : WatchTable κ) (event : Text) (index : Nat) :
    (waitingFrom table event index).Pairwise fun a b => a.1 < b.1 := by
  have hnumbers : (((table.drop index).zipIdx index).map Prod.snd).Pairwise (· < ·) := by
    rw [List.zipIdx_map_snd]
    exact List.pairwise_lt_range'
  rw [waitingFrom, List.pairwise_filterMap]
  refine (List.pairwise_map.1 hnumbers).imp fun hlt b hb b' hb' => ?_
  rw [(waits?_eq_some.1 hb).1, (waits?_eq_some.1 hb').1]
  exact hlt

/-- The first that waits is the live watch of the event with the lowest number. -/
theorem waitingFrom_eq_cons (hlive : LiveAt table i watch) (hevent : watch.event = event)
    (hle : index ≤ i)
    (lowest : ∀ j other, LiveAt table j other → Watch.event other = event → index ≤ j → i ≤ j) :
    ∃ more, waitingFrom table event index = (i, watch) :: more := by
  have hmem : (i, watch) ∈ waitingFrom table event index := mem_waitingFrom.2 ⟨hlive, hevent, hle⟩
  cases hall : waitingFrom table event index with
  | nil =>
    rw [hall] at hmem
    cases hmem
  | cons first more =>
    have hascend := pairwise_waitingFrom table event index
    have hfirst : (first.1, first.2) ∈ waitingFrom table event index := by
      rw [hall]
      exact List.mem_cons_self ..
    obtain ⟨hlive', hevent', hle'⟩ := mem_waitingFrom.1 hfirst
    rw [hall] at hmem hascend
    rcases List.mem_cons.1 hmem with rfl | hlater
    · exact ⟨more, rfl⟩
    · have hbelow : first.1 < i := (List.pairwise_cons.1 hascend).1 _ hlater
      exact absurd (lowest _ _ hlive' hevent' hle') (Nat.not_le.2 hbelow)

/-- If all that wait stand in front, nothing waits from here on. -/
theorem waitingFrom_eq_nil
    (none : ∀ j other, LiveAt table j other → Watch.event other = event → j < index) :
    waitingFrom table event index = [] := by
  refine List.eq_nil_iff_forall_not_mem.2 fun x hx => ?_
  obtain ⟨hlive, hevent, hle⟩ := mem_waitingFrom.1 (show (x.1, x.2) ∈ _ from hx)
  exact absurd (none _ _ hlive hevent) (Nat.not_lt.2 hle)

/-- Those that wait are the live watches of the event. -/
theorem mem_waiting :
    (i, watch) ∈ waiting table event ↔ LiveAt table i watch ∧ watch.event = event :=
  mem_waitingFrom.trans ⟨fun h => ⟨h.1, h.2.1⟩, fun h => ⟨h.1, h.2, Nat.zero_le _⟩⟩

/-! ## The names -/

theorem names_append_removed (table : WatchTable κ) : names (table ++ [none]) = names table := by
  rw [names, live, List.filterMap_append]
  exact congrArg (fun watches => (List.map _ watches).eraseDups) (List.append_nil _)

/-- What is new comes last. -/
theorem eraseDups_append_singleton (texts : List Text) (a : Text) :
    (texts ++ [a]).eraseDups =
      if a ∈ texts.eraseDups then texts.eraseDups else texts.eraseDups ++ [a] := by
  rw [List.eraseDups_append]
  by_cases hmem : a ∈ texts
  · rw [if_pos (List.mem_eraseDups.2 hmem)]
    simp [List.removeAll, hmem]
  · rw [if_neg (mt List.mem_eraseDups.1 hmem)]
    simp [List.removeAll, hmem, List.eraseDups_cons]

/-- A watch adds its name at the end, if it is not there yet. -/
theorem names_append_watch (table : WatchTable κ) (watch : Watch κ) :
    names (table ++ [some watch]) =
      if watch.event ∈ names table then names table else names table ++ [watch.event] := by
  have hlive : (live (table ++ [some watch])).map (·.event) =
      (live table).map (·.event) ++ [watch.event] := by
    rw [live, List.filterMap_append, List.map_append]
    rfl
  rw [names, hlive, eraseDups_append_singleton]
  rfl

/-- The names are those of the live watches. -/
theorem mem_names :
    event ∈ names table ↔ ∃ i watch, LiveAt table i watch ∧ watch.event = event := by
  rw [names, List.mem_eraseDups, List.mem_map]
  constructor
  · rintro ⟨watch, hlive, hevent⟩
    obtain ⟨entry, hmem, hentry⟩ := List.mem_filterMap.1 hlive
    obtain rfl : entry = some watch := hentry
    obtain ⟨i, hi⟩ := List.mem_iff_getElem?.1 hmem
    exact ⟨i, watch, hi, hevent⟩
  · rintro ⟨i, watch, hi, hevent⟩
    exact ⟨watch, List.mem_filterMap.2 ⟨some watch, List.mem_of_getElem? hi, rfl⟩, hevent⟩

/-- One of the live watches of `a` has a number below those of all live watches of `b`. -/
def Precedes (table : WatchTable κ) (a b : Text) : Prop :=
  ∃ i watch, LiveAt table i watch ∧ watch.event = a ∧
    ∀ j watch', LiveAt table j watch' → watch'.event = b → i < j

/-- What precedes goes on preceding when the table grows. -/
theorem Precedes.append {a b : Text} (h : Precedes table a b) (entry : Option (Watch κ)) :
    Precedes (table ++ [entry]) a b := by
  obtain ⟨i, watch, hi, ha, hbelow⟩ := h
  refine ⟨i, watch, (liveAt_append_old hi.lt).2 hi, ha, fun j watch' hj hb => ?_⟩
  rcases Nat.lt_or_ge j table.length with hold | hnew
  · exact hbelow j watch' ((liveAt_append_old hold).1 hj) hb
  · exact Nat.lt_of_lt_of_le hi.lt hnew

/-- A name that is there precedes one that is registered only now. -/
theorem Precedes.of_new {a : Text} (ha : a ∈ names table) (hnew : watch.event ∉ names table) :
    Precedes (table ++ [some watch]) a watch.event := by
  obtain ⟨i, watch', hi, ha⟩ := mem_names.1 ha
  refine ⟨i, watch', (liveAt_append_old hi.lt).2 hi, ha, fun j other hj hb => ?_⟩
  rcases Nat.lt_or_ge j table.length with hold | hbeyond
  · exact absurd (mem_names.2 ⟨j, other, (liveAt_append_old hold).1 hj, hb⟩) hnew
  · exact Nat.lt_of_lt_of_le hi.lt hbeyond

/-- The names are in the order of their lowest live numbers. -/
theorem pairwise_names (table : WatchTable κ) : (names table).Pairwise (Precedes table) := by
  induction table using List.reverseRecOn with
  | nil => exact .nil
  | append_singleton table entry ih =>
    have hold : (names table).Pairwise (Precedes (table ++ [entry])) :=
      ih.imp fun h => h.append entry
    cases entry with
    | none =>
      rw [names_append_removed]
      exact hold
    | some watch =>
      rw [names_append_watch]
      split
      next => exact hold
      next hnew =>
        refine List.pairwise_append.2 ⟨hold, List.pairwise_singleton .., fun a ha b hb => ?_⟩
        obtain rfl := List.mem_singleton.1 hb
        exact .of_new ha hnew

/-- No name stands before itself. -/
theorem nodup_names (table : WatchTable κ) : (names table).Nodup := by
  refine (pairwise_names table).imp fun {a b} h heq => ?_
  obtain ⟨i, watch, hi, ha, hbelow⟩ := h
  exact Nat.lt_irrefl i (hbelow i watch hi (ha.trans heq))

end WatchTable

end DwmIpc
