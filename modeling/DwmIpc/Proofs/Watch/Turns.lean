import DwmIpc.Proofs.Watch.Firings
import DwmIpc.Proofs.Watch.Registrations

/-!
# Callbacks that change the table

Callbacks are `Changing` if they register and remove watches, and fail if at all in ways
that a dispatch records. What a pass calls then depends on what its callbacks do:
`PassTurns` goes from each callback to the first that waits behind it, in the table that
the callback has left. The table itself is always the first one with all the changes
made to it (`table_after`), and since no number is given again, a watch is live for as
long as nobody removes it (`LiveAt.applyAll`, `LiveAt.of_applyAll`).

The main result, `dispatch_takes_turns`, is about any dispatch that returns.
-/

namespace DwmIpc

open WatchTable

/-! ## Changes of the table -/

namespace Change

variable {κ : Type} {table : WatchTable κ} {changes pre post : List (Change κ)} {i : Nat}
  {watch : Watch κ}

/-- The table after a change. -/
def apply (table : WatchTable κ) : Change κ → WatchTable κ
  | .watch watch => table.add watch
  | .unwatch index => table.remove index

/-- The table after some changes, one after another. -/
def applyAll (changes : List (Change κ)) (table : WatchTable κ) : WatchTable κ :=
  changes.foldl apply table

theorem applyAll_append (pre post : List (Change κ)) (table : WatchTable κ) :
    applyAll (pre ++ post) table = applyAll post (applyAll pre table) :=
  List.foldl_append

/-- Changes never make the table shorter. -/
theorem length_le_applyAll (changes : List (Change κ)) (table : WatchTable κ) :
    table.length ≤ (applyAll changes table).length := by
  induction changes generalizing table with
  | nil => exact Nat.le_refl _
  | cons change rest ih =>
    refine Nat.le_trans ?_ (ih (apply table change))
    cases change with
    | watch watch => exact (length_add table watch).symm ▸ Nat.le_succ _
    | unwatch index => exact Nat.le_of_eq (length_remove table index).symm

end Change

open Change

namespace WatchTable

variable {κ : Type} {table : WatchTable κ} {changes pre post : List (Change κ)} {i : Nat}
  {watch : Watch κ}

/-- A watch is live until it is removed. -/
theorem LiveAt.applyAll (h : LiveAt table i watch) (hkept : Change.unwatch i ∉ changes) :
    LiveAt (applyAll changes table) i watch := by
  induction changes generalizing table with
  | nil => exact h
  | cons change rest ih =>
    refine ih ?_ fun hmem => hkept (List.mem_cons_of_mem _ hmem)
    cases change with
    | watch entered => exact liveAt_add.2 (.inl h)
    | unwatch index =>
      refine liveAt_remove.2 ⟨h, ?_⟩
      rintro rfl
      exact hkept (List.mem_cons_self ..)

/-- What is live under a number of before was live before. -/
theorem LiveAt.of_applyAll (h : LiveAt (Change.applyAll changes table) i watch)
    (hold : i < table.length) : LiveAt table i watch := by
  induction changes generalizing table with
  | nil => exact h
  | cons change rest ih =>
    have hlonger : i < (apply table change).length :=
      Nat.lt_of_lt_of_le hold (length_le_applyAll [change] table)
    have hnext : LiveAt (apply table change) i watch := ih h hlonger
    cases change with
    | watch entered => exact (liveAt_add.1 hnext).resolve_right fun hnew => Nat.ne_of_lt hold hnew.1
    | unwatch index => exact (liveAt_remove.1 hnext).1

/-- A watch that was removed is not live any more. -/
theorem not_liveAt_of_removed (hold : i < (Change.applyAll pre table).length) :
    ¬LiveAt (Change.applyAll (pre ++ .unwatch i :: post) table) i watch := by
  intro h
  rw [applyAll_append] at h
  have hthen : LiveAt (Change.applyAll post (remove (Change.applyAll pre table) i)) i watch := h
  have hnext := hthen.of_applyAll ((length_remove ..).symm ▸ hold)
  exact (liveAt_remove.1 hnext).2 rfl

/-- A watch that was registered and not removed is live under the number of its registration. -/
theorem liveAt_of_registered (hkept : Change.unwatch (Change.applyAll pre table).length ∉ post) :
    LiveAt (Change.applyAll (pre ++ .watch watch :: post) table)
      (Change.applyAll pre table).length watch := by
  have hnew : LiveAt (add (Change.applyAll pre table) watch) (Change.applyAll pre table).length
      watch := liveAt_add.2 (.inr ⟨rfl, rfl⟩)
  rw [applyAll_append]
  exact hnew.applyAll hkept

/-- No other watch comes to be live under that number. -/
theorem eq_of_registered {other : Watch κ}
    (h : LiveAt (Change.applyAll (pre ++ .watch watch :: post) table)
      (Change.applyAll pre table).length other) : other = watch := by
  rw [applyAll_append] at h
  have hthen : LiveAt (Change.applyAll post (add (Change.applyAll pre table) watch))
      (Change.applyAll pre table).length other := h
  have hnext := hthen.of_applyAll ((length_add ..).symm ▸ Nat.lt_succ_self _)
  rcases liveAt_add.1 hnext with hbefore | ⟨-, hsame⟩
  · exact absurd hbefore.lt (Nat.lt_irrefl _)
  · exact hsame

end WatchTable

namespace Watcher

open DwmIpc.Action

variable {κ : Type} {fire : Fire κ} {changes : Watch κ → Json → Watcher κ → List (Change κ)}
  {w : Watcher κ} {event : Text} {body : Json} {index i : Nat} {watch : Watch κ}
  {dues before rest : List (Due κ)} {due : Due κ}

/-! ## The turns of a pass -/

/-- The watcher when these callbacks have been called, one after another. -/
def after (fire : Fire κ) (dues : List (Due κ)) (w : Watcher κ) : Watcher κ :=
  final (dues.map (Due.act fire)) w

theorem after_append (fire : Fire κ) (dues more : List (Due κ)) (w : Watcher κ) :
    after fire (dues ++ more) w = after fire more (after fire dues w) :=
  final_append (Due.act fire) dues more w

/-- From a number on these callbacks have their turns: the first that waits, and then, in the table
that it leaves, those that wait behind it. -/
inductive PassTurns (fire : Fire κ) (event : Text) (body : Json) :
    Nat → Watcher κ → List (Due κ) → Prop
  | done {index : Nat} {w : Watcher κ} : waitingFrom w.table event index = [] →
      PassTurns fire event body index w []
  | turn {index i : Nat} {w : Watcher κ} {watch : Watch κ} {more : List (Nat × Watch κ)}
      {dues : List (Due κ)} : waitingFrom w.table event index = (i, watch) :: more →
      PassTurns fire event body (i + 1) (after fire [⟨i, watch, body⟩] w) dues →
      PassTurns fire event body index w (⟨i, watch, body⟩ :: dues)

/-- A number at which none waits is passed over. -/
theorem PassTurns.over
    (hsame : waitingFrom w.table event index = waitingFrom w.table event (index + 1))
    (h : PassTurns fire event body (index + 1) w dues) :
    PassTurns fire event body index w dues := by
  cases h with
  | done hnone => exact .done (hsame.trans hnone)
  | turn hfirst hrest => exact .turn (hsame.trans hfirst) hrest

/-- What follows a call starts from what the callback leaves, and returns if all of it does. -/
theorem rest_ok (hfire : Recorded fire) (due : Due κ) {m : Act κ (List Firing)}
    {firings : List Firing}
    (hok : ((do
        let firing ← call fire due.index due.watch due.body
        return firing :: (← m) : Act κ (List Firing)) w).value = .ok firings) :
    ∃ firings, (m (after fire [due] w)).value = .ok firings := by
  obtain ⟨did, hcall, -⟩ := call_recorded hfire due w
  rw [bind_ok hcall, return_apply] at hok
  cases hvalue : (m (after fire [due] w)).value with
  | ok firings => exact ⟨firings, rfl⟩
  | error failure =>
    have herror : Except.map _ (m (after fire [due] w)).value = .ok firings := hok
    rw [hvalue] at herror
    cases herror

/-- A pass that returns has called those that had their turn. -/
theorem pass_turns (hfire : Recorded fire) {fuel : Nat} {firings : List Firing}
    (hok : (pass fire event body fuel index w).value = .ok firings) :
    ∃ dues, PassTurns fire event body index w dues ∧
      Fires (pass fire event body fuel index w) fire dues w := by
  induction fuel generalizing index w firings with
  | zero =>
    cases hentry : w.table[index]? with
    | none =>
      rw [pass_over hentry]
      exact ⟨[], .done (waitingFrom_over hentry), fires_nil fire w⟩
    | some entry =>
      unfold pass at hok
      rw [hentry] at hok
      cases hok
  | succ fuel ih =>
    cases hentry : w.table[index]? with
    | none =>
      rw [pass_over hentry]
      exact ⟨[], .done (waitingFrom_over hentry), fires_nil fire w⟩
    | some entry =>
      cases entry with
      | none =>
        rw [pass_removed hentry] at hok ⊢
        obtain ⟨dues, hturns, hfires⟩ := ih hok
        exact ⟨dues, hturns.over (waitingFrom_removed hentry), hfires⟩
      | some watch =>
        by_cases heq : watch.event = event
        · rw [pass_waits hentry heq] at hok ⊢
          obtain ⟨firings, hrest⟩ := rest_ok hfire ⟨index, watch, body⟩ hok
          obtain ⟨dues, hturns, hfires⟩ := ih hrest
          exact ⟨_ :: dues, .turn (waitingFrom_waits hentry heq) hturns,
            .cons hfire ⟨index, watch, body⟩ hfires⟩
        · rw [pass_other hentry heq] at hok ⊢
          obtain ⟨dues, hturns, hfires⟩ := ih hok
          exact ⟨dues, hturns.over (waitingFrom_other hentry heq), hfires⟩

/-! ## Passes through a table that changes -/

/-- The callbacks are recorded, and change the table by registering and removing watches only. -/
structure Changing (fire : Fire κ) (changes : Watch κ → Json → Watcher κ → List (Change κ)) : Prop
    extends Recorded fire where
  table : ∀ watch body w,
    (fire watch body w).state.table = applyAll (changes watch body w) w.table

/-- What a callback changes when it has its turn. -/
def Due.made (changes : Watch κ → Json → Watcher κ → List (Change κ)) (due : Due κ)
    (w : Watcher κ) : List (Change κ) :=
  changes due.watch due.body w

/-- All changes that callbacks make, one after another. -/
def allMade (fire : Fire κ) (changes : Watch κ → Json → Watcher κ → List (Change κ)) :
    List (Due κ) → Watcher κ → List (Change κ)
  | [], _ => []
  | due :: rest, w => due.made changes w ++ allMade fire changes rest (after fire [due] w)

/-- The table is the first one with all the changes made to it. -/
theorem table_after (hfire : Changing fire changes) (dues : List (Due κ)) (w : Watcher κ) :
    (after fire dues w).table = applyAll (allMade fire changes dues w) w.table := by
  induction dues generalizing w with
  | nil => rfl
  | cons due rest ih =>
    have hfirst : (after fire [due] w).table = applyAll (due.made changes w) w.table :=
      hfire.table due.watch due.body w
    rw [allMade, applyAll_append, ← hfirst]
    exact ih (after fire [due] w)

/-- It holds of each callback, and of the watcher as it is when that has its turn. -/
def InTurn (fire : Fire κ) (P : Due κ → Watcher κ → Prop) (dues : List (Due κ)) (w : Watcher κ) :
    Prop :=
  ∀ before due rest, dues = before ++ due :: rest → P due (after fire before w)

section

variable {P : Due κ → Watcher κ → Prop} {more : List (Due κ)}

theorem inTurn_cons :
    InTurn fire P (due :: rest) w ↔ P due w ∧ InTurn fire P rest (after fire [due] w) := by
  constructor
  · intro h
    refine ⟨h [] due rest rfl, fun before other more hsplit => ?_⟩
    have hother := h (due :: before) other more (congrArg (due :: ·) hsplit)
    exact hother
  · rintro ⟨hdue, hrest⟩ before other more hsplit
    cases before with
    | nil =>
      obtain ⟨rfl, -⟩ := List.cons.inj hsplit
      exact hdue
    | cons first before =>
      obtain ⟨rfl, hbehind⟩ := List.cons.inj hsplit
      exact hrest before other more hbehind

theorem inTurn_nil : InTurn fire P [] w := by
  intro before due rest hsplit
  exact absurd hsplit.symm (by simp)

/-- What holds at each turn holds at each turn of both parts. -/
theorem inTurn_append :
    InTurn fire P (dues ++ more) w ↔
      InTurn fire P dues w ∧ InTurn fire P more (after fire dues w) := by
  induction dues generalizing w with
  | nil => exact ⟨fun h => ⟨inTurn_nil, h⟩, And.right⟩
  | cons due rest ih =>
    rw [List.cons_append, inTurn_cons, inTurn_cons, ih, and_assoc]
    rfl

end

/-- Each callback is that of a live watch when it has its turn. -/
def LiveInTurn (fire : Fire κ) (dues : List (Due κ)) (w : Watcher κ) : Prop :=
  InTurn fire (fun due w => LiveAt w.table due.index due.watch) dues w

/-- None of the callbacks with lower numbers removes the number when it has its turn. -/
def Spared (fire : Fire κ) (changes : Watch κ → Json → Watcher κ → List (Change κ)) (i : Nat)
    (dues : List (Due κ)) (w : Watcher κ) : Prop :=
  InTurn fire (fun due w => due.index < i → Change.unwatch i ∉ due.made changes w) dues w

namespace PassTurns

/-- A pass calls watches of its event, from its number on. -/
theorem of_mem (h : PassTurns fire event body index w dues) (hdue : due ∈ dues) :
    index ≤ due.index ∧ due.watch.event = event ∧ due.body = body := by
  induction h with
  | done => cases hdue
  | @turn index i w watch more dues hfirst _ ih =>
    obtain ⟨-, hevent, hle⟩ := mem_waitingFrom.1 (hfirst ▸ List.mem_cons_self ..)
    rcases List.mem_cons.1 hdue with rfl | hrest
    · exact ⟨hle, hevent, rfl⟩
    · obtain ⟨hbehind, hsame⟩ := ih hrest
      exact ⟨by omega, hsame⟩

/-- Their numbers ascend. -/
theorem pairwise (h : PassTurns fire event body index w dues) :
    (dues.map Due.index).Pairwise (· < ·) := by
  induction h with
  | done => exact .nil
  | turn _ hrest ih =>
    refine List.pairwise_cons.2 ⟨fun j hj => ?_, ih⟩
    obtain ⟨due, hdue, rfl⟩ := List.mem_map.1 hj
    exact (hrest.of_mem hdue).1

/-- In a pass each watch is live at its turn. -/
theorem liveInTurn (h : PassTurns fire event body index w dues) : LiveInTurn fire dues w := by
  induction h with
  | done => exact inTurn_nil
  | turn hfirst _ ih =>
    exact inTurn_cons.2 ⟨(mem_waitingFrom.1 (hfirst ▸ List.mem_cons_self ..)).1, ih⟩

/-- Behind each callback the pass goes on at the next number. -/
theorem suffix (h : PassTurns fire event body index w (before ++ due :: rest)) :
    PassTurns fire event body (due.index + 1) (after fire (before ++ [due]) w) rest := by
  induction before generalizing index w with
  | nil =>
    cases h with
    | turn _ hrest => exact hrest
  | cons first before ih =>
    cases h with
    | turn _ hrest => exact ih hrest

/-- Whatever is live from here on, and not removed before its turn, has its turn. -/
theorem mem_of_live (hfire : Changing fire changes) (h : PassTurns fire event body index w dues)
    (hlive : LiveAt w.table i watch) (hevent : watch.event = event) (hle : index ≤ i)
    (hspared : Spared fire changes i dues w) : ⟨i, watch, body⟩ ∈ dues := by
  induction h with
  | done hnone =>
    have hmem := mem_waitingFrom.2 ⟨hlive, hevent, hle⟩
    rw [hnone] at hmem
    cases hmem
  | @turn index j w first more dues hfirst _ ih =>
    have hmem := mem_waitingFrom.2 ⟨hlive, hevent, hle⟩
    have hascend := pairwise_waitingFrom w.table event index
    rw [hfirst] at hmem hascend
    rcases List.mem_cons.1 hmem with heq | hlater
    · obtain ⟨rfl, rfl⟩ := Prod.mk.inj heq
      exact List.mem_cons_self ..
    · -- its turn is still to come, and the callback at hand leaves it there
      have hlt : j < i := (List.pairwise_cons.1 hascend).1 _ hlater
      obtain ⟨hkept, hspared⟩ := inTurn_cons.1 hspared
      have hnext : LiveAt (after fire [⟨j, first, body⟩] w).table i watch := by
        have htable := hfire.table first body w
        exact (htable ▸ hlive.applyAll (hkept hlt) :)
      exact List.mem_cons_of_mem _ (ih hnext hlt hspared)

end PassTurns

/-- What a pass calls for one key. -/
structure PassAccount (fire : Fire κ) (changes : Watch κ → Json → Watcher κ → List (Change κ))
    (key : Text) (body : Json) (w : Watcher κ) (pass : List (Due κ)) : Prop where
  named : ∀ due ∈ pass, due.watch.event = key ∧ due.body = body
  ascends : (pass.map Due.index).Pairwise (· < ·)
  /-- A watch that is live when the pass begins, and not removed before its turn, is called once. -/
  standing : ∀ i watch, LiveAt w.table i watch → watch.event = key →
    Spared fire changes i pass w →
    ⟨i, watch, body⟩ ∈ pass ∧ (pass.map Due.index).count i = 1
  /-- So is a watch that a callback of the pass registers, in the same pass. -/
  entered : ∀ before due rest pre watch post, pass = before ++ due :: rest →
    due.made changes (after fire before w) = pre ++ .watch watch :: post → watch.event = key →
    let number := (applyAll pre (after fire before w).table).length
    Change.unwatch number ∉ post →
    Spared fire changes number rest (after fire (before ++ [due]) w) →
    ⟨number, watch, body⟩ ∈ rest ∧ (pass.map Due.index).count number = 1

/-- The turns of a pass from the first entry on account for the table. -/
theorem PassTurns.account (hfire : Changing fire changes) {pass : List (Due κ)}
    (h : PassTurns fire event body 0 w pass) : PassAccount fire changes event body w pass := by
  have hnodup : (pass.map Due.index).Nodup := h.pairwise.imp Nat.ne_of_lt
  have hcount (due : Due κ) (hdue : due ∈ pass) : (pass.map Due.index).count due.index = 1 :=
    List.count_eq_one_of_mem hnodup (List.mem_map_of_mem hdue)
  refine ⟨fun due hdue => (h.of_mem hdue).2, h.pairwise, ?_, ?_⟩
  · intro i watch hlive hevent hspared
    have hmem := h.mem_of_live hfire hlive hevent (Nat.zero_le _) hspared
    exact ⟨hmem, hcount _ hmem⟩
  · intro before due rest pre watch post hsplit hmade hevent number hkept hspared
    have hturn : LiveAt (after fire before w).table due.index due.watch :=
      h.liveInTurn before due rest hsplit
    have hbehind : due.index + 1 ≤ number :=
      Nat.lt_of_lt_of_le hturn.lt (length_le_applyAll _ _)
    have htable : (after fire (before ++ [due]) w).table =
        applyAll (pre ++ .watch watch :: post) (after fire before w).table := by
      rw [after_append, ← hmade]
      exact hfire.table due.watch due.body _
    have hlive : LiveAt (after fire (before ++ [due]) w).table number watch := by
      rw [htable]
      exact liveAt_of_registered hkept
    have hrest := (hsplit ▸ h).suffix
    have hmem := hrest.mem_of_live hfire hlive hevent hbehind hspared
    refine ⟨hmem, hcount ⟨number, watch, body⟩ ?_⟩
    rw [hsplit]
    exact List.mem_append_right _ (List.mem_cons_of_mem _ hmem)

/-! ## Dispatches through a table that changes -/

/-- Each field has its pass, in the watcher that those before it leave. -/
inductive Turns (fire : Fire κ) : Watcher κ → List ((Text × Json) × List (Due κ)) → Prop
  | nil {w : Watcher κ} : Turns fire w []
  | cons {w : Watcher κ} {event : Text} {body : Json} {pass : List (Due κ)}
      {passes : List ((Text × Json) × List (Due κ))} : PassTurns fire event body 0 w pass →
      Turns fire (after fire pass w) passes → Turns fire w (((event, body), pass) :: passes)

/-- All callbacks that have their turns. -/
def allDues (passes : List ((Text × Json) × List (Due κ))) : List (Due κ) :=
  passes.flatMap Prod.snd

/-- A dispatch that returns has called those that had their turns. -/
theorem dispatchFields_turns (hfire : Recorded fire) (allowance : Nat)
    (fields : List (Text × Json)) {firings : List Firing}
    (hok : (dispatchFields allowance fire fields w).value = .ok firings) :
    ∃ passes, passes.map Prod.fst = fields ∧ Turns fire w passes ∧
      Fires (dispatchFields allowance fire fields w) fire (allDues passes) w := by
  induction fields generalizing w firings with
  | nil => exact ⟨[], rfl, .nil, fires_nil fire w⟩
  | cons field rest ih =>
    obtain ⟨event, body⟩ := field
    have hunfold : dispatchFields allowance fire ((event, body) :: rest) = (do
        let firings ← passAll allowance fire event body
        return firings ++ (← dispatchFields allowance fire rest) : Act κ (List Firing)) := rfl
    rw [hunfold] at hok ⊢
    cases hrun : passAll allowance fire event body w with
    | mk value did state =>
      cases value with
      | error failure =>
        rw [bind_error hrun] at hok
        cases hok
      | ok fired =>
        have hvalue : (pass fire event body (w.table.length + allowance) 0 w).value = .ok fired :=
          congrArg Run.value hrun
        obtain ⟨pass, hpass, hfires⟩ := pass_turns hfire hvalue
        obtain rfl : state = after fire pass w := (congrArg Run.state hrun).symm.trans hfires.state
        rw [bind_ok hrun, return_apply] at hok
        cases hrest : (dispatchFields allowance fire rest (after fire pass w)).value with
        | error failure =>
          rw [hrest] at hok
          cases hok
        | ok more =>
          obtain ⟨passes, hfields, hturns, hmore⟩ := ih hrest
          exact ⟨((event, body), pass) :: passes, congrArg _ hfields, .cons hpass hturns,
            Fires.append hfires hmore⟩

namespace Turns

variable {passes early late : List ((Text × Json) × List (Due κ))} {pass : List (Due κ)}

/-- Each pass begins where those before it end. -/
theorem split (h : Turns fire w (early ++ ((event, body), pass) :: late)) :
    PassTurns fire event body 0 (after fire (allDues early) w) pass ∧
      Turns fire (after fire (allDues early ++ pass) w) late := by
  induction early generalizing w with
  | nil =>
    cases h with
    | cons hpass hrest => exact ⟨hpass, hrest⟩
  | cons first early ih =>
    cases h with
    | cons _ hrest =>
      rw [allDues, List.flatMap_cons, after_append, List.append_assoc, after_append]
      exact ih hrest

theorem liveInTurn (h : Turns fire w passes) : LiveInTurn fire (allDues passes) w := by
  induction h with
  | nil => exact inTurn_nil
  | cons hpass _ ih => exact inTurn_append.2 ⟨hpass.liveInTurn, ih⟩

/-- What is called has the name of a key. -/
theorem event_mem (h : Turns fire w passes) (hdue : due ∈ allDues passes) :
    due.watch.event ∈ (passes.map Prod.fst).map Prod.fst := by
  induction h with
  | nil => cases hdue
  | cons hpass _ ih =>
    rcases List.mem_append.1 hdue with hmem | hmem
    · exact (hpass.of_mem hmem).2.1 ▸ List.mem_cons_self ..
    · exact List.mem_cons_of_mem _ (ih hmem)

end Turns

/-- Who is called behind a callback is so in a table that this and some others have left. -/
theorem LiveInTurn.exists_turn (h : LiveInTurn fire (before ++ due :: rest) w) {later : Due κ}
    (hlater : later ∈ rest) :
    ∃ mid, LiveAt (after fire (before ++ due :: mid) w).table later.index later.watch := by
  obtain ⟨mid, more, rfl⟩ := List.append_of_mem hlater
  exact ⟨mid, h (before ++ due :: mid) later more (by rw [List.append_assoc, List.cons_append])⟩

/-- What has been called has a number of the table. -/
theorem LiveInTurn.index_lt (hfire : Changing fire changes) (h : LiveInTurn fire dues w)
    (hdue : due ∈ dues) : due.index < (after fire dues w).table.length := by
  obtain ⟨before, rest, rfl⟩ := List.append_of_mem hdue
  have hturn : LiveAt (after fire before w).table due.index due.watch := h before due rest rfl
  rw [after_append, table_after hfire]
  exact Nat.lt_of_lt_of_le hturn.lt (length_le_applyAll _ _)

/-- Behind a callback the table comes from any of its changes, and of some more. -/
theorem table_behind (hfire : Changing fire changes) {pre post : List (Change κ)}
    {change : Change κ} (hmade : due.made changes (after fire before w) = pre ++ change :: post)
    (mid : List (Due κ)) :
    ∃ more, (after fire (before ++ due :: mid) w).table =
      applyAll (pre ++ change :: more) (after fire before w).table := by
  refine ⟨post ++ allMade fire changes mid (after fire [due] (after fire before w)), ?_⟩
  rw [after_append, table_after hfire, allMade, hmade, List.append_assoc, List.cons_append]

/-- A watch that a callback removes is not called any more. -/
theorem LiveInTurn.index_ne_of_removed (hfire : Changing fire changes)
    (h : LiveInTurn fire (before ++ due :: rest) w) {pre post : List (Change κ)}
    (hmade : due.made changes (after fire before w) = pre ++ .unwatch i :: post)
    (hthere : i < (applyAll pre (after fire before w).table).length) :
    ∀ later ∈ rest, later.index ≠ i := by
  rintro later hlater rfl
  obtain ⟨mid, hturn⟩ := h.exists_turn hlater
  obtain ⟨more, htable⟩ := table_behind hfire hmade mid
  rw [htable] at hturn
  exact not_liveAt_of_removed hthere hturn

/-- Whoever has a number that a callback gave to a new watch is called later, and for that watch. -/
theorem LiveInTurn.of_registered (hfire : Changing fire changes)
    (h : LiveInTurn fire (before ++ due :: rest) w) {pre post : List (Change κ)}
    (hmade : due.made changes (after fire before w) = pre ++ .watch watch :: post) {other : Due κ}
    (hother : other ∈ before ++ due :: rest)
    (hnumber : other.index = (applyAll pre (after fire before w).table).length) :
    other ∈ rest ∧ other.watch = watch := by
  have hgrown := length_le_applyAll pre (after fire before w).table
  obtain ⟨hbefore, hbehind⟩ := inTurn_append.1 h
  rcases List.mem_append.1 hother with hmem | hmem
  · have hlt := LiveInTurn.index_lt hfire hbefore hmem
    omega
  · rcases List.mem_cons.1 hmem with rfl | hlater
    · have hlt := (inTurn_cons.1 hbehind).1.lt
      omega
    · obtain ⟨mid, hturn⟩ := h.exists_turn hlater
      obtain ⟨more, htable⟩ := table_behind hfire hmade mid
      rw [htable, hnumber] at hturn
      exact ⟨hlater, eq_of_registered hturn⟩

/-- A watch that is registered for a key that has had its pass is not called. -/
theorem Turns.index_ne_of_passed (hfire : Changing fire changes)
    {early late : List ((Text × Json) × List (Due κ))} {pass : List (Due κ)}
    (h : Turns fire w (early ++ ((event, body), pass) :: late))
    (hkeys : (((early ++ ((event, body), pass) :: late).map Prod.fst).map Prod.fst).Nodup)
    (hsplit : allDues late = before ++ due :: rest) {pre post : List (Change κ)}
    (hmade : due.made changes (after fire (allDues early ++ pass ++ before) w) =
      pre ++ .watch watch :: post)
    (hevent : watch.event = event) :
    ∀ other ∈ allDues (early ++ ((event, body), pass) :: late),
      other.index ≠
        (applyAll pre (after fire (allDues early ++ pass ++ before) w).table).length := by
  intro other hother hnumber
  have hall : allDues (early ++ ((event, body), pass) :: late) =
      (allDues early ++ pass ++ before) ++ due :: rest := by
    rw [allDues, List.flatMap_append, List.flatMap_cons, ← allDues, ← allDues, hsplit]
    simp only [List.append_assoc]
  have hlive := h.liveInTurn
  rw [hall] at hlive hother
  obtain ⟨hlater, hwatch⟩ := hlive.of_registered hfire hmade hother hnumber
  -- then the key would have a second pass
  have hagain : event ∈ (late.map Prod.fst).map Prod.fst := by
    rw [← hevent, ← hwatch]
    refine h.split.2.event_mem ?_
    rw [hsplit]
    exact List.mem_append_right _ (List.mem_cons_of_mem _ hlater)
  rw [List.map_append, List.map_append] at hkeys
  exact (List.nodup_cons.1 (List.nodup_append.1 hkeys).2.1).1 hagain

/-- Who is called twice under a number is called for the same watch. -/
theorem LiveInTurn.watch_eq (hfire : Changing fire changes)
    (h : LiveInTurn fire (before ++ due :: rest) w) {other : Due κ} (hother : other ∈ rest)
    (hnumber : other.index = due.index) : other.watch = due.watch := by
  have hturn : LiveAt (after fire before w).table due.index due.watch := h before due rest rfl
  obtain ⟨mid, hlater⟩ := h.exists_turn hother
  rw [after_append, table_after hfire, hnumber] at hlater
  exact Option.some.inj (Option.some.inj ((hlater.of_applyAll hturn.lt).symm.trans hturn))

/-- If no key is there twice, no number is called twice. -/
theorem Turns.nodup (hfire : Changing fire changes)
    {passes : List ((Text × Json) × List (Due κ))} (h : Turns fire w passes)
    (hkeys : ((passes.map Prod.fst).map Prod.fst).Nodup) :
    ((allDues passes).map Due.index).Nodup := by
  induction h with
  | nil => exact .nil
  | @cons w event body pass passes hpass hrest ih =>
    obtain ⟨hnew, hkeys⟩ := List.nodup_cons.1 hkeys
    have hlive : LiveInTurn fire (pass ++ allDues passes) w :=
      inTurn_append.2 ⟨hpass.liveInTurn, hrest.liveInTurn⟩
    have hall : allDues (((event, body), pass) :: passes) = pass ++ allDues passes := rfl
    rw [hall, List.map_append, List.nodup_append]
    refine ⟨hpass.pairwise.imp Nat.ne_of_lt, ih hkeys, fun i hi j hj => ?_⟩
    obtain ⟨due, hdue, rfl⟩ := List.mem_map.1 hi
    obtain ⟨other, hother, rfl⟩ := List.mem_map.1 hj
    intro hsame
    obtain ⟨before, mid, rfl⟩ := List.append_of_mem hdue
    rw [List.append_assoc, List.cons_append] at hlive
    have hwatch := hlive.watch_eq hfire (List.mem_append_right _ hother) hsame.symm
    -- one watch has one name, but these are called for two keys
    have hkey := hrest.event_mem hother
    rw [hwatch, (hpass.of_mem hdue).2.1] at hkey
    exact hnew hkey

/-- A call is recorded under the number and the name of its watch. -/
theorem Fires.names {run : Run (WatchEffect κ) (Watcher κ) (List Firing)}
    (h : Fires run fire dues w) {firings : List Firing} (hok : run.value = .ok firings) :
    firings.map (fun firing => (firing.index, firing.event)) =
      dues.map fun due => (due.index, due.watch.event) := by
  obtain rfl := Except.ok.inj (hok.symm.trans h.value)
  clear h hok
  induction dues generalizing w with
  | nil => rfl
  | cons due rest ih => exact congrArg (_ :: ·) ih

/-- **Callbacks may change the table while they are dispatched.** Let callbacks register and remove
watches and then return or fail, but not with an interrupt, and let a dispatch of an object return.
Its keys have their passes in order. The callbacks are called one after another, each of a watch
that is live when it has its turn, in the table that the one before it left, and none is called
twice; a watch that one of them removes is not called afterwards. For each key the numbers ascend.
A watch of the key that is live when the pass begins is called in it unless it is removed before its
turn, and so is one that a callback of the pass registers; one that is registered for the key later
is not called any more. In the end the table is the first one with all the registrations and
removals made to it in order. -/
theorem dispatch_takes_turns (hfire : Changing fire changes) (allowance : Nat) {payload : Bytes}
    {fields : List (Text × Json)} (hread : Json.readBytes payload = .ok (.obj fields))
    (w : Watcher κ) {firings : List Firing}
    (hok : (dispatch allowance fire MessageType.event.toByte.toNat payload w).value =
      .ok firings) :
    let run := dispatch allowance fire MessageType.event.toByte.toNat payload w
    ∃ passes : List ((Text × Json) × List (Due κ)),
      let dues := allDues passes
      passes.map Prod.fst = fields ∧ (fields.map Prod.fst).Nodup ∧ Fires run fire dues w ∧
      firings.map (fun firing => (firing.index, firing.event)) =
        dues.map (fun due => (due.index, due.watch.event)) ∧
      LiveInTurn fire dues w ∧ (dues.map Due.index).Nodup ∧
      (∀ before due rest pre (i : Nat) post, dues = before ++ due :: rest →
        due.made changes (after fire before w) = pre ++ .unwatch i :: post →
        i < (applyAll pre (after fire before w).table).length →
        ∀ later ∈ rest, later.index ≠ i) ∧
      (∀ early key body pass late, passes = early ++ ((key, body), pass) :: late →
        PassAccount fire changes key body (after fire (allDues early) w) pass ∧
        ∀ before due rest pre watch post, allDues late = before ++ due :: rest →
          let turn := after fire (allDues early ++ pass ++ before) w
          due.made changes turn = pre ++ .watch watch :: post → watch.event = key →
          ∀ other ∈ dues, other.index ≠ (applyAll pre turn.table).length) ∧
      run.state.table = applyAll (allMade fire changes dues w) w.table := by
  intro run
  have hrun : run = dispatchFields allowance fire fields w := by
    show dispatch allowance fire _ payload w = _
    rw [dispatch, if_neg fun hne => hne rfl, hread]
  have hfields : run.value = .ok firings := hok
  rw [hrun] at hfields
  obtain ⟨passes, rfl, hturns, hfires⟩ :=
    dispatchFields_turns hfire.toRecorded allowance fields hfields
  rw [← hrun] at hfires
  have hkeys := Json.nodup_readBytes hread
  have hlive := hturns.liveInTurn
  refine ⟨passes, rfl, hkeys, hfires, hfires.names hok, hlive, hturns.nodup hfire hkeys, ?_, ?_, ?_⟩
  · intro before due rest pre i post hsplit hmade hthere
    rw [hsplit] at hlive
    exact hlive.index_ne_of_removed hfire hmade hthere
  · rintro early key body pass late rfl
    refine ⟨hturns.split.1.account hfire, ?_⟩
    intro before due rest pre watch post hsplit turn hmade hevent
    exact hturns.index_ne_of_passed hfire hkeys hsplit hmade hevent
  · rw [hfires.state]
    exact table_after hfire _ w

/-- The first callback removes the second watch, registers a new one and fails: the second is not
called, and the new one is, in the same pass. The callback for the other key registers one more for
the first, which is not called. -/
theorem dispatch_takes_turns_around_changes :
    let object : Bytes := [123, 34, 97, 34, 58, 49, 44, 34, 98, 34, 58, 50, 125]
    let a : Text := [.scalar 'a']
    let b : Text := [.scalar 'b']
    let fire : Fire Nat := fun entry body =>
      match entry.callback with
      | 0 => do
        Watcher.unwatch 1
        let _ ← Watcher.watch a 3
        Action.fail (.complaint b)
      | 2 => do
        let _ ← Watcher.watch a 3
        return body
      | _ => return body
    let changes : Watch Nat → Json → Watcher Nat → List (Change Nat) := fun entry _ _ =>
      match entry.callback with
      | 0 => [.unwatch 1, .watch ⟨a, 3⟩]
      | 2 => [.watch ⟨a, 3⟩]
      | _ => []
    let w : Watcher Nat := ⟨.new (.new none [] false), [some ⟨a, 0⟩, some ⟨a, 1⟩, some ⟨b, 2⟩]⟩
    let run := dispatch 2 fire 6 object w
    Changing fire changes ∧ Json.readBytes object = .ok (.obj [(a, .int 1), (b, .int 2)]) ∧
      run.value = .ok [⟨0, a, .error b⟩, ⟨3, a, .ok (.int 1)⟩, ⟨2, b, .ok (.int 2)⟩] ∧
      run.state.table = [some ⟨a, 0⟩, none, some ⟨b, 2⟩, some ⟨a, 3⟩, some ⟨a, 3⟩] ∧
      ∃ dues, dues.map (fun due => (due.index, due.watch.event)) = [(0, a), (3, a), (2, b)] ∧
        Fires run fire dues w ∧ LiveInTurn fire dues w ∧
        run.state.table = applyAll (allMade fire changes dues w) w.table := by
  intro object a b fire changes w run
  have hfire : Changing fire changes := by
    refine ⟨⟨?_, ?_⟩, ?_⟩
    · rintro ⟨event, _ | _ | _ | callback⟩ body w <;> rfl
    · rintro ⟨event, _ | _ | _ | callback⟩ body w failure h
      · obtain rfl := Except.error.inj h
        rfl
      all_goals cases h
    · rintro ⟨event, _ | _ | _ | callback⟩ body w <;> rfl
  have hread : Json.readBytes object = .ok (.obj [(a, .int 1), (b, .int 2)]) := rfl
  have hrun : run = dispatchFields 2 fire [(a, .int 1), (b, .int 2)] w := by
    show dispatch 2 fire 6 object w = _
    rw [dispatch, if_neg fun hne => hne rfl, hread]
  have hok : run.value = .ok [⟨0, a, .error b⟩, ⟨3, a, .ok (.int 1)⟩, ⟨2, b, .ok (.int 2)⟩] := by
    rw [hrun]
    cbv
  obtain ⟨passes, -, -, hfires, hnames, hlive, -, -, -, htable⟩ :=
    dispatch_takes_turns hfire 2 hread w hok
  refine ⟨hfire, hread, hok, ?_, allDues passes, hnames.symm, hfires, hlive, htable⟩
  rw [hrun]
  cbv

end Watcher

end DwmIpc
