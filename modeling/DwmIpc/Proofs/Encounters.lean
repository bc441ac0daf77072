import DwmIpc.Proofs.Ownership
import Mathlib.Logic.Function.Basic

/-!
# Faults that a run has met

The scripts of the sockets and the calls of a run tell which faults the run met:
`Effect.met` makes the calls once more and lists each fault with its call. What
is left of the sockets is what the calls leave (`Goes.socketAt`).

A fault is grave if it ends what is being done: any fault of connecting, a lasting
one of a transfer, one of closing that the system does not report. A run that
`Ends` has met at most one grave fault, as the last one, and fails with it; but a
socket that does not connect is closed, and if that fails too, the second fault
takes the place of the first. These are the cases of `Verdict` (`Ends.verdict`).
-/

namespace DwmIpc

/-- A call, and the fault that it met. -/
structure Encounter where
  call : SocketCall
  fault : Fault
  deriving DecidableEq

namespace Encounter

/-- Does the fault end what is being done? -/
def isGrave (x : Encounter) : Bool :=
  match x.call with
  | .connect _ => true
  | .receive _ | .send .. => !x.fault.isTransient
  | .close => !x.fault.isSystem

/-- The failure that the fault makes of the call. -/
def failure (x : Encounter) : Failure :=
  x.call.failure x.fault

/-- A fault that the system reports makes a failure of the protocol, unless it is one of closing. -/
theorem isIpc_failure {x : Encounter} (hgrave : x.isGrave = true)
    (hsystem : x.fault.isSystem = true) : x.failure.IsIpc := by
  obtain ⟨call, f⟩ := x
  cases call with
  | connect _ | receive _ | send _ _ =>
    rw [failure, SocketCall.failure, Endpoint.failureOf, if_pos hsystem]
    exact ⟨_, rfl⟩
  | close =>
    rw [isGrave, hsystem] at hgrave
    cases hgrave

/-- The fault that a call meets, if it meets one, with the call. -/
def of (e : Endpoint) (call : SocketCall) : List Encounter :=
  (e.fault? call).toList.map fun f => ⟨call, f⟩

theorem of_none {e : Endpoint} {call : SocketCall} (h : e.fault? call = none) : of e call = [] := by
  rw [of, h]
  rfl

theorem of_some {e : Endpoint} {call : SocketCall} {f : Fault} (h : e.fault? call = some f) :
    of e call = [⟨call, f⟩] := by
  rw [of, h]
  rfl

/-- None of the faults is grave. -/
def Mild (met : List Encounter) : Prop :=
  ∀ x ∈ met, x.isGrave = false

/-- If two parts meet transient faults only, so does the whole. -/
theorem Mild.append {a b : List Encounter} (ha : Mild a) (hb : Mild b) : Mild (a ++ b) := by
  intro x hx
  rcases List.mem_append.1 hx with hmem | hmem
  · exact ha x hmem
  · exact hb x hmem

/-- A call that meets a mild fault or none. -/
theorem mild_of {e : Endpoint} {call : SocketCall}
    (h : ∀ f, e.fault? call = some f → isGrave ⟨call, f⟩ = false) : Mild (of e call) := by
  intro x hx
  obtain ⟨f, hf, rfl⟩ := List.mem_map.1 hx
  exact h f (Option.mem_toList.1 hf)

end Encounter

/-! ## Calls made once more -/

namespace Effect

/-- What an effect leaves of the sockets. -/
def next (sockets : Nat → Endpoint) : Effect → Nat → Endpoint
  | .call i made => Function.update sockets i ((sockets i).next made)
  | .log _ => sockets

theorem next_connect (sockets : Nat → Endpoint) (i : Nat) (path : Text) :
    next sockets (.call i (.connect path)) = sockets :=
  Function.update_eq_self ..

theorem next_close (sockets : Nat → Endpoint) (i : Nat) : next sockets (.call i .close) = sockets :=
  Function.update_eq_self ..

/-- The fault that an effect meets, if it meets one. -/
def encounter (sockets : Nat → Endpoint) : Effect → List Encounter
  | .call i made => Encounter.of (sockets i) made
  | .log _ => []

/-- What effects leave of the sockets. -/
def after (sockets : Nat → Endpoint) (effects : List Effect) : Nat → Endpoint :=
  effects.foldl next sockets

/-- The faults that effects meet. -/
def met (sockets : Nat → Endpoint) : List Effect → List Encounter
  | [] => []
  | effect :: rest => encounter sockets effect ++ met (next sockets effect) rest

theorem after_append (sockets : Nat → Endpoint) (a b : List Effect) :
    after sockets (a ++ b) = after (after sockets a) b :=
  List.foldl_append

/-- The faults are met in the order of the effects. -/
theorem met_append (sockets : Nat → Endpoint) (a b : List Effect) :
    met sockets (a ++ b) = met sockets a ++ met (after sockets a) b := by
  induction a generalizing sockets with
  | nil => rfl
  | cons effect rest ih =>
    rw [List.cons_append, met, ih, met, List.append_assoc]
    rfl

theorem met_singleton (sockets : Nat → Endpoint) (effect : Effect) :
    met sockets [effect] = encounter sockets effect :=
  List.append_nil _

end Effect

namespace Connection

/-- The socket with this number. -/
def socketAt (c : Connection) (i : Nat) : Endpoint :=
  (c.retired ++ (c.held.toList ++ c.pending)).getD i .quiet

variable {c d : Connection} {e : Endpoint}

/-- A socket that was left, the one in use, or one to come. -/
theorem socketAt_eq (c : Connection) (i : Nat) :
    c.socketAt i =
      if i < c.current then (c.retired[i]?).getD .quiet
      else ((c.held.toList ++ c.pending)[i - c.current]?).getD .quiet := by
  rw [socketAt, List.getD_eq_getElem?_getD, List.getElem?_append, current]
  split <;> rfl

/-- The current socket is the one that calls go to. -/
theorem socketAt_current (c : Connection) : c.socketAt c.current = c.socket := by
  rw [socketAt_eq, if_neg (Nat.lt_irrefl _), Nat.sub_self, socket]
  cases c.held with
  | some e => rfl
  | none =>
    cases c.pending with
    | nil => rfl
    | cons e rest => rfl

theorem socketAt_of_held (hheld : c.held = some e) : c.socketAt c.current = e := by
  rw [socketAt_current, socket, hheld]
  rfl

/-- Another socket in the place of the one in use. -/
theorem socketAt_held (hheld : c.held = some e) (e' : Endpoint) :
    { c with held := some e' }.socketAt = Function.update c.socketAt c.current e' := by
  funext i
  by_cases hi : i = c.current
  · rw [hi, Function.update_self]
    exact @socketAt_of_held { c with held := some e' } e' rfl
  · rw [Function.update_of_ne hi, socketAt_eq, socketAt_eq, hheld]
    show (if i < c.current then _ else _) = _
    by_cases hless : i < c.current
    · rw [if_pos hless, if_pos hless]
    · rw [if_neg hless, if_neg hless]
      -- behind the current one both lists are the same
      obtain ⟨k, hk⟩ : ∃ k, i - c.current = k + 1 := ⟨i - c.current - 1, by omega⟩
      show ((e' :: c.pending)[i - c.current]?).getD .quiet =
        ((e :: c.pending)[i - c.current]?).getD .quiet
      rw [hk, List.getElem?_cons_succ, List.getElem?_cons_succ]

/-- Taking the next socket into use leaves all sockets where they are. -/
theorem socketAt_open (hheld : c.held = none) :
    { c with pending := c.pending.tail, held := some c.socket }.socketAt = c.socketAt := by
  funext i
  rw [socketAt_eq, socketAt_eq, socket, hheld]
  cases hpending : c.pending with
  | cons next rest => rfl
  | nil =>
    -- behind all scripts there are quiet sockets only
    show (if i < c.current then _ else (([Endpoint.quiet])[i - c.current]?).getD .quiet) =
      if i < c.current then _ else .quiet
    cases i - c.current <;> rfl

/-- So does taking it out of use. -/
theorem socketAt_retire (hheld : c.held = some e) : (c.retire e).socketAt = c.socketAt := by
  funext i
  simp [socketAt, retire, hheld]

/-! ### Moves and breaks -/

/-- A move leaves of the sockets what its call leaves, and meets nothing grave. -/
theorem Moves.met {effect : Effect} (h : Moves c effect d) :
    d.socketAt = Effect.next c.socketAt effect ∧
      Encounter.Mild (Effect.encounter c.socketAt effect) := by
  cases h with
  | record record => exact ⟨rfl, fun _ hx => absurd hx List.not_mem_nil⟩
  | connect hheld hconnect =>
    refine ⟨?_, ?_⟩
    · rw [socketAt_open hheld, Effect.next_connect]
    · have hnone : c.socket.fault? (.connect c.path) = none := hconnect
      rw [Effect.encounter, socketAt_current, Encounter.of_none hnone]
      exact fun _ hx => absurd hx List.not_mem_nil
  | @transfer e call hheld hcall hfault =>
    rw [Effect.next, Effect.encounter, socketAt_of_held hheld]
    refine ⟨socketAt_held hheld _, Encounter.mild_of fun f hf => ?_⟩
    cases call with
    | connect _ | close => cases hcall
    | receive _ | send _ _ => rw [Encounter.isGrave, hfault f hf, Bool.not_true]
  | close hheld hfault =>
    refine ⟨?_, Encounter.mild_of fun f hf => ?_⟩
    · rw [socketAt_retire hheld, Effect.next_close]
    · rw [socketAt_of_held hheld] at hf
      rw [Encounter.isGrave, hfault f hf, Bool.not_true]

theorem Moves.path_eq {effect : Effect} (h : Moves c effect d) : d.path = c.path := by
  cases h <;> rfl

/-- A trace of moves, too. -/
theorem goes_met {did : List Effect} (h : dynamics.Goes c did d) :
    d.socketAt = Effect.after c.socketAt did ∧ Encounter.Mild (Effect.met c.socketAt did) ∧
      d.path = c.path := by
  induction h with
  | done c => exact ⟨rfl, fun _ hx => absurd hx List.not_mem_nil, rfl⟩
  | step hmove _ ih =>
    obtain ⟨hnext, hmild⟩ := Moves.met hmove
    obtain ⟨hafter, hrest, hpath⟩ := ih
    rw [hnext] at hafter hrest
    exact ⟨hafter, hmild.append hrest, hpath.trans (Moves.path_eq hmove)⟩

/-- What a break leaves is what its calls leave, too. -/
theorem Breaks.keeps {last : List Effect} {failure : Failure} (h : Breaks c last failure d) :
    d.socketAt = Effect.after c.socketAt last ∧ d.path = c.path := by
  cases h with
  | @transfer e call f hheld hcall hfault lasting =>
    refine ⟨?_, rfl⟩
    show _ = Function.update c.socketAt c.current ((c.socketAt c.current).next call)
    rw [socketAt_of_held hheld, socketAt_held hheld]
  | @refuse f hheld hconnect =>
    refine ⟨?_, rfl⟩
    -- as if the socket had been taken into use and out of use again
    have hretire := @socketAt_retire { c with pending := c.pending.tail, held := some c.socket }
      c.socket rfl
    have hcalls : Effect.after c.socketAt
        ((connectFailure c.path c.socket f).2.map (.call c.current)) = c.socketAt := by
      rw [connectFailure]
      split
      · split <;> simp [Effect.after, Effect.next_connect, Effect.next_close]
      · simp [Effect.after, Effect.next_connect]
    rw [hcalls, ← socketAt_open hheld, ← hretire]
    rfl
  | stick hheld hclose hother => exact ⟨(Effect.next_close c.socketAt c.current).symm, rfl⟩

/-- So a run leaves of the sockets what its calls leave, and goes on using the same path. -/
theorem ends_keeps {α : Type} {P : Failure → Prop} {did : List Effect} {value : Except Failure α}
    (h : dynamics.Ends P c did value d) :
    d.socketAt = Effect.after c.socketAt did ∧ d.path = c.path := by
  cases h with
  | value _ hgoes => exact ⟨(goes_met hgoes).1, (goes_met hgoes).2.2⟩
  | own hgoes _ => exact ⟨(goes_met hgoes).1, (goes_met hgoes).2.2⟩
  | broken hgoes hbreak =>
    obtain ⟨hafter, -, hpath⟩ := goes_met hgoes
    obtain ⟨hlast, hsame⟩ := hbreak.keeps
    rw [Effect.after_append, ← hafter]
    exact ⟨hlast, hsame.trans hpath⟩

/-- How the faults that a run has met tell how it ended. -/
inductive Verdict {α : Type} (P : Failure → Prop) : List Encounter → Except Failure α → Prop
  | value {met : List Encounter} (a : α) : Encounter.Mild met → Verdict P met (.ok a)
  | own {met : List Encounter} {failure : Failure} :
      Encounter.Mild met → P failure → Verdict P met (.error failure)
  /-- The last fault is a grave one. -/
  | fault {met : List Encounter} {x : Encounter} :
      Encounter.Mild met → x.isGrave = true → Verdict P (met ++ [x]) (.error x.failure)
  /-- A socket does not connect, and does not close either. -/
  | twice {met : List Encounter} {path : Text} {f g : Fault} :
      Encounter.Mild met → f.isSystem = true →
      Verdict P (met ++ [⟨.connect path, f⟩, ⟨.close, g⟩]) (.error (.raised g))

variable {α : Type} {P : Failure → Prop}

/-- What a call on the socket in use meets. -/
theorem met_held (hheld : c.held = some e) {call : SocketCall} {f : Fault}
    (hfault : e.fault? call = some f) :
    Effect.met c.socketAt [.call c.current call] = [⟨call, f⟩] := by
  rw [Effect.met_singleton, Effect.encounter, socketAt_of_held hheld, Encounter.of_some hfault]

/-- What the calls on a socket meet that does not connect. -/
theorem met_connectFailure {f : Fault} (hconnect : c.socket.connectFault = some f) :
    Effect.met c.socketAt ((connectFailure c.path c.socket f).2.map (.call c.current)) =
      ⟨.connect c.path, f⟩ ::
        if f.isSystem then Encounter.of c.socket .close else [] := by
  have hfault : c.socket.fault? (.connect c.path) = some f := hconnect
  have hfirst := Encounter.of_some hfault
  rw [connectFailure]
  by_cases hsystem : f.isSystem = true
  · rw [if_pos hsystem, if_pos hsystem]
    cases c.socket.closeFault with
    | none | some g =>
      simp only [List.map_cons, List.map_nil, Effect.met, Effect.encounter, Effect.next_connect,
        socketAt_current, hfirst, List.append_nil, List.singleton_append]
  · rw [if_neg hsystem, if_neg hsystem]
    simp only [List.map_cons, List.map_nil, Effect.met, Effect.encounter, socketAt_current, hfirst,
      List.append_nil]

/-- A break is a grave fault, or two. -/
theorem Breaks.verdict {last : List Effect} {failure : Failure} (h : Breaks c last failure d)
    {met : List Encounter} (hmild : Encounter.Mild met) :
    Verdict P (met ++ Effect.met c.socketAt last) (.error failure : Except Failure α) := by
  cases h with
  | @transfer e call f hheld hcall hfault lasting =>
    rw [met_held hheld hfault]
    have hgrave : Encounter.isGrave ⟨call, f⟩ = true := by
      cases call with
      | connect _ | close => cases hcall
      | receive _ | send _ _ => rw [Encounter.isGrave, Bool.eq_false_iff.2 lasting]; rfl
    exact .fault hmild hgrave
  | @refuse f hheld hconnect =>
    have hrefused : Verdict P (met ++ [⟨.connect c.path, f⟩])
        (.error ((SocketCall.connect c.path).failure f) : Except Failure α) := .fault hmild rfl
    rw [SocketCall.failure, Endpoint.failureOf] at hrefused
    rw [met_connectFailure hconnect, connectFailure]
    by_cases hsystem : f.isSystem = true
    · rw [if_pos hsystem] at hrefused
      rw [if_pos hsystem, if_pos hsystem]
      cases hclose : c.socket.closeFault with
      | none =>
        have hnone : c.socket.fault? .close = none := hclose
        rw [Encounter.of_none hnone]
        exact hrefused
      | some g =>
        have hsome : c.socket.fault? .close = some g := hclose
        rw [Encounter.of_some hsome]
        exact .twice hmild hsystem
    · rw [if_neg hsystem] at hrefused
      rw [if_neg hsystem, if_neg hsystem]
      exact hrefused
  | @stick e f hheld hclose hother =>
    have hfault : e.fault? .close = some f := hclose
    rw [met_held hheld hfault]
    have hgrave : Encounter.isGrave ⟨.close, f⟩ = true := by
      rw [Encounter.isGrave, Bool.eq_false_iff.2 hother]
      rfl
    exact .fault hmild hgrave

/-- A run ends as the faults that it has met tell. -/
theorem ends_verdict {did : List Effect} {value : Except Failure α}
    (h : dynamics.Ends P c did value d) : Verdict P (Effect.met c.socketAt did) value := by
  cases h with
  | value a hgoes => exact .value a (goes_met hgoes).2.1
  | own hgoes hown => exact .own (goes_met hgoes).2.1 hown
  | broken hgoes hbreak =>
    obtain ⟨hafter, hmild, -⟩ := goes_met hgoes
    rw [Effect.met_append, ← hafter]
    exact hbreak.verdict hmild

/-- A grave fault is the last one that a run meets, unless it meets another one in closing a socket
that does not connect. -/
theorem Verdict.of_grave {met : List Encounter} {value : Except Failure α} (h : Verdict P met value)
    {x : Encounter} (hx : x ∈ met) (hgrave : x.isGrave = true) :
    (∃ front, met = front ++ [x] ∧ value = .error x.failure) ∨
      ∃ front path f g, x = ⟨.connect path, f⟩ ∧ met = front ++ [x, ⟨.close, g⟩] ∧
        value = .error (.raised g) := by
  have hlast {front : List Encounter} (hmild : Encounter.Mild front) : x ∉ front := by
    intro hmem
    rw [hmild x hmem] at hgrave
    cases hgrave
  cases h with
  | value _ hmild => exact absurd hx (hlast hmild)
  | own hmild _ => exact absurd hx (hlast hmild)
  | @fault front y hmild hy =>
    obtain rfl := List.mem_singleton.1 ((List.mem_append.1 hx).resolve_left (hlast hmild))
    exact .inl ⟨front, rfl, rfl⟩
  | @twice front path f g hmild hsystem =>
    rcases List.mem_cons.1 ((List.mem_append.1 hx).resolve_left (hlast hmild)) with rfl | hmem
    · exact .inr ⟨front, path, f, g, rfl, rfl, rfl⟩
    · obtain rfl := List.mem_singleton.1 hmem
      exact .inl ⟨front ++ [⟨.connect path, f⟩], by simp, rfl⟩

/-- A run that meets a lasting fault of a transfer fails with it. -/
theorem Verdict.of_lasting {met : List Encounter} {value : Except Failure α}
    (h : Verdict P met value) {call : SocketCall} {f : Fault} (hmem : ⟨call, f⟩ ∈ met)
    (hcall : call.isTransfer = true) (lasting : ¬f.isTransient = true) :
    value = .error (call.failure f) := by
  have hgrave : Encounter.isGrave ⟨call, f⟩ = true := by
    cases call with
    | connect _ | close => cases hcall
    | receive _ | send _ _ => rw [Encounter.isGrave, Bool.eq_false_iff.2 lasting, Bool.not_false]
  rcases h.of_grave hmem hgrave with ⟨front, -, hvalue⟩ | ⟨_, _, _, _, hx, -⟩
  · exact hvalue
  · cases hx
    cases hcall

/-- A socket that does not connect is the last thing of a run. It is closed, and none is held. -/
theorem refused_of_met {did : List Effect} {value : Except Failure α}
    (h : dynamics.Ends P c did value d) {path : Text} {f : Fault}
    (hmet : ⟨.connect path, f⟩ ∈ Effect.met c.socketAt did) :
    path = c.path ∧ d.connected = false ∧
      (f.isSystem = true →
        ∃ front i, did = front ++ [.call i (.connect path), .call i .close]) := by
  have hmild {met : List Encounter} (hmild : Encounter.Mild met) : ⟨.connect path, f⟩ ∉ met :=
    fun hmem => nomatch hmild _ hmem
  cases h with
  | value _ hgoes => exact absurd hmet (hmild (goes_met hgoes).2.1)
  | own hgoes _ => exact absurd hmet (hmild (goes_met hgoes).2.1)
  | @broken t _ front last failure hgoes hbreak =>
    obtain ⟨hafter, hfront, hpath⟩ := goes_met hgoes
    rw [Effect.met_append, ← hafter] at hmet
    have hlast := (List.mem_append.1 hmet).resolve_left (hmild hfront)
    cases hbreak with
    | @transfer e call g hheld hcall hfault lasting =>
      rw [met_held hheld hfault, List.mem_singleton] at hlast
      cases hlast
      cases hcall
    | @refuse g hheld hconnect =>
      rw [met_connectFailure hconnect] at hlast
      rcases List.mem_cons.1 hlast with heq | hmem
      · cases heq
        refine ⟨hpath, rfl, fun hsystem => ⟨front, t.current, ?_⟩⟩
        rw [connectFailure, if_pos hsystem]
        split <;> rfl
      · split at hmem
        · obtain ⟨_, -, heq⟩ := List.mem_map.1 hmem
          cases heq
        · exact absurd hmem List.not_mem_nil
    | @stick e g hheld hclose hother =>
      have hfault : e.fault? .close = some g := hclose
      rw [met_held hheld hfault, List.mem_singleton] at hlast
      cases hlast

end Connection

/-! ## Faults of a kind -/

section

variable {p : Fault → Prop} {incoming : List Incoming}

/-- One reception hands out the first item or a piece of it, and leaves no new faults. -/
theorem Incoming.receive_items (h : ∀ item ∈ incoming, ∀ f ∈ item.fault?, p f) (asked : Nat) :
    (∀ f ∈ (receive asked incoming).1.fault?, p f) ∧
      ∀ item ∈ (receive asked incoming).2, ∀ f ∈ item.fault?, p f := by
  match incoming with
  | [] => exact ⟨fun _ hf => (nomatch hf), h⟩
  | .fault f :: rest =>
    exact ⟨h _ (List.mem_cons_self ..), fun item hitem => h item (List.mem_cons_of_mem _ hitem)⟩
  | .chunk bytes :: rest =>
    rw [receive_chunk]
    split
    · exact ⟨fun _ hf => (nomatch hf), fun item hitem => h item (List.mem_cons_of_mem _ hitem)⟩
    · refine ⟨fun _ hf => (nomatch hf), fun item hitem => ?_⟩
      rcases List.mem_cons.1 hitem with rfl | hmem
      · exact fun _ hf => nomatch hf
      · exact h item (List.mem_cons_of_mem _ hmem)

namespace Endpoint.Raises

variable {e : Endpoint}

/-- A fault that a call meets is one of the script. -/
theorem fault? (h : e.Raises p) (call : SocketCall) : ∀ f ∈ e.fault? call, p f := by
  cases call with
  | connect _ => exact h.connect
  | close => exact h.close
  | receive asked => exact (Incoming.receive_items h.receive asked).1
  | send offered accepted =>
    intro f hf
    obtain ⟨item, hitem, hfault⟩ := Option.bind_eq_some_iff.1 hf
    exact h.send item (List.mem_of_head? hitem) f hfault

/-- A socket raises no other faults after a call. -/
theorem next (h : e.Raises p) (call : SocketCall) : (e.next call).Raises p := by
  cases call with
  | connect _ | close => exact h
  | receive asked => exact { h with receive := (Incoming.receive_items h.receive asked).2 }
  | send offered accepted =>
    exact { h with send := fun item hitem => h.send item (List.mem_of_mem_tail hitem) }

end Endpoint.Raises

/-- What is met on sockets that raise faults of a kind is of this kind, and so is what is left. -/
theorem Effect.met_raises {sockets : Nat → Endpoint} (h : ∀ i, (sockets i).Raises p)
    (effects : List Effect) :
    (∀ x ∈ met sockets effects, p x.fault) ∧ ∀ i, (after sockets effects i).Raises p := by
  induction effects generalizing sockets with
  | nil => exact ⟨fun _ hx => absurd hx List.not_mem_nil, h⟩
  | cons effect rest ih =>
    have hnext : ∀ i, (next sockets effect i).Raises p := by
      intro i
      cases effect with
      | log record => exact h i
      | call n made =>
        rw [next, Function.update_apply]
        split
        · exact (h n).next made
        · exact h i
    obtain ⟨hrest, hafter⟩ := ih hnext
    refine ⟨fun x hx => ?_, hafter⟩
    rcases List.mem_append.1 hx with hmem | hmem
    · cases effect with
      | log record => exact absurd hmem List.not_mem_nil
      | call n made =>
        obtain ⟨f, hf, rfl⟩ := List.mem_map.1 hmem
        exact (h n).fault? made f (Option.mem_toList.1 hf)
    · exact hrest x hmem

end

end DwmIpc
