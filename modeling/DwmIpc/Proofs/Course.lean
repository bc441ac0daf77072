import DwmIpc.Proofs.Stream.Framing
import DwmIpc.Proofs.Transcript

/-!
# The course of a run

`Dynamics` say what may happen to a state: moves, after which a run goes on, and
breaks, which end it with a failure. A run `Ends` in one of three ways: with a
value after moves only, with a failure of its own after moves only, or with the
failure of a break. Runs that end so may be put one behind the other
(`Ends.bind`), so that it is enough to look at the smallest actions.

The dynamics of an endpoint (`Endpoint.dynamics`) tell what its script answers to
a call: a transfer that meets nothing, or a transient fault, is a move, and one
that meets a lasting fault is a break. Reading and writing messages is all of
this kind (`transfers_readMessage`, `transfers_writeMessage`).
-/

namespace DwmIpc

/-- What may happen to a state. -/
structure Dynamics (τ κ : Type) where
  /-- After this a run goes on. -/
  moves : τ → κ → τ → Prop
  /-- This ends a run. -/
  breaks : τ → List κ → Failure → τ → Prop

namespace Dynamics

variable {τ κ : Type} (D : Dynamics τ κ)

/-- A trace that leads from one state to another, move by move. -/
inductive Goes : τ → List κ → τ → Prop
  | done (s : τ) : Goes s [] s
  | step {s t u : τ} {event : κ} {did : List κ} :
      D.moves s event t → Goes t did u → Goes s (event :: did) u

/-- How a run ends that fails with failures of its own, if `P` holds of them, and with those of
breaks. -/
inductive Ends {α : Type} (P : Failure → Prop) (s : τ) :
    List κ → Except Failure α → τ → Prop
  | value {t : τ} {did : List κ} (a : α) : D.Goes s did t → Ends P s did (.ok a) t
  | own {t : τ} {did : List κ} {failure : Failure} :
      D.Goes s did t → P failure → Ends P s did (.error failure) t
  | broken {t u : τ} {did last : List κ} {failure : Failure} :
      D.Goes s did t → D.breaks t last failure u → Ends P s (did ++ last) (.error failure) u

variable {D} {s t u : τ} {a b : List κ} {P Q : Failure → Prop} {α β : Type}

theorem Goes.one {event : κ} (h : D.moves s event t) : D.Goes s [event] t :=
  .step h (.done t)

theorem Goes.append (h : D.Goes s a t) (h' : D.Goes t b u) : D.Goes s (a ++ b) u := by
  induction h with
  | done => exact h'
  | step hmove _ ih => exact .step hmove (ih h')

/-- What every move keeps, a trace of moves keeps. -/
theorem Goes.invariant {I : List κ → τ → Prop} {before : List κ} (h : D.Goes s a t)
    (keeps : ∀ {before s event t}, I before s → D.moves s event t → I (before ++ [event]) t)
    (start : I before s) : I (before ++ a) t := by
  induction h generalizing before with
  | done => rwa [List.append_nil]
  | step hmove _ ih =>
    have hnext := ih (keeps start hmove)
    rwa [List.append_assoc] at hnext

namespace Ends

theorem mono {value : Except Failure α} (h : D.Ends P s a value t)
    (hPQ : ∀ failure, P failure → Q failure) : D.Ends Q s a value t := by
  cases h with
  | value x hgoes => exact .value x hgoes
  | own hgoes hown => exact .own hgoes (hPQ _ hown)
  | broken hgoes hbreak => exact .broken hgoes hbreak

/-- Moves in front make no difference. -/
theorem after {value : Except Failure α} (hgoes : D.Goes s a t) (h : D.Ends P t b value u) :
    D.Ends P s (a ++ b) value u := by
  cases h with
  | value x hrest => exact .value x (hgoes.append hrest)
  | own hrest hown => exact .own (hgoes.append hrest) hown
  | broken hrest hbreak =>
    rw [← List.append_assoc]
    exact .broken (hgoes.append hrest) hbreak

/-- What moves and breaks keep, a run keeps. -/
theorem invariant {I : List κ → τ → Prop} {value : Except Failure α} {before : List κ}
    (h : D.Ends P s a value t)
    (moves : ∀ {before s event t}, I before s → D.moves s event t → I (before ++ [event]) t)
    (breaks : ∀ {before s last failure t},
      I before s → D.breaks s last failure t → I (before ++ last) t)
    (start : I before s) : I (before ++ a) t := by
  cases h with
  | value _ hgoes => exact hgoes.invariant moves start
  | own hgoes _ => exact hgoes.invariant moves start
  | broken hgoes hbreak =>
    rw [← List.append_assoc]
    exact breaks (hgoes.invariant moves start) hbreak

/-- An action with a value has made moves only. -/
theorem goes_of_ok {x : α} (h : D.Ends P s a (.ok x) t) : D.Goes s a t := by
  cases h with
  | value _ hgoes => exact hgoes

/-- A failure is the same whatever the value would have been. -/
theorem of_error {failure : Failure} (h : D.Ends P s a (.error failure : Except Failure α) t) :
    D.Ends P s a (.error failure : Except Failure β) t := by
  cases h with
  | own hgoes hown => exact .own hgoes hown
  | broken hgoes hbreak => exact .broken hgoes hbreak

/-- How an action ends does not depend on what is made of its value. -/
theorem map {value : Except Failure α} (h : D.Ends P s a value t) (f : α → β) :
    D.Ends P s a (value.map f) t := by
  cases value with
  | ok x => exact .value (f x) h.goes_of_ok
  | error failure => exact of_error h

end Ends

section

variable {ω σ : Type}

/-- An action ends so, as far as a part of its state and of its trace is concerned. -/
abbrev EndsIn (D : Dynamics τ κ) (P : Failure → Prop) (view : σ → τ) (see : List ω → List κ)
    (m : Action ω σ α) (s : σ) : Prop :=
  D.Ends P (view s) (see (m s).did) (m s).value (view (m s).state)

variable {view : σ → τ} {see : List ω → List κ}

/-- One action after another. -/
theorem EndsIn.bind (append : ∀ a b, see (a ++ b) = see a ++ see b) {m : Action ω σ α}
    {f : α → Action ω σ β} {s : σ} (hm : EndsIn D P view see m s)
    (hf : ∀ x, (m s).value = .ok x → EndsIn D P view see (f x) (m s).state) :
    EndsIn D P view see (m >>= f) s := by
  unfold EndsIn at hm hf ⊢
  cases hrun : m s with
  | mk value did t =>
    rw [hrun] at hm hf
    cases value with
    | ok x =>
      rw [Action.bind_ok hrun, append]
      exact .after hm.goes_of_ok (hf x rfl)
    | error failure =>
      rw [Action.bind_error hrun]
      exact .of_error hm

/-- An action that does nothing, whatever it ends with. -/
theorem EndsIn.ofExcept (nil : see [] = []) (value : Except Failure α) (s : σ)
    (hown : ∀ failure, value = .error failure → P failure) :
    EndsIn D P view see (Action.ofExcept value) s := by
  show D.Ends P (view s) (see []) value (view s)
  rw [nil]
  cases value with
  | ok x => exact .value x (.done _)
  | error failure => exact .own (.done _) (hown failure rfl)

end

end Dynamics

/-! ## The dynamics of an endpoint -/

/-- Is it a failure of the protocol? -/
def Failure.IsIpc (failure : Failure) : Prop :=
  ∃ label, failure.label? = some label

namespace SocketCall

/-- Does the call move bytes? -/
def isTransfer : SocketCall → Bool
  | .receive _ | .send .. => true
  | .connect _ | .close => false

/-- The failure that a fault makes of a call. -/
def failure : SocketCall → Fault → Failure
  | .connect path => Endpoint.failureOf (.connectFailed path)
  | .receive _ => Endpoint.failureOf .readFailed
  | .send .. => Endpoint.failureOf .writeFailed
  | .close => .raised

end SocketCall

/-- The fault that an item of a script stands for. -/
def Incoming.fault? : Incoming → Option Fault
  | .fault f => some f
  | .chunk _ => none

/-- The fault that an item of a plan stands for. -/
def Outgoing.fault? : Outgoing → Option Fault
  | .fault f => some f
  | .room _ => none

namespace Endpoint

/-- The fault that a call meets, if it meets one. -/
def fault? (e : Endpoint) : SocketCall → Option Fault
  | .connect _ => e.connectFault
  | .receive asked => (Incoming.receive asked e.incoming).1.fault?
  | .send .. => e.outgoing.head?.bind Outgoing.fault?
  | .close => e.closeFault

/-- What a call leaves of an endpoint. -/
def next (e : Endpoint) : SocketCall → Endpoint
  | .receive asked => { e with incoming := (Incoming.receive asked e.incoming).2 }
  | .send .. => { e with outgoing := e.outgoing.tail }
  | .connect _ | .close => e

@[simp] theorem next_connectFault (e : Endpoint) (call : SocketCall) :
    (e.next call).connectFault = e.connectFault := by
  cases call <;> rfl

@[simp] theorem next_closeFault (e : Endpoint) (call : SocketCall) :
    (e.next call).closeFault = e.closeFault := by
  cases call <;> rfl

/-- Records, and transfers that go well or are to be made again. -/
inductive Moves : Endpoint → Notice → Endpoint → Prop
  | record (e : Endpoint) (record : LogRecord) : Moves e (.log record) e
  | transfer {e : Endpoint} {call : SocketCall} :
      call.isTransfer = true → (∀ f, e.fault? call = some f → f.isTransient = true) →
      Moves e (.call call) (e.next call)

/-- A transfer that fails for good. -/
inductive Breaks : Endpoint → List Notice → Failure → Endpoint → Prop
  | transfer {e : Endpoint} {call : SocketCall} {f : Fault} :
      call.isTransfer = true → e.fault? call = some f → ¬f.isTransient = true →
      Breaks e [.call call] (call.failure f) (e.next call)

/-- What transfers do to an endpoint. -/
def dynamics : Dynamics Endpoint Notice := ⟨Moves, Breaks⟩

variable {α : Type} {P : Failure → Prop}

/-- The action does nothing but move bytes, and fails as a lasting fault or `P` says. -/
abbrev Transfers (P : Failure → Prop) (m : Action Notice Endpoint α) : Prop :=
  ∀ e, dynamics.EndsIn P id id m e

/-! ## Moving bytes -/

/-- The read loop calls again after transient faults only; of itself it fails at the end of the
stream. -/
theorem ends_receiveUpTo (expected : Nat) (got : Bytes) (incoming : List Incoming) (e : Endpoint) :
    dynamics.Ends Failure.IsIpc { e with incoming } (receiveUpTo expected got incoming).did
      (receiveUpTo expected got incoming).value
      { e with incoming := (receiveUpTo expected got incoming).state } := by
  have hnext {asked : Nat} {incoming rest : List Incoming} {item : Incoming}
      (found : Incoming.receive asked incoming = (item, rest)) :
      { e with incoming }.next (.receive asked) = { e with incoming := rest } ∧
        { e with incoming }.fault? (.receive asked) = item.fault? := by
    simp only [next, fault?, found, and_self]
  have hmove {asked : Nat} {incoming rest : List Incoming} {item : Incoming}
      (found : Incoming.receive asked incoming = (item, rest))
      (hitem : ∀ f, item.fault? = some f → f.isTransient = true) :
      dynamics.Goes { e with incoming } [.call (.receive asked)] { e with incoming := rest } := by
    obtain ⟨hrest, hfault⟩ := hnext found
    rw [← hrest]
    exact .one (.transfer rfl (hfault ▸ hitem))
  have hbytes (bytes : Bytes) (f : Fault) (hf : (Incoming.chunk bytes).fault? = some f) :
      f.isTransient = true := by
    cases hf
  fun_induction receiveUpTo expected got incoming with
  | case1 got incoming _ asked f rest found transient ih =>
    refine .after (hmove found fun g hg => ?_) ih
    obtain rfl : f = g := Option.some.inj hg
    exact transient
  | case2 got incoming _ asked f rest found lasting =>
    obtain ⟨hrest, hfault⟩ := hnext found
    rw [← hrest]
    exact .broken (.done _) (.transfer rfl hfault lasting)
  | case3 got incoming _ asked rest found =>
    have hrecord := Moves.record { e with incoming := rest } (endOfStreamRecord got.length expected)
    exact .own ((hmove found (hbytes [])).append (.one hrecord)) ⟨_, label?_endOfStream _ _⟩
  | case4 got incoming _ asked bytes rest found _ ih =>
    exact .after (hmove found (hbytes bytes)) ih
  | case5 got incoming _ => exact .value _ (.done _)

/-- The write loop calls again after transient faults only; it has no failures of its own. -/
theorem ends_sendAll (data : Bytes) (outgoing : List Outgoing) (e : Endpoint) :
    dynamics.Ends (fun _ => False) { e with outgoing } (sendAll data outgoing).did
      (sendAll data outgoing).value { e with outgoing := (sendAll data outgoing).state } := by
  have hmove (offered : Offer) (accepted : Bytes) (outgoing : List Outgoing)
      (hitem : ∀ f, outgoing.head?.bind Outgoing.fault? = some f → f.isTransient = true) :
      dynamics.Goes { e with outgoing } [.call (.send offered accepted)]
        { e with outgoing := outgoing.tail } :=
    .one (.transfer rfl hitem)
  fun_induction sendAll data outgoing with
  | case1 data =>
    split
    · exact .value _ (.done _)
    · exact .value _ (hmove _ _ [] fun f hf => nomatch hf)
  | case2 => exact .value _ (.done _)
  | case3 data rest _ count ih =>
    exact .after (hmove _ _ (.room count :: rest) fun f hf => nomatch hf) ih
  | case4 data rest _ f transient ih =>
    refine .after (hmove _ _ (.fault f :: rest) fun g hg => ?_) ih
    obtain rfl : f = g := Option.some.inj hg
    exact transient
  | case5 data rest _ f lasting =>
    exact .broken (.done _) (@Breaks.transfer { e with outgoing := .fault f :: rest }
      (.send ⟨data⟩ []) f rfl rfl lasting)

/-- Reading fails in ways of the protocol. -/
theorem transfers_readExactly (n : Nat) : Transfers Failure.IsIpc (readExactly n) :=
  fun e => ends_receiveUpTo n [] e.incoming e

/-- Writing has no failures of its own. -/
theorem transfers_writeExactly (data : Bytes) : Transfers (fun _ => False) (writeExactly data) :=
  fun e => ends_sendAll data e.outgoing e

theorem transfers_tell (records : List LogRecord) :
    Transfers P (Action.tell (records.map .log)) := by
  intro e
  refine .value () ?_
  show dynamics.Goes e (records.map .log) e
  induction records with
  | nil => exact .done e
  | cons record rest ih => exact .step (.record e record) ih

theorem Transfers.bind {β : Type} {m : Action Notice Endpoint α} {f : α → Action Notice Endpoint β}
    (hm : Transfers P m) (hf : ∀ x, Transfers P (f x)) : Transfers P (m >>= f) :=
  fun e => .bind (fun _ _ => rfl) (hm e) fun x _ => hf x _

theorem Transfers.mono {Q : Failure → Prop} {m : Action Notice Endpoint α} (hm : Transfers P m)
    (hPQ : ∀ failure, P failure → Q failure) : Transfers Q m :=
  fun e => (hm e).mono hPQ

/-! ## Moving messages -/

/-- A header that cannot be read is a matter of the protocol. -/
theorem isIpc_of_decode {data : Bytes} {failure : Failure}
    (h : Header.decode data = .error failure) : failure.IsIpc := by
  unfold Header.decode at h
  split at h
  next =>
    obtain rfl := Except.error.inj h
    exact ⟨_, rfl⟩
  next =>
    split at h
    · obtain rfl := Except.error.inj h
      exact ⟨_, rfl⟩
    · cases h

theorem transfers_readHeader : Transfers Failure.IsIpc readHeader := by
  refine .bind (transfers_readExactly headerSize) fun data => .bind (transfers_tell _) fun _ e => ?_
  exact .ofExcept rfl _ e fun failure hfailure => isIpc_of_decode hfailure

/-- The end of the stream after a header is another failure of the protocol. -/
theorem isIpc_cutOff {failure : Failure} (h : failure.IsIpc) : (cutOff failure).IsIpc := by
  unfold cutOff
  split
  · exact ⟨_, rfl⟩
  · exact h

/-- The failure of a call is not taken for an early end. -/
theorem cutOff_failure {call : SocketCall} (hcall : call.isTransfer = true) (f : Fault) :
    cutOff (call.failure f) = call.failure f := by
  cases call with
  | connect _ | close => cases hcall
  | receive _ | send _ _ =>
    rw [SocketCall.failure, failureOf]
    split <;> rfl

/-- A failure that is taken for one in the middle of a message is still one of the protocol. -/
theorem transfers_cutOff {m : Action Notice Endpoint α} (hm : Transfers Failure.IsIpc m) :
    Transfers Failure.IsIpc (m.mapFailure cutOff) := by
  intro e
  have hrun := hm e
  unfold Dynamics.EndsIn at hrun ⊢
  cases h : m e with
  | mk value did e' =>
    rw [h] at hrun
    cases value with
    | ok x =>
      rw [Action.mapFailure_ok h]
      exact hrun
    | error failure =>
      rw [Action.mapFailure_error h]
      cases hrun with
      | own hgoes hown => exact .own hgoes (isIpc_cutOff hown)
      | broken hgoes hbreak =>
        cases hbreak with
        | transfer hcall hfault lasting =>
          rw [cutOff_failure hcall]
          exact .broken hgoes (.transfer hcall hfault lasting)

/-- To read a message bytes are moved; it fails with a lasting fault, or in the protocol. -/
theorem transfers_readMessage : Transfers Failure.IsIpc readMessage :=
  .bind transfers_readHeader fun _ =>
    .bind (transfers_cutOff (transfers_readExactly _)) fun _ =>
      .bind (transfers_tell [_]) fun _ _ => .value _ (.done _)

/-- So they are to write one; that fails with a lasting fault, or because there is no frame. -/
theorem transfers_writeMessage (type : Int) (payload : Bytes) :
    Transfers (fun failure => Message.encode type payload = .error failure)
      (writeMessage type payload) := by
  have hwrite (data : Bytes) :
      Transfers (fun failure => Message.encode type payload = .error failure) (writeExactly data) :=
    (transfers_writeExactly data).mono fun _ hfalse => hfalse.elim
  refine .bind (fun e => ?_) fun _ => .bind (hwrite _) fun _ => .bind (hwrite _) fun _ =>
    transfers_tell [_]
  refine .ofExcept rfl _ e fun failure hfailure => ?_
  rw [Message.encode, hfailure]
  rfl

end Endpoint

end DwmIpc
