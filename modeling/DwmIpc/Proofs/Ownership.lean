import DwmIpc.Proofs.Course
import DwmIpc.Proofs.Delivery

/-!
# Who owns which socket

The dynamics of a connection: it connects the next socket when it holds none,
moves bytes over the socket that it holds, and closes that one. All that can be
asked of a connection is made of this (`ends_connect`, `ends_send`,
`ends_receive`, `ends_close`).

What a socket has seen is its `Life`: it is connected once, used, and closed once;
a socket that could not be connected is closed at once. `Owned` says that each
socket has had the life that goes with its stage, one socket after another. Moves
keep this, and so do breaks, if the system reports the faults. The main result,
`sockets_are_owned`, is about any sequence of operations on sockets that fail in
any way.
-/

namespace DwmIpc

/-! ## Faults in a script -/

/-- All faults in a script are of a kind. -/
structure Endpoint.Raises (p : Fault → Prop) (e : Endpoint) : Prop where
  receive : ∀ item ∈ e.incoming, ∀ f ∈ item.fault?, p f
  send : ∀ item ∈ e.outgoing, ∀ f ∈ item.fault?, p f
  connect : ∀ f ∈ e.connectFault, p f
  close : ∀ f ∈ e.closeFault, p f

namespace Endpoint.Raises

variable {p : Fault → Prop}

instance [DecidablePred p] (e : Endpoint) : Decidable (e.Raises p) :=
  decidable_of_iff ((∀ item ∈ e.incoming, ∀ f ∈ item.fault?, p f) ∧
      (∀ item ∈ e.outgoing, ∀ f ∈ item.fault?, p f) ∧ (∀ f ∈ e.connectFault, p f) ∧
      ∀ f ∈ e.closeFault, p f)
    ⟨fun ⟨hreceive, hsend, hconnect, hclose⟩ => ⟨hreceive, hsend, hconnect, hclose⟩,
      fun h => ⟨h.receive, h.send, h.connect, h.close⟩⟩

theorem quiet : Endpoint.quiet.Raises p where
  receive := fun _ hitem => absurd hitem List.not_mem_nil
  send := fun _ hitem => absurd hitem List.not_mem_nil
  connect := fun _ hf => nomatch hf
  close := fun _ hf => nomatch hf

/-- If all sockets raise such faults only, then so does each one, those behind the last included. -/
theorem getD {es : List Endpoint} (h : ∀ e ∈ es, e.Raises p) (i : Nat) :
    (es.getD i .quiet).Raises p := by
  rw [List.getD_eq_getElem?_getD]
  cases hget : es[i]? with
  | none => exact quiet
  | some e => exact h e (List.mem_of_getElem? hget)

end Endpoint.Raises

/-! ## The dynamics of a connection -/

namespace Connection

/-- Records; a socket that connects when none is held; transfers over the socket that is held; and
closing it, which may fail if the system reports it. -/
inductive Moves : Connection → Effect → Connection → Prop
  | record (c : Connection) (record : LogRecord) : Moves c (.log record) c
  | connect {c : Connection} :
      c.held = none → c.socket.connectFault = none →
      Moves c (.call c.current (.connect c.path))
        { c with pending := c.pending.tail, held := some c.socket }
  | transfer {c : Connection} {e : Endpoint} {call : SocketCall} :
      c.held = some e → call.isTransfer = true →
      (∀ f, e.fault? call = some f → f.isTransient = true) →
      Moves c (.call c.current call) { c with held := some (e.next call) }
  | close {c : Connection} {e : Endpoint} :
      c.held = some e → (∀ f, e.closeFault = some f → f.isSystem = true) →
      Moves c (.call c.current .close) (c.retire e)

/-- A transfer that fails for good, a socket that does not connect, and closing that fails although
the system reports nothing. -/
inductive Breaks : Connection → List Effect → Failure → Connection → Prop
  | transfer {c : Connection} {e : Endpoint} {call : SocketCall} {f : Fault} :
      c.held = some e → call.isTransfer = true → e.fault? call = some f →
      ¬f.isTransient = true →
      Breaks c [.call c.current call] (call.failure f) { c with held := some (e.next call) }
  | refuse {c : Connection} {f : Fault} :
      c.held = none → c.socket.connectFault = some f →
      Breaks c ((connectFailure c.path c.socket f).2.map (.call c.current))
        (connectFailure c.path c.socket f).1
        ({ c with pending := c.pending.tail }.retire c.socket)
  | stick {c : Connection} {e : Endpoint} {f : Fault} :
      c.held = some e → e.closeFault = some f → ¬f.isSystem = true →
      Breaks c [.call c.current .close] (.raised f) c

/-- What a connection does on its sockets. -/
def dynamics : Dynamics Connection Effect := ⟨Moves, Breaks⟩

variable {c d : Connection} {e e' : Endpoint} {P : Failure → Prop} {α : Type}

/-- Bytes that are moved over the socket that is held are moved over the connection. -/
theorem goes_onSocket {did : List Notice} (h : Endpoint.dynamics.Goes e did e')
    (hheld : c.held = some e) :
    dynamics.Goes c (did.map (Effect.onSocket c.current)) { c with held := some e' } := by
  induction h generalizing c with
  | done e =>
    rw [← hheld]
    exact .done c
  | step hmove _ ih =>
    cases hmove with
    | record record => exact .step (.record c record) (ih hheld)
    | transfer hcall hfault =>
      -- the number of the socket is still the same
      have hrest := @ih { c with held := some _ } rfl
      exact .step (.transfer hheld hcall hfault) hrest

/-- How an action on a socket ends is how it ends on the connection that holds the socket. -/
theorem ends_held {did : List Notice} {value : Except Failure α}
    (h : Endpoint.dynamics.Ends P e did value e') (hheld : c.held = some e) :
    dynamics.Ends P c (did.map (Effect.onSocket c.current)) value { c with held := some e' } := by
  cases h with
  | value x hgoes => exact .value x (goes_onSocket hgoes hheld)
  | own hgoes hown => exact .own (goes_onSocket hgoes hheld) hown
  | broken hgoes hbreak =>
    cases hbreak with
    | transfer hcall hfault lasting =>
      have hlast : Breaks { c with held := some _ } _ _ _ := .transfer rfl hcall hfault lasting
      rw [List.map_append]
      exact .broken (goes_onSocket hgoes hheld) hlast

/-- There is a socket in the end, or there was none to be had. -/
theorem acquire_cases (c : Connection) :
    (∃ did d, acquire c = ⟨.ok c.socket, did, d⟩ ∧ dynamics.Goes c did d ∧
      d.held = some c.socket) ∨
    ∃ did d failure, acquire c = ⟨.error failure, did, d⟩ ∧ Breaks c did failure d := by
  cases hheld : c.held with
  | some e =>
    have hsocket : c.socket = e := by rw [socket, hheld]; rfl
    rw [hsocket]
    exact .inl ⟨[], c, acquire_held hheld, .done c, hheld⟩
  | none =>
    have hsocket : c.socket = c.pending.headD .quiet := by rw [socket, hheld]; rfl
    cases hconnect : c.socket.connectFault with
    | none =>
      have hgoes := (Dynamics.Goes.one (D := dynamics) (.connect hheld hconnect)).append
        (.one (.record _ ⟨.debug, .connection, Text.ofString "connected to " ++ c.path⟩))
      rw [hsocket] at hconnect hgoes ⊢
      exact .inl ⟨_, _, acquire_connects hheld hconnect, hgoes, rfl⟩
    | some f =>
      have hbreak := Breaks.refuse hheld hconnect
      rw [hsocket] at hconnect hbreak
      exact .inr ⟨_, _, _, acquire_fails hheld hconnect, hbreak⟩

theorem ends_onSocket {m : Action Notice Endpoint α} (hm : Endpoint.Transfers P m)
    (c : Connection) : dynamics.EndsIn P id id (onSocket m) c := by
  rcases acquire_cases c with ⟨did, d, hrun, hgoes, hheld⟩ | ⟨did, d, failure, hrun, hbreak⟩
  · rw [Dynamics.EndsIn, onSocket_of_acquire hrun]
    exact .after hgoes (ends_held (hm c.socket) hheld)
  · have hsocket : onSocket m c = ⟨.error failure, did, d⟩ := Action.bind_error hrun
    rw [Dynamics.EndsIn, hsocket]
    exact .broken (.done c) hbreak

theorem ends_connect (c : Connection) : dynamics.EndsIn P id id connect c := by
  rcases acquire_cases c with ⟨did, d, hrun, hgoes, -⟩ | ⟨did, d, failure, hrun, hbreak⟩
  · have hconnect : connect c = ⟨.ok (), did ++ [], d⟩ := Action.bind_ok hrun
    rw [Dynamics.EndsIn, hconnect, List.append_nil]
    exact .value () hgoes
  · have hconnect : connect c = ⟨.error failure, did, d⟩ := Action.bind_error hrun
    rw [Dynamics.EndsIn, hconnect]
    exact .broken (.done c) hbreak

/-- A send ends in a way that the rules allow; a failure of its own is one to encode the message. -/
theorem ends_send (type : Int) (payload : Bytes) (c : Connection) :
    dynamics.EndsIn (fun failure => Message.encode type payload = .error failure) id id
      (send type payload) c :=
  ends_onSocket (Endpoint.transfers_writeMessage type payload) c

/-- A receive ends in a way that the rules allow; a failure of its own is one of the protocol. -/
theorem ends_receive (c : Connection) : dynamics.EndsIn Failure.IsIpc id id receive c :=
  ends_onSocket Endpoint.transfers_readMessage c

/-- None is held in the end, or closing failed for a reason that the system does not report. -/
theorem close_cases (c : Connection) :
    (∃ did d, close c = ⟨.ok (), did, d⟩ ∧ dynamics.Goes c did d ∧ d.held = none) ∨
      ∃ e f, c.held = some e ∧ e.closeFault = some f ∧ ¬f.isSystem = true ∧
        close c = ⟨.error (.raised f), [.call c.current .close], c⟩ := by
  unfold close
  cases hheld : c.held with
  | none => exact .inl ⟨[], c, rfl, .done c, hheld⟩
  | some e =>
    cases hclose : e.closeFault with
    | none =>
      have hfault : ∀ f, e.closeFault = some f → f.isSystem = true := by
        intro f hf
        rw [hclose] at hf
        cases hf
      simp only [hclose]
      exact .inl ⟨_, _, rfl, .one (.close hheld hfault), rfl⟩
    | some f =>
      simp only [hclose]
      split
      next hsystem =>
        refine .inl ⟨_, _, rfl, .one (.close hheld fun g hg => ?_), rfl⟩
        rw [hclose] at hg
        obtain rfl : f = g := Option.some.inj hg
        exact hsystem
      next hother => exact .inr ⟨e, f, rfl, hclose, hother, rfl⟩

theorem ends_close (c : Connection) : dynamics.EndsIn P id id close c := by
  unfold Dynamics.EndsIn
  rcases close_cases c with ⟨did, d, hrun, hgoes, -⟩ | ⟨e, f, hheld, hclose, hother, hrun⟩
  · rw [hrun]
    exact .value () hgoes
  · rw [hrun]
    exact .broken (.done c) (.stick hheld hclose hother)

/-- If the system reports a fault of closing, it is of no consequence: the socket is given up. -/
theorem close_of_system (system : ∀ f ∈ c.socket.closeFault, f.isSystem = true) :
    (close c).value = .ok () ∧
      (close c).state = { c with retired := c.retired ++ c.held.toList, held := none } := by
  unfold close
  cases hheld : c.held with
  | none =>
    obtain ⟨path, pending, retired, held⟩ := c
    obtain rfl : held = none := hheld
    exact ⟨rfl, congrArg (Connection.mk path pending · none) (List.append_nil _).symm⟩
  | some e =>
    rw [socket, hheld, Option.getD_some] at system
    cases hclose : e.closeFault with
    | none => simp [hclose, retire]
    | some f => simp [hclose, system f hclose, retire]

end Connection

/-! ## Lives of sockets -/

namespace Effect

/-- The calls on one socket. -/
def callsOn (socket : Nat) (effects : List Effect) : List SocketCall :=
  effects.filterMap fun
    | .call n made => if n = socket then some made else none
    | .log _ => none

theorem callsOn_append (socket : Nat) (a b : List Effect) :
    callsOn socket (a ++ b) = callsOn socket a ++ callsOn socket b :=
  List.filterMap_append

/-- Calls on a socket are not on another one. -/
theorem callsOn_map_call (socket n : Nat) (calls : List SocketCall) :
    callsOn socket (calls.map (.call n)) = if n = socket then calls else [] := by
  rw [callsOn, List.filterMap_map]
  show calls.filterMap (fun made => if n = socket then some made else none) = _
  by_cases h : n = socket
  · simp only [if_pos h, List.filterMap_some]
  · simp only [if_neg h]
    exact List.filterMap_eq_nil_iff.2 fun _ _ => rfl

theorem mem_calls {x : Nat × SocketCall} {effects : List Effect} :
    x ∈ calls effects ↔ .call x.1 x.2 ∈ effects := by
  rw [calls, List.mem_filterMap]
  constructor
  · rintro ⟨effect, hmem, heffect⟩
    cases effect with
    | log record => cases heffect
    | call n made =>
      obtain rfl := Option.some.inj heffect
      exact hmem
  · intro hmem
    exact ⟨_, hmem, rfl⟩

theorem mem_callsOn {socket : Nat} {made : SocketCall} {effects : List Effect} :
    made ∈ callsOn socket effects ↔ .call socket made ∈ effects := by
  rw [callsOn, List.mem_filterMap]
  constructor
  · rintro ⟨effect, hmem, heffect⟩
    cases effect with
    | log record => cases heffect
    | call n other =>
      dsimp only at heffect
      split at heffect
      next hn =>
        obtain rfl : other = made := Option.some.inj heffect
        rwa [hn] at hmem
      next => cases heffect
  · intro hmem
    exact ⟨_, hmem, if_pos rfl⟩

end Effect

/-- What has become of a socket. -/
inductive Stage where
  | unused
  | inUse
  | retired
  deriving DecidableEq

/-- The calls that a socket has seen, by what has become of it. -/
inductive Life (path : Text) (connectFault : Option Fault) : Stage → List SocketCall → Prop
  | unused : Life path connectFault .unused []
  | inUse {transfers : List SocketCall} :
      connectFault = none → (∀ call ∈ transfers, call.isTransfer = true) →
      Life path connectFault .inUse (.connect path :: transfers)
  | closed {transfers : List SocketCall} :
      connectFault = none → (∀ call ∈ transfers, call.isTransfer = true) →
      Life path connectFault .retired (.connect path :: (transfers ++ [.close]))
  | refused {f : Fault} :
      connectFault = some f → Life path connectFault .retired [.connect path, .close]

namespace Life

variable {path : Text} {connectFault : Option Fault} {stage : Stage} {calls : List SocketCall}

/-- A socket is in use just if it was connected with success and has not been closed. -/
theorem inUse_iff (h : Life path connectFault stage calls) :
    stage = .inUse ↔ .connect path ∈ calls ∧ connectFault = none ∧ .close ∉ calls := by
  cases h with
  | unused => simp
  | inUse hconnect htransfers =>
    refine ⟨fun _ => ⟨List.mem_cons_self .., hconnect, fun hclose => ?_⟩, fun _ => rfl⟩
    rcases List.mem_cons.1 hclose with heq | hmem
    · cases heq
    · cases htransfers _ hmem
  | closed => simp
  | refused => simp

/-- A socket that is left has been closed. -/
theorem retired_close (h : Life path connectFault .retired calls) : .close ∈ calls := by
  cases h <;> simp

/-- A socket is connected once, and before all else. -/
theorem connect_first {p : Text} {front back : List SocketCall}
    (h : Life path connectFault stage (front ++ .connect p :: back)) : front = [] ∧ p = path := by
  generalize hcalls : front ++ .connect p :: back = calls at h
  -- behind the first call there is none that connects
  have hfirst (rest : List SocketCall) (hrest : ∀ q, .connect q ∉ rest)
      (heq : front ++ .connect p :: back = .connect path :: rest) : front = [] ∧ p = path := by
    cases front with
    | nil => exact ⟨rfl, by simpa using (List.cons.inj heq).1⟩
    | cons call more =>
      have hmem : .connect p ∈ rest := by
        rw [← (List.cons.inj heq).2]
        exact List.mem_append_right _ (List.mem_cons_self ..)
      exact absurd hmem (hrest p)
  have htransfer {transfers : List SocketCall} (h : ∀ call ∈ transfers, call.isTransfer = true)
      (q : Text) : .connect q ∉ transfers := fun hmem => nomatch h _ hmem
  cases h with
  | unused => exact absurd hcalls (List.append_ne_nil_of_right_ne_nil _ (List.cons_ne_nil _ _))
  | inUse _ htransfers => exact hfirst _ (htransfer htransfers) hcalls
  | closed _ htransfers =>
    refine hfirst _ (fun q hmem => ?_) hcalls
    rcases List.mem_append.1 hmem with hmem | hmem
    · exact htransfer htransfers q hmem
    · simp at hmem
  | refused => exact hfirst _ (fun q hmem => by simp at hmem) hcalls

end Life

/-! ## The invariant -/

namespace Connection

/-- What has become of the socket with this number. -/
def stage (c : Connection) (i : Nat) : Stage :=
  if i < c.current then .retired
  else if i = c.current ∧ c.connected = true then .inUse
  else .unused

/-- How many sockets have been created. -/
def created (c : Connection) : Nat :=
  c.current + c.held.toList.length

/-- Every socket had its life so far, one after another, and the next ones are as laid out. -/
structure Owned (es : List Endpoint) (path : Text) (did : List Effect) (c : Connection) : Prop where
  path_eq : c.path = path
  pending_eq : c.pending = es.drop c.created
  scripted : ∀ e, c.held = some e →
    e.connectFault = (es.getD c.current .quiet).connectFault ∧
      e.closeFault = (es.getD c.current .quiet).closeFault
  lives : ∀ i, Life path (es.getD i .quiet).connectFault (c.stage i) (Effect.callsOn i did)
  ordered : (Effect.calls did).Pairwise fun x y => x.1 ≤ y.1

variable {c d : Connection} {e : Endpoint} {es : List Endpoint} {path : Text}
  {did before : List Effect}

theorem stage_unused {i : Nat} (hi : i = c.current) (hheld : c.held = none) :
    c.stage i = .unused := by
  simp [stage, connected, hi, hheld]

theorem stage_inUse {i : Nat} (hi : i = c.current) (hheld : c.held = some e) :
    c.stage i = .inUse := by
  simp [stage, connected, hi, hheld]

theorem stage_retired {i : Nat} (hi : i < c.current) : c.stage i = .retired :=
  if_pos hi

/-- When a socket is left, the next one takes its place. -/
theorem current_retire (c : Connection) (e : Endpoint) : (c.retire e).current = c.current + 1 := by
  simp [current, retire]

/-- Without a socket in use, those created are those left. -/
theorem created_none (hheld : c.held = none) : c.created = c.current := by
  simp [created, hheld]

/-- The socket in use is created, too. -/
theorem created_some (hheld : c.held = some e) : c.created = c.current + 1 := by
  simp [created, hheld]

/-- The next socket is the first one of those that are laid out and not yet created. -/
theorem socket_of_pending (hpending : c.pending = es.drop c.created) (hheld : c.held = none) :
    c.socket = es.getD c.current .quiet := by
  rw [socket, hheld, Option.getD_none, hpending, created_none hheld, List.headD_eq_head?_getD,
    List.head?_drop, List.getD_eq_getElem?_getD]

/-- While no socket but the current one is touched, the others stay what they are. -/
theorem stage_of_ne (h : d.current = c.current ∨ d.current = c.current + 1 ∧ d.held = none)
    {i : Nat} (hi : i ≠ c.current) : d.stage i = c.stage i := by
  unfold stage
  rcases h with hsame | ⟨hnext, hnone⟩
  · simp [hsame, hi]
  · have hless : i < c.current + 1 ↔ i < c.current := by omega
    simp [hnext, hless, hi, connected, hnone]

namespace Owned

theorem socket_eq (h : Owned es path did c) (hheld : c.held = none) :
    c.socket = es.getD c.current .quiet :=
  socket_of_pending h.pending_eq hheld

/-- Calls were made on sockets that have been created. -/
theorem le_current (h : Owned es path did c) {i : Nat} {made : SocketCall}
    (hmade : .call i made ∈ did) : i ≤ c.current := by
  refine Nat.le_of_not_lt fun hlater => ?_
  have hunused : c.stage i = .unused := by
    unfold stage
    rw [if_neg (by omega), if_neg (by omega)]
  have hlife := h.lives i
  have hmem := Effect.mem_callsOn.2 hmade
  rw [hunused] at hlife
  generalize Effect.callsOn i did = calls at hlife hmem
  cases hlife
  exact List.not_mem_nil hmem

/-- More calls on the current socket. -/
theorem extend (h : Owned es path did c) (added : List SocketCall) (hpath : d.path = c.path)
    (hcurrent : d.current = c.current ∨ d.current = c.current + 1 ∧ d.held = none)
    (hpending : d.pending = es.drop d.created)
    (hscripted : ∀ e, d.held = some e →
      e.connectFault = (es.getD d.current .quiet).connectFault ∧
        e.closeFault = (es.getD d.current .quiet).closeFault)
    {stage : Stage} (hstage : d.stage c.current = stage)
    (hlife : Life path (es.getD c.current .quiet).connectFault stage
      (Effect.callsOn c.current did ++ added)) :
    Owned es path (did ++ added.map (.call c.current)) d where
  path_eq := hpath.trans h.path_eq
  pending_eq := hpending
  scripted := hscripted
  lives := by
    intro i
    rw [Effect.callsOn_append, Effect.callsOn_map_call]
    by_cases hi : i = c.current
    · rw [hi, if_pos rfl, hstage]
      exact hlife
    · rw [if_neg (Ne.symm hi), List.append_nil, stage_of_ne hcurrent hi]
      exact h.lives i
  ordered := by
    have hadded : Effect.calls (added.map (.call c.current)) = added.map (c.current, ·) := by
      rw [Effect.calls, List.filterMap_map]
      exact congrFun List.filterMap_eq_map added
    rw [Effect.calls_append, hadded, List.pairwise_append]
    refine ⟨h.ordered, ?_, fun x hx y hy => ?_⟩
    · rw [List.pairwise_map]
      exact List.pairwise_of_forall fun _ _ => Nat.le_refl _
    · obtain ⟨made, -, rfl⟩ := List.mem_map.1 hy
      exact h.le_current (Effect.mem_calls.1 hx)

/-- The socket in use has been connected and has moved bytes, no more. -/
theorem life_held (h : Owned es path did c) (hheld : c.held = some e) :
    (es.getD c.current .quiet).connectFault = none ∧
      ∃ transfers, Effect.callsOn c.current did = .connect path :: transfers ∧
        ∀ call ∈ transfers, call.isTransfer = true := by
  have hlife := h.lives c.current
  rw [stage_inUse rfl hheld] at hlife
  generalize Effect.callsOn c.current did = calls at hlife ⊢
  cases hlife with
  | inUse hconnect htransfers => exact ⟨hconnect, _, rfl, htransfers⟩

/-- The next socket is untouched as long as none is in use. -/
theorem callsOn_current (h : Owned es path did c) (hheld : c.held = none) :
    Effect.callsOn c.current did = [] := by
  have hlife := h.lives c.current
  rw [stage_unused rfl hheld] at hlife
  generalize Effect.callsOn c.current did = calls at hlife ⊢
  cases hlife
  rfl

/-- A transfer, whatever it meets. -/
theorem transfer (h : Owned es path did c) (hheld : c.held = some e) {call : SocketCall}
    (hcall : call.isTransfer = true) :
    Owned es path (did ++ [.call c.current call]) { c with held := some (e.next call) } := by
  obtain ⟨hconnect, transfers, hcalls, htransfers⟩ := h.life_held hheld
  refine h.extend [call] rfl (.inl rfl) ?_ (fun e' he' => ?_) (stage_inUse rfl rfl) ?_
  · rw [h.pending_eq, created_some hheld, created_some rfl]
    rfl
  · obtain rfl := Option.some.inj he'
    rw [Endpoint.next_connectFault, Endpoint.next_closeFault]
    exact h.scripted e hheld
  · rw [hcalls]
    refine .inUse hconnect fun made hmade => ?_
    rcases List.mem_append.1 hmade with hmem | hmem
    · exact htransfers made hmem
    · rwa [List.mem_singleton.1 hmem]

/-- The next socket connects. -/
theorem connect (h : Owned es path did c) (hheld : c.held = none)
    (hconnect : c.socket.connectFault = none) :
    Owned es path (did ++ [.call c.current (.connect c.path)])
      { c with pending := c.pending.tail, held := some c.socket } := by
  have hsocket := h.socket_eq hheld
  refine h.extend [.connect c.path] rfl (.inl rfl) ?_ (fun e he => ?_) (stage_inUse rfl rfl) ?_
  · rw [h.pending_eq, created_none hheld, List.tail_drop, created_some rfl]
    rfl
  · obtain rfl := Option.some.inj he
    rw [hsocket]
    exact ⟨rfl, rfl⟩
  · rw [h.callsOn_current hheld, h.path_eq, ← hsocket]
    exact .inUse hconnect fun _ hmem => absurd hmem List.not_mem_nil

/-- The socket in use is closed, whether that fails or not. -/
theorem close (h : Owned es path did c) (hheld : c.held = some e) :
    Owned es path (did ++ [.call c.current .close]) (c.retire e) := by
  obtain ⟨hconnect, transfers, hcalls, htransfers⟩ := h.life_held hheld
  have hcurrent := current_retire c e
  refine h.extend [.close] rfl (.inr ⟨hcurrent, rfl⟩) ?_ (fun _ he => nomatch he)
    (stage_retired (hcurrent ▸ Nat.lt_succ_self _)) ?_
  · rw [created_none rfl, hcurrent, ← created_some hheld]
    exact h.pending_eq
  · rw [hcalls]
    exact .closed hconnect htransfers

/-- The next socket does not connect, and is closed, whether that fails or not. -/
theorem refuse (h : Owned es path did c) (hheld : c.held = none) {f : Fault}
    (hconnect : c.socket.connectFault = some f) :
    Owned es path (did ++ [.call c.current (.connect c.path), .call c.current .close])
      ({ c with pending := c.pending.tail }.retire c.socket) := by
  have hcurrent := current_retire { c with pending := c.pending.tail } c.socket
  refine h.extend [.connect c.path, .close] rfl (.inr ⟨hcurrent, rfl⟩) ?_ (fun _ he => nomatch he)
    (stage_retired (hcurrent ▸ Nat.lt_succ_self _)) ?_
  · rw [created_none rfl, hcurrent]
    show c.pending.tail = es.drop (c.current + 1)
    rw [h.pending_eq, created_none hheld, List.tail_drop]
  · rw [h.callsOn_current hheld, h.path_eq]
    exact .refused (h.socket_eq hheld ▸ hconnect)

/-! ### Moves and breaks -/

/-- One move keeps the sockets owned. -/
theorem moves (h : Owned es path did c) {effect : Effect} (hmove : Moves c effect d) :
    Owned es path (did ++ [effect]) d := by
  cases hmove with
  | record record =>
    refine ⟨h.path_eq, h.pending_eq, h.scripted, fun i => ?_, ?_⟩
    · rw [Effect.callsOn_append]
      exact (List.append_nil _).symm ▸ h.lives i
    · rw [Effect.calls_append]
      exact (List.append_nil _).symm ▸ h.ordered
  | connect hheld hconnect => exact h.connect hheld hconnect
  | transfer hheld hcall _ => exact h.transfer hheld hcall
  | close hheld _ => exact h.close hheld

/-- A break is a transfer or a refusal, unless something other than the system is at fault. -/
theorem breaks (system : ∀ e ∈ es, e.Raises fun f => f.isSystem = true)
    (h : Owned es path did c) {last : List Effect} {failure : Failure}
    (hbreak : Breaks c last failure d) : Owned es path (did ++ last) d := by
  have hsocket := Endpoint.Raises.getD system c.current
  cases hbreak with
  | transfer hheld hcall _ _ => exact h.transfer hheld hcall
  | @refuse f hheld hconnect =>
    have hsystem : f.isSystem = true := hsocket.connect f (h.socket_eq hheld ▸ hconnect)
    have hcalls : (connectFailure c.path c.socket f).2 = [.connect c.path, .close] := by
      rw [connectFailure, if_pos hsystem]
      split <;> rfl
    rw [hcalls]
    exact h.refuse hheld hconnect
  | stick hheld hclose hother =>
    rw [(h.scripted _ hheld).2] at hclose
    exact absurd (hsocket.close _ hclose) hother

/-- However an action ends, it keeps the sockets owned. -/
theorem ends (system : ∀ e ∈ es, e.Raises fun f => f.isSystem = true)
    (h : Owned es path before c) {P : Failure → Prop} {α : Type} {value : Except Failure α}
    (hends : dynamics.Ends P c did value d) : Owned es path (before ++ did) d :=
  hends.invariant (fun hc hmove => hc.moves hmove) (fun hc hbreak => hc.breaks system hbreak) h

/-- A new connection owns its sockets: none is created. -/
theorem new (es : List Endpoint) (path : Option Text) :
    Owned es (Connection.new path es).path [] (Connection.new path es) where
  path_eq := rfl
  pending_eq := rfl
  scripted := fun _ he => nomatch he
  lives := by
    intro i
    have hstage : (Connection.new path es).stage i = .unused := by
      simp [stage, Connection.new, current, connected]
    rw [hstage]
    exact .unused
  ordered := .nil

/-! ### What the invariant says -/

/-- A socket is held just if one was connected with success and has not been closed. -/
theorem connected_iff (h : Owned es path did c) :
    c.connected = true ↔ ∃ i, .call i (.connect path) ∈ did ∧
      (es.getD i .quiet).connectFault = none ∧ .call i .close ∉ did := by
  have hinUse (i : Nat) := (h.lives i).inUse_iff
  simp only [Effect.mem_callsOn] at hinUse
  constructor
  · intro hconnected
    obtain ⟨e, hheld⟩ := Option.isSome_iff_exists.1 hconnected
    exact ⟨c.current, (hinUse c.current).1 (stage_inUse rfl hheld)⟩
  · rintro ⟨i, hi⟩
    have hstage := (hinUse i).2 hi
    unfold stage at hstage
    split at hstage
    next => cases hstage
    next =>
      split at hstage
      next hcurrent => exact hcurrent.2
      next => cases hstage

/-- When a socket is created, those before it have been closed, and those behind it are unused. -/
theorem created_in_order (h : Owned es path did c) {i : Nat} {p : Text} {front back : List Effect}
    (hdid : did = front ++ .call i (.connect p) :: back) :
    p = path ∧ (∀ j < i, .call j .close ∈ front) ∧ ∀ j, i ≤ j → Effect.callsOn j front = [] := by
  have hmade : .call i (.connect p) ∈ did := by
    rw [hdid]
    exact List.mem_append_right _ (List.mem_cons_self ..)
  have hordered := h.ordered
  rw [hdid, Effect.calls_append, List.pairwise_append] at hordered
  obtain ⟨-, hback, hfront⟩ := hordered
  have hcalls : Effect.callsOn i did
      = Effect.callsOn i front ++ .connect p :: Effect.callsOn i back := by
    rw [hdid, Effect.callsOn_append]
    simp [Effect.callsOn]
  have hlife := h.lives i
  rw [hcalls] at hlife
  obtain ⟨hnone, hpath⟩ := hlife.connect_first
  refine ⟨hpath, fun j hj => ?_, fun j hj => ?_⟩
  · -- it has been closed by now, and not behind a call on a later socket
    have hretired := h.lives j
    rw [stage_retired (Nat.lt_of_lt_of_le hj (h.le_current hmade))] at hretired
    have hclose := Effect.mem_callsOn.1 hretired.retired_close
    rw [hdid] at hclose
    rcases List.mem_append.1 hclose with hmem | hmem
    · exact hmem
    · rcases List.mem_cons.1 hmem with heq | hmem
      · cases heq
      · have hle : i ≤ j := (List.pairwise_cons.1 hback).1 (j, .close) (Effect.mem_calls.2 hmem)
        omega
  · rcases Nat.eq_or_lt_of_le hj with rfl | hlater
    · exact hnone
    · refine List.eq_nil_iff_forall_not_mem.2 fun made hmem => ?_
      have hle : j ≤ i := hfront (j, made) (Effect.mem_calls.2 (Effect.mem_callsOn.1 hmem))
        (i, .connect p) (List.mem_cons_self ..)
      omega

end Owned

/-! ## Operations -/

/-- What can be asked of a connection. -/
inductive Operation where
  | connect
  | close
  | enter
  | leave
  | send (type : Int) (payload : Bytes)
  | receive

/-- Carries out an operation; only a receipt gives a message. -/
def Operation.run : Operation → Action Effect Connection (Option Message)
  | .connect | .enter => do
    Connection.connect
    return none
  | .close | .leave => do
    Connection.close
    return none
  | .send type payload => do
    Connection.send type payload
    return none
  | .receive => do return some (← Connection.receive)

/-- An operation does what a connection does, and fails in the protocol, with a fault, or because
there is no frame. -/
theorem Operation.ends (operation : Operation) (c : Connection) :
    dynamics.EndsIn (fun failure => failure.IsIpc ∨
      ∃ type payload, Message.encode type payload = .error failure) id id operation.run c := by
  cases operation with
  | connect | enter =>
    exact .bind (fun _ _ => rfl) (ends_connect c) fun _ _ => .value none (.done _)
  | close | leave =>
    exact .bind (fun _ _ => rfl) (ends_close c) fun _ _ => .value none (.done _)
  | send type payload =>
    refine .bind (fun _ _ => rfl) ((ends_send type payload c).mono fun failure hfailure => ?_)
      fun _ _ => .value none (.done _)
    exact .inr ⟨type, payload, hfailure⟩
  | receive =>
    exact .bind (fun _ _ => rfl) ((ends_receive c).mono fun _ hfailure => .inl hfailure)
      fun message _ => .value (some message) (.done _)

open DwmIpc.Action

/-- Operations keep the sockets owned, whatever comes of each. -/
theorem Owned.final (system : ∀ e ∈ es, e.Raises fun f => f.isSystem = true)
    (h : Owned es path before c) (operations : List Operation) :
    Owned es path
      (before ++ (transcript (operations.map Operation.run) c).flatMap (·.did))
      (Action.final (operations.map Operation.run) c) :=
  invariant_final (fun operation _ {_ _} howned => howned.ends system (operation.ends _)) h

/-- **Sockets are owned.** Let sockets fail in any call, but as the system reports it, and let any
operations be made on a connection. After them, and so after each of them, a socket is held just if
one was connected with success and has not been closed. Each socket has had its life: one that is
unused has seen no call; one that is in use was connected to the path of the connection, once, and
has moved bytes since; one that is retired was, and has been closed, once, or it did not connect and
was closed at once. When a socket is created, all sockets before it have been closed, and none
behind it has been touched. -/
theorem sockets_are_owned {es : List Endpoint}
    (system : ∀ e ∈ es, e.Raises fun f => f.isSystem = true) (path : Option Text)
    (operations : List Operation) :
    let start := new path es
    let c := final (operations.map Operation.run) start
    let did := (transcript (operations.map Operation.run) start).flatMap (·.did)
    (c.connected = true ↔ ∃ i, .call i (.connect start.path) ∈ did ∧
        (es.getD i .quiet).connectFault = none ∧ .call i .close ∉ did) ∧
      (∀ i, Life start.path (es.getD i .quiet).connectFault (c.stage i) (Effect.callsOn i did)) ∧
      ∀ i p before after, did = before ++ .call i (.connect p) :: after →
        (∀ j < i, .call j .close ∈ before) ∧ ∀ j, i ≤ j → Effect.callsOn j before = [] := by
  intro start c did
  have howned : Owned es start.path did c := (Owned.new es path).final system operations
  refine ⟨howned.connected_iff, howned.lives, fun i p before after hdid => ?_⟩
  exact (howned.created_in_order hdid).2

/-- A socket that neither connects nor closes, and one that breaks while it is sent to and does not
close either; then a third one is in use. -/
theorem third_socket_in_use :
    let es : List Endpoint := [⟨[], [], some (.numbered 111 []), some (.numbered 5 [])⟩,
      ⟨[], [.room 3, .fault (.numbered 11 []), .fault (.numbered 32 [])], none,
        some (.numbered 5 [])⟩]
    let operations : List Operation := [.connect, .send 0 [1], .send 0 [], .close, .enter]
    let did := (transcript (operations.map Operation.run) (new none es)).flatMap (·.did)
    (∀ e ∈ es, e.Raises fun f => f.isSystem = true) ∧
      ∃ i, .call i (.connect defaultPath) ∈ did ∧ (es.getD i .quiet).connectFault = none ∧
        .call i .close ∉ did := by
  intro es operations did
  have hsystem : ∀ e ∈ es, e.Raises fun f => f.isSystem = true := by decide
  have hconnected : (final (operations.map Operation.run) (new none es)).connected = true := by
    decide
  obtain ⟨hiff, -⟩ := sockets_are_owned hsystem none operations
  exact ⟨hsystem, hiff.1 hconnected⟩

end Connection

end DwmIpc
