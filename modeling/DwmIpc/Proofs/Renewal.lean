import DwmIpc.Proofs.Blind
import DwmIpc.Proofs.Failures

/-!
# A session that was closed starts anew

Of the sockets that a connection had in the past, only their number matters: they
are out of use, and new ones are numbered behind them. Put any sockets behind a
connection (`Connection.behind`), and all that is asked of it goes the same way,
with each socket so many numbers further on. This commutes with every call of a
session (`Session.step_behind`), and so with any list of calls
(`Session.transcript_behind`).

What is left to show is that a session which was just closed is a new one with a
past. That its next sockets are those laid out, from the first that was not yet
created, is an invariant of all calls, whatever they meet (`Connection.Laid`).
The main result is `Session.closing_starts_anew`.
-/

namespace DwmIpc

open DwmIpc.Action

/-! ## Numbers of sockets -/

namespace Effect

/-- The same effect when there are so many sockets in front. -/
def shift (count : Nat) : Effect → Effect
  | .call socket made => .call (count + socket) made
  | .log record => .log record

/-- One trace is the other one with its sockets so many numbers further on. -/
def Shifted (count : Nat) (a b : List Effect) : Prop :=
  b = a.map (shift count)

theorem composes_shifted (count : Nat) : Composes (Shifted count) where
  nil := rfl
  append := by
    intro a b c d hab hcd
    rw [Shifted, hab, hcd, List.map_append]

theorem shift_map_call (count socket : Nat) (calls : List SocketCall) :
    (calls.map (.call socket)).map (shift count) = calls.map (.call (count + socket)) := by
  rw [List.map_map]
  rfl

/-- What happens on a socket is shifted with its number. -/
theorem shift_map_onSocket (count socket : Nat) (notices : List Notice) :
    (notices.map (onSocket socket)).map (shift count) =
      notices.map (onSocket (count + socket)) := by
  rw [List.map_map]
  refine List.map_congr_left fun notice _ => ?_
  cases notice <;> rfl

/-- Does the effect create a socket? -/
def isCreation : Effect → Bool
  | .call _ (.connect _) => true
  | _ => false

/-- How many sockets were created. -/
def creations (effects : List Effect) : Nat :=
  effects.countP isCreation

theorem creations_append (a b : List Effect) :
    creations (a ++ b) = creations a + creations b :=
  List.countP_append

theorem isCreation_of_isTransfer {call : SocketCall} (h : call.isTransfer = true) (socket : Nat) :
    isCreation (.call socket call) = false := by
  cases call with
  | connect _ | close => cases h
  | receive _ | send _ _ => rfl

end Effect

/-! ## Connections with a past -/

namespace Connection

open Effect (Shifted composes_shifted)

/-- The connection when there were other sockets before. -/
def behind (past : List Endpoint) (c : Connection) : Connection :=
  { c with retired := past ++ c.retired }

/-- One connection is the other one with a past. -/
def Behind (past : List Endpoint) (c d : Connection) : Prop :=
  d = c.behind past

variable {past : List Endpoint} {α : Type}

/-- Sockets that are already left count. -/
theorem current_behind (past : List Endpoint) (c : Connection) :
    (c.behind past).current = past.length + c.current :=
  List.length_append

/-- A socket is left behind those that were left before. -/
theorem retire_behind (past : List Endpoint) (c : Connection) (e : Endpoint) :
    (c.behind past).retire e = (c.retire e).behind past := by
  simp only [retire, behind, List.append_assoc]

/-- A new socket is the same one, with a higher number. -/
theorem blind_acquire (past : List Endpoint) :
    Blind (Behind past) (Shifted past.length) acquire := by
  rintro c _ rfl
  rw [sameEnd_eq]
  cases hheld : c.held with
  | some e =>
    have hbehind : (c.behind past).held = some e := hheld
    rw [acquire_held hheld, acquire_held hbehind]
    exact ⟨rfl, rfl, rfl⟩
  | none =>
    have hbehind : (c.behind past).held = none := hheld
    cases hconnect : (c.pending.headD .quiet).connectFault with
    | none =>
      rw [acquire_connects hheld hconnect, acquire_connects hbehind hconnect, current_behind]
      exact ⟨rfl, rfl, rfl⟩
    | some f =>
      rw [acquire_fails hheld hconnect, acquire_fails hbehind hconnect, current_behind]
      refine ⟨rfl, (Effect.shift_map_call ..).symm, ?_⟩
      exact retire_behind past { c with pending := c.pending.tail } _

/-- The socket itself knows no numbers. -/
theorem blind_onSocket (past : List Endpoint) (m : Action Notice Endpoint α) :
    Blind (Behind past) (Shifted past.length) (onSocket m) := by
  refine .bind (composes_shifted _) (blind_acquire past) fun e => ?_
  rintro c _ rfl
  refine ⟨sameEnd_eq.2 rfl, ?_, rfl⟩
  show (m e).did.map (Effect.onSocket (c.behind past).current) = _
  rw [current_behind, ← Effect.shift_map_onSocket]

/-- Connecting does not see the sockets that were left. -/
theorem blind_connect (past : List Endpoint) :
    Blind (Behind past) (Shifted past.length) connect :=
  .bind (composes_shifted _) (blind_acquire past) fun _ => .pure (composes_shifted _) _

theorem blind_close (past : List Endpoint) : Blind (Behind past) (Shifted past.length) close := by
  rintro c _ rfl
  rw [sameEnd_eq]
  have hbehind : (c.behind past).held = c.held := rfl
  unfold close
  rw [hbehind, current_behind]
  cases hheld : c.held with
  | none => exact ⟨rfl, rfl, rfl⟩
  | some e =>
    cases hclose : e.closeFault with
    | none =>
      simp only [hclose]
      exact ⟨trivial, rfl, retire_behind past c e⟩
    | some f =>
      simp only [hclose]
      split
      · exact ⟨rfl, rfl, retire_behind past c e⟩
      · exact ⟨rfl, rfl, rfl⟩

end Connection

/-! ## Sessions with a past -/

namespace Client

open Effect (Shifted composes_shifted)

/-- The client when there were other sockets before. -/
def behind (past : List Endpoint) (c : Client) : Client :=
  { c with connection := c.connection.behind past }

/-- One client is the other one with a past. -/
def Behind (past : List Endpoint) (c d : Client) : Prop :=
  d = c.behind past

/-- What a connection does not see, a client does not see. -/
theorem behind_onConnection {past : List Endpoint} {α : Type} {m : Action Effect Connection α}
    (h : Blind (Connection.Behind past) (Shifted past.length) m) :
    Blind (Behind past) (Shifted past.length) (onConnection m) := by
  refine Alike.within h ?_ ?_ ?_
  · rintro c _ rfl
    rfl
  · rintro c _ p _ rfl rfl
    rfl
  · intro a b hab
    rwa [List.map_id, List.map_id]

/-- Nothing that a client is built from depends on its past. -/
theorem interchangeable_behind (past : List Endpoint) :
    Interchangeable (Behind past) (Shifted past.length) where
  composes := composes_shifted _
  log _ := Alike.tell rfl
  send _ _ := behind_onConnection (Connection.blind_onSocket past _)
  receive := behind_onConnection (Connection.blind_onSocket past _)
  connect := behind_onConnection (Connection.blind_connect past)
  close := behind_onConnection (Connection.blind_close past)
  ignoreReply := by
    rintro c _ rfl
    rfl
  setIgnoreReply value := Alike.modify (composes_shifted _) fun h => by rw [h]; rfl

end Client

namespace Session

/-- The session when there were other sockets before. -/
def behind (past : List Endpoint) (s : Session) : Session :=
  { s with client := s.client.behind past }

/-- The run when there were other sockets before: they only shift the numbers of sockets. -/
def runBehind (past : List Endpoint) (run : Run Effect Session Answer) :
    Run Effect Session Answer :=
  ⟨run.value, run.did.map (Effect.shift past.length), run.state.behind past⟩

/-- A call does the same whatever sockets there were before. -/
theorem step_behind (past : List Endpoint) (call : Call) (s : Session) :
    step call (s.behind past) = runBehind past (step call s) := by
  have hover : Over (Client.Behind past) s (s.behind past) := ⟨rfl, rfl⟩
  obtain ⟨hvalue, hdid, hclient, hreaders⟩ :=
    blind_call (Client.interchangeable_behind past) call hover
  rw [sameEnd_eq] at hvalue
  have hstate : (step call (s.behind past)).state = (step call s).state.behind past :=
    congrArg₂ Session.mk hclient hreaders.symm
  calc step call (s.behind past)
      = ⟨(step call (s.behind past)).value, (step call (s.behind past)).did,
          (step call (s.behind past)).state⟩ := rfl
    _ = runBehind past (step call s) := by rw [← hvalue, hdid, hstate]; rfl

/-- So do any calls. -/
theorem transcript_behind (past : List Endpoint) (calls : List Call) (s : Session) :
    transcript (calls.map step) (s.behind past) =
      (transcript (calls.map step) s).map (runBehind past) := by
  induction calls generalizing s with
  | nil => rfl
  | cons call rest ih =>
    have hrest := ih (step call s).state
    simp only [List.map_cons, transcript, step_behind]
    exact congrArg _ hrest

end Session

/-! ## Sockets that are laid out -/

namespace Connection

/-- The sockets are created in the order in which they are laid out; none of them closes otherwise
than was laid out. -/
structure Laid (es : List Endpoint) (path : Text) (did : List Effect) (c : Connection) : Prop where
  path_eq : c.path = path
  created_eq : c.created = Effect.creations did
  pending_eq : c.pending = es.drop c.created
  closeFault_eq : ∀ e, c.held = some e → e.closeFault = (es.getD c.current .quiet).closeFault

variable {c d : Connection} {e : Endpoint} {es : List Endpoint} {path : Text}
  {did before : List Effect}

namespace Laid

theorem new (es : List Endpoint) (path : Option Text) :
    Laid es (Connection.new path es).path [] (Connection.new path es) :=
  ⟨rfl, rfl, rfl, fun _ he => nomatch he⟩

/-- No socket is created. -/
theorem keep (h : Laid es path did c) {last : List Effect} (hpath : d.path = c.path)
    (hcreated : d.created = c.created) (hpending : d.pending = c.pending)
    (hlast : Effect.creations last = 0)
    (hclose : ∀ e, d.held = some e → e.closeFault = (es.getD d.current .quiet).closeFault) :
    Laid es path (did ++ last) d := by
  refine ⟨hpath.trans h.path_eq, ?_, ?_, hclose⟩
  · rw [hcreated, h.created_eq, Effect.creations_append, hlast, Nat.add_zero]
  · rw [hpending, hcreated, h.pending_eq]

/-- The next socket is created. -/
theorem create (h : Laid es path did c) {last : List Effect} (hpath : d.path = c.path)
    (hcreated : d.created = c.created + 1) (hpending : d.pending = c.pending.tail)
    (hlast : Effect.creations last = 1)
    (hclose : ∀ e, d.held = some e → e.closeFault = (es.getD d.current .quiet).closeFault) :
    Laid es path (did ++ last) d := by
  refine ⟨hpath.trans h.path_eq, ?_, ?_, hclose⟩
  · rw [hcreated, h.created_eq, Effect.creations_append, hlast]
  · rw [hpending, hcreated, h.pending_eq, List.tail_drop]

/-- A transfer uses up nothing but the script of its socket. -/
theorem transfer (h : Laid es path did c) (hheld : c.held = some e) {call : SocketCall}
    (hcall : call.isTransfer = true) :
    Laid es path (did ++ [.call c.current call]) { c with held := some (e.next call) } := by
  refine h.keep rfl ?_ rfl ?_ fun e' he' => ?_
  · rw [created_some hheld, created_some rfl]
    rfl
  · rw [Effect.creations, List.countP_singleton, Effect.isCreation_of_isTransfer hcall]
    rfl
  · obtain rfl := Option.some.inj he'
    rw [Endpoint.next_closeFault]
    exact h.closeFault_eq e hheld

theorem moves (h : Laid es path did c) {effect : Effect} (hmove : Moves c effect d) :
    Laid es path (did ++ [effect]) d := by
  cases hmove with
  | record record => exact h.keep rfl rfl rfl rfl h.closeFault_eq
  | transfer hheld hcall _ => exact h.transfer hheld hcall
  | connect hheld _ =>
    refine h.create rfl ?_ rfl rfl fun e' he' => ?_
    · rw [created_none hheld, created_some rfl]
      rfl
    · obtain rfl := Option.some.inj he'
      rw [socket_of_pending h.pending_eq hheld]
      rfl
  | close hheld _ =>
    refine h.keep rfl ?_ rfl rfl fun _ he' => nomatch he'
    rw [created_some hheld, created_none rfl, current_retire]

theorem breaks (h : Laid es path did c) {last : List Effect} {failure : Failure}
    (hbreak : Breaks c last failure d) : Laid es path (did ++ last) d := by
  cases hbreak with
  | transfer hheld hcall _ _ => exact h.transfer hheld hcall
  | @refuse f hheld _ =>
    refine h.create rfl ?_ rfl ?_ fun _ he' => nomatch he'
    · rw [created_none hheld, created_none rfl, current_retire]
      rfl
    · -- it may have been closed again, but it was created once
      rw [connectFailure]
      split
      · split <;> rfl
      · rfl
  | stick hheld _ _ => exact h.keep rfl rfl rfl rfl h.closeFault_eq

/-- However an action ends, the sockets are laid out as before. -/
theorem ends (h : Laid es path before c) {P : Failure → Prop} {α : Type}
    {value : Except Failure α} (hends : dynamics.Ends P c did value d) :
    Laid es path (before ++ did) d :=
  hends.invariant (fun hc hmove => hc.moves hmove) (fun hc hbreak => hc.breaks hbreak) h

/-- The socket in use closes as it was laid out to do. -/
theorem closeFault_socket (h : Laid es path did c) :
    ∀ f ∈ c.socket.closeFault, f ∈ (es.getD c.current .quiet).closeFault := by
  intro f hf
  cases hheld : c.held with
  | some e =>
    rw [socket, hheld, Option.getD_some] at hf
    rwa [← h.closeFault_eq e hheld]
  | none => rwa [← socket_of_pending h.pending_eq hheld]

end Laid

end Connection

/-! ## Closing -/

namespace Session

variable {es : List Endpoint} {path : Text} {did : List Effect} {s : Session}

/-- Whatever is called, and whatever it meets. -/
theorem final_laid (h : Connection.Laid es path [] s.connection) (calls : List Call) :
    Connection.Laid es path ((transcript (calls.map step) s).flatMap (·.did))
      (final (calls.map step) s).connection := by
  have keeps (call : Call) (_ : call ∈ calls) {before : List Effect} {s : Session}
      (hs : Connection.Laid es path before s.connection) :
      Connection.Laid es path (before ++ (step call s).did) (step call s).state.connection :=
    hs.ends (ends_step call s)
  have hfinal := invariant_final
    (I := fun before s => Connection.Laid es path before (connection s)) keeps h
  rwa [List.nil_append] at hfinal

/-- A session that has given up its socket is a new one with a past. -/
theorem retired_eq_behind (h : Connection.Laid es path did s.connection) :
    let created := Effect.creations did
    ∃ past : List Endpoint, past.length = created ∧
      s.retired = behind past
        ⟨⟨⟨path, es.drop created, [], none⟩, s.client.ignoreReply⟩, s.readers⟩ := by
  have hlength : (s.connection.retired ++ s.connection.held.toList).length
      = Effect.creations did := by
    rw [List.length_append, ← h.created_eq]
    rfl
  refine ⟨s.connection.retired ++ s.connection.held.toList, hlength, ?_⟩
  rw [← h.created_eq, ← h.pending_eq, ← h.path_eq, retired, behind, Client.behind,
    Connection.behind, List.append_nil]

/-- **Closing starts anew.** Let sockets fail in any call, but in closing only as the system reports
it, and let any calls be made of a session. To close it succeeds. Any calls made after that go, one
by one, as they do on a new session over the sockets that were not yet created, with the same path,
the same setting and the same readers: they end alike, with the same values and failures, make the
same calls with the same bytes, and leave the same state, except that each socket stands behind
those of the past. -/
theorem closing_starts_anew {es : List Endpoint}
    (closing : ∀ e ∈ es, ∀ f ∈ e.closeFault, f.isSystem = true) (path : Option Text)
    (ignoreReply : Bool) (earlier later : List Call) :
    let start := new (Client.new path es ignoreReply)
    let left := final (earlier.map step) start
    let created := Effect.creations ((transcript (earlier.map step) start).flatMap (·.did))
    let closed := step .close left
    let fresh : Session :=
      ⟨Client.new path (es.drop created) left.client.ignoreReply, left.readers⟩
    closed.value = .ok .nothing ∧
      ∃ past : List Endpoint, past.length = created ∧
        transcript (later.map step) closed.state =
          (transcript (later.map step) fresh).map (runBehind past) := by
  intro start left created closed fresh
  have hstart : Connection.Laid es start.connection.path [] start.connection :=
    Connection.Laid.new es path
  have hlaid : Connection.Laid es start.connection.path
      ((transcript (earlier.map step) start).flatMap (·.did)) left.connection :=
    final_laid hstart earlier
  have hsystem : ∀ f ∈ left.connection.socket.closeFault, f.isSystem = true := by
    intro f hf
    have hlisted := hlaid.closeFault_socket f hf
    rw [List.getD_eq_getElem?_getD] at hlisted
    cases hget : es[left.connection.current]? with
    | none =>
      rw [hget] at hlisted
      cases hlisted
    | some e =>
      rw [hget] at hlisted
      exact closing e (List.mem_of_getElem? hget) f hlisted
  obtain ⟨hvalue, hstate⟩ := closes (.inl rfl) hsystem
  obtain ⟨past, hpast, hbehind⟩ := retired_eq_behind hlaid
  refine ⟨hvalue, past, hpast, ?_⟩
  have hfresh : closed.state = fresh.behind past := hstate.trans hbehind
  rw [hfresh, transcript_behind]

/-- After a request that broke off in the middle, the next socket delivers a message to a reader that
was opened before. -/
theorem message_after_broken_request :
    let message : Message := ⟨6, [123, 125]⟩
    let broken : Endpoint := ⟨[.chunk (message.frame.take 5)],
      [.room 3, .fault (.numbered 32 "Broken pipe")], none,
      some (.numbered 5 "Input/output error")⟩
    let next : Endpoint := ⟨[.chunk message.frame], [], none, none⟩
    let start := new (Client.new none [broken, next] false)
    let left := final ([Call.openReader, .getMonitors].map step) start
    (∀ e ∈ [broken, next], ∀ f ∈ e.closeFault, f.isSystem = true) ∧
      (step .getMonitors start).value = .error (.writeFailed (.numbered 32 "Broken pipe")) ∧
      (step (.nextEvent 0) (step .close left).state).value = .ok (.message message) := by
  intro message broken next start left
  have hclosing : ∀ e ∈ [broken, next], ∀ f ∈ e.closeFault, f.isSystem = true := by decide
  obtain ⟨-, past, -, hlater⟩ :=
    closing_starts_anew hclosing none false [.openReader, .getMonitors] [.nextEvent 0]
  refine ⟨hclosing, by decide, ?_⟩
  -- one socket was created, and the reader is as it was opened
  let fresh : Session := ⟨Client.new none [next] false, [.ready]⟩
  have hnext : step (.nextEvent 0) (step .close left).state
      = runBehind past (step (.nextEvent 0) fresh) := (List.cons.inj hlater).1
  have hdelivering : fresh.client.connection.Delivering [message] :=
    ⟨rfl, fun _ => rfl, .nil, by decide, .chunk (by decide) .done⟩
  rw [hnext, step_nextEvent rfl]
  show ((Client.readEvent fresh.client).value.map Answer.message) = _
  rw [(Client.yields_readEvent hdelivering).value]
  rfl

end Session

end DwmIpc
