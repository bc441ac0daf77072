import DwmIpc.Proofs.Blind
import DwmIpc.Proofs.Connection
import DwmIpc.Proofs.Frame
import DwmIpc.Proofs.Stream.NormalForm
import DwmIpc.Proofs.Stream.Sending

/-!
# The transport does not show

Two sockets are twins if they connect and close alike, what is to be received
from them has one normal form, and both are patient with what is sent. Twins may
cut their bytes and fail transiently in quite different places.

No operation can tell twins apart. This is shown from the bottom up: for reading
and writing bytes (`neutral_readExactly`, `neutral_writeExactly`), messages,
connections, clients, and the calls of a session (`Session.neutral_step`); what is
compared at each level is the value or failure, the bytes sent on each socket,
and the milestones of the trace. The main result, `Session.same_steps_of_twins`,
follows for any list of calls, whether they succeed or fail.
-/

namespace DwmIpc

/-! ## What is compared -/

/-- The same bytes sent, and the same milestones. -/
def Notice.SameTraffic (a b : List Notice) : Prop :=
  accepted a = accepted b ∧ milestones a = milestones b

theorem Notice.composes_sameTraffic : Composes SameTraffic where
  nil := ⟨rfl, rfl⟩
  append := by
    intro a b c d ⟨haccepted, hmilestones⟩ ⟨haccepted', hmilestones'⟩
    refine ⟨?_, ?_⟩
    · rw [accepted_append, accepted_append, haccepted, haccepted']
    · rw [milestones_append, milestones_append, hmilestones, hmilestones']

/-- The same bytes sent on each socket, and the same milestones. -/
def Effect.SameTraffic (a b : List Effect) : Prop :=
  (∀ socket, sentOn socket a = sentOn socket b) ∧ milestones a = milestones b

theorem Effect.composes_sameTraffic : Composes SameTraffic where
  nil := ⟨fun _ => rfl, rfl⟩
  append := by
    intro a b c d ⟨hsent, hmilestones⟩ ⟨hsent', hmilestones'⟩
    refine ⟨fun socket => ?_, ?_⟩
    · rw [sentOn_append, sentOn_append, hsent, hsent']
    · rw [milestones_append, milestones_append, hmilestones, hmilestones']

theorem Effect.SameTraffic.refl (a : List Effect) : SameTraffic a a :=
  ⟨fun _ => rfl, rfl⟩

/-- What agrees on a socket agrees on the connection that holds it. -/
theorem Notice.SameTraffic.onSocket {a b : List Notice} (h : SameTraffic a b) (n : Nat) :
    Effect.SameTraffic (a.map (Effect.onSocket n)) (b.map (Effect.onSocket n)) := by
  refine ⟨fun socket => ?_, ?_⟩
  · rw [Effect.sentOn_map_onSocket, Effect.sentOn_map_onSocket, h.1]
  · rw [Effect.milestones_map_onSocket, Effect.milestones_map_onSocket, h.2]

/-! ## One socket -/

/-- Sockets that differ only in how they cut bytes and where they fail transiently. -/
structure Endpoint.Twins (e f : Endpoint) : Prop where
  incoming : Incoming.normalForm e.incoming = Incoming.normalForm f.incoming
  outgoing : Outgoing.Tolerant e.outgoing ∧ Outgoing.Tolerant f.outgoing
  connectFault : e.connectFault = f.connectFault
  closeFault : e.closeFault = f.closeFault

namespace Endpoint

open DwmIpc.Action Notice

/-- An action on a socket that does the same on twins. -/
abbrev Neutral {α : Type} (m : Action Notice Endpoint α) : Prop :=
  Blind Twins SameTraffic m

theorem neutral_log (record : LogRecord) : Neutral (log record) :=
  Alike.tell ⟨rfl, rfl⟩

/-- Reading a number of bytes does not tell twins apart. -/
theorem neutral_readExactly (n : Nat) : Neutral (readExactly n) := by
  intro e f h
  obtain ⟨hvalue, hdid, hstate⟩ := receiveUpTo_congr h.incoming n []
  refine ⟨sameEnd_eq.2 hvalue, ⟨?_, hdid⟩, { h with incoming := hstate }⟩
  rw [accepted_readExactly, accepted_readExactly]

/-- Neither does writing: twins accept the same bytes in the end. -/
theorem neutral_writeExactly (data : Bytes) : Neutral (writeExactly data) := by
  intro e f h
  obtain ⟨hvalue, haccepted, hdid, hstate⟩ := sendAll_tolerant h.outgoing.1 data
  obtain ⟨hvalue', haccepted', hdid', hstate'⟩ := sendAll_tolerant h.outgoing.2 data
  refine ⟨sameEnd_eq.2 (hvalue.trans hvalue'.symm), ⟨?_, ?_⟩,
    { h with outgoing := ⟨hstate, hstate'⟩ }⟩
  · exact haccepted.trans haccepted'.symm
  · exact hdid.trans hdid'.symm

theorem neutral_readHeader : Neutral readHeader := by
  refine .bind composes_sameTraffic (neutral_readExactly _) fun bytes => ?_
  refine .bind composes_sameTraffic (Alike.tell ⟨rfl, rfl⟩) fun _ => ?_
  exact .ofExcept composes_sameTraffic _

/-- A message that is read is the same on both. -/
theorem neutral_readMessage : Neutral readMessage := by
  refine .bind composes_sameTraffic neutral_readHeader fun header => ?_
  refine .bind composes_sameTraffic (Alike.mapFailure (neutral_readExactly _)) fun payload => ?_
  refine .bind composes_sameTraffic (neutral_log _) fun _ => ?_
  exact .pure composes_sameTraffic _

/-- A message that is written is sent as the same bytes. -/
theorem neutral_writeMessage (type : Int) (payload : Bytes) :
    Neutral (writeMessage type payload) := by
  refine .bind composes_sameTraffic (.ofExcept composes_sameTraffic _) fun header => ?_
  refine .bind composes_sameTraffic (neutral_writeExactly _) fun _ => ?_
  refine .bind composes_sameTraffic (neutral_writeExactly _) fun _ => ?_
  exact neutral_log _

end Endpoint

/-- A socket with nothing to read is its own twin. -/
theorem Endpoint.twins_quiet : Twins .quiet .quiet where
  incoming := rfl
  outgoing := ⟨.nil, .nil⟩
  connectFault := rfl
  closeFault := rfl

/-! ## Connections -/

/-- Connections whose sockets, past, present and to come, are twins. -/
structure Connection.Twins (c d : Connection) : Prop where
  path : c.path = d.path
  pending : List.Forall₂ Endpoint.Twins c.pending d.pending
  retired : List.Forall₂ Endpoint.Twins c.retired d.retired
  held : Option.Rel Endpoint.Twins c.held d.held

namespace Connection

open DwmIpc.Action Effect

/-- An action on a connection that does the same on twins. -/
abbrev Neutral {α : Type} (m : Action Effect Connection α) : Prop :=
  Blind Twins SameTraffic m

variable {c d : Connection}

theorem Twins.current_eq (h : Twins c d) : c.current = d.current :=
  h.retired.length_eq

/-- Twins are without a socket together. -/
theorem Twins.held_none (h : Twins c d) (hc : c.held = none) : d.held = none := by
  have hheld := h.held
  rw [hc] at hheld
  cases hd : d.held with
  | none => rfl
  | some f =>
    rw [hd] at hheld
    cases hheld

/-- Twins hold sockets that are twins. -/
theorem Twins.held_some {e : Endpoint} (h : Twins c d) (hc : c.held = some e) :
    ∃ f, d.held = some f ∧ Endpoint.Twins e f := by
  have hheld := h.held
  rw [hc] at hheld
  cases hd : d.held with
  | none =>
    rw [hd] at hheld
    cases hheld
  | some f =>
    rw [hd] at hheld
    cases hheld with
    | some hef => exact ⟨f, rfl, hef⟩

/-- When both leave their sockets, twins remain. -/
theorem Twins.retire {e f : Endpoint} (h : Twins c d) (hef : Endpoint.Twins e f) :
    Twins (c.retire e) (d.retire f) :=
  { h with retired := List.rel_append h.retired (.cons hef .nil), held := .none }

theorem Twins.hold {e f : Endpoint} (h : Twins c d) (hef : Endpoint.Twins e f) :
    Twins { c with held := some e } { d with held := some f } :=
  { h with held := .some hef }

/-- The next sockets of twins are twins, and so is what is left. -/
theorem Twins.next (h : Twins c d) :
    Endpoint.Twins (c.pending.headD .quiet) (d.pending.headD .quiet) ∧
      Twins { c with pending := c.pending.tail } { d with pending := d.pending.tail } := by
  cases hc : c.pending with
  | nil =>
    have hd : d.pending = [] := List.forall₂_nil_left_iff.1 (hc ▸ h.pending)
    rw [hd]
    exact ⟨Endpoint.twins_quiet, { h with pending := .nil }⟩
  | cons e rest =>
    obtain ⟨f, rest', hef, hrest, hd⟩ := List.forall₂_cons_left_iff.1 (hc ▸ h.pending)
    rw [hd]
    exact ⟨hef, { h with pending := hrest }⟩

/-- Twins hand out twins when a socket is needed, or fail to connect alike. -/
theorem alike_acquire : Alike Twins SameTraffic Endpoint.Twins acquire acquire := by
  intro c d h
  cases hc : c.held with
  | some e =>
    obtain ⟨f, hd, hef⟩ := h.held_some hc
    rw [acquire_held hc, acquire_held hd]
    exact ⟨hef, composes_sameTraffic.nil, h⟩
  | none =>
    have hd : d.held = none := h.held_none hc
    obtain ⟨hnext, hopened⟩ := h.next
    have hconnect := hnext.connectFault
    cases hfault : (c.pending.headD .quiet).connectFault with
    | none =>
      -- both connect, and hold twins from now on
      have hstate := hopened.hold hnext
      rw [h.path] at hstate
      rw [acquire_connects hc hfault, acquire_connects hd (hconnect ▸ hfault), h.current_eq, h.path]
      exact ⟨hnext, .refl _, hstate⟩
    | some f =>
      -- both fail, and so does closing the socket that failed, or on neither side
      have hstate := hopened.retire hnext
      rw [h.path] at hstate
      rw [acquire_fails hc hfault, acquire_fails hd (hconnect ▸ hfault), h.current_eq, h.path]
      simp only [connectFailure, hnext.closeFault]
      exact ⟨rfl, .refl _, hstate⟩

/-- What does not tell sockets apart does not tell connections apart. -/
theorem neutral_onSocket {α : Type} {m : Action Notice Endpoint α} (hm : Endpoint.Neutral m) :
    Neutral (onSocket m) := by
  refine Alike.bind composes_sameTraffic alike_acquire fun e f hef => ?_
  intro c d h
  obtain ⟨hvalue, hdid, hstate⟩ := hm hef
  refine ⟨hvalue, ?_, h.hold hstate⟩
  show SameTraffic ((m e).did.map (Effect.onSocket c.current))
    ((m f).did.map (Effect.onSocket d.current))
  rw [h.current_eq]
  exact hdid.onSocket _

/-- Connecting is not interrupted, so that twins do the same. -/
theorem neutral_connect : Neutral connect :=
  Alike.bind composes_sameTraffic alike_acquire fun _ _ _ => .pure composes_sameTraffic rfl

theorem neutral_send (type : Int) (payload : Bytes) : Neutral (send type payload) :=
  neutral_onSocket (Endpoint.neutral_writeMessage _ _)

theorem neutral_receive : Neutral receive :=
  neutral_onSocket Endpoint.neutral_readMessage

/-- Closing is one call, which has the same outcome on both. -/
theorem neutral_close : Neutral close := by
  intro c d h
  unfold close
  cases hc : c.held with
  | none =>
    rw [h.held_none hc]
    exact ⟨rfl, composes_sameTraffic.nil, h⟩
  | some e =>
    obtain ⟨f, hd, hef⟩ := h.held_some hc
    rw [hd]
    simp only [← hef.closeFault, ← h.current_eq]
    cases e.closeFault with
    | none => exact ⟨rfl, .refl _, h.retire hef⟩
    | some g =>
      -- a fault of the system is swallowed and the socket given up; any other one gets out
      by_cases hsystem : g.isSystem = true
      · simp only [if_pos hsystem]
        exact ⟨rfl, .refl _, h.retire hef⟩
      · simp only [if_neg hsystem]
        exact ⟨rfl, .refl _, h⟩

end Connection

/-! ## Clients -/

/-- Clients of twins with one setting. -/
structure Client.Twins (c d : Client) : Prop where
  connection : Connection.Twins c.connection d.connection
  ignoreReply : c.ignoreReply = d.ignoreReply

namespace Client

open DwmIpc.Action Effect

/-- An action on a client that does the same on twins. -/
abbrev Neutral {α : Type} (m : Action Effect Client α) : Prop :=
  Blind Twins SameTraffic m

/-- What does not tell connections apart does not tell clients apart. -/
theorem neutral_onConnection {α : Type} {m : Action Effect Connection α}
    (hm : Connection.Neutral m) : Neutral (onConnection m) := by
  refine Alike.within hm (fun h => h.connection) (fun h hcd => { h with connection := hcd }) ?_
  intro a b hab
  rwa [List.map_id, List.map_id]

theorem neutral_log (record : LogRecord) : Neutral (log record) :=
  Alike.tell (.refl _)

/-- Nothing that a client is built from tells twins apart. -/
theorem interchangeable_twins : Interchangeable Twins SameTraffic where
  composes := composes_sameTraffic
  log := neutral_log
  send _ _ := neutral_onConnection (Connection.neutral_send _ _)
  receive := neutral_onConnection Connection.neutral_receive
  connect := neutral_onConnection Connection.neutral_connect
  close := neutral_onConnection Connection.neutral_close
  ignoreReply h := h.ignoreReply
  setIgnoreReply _ := Alike.modify composes_sameTraffic fun h => { h with ignoreReply := rfl }

end Client

/-! ## Sessions -/

/-- Sessions of twins with the same readers. -/
structure Session.Twins (s t : Session) : Prop where
  client : Client.Twins s.client t.client
  readers : s.readers = t.readers

namespace Session

open DwmIpc.Action Effect

/-- An action on a session that does the same on twins. -/
abbrev Neutral {α : Type} (m : Action Effect Session α) : Prop :=
  Blind Twins SameTraffic m

/-- Twins are sessions over twins. -/
theorem twins_eq_over : Twins = Over Client.Twins := by
  funext s t
  exact propext ⟨fun h => ⟨h.client, h.readers⟩, fun h => ⟨h.client, h.readers⟩⟩

/-- No call can tell twins apart. -/
theorem neutral_step (call : Call) : Neutral (step call) := by
  unfold Neutral
  rw [twins_eq_over]
  exact blind_call Client.interchangeable_twins call

/-- The sockets of a session in the order of their numbers. -/
def sockets (s : Session) : List Endpoint :=
  let c := s.client.connection
  c.retired ++ c.held.toList ++ c.pending

/-- All sockets of twins are twins, those left included. -/
theorem Twins.sockets {s t : Session} (h : Twins s t) :
    List.Forall₂ Endpoint.Twins s.sockets t.sockets := by
  have hconnection := h.client.connection
  refine List.rel_append (List.rel_append hconnection.retired ?_) hconnection.pending
  cases hs : s.client.connection.held with
  | none =>
    rw [hconnection.held_none hs]
    exact .nil
  | some e =>
    obtain ⟨f, ht, hef⟩ := hconnection.held_some hs
    rw [ht]
    exact .cons hef .nil

/-- Two runs of a call that nobody can tell apart: the same answer or failure, the same bytes on
each socket, the same milestones, and sockets left in the same way. -/
structure SameStep (run run' : Run Effect Session Answer) : Prop where
  value : run.value = run'.value
  sent : ∀ socket, sentOn socket run.did = sentOn socket run'.did
  milestones : milestones run.did = milestones run'.did
  connected : run.state.client.connection.connected = run'.state.client.connection.connected
  left : run.state.sockets.map (Incoming.normalForm ·.incoming) =
    run'.state.sockets.map (Incoming.normalForm ·.incoming)

/-- Runs with the same value and traffic that leave twins are the same step. -/
theorem Twins.sameStep {run run' : Run Effect Session Answer} (hvalue : run.value = run'.value)
    (hdid : SameTraffic run.did run'.did) (hstate : Twins run.state run'.state) :
    SameStep run run' where
  value := hvalue
  sent := hdid.1
  milestones := hdid.2
  connected := by
    have hconnection := hstate.client.connection
    unfold Connection.connected
    cases hs : run.state.client.connection.held with
    | none => rw [hconnection.held_none hs]
    | some e =>
      obtain ⟨f, ht, -⟩ := hconnection.held_some hs
      rw [ht]
      rfl
  left := by
    rw [← List.forall₂_eq_eq_eq, List.forall₂_map_left_iff, List.forall₂_map_right_iff]
    exact hstate.sockets.imp fun _ _ hef => hef.incoming

/-- **The transport does not show.** Of two lists of sockets let the corresponding ones connect and
close alike, let what they deliver differ only in cuts and transient faults, and let them accept
what is sent in any portions. Then any calls go the same way on both, one by one. -/
theorem same_steps_of_twins {es fs : List Endpoint} (h : List.Forall₂ Endpoint.Twins es fs)
    (path : Option Text) (ignoreReply : Bool) (calls : List Call) :
    List.Forall₂ SameStep
      (transcript (calls.map step) (Session.new (Client.new path es ignoreReply)))
      (transcript (calls.map step) (Session.new (Client.new path fs ignoreReply))) := by
  have hstart : Twins (Session.new (Client.new path es ignoreReply))
      (Session.new (Client.new path fs ignoreReply)) :=
    ⟨⟨⟨rfl, h, .nil, .none⟩, rfl⟩, rfl⟩
  refine (Alike.forall₂_transcript neutral_step calls hstart).imp ?_
  rintro run run' ⟨hvalue, hdid, hstate⟩
  exact Twins.sameStep (sameEnd_eq.1 hvalue) hdid hstate

/-- A reply at once, and the same reply in pieces to a request that is sent in portions. -/
theorem same_steps_of_reply_in_pieces :
    let reply := Message.frame ⟨2, [91, 93]⟩
    let e : Endpoint := ⟨[.chunk reply, .chunk []], [], none, none⟩
    let f : Endpoint := ⟨[.fault (.numbered 4 []), .chunk (reply.take 5), .fault (.numbered 11 []),
      .chunk (reply.drop 5), .chunk []], [.room 0, .room 5, .fault (.numbered 11 [])], none, none⟩
    let calls : List Call := [.getTags, .readEvent, .leave]
    List.Forall₂ Endpoint.Twins [e] [f] ∧
      List.Forall₂ SameStep (transcript (calls.map step) (new (Client.new none [e] false)))
        (transcript (calls.map step) (new (Client.new none [f] false))) := by
  intro reply e f calls
  have hpatient : Outgoing.Tolerant e.outgoing ∧ Outgoing.Tolerant f.outgoing :=
    ⟨.nil, .room 0 (.room 5 (.retry rfl .nil))⟩
  have htwins : List.Forall₂ Endpoint.Twins [e] [f] :=
    .cons ⟨by decide, hpatient, rfl, rfl⟩ .nil
  exact ⟨htwins, same_steps_of_twins htwins none false calls⟩

end Session

end DwmIpc
