import DwmIpc.Proofs.Blind
import DwmIpc.Proofs.Calls

/-!
# Keeping replies back

Whether a client keeps replies back shows in the answers to commands and
subscriptions, and nowhere else. Two clients are `Apart` if they differ in this
setting only; apart they stay, whatever is called (`Session.apart_step`), since
the setting is looked at when the reply has been read already.

For whole runs, `Session.steps` leaves the settings out of a list of calls and
pairs each other call with the session it is made in. The main result,
`Session.suppression_is_invisible`, compares two runs of the same calls step by
step, on sockets of any kind, with settings made anywhere.
-/

namespace DwmIpc

open DwmIpc.Action

/-! ## What is compared -/

/-- The same calls on the same sockets. Records may differ. -/
def Effect.SameCalls (a b : List Effect) : Prop :=
  calls a = calls b

theorem Effect.composes_sameCalls : Composes SameCalls where
  nil := rfl
  append := by
    intro a b c d hab hcd
    rw [SameCalls, calls_append, calls_append, hab, hcd]

namespace Call

/-- Does the call set whether replies are kept back? -/
def isSetting : Call → Bool
  | .setIgnoreReply _ => true
  | _ => false

/-- In this session the request of the call is answered with the message. -/
def Receives (call : Call) (s : Session) (m : Message) : Prop :=
  ∃ request, call.request = .ok (some request) ∧ (Client.exchange request s.client).value = .ok m

/-- The answers of one call, made of a client that keeps replies back or does not, and of another
one. Only replies to commands and subscriptions may be kept back: the message that both received. -/
def SameButReply (received : Message → Prop) (quiet quiet' : Bool) : Call → Answer → Answer → Prop
  | .runCommand .., a, b | .subscribe _, a, b =>
    ∃ m, received m ∧ a = (if quiet then .nothing else .message m) ∧
      b = if quiet' then .nothing else .message m
  | _, a, b => a = b

end Call

/-! ## Clients -/

namespace Client

open Effect

/-- Clients that differ only in whether they keep replies back. -/
structure Apart (quiet quiet' : Bool) (c d : Client) : Prop where
  connection : c.connection = d.connection
  left : c.ignoreReply = quiet
  right : d.ignoreReply = quiet'

variable {quiet quiet' : Bool} {α : Type}

/-- The connection does not see whether replies are kept back. -/
theorem blind_onConnection (m : Action Effect Connection α) :
    Blind (Apart quiet quiet') SameCalls (onConnection m) := by
  intro c d h
  rw [onConnection, within, within, h.connection]
  exact ⟨sameEnd_eq.2 rfl, rfl, rfl, h.left, h.right⟩

/-- The setting does not show in what a client is built from. -/
theorem indistinct_apart : Indistinct (Apart quiet quiet') SameCalls where
  composes := composes_sameCalls
  log _ := Alike.tell rfl
  send _ _ := blind_onConnection _
  receive := blind_onConnection _
  connect := blind_onConnection _
  close := blind_onConnection _

/-- Both exchange the same messages; then each hands the reply over or keeps it back. -/
theorem alike_exchangeQuietly (request : Request) :
    Alike (Apart quiet quiet') SameCalls (fun _ _ => True) (exchangeQuietly request)
      (exchangeQuietly request) := by
  refine Alike.bind composes_sameCalls (indistinct_apart.exchange request) fun reply reply' _ => ?_
  refine Alike.bind composes_sameCalls (.get composes_sameCalls) fun c d h => ?_
  rw [h.left, h.right]
  -- what is still to be done is a record at most
  cases quiet <;> cases quiet' <;> exact fun _ _ happart => ⟨trivial, rfl, happart⟩

/-- The reply is looked at after the exchange, which leaves the setting as it was. -/
theorem value_exchangeQuietly (request : Request) (c : Client) :
    (exchangeQuietly request c).value =
      (exchange request c).value.map fun m => if c.ignoreReply then none else some m := by
  have hself : Apart c.ignoreReply c.ignoreReply c c := ⟨rfl, rfl, rfl⟩
  have hkept : (exchange request c).state.ignoreReply = c.ignoreReply :=
    (indistinct_apart.exchange request hself).2.2.left
  cases hrun : exchange request c with
  | mk value did d =>
    rw [hrun] at hkept
    cases value with
    | error failure =>
      rw [exchangeQuietly, bind_error hrun]
      rfl
    | ok m =>
      rw [exchangeQuietly, bind_ok hrun]
      show ((if d.ignoreReply then _ else _ : Action Effect Client (Option Message)) d).value = _
      rw [hkept]
      cases c.ignoreReply <;> rfl

end Client

/-! ## Sessions -/

namespace Session

open Effect (SameCalls composes_sameCalls)

/-- Sessions whose clients differ only in whether they keep replies back. -/
abbrev Apart (quiet quiet' : Bool) (s t : Session) : Prop :=
  Over (Client.Apart quiet quiet') s t

/-- A request does the same on both sides. The answers are the message that was received, unless it
is kept back. -/
theorem apart_quiet {quiet quiet' : Bool} {call : Call} {request : Request}
    (hrequest : call.request = .ok (some request)) {s t : Session} (h : Apart quiet quiet' s t) :
    let handed : Action Effect Session Answer := do
      return answerOf (← onClient (Client.exchangeQuietly request))
    SameEnd (fun a b => ∃ m, (call.Receives s m ∧ call.Receives t m) ∧
        a = (if quiet then .nothing else .message m) ∧ b = if quiet' then .nothing else .message m)
      (handed s).value (handed t).value ∧
    SameCalls (handed s).did (handed t).did ∧
    Apart quiet quiet' (handed s).state (handed t).state := by
  intro handed
  have halike : Alike (Client.Apart quiet quiet') SameCalls (fun _ _ => True)
      (Client.exchangeQuietly request) (Client.exchangeQuietly request) :=
    Client.alike_exchangeQuietly request
  obtain ⟨-, hdid, hstate⟩ := alike_answer (P := fun _ _ => True) composes_sameCalls halike
    (fun _ _ _ => trivial) h
  refine ⟨?_, hdid, hstate⟩
  have hsame := sameEnd_eq.1 (Client.indistinct_apart.exchange request h.client).1
  have hs : handed s = _ := answer_onClient (Client.exchangeQuietly request) answerOf s
  have ht : handed t = _ := answer_onClient (Client.exchangeQuietly request) answerOf t
  rw [hs, ht, Client.mapRun, Client.mapRun]
  dsimp only
  rw [Client.value_exchangeQuietly, Client.value_exchangeQuietly, ← hsame, h.client.left,
    h.client.right]
  cases hvalue : (Client.exchange request s.client).value with
  | error failure => exact rfl
  | ok m =>
    refine ⟨m, ⟨⟨request, hrequest, hvalue⟩, ⟨request, hrequest, hsame.symm.trans hvalue⟩⟩, ?_, ?_⟩
    · cases quiet <;> rfl
    · cases quiet' <;> rfl

/-- A call does the same on both sides, and the answers differ at most in the reply. -/
theorem apart_step {quiet quiet' : Bool} {call : Call} (hcall : call.isSetting = false)
    {s t : Session} (h : Apart quiet quiet' s t) :
    SameEnd (call.SameButReply (fun m => call.Receives s m ∧ call.Receives t m) quiet quiet')
      (step call s).value (step call t).value ∧
    SameCalls (step call s).did (step call t).did ∧
    Apart quiet quiet' (step call s).state (step call t).state := by
  have hblind (hindifferent : call.Indifferent) := blind_step Client.indistinct_apart hindifferent h
  cases call with
  | setIgnoreReply _ => cases hcall
  | runCommand name arguments => exact apart_quiet rfl h
  | subscribe event => exact apart_quiet rfl h
  | _ => exact hblind trivial

/-! ## Runs -/

/-- A call in the session that it is made in. -/
structure Step where
  call : Call
  session : Session

namespace Step

/-- The run of the call. -/
def run (step : Step) : Run Effect Session Answer :=
  Session.step step.call step.session

/-- Are replies kept back when the call is made? -/
def quiet (step : Step) : Bool :=
  step.session.client.ignoreReply

end Step

/-- The calls that are no settings, each in the session that it is made in. -/
def steps : List Call → Session → List Step
  | [], _ => []
  | call :: rest, s =>
    if call.isSetting then steps rest (step call s).state
    else ⟨call, s⟩ :: steps rest (step call s).state

variable {calls calls' rest : List Call} {call : Call}

/-- A setting is no step. -/
theorem steps_setting (hcall : call.isSetting = true) (s : Session) :
    steps (call :: rest) s = steps rest (step call s).state :=
  if_pos hcall

theorem steps_call (hcall : call.isSetting = false) (s : Session) :
    steps (call :: rest) s = ⟨call, s⟩ :: steps rest (step call s).state :=
  if_neg (by rw [hcall]; decide)

/-- A setting changes the setting, and nothing else. -/
theorem step_setting (hcall : call.isSetting = true) (s : Session) :
    ∃ value, step call s = ⟨.ok .nothing, [], ⟨⟨s.client.connection, value⟩, s.readers⟩⟩ := by
  cases call with
  | setIgnoreReply value => exact ⟨value, rfl⟩
  | _ => cases hcall

/-- What a run does on its sockets, its steps do. -/
theorem calls_transcript (calls : List Call) (s : Session) :
    Effect.calls ((transcript (calls.map step) s).flatMap (·.did)) =
      (steps calls s).flatMap fun made => Effect.calls made.run.did := by
  induction calls generalizing s with
  | nil => rfl
  | cons call rest ih =>
    rw [List.map_cons, transcript, List.flatMap_cons, Effect.calls_append, ih]
    cases hcall : call.isSetting with
    | false =>
      rw [steps_call hcall, List.flatMap_cons]
      rfl
    | true =>
      obtain ⟨value, hstep⟩ := step_setting hcall s
      rw [steps_setting hcall, hstep]
      rfl

/-- Settings alone are no steps. -/
theorem steps_of_filter_nil (h : calls.filter (!·.isSetting) = []) (s : Session) :
    steps calls s = [] := by
  induction calls generalizing s with
  | nil => rfl
  | cons call rest ih =>
    rw [List.filter_eq_nil_iff, List.forall_mem_cons, ← List.filter_eq_nil_iff] at h
    have hcall : call.isSetting = true := by simpa using h.1
    rw [steps_setting hcall]
    exact ih h.2 _

/-- The first call that is no setting is made with whatever the settings before it have set. -/
theorem steps_of_filter_cons (h : calls.filter (!·.isSetting) = call :: rest) (s : Session) :
    call.isSetting = false ∧ ∃ value more, more.filter (!·.isSetting) = rest ∧
      let set : Session := ⟨⟨s.client.connection, value⟩, s.readers⟩
      steps calls s = ⟨call, set⟩ :: steps more (step call set).state := by
  induction calls generalizing s with
  | nil => cases h
  | cons first more ih =>
    cases hfirst : first.isSetting with
    | false =>
      rw [List.filter_cons_of_pos (by rw [hfirst]; rfl), List.cons.injEq] at h
      obtain ⟨rfl, hmore⟩ := h
      exact ⟨hfirst, s.client.ignoreReply, more, hmore, steps_call hfirst s⟩
    | true =>
      rw [List.filter_cons_of_neg (by rw [hfirst]; decide)] at h
      obtain ⟨value, hstep⟩ := step_setting hfirst s
      rw [steps_setting hfirst, hstep]
      exact ih h _

/-- One call made twice: it makes the same calls on the sockets, leaves the same connection and the
same readers, and ends in the same way, but for a reply that may be kept back. -/
structure SameStepButReply (a b : Step) : Prop where
  call : a.call = b.call
  wire : Effect.calls a.run.did = Effect.calls b.run.did
  connection : a.run.state.client.connection = b.run.state.client.connection
  readers : a.run.state.readers = b.run.state.readers
  value : SameEnd (a.call.SameButReply
      (fun m => a.call.Receives a.session m ∧ b.call.Receives b.session m) a.quiet b.quiet)
    a.run.value b.run.value

/-- From sessions that are apart the same calls go the same way, one by one. -/
theorem forall₂_steps {made : List Call} (h : calls.filter (!·.isSetting) = made)
    (h' : calls'.filter (!·.isSetting) = made) {quiet quiet' : Bool} {s t : Session}
    (apart : Apart quiet quiet' s t) :
    List.Forall₂ SameStepButReply (steps calls s) (steps calls' t) := by
  induction made generalizing calls calls' quiet quiet' s t with
  | nil =>
    rw [steps_of_filter_nil h, steps_of_filter_nil h']
    exact .nil
  | cons call rest ih =>
    obtain ⟨hcall, value, more, hmore, hsteps⟩ := steps_of_filter_cons h s
    obtain ⟨-, value', more', hmore', hsteps'⟩ := steps_of_filter_cons h' t
    -- the settings in front of the call have changed nothing but the setting
    have hset : Apart value value' ⟨⟨s.client.connection, value⟩, s.readers⟩
        ⟨⟨t.client.connection, value'⟩, t.readers⟩ :=
      ⟨⟨apart.client.connection, rfl, rfl⟩, apart.readers⟩
    obtain ⟨hvalue, hwire, hstate⟩ := apart_step hcall hset
    rw [hsteps, hsteps']
    exact .cons ⟨rfl, hwire, hstate.client.connection, hstate.readers, hvalue⟩
      (ih hmore hmore' hstate)

/-- **Keeping replies back does not show.** Let the same calls be made twice, with replies kept back
or not from the start, and with this set anew anywhere in between. On sockets of any kind both runs
make the same calls on the sockets, step by step and as a whole; each step leaves the same
connection, with the same still to come, and fails in the same way. A step answers the same, but for
the reply to a command or a subscription, the message that both received: it is handed over just if
replies are not kept back when the step is made. -/
theorem suppression_is_invisible (path : Option Text) (es : List Endpoint) (quiet quiet' : Bool)
    {calls calls' : List Call}
    (h : calls.filter (!·.isSetting) = calls'.filter (!·.isSetting)) :
    let s := new (Client.new path es quiet)
    let t := new (Client.new path es quiet')
    List.Forall₂ SameStepButReply (steps calls s) (steps calls' t) ∧
      Effect.calls ((transcript (calls.map step) s).flatMap (·.did)) =
        Effect.calls ((transcript (calls'.map step) t).flatMap (·.did)) := by
  intro s t
  have hsteps : List.Forall₂ SameStepButReply (steps calls s) (steps calls' t) :=
    forall₂_steps h rfl ⟨⟨rfl, rfl, rfl⟩, rfl⟩
  refine ⟨hsteps, ?_⟩
  rw [calls_transcript, calls_transcript]
  generalize steps calls s = made, steps calls' t = made' at hsteps
  induction hsteps with
  | nil => rfl
  | cons hstep _ ih => rw [List.flatMap_cons, List.flatMap_cons, hstep.wire, ih]

/-- A command, a subscription and two reads, the second of which fails with the socket. One client
keeps back the reply to the command, the other one the reply to the subscription. -/
theorem replies_kept_back_before_lost_connection :
    let messages : List Message := [⟨0, [91, 93]⟩, ⟨5, []⟩, ⟨6, [123, 125]⟩]
    let bytes := messages.flatMap Message.frame
    let e : Endpoint := ⟨[.chunk (bytes.take 20), .fault (.numbered 4 []), .chunk (bytes.drop 20),
      .fault (.numbered 104 [])], [.room 5, .fault (.numbered 11 [])], none, none⟩
    let command : Call := .runCommand [.scalar 'a'] []
    let subscription : Call := .subscribe [.scalar 'b']
    let calls : List Call :=
      [command, .setIgnoreReply false, subscription, .readEvent, .readEvent]
    let calls' : List Call :=
      [.setIgnoreReply false, command, .setIgnoreReply true, subscription, .readEvent, .readEvent]
    calls.filter (!·.isSetting) = calls'.filter (!·.isSetting) ∧
      List.Forall₂ SameStepButReply (steps calls (new (Client.new none [e] true)))
        (steps calls' (new (Client.new none [e] true))) := by
  intro messages bytes e command subscription calls calls'
  have hsame : calls.filter (!·.isSetting) = calls'.filter (!·.isSetting) := rfl
  exact ⟨hsame, (suppression_is_invisible none [e] true true hsame).1⟩

end Session

end DwmIpc
