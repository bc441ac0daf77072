import DwmIpc.CommandLine.Report
import DwmIpc.Proofs.Failures
import DwmIpc.Proofs.Potential
import DwmIpc.Proofs.Tasks

/-!
# How a task goes

To carry out a task is a run on a connection, as long as the texts printed are left
out of its trace (`Process.ends_perform`). It fails with faults, in the protocol, or
because it is refused (`Task.Refused`). It is never given up: a monitor has as many
rounds as there are bytes to come, and each round takes some
(`Process.ends_follow`).

A conversation connects, carries out the task, and closes the connection whatever
the task has come to (`Process.converse_connected`); if it does not connect, there
is no more to it (`Process.converse_refused`).
-/

namespace DwmIpc

/-- A failure of the protocol, or of a request that has no frame. -/
def Request.Fails (requests : List Request) (failure : Failure) : Prop :=
  failure.IsIpc ∨ ∃ request ∈ requests, request.frame = .error failure

/-- An event that was read has lowered the potential. -/
theorem Client.bytesLeft_readEvent {c : Client} {m : Message} (h : (readEvent c).value = .ok m) :
    (readEvent c).state.connection.bytesLeft < c.connection.bytesLeft := by
  obtain ⟨got, did, d, hreceive, -⟩ := Action.exists_of_bind_ok h
  have hstate : (readEvent c).state = d := by
    rw [readEvent, Action.bind_ok hreceive]
    by_cases hevent : got.type ≠ MessageType.event.toByte
    · rw [if_pos hevent]
      rfl
    · rw [if_neg hevent]
      rfl
  rw [onConnection_apply] at hreceive
  have hd : { c with connection := (Connection.receive c.connection).state } = d :=
    congrArg Run.state hreceive
  rw [hstate, ← hd]
  exact Connection.bytesLeft_receive (congrArg Run.value hreceive)

namespace CommandLine

/-! ## Views of what was done -/

namespace Report

theorem effectsOf_append (a b : List Event) : effectsOf (a ++ b) = effectsOf a ++ effectsOf b :=
  List.filterMap_append

theorem effectsOf_map_effect (effects : List Effect) :
    effectsOf (effects.map .effect) = effects := by
  induction effects with
  | nil => rfl
  | cons effect rest ih => exact congrArg (effect :: ·) ih

theorem printedBy_append (a b : List Event) : printedBy (a ++ b) = printedBy a ++ printedBy b :=
  List.flatMap_append

end Report

namespace Process

open Connection (dynamics)

variable {α β : Type} {P : Failure → Prop} {p : Process}

/-- The connection of a process. -/
def connection (p : Process) : Connection :=
  p.client.connection

/-- The action is a run on the connection, and the output that accepts everything goes on doing
so. -/
def Prints (P : Failure → Prop) (m : Act α) : Prop :=
  ∀ p : Process, p.room = none →
    dynamics.EndsIn P connection Report.effectsOf m p ∧ (m p).state.room = none

theorem Prints.pure (a : α) : Prints P (pure a : Act α) :=
  fun _ hroom => ⟨.value a (.done _), hroom⟩

theorem Prints.bind {m : Act α} {f : α → Act β} (hm : Prints P m) (hf : ∀ a, Prints P (f a)) :
    Prints P (m >>= f) := by
  intro p hroom
  obtain ⟨hends, hleft⟩ := hm p hroom
  refine ⟨.bind Report.effectsOf_append hends fun a _ => (hf a _ hleft).1, ?_⟩
  cases hrun : m p with
  | mk value did q =>
    rw [hrun] at hleft
    cases value with
    | ok a =>
      rw [Action.bind_ok hrun]
      exact (hf a q hleft).2
    | error failure =>
      rw [Action.bind_error hrun]
      exact hleft

/-- An action on the client ends as it does on its own. -/
theorem ends_onClient {m : Action Effect Client α}
    (hm : dynamics.EndsIn P Client.connection id m p.client) :
    dynamics.EndsIn P connection Report.effectsOf (onClient m) p := by
  have heffects : Report.effectsOf (onClient m p).did = (m p.client).did :=
    Report.effectsOf_map_effect _
  rw [Dynamics.EndsIn, heffects]
  exact hm

/-- The client prints nothing, and fails as its connection does. -/
theorem prints_onClient {m : Action Effect Client α}
    (hm : ∀ c, dynamics.EndsIn P Client.connection id m c) : Prints P (onClient m) :=
  fun p hroom => ⟨ends_onClient (hm p.client), hroom⟩

/-- Printing is no matter of the connection. -/
theorem prints_print (t : Text) : Prints P (print t) := by
  intro p hroom
  have hprint : print t p = ⟨.ok (), [.printed t], p⟩ := by
    unfold print
    rw [hroom]
  rw [Dynamics.EndsIn, hprint]
  exact ⟨.value () (.done _), hroom⟩

/-- A reply is printed at most. -/
theorem prints_printReply (reply : Option Message) : Prints P (printReply reply) := by
  cases reply with
  | none => exact .pure ()
  | some message => exact prints_print _

/-- A request is made, and what its reply comes to is printed. -/
theorem prints_request {request : Request} {m : Action Effect Client α} {f : α → Act Unit}
    (hm : ∀ c, dynamics.EndsIn (fun failure => failure.IsIpc ∨ request.frame = .error failure)
      Client.connection id m c)
    {requests : List Request} (hrequest : request ∈ requests)
    (hf : ∀ a, Prints (Request.Fails requests) (f a)) :
    Prints (Request.Fails requests) (onClient m >>= f) := by
  refine .bind (prints_onClient fun c => (hm c).mono fun failure h => ?_) hf
  exact h.imp id fun hframe => ⟨request, hrequest, hframe⟩

/-- Subscribing fails as its requests do. -/
theorem prints_subscribeTo (events : List Text) {requests : List Request}
    (hrequests : ∀ event ∈ events, .subscribe event ∈ requests) :
    Prints (Request.Fails requests) (subscribeTo events) := by
  induction events with
  | nil => exact .pure ()
  | cons event rest ih =>
    have hrest := ih fun e he => hrequests e (List.mem_cons_of_mem _ he)
    exact prints_request (Client.ends_exchangeQuietly (.subscribe event))
      (hrequests event (List.mem_cons_self ..)) fun reply =>
        .bind (prints_printReply reply) fun _ => hrest

/-- Waiting for an event fails in ways of the protocol. -/
theorem prints_printEvent : Prints Failure.IsIpc printEvent :=
  .bind (prints_onClient Client.ends_readEvent) fun _ => prints_printReply _

/-- An event that was printed has lowered the potential. -/
theorem bytesLeft_printEvent (hroom : p.room = none) (h : (printEvent p).value = .ok ()) :
    (printEvent p).state.connection.bytesLeft < p.connection.bytesLeft := by
  obtain ⟨m, did, q, hread, -⟩ := Action.exists_of_bind_ok h
  have hvalue : (Client.readEvent p.client).value = .ok m := congrArg Run.value hread
  have hclient : q = { p with client := (Client.readEvent p.client).state } :=
    (congrArg Run.state hread).symm
  have hprint : print (m.text ++ Text.ofString "\n") q =
      ⟨.ok (), [.printed (m.text ++ Text.ofString "\n")], q⟩ := by
    unfold print
    rw [hclient, hroom]
  have hstate : (printEvent p).state = q := by
    rw [printEvent, Action.bind_ok hread]
    exact congrArg Run.state hprint
  rw [hstate, hclient]
  exact Client.bytesLeft_readEvent hvalue

/-- A monitor stops before its rounds are used up. -/
theorem ends_follow {rounds : Nat} (hroom : p.room = none)
    (hrounds : p.connection.bytesLeft < rounds) :
    dynamics.EndsIn Failure.IsIpc connection Report.effectsOf (follow rounds) p := by
  induction rounds generalizing p with
  | zero => exact absurd hrounds (Nat.not_lt_zero _)
  | succ rounds ih =>
    obtain ⟨hends, hleft⟩ := prints_printEvent p hroom
    refine .bind Report.effectsOf_append hends fun _ hvalue => ih hleft ?_
    have hless := bytesLeft_printEvent hroom hvalue
    exact Nat.lt_of_lt_of_le hless (Nat.le_of_lt_succ hrounds)

/-- There are never more bytes to come than before. -/
theorem bytesLeft_of_ok {m : Act α} {a : α}
    (h : dynamics.EndsIn P connection Report.effectsOf m p) (hvalue : (m p).value = .ok a) :
    (m p).state.connection.bytesLeft ≤ p.connection.bytesLeft := by
  unfold Dynamics.EndsIn at h
  rw [hvalue] at h
  exact Connection.bytesLeft_goes h.goes_of_ok

/-- A task is a run on the connection. It fails with faults, in the protocol, or because it is
refused; it is never given up. -/
theorem ends_perform {rounds : Nat} {task : Task} (numeric : task.Numeric) (hroom : p.room = none)
    (hrounds : p.connection.bytesLeft < rounds) :
    dynamics.EndsIn (fun failure => failure.IsIpc ∨ task.Refused failure) connection
      Report.effectsOf (perform rounds task) p := by
  have unframed (failure : Failure) (h : Request.Fails task.requests failure) :
      failure.IsIpc ∨ task.Refused failure :=
    h.imp id fun ⟨_, hrequest, hframe⟩ => .of_frame hrequest hframe
  have printed {m : Act Unit} (hm : Prints (Request.Fails task.requests) m) :
      dynamics.EndsIn (fun failure => failure.IsIpc ∨ task.Refused failure) connection
        Report.effectsOf m p :=
    ((hm p hroom).1).mono unframed
  cases task with
  | nothing => exact .value () (.done _)
  | runCommand name arguments =>
    exact printed (prints_request (Client.ends_exchangeQuietly _) (List.mem_singleton_self _)
      prints_printReply)
  | getMonitors | getTags | getLayouts =>
    exact printed (prints_request (Client.ends_exchange _) (List.mem_singleton_self _)
      fun _ => prints_printReply _)
  | getClient window =>
    have hwindow := Task.windowId_digits numeric
    have hget : Prints (fun failure => failure.IsIpc ∨ (Task.getClient window).Refused failure)
        (onClient (Client.getClient (.str window))) := by
      refine prints_onClient fun c => (Client.ends_getClient _ c).mono fun failure h => ?_
      refine h.imp id fun hwire => ?_
      rw [Call.wire, Call.request, hwindow] at hwire
      by_cases hlength : window.length ≤ maxDigits
      · have hrequest :
            .getClient (Argument.integer window) ∈ (Task.getClient window).requests := by
          rw [Task.requests, if_pos hlength]
          exact List.mem_singleton_self _
        rw [if_pos hlength] at hwire
        exact .of_frame hrequest hwire
      · rw [if_neg hlength] at hwire
        obtain rfl := Except.error.inj hwire
        exact .tooManyDigits (Nat.lt_of_not_le hlength)
    exact ((hget.bind fun _ => prints_printReply _) p hroom).1
  | subscribe event more monitor =>
    have hsubscribe := prints_subscribeTo (event :: more) fun e he =>
      List.mem_map_of_mem (f := Request.subscribe) he
    obtain ⟨hends, hleft⟩ := hsubscribe p hroom
    refine .bind Report.effectsOf_append (hends.mono unframed) fun _ hvalue => ?_
    have hless := Nat.lt_of_le_of_lt (bytesLeft_of_ok hends hvalue) hrounds
    cases monitor with
    | true => exact (ends_follow hleft hless).mono fun _ hipc => .inl hipc
    | false => exact ((prints_printEvent _ hleft).1).mono fun _ hipc => .inl hipc

/-! ## Conversations -/

/-- What an action on the connection comes to, the process comes to. -/
theorem onClient_onConnection {α : Type} (m : Action Effect Connection α) (p : Process) :
    onClient (Client.onConnection m) p =
      ⟨(m p.connection).value, (m p.connection).did.map .effect,
        { p with client := { p.client with connection := (m p.connection).state } }⟩ := by
  unfold onClient Action.within
  rw [Client.onConnection_apply]
  rfl

/-- Without a connection there is no more to a conversation. -/
theorem converse_refused {rounds : Nat} {task : Task} {q : Process} {did : List Event}
    {failure : Failure} (hconnect : onClient Client.connect p = ⟨.error failure, did, q⟩) :
    converse rounds task p = ⟨.error failure, did, q⟩ :=
  Action.bind_error hconnect

/-- With one, the task is carried out and the connection is closed. If that fails, the task may have
come to what it will. -/
theorem converse_connected {rounds : Nat} {task : Task} {q : Process} {did : List Event}
    (hconnect : onClient Client.connect p = ⟨.ok (), did, q⟩) :
    converse rounds task p =
      ⟨match (onClient Client.close (perform rounds task q).state).value with
        | .ok () => (perform rounds task q).value
        | .error failure => .error failure,
        did ++ ((perform rounds task q).did ++
          (onClient Client.close (perform rounds task q).state).did),
        (onClient Client.close (perform rounds task q).state).state⟩ := by
  have hperform : (perform rounds task).attempt q =
      ⟨.ok (perform rounds task q).value, (perform rounds task q).did,
        (perform rounds task q).state⟩ := rfl
  rw [converse, Action.bind_ok hconnect, Action.bind_ok hperform]
  cases hclose : onClient Client.close (perform rounds task q).state with
  | mk value closing r =>
    cases value with
    | ok _ =>
      rw [Action.bind_ok hclose]
      show Run.mk _ (did ++ (_ ++ (closing ++ []))) r = _
      rw [List.append_nil]
      rfl
    | error failure => rw [Action.bind_error hclose]

end Process

/-! ## Invocations -/

namespace Report

/-- The conversation that an invocation leads to, with room for all that is printed. -/
def conversation (settings : Settings) (invocation : Invocation) (endpoints : List Endpoint) :
    Run Event Process Unit :=
  Process.converse (roundsFor endpoints) invocation.task
    ⟨clientOf settings invocation endpoints, none⟩

/-- What is reported is how the conversation went. -/
theorem ofInvocation_eq (settings : Settings) (early : Text) (invocation : Invocation)
    (endpoints : List Endpoint) :
    let run := conversation settings invocation endpoints
    let least := if invocation.verbose then Level.debug else settings.level
    let connection := run.state.client.connection
    ofInvocation settings early invocation endpoints none =
      ⟨(endingOf run.value).1, printedBy run.did,
        early ++ recordLines least (recordsOf (effectsOf run.did) ++ (endingOf run.value).2),
        effectsOf run.did, connection.retired ++ connection.held.toList⟩ := rfl

/-- A command line that is accepted is carried out under the settings that were loaded. -/
theorem eq_of_loaded {env : Environment} {find : Path → Found} {endpoints : List Endpoint}
    {room : Option Nat} {words : List Text} {invocation : Invocation} {path : Path}
    {settings : Settings} (hparse : Invocation.parse words = .ok invocation)
    (hpath : invocation.configPath env = .ok path)
    (hload : (Settings.load env path (find path)).outcome = .ok settings) :
    report env find endpoints room words =
      ofInvocation settings (earlyLines (Settings.load env path (find path)).records) invocation
        endpoints room := by
  unfold report
  rw [hparse]
  dsimp only
  rw [hpath]
  dsimp only
  unfold ofLoaded
  rw [hload]

end Report

end CommandLine

end DwmIpc
