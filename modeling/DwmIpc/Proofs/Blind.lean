import DwmIpc.Proofs.Alike
import DwmIpc.Session

/-!
# Calls that cannot tell two sessions apart

A client sends messages, receives them and writes records; it connects and it
closes. If none of this can tell related clients apart (`Client.Indistinct`), then
no request and no read can, nor any call of a session that has nothing to do with
keeping replies back (`Session.blind_step`); and no call at all, if the setting is
the same on both sides (`Session.blind_call`). What the relation is, and what of a
trace is compared, is left open.
-/

namespace DwmIpc

open DwmIpc.Action

variable {R : Client → Client → Prop} {V : List Effect → List Effect → Prop} {α β : Type}

/-! ## Clients -/

namespace Client

/-- Nothing that a client is built from tells related clients apart. -/
structure Indistinct (R : Client → Client → Prop) (V : List Effect → List Effect → Prop) :
    Prop where
  composes : Composes V
  log : ∀ record, Blind R V (log record)
  send : ∀ type payload, Blind R V (onConnection (Connection.send type payload))
  receive : Blind R V (onConnection Connection.receive)
  connect : Blind R V connect
  close : Blind R V close

namespace Indistinct

variable (h : Indistinct R V)

include h

/-- An exchange does not see what its parts do not see. -/
theorem exchange (request : Request) : Blind R V (exchange request) := by
  refine .bind h.composes (.ofExcept h.composes _) fun payload => ?_
  exact .bind h.composes (h.send _ _) fun _ => h.receive

theorem getClient (id : Json) : Blind R V (getClient id) :=
  .bind h.composes (.ofExcept h.composes _) fun _ => h.exchange _

theorem readEvent : Blind R V readEvent := by
  refine .bind h.composes h.receive fun message => ?_
  split
  next => exact Blind.bind h.composes (h.log _) fun _ => .pure h.composes _
  next => exact Blind.bind h.composes (.pure h.composes PUnit.unit) fun _ => .pure h.composes _

end Indistinct

/-- Nor does the setting, which is the same on both sides. -/
structure Interchangeable (R : Client → Client → Prop) (V : List Effect → List Effect → Prop) :
    Prop extends Indistinct R V where
  ignoreReply : ∀ {c d}, R c d → c.ignoreReply = d.ignoreReply
  setIgnoreReply : ∀ value, Blind R V (setIgnoreReply value)

/-- Replies are kept back on both sides or on neither. -/
theorem Interchangeable.exchangeQuietly (h : Interchangeable R V) (request : Request) :
    Blind R V (exchangeQuietly request) := by
  refine .bind h.composes (h.exchange request) fun reply => ?_
  refine Alike.bind h.composes (.get h.composes) fun c d hcd => ?_
  rw [h.ignoreReply hcd]
  split
  next => exact Blind.bind h.composes (h.log _) fun _ => .pure h.composes _
  next => exact Blind.pure h.composes _

end Client

/-! ## Sessions -/

/-- A call that has nothing to do with keeping replies back. -/
def Call.Indifferent : Call → Prop
  | .setIgnoreReply _ | .runCommand .. | .subscribe _ => False
  | _ => True

namespace Session

/-- Sessions of related clients, with the same readers. -/
structure Over (R : Client → Client → Prop) (s t : Session) : Prop where
  client : R s.client t.client
  readers : s.readers = t.readers

/-- What is alike for clients is alike for sessions over them. -/
theorem alike_onClient {Q : α → β → Prop} {m : Action Effect Client α} {n : Action Effect Client β}
    (h : Alike R V Q m n) : Alike (Over R) V Q (onClient m) (onClient n) := by
  refine h.within (fun hover => hover.client) (fun hover hcd => ⟨hcd, hover.readers⟩) ?_
  intro a b hab
  rwa [List.map_id, List.map_id]

/-- Actions that are alike are answered alike if their values are. -/
theorem alike_answer (hV : Composes V) {Q : α → α → Prop} {P : Answer → Answer → Prop}
    {m : Action Effect Client α} {f : α → Answer} (h : Alike R V Q m m)
    (hanswer : ∀ a b, Q a b → P (f a) (f b)) :
    Alike (Over R) V P (do return f (← onClient m)) (do return f (← onClient m)) :=
  Alike.bind hV (alike_onClient h) fun a b hab => Alike.pure hV (hanswer a b hab)

/-- Making an answer of a value sees no more than the value does. -/
theorem blind_answer (hV : Composes V) {m : Action Effect Client α} (h : Blind R V m)
    (f : α → Answer) : Blind (Over R) V (do return f (← onClient m)) :=
  alike_answer hV h fun _ _ hab => congrArg f hab

/-- A reader sees its own events only. -/
theorem blind_nextEvent (hV : Composes V) (hread : Blind R V Client.readEvent) (index : Nat) :
    Blind (Over R) V (nextEvent index) := by
  intro s t h
  have hreaders := h.readers
  unfold nextEvent
  rw [← hreaders]
  rcases hreader : s.readers[index]? with _ | _ | _
  · exact ⟨rfl, hV.nil, h⟩
  · -- a reader that is ready reads, and is finished if that fails
    obtain ⟨hvalue, hdid, hstate⟩ := alike_onClient hread h
    rw [sameEnd_eq] at hvalue
    cases hs : (onClient Client.readEvent s).value with
    | ok message =>
      simp only [← hvalue, hs]
      exact ⟨rfl, hdid, hstate⟩
    | error failure =>
      simp only [← hvalue, hs]
      exact ⟨rfl, hdid, hstate.client, congrArg (·.set index .finished) hstate.readers⟩
  · exact ⟨rfl, hV.nil, h⟩

/-- No such call can tell sessions apart whose clients are indistinct. -/
theorem blind_step (h : Client.Indistinct R V) {call : Call} (indifferent : call.Indifferent) :
    Blind (Over R) V (step call) := by
  cases call with
  | setIgnoreReply _ | runCommand _ _ | subscribe _ => exact indifferent.elim
  | connect | enter => exact blind_answer h.composes h.connect _
  | close | leave => exact blind_answer h.composes h.close _
  | getMonitors | getTags | getLayouts => exact blind_answer h.composes (h.exchange _) _
  | getClient id => exact blind_answer h.composes (h.getClient id) _
  | readEvent => exact blind_answer h.composes h.readEvent _
  | nextEvent index =>
    exact .bind h.composes (blind_nextEvent h.composes h.readEvent index) fun _ =>
      .pure h.composes _
  | openReader =>
    intro s t hover
    refine ⟨?_, h.composes.nil, hover.client, ?_⟩
    · exact congrArg (fun readers => Answer.reader (List.length readers)) hover.readers
    · exact congrArg (· ++ [Reader.ready]) hover.readers

/-- No call at all can, if the clients are interchangeable. -/
theorem blind_call (h : Client.Interchangeable R V) (call : Call) :
    Blind (Over R) V (step call) := by
  cases call with
  | setIgnoreReply value => exact blind_answer h.composes (h.setIgnoreReply value) _
  | runCommand _ _ | subscribe _ => exact blind_answer h.composes (h.exchangeQuietly _) _
  | _ => exact blind_step h.toIndistinct trivial

end Session

end DwmIpc
