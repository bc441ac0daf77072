import DwmIpc.Proofs.Trace

/-!
# Sending to a patient socket

A socket that accepts any number of bytes at a time, none included, and fails
with transient faults only is sent all that is offered (`sendAll_tolerant`): the
bytes that it accepts are the data, and it stays such a socket. A request is
therefore sent whole or, if its header cannot be made, not at all
(`writeMessage_tolerant`, `writeMessage_refused`).
-/

namespace DwmIpc

/-- No fault but transient ones is to come. -/
def Outgoing.Tolerant (outgoing : List Outgoing) : Prop :=
  ∀ f, Outgoing.fault f ∈ outgoing → f.isTransient = true

theorem Outgoing.Tolerant.nil : Tolerant [] :=
  fun _ hf => absurd hf List.not_mem_nil

theorem Outgoing.Tolerant.room {rest : List Outgoing} (count : Nat) (h : Tolerant rest) :
    Tolerant (.room count :: rest) := by
  intro f hf
  rcases List.mem_cons.1 hf with heq | hmem
  · cases heq
  · exact h f hmem

theorem Outgoing.Tolerant.retry {fault : Fault} {rest : List Outgoing}
    (transient : fault.isTransient = true) (h : Tolerant rest) :
    Tolerant (.fault fault :: rest) := by
  intro f hf
  rcases List.mem_cons.1 hf with heq | hmem
  · obtain rfl : f = fault := Outgoing.fault.inj heq
    exact transient
  · exact h f hmem

/-- What follows the first call is tolerable, too. -/
theorem Outgoing.Tolerant.tail {next : Outgoing} {rest : List Outgoing}
    (h : Tolerant (next :: rest)) : Tolerant rest :=
  fun f hf => h f (List.mem_cons_of_mem _ hf)

namespace Endpoint

open Outgoing

/-- A tolerant socket accepts the data, and nothing else. -/
theorem sendAll_tolerant {outgoing : List Outgoing} (h : Tolerant outgoing) (data : Bytes) :
    let run := sendAll data outgoing
    run.value = .ok () ∧ Notice.accepted run.did = data ∧ Notice.milestones run.did = [] ∧
      Tolerant run.state := by
  induction outgoing generalizing data with
  | nil =>
    cases data with
    | nil => exact ⟨rfl, rfl, rfl, h⟩
    | cons byte rest => exact ⟨rfl, List.append_nil _, rfl, h⟩
  | cons next rest ih =>
    unfold sendAll
    split
    next hempty =>
      rw [List.isEmpty_iff] at hempty
      subst hempty
      exact ⟨rfl, rfl, rfl, h⟩
    next =>
      cases next with
      | room count =>
        obtain ⟨hvalue, haccepted, hdid, hstate⟩ := ih h.tail (data.drop count)
        refine ⟨hvalue, ?_, hdid, hstate⟩
        show data.take count ++ Notice.accepted (sendAll (data.drop count) rest).did = data
        rw [haccepted, List.take_append_drop]
      | fault f =>
        -- a transient fault: the same data are offered again
        have transient : f.isTransient = true := h f (List.mem_cons_self ..)
        obtain ⟨hvalue, haccepted, hdid, hstate⟩ := ih h.tail data
        simp only [if_pos transient]
        exact ⟨hvalue, haccepted, hdid, hstate⟩

/-- So does writing. -/
theorem writeExactly_tolerant {e : Endpoint} (h : Tolerant e.outgoing) (data : Bytes) :
    ∃ did rest, writeExactly data e = ⟨.ok (), did, { e with outgoing := rest }⟩ ∧
      Notice.accepted did = data ∧ Tolerant rest := by
  obtain ⟨hvalue, haccepted, -, hstate⟩ := sendAll_tolerant h data
  refine ⟨(sendAll data e.outgoing).did, (sendAll data e.outgoing).state, ?_, haccepted, hstate⟩
  rw [writeExactly, hvalue]

/-- A message that can be encoded is sent as its encoding. -/
theorem writeMessage_tolerant {e : Endpoint} (h : Tolerant e.outgoing) {type : Int}
    {payload frame : Bytes} (hframe : Message.encode type payload = .ok frame) :
    ∃ did rest, writeMessage type payload e = ⟨.ok (), did, { e with outgoing := rest }⟩ ∧
      Notice.accepted did = frame ∧ Tolerant rest := by
  unfold Message.encode at hframe
  cases hheader : Header.encode type payload.length with
  | error failure => rw [hheader] at hframe; exact absurd hframe (by simp [Except.map])
  | ok header =>
    rw [hheader] at hframe
    obtain rfl : header ++ payload = frame := Except.ok.inj hframe
    obtain ⟨did, rest, hrun, haccepted, hrest⟩ := writeExactly_tolerant h header
    obtain ⟨did', rest', hrun', haccepted', hrest'⟩ :=
      writeExactly_tolerant (e := { e with outgoing := rest }) hrest payload
    have hofExcept : Action.ofExcept (Header.encode type payload.length) e
        = (⟨.ok header, [], e⟩ : Run Notice Endpoint Bytes) := by
      rw [hheader]; rfl
    refine ⟨?_, rest', ?run, ?_, hrest'⟩
    case run =>
      rw [writeMessage, Action.bind_ok hofExcept, Action.bind_ok hrun, Action.bind_ok hrun']
      rfl
    · simp [log, Action.tell, haccepted, haccepted']

/-- Of a message that cannot be encoded nothing is sent. -/
theorem writeMessage_refused {e : Endpoint} {type : Int} {payload : Bytes} {failure : Failure}
    (hframe : Message.encode type payload = .error failure) :
    writeMessage type payload e = ⟨.error failure, [], e⟩ := by
  unfold Message.encode at hframe
  cases hheader : Header.encode type payload.length with
  | ok header => rw [hheader] at hframe; exact absurd hframe (by simp [Except.map])
  | error failure' =>
    rw [hheader] at hframe
    obtain rfl : failure' = failure := Except.error.inj hframe
    rw [writeMessage]
    exact Action.bind_error (by rw [hheader]; rfl)

end Endpoint

end DwmIpc
