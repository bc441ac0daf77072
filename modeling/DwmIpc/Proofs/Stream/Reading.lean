import DwmIpc.Proofs.Stream.Framing
import DwmIpc.Proofs.Stream.NormalForm

/-!
# Reading a number of bytes

What `Endpoint.readExactly` comes to on any script at all, calls included. The views
of a script (`Incoming.flow`, `Incoming.barrier`) tell how the loop ends and what it
leaves. The calls are told by `Incoming.receiveAll`, which makes the same calls
without a loop: each asks for what is still missing, or for as much of that as one
call may ask for (`calls_receiveUpTo`). So no call asks for nothing, and none for a
byte behind the last one that is wanted.

Both are inductions on the loop itself; every round uses up an item of the script or
bytes of it, which also bounds the number of calls.
-/

namespace DwmIpc

namespace Incoming

/-- The bytes that a call gets. -/
def bytes : Incoming → Bytes
  | .chunk bytes => bytes
  | .fault _ => []

/-- What calls that ask for so much get one after another, and what they leave. -/
def receiveAll : List Nat → List Incoming → Bytes × List Incoming
  | [], incoming => ([], incoming)
  | asked :: more, incoming =>
    let (item, rest) := receive asked incoming
    let (got, left) := receiveAll more rest
    (item.bytes ++ got, left)

@[simp] theorem receiveAll_nil (incoming : List Incoming) :
    receiveAll [] incoming = ([], incoming) := rfl

theorem receiveAll_cons {asked : Nat} {incoming rest : List Incoming} {item : Incoming}
    (h : receive asked incoming = (item, rest)) (more : List Nat) :
    receiveAll (asked :: more) incoming =
      (item.bytes ++ (receiveAll more rest).1, (receiveAll more rest).2) := by
  rw [receiveAll, h]

end Incoming

namespace Endpoint

open Incoming Notice

/-! ## The calls of the loop -/

/-- The calls that a loop makes which has `got` of `expected` bytes, the value that it ends with,
and what it leaves of the script. -/
structure Calls (expected : Nat) (got : Bytes) (incoming : List Incoming) (calls : List Nat)
    (value : Except Failure Bytes) (left : List Incoming) : Prop where
  /-- Each call is made because bytes are missing, and asks for these, or for as many as it may. -/
  asks : ∀ i asked, calls[i]? = some asked →
    let there := got.length + (receiveAll (calls.take i) incoming).1.length
    there < expected ∧ asked = min (expected - there) receiveLimit
  /-- What the calls got is the value, if there is one. -/
  gives : ∀ bytes, value = .ok bytes → bytes = got ++ (receiveAll calls incoming).1
  /-- Nothing else is taken from the script. -/
  leaves : left = (receiveAll calls incoming).2
  /-- Each call but the last uses up an item, or bytes of one. -/
  few : calls.length ≤ backlog incoming + 1

variable {expected : Nat} {got : Bytes} {incoming rest left : List Incoming} {item : Incoming}
  {calls : List Nat} {value : Except Failure Bytes}

/-- Nothing is missing: no call. -/
theorem Calls.none (expected : Nat) (got : Bytes) (incoming : List Incoming) :
    Calls expected got incoming [] (.ok got) incoming where
  asks := by
    intro i asked h
    cases h
  gives := by
    intro bytes h
    rw [receiveAll_nil, List.append_nil]
    exact (Except.ok.inj h).symm
  leaves := rfl
  few := Nat.zero_le _

/-- The last call, which ends the loop with a failure. -/
theorem Calls.last {failure : Failure} (short : got.length < expected)
    (found : receive (min (expected - got.length) receiveLimit) incoming = (item, rest)) :
    Calls expected got incoming [min (expected - got.length) receiveLimit] (.error failure)
      rest where
  asks := by
    intro i asked h
    cases i with
    | zero => exact ⟨short, (Option.some.inj h).symm⟩
    | succ i => cases h
  gives := by
    intro bytes h
    cases h
  leaves := by rw [receiveAll_cons found, receiveAll_nil]
  few := Nat.succ_le_succ (Nat.zero_le _)

/-- One call in front of those that the loop makes with what it has then. -/
theorem Calls.call (short : got.length < expected)
    (found : receive (min (expected - got.length) receiveLimit) incoming = (item, rest))
    (used : backlog rest < backlog incoming)
    (h : Calls expected (got ++ item.bytes) rest calls value left) :
    Calls expected got incoming (min (expected - got.length) receiveLimit :: calls) value
      left where
  asks := by
    intro i asked hi
    cases i with
    | zero => exact ⟨short, (Option.some.inj hi).symm⟩
    | succ i =>
      -- what this call got is there for the ones behind it
      have hlater := h.asks i asked hi
      rw [List.length_append, Nat.add_assoc] at hlater
      rw [List.take_succ_cons, receiveAll_cons found, List.length_append]
      exact hlater
  gives := by
    intro bytes hvalue
    rw [receiveAll_cons found, ← List.append_assoc]
    exact h.gives bytes hvalue
  leaves := by
    rw [receiveAll_cons found]
    exact h.leaves
  few := by
    have hrest := h.few
    rw [List.length_cons]
    omega

theorem calls_receiveUpTo (expected : Nat) (got : Bytes) (incoming : List Incoming) :
    let run := receiveUpTo expected got incoming
    Calls expected got incoming (asked run.did) run.value run.state := by
  fun_induction receiveUpTo expected got incoming with
  | case1 got incoming short _ f rest found _ ih =>
    -- a transient fault brings nothing
    refine .call short found (backlog_of_receive_fault found) ?_
    rw [Incoming.bytes, List.append_nil]
    exact ih
  | case2 got incoming short _ f rest found lasting => exact .last short found
  | case3 got incoming short _ rest found => exact .last short found
  | case4 got incoming short _ bytes rest found nonempty ih =>
    exact .call short found (backlog_of_receive_chunk found nonempty) ih
  | case5 got incoming full => exact .none expected got incoming

/-! ## Reading -/

/-- **Reading on any script.** What arrives before the first obstacle is the stream; the obstacle
is an end of the stream or a fault that is not transient. If the stream is long enough, a read gives
its first `n` bytes, and the rest of it and the obstacle are still to come. If not, the read fails
at the obstacle, which is used up with what was in front of it, and nothing behind it: an end of the
stream fails in one way if nothing had arrived and in another, with the two numbers, if something
had; a fault is wrapped if the system reported it, and passed on as it is if not. Each call asks for
what is missing, up to a limit, so never for nothing and never for a byte too many, and what the
calls get is what the read gives; to read no bytes takes no call. The items and bytes of the script
bound the number of calls. -/
theorem reads_up_to_obstacle (n : Nat) (e : Endpoint) :
    let run := readExactly n e
    let stream := flow e.incoming
    let obstacle := barrier e.incoming
    let calls := asked run.did
    ((∃ front, Delivers front stream ∧ e.incoming = front ++ obstacle) ∧
      (EndOfStream obstacle ∨ ∃ f rest, f.isTransient = false ∧ obstacle = .fault f :: rest)) ∧
    (n ≤ stream.length → ∃ rest, run.value = .ok (stream.take n) ∧
      run.state = { e with incoming := rest } ∧ flow rest = stream.drop n ∧
      barrier rest = obstacle) ∧
    (stream.length < n → run.state = { e with incoming := obstacle.tail } ∧
      (EndOfStream obstacle → run.value =
        .error (if stream = [] then .closedBeforeData n else .closedMidway stream.length n)) ∧
      ∀ f rest, obstacle = .fault f :: rest →
        run.value = .error (if f.isSystem then .readFailed f else .raised f)) ∧
    (∀ i amount, calls[i]? = some amount →
      let there := (receiveAll (calls.take i) e.incoming).1.length
      amount = min (n - there) 65536 ∧ 0 < amount ∧ there + amount ≤ n) ∧
    (∀ bytes, run.value = .ok bytes → bytes = (receiveAll calls e.incoming).1) ∧
    run.state.incoming = (receiveAll calls e.incoming).2 ∧
    (n = 0 → run = ⟨.ok [], [], e⟩) ∧
    calls.length ≤ backlog e.incoming + 1 := by
  intro run stream obstacle calls
  have hcalls : Calls n [] e.incoming calls run.value run.state.incoming :=
    calls_receiveUpTo n [] e.incoming
  refine ⟨⟨exists_delivers_append_barrier e.incoming, ?_⟩, ?enough, ?short, ?asks, hcalls.gives,
    hcalls.leaves, ?_, hcalls.few⟩
  · rcases barrier_cases e.incoming with hnone | hend | ⟨f, rest, lasting, hfault⟩
    · exact .inl (.inl hnone)
    · exact .inl (.inr hend)
    · exact .inr ⟨f, rest, Bool.eq_false_iff.2 lasting, hfault⟩
  case enough =>
    intro henough
    obtain ⟨did, rest, hrun, hflow, hbarrier⟩ := readExactly_enough henough
    refine ⟨rest, ?_, ?_, hflow, hbarrier⟩
    · exact congrArg Run.value hrun
    · exact congrArg Run.state hrun
  case short =>
    intro hshort
    obtain ⟨did, hrun⟩ := readExactly_short hshort
    have hvalue : run.value = .error (stopped stream.length n obstacle) :=
      congrArg Run.value hrun
    refine ⟨congrArg Run.state hrun, fun hend => ?_, fun f rest hfault => ?_⟩
    · rw [hvalue, hend.stopped_eq, endOfStream]
      simp only [List.length_eq_zero_iff]
    · rw [hvalue, hfault]
      rfl
  case asks =>
    intro i amount hi there
    obtain ⟨hmissing, hamount⟩ := hcalls.asks i amount hi
    rw [List.length_nil, Nat.zero_add] at hmissing hamount
    have hlimit : receiveLimit = 65536 := rfl
    rw [hlimit] at hamount
    refine ⟨hamount, ?_, ?_⟩ <;> omega
  · rintro rfl
    exact readExactly_zero e

end Endpoint

end DwmIpc
