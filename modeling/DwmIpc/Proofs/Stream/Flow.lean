import DwmIpc.Proofs.Trace

/-!
# What a script lets through

A script of coming receptions cuts its bytes anywhere and puts transient faults
between them. Two views forget the cuts: `flow` is the bytes that arrive before
the first obstacle, and `barrier` is that obstacle (an end of the stream, or a
fault that is not transient) with everything behind it.

The read loop sees a script through these views only:

* `receiveUpTo_enough`: if the flow holds what is missing, the loop takes it off
  the flow and leaves the barrier where it is;
* `receiveUpTo_short`: if not, the loop fails as the barrier says, and what is
  left is what stands behind the barrier.

`Delivers` is the plain case of a byte string in non-empty chunks.
-/

namespace DwmIpc

/-! ## The views -/

namespace Incoming

/-- The bytes that arrive before the first obstacle. -/
def flow : List Incoming → Bytes
  | [] => []
  | .fault f :: rest => if f.isTransient then flow rest else []
  | .chunk bytes :: rest => if bytes = [] then [] else bytes ++ flow rest

/-- The first obstacle and all behind it; nothing if the script has none. -/
def barrier : List Incoming → List Incoming
  | [] => []
  | .fault f :: rest => if f.isTransient then barrier rest else .fault f :: rest
  | .chunk bytes :: rest => if bytes = [] then .chunk bytes :: rest else barrier rest

/-- One call finds the obstacle itself, or gets a part of the flow and leaves the barrier alone. -/
theorem receive_chunk_nonempty {asked : Nat} {incoming rest : List Incoming} {bytes : Bytes}
    (h : receive asked incoming = (.chunk bytes, rest)) (nonempty : bytes ≠ []) :
    bytes.length ≤ asked ∧ flow incoming = bytes ++ flow rest ∧
      barrier incoming = barrier rest := by
  match incoming with
  | [] =>
    simp only [receive, Prod.mk.injEq, chunk.injEq] at h
    exact absurd h.1.symm nonempty
  | .fault f :: more => simp [receive] at h
  | .chunk whole :: more =>
    rw [receive_chunk] at h
    split at h
    next short =>
      -- the whole chunk is handed out
      simp only [Prod.mk.injEq, chunk.injEq] at h
      obtain ⟨rfl, rfl⟩ := h
      exact ⟨short, by simp [flow, nonempty], by simp [barrier, nonempty]⟩
    next long =>
      -- the chunk is split, and its rest goes back to the front
      simp only [Prod.mk.injEq, chunk.injEq] at h
      obtain ⟨rfl, rfl⟩ := h
      have hwhole : whole ≠ [] := by rintro rfl; simp at long
      have hdrop : whole.drop asked ≠ [] := by rw [ne_eq, List.drop_eq_nil_iff]; exact long
      refine ⟨by rw [List.length_take]; exact Nat.min_le_left .., ?_, ?_⟩
      · rw [flow, if_neg hwhole, flow, if_neg hdrop, ← List.append_assoc, List.take_append_drop]
      · rw [barrier, if_neg hwhole, barrier, if_neg hdrop]

/-- A call that gets no bytes has met an end of the stream. -/
theorem receive_chunk_empty {asked : Nat} {incoming rest : List Incoming} (positive : 0 < asked)
    (h : receive asked incoming = (.chunk [], rest)) :
    flow incoming = [] ∧ rest = (barrier incoming).tail ∧
      (barrier incoming = [] ∨ barrier incoming = .chunk [] :: rest) := by
  match incoming with
  | [] =>
    simp only [receive, Prod.mk.injEq, true_and] at h
    subst h
    exact ⟨rfl, rfl, Or.inl rfl⟩
  | .fault f :: more => simp [receive] at h
  | .chunk whole :: more =>
    rw [receive_chunk] at h
    split at h
    next =>
      simp only [Prod.mk.injEq, chunk.injEq] at h
      obtain ⟨rfl, rfl⟩ := h
      exact ⟨rfl, rfl, Or.inr rfl⟩
    next long =>
      -- a piece of a chunk that is too long is not empty
      simp only [Prod.mk.injEq, chunk.injEq, List.take_eq_nil_iff] at h
      rcases h.1 with hzero | rfl
      · omega
      · simp at long

/-- A transient fault stands in front of the same flow and the same barrier. -/
theorem receive_fault_transient {asked : Nat} {incoming rest : List Incoming} {f : Fault}
    (h : receive asked incoming = (.fault f, rest)) (transient : f.isTransient = true) :
    flow incoming = flow rest ∧ barrier incoming = barrier rest := by
  match incoming with
  | [] => simp [receive] at h
  | .fault g :: more =>
    simp only [receive, Prod.mk.injEq, fault.injEq] at h
    obtain ⟨rfl, rfl⟩ := h
    exact ⟨by simp [flow, transient], by simp [barrier, transient]⟩
  | .chunk whole :: more =>
    rw [receive_chunk] at h
    split at h <;> simp at h

/-- Any other fault is the barrier. -/
theorem receive_fault_lasting {asked : Nat} {incoming rest : List Incoming} {f : Fault}
    (h : receive asked incoming = (.fault f, rest)) (lasting : ¬f.isTransient = true) :
    flow incoming = [] ∧ barrier incoming = .fault f :: rest := by
  match incoming with
  | [] => simp [receive] at h
  | .fault g :: more =>
    simp only [receive, Prod.mk.injEq, fault.injEq] at h
    obtain ⟨rfl, rfl⟩ := h
    exact ⟨by rw [flow, if_neg lasting], by rw [barrier, if_neg lasting]⟩
  | .chunk whole :: more =>
    rw [receive_chunk] at h
    split at h <;> simp at h

/-! ## Plain deliveries -/

/-- A byte string in non-empty chunks, cut anywhere, with transient faults in between. -/
inductive Delivers : List Incoming → Bytes → Prop
  | done : Delivers [] []
  | retry {f : Fault} {rest : List Incoming} {bytes : Bytes} :
      f.isTransient = true → Delivers rest bytes → Delivers (.fault f :: rest) bytes
  | chunk {bytes more : Bytes} {rest : List Incoming} :
      bytes ≠ [] → Delivers rest more → Delivers (.chunk bytes :: rest) (bytes ++ more)

/-- A byte string cut in two, with a transient fault at the cut. -/
theorem Delivers.in_two {bytes : Bytes} {n : Nat} {f : Fault} (front : bytes.take n ≠ [])
    (back : bytes.drop n ≠ []) (transient : f.isTransient = true) :
    Delivers [.chunk (bytes.take n), .fault f, .chunk (bytes.drop n)] bytes := by
  have hdelivers : Delivers [.chunk (bytes.take n), .fault f, .chunk (bytes.drop n)]
      (bytes.take n ++ (bytes.drop n ++ [])) :=
    .chunk front (.retry transient (.chunk back .done))
  rwa [List.append_nil, List.take_append_drop] at hdelivers

/-- A delivery flows through, and the next obstacle is in what follows it. -/
theorem Delivers.views_append {script : List Incoming} {bytes : Bytes} (h : Delivers script bytes)
    (ending : List Incoming) :
    flow (script ++ ending) = bytes ++ flow ending ∧
      barrier (script ++ ending) = barrier ending := by
  induction h with
  | done => exact ⟨rfl, rfl⟩
  | retry transient _ ih =>
    rw [List.cons_append, flow, if_pos transient, barrier, if_pos transient]
    exact ih
  | chunk nonempty _ ih =>
    rw [List.cons_append, flow, if_neg nonempty, barrier, if_neg nonempty, ih.1, List.append_assoc]
    exact ⟨rfl, ih.2⟩

theorem Delivers.flow_eq {script : List Incoming} {bytes : Bytes} (h : Delivers script bytes) :
    flow script = bytes := by
  have := (h.views_append []).1
  rwa [List.append_nil, flow, List.append_nil] at this

theorem Delivers.barrier_eq {script : List Incoming} {bytes : Bytes} (h : Delivers script bytes) :
    barrier script = [] := by
  have := (h.views_append []).2
  rwa [List.append_nil] at this

/-- Every script is a delivery of its flow, and then its barrier. -/
theorem exists_delivers_append_barrier (script : List Incoming) :
    ∃ front, Delivers front (flow script) ∧ script = front ++ barrier script := by
  induction script with
  | nil => exact ⟨[], .done, rfl⟩
  | cons item rest ih =>
    obtain ⟨front, hfront, hrest⟩ := ih
    match item with
    | .fault f =>
      by_cases transient : f.isTransient = true
      · rw [flow, if_pos transient, barrier, if_pos transient]
        exact ⟨.fault f :: front, .retry transient hfront, congrArg (.fault f :: ·) hrest⟩
      · rw [flow, if_neg transient, barrier, if_neg transient]
        exact ⟨[], .done, rfl⟩
    | .chunk bytes =>
      by_cases hempty : bytes = []
      · rw [flow, if_pos hempty, barrier, if_pos hempty]
        exact ⟨[], .done, rfl⟩
      · rw [flow, if_neg hempty, barrier, if_neg hempty]
        exact ⟨.chunk bytes :: front, .chunk hempty hfront, congrArg (.chunk bytes :: ·) hrest⟩

/-- A script without an obstacle is a delivery of its flow. -/
theorem delivers_of_barrier {script : List Incoming} (h : barrier script = []) :
    Delivers script (flow script) := by
  obtain ⟨front, hfront, hscript⟩ := exists_delivers_append_barrier script
  rw [h, List.append_nil] at hscript
  rwa [← hscript] at hfront

end Incoming

/-! ## The read loop -/

namespace Endpoint

open Incoming

/-- How a barrier ends a read that has `got` of `expected` bytes. -/
def stopped (got expected : Nat) : List Incoming → Failure
  | .fault f :: _ => failureOf .readFailed f
  | _ => endOfStream got expected

/-- What a barrier lists when it ends a read: an unexpected end of the stream is logged. -/
def stoppedMilestones (got expected : Nat) : List Incoming → List Notice
  | .fault _ :: _ => []
  | _ => [.log (endOfStreamRecord got expected)]

/-- If the flow holds all that is missing, that much is taken off the flow. -/
theorem receiveUpTo_enough {expected : Nat} {got : Bytes} {incoming : List Incoming}
    (enough : expected ≤ got.length + (flow incoming).length) :
    let run := receiveUpTo expected got incoming
    run.value = .ok (got ++ (flow incoming).take (expected - got.length)) ∧
      flow run.state = (flow incoming).drop (expected - got.length) ∧
      barrier run.state = barrier incoming ∧ Notice.milestones run.did = [] := by
  fun_induction receiveUpTo expected got incoming with
  | case1 got incoming _ _ f rest found transient ih =>
    -- a transient fault: the views are the same behind it
    obtain ⟨hflow, hbarrier⟩ := receive_fault_transient found transient
    rw [hflow, hbarrier]
    exact ih (hflow ▸ enough)
  | case2 got incoming short _ f rest found lasting =>
    -- an obstacle comes only when the flow is used up, but something is missing still
    rw [(receive_fault_lasting found lasting).1] at enough
    simp only [List.length_nil] at enough
    omega
  | case3 got incoming short asked rest found =>
    have positive : 0 < asked := Nat.lt_min.2 ⟨by omega, by decide⟩
    rw [(receive_chunk_empty positive found).1] at enough
    simp only [List.length_nil] at enough
    omega
  | case4 got incoming short asked bytes rest found nonempty ih =>
    -- some bytes: they move from the flow to what was got, and as many less are missing
    obtain ⟨hlength, hflow, hbarrier⟩ := receive_chunk_nonempty found nonempty
    have hasked : asked ≤ expected - got.length := Nat.min_le_left ..
    rw [hflow] at enough
    simp only [List.length_append] at enough ih
    obtain ⟨hvalue, hleft, hbehind, hdid⟩ := ih (by omega)
    have hmissing :
        expected - (got.length + bytes.length) = expected - got.length - bytes.length := by
      omega
    have hshort : bytes.length ≤ expected - got.length := Nat.le_trans hlength hasked
    rw [hmissing] at hvalue hleft
    refine ⟨?_, ?_, hbehind.trans hbarrier.symm, hdid⟩
    · rw [hflow, List.take_append, List.take_of_length_le hshort, ← List.append_assoc]
      exact hvalue
    · rw [hflow, List.drop_append, List.drop_of_length_le hshort, List.nil_append]
      exact hleft
  | case5 got incoming full =>
    have hnone : expected - got.length = 0 := by omega
    simp [hnone, Notice.milestones]

/-- If not, the barrier ends the read, and what stands behind the barrier is left. -/
theorem receiveUpTo_short {expected : Nat} {got : Bytes} {incoming : List Incoming}
    (short : got.length + (flow incoming).length < expected) :
    let run := receiveUpTo expected got incoming
    run.value = .error (stopped (got.length + (flow incoming).length) expected (barrier incoming)) ∧
      run.state = (barrier incoming).tail ∧
      Notice.milestones run.did =
        stoppedMilestones (got.length + (flow incoming).length) expected (barrier incoming) := by
  fun_induction receiveUpTo expected got incoming with
  | case1 got incoming _ _ f rest found transient ih =>
    obtain ⟨hflow, hbarrier⟩ := receive_fault_transient found transient
    rw [hflow, hbarrier]
    exact ih (hflow ▸ short)
  | case2 got incoming _ _ f rest found lasting =>
    obtain ⟨hflow, hbarrier⟩ := receive_fault_lasting found lasting
    rw [hflow, hbarrier]
    exact ⟨rfl, rfl, rfl⟩
  | case3 got incoming _ asked rest found =>
    have positive : 0 < asked := Nat.lt_min.2 ⟨by omega, by decide⟩
    obtain ⟨hflow, hrest, hbarrier⟩ := receive_chunk_empty positive found
    rw [hflow]
    rcases hbarrier with hb | hb <;> rw [hb] at hrest ⊢ <;> exact ⟨rfl, hrest, rfl⟩
  | case4 got incoming _ asked bytes rest found nonempty ih =>
    obtain ⟨-, hflow, hbarrier⟩ := receive_chunk_nonempty found nonempty
    -- what was got and what is to come add up to the same
    have hcount : (got ++ bytes).length + (flow rest).length
        = got.length + (flow incoming).length := by
      rw [hflow, List.length_append, List.length_append, Nat.add_assoc]
    rw [hcount] at ih
    rw [hbarrier]
    exact ih short
  | case5 got incoming full => omega

/-- Reading sends nothing. -/
theorem accepted_receiveUpTo (expected : Nat) (got : Bytes) (incoming : List Incoming) :
    Notice.accepted (receiveUpTo expected got incoming).did = [] := by
  fun_induction receiveUpTo expected got incoming with
  | case1 got incoming _ _ f rest _ _ ih => exact ih
  | case2 => rfl
  | case3 => rfl
  | case4 got incoming _ _ bytes rest _ _ ih => exact ih
  | case5 => rfl

theorem accepted_readExactly (n : Nat) (e : Endpoint) :
    Notice.accepted (readExactly n e).did = [] :=
  accepted_receiveUpTo n [] e.incoming

/-- Reading that the flow satisfies. -/
theorem readExactly_enough {n : Nat} {e : Endpoint} (enough : n ≤ (flow e.incoming).length) :
    ∃ did rest, readExactly n e =
        ⟨.ok ((flow e.incoming).take n), did, { e with incoming := rest }⟩ ∧
      flow rest = (flow e.incoming).drop n ∧ barrier rest = barrier e.incoming := by
  have henough : n ≤ ([] : Bytes).length + (flow e.incoming).length := by
    rwa [List.length_nil, Nat.zero_add]
  obtain ⟨hvalue, hflow, hbarrier, -⟩ := receiveUpTo_enough henough
  refine ⟨(receiveUpTo n [] e.incoming).did, (receiveUpTo n [] e.incoming).state, ?_, hflow,
    hbarrier⟩
  rw [readExactly, hvalue]
  rfl

/-- Reading that the barrier ends. -/
theorem readExactly_short {n : Nat} {e : Endpoint} (short : (flow e.incoming).length < n) :
    ∃ did, readExactly n e =
      ⟨.error (stopped (flow e.incoming).length n (barrier e.incoming)), did,
        { e with incoming := (barrier e.incoming).tail }⟩ := by
  have hshort : ([] : Bytes).length + (flow e.incoming).length < n := by
    rwa [List.length_nil, Nat.zero_add]
  obtain ⟨hvalue, hstate, -⟩ := receiveUpTo_short hshort
  refine ⟨(receiveUpTo n [] e.incoming).did, ?_⟩
  rw [readExactly, hvalue, hstate, List.length_nil, Nat.zero_add]

/-- Reading nothing takes no call. -/
theorem readExactly_zero (e : Endpoint) : readExactly 0 e = ⟨.ok [], [], e⟩ := by
  rw [readExactly, receiveUpTo, if_neg (Nat.not_lt_zero _)]

/-- A read that succeeds gives as many bytes as it was asked for. -/
theorem length_of_readExactly {n : Nat} {e : Endpoint} {bytes : Bytes}
    (h : (readExactly n e).value = .ok bytes) : bytes.length = n := by
  rcases Nat.lt_or_ge (flow e.incoming).length n with short | enough
  · obtain ⟨did, hrun⟩ := readExactly_short short
    rw [hrun] at h
    exact absurd h (by simp)
  · obtain ⟨did, rest, hrun, -⟩ := readExactly_enough enough
    rw [hrun, Except.ok.injEq] at h
    rw [← h, List.length_take]
    exact Nat.min_eq_left enough

end Endpoint

end DwmIpc
