import DwmIpc.Proofs.Stream.Flow

/-!
# The normal form of a script

The normal form of a script is what is left of it without transient faults and
with neighbouring chunks joined; ends of the stream and other faults stay, and
separate what stands around them. Two scripts with one normal form have the same
flow, and barriers that agree but for the cuts behind them
(`flow_eq_of_normalForm_eq`, `barrier_eq_of_normalForm_eq`). So the read loop ends
alike on both, and what is left of both has one normal form again
(`receiveUpTo_congr`).
-/

namespace DwmIpc

namespace Incoming

/-- The script without its transient faults. -/
def dropTransient (script : List Incoming) : List Incoming :=
  script.filter fun
    | .fault f => !f.isTransient
    | .chunk _ => true

/-- Puts a chunk in front of a script and joins it to a chunk there, if neither is empty. -/
def joinChunk (bytes : Bytes) : List Incoming → List Incoming
  | .chunk more :: rest =>
    if bytes = [] ∨ more = [] then .chunk bytes :: .chunk more :: rest
    else .chunk (bytes ++ more) :: rest
  | rest => .chunk bytes :: rest

/-- Joins chunks that are not empty and stand side by side. -/
def joinChunks : List Incoming → List Incoming
  | [] => []
  | .fault f :: rest => .fault f :: joinChunks rest
  | .chunk bytes :: rest => joinChunk bytes (joinChunks rest)

/-- What a script is but for cuts and transient faults. -/
def normalForm (script : List Incoming) : List Incoming :=
  joinChunks (dropTransient script)

/-- A barrier with what stands behind it in normal form. -/
def normalBehind : List Incoming → List Incoming
  | [] => []
  | obstacle :: rest => obstacle :: normalForm rest

theorem tail_normalBehind (script : List Incoming) :
    (normalBehind script).tail = normalForm script.tail := by
  cases script <;> rfl

/-- A barrier is nothing, an end of the stream, or a fault that is not transient. -/
theorem barrier_cases (script : List Incoming) :
    barrier script = [] ∨ (∃ rest, barrier script = .chunk [] :: rest) ∨
      ∃ f rest, ¬f.isTransient = true ∧ barrier script = .fault f :: rest := by
  induction script with
  | nil => exact Or.inl rfl
  | cons item more ih =>
    match item with
    | .fault f =>
      unfold barrier
      split
      next => exact ih
      next lasting => exact Or.inr (Or.inr ⟨f, more, lasting, rfl⟩)
    | .chunk bytes =>
      unfold barrier
      split
      next hempty => exact Or.inr (Or.inl ⟨more, by rw [hempty]⟩)
      next => exact ih

/-- A barrier lets nothing through, and is its own barrier. -/
theorem views_normalBehind_barrier (script : List Incoming) :
    flow (normalBehind (barrier script)) = [] ∧
      barrier (normalBehind (barrier script)) = normalBehind (barrier script) := by
  rcases barrier_cases script with h | ⟨rest, h⟩ | ⟨f, rest, lasting, h⟩ <;> rw [h]
  · exact ⟨rfl, rfl⟩
  · exact ⟨rfl, rfl⟩
  · constructor
    · rw [normalBehind, flow, if_neg lasting]
    · rw [normalBehind, barrier, if_neg lasting]

/-- A chunk in front of a barrier stays apart from it. -/
theorem joinChunk_normalBehind_barrier (bytes : Bytes) (script : List Incoming) :
    joinChunk bytes (normalBehind (barrier script)) =
      .chunk bytes :: normalBehind (barrier script) := by
  rcases barrier_cases script with h | ⟨rest, h⟩ | ⟨f, rest, -, h⟩ <;> rw [h]
  · rfl
  · exact if_pos (Or.inr rfl)
  · rfl

/-- A normal form is the flow in one chunk, and then the barrier. -/
theorem normalForm_eq (script : List Incoming) :
    normalForm script =
      (if flow script = [] then [] else [.chunk (flow script)]) ++
        normalBehind (barrier script) := by
  induction script with
  | nil => rfl
  | cons item rest ih =>
    cases item with
    | fault f =>
      by_cases transient : f.isTransient = true
      · have hdrop : normalForm (.fault f :: rest) = normalForm rest := by
          simp [normalForm, dropTransient, transient]
        rw [hdrop, ih, flow, if_pos transient, barrier, if_pos transient]
      · have hkeep : normalForm (.fault f :: rest) = .fault f :: normalForm rest := by
          simp [normalForm, dropTransient, transient, joinChunks]
        rw [hkeep, flow, if_neg transient, barrier, if_neg transient]
        rfl
    | chunk bytes =>
      have hjoin : normalForm (.chunk bytes :: rest) = joinChunk bytes (normalForm rest) := rfl
      rw [hjoin]
      by_cases hempty : bytes = []
      · -- an end of the stream is a barrier: it is not joined to anything
        subst hempty
        have hapart : joinChunk [] (normalForm rest) = .chunk [] :: normalForm rest := by
          cases normalForm rest with
          | nil => rfl
          | cons next more =>
            cases next with
            | chunk _ => rw [joinChunk, if_pos (Or.inl rfl)]
            | fault _ => rfl
        rw [hapart]
        rfl
      · rw [ih, flow, if_neg hempty, barrier, if_neg hempty,
          if_neg (fun h => hempty (List.append_eq_nil_iff.1 h).1)]
        by_cases hflow : flow rest = []
        · -- nothing to join: the next thing is a barrier
          rw [if_pos hflow, List.nil_append, joinChunk_normalBehind_barrier, hflow, List.append_nil]
          rfl
        · rw [if_neg hflow]
          exact if_neg (fun h => h.elim hempty hflow)

/-- The bytes that come are the same in the normal form. -/
theorem flow_normalForm (script : List Incoming) : flow (normalForm script) = flow script := by
  rw [normalForm_eq]
  split
  next hflow => rw [List.nil_append, (views_normalBehind_barrier script).1, hflow]
  next hflow =>
    rw [List.singleton_append, flow, if_neg hflow, (views_normalBehind_barrier script).1,
      List.append_nil]

/-- So is what stops them, in its normal form. -/
theorem barrier_normalForm (script : List Incoming) :
    barrier (normalForm script) = normalBehind (barrier script) := by
  rw [normalForm_eq]
  split
  next => exact (views_normalBehind_barrier script).2
  next hflow =>
    rw [List.singleton_append, barrier, if_neg hflow, (views_normalBehind_barrier script).2]

/-- Scripts with the same normal form bring the same bytes. -/
theorem flow_eq_of_normalForm_eq {s t : List Incoming} (h : normalForm s = normalForm t) :
    flow s = flow t := by
  rw [← flow_normalForm s, h, flow_normalForm]

/-- They stop in the same way. -/
theorem barrier_eq_of_normalForm_eq {s t : List Incoming} (h : normalForm s = normalForm t) :
    normalBehind (barrier s) = normalBehind (barrier t) := by
  rw [← barrier_normalForm s, h, barrier_normalForm]

end Incoming

namespace Endpoint

open Incoming

/-- How a barrier ends a read does not depend on what stands behind it. -/
theorem stopped_normalBehind (got expected : Nat) (script : List Incoming) :
    stopped got expected (normalBehind script) = stopped got expected script ∧
      stoppedMilestones got expected (normalBehind script) =
        stoppedMilestones got expected script := by
  match script with
  | [] | .fault _ :: _ | .chunk _ :: _ => exact ⟨rfl, rfl⟩

/-- On scripts with one normal form the read loop ends alike, logs alike, and leaves scripts with
one normal form. -/
theorem receiveUpTo_congr {s t : List Incoming} (h : normalForm s = normalForm t) (expected : Nat)
    (got : Bytes) :
    (receiveUpTo expected got s).value = (receiveUpTo expected got t).value ∧
      Notice.milestones (receiveUpTo expected got s).did =
        Notice.milestones (receiveUpTo expected got t).did ∧
      normalForm (receiveUpTo expected got s).state =
        normalForm (receiveUpTo expected got t).state := by
  have hflow := flow_eq_of_normalForm_eq h
  have hbarrier := barrier_eq_of_normalForm_eq h
  rcases Nat.lt_or_ge (got.length + (flow s).length) expected with short | enough
  -- how the loop ends is seen from the views alone, and these are the same
  · obtain ⟨hvalue, hstate, hdid⟩ := receiveUpTo_short short
    obtain ⟨hvalue', hstate', hdid'⟩ := receiveUpTo_short (hflow ▸ short)
    refine ⟨?_, ?_, ?_⟩
    · rw [hvalue, hvalue', ← (stopped_normalBehind _ _ (barrier s)).1, hbarrier, hflow,
        (stopped_normalBehind _ _ (barrier t)).1]
    · rw [hdid, hdid', ← (stopped_normalBehind _ _ (barrier s)).2, hbarrier, hflow,
        (stopped_normalBehind _ _ (barrier t)).2]
    · rw [hstate, hstate', ← tail_normalBehind, hbarrier, tail_normalBehind]
  · obtain ⟨hvalue, hleft, hbehind, hdid⟩ := receiveUpTo_enough enough
    obtain ⟨hvalue', hleft', hbehind', hdid'⟩ := receiveUpTo_enough (hflow ▸ enough)
    refine ⟨?_, ?_, ?_⟩
    · rw [hvalue, hvalue', hflow]
    · rw [hdid, hdid']
    · rw [normalForm_eq, normalForm_eq, hleft, hleft', hbehind, hbehind', hflow, hbarrier]

end Endpoint

end DwmIpc
