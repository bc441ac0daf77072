import DwmIpc.Action

/-!
# Actions one after another

`transcript` lists the runs of actions made one after another, each in the state
that the one before it left behind, whether that one succeeded or failed; `final`
is the state at the end. The rest is how an action that ended with a value came to
it through its parts.
-/

namespace DwmIpc.Action

variable {ω ω' σ τ α β : Type}

/-! ## Transcripts -/

/-- The runs of actions, each in the state that the one before it left. -/
def transcript : List (Action ω σ α) → σ → List (Run ω σ α)
  | [], _ => []
  | m :: rest, s => m s :: transcript rest (m s).state

/-- The state after actions. -/
def final : List (Action ω σ α) → σ → σ
  | [], s => s
  | m :: rest, s => final rest (m s).state

/-- Calls after calls go on from where the first ones end. -/
theorem final_append {κ : Type} (step : κ → Action ω σ α) (calls more : List κ) (s : σ) :
    final ((calls ++ more).map step) s = final (more.map step) (final (calls.map step) s) := by
  induction calls generalizing s with
  | nil => rfl
  | cons call rest ih => exact ih _

/-- The runs of calls after calls are those of the first ones and those that follow. -/
theorem transcript_append {κ : Type} (step : κ → Action ω σ α) (calls more : List κ) (s : σ) :
    transcript ((calls ++ more).map step) s =
      transcript (calls.map step) s ++ transcript (more.map step) (final (calls.map step) s) := by
  induction calls generalizing s with
  | nil => rfl
  | cons call rest ih => exact congrArg _ (ih _)

theorem length_transcript {κ : Type} (step : κ → Action ω σ α) (calls : List κ) (s : σ) :
    (transcript (calls.map step) s).length = calls.length := by
  induction calls generalizing s with
  | nil => rfl
  | cons call rest ih => exact congrArg (· + 1) (ih _)

/-- Actions that change nothing run each for itself. -/
theorem transcript_of_still {κ : Type} {step : κ → Action ω σ α} {calls : List κ} {s : σ}
    (still : ∀ call ∈ calls, (step call s).state = s) :
    transcript (calls.map step) s = calls.map (step · s) ∧ final (calls.map step) s = s := by
  induction calls with
  | nil => exact ⟨rfl, rfl⟩
  | cons call rest ih =>
    obtain ⟨hruns, hfinal⟩ := ih fun c hc => still c (List.mem_cons_of_mem _ hc)
    have hcall := still call (List.mem_cons_self ..)
    refine ⟨?_, ?_⟩
    · rw [List.map_cons, transcript, hcall, hruns]
      rfl
    · rw [List.map_cons, final, hcall, hfinal]

/-- What each of the actions keeps, with the trace so far, is kept by all of them. -/
theorem invariant_final {κ : Type} {step : κ → Action ω σ α} {I : List ω → σ → Prop}
    {calls : List κ}
    (keeps : ∀ call ∈ calls, ∀ {before s},
      I before s → I (before ++ (step call s).did) (step call s).state)
    {before : List ω} {s : σ} (start : I before s) :
    I (before ++ (transcript (calls.map step) s).flatMap (·.did)) (final (calls.map step) s) := by
  induction calls generalizing before s with
  | nil =>
    rw [List.map_nil, transcript, List.flatMap_nil, List.append_nil]
    exact start
  | cons call rest ih =>
    have hrest := ih (fun c hc => keeps c (List.mem_cons_of_mem _ hc))
      (keeps call (List.mem_cons_self ..) start)
    rwa [List.append_assoc] at hrest

theorem tell_bind (events : List ω) (f : Unit → Action ω σ β) (s : σ) :
    (tell events >>= f) s = ⟨(f () s).value, events ++ (f () s).did, (f () s).state⟩ := rfl

theorem ofExcept_ok_bind (a : α) (f : α → Action ω σ β) (s : σ) :
    (ofExcept (.ok a) >>= f) s = f a s := rfl

theorem ofExcept_error_bind (failure : Failure) (f : α → Action ω σ β) (s : σ) :
    (ofExcept (.error failure) >>= f) s = ⟨.error failure, [], s⟩ := rfl

/-- To return something made of a value changes nothing but the value. -/
theorem return_apply (m : Action ω σ α) (f : α → β) (s : σ) :
    (do return f (← m) : Action ω σ β) s = ⟨(m s).value.map f, (m s).did, (m s).state⟩ := by
  cases hrun : m s with
  | mk value did t =>
    cases value with
    | ok a =>
      rw [bind_ok hrun]
      exact congrArg (Run.mk _ · _) (List.append_nil _)
    | error failure => exact bind_error hrun

/-- A composition that ends with a value went through its first part. -/
theorem exists_of_bind_ok {m : Action ω σ α} {f : α → Action ω σ β} {s : σ} {b : β}
    (h : ((m >>= f) s).value = .ok b) :
    ∃ a did t, m s = ⟨.ok a, did, t⟩ ∧ (f a t).value = .ok b := by
  cases hm : m s with
  | mk value did t =>
    cases value with
    | ok a =>
      rw [bind_ok hm] at h
      exact ⟨a, did, t, rfl, h⟩
    | error failure =>
      rw [bind_error hm] at h
      exact absurd h (by simp)

theorem mapFailure_ok {f : Failure → Failure} {m : Action ω σ α} {s t : σ} {a : α} {did : List ω}
    (h : m s = ⟨.ok a, did, t⟩) : mapFailure f m s = ⟨.ok a, did, t⟩ := by
  rw [mapFailure, h]

/-- Renaming failures makes no values. -/
theorem value_of_mapFailure {f : Failure → Failure} {m : Action ω σ α} {s : σ} {a : α}
    (h : (mapFailure f m s).value = .ok a) : (m s).value = .ok a := by
  cases hm : (m s).value with
  | ok b => simpa only [mapFailure, hm] using h
  | error failure => simp [mapFailure, hm] at h

theorem mapFailure_error {f : Failure → Failure} {m : Action ω σ α} {s t : σ} {failure : Failure}
    {did : List ω} (h : m s = ⟨.error failure, did, t⟩) :
    mapFailure f m s = ⟨.error (f failure), did, t⟩ := by
  rw [mapFailure, h]

end DwmIpc.Action
