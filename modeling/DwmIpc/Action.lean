import DwmIpc.Failure

/-!
# Actions

An action changes a state, lists what it did on the way, and ends with a value
or a failure. State and list are there after a failure too: a read that fails
half way has still used up what it read. `Action ω σ α` is a function from
states to runs, with the usual composition: `bind` stops at the first failure and
joins the lists in order.
-/

namespace DwmIpc

/-- One run of an action: how it ended, what it did, and the state after it. -/
structure Run (ω σ α : Type) where
  value : Except Failure α
  did : List ω
  state : σ

/-- A computation on a state of type `σ` that lists events of type `ω`. -/
def Action (ω σ α : Type) : Type := σ → Run ω σ α

namespace Action

variable {ω ω' σ τ α β : Type}

/-- Ends with a value. -/
protected def pure (a : α) : Action ω σ α := fun s => ⟨.ok a, [], s⟩

/-- Goes on with `f` after success. -/
protected def bind (m : Action ω σ α) (f : α → Action ω σ β) : Action ω σ β := fun s =>
  match m s with
  | ⟨.ok a, did, s⟩ =>
    let run := f a s
    ⟨run.value, did ++ run.did, run.state⟩
  | ⟨.error failure, did, s⟩ => ⟨.error failure, did, s⟩

instance : Monad (Action ω σ) where
  pure := Action.pure
  bind := Action.bind

/-- Fails. -/
def fail (failure : Failure) : Action ω σ α := fun s => ⟨.error failure, [], s⟩

/-- Ends as a computation without effects did. -/
def ofExcept (value : Except Failure α) : Action ω σ α := fun s => ⟨value, [], s⟩

/-- Lists events. -/
def tell (events : List ω) : Action ω σ Unit := fun s => ⟨.ok (), events, s⟩

/-- The state. -/
def get : Action ω σ σ := fun s => ⟨.ok s, [], s⟩

/-- Changes the state. -/
def modify (f : σ → σ) : Action ω σ Unit := fun s => ⟨.ok (), [], f s⟩

/-- Turns one failure into another. -/
def mapFailure (f : Failure → Failure) (m : Action ω σ α) : Action ω σ α := fun s =>
  let run := m s
  ⟨match run.value with
    | .ok a => .ok a
    | .error failure => .error (f failure), run.did, run.state⟩

/-- Hands a failure over as a value. -/
def attempt (m : Action ω σ α) : Action ω σ (Except Failure α) := fun s =>
  let run := m s
  ⟨.ok run.value, run.did, run.state⟩

/-- Acts on a part of a larger state, with events renamed. -/
def within (part : σ → τ) (put : τ → σ → σ) (rename : ω → ω') (m : Action ω τ α) :
    Action ω' σ α := fun s =>
  let run := m (part s)
  ⟨run.value, run.did.map rename, put run.state s⟩

theorem pure_apply (a : α) (s : σ) : (pure a : Action ω σ α) s = ⟨.ok a, [], s⟩ := rfl

theorem bind_ok {m : Action ω σ α} {f : α → Action ω σ β} {s t : σ} {a : α} {did : List ω}
    (h : m s = ⟨.ok a, did, t⟩) :
    (m >>= f) s = ⟨(f a t).value, did ++ (f a t).did, (f a t).state⟩ := by
  show Action.bind m f s = _
  simp only [Action.bind, h]

theorem bind_error {m : Action ω σ α} {f : α → Action ω σ β} {s t : σ} {failure : Failure}
    {did : List ω} (h : m s = ⟨.error failure, did, t⟩) :
    (m >>= f) s = ⟨.error failure, did, t⟩ := by
  show Action.bind m f s = _
  simp only [Action.bind, h]

end Action

end DwmIpc
