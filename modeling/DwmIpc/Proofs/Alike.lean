import DwmIpc.Proofs.Transcript
import Mathlib.Data.List.Forall2

/-!
# Two runs side by side

`Action.Alike` compares two actions: from related states they end alike (with the
same failure, or with related values), what they list is related, and they leave
related states. Everything that actions are built from keeps it, so that it holds
of whole transcripts (`Alike.forall₂_transcript`) once it holds of the steps.
-/

namespace DwmIpc

/-- Two ends: the same failure, or related values. -/
def SameEnd {α β : Type} (Q : α → β → Prop) : Except Failure α → Except Failure β → Prop
  | .ok a, .ok b => Q a b
  | .error f, .error g => f = g
  | _, _ => False

/-- Outcomes with equal values and failures are equal. -/
theorem sameEnd_eq {α : Type} {x y : Except Failure α} : SameEnd Eq x y ↔ x = y := by
  cases x <;> cases y <;> simp [SameEnd]

/-- A relation of traces that holds of a whole if it holds of the parts. -/
structure Composes {ω ω' : Type} (V : List ω → List ω' → Prop) : Prop where
  nil : V [] []
  append : ∀ {a b c d}, V a b → V c d → V (a ++ c) (b ++ d)

namespace Action

variable {ω ω' υ υ' σ τ σ' τ' α β γ δ : Type}
variable {R : σ → τ → Prop} {V : List ω → List ω' → Prop} {Q : α → β → Prop}

/-- From related states: related ends, related traces, related states. -/
def Alike (R : σ → τ → Prop) (V : List ω → List ω' → Prop) (Q : α → β → Prop)
    (m : Action ω σ α) (n : Action ω' τ β) : Prop :=
  ∀ ⦃s t⦄, R s t →
    SameEnd Q (m s).value (n t).value ∧ V (m s).did (n t).did ∧ R (m s).state (n t).state

namespace Alike

theorem pure (hV : Composes V) {a : α} {b : β} (h : Q a b) :
    Alike R V Q (Pure.pure a) (Pure.pure b) :=
  fun _ _ hR => ⟨h, hV.nil, hR⟩

theorem ofExcept (hV : Composes V) {x : Except Failure α} {y : Except Failure β}
    (h : SameEnd Q x y) : Alike R V Q (Action.ofExcept x) (Action.ofExcept y) :=
  fun _ _ hR => ⟨h, hV.nil, hR⟩

/-- Records that are related are made alike. -/
theorem tell {a : List ω} {b : List ω'} (h : V a b) :
    Alike R V Eq (Action.tell a) (Action.tell b) :=
  fun _ _ hR => ⟨rfl, h, hR⟩

theorem get (hV : Composes V) : Alike R V R Action.get Action.get :=
  fun _ _ hR => ⟨hR, hV.nil, hR⟩

theorem modify (hV : Composes V) {f : σ → σ} {g : τ → τ} (h : ∀ {s t}, R s t → R (f s) (g t)) :
    Alike R V Eq (Action.modify f) (Action.modify g) :=
  fun _ _ hR => ⟨rfl, hV.nil, h hR⟩

/-- Actions that are alike go on alike. -/
theorem bind (hV : Composes V) {P : γ → δ → Prop} {m : Action ω σ α} {n : Action ω' τ β}
    {f : α → Action ω σ γ} {g : β → Action ω' τ δ} (h : Alike R V Q m n)
    (hf : ∀ a b, Q a b → Alike R V P (f a) (g b)) : Alike R V P (m >>= f) (n >>= g) := by
  intro s t hR
  obtain ⟨hvalue, hdid, hstate⟩ := h hR
  cases hm : m s with
  | mk x did s' =>
    cases hn : n t with
    | mk y did' t' =>
      rw [hm, hn] at hvalue hdid hstate
      cases x with
      | ok a =>
        cases y with
        | ok b =>
          obtain ⟨hvalue', hdid', hstate'⟩ := hf a b hvalue hstate
          rw [bind_ok hm, bind_ok hn]
          exact ⟨hvalue', hV.append hdid hdid', hstate'⟩
        | error g => exact hvalue.elim
      | error f =>
        cases y with
        | ok b => exact hvalue.elim
        | error g =>
          rw [bind_error hm, bind_error hn]
          exact ⟨hvalue, hdid, hstate⟩

/-- Failures are renamed alike. -/
theorem mapFailure {f : Failure → Failure} {m : Action ω σ α} {n : Action ω' τ β}
    (h : Alike R V Q m n) : Alike R V Q (Action.mapFailure f m) (Action.mapFailure f n) := by
  intro s t hR
  obtain ⟨hvalue, hdid, hstate⟩ := h hR
  refine ⟨?_, hdid, hstate⟩
  simp only [Action.mapFailure]
  cases hm : (m s).value <;> cases hn : (n t).value <;> rw [hm, hn] at hvalue
  · exact congrArg f hvalue
  · exact hvalue.elim
  · exact hvalue.elim
  · exact hvalue

/-- An action on a part of the state is alike if the part is related, can be put back, and the
renamed events are related. -/
theorem within {R' : σ' → τ' → Prop} {V' : List υ → List υ' → Prop} {part : σ' → σ} {part' : τ' → τ}
    {put : σ → σ' → σ'} {put' : τ → τ' → τ'} {rename : ω → υ} {rename' : ω' → υ'}
    {m : Action ω σ α} {n : Action ω' τ β} (h : Alike R V Q m n)
    (hpart : ∀ {s t}, R' s t → R (part s) (part' t))
    (hput : ∀ {s t p q}, R' s t → R p q → R' (put p s) (put' q t))
    (hrename : ∀ {a b}, V a b → V' (a.map rename) (b.map rename')) :
    Alike R' V' Q (Action.within part put rename m) (Action.within part' put' rename' n) := by
  intro s t hR
  obtain ⟨hvalue, hdid, hstate⟩ := h (hpart hR)
  exact ⟨hvalue, hrename hdid, hput hR hstate⟩

/-- Steps that are alike make transcripts that are alike, step by step. -/
theorem forall₂_transcript {κ : Type} {step : κ → Action ω σ α} {step' : κ → Action ω' τ β}
    (h : ∀ call, Alike R V Q (step call) (step' call)) (calls : List κ) {s : σ} {t : τ}
    (hR : R s t) :
    List.Forall₂ (fun run run' => SameEnd Q run.value run'.value ∧ V run.did run'.did ∧
        R run.state run'.state)
      (transcript (calls.map step) s) (transcript (calls.map step') t) := by
  induction calls generalizing s t with
  | nil => exact .nil
  | cons call rest ih =>
    have hstep := h call hR
    exact .cons hstep (ih hstep.2.2)

end Alike

/-! ## One action twice -/

/-- The action does the same from related states. -/
def Blind (R : σ → σ → Prop) (V : List ω → List ω → Prop) (m : Action ω σ α) : Prop :=
  Alike R V Eq m m

namespace Blind

variable {R : σ → σ → Prop} {V : List ω → List ω → Prop}

theorem pure (hV : Composes V) (a : α) : Blind R V (Pure.pure a : Action ω σ α) :=
  Alike.pure hV rfl

theorem ofExcept (hV : Composes V) (x : Except Failure α) :
    Blind R V (Action.ofExcept x : Action ω σ α) :=
  Alike.ofExcept hV (sameEnd_eq.2 rfl)

theorem bind (hV : Composes V) {m : Action ω σ α} {f : α → Action ω σ β} (h : Blind R V m)
    (hf : ∀ a, Blind R V (f a)) : Blind R V (m >>= f) := by
  refine Alike.bind hV h fun a b hab => ?_
  subst hab
  exact hf a

end Blind

end Action

end DwmIpc
