import DwmIpc.Proofs.Json.Document
import DwmIpc.Proofs.Tasks

/-!
# A payload says what was asked for

Whoever reads the payload of a command, a subscription or a query for a window finds
the request in it, whatever characters the texts are made of: the fields in their
order and each argument as it was classified, integers, doubles and texts kept apart
(`payload_reads_back`). Nothing of this is left to how numbers are printed: a double
among the arguments was read from a text, so it is one that is read back.
-/

namespace DwmIpc

open Json Text Double

namespace Argument

/-- An integer among the arguments has no more digits than the text that it was read from. -/
theorem length_integer {t : Text} {limit : Nat} (hlimit : 0 < limit)
    (h : t.withoutMinus.length ≤ limit) :
    (Nat.toDigits 10 (integer t).natAbs).length ≤ limit := by
  rw [Nat.length_toDigits_le_iff (by decide) hlimit, natAbs_integer]
  exact Nat.lt_of_lt_of_le (number_digits_lt _) (Nat.pow_le_pow_right (by decide) h)

/-- An argument is an integer of few enough digits, a finite double, or the text itself. -/
theorem classify_cases {limit : Nat} (hlimit : 0 < limit) (t : Text) :
    (∃ n, classify limit t = .int n ∧ (Nat.toDigits 10 n.natAbs).length ≤ limit) ∨
    (∃ negative m, classify limit t = .float (.finite negative m) ∧ Representable m ∧
      m < overflow) ∨
    classify limit t = .text t := by
  unfold classify
  split
  next h =>
    simp only [Bool.and_eq_true, decide_eq_true_eq] at h
    exact .inl ⟨_, rfl, length_integer hlimit h.2⟩
  next =>
    split
    next =>
      have hgenuine : Genuine (double t) := genuine_ofDecimal ..
      generalize double t = x at hgenuine
      cases hgenuine with
      | finite hrepresentable hfits => exact .inr (.inl ⟨_, _, rfl, hrepresentable, hfits⟩)
      | infinite => exact .inr (.inr rfl)
      | nan => exact .inr (.inr rfl)
    next => exact .inr (.inr rfl)

/-- An argument can be read back. -/
theorem readable_classify (t : Text) (depth : Nat) :
    Readable documentLimits depth (classify maxDigits t).toJson := by
  obtain ⟨n, hclass, hfew⟩ | ⟨negative, m, hclass, hrepresentable, hfits⟩ | hclass :=
    classify_cases (show 0 < maxDigits by decide) t
  · rw [hclass]
    refine .int fun limit hlimit => ?_
    obtain rfl := Option.some.inj hlimit
    exact hfew
  · rw [hclass]
    exact .float (.finite hrepresentable hfits)
  · rw [hclass]
    exact .str

theorem isUnicode_classify {t : Text} (h : Characters t) :
    IsUnicode (classify maxDigits t).toJson := by
  obtain ⟨n, hclass, -⟩ | ⟨negative, m, hclass, -⟩ | hclass :=
    classify_cases (show 0 < maxDigits by decide) t
  · exact hclass ▸ .int
  · exact hclass ▸ .float
  · exact hclass ▸ .str h

end Argument

namespace Json

variable {limits : Limits} {depth : Nat} {key : Text} {value : Json}

/-- An object with one field can be read back if its value can. -/
theorem readable_single (hvalue : Readable limits depth value) :
    Readable limits (depth + 1) (.obj [(key, value)]) :=
  .obj (List.forall_mem_singleton.2 hvalue) (by simp)

theorem isUnicode_single (hkey : Characters key) (hvalue : IsUnicode value) :
    IsUnicode (.obj [(key, value)]) :=
  .obj (List.forall_mem_singleton.2 hkey) (List.forall_mem_singleton.2 hvalue)

variable {key' : Text} {value' : Json}

/-- An object with two fields can be read back if the values can and the keys differ. -/
theorem readable_pair (hne : key ≠ key') (hvalue : Readable limits depth value)
    (hvalue' : Readable limits depth value') :
    Readable limits (depth + 1) (.obj [(key, value), (key', value')]) := by
  refine .obj (List.forall_mem_cons.2 ⟨hvalue, List.forall_mem_singleton.2 hvalue'⟩) ?_
  simpa using hne

theorem isUnicode_pair (hkey : Characters key) (hvalue : IsUnicode value)
    (hkey' : Characters key') (hvalue' : IsUnicode value') :
    IsUnicode (.obj [(key, value), (key', value')]) :=
  .obj (List.forall_mem_cons.2 ⟨hkey, List.forall_mem_singleton.2 hkey'⟩)
    (List.forall_mem_cons.2 ⟨hvalue, List.forall_mem_singleton.2 hvalue'⟩)

end Json

namespace Request

/-- A command is read back with its name and its arguments. -/
theorem runCommand_reads_back {name : Text} {arguments : List Text} (hname : Characters name)
    (harguments : ∀ a ∈ arguments, Characters a) :
    ∃ bytes, (runCommand name arguments).payload = .ok bytes ∧
      readBytes bytes = .ok (.obj [("command", .str name),
        ("args", .arr (arguments.map fun a => (Argument.classify maxDigits a).toJson))]) := by
  have hreadable : Readable documentLimits 989
      (.arr (arguments.map fun a => (Argument.classify maxDigits a).toJson)) := by
    refine .arr fun item hitem => ?_
    obtain ⟨a, -, rfl⟩ := List.mem_map.1 hitem
    exact Argument.readable_classify a _
  have hunicode : IsUnicode
      (.arr (arguments.map fun a => (Argument.classify maxDigits a).toJson)) := by
    refine .arr fun item hitem => ?_
    obtain ⟨a, ha, rfl⟩ := List.mem_map.1 hitem
    exact Argument.isUnicode_classify (harguments a ha)
  exact readBytes_encodeBody (readable_pair (by decide) .str hreadable)
    (isUnicode_pair (characters_ofString _) (.str hname) (characters_ofString _) hunicode)

/-- A subscription is read back with its event. -/
theorem subscribe_reads_back {event : Text} (hevent : Characters event) :
    ∃ bytes, (subscribe event).payload = .ok bytes ∧
      readBytes bytes = .ok (.obj [("event", .str event), ("action", .str "subscribe")]) :=
  readBytes_encodeBody (readable_pair (by decide) .str .str)
    (isUnicode_pair (characters_ofString _) (.str hevent) (characters_ofString _)
      (.str (characters_ofString _)))

/-- An integer can be written if it has few enough digits. -/
theorem isUnwritable_eq_false_iff {n : Int} :
    isUnwritable n = false ↔ (Nat.toDigits 10 n.natAbs).length ≤ maxDigits := by
  have hpositive : 0 < maxDigits := by decide
  unfold isUnwritable
  -- the power itself is never computed
  generalize maxDigits = digits at hpositive ⊢
  rw [decide_eq_false_iff_not, Nat.not_le]
  exact (Nat.length_toDigits_le_iff (by decide) hpositive).symm

/-- A query is read back with its window. -/
theorem getClient_reads_back {n : Int} (h : (Nat.toDigits 10 n.natAbs).length ≤ maxDigits) :
    ∃ bytes, (getClient n).payload = .ok bytes ∧
      readBytes bytes = .ok (.obj [("client_window_id", .int n)]) := by
  have hreadable : Readable documentLimits 989 (.int n) := by
    refine .int fun limit hlimit => ?_
    obtain rfl := Option.some.inj hlimit
    exact h
  rw [payload, isUnwritable_eq_false_iff.2 h]
  exact readBytes_encodeBody (readable_single hreadable)
    (isUnicode_single (characters_ofString _) .int)

end Request

/-- **A payload is read back as the request.** Commands and subscriptions have a payload whatever
characters their texts consist of, and so has a window id of at most 4300 digits. It is read as the
object that was written, with the arguments as they were classified. -/
theorem payload_reads_back :
    (∀ (name : String) (arguments : List String), ∃ bytes,
      (Request.runCommand name (arguments.map Text.ofString)).payload = .ok bytes ∧
      readBytes bytes = .ok (.obj [("command", .str name),
        ("args", .arr (arguments.map fun a =>
          (Argument.classify maxDigits (Text.ofString a)).toJson))])) ∧
    (∀ event : String, ∃ bytes, (Request.subscribe event).payload = .ok bytes ∧
      readBytes bytes = .ok (.obj [("event", .str event), ("action", .str "subscribe")])) ∧
    (∀ n : Int, (Nat.toDigits 10 n.natAbs).length ≤ 4300 →
      ∃ bytes, (Request.getClient n).payload = .ok bytes ∧
        readBytes bytes = .ok (.obj [("client_window_id", .int n)])) := by
  refine ⟨fun name arguments => ?_, fun event => ?_, fun n hn => ?_⟩
  · have hcharacters : ∀ a ∈ arguments.map ofString, Characters a := by
      intro a ha
      obtain ⟨s, -, rfl⟩ := List.mem_map.1 ha
      exact characters_ofString s
    have hread := Request.runCommand_reads_back (characters_ofString name) hcharacters
    rw [List.map_map] at hread
    exact hread
  · exact Request.subscribe_reads_back (characters_ofString event)
  · exact Request.getClient_reads_back hn

/-- A negative window, a command with a quote in its name, and arguments of each kind. -/
theorem payload_reads_back_kinds :
    (∃ bytes, (Request.runCommand "say \"\u00e9\""
        ["-007", "1.50", "1."]).payload = .ok bytes ∧
      readBytes bytes = .ok (.obj [("command", .str "say \"\u00e9\""),
        ("args", .arr [.int (-7), (Argument.classify maxDigits "1.50").toJson, .str "1."])])) ∧
    (Nat.toDigits 10 (-42 : Int).natAbs).length ≤ 4300 ∧
    (∃ bytes, (Request.getClient (-42)).payload = .ok bytes ∧
      readBytes bytes = .ok (.obj [("client_window_id", .int (-42))])) := by
  have hdigits : (Nat.toDigits 10 (-42 : Int).natAbs).length ≤ 4300 := by decide
  refine ⟨?_, hdigits, payload_reads_back.2.2 (-42) hdigits⟩
  exact payload_reads_back.1 "say \"\u00e9\"" ["-007", "1.50", "1."]

end DwmIpc
