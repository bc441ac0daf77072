import DwmIpc.CommandLine.Invocation
import DwmIpc.Proofs.Alignment

/-!
# The requests of a command line

The task of a command line is made of its words (`Invocation.of_parse`), and stands
for requests. They can be made, but for three reasons (`Task.Refused.of_frame`): the
number of the window has more digits than can be read, a payload is too long for a
header, or a word has no bytes. A number of fewer digits can always be written
again (`Argument.isUnwritable_integer`).
-/

namespace DwmIpc

/-! ## Numbers of few digits -/

theorem Digits.extend_lt {base : Nat} {digits : List Nat} (h : ∀ digit ∈ digits, digit < base) :
    extend base 0 digits < Nat.pow base digits.length := by
  induction digits with
  | nil => exact Nat.one_pos
  | cons digit rest ih =>
    have hrest := ih fun d hd => h d (List.mem_cons_of_mem _ hd)
    have hfirst : digit + 1 ≤ base := h digit (List.mem_cons_self ..)
    have hextend : extend base 0 (digit :: rest) = extend base digit rest := by
      show extend base (0 * base + digit) rest = _
      rw [Nat.zero_mul, Nat.zero_add]
    rw [hextend, extend_eq_add, List.length_cons]
    calc digit * Nat.pow base rest.length + extend base 0 rest
        < digit * Nat.pow base rest.length + Nat.pow base rest.length :=
          Nat.add_lt_add_left hrest _
      _ = (digit + 1) * Nat.pow base rest.length := (Nat.succ_mul ..).symm
      _ ≤ base * Nat.pow base rest.length := Nat.mul_le_mul_right _ hfirst
      _ = Nat.pow base (rest.length + 1) := Nat.pow_succ'.symm

theorem Text.number_digits_lt (t : Text) : number (digits t) < Nat.pow 10 t.length := by
  have hdigit (c : Char) (hc : c.isDigit = true) : c.toNat - '0'.toNat < 10 := by
    simp only [Char.isDigit, Bool.and_eq_true, decide_eq_true_eq, ge_iff_le] at hc
    have hnine : c.toNat ≤ 57 := UInt32.le_iff_toNat_le.1 hc.2
    show c.toNat - 48 < 10
    omega
  have hbound : ∀ d ∈ (digits t).map fun c => c.toNat - '0'.toNat, d < 10 := by
    intro d hd
    obtain ⟨c, hc, rfl⟩ := List.mem_map.1 hd
    obtain ⟨point, hpoint, rfl⟩ := List.mem_map.1 hc
    have hisDigit : point.isDigit = true := by
      have hall := List.all_takeWhile (p := CodePoint.isDigit) (l := t)
      exact List.all_eq_true.1 hall point hpoint
    cases point with
    | scalar c => exact hdigit c hisDigit
    | surrogate offset => cases hisDigit
  have hlength : ((digits t).map fun c => c.toNat - '0'.toNat).length ≤ t.length := by
    rw [List.length_map, digits, List.length_map]
    exact (List.takeWhile_sublist _).length_le
  rw [number, Digits.value_eq_extend]
  exact Nat.lt_of_lt_of_le (Digits.extend_lt hbound) (Nat.pow_le_pow_right (by decide) hlength)

theorem Text.length_withoutMinus (t : Text) : t.withoutMinus.length ≤ t.length := by
  unfold withoutMinus
  split
  · exact Nat.le_succ _
  · exact Nat.le_refl _

namespace Argument

theorem natAbs_integer (t : Text) :
    (integer t).natAbs = Text.number (Text.digits t.withoutMinus) := by
  unfold integer
  show (if _ then _ else _ : Int).natAbs = _
  split
  · exact (Int.natAbs_neg _).trans (Int.natAbs_natCast _)
  · exact Int.natAbs_natCast _

theorem natAbs_integer_lt {t : Text} {limit : Nat} (h : t.length ≤ limit) :
    (integer t).natAbs < Nat.pow 10 limit := by
  have hlength : t.withoutMinus.length ≤ limit := Nat.le_trans t.length_withoutMinus h
  rw [natAbs_integer]
  exact Nat.lt_of_lt_of_le (Text.number_digits_lt _) (Nat.pow_le_pow_right (by decide) hlength)

/-- A number that is read from few digits can be written again. -/
theorem isUnwritable_integer {t : Text} (h : t.length ≤ maxDigits) :
    Request.isUnwritable (integer t) = false := by
  rw [Request.isUnwritable, decide_eq_false_iff_not]
  exact Nat.not_le.2 (natAbs_integer_lt h)

end Argument

/-! ## Requests without a frame -/

namespace Request

/-- The texts that a request is made of. -/
def texts : Request → List Text
  | .runCommand name arguments => name :: arguments
  | .subscribe event => [event]
  | .getMonitors | .getTags | .getLayouts | .getClient _ => []

variable {request : Request} {failure : Failure}

/-- A payload can be made of numbers that can be written and texts that have bytes. -/
theorem payload_cases
    (writable : ∀ window, request = .getClient window → isUnwritable window = false) :
    (∃ payload, request.payload = .ok payload) ∨
      (∃ place, request.payload = .error (.unencodable place)) ∧
        ∃ t ∈ request.texts, ¬t.Encodable := by
  have hbody (body : Json) (h : request.payload = encodeBody body) :
      (∃ payload, request.payload = .ok payload) ∨
        ∃ place, request.payload = .error (.unencodable place) := by
    rw [h, encodeBody]
    cases Utf8.encodeEscaping (Json.render .unicode body) with
    | ok bytes => exact .inl ⟨bytes, rfl⟩
    | error place => exact .inr ⟨place, rfl⟩
  -- if all texts have bytes, the payload has been made
  have hcases (body : Json) (h : request.payload = encodeBody body)
      (hmade : (∀ t ∈ request.texts, t.Encodable) → ∃ payload, request.payload = .ok payload) :
      (∃ payload, request.payload = .ok payload) ∨
        (∃ place, request.payload = .error (.unencodable place)) ∧
          ∃ t ∈ request.texts, ¬t.Encodable := by
    by_cases htexts : ∀ t ∈ request.texts, t.Encodable
    · exact .inl (hmade htexts)
    · push Not at htexts
      exact (hbody body h).imp id fun hplace => ⟨hplace, htexts⟩
  cases request with
  | getMonitors | getTags | getLayouts => exact .inl ⟨placeholder, rfl⟩
  | getClient window =>
    obtain ⟨payload, hpayload, -⟩ := payload_getClient (writable window rfl)
    exact .inl ⟨payload, hpayload⟩
  | runCommand name arguments =>
    refine hcases _ rfl fun htexts => payload_runCommand (htexts name (List.mem_cons_self ..)) ?_
    exact fun a ha => htexts a (List.mem_cons_of_mem _ ha)
  | subscribe event =>
    exact hcases _ rfl fun htexts => payload_subscribe (htexts event (List.mem_singleton_self _))

/-- Without a frame there is a payload that is too long, or a text without bytes. -/
theorem frame_refused
    (writable : ∀ window, request = .getClient window → isUnwritable window = false)
    (h : request.frame = .error failure) :
    (∃ payload, request.payload = .ok payload ∧ maxPayloadSize < payload.length ∧
        failure = .payloadTooLarge payload.length) ∨
      ∃ t ∈ request.texts, ¬t.Encodable ∧ ∃ place, failure = .unencodable place := by
  unfold frame at h
  rcases payload_cases writable with ⟨payload, hpayload⟩ | ⟨⟨place, hpayload⟩, t, ht, hplain⟩
  · rw [hpayload] at h
    rcases Message.encode_cases request.type payload with ⟨-, bytes, hencode⟩ | ⟨hlong, hencode⟩
    · cases hencode.symm.trans h
    · exact .inl ⟨payload, hpayload, hlong, Except.error.inj (h.symm.trans hencode)⟩
  · rw [hpayload] at h
    exact .inr ⟨t, ht, hplain, place, (Except.error.inj h).symm⟩

end Request

namespace CommandLine

/-! ## Tasks -/

namespace Task

/-- The requests that a task makes. A window with too many digits is refused before. -/
def requests : Task → List Request
  | .nothing => []
  | .runCommand name arguments => [.runCommand name arguments]
  | .getMonitors => [.getMonitors]
  | .getTags => [.getTags]
  | .getLayouts => [.getLayouts]
  | .getClient window =>
    if window.length ≤ maxDigits then [.getClient (Argument.integer window)] else []
  | .subscribe event more _ => (event :: more).map .subscribe

/-- A window is given by digits. -/
def Numeric : Task → Prop
  | .getClient window => window.isUnsignedInt = true
  | _ => True

/-- Why a task cannot be carried out. -/
inductive Refused : Task → Failure → Prop
  | tooManyDigits {window : Text} :
      maxDigits < window.length → Refused (.getClient window) (.tooManyDigits window.length)
  | tooLong {task : Task} {request : Request} {payload : Bytes} :
      request ∈ task.requests → request.payload = .ok payload → maxPayloadSize < payload.length →
      Refused task (.payloadTooLarge payload.length)
  | unencodable {task : Task} {request : Request} {t : Text} (place : Utf8.Unencodable) :
      request ∈ task.requests → t ∈ request.texts → ¬t.Encodable →
      Refused task (.unencodable place)

variable {task : Task} {request : Request} {failure : Failure}

theorem Refused.of_frame (hrequest : request ∈ task.requests) (h : request.frame = .error failure) :
    task.Refused failure := by
  have writable : ∀ window, request = .getClient window → Request.isUnwritable window = false := by
    rintro window rfl
    cases task with
    | getClient digits =>
      rw [requests] at hrequest
      split at hrequest
      next hlength =>
        obtain rfl := Request.getClient.inj (List.mem_singleton.1 hrequest)
        exact Argument.isUnwritable_integer hlength
      next => exact absurd hrequest List.not_mem_nil
    | _ => simp [requests] at hrequest
  rcases Request.frame_refused writable h with
    ⟨payload, hpayload, hlong, rfl⟩ | ⟨t, ht, hplain, place, rfl⟩
  · exact .tooLong hrequest hpayload hlong
  · exact .unencodable place hrequest ht hplain

/-- Digits denote a window just if there are not too many of them. -/
theorem windowId_digits {window : Text} (h : window.isUnsignedInt = true) :
    Client.windowId (.str window) =
      if window.length ≤ maxDigits then .ok (Argument.integer window)
      else .error (.tooManyDigits window.length) := by
  show (if window.isUnsignedInt = true then _ else _) = _
  rw [if_pos h]

/-- A task is made of its message. -/
theorem of_ofMessage {monitor : Bool} {kind : Option Kind} {message : List Text}
    (h : ofMessage monitor kind message = .ok task) :
    task.Numeric ∧ ∀ request ∈ task.requests, ∀ t ∈ request.texts, t ∈ message := by
  have htextless (hrequests : ∀ request ∈ task.requests, request.texts = []) :
      ∀ request ∈ task.requests, ∀ t ∈ request.texts, t ∈ message := by
    intro request hrequest t ht
    rw [hrequests request hrequest] at ht
    exact absurd ht List.not_mem_nil
  unfold ofMessage at h
  cases kind with
  | none =>
    obtain rfl := Except.ok.inj h
    exact ⟨trivial, fun _ hrequest => absurd hrequest List.not_mem_nil⟩
  | some kind =>
    cases kind with
    | getMonitors | getTags | getLayouts =>
      obtain rfl := Except.ok.inj h
      exact ⟨trivial, htextless fun request hrequest => by rw [List.mem_singleton.1 hrequest]; rfl⟩
    | runCommand =>
      cases message with
      | nil => cases h
      | cons name arguments =>
        obtain rfl := Except.ok.inj h
        refine ⟨trivial, fun request hrequest t ht => ?_⟩
        rwa [List.mem_singleton.1 hrequest] at ht
    | getClient =>
      cases message with
      | nil => cases h
      | cons window rest =>
        simp only [ofKind] at h
        split at h
        next hdigits =>
          obtain rfl := Except.ok.inj h
          refine ⟨hdigits, htextless fun request hrequest => ?_⟩
          rw [requests] at hrequest
          split at hrequest
          · rw [List.mem_singleton.1 hrequest]
            rfl
          · exact absurd hrequest List.not_mem_nil
        next => cases h
    | subscribe =>
      cases message with
      | nil => cases h
      | cons event more =>
        obtain rfl := Except.ok.inj h
        refine ⟨trivial, fun request hrequest t ht => ?_⟩
        obtain ⟨name, hname, rfl⟩ := List.mem_map.1 hrequest
        rwa [List.mem_singleton.1 ht]

end Task

/-! ## Command lines -/

/-- Every word is kept, whatever it is. -/
theorem map_snd_classify {words : List Text} {classified : List (Word × Text)}
    (h : classify words = .ok classified) : classified.map (·.2) = words := by
  induction words generalizing classified with
  | nil =>
    obtain rfl := Except.ok.inj h
    rfl
  | cons t rest ih =>
    rw [classify] at h
    split at h
    next => cases h
    next =>
      obtain rfl := Except.ok.inj h
      simp [Function.comp_def]
    next word _ _ =>
      cases hrest : classify rest with
      | error misuse =>
        rw [hrest] at h
        cases h
      | ok more =>
        rw [hrest] at h
        obtain rfl := Except.ok.inj h
        exact congrArg (t :: ·) (ih hrest)

namespace Arguments

theorem message_of_set {arguments changed : Arguments} {setting : Setting}
    (h : set arguments setting = .ok changed) : changed.message = arguments.message := by
  unfold set at h
  split at h
  next => cases h
  next => obtain rfl := Except.ok.inj h; rfl
  next =>
    split at h
    next => obtain rfl := Except.ok.inj h; rfl
    next =>
      split at h
      next => obtain rfl := Except.ok.inj h; rfl
      next => cases h
  all_goals
    obtain rfl := Except.ok.inj h
    rfl

theorem message_of_settings {arguments changed : Arguments} {settings : List Setting}
    (h : settings.foldlM set arguments = .ok changed) : changed.message = arguments.message := by
  induction settings generalizing arguments with
  | nil =>
    obtain rfl := Except.ok.inj h
    rfl
  | cons setting rest ih =>
    rw [List.foldlM_cons] at h
    cases hset : set arguments setting with
    | error stop =>
      rw [hset] at h
      cases h
    | ok next =>
      rw [hset] at h
      exact (ih h).trans (message_of_set hset)

/-- The first operand and everything behind it are the message. -/
theorem message_of_ofWords {arguments result : Arguments} {unrecognized unknown : List Text}
    {words : List (Word × Text)} (hstart : arguments.message = [])
    (h : ofWords arguments unrecognized words = .ok (result, unknown)) :
    result.message <:+ words.map (·.2) := by
  fun_induction ofWords arguments unrecognized words with
  | case1 arguments unrecognized =>
    obtain ⟨rfl, -⟩ := Prod.mk.inj (Except.ok.inj h)
    rw [hstart]
    exact List.nil_suffix
  | case2 arguments unrecognized t rest ih =>
    exact (ih hstart h).trans (List.suffix_cons ..)
  | case3 | case4 =>
    obtain ⟨rfl, -⟩ := Prod.mk.inj (Except.ok.inj h)
    exact List.suffix_refl _
  | case5 | case6 => cases h
  | case7 arguments unrecognized word t rest _ _ _ settled _ changed hchanged ih =>
    refine (ih ((message_of_settings hchanged).trans hstart) h).trans ?_
    rw [List.map_cons]
    refine List.IsSuffix.trans ?_ (List.suffix_cons ..)
    split
    · rw [List.map_tail]
      exact List.tail_suffix _
    · exact List.suffix_refl _

/-- The message is the end of the command line. -/
theorem message_suffix {words : List Text} {arguments : Arguments}
    (h : parse words = .ok arguments) : arguments.message <:+ words := by
  unfold parse at h
  cases hclassify : classify words with
  | error misuse =>
    rw [hclassify] at h
    cases h
  | ok classified =>
    rw [hclassify] at h
    dsimp only at h
    split at h
    next => cases h
    next result hwords =>
      obtain rfl := Except.ok.inj h
      have hsuffix := message_of_ofWords rfl hwords
      rwa [map_snd_classify hclassify] at hsuffix
    next => cases h

end Arguments

/-- What is asked for is made of words of the command line, and a window is given by digits. -/
theorem Invocation.of_parse {words : List Text} {invocation : Invocation}
    (h : parse words = .ok invocation) :
    invocation.task.Numeric ∧
      ∀ request ∈ invocation.task.requests, ∀ t ∈ request.texts, t ∈ words := by
  unfold parse at h
  cases hparse : Arguments.parse words with
  | error stop =>
    rw [hparse] at h
    cases h
  | ok arguments =>
    rw [hparse] at h
    dsimp only at h
    unfold ofArguments at h
    split at h
    next => cases h
    next =>
      cases htask : Task.ofMessage arguments.monitor arguments.kind arguments.message with
      | error misuse =>
        rw [htask] at h
        cases h
      | ok task =>
        rw [htask] at h
        obtain rfl := Except.ok.inj h
        obtain ⟨hnumeric, htexts⟩ := Task.of_ofMessage htask
        have hsuffix := Arguments.message_suffix hparse
        exact ⟨hnumeric, fun request hrequest t ht =>
          hsuffix.subset (htexts request hrequest t ht)⟩

end CommandLine

end DwmIpc
