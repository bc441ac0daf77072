import DwmIpc.Proofs.Stream.Sending
import DwmIpc.Proofs.Transcript

/-!
# Sending to any socket

What is sent goes out in calls, each of which offers all that the ones before it
have left, and meets the next item of the socket's plan. `Sent` says what this
comes to, whatever the plan: the socket has accepted a prefix of the data, and all
of them just if sending succeeds; sending fails just if a call met a fault that is
not transient, and every call was made with something left to offer.

One call in front of others keeps this (`Sent.call`), so it holds of the loop
(`sent_sendAll`). A message is two loops, one for its header and one for its
payload, which share the plan: the second begins where the first one ended
(`Sent.append`, `sent_writeMessage`).
-/

namespace DwmIpc

/-- What is accepted of the bytes that a call offers. When the plan is used up, that is all. -/
def Outgoing.taken : Option Outgoing → Bytes → Bytes
  | none, bytes => bytes
  | some (.room count), bytes => bytes.take count
  | some (.fault _), _ => []

namespace Endpoint

open Notice

/-- One of the first calls met the fault, which is not transient. -/
def Met (plan : List Outgoing) (calls : Nat) (f : Fault) : Prop :=
  .fault f ∈ plan.take calls ∧ ¬f.isTransient = true

/-- A fault is met in the first call or in those after it. -/
theorem met_succ_iff {plan : List Outgoing} {calls : Nat} {f : Fault} :
    Met plan (calls + 1) f ↔
      (plan[0]? = some (.fault f) ∧ ¬f.isTransient = true) ∨ Met plan.tail calls f := by
  cases plan with
  | nil => simp [Met]
  | cons item rest =>
    rw [Met, Met, List.take_succ_cons, List.mem_cons, or_and_right]
    simp only [List.getElem?_cons_zero, Option.some.injEq, List.tail_cons, eq_comm]

/-- A fault is met in some calls or in those after them. -/
theorem met_add_iff {plan : List Outgoing} {calls more : Nat} {f : Fault} :
    Met plan (calls + more) f ↔ Met plan calls f ∨ Met (plan.drop calls) more f := by
  rw [Met, Met, Met, List.take_add, List.mem_append, or_and_right]

/-- What became of data that were sent, if `unsent` is what is to be offered when so many bytes were
accepted. -/
structure Sent (unsent : Nat → Bytes) (data : Bytes) (plan : List Outgoing)
    (value : Except Failure Unit) (did : List Notice) (left : List Outgoing) : Prop where
  begins : accepted did <+: data
  whole : value = .ok () ↔ accepted did = data
  offers : ∀ i offered bytes, (offers did)[i]? = some (offered, bytes) →
    let rest := unsent (((Notice.offers did).take i).flatMap Prod.snd).length
    rest ≠ [] ∧ offered = rest ∧ bytes = Outgoing.taken plan[i]? rest
  fails : ∀ failure, value = .error failure ↔
    ∃ f, Met plan (Notice.offers did).length f ∧
      failure = if f.isSystem then .writeFailed f else .raised f
  left : left = plan.drop (Notice.offers did).length

/-! ## The loop -/

/-- Nothing to send: no call. -/
theorem Sent.nothing (unsent : Nat → Bytes) (plan : List Outgoing) :
    Sent unsent [] plan (.ok ()) [] plan where
  begins := List.nil_prefix
  whole := ⟨fun _ => rfl, fun _ => rfl⟩
  offers := by
    intro i offered bytes h
    simp at h
  fails := by
    intro failure
    simp [Met]
  left := rfl

/-- A call that gets some bytes accepted, in front of those that send the others. -/
theorem Sent.call (plan : List Outgoing) (bytes : Bytes) {left : List Outgoing} {more : Bytes}
    {value : Except Failure Unit} {did : List Notice}
    (h : Sent more.drop more plan.tail value did left)
    (nonempty : bytes ++ more ≠ []) (htaken : bytes = Outgoing.taken plan[0]? (bytes ++ more))
    (harmless : ∀ f, plan[0]? = some (.fault f) → f.isTransient = true) :
    Sent (bytes ++ more).drop (bytes ++ more) plan value
      (.call (.send ⟨bytes ++ more⟩ bytes) :: did) left where
  begins := (List.prefix_append_right_inj _).2 h.begins
  whole := by rw [h.whole, accepted_cons_send, List.append_cancel_left_eq]
  offers := by
    intro i offered taken hi
    rw [offers_cons_send] at hi ⊢
    cases i with
    | zero =>
      obtain ⟨rfl, rfl⟩ : bytes ++ more = offered ∧ bytes = taken := by simpa using hi
      exact ⟨nonempty, rfl, htaken⟩
    | succ i =>
      -- what this call got accepted is in front of what the others did
      have hdrop (n : Nat) : (bytes ++ more).drop (bytes.length + n) = more.drop n := by
        rw [← List.drop_drop, List.drop_left]
      have hplan : plan[i + 1]? = plan.tail[i]? := List.getElem?_tail.symm
      rw [List.getElem?_cons_succ] at hi
      rw [hplan, List.take_succ_cons, List.flatMap_cons, List.length_append, hdrop]
      exact h.offers i offered taken hi
  fails := by
    intro failure
    rw [h.fails]
    refine exists_congr fun f => and_congr_left fun _ => ?_
    rw [offers_cons_send, List.length_cons, met_succ_iff]
    constructor
    · exact .inr
    · rintro (⟨hitem, lasting⟩ | hmet)
      · exact absurd (harmless f hitem) lasting
      · exact hmet
  left := by rw [h.left, offers_cons_send, List.length_cons, List.drop_tail]

/-- A call that meets a fault that is not transient is the last one. -/
theorem Sent.stop {f : Fault} {plan : List Outgoing} {data : Bytes} (nonempty : data ≠ [])
    (lasting : ¬f.isTransient = true) :
    Sent data.drop data (.fault f :: plan) (.error (failureOf .writeFailed f))
      [.call (.send ⟨data⟩ [])] plan where
  begins := List.nil_prefix
  whole := iff_of_false (fun h => nomatch h) fun h => nonempty h.symm
  offers := by
    intro i offered bytes hi
    cases i with
    | zero =>
      obtain ⟨rfl, rfl⟩ : data = offered ∧ [] = bytes := by simpa using hi
      exact ⟨nonempty, rfl, rfl⟩
    | succ i => simp at hi
  fails := by
    intro failure
    show Except.error (if f.isSystem then .writeFailed f else .raised f) = .error failure ↔ _
    constructor
    · intro h
      exact ⟨f, ⟨List.mem_singleton_self _, lasting⟩, (Except.error.inj h).symm⟩
    · rintro ⟨g, ⟨hmem, -⟩, rfl⟩
      obtain rfl : g = f := Outgoing.fault.inj (List.mem_singleton.1 hmem)
      rfl
  left := rfl

/-- What became of data that one loop sends. -/
theorem sent_sendAll (data : Bytes) (plan : List Outgoing) :
    let run := sendAll data plan
    Sent data.drop data plan run.value run.did run.state := by
  fun_induction sendAll data plan with
  | case1 data =>
    -- the plan is used up: one call for all that there is
    by_cases hempty : data = []
    · subst hempty
      exact .nothing _ _
    · have hcall := (Sent.nothing _ _).call [] data
        (List.append_ne_nil_of_left_ne_nil hempty []) (List.append_nil data).symm (by simp)
      rw [List.append_nil] at hcall
      rw [if_neg (mt List.isEmpty_iff.1 hempty)]
      exact hcall
  | case2 data next rest hempty =>
    rw [List.isEmpty_iff] at hempty
    subst hempty
    exact .nothing _ _
  | case3 data rest hsome count ih =>
    -- the call takes what there is room for off the front
    have hcall := ih.call (.room count :: rest) (data.take count)
      (by rw [List.take_append_drop]; exact mt List.isEmpty_iff.2 hsome)
      (by rw [List.take_append_drop]; rfl) (by simp)
    rw [List.take_append_drop] at hcall
    exact hcall
  | case4 data rest hsome f transient ih =>
    -- nothing was accepted: the next call offers the same
    refine ih.call (.fault f :: rest) [] (mt List.isEmpty_iff.2 hsome) rfl ?_
    intro g hg
    obtain rfl : f = g := by simpa using hg
    exact transient
  | case5 data rest hsome f lasting => exact .stop (mt List.isEmpty_iff.2 hsome) lasting

/-- A plan of so many items is used up by as many calls, and then one call is enough. -/
theorem length_offers_sendAll (data : Bytes) (plan : List Outgoing) :
    (offers (sendAll data plan).did).length ≤ plan.length + 1 := by
  fun_induction sendAll data plan with
  | case1 data => split <;> simp
  | case2 => simp
  | case3 data rest _ count ih => exact Nat.succ_le_succ ih
  | case4 data rest _ f _ ih => exact Nat.succ_le_succ ih
  | case5 => simp

/-! ## Messages -/

/-- What is to be offered of a header and a payload when so many bytes of them were accepted: the
rest of the header, and behind it the rest of the payload. -/
def unsent (header payload : Bytes) (accepted : Nat) : Bytes :=
  if accepted < header.length then header.drop accepted
  else payload.drop (accepted - header.length)

/-- As long as some of the header is unsent, the payload is not offered. -/
theorem unsent_of_drop_ne_nil {header : Bytes} {n : Nat} (h : header.drop n ≠ [])
    (payload : Bytes) : unsent header payload n = header.drop n := by
  rw [ne_eq, List.drop_eq_nil_iff] at h
  rw [unsent, if_pos (Nat.lt_of_not_le h)]

/-- Behind the header the payload is offered. -/
theorem unsent_length_add (header payload : Bytes) (n : Nat) :
    unsent header payload (header.length + n) = payload.drop n := by
  rw [unsent, if_neg (Nat.not_lt.2 (Nat.le_add_right ..)), Nat.add_sub_cancel_left]

/-- A header that is not sent whole is not followed by anything. -/
theorem Sent.header_fails {header : Bytes} {plan left : List Outgoing} {failure : Failure}
    {did : List Notice} (h : Sent header.drop header plan (.error failure) did left)
    (payload : Bytes) :
    Sent (unsent header payload) (header ++ payload) plan (.error failure) did left where
  begins := h.begins.trans (List.prefix_append ..)
  whole := by
    refine iff_of_false (fun hok => nomatch hok) fun hall => ?_
    -- what was accepted is a part of the header, so it is all of it
    have hle := h.begins.length_le
    rw [hall, List.length_append] at hle
    have hnil : payload = [] := List.length_eq_zero_iff.1 (by omega)
    rw [hnil, List.append_nil] at hall
    cases h.whole.2 hall
  offers := by
    intro i offered bytes hi
    obtain ⟨hsome, hoffered⟩ := h.offers i offered bytes hi
    rw [unsent_of_drop_ne_nil hsome]
    exact ⟨hsome, hoffered⟩
  fails := h.fails
  left := h.left

/-- A header that is sent whole is followed by the payload, on what the plan has left. -/
theorem Sent.append {header payload : Bytes} {plan rest left : List Outgoing}
    {value : Except Failure Unit} {did did' : List Notice}
    (h : Sent header.drop header plan (.ok ()) did rest)
    (h' : Sent payload.drop payload rest value did' left) :
    Sent (unsent header payload) (header ++ payload) plan value (did ++ did') left := by
  have hheader : accepted did = header := h.whole.1 rfl
  have hrest := h.left
  refine ⟨?begins, ?whole, ?offers, ?fails, ?left⟩
  case begins =>
    rw [accepted_append, hheader]
    exact (List.prefix_append_right_inj _).2 h'.begins
  case whole => rw [h'.whole, accepted_append, hheader, List.append_cancel_left_eq]
  case offers =>
    intro i offered bytes hi
    rw [offers_append] at hi ⊢
    rcases Nat.lt_or_ge i (Notice.offers did).length with hfirst | hsecond
    · -- a call of the first loop
      rw [List.getElem?_append_left hfirst] at hi
      obtain ⟨hsome, hoffered⟩ := h.offers i offered bytes hi
      rw [List.take_append_of_le_length (Nat.le_of_lt hfirst), unsent_of_drop_ne_nil hsome]
      exact ⟨hsome, hoffered⟩
    · -- a call of the second one, before which the header was accepted
      rw [List.getElem?_append_right hsecond] at hi
      have hoffer := h'.offers _ offered bytes hi
      rw [hrest, List.getElem?_drop, Nat.add_sub_cancel' hsecond] at hoffer
      rw [List.take_append, List.take_of_length_le hsecond, List.flatMap_append,
        List.length_append, ← accepted_eq_flatMap_offers, hheader, unsent_length_add]
      exact hoffer
  case fails =>
    intro failure
    rw [h'.fails]
    refine exists_congr fun f => and_congr_left fun _ => ?_
    rw [offers_append, List.length_append, met_add_iff, ← hrest]
    constructor
    · exact .inr
    · rintro (hmet | hmet)
      · -- the first loop would have failed
        cases (h.fails _).2 ⟨f, hmet, rfl⟩
      · exact hmet
  case left => rw [h'.left, hrest, List.drop_drop, offers_append, List.length_append]

/-- Log records are no calls. -/
theorem Sent.log {unsent : Nat → Bytes} {data : Bytes} {plan left : List Outgoing}
    {value : Except Failure Unit} {did : List Notice} (h : Sent unsent data plan value did left)
    (records : List LogRecord) : Sent unsent data plan value (did ++ records.map .log) left := by
  have haccepted : accepted (did ++ records.map .log) = accepted did := by simp
  have hoffers : Notice.offers (did ++ records.map .log) = Notice.offers did := by simp
  refine ⟨?_, ?_, ?_, ?_, ?_⟩
  · rw [haccepted]; exact h.begins
  · rw [haccepted]; exact h.whole
  · rw [hoffers]; exact h.offers
  · rw [hoffers]; exact h.fails
  · rw [hoffers]; exact h.left

variable {e : Endpoint} {type : Int} {header payload : Bytes} {did : List Notice}
  {rest : List Outgoing}

/-- If the header cannot be sent, the payload is not offered. -/
theorem writeMessage_header_fails {failure : Failure}
    (hheader : Header.encode type payload.length = .ok header)
    (hfirst : sendAll header e.outgoing = ⟨.error failure, did, rest⟩) :
    writeMessage type payload e = ⟨.error failure, did, { e with outgoing := rest }⟩ := by
  have hwrite : writeExactly header e = ⟨.error failure, did, { e with outgoing := rest }⟩ := by
    rw [writeExactly, hfirst]
  rw [writeMessage, hheader, Action.ofExcept_ok_bind, Action.bind_error hwrite]

/-- Once the header is sent, sending the message comes to what sending the payload does. -/
theorem writeMessage_header_sent (hheader : Header.encode type payload.length = .ok header)
    (hfirst : sendAll header e.outgoing = ⟨.ok (), did, rest⟩) :
    ∃ records : List LogRecord, writeMessage type payload e =
      ⟨(sendAll payload rest).value, did ++ ((sendAll payload rest).did ++ records.map .log),
        { e with outgoing := (sendAll payload rest).state }⟩ := by
  have hwrite : writeExactly header e = ⟨.ok (), did, { e with outgoing := rest }⟩ := by
    rw [writeExactly, hfirst]
  rw [writeMessage, hheader, Action.ofExcept_ok_bind, Action.bind_ok hwrite]
  cases hsecond : sendAll payload rest with
  | mk value did' left =>
    have hwrite' : writeExactly payload { e with outgoing := rest } =
        ⟨value, did', { e with outgoing := left }⟩ := by
      rw [writeExactly, hsecond]
    cases value with
    | error failure =>
      refine ⟨[], ?_⟩
      rw [Action.bind_error hwrite', List.map_nil, List.append_nil]
    | ok _ =>
      rw [Action.bind_ok hwrite']
      exact ⟨[_], rfl⟩

/-- What became of a message whose header can be made. -/
theorem sent_writeMessage (hheader : Header.encode type payload.length = .ok header) :
    let run := writeMessage type payload e
    Sent (unsent header payload) (header ++ payload) e.outgoing run.value run.did
      run.state.outgoing := by
  cases hfirst : sendAll header e.outgoing with
  | mk value did rest =>
    have hsent : Sent header.drop header e.outgoing value did rest := by
      simpa only [hfirst] using sent_sendAll header e.outgoing
    cases value with
    | error failure =>
      rw [writeMessage_header_fails hheader hfirst]
      exact hsent.header_fails payload
    | ok _ =>
      obtain ⟨records, hwrite⟩ := writeMessage_header_sent hheader hfirst
      rw [hwrite]
      exact hsent.append ((sent_sendAll payload rest).log records)

-- the socket takes the header and, after a delay, one byte of the payload, and then breaks
example :
    offers (writeMessage 2 [91, 93] ⟨[], [.room 12, .fault (.numbered 4 []), .room 0, .room 1,
      .fault (.numbered 32 [])], none, none⟩).did =
        [(Header.bytes ⟨2, 2⟩, Header.bytes ⟨2, 2⟩), ([91, 93], []), ([91, 93], []), ([91, 93], [91]),
          ([93], [])] := by
  decide

/-- A plan of so many items is used up by as many calls, and then each part takes one call. -/
theorem length_offers_writeMessage (hheader : Header.encode type payload.length = .ok header) :
    (offers (writeMessage type payload e).did).length ≤ e.outgoing.length + 2 := by
  cases hfirst : sendAll header e.outgoing with
  | mk value did rest =>
    have hleft : rest = e.outgoing.drop (offers did).length := by
      simpa only [hfirst] using (sent_sendAll header e.outgoing).left
    have hheader_calls : (offers did).length ≤ e.outgoing.length + 1 := by
      simpa only [hfirst] using length_offers_sendAll header e.outgoing
    cases value with
    | error failure =>
      rw [writeMessage_header_fails hheader hfirst]
      exact Nat.le_succ_of_le hheader_calls
    | ok _ =>
      obtain ⟨records, hwrite⟩ := writeMessage_header_sent hheader hfirst
      have hpayload_calls := length_offers_sendAll payload rest
      have hrest : rest.length = e.outgoing.length - (offers did).length := by
        rw [hleft, List.length_drop]
      rw [hwrite]
      simp only [offers_append, offers_map_log, List.length_append, List.length_nil]
      omega

end Endpoint

end DwmIpc
