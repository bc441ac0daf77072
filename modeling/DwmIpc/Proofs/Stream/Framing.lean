import DwmIpc.Proofs.Frame
import DwmIpc.Proofs.Stream.Flow
import DwmIpc.Proofs.Transcript

/-!
# Reading messages from a flow

A message is read off a flow as its frame: `readMessage_frame` takes the first
frame and touches no byte behind it. Where the flow ends too early, the read
fails, and how it fails depends on where the flow ends: before a header, inside
one, or inside a payload (`readMessage_headerShort`, `readMessage_payloadShort`,
put together in `cutFailure`).

The main result, `reads_return_whole_frames`, is about a stream of frames that is
cut anywhere: repeated reads return the frames that lie wholly in front of the
cut (`WholeFrames`), and the next read tells whether the cut was between two
frames. It is an induction over the frames; each is whole or holds the cut.
-/

namespace DwmIpc.Endpoint

open Incoming

/-! ## One message -/

/-- A header is taken off a flow that holds one. -/
theorem readHeader_enough {e : Endpoint} (enough : headerSize ≤ (flow e.incoming).length) :
    ∃ did rest, readHeader e = ⟨Header.decode (flow e.incoming), did, { e with incoming := rest }⟩ ∧
      flow rest = (flow e.incoming).drop headerSize ∧ barrier rest = barrier e.incoming := by
  obtain ⟨did, rest, hrun, hflow, hbarrier⟩ := readExactly_enough enough
  refine ⟨?_, rest, ?run, hflow, hbarrier⟩
  case run =>
    rw [readHeader, Action.bind_ok hrun, Header.decode_take enough]
    rfl

/-- A flow that ends inside a header ends the read. -/
theorem readMessage_headerShort {e : Endpoint} (short : (flow e.incoming).length < headerSize) :
    ∃ did, readMessage e =
      ⟨.error (stopped (flow e.incoming).length headerSize (barrier e.incoming)), did,
        { e with incoming := (barrier e.incoming).tail }⟩ := by
  obtain ⟨did, hrun⟩ := readExactly_short short
  have hheader : readHeader e = _ := Action.bind_error hrun
  exact ⟨did, Action.bind_error hheader⟩

/-- A whole payload behind a header makes a message. -/
theorem readMessage_enough {e : Endpoint} {header : Header}
    (hheader : Header.decode (flow e.incoming) = .ok header)
    (enough : headerSize + header.size ≤ (flow e.incoming).length) :
    ∃ did rest, readMessage e =
        ⟨.ok ⟨header.type, ((flow e.incoming).drop headerSize).take header.size⟩, did,
          { e with incoming := rest }⟩ ∧
      flow rest = (flow e.incoming).drop (headerSize + header.size) ∧
      barrier rest = barrier e.incoming := by
  obtain ⟨did, rest, hrun, hflow, hbarrier⟩ :=
    readHeader_enough (Nat.le_trans (Nat.le_add_right ..) enough)
  rw [hheader] at hrun
  have hpayload : header.size ≤ (flow { e with incoming := rest }.incoming).length := by
    rw [hflow, List.length_drop]; omega
  obtain ⟨did', rest', hrun', hflow', hbarrier'⟩ := readExactly_enough hpayload
  refine ⟨?_, rest', ?run, ?_, hbarrier'.trans hbarrier⟩
  case run =>
    rw [readMessage, Action.bind_ok hrun, Action.bind_ok (Action.mapFailure_ok hrun'), hflow]
    rfl
  · rw [hflow', hflow, List.drop_drop]

/-- A flow that ends inside a payload ends the read. -/
theorem readMessage_payloadShort {e : Endpoint} {header : Header}
    (hheader : Header.decode (flow e.incoming) = .ok header)
    (enough : headerSize ≤ (flow e.incoming).length)
    (short : (flow e.incoming).length < headerSize + header.size) :
    ∃ did, readMessage e =
      ⟨.error (cutOff (stopped ((flow e.incoming).length - headerSize) header.size
        (barrier e.incoming))), did, { e with incoming := (barrier e.incoming).tail }⟩ := by
  obtain ⟨did, rest, hrun, hflow, hbarrier⟩ := readHeader_enough enough
  rw [hheader] at hrun
  have hpayload : (flow { e with incoming := rest }.incoming).length < header.size := by
    rw [hflow, List.length_drop]; omega
  obtain ⟨did', hrun'⟩ := readExactly_short hpayload
  refine ⟨did ++ did', ?_⟩
  rw [readMessage, Action.bind_ok hrun, Action.bind_error (Action.mapFailure_error hrun'), hflow,
    hbarrier, List.length_drop]

/-- A frame at the front of the flow is read as its message, and no byte behind it is touched. -/
theorem readMessage_frame {e : Endpoint} {m : Message} {rest : Bytes} (fits : m.Fits)
    (hflow : flow e.incoming = m.frame ++ rest) :
    ∃ did left, readMessage e = ⟨.ok m, did, { e with incoming := left }⟩ ∧
      flow left = rest ∧ barrier left = barrier e.incoming := by
  have hheader : Header.decode (flow e.incoming) = .ok ⟨m.type, m.payload.length⟩ := by
    rw [hflow]; exact Message.decodeHeader_frame_append fits rest
  have hlength : headerSize + m.payload.length = m.frame.length := (Message.length_frame m).symm
  have enough : headerSize + m.payload.length ≤ (flow e.incoming).length := by
    rw [hlength, hflow, List.length_append]; exact Nat.le_add_right ..
  obtain ⟨did, left, hrun, hleft, hbarrier⟩ := readMessage_enough hheader enough
  have hpayload : ((flow e.incoming).drop headerSize).take m.payload.length = m.payload := by
    rw [hflow, Message.frame, List.append_assoc, List.drop_left' (Header.length_bytes _),
      List.take_left]
  refine ⟨did, left, ?_, ?_, hbarrier⟩
  · rw [hrun, hpayload]
  · rw [hleft, hlength, hflow, List.drop_left]

/-- A message without payload is read by the calls that read its header. -/
theorem readMessage_emptyPayload {e : Endpoint} {m : Message} (h : (readMessage e).value = .ok m)
    (hempty : m.payload = []) :
    Notice.asked (readMessage e).did = Notice.asked (readExactly headerSize e).did ∧
      (readMessage e).state = (readExactly headerSize e).state := by
  obtain ⟨header, did, t, hheader, hbody⟩ := Action.exists_of_bind_ok h
  obtain ⟨payload, did', t', hpayload, hreturn⟩ := Action.exists_of_bind_ok hbody
  obtain ⟨bytes, did₀, t₀, hbytes, -⟩ := Action.exists_of_bind_ok (congrArg Run.value hheader)
  -- the payload has the length that the header states
  have hm : (⟨header.type, payload⟩ : Message) = m := by
    rw [log, Action.tell_bind, Action.pure_apply, Except.ok.injEq] at hreturn
    exact hreturn
  have hlength : payload.length = header.size :=
    length_of_readExactly (Action.value_of_mapFailure (congrArg Run.value hpayload))
  subst hm
  have hzero : header.size = 0 := by
    rw [← hlength, show payload = [] from hempty, List.length_nil]
  -- so behind the header nothing is asked for
  rw [readMessage, Action.bind_ok hheader, hzero,
    Action.bind_ok (Action.mapFailure_ok (readExactly_zero t)), hbytes]
  rw [readHeader, Action.bind_ok hbytes, Action.tell_bind, Run.mk.injEq] at hheader
  obtain ⟨-, rfl, rfl⟩ := hheader
  simp [log, Action.tell_bind, Action.pure_apply, Action.ofExcept]

/-! ## Reading sends nothing -/

/-- A composition of actions that send nothing sends nothing. -/
theorem accepted_bind {σ α β : Type} {m : Action Notice σ α} {f : α → Action Notice σ β}
    (hm : ∀ s, Notice.accepted (m s).did = []) (hf : ∀ a s, Notice.accepted (f a s).did = [])
    (s : σ) : Notice.accepted ((m >>= f) s).did = [] := by
  have hfirst := hm s
  cases hrun : m s with
  | mk value did t =>
    rw [hrun] at hfirst
    cases value with
    | ok a =>
      rw [Action.bind_ok hrun]
      show Notice.accepted (did ++ (f a t).did) = []
      rw [Notice.accepted_append, hf a t, List.append_nil]
      exact hfirst
    | error failure =>
      rw [Action.bind_error hrun]
      exact hfirst

theorem accepted_readHeader (e : Endpoint) : Notice.accepted (readHeader e).did = [] := by
  refine accepted_bind (accepted_readExactly _) (fun bytes => ?_) e
  refine accepted_bind (fun e => ?_) (fun _ _ => rfl)
  exact Notice.accepted_map_log _

theorem accepted_readMessage (e : Endpoint) : Notice.accepted (readMessage e).did = [] := by
  refine accepted_bind accepted_readHeader (fun header => ?_) e
  refine accepted_bind (accepted_readExactly header.size) (fun payload => ?_)
  exact accepted_bind (fun _ => rfl) (fun _ _ => rfl)

/-! ## A stream that ends somewhere -/

/-- The stream ends here: the script is over, or a call is to get no bytes. -/
def EndOfStream (incoming : List Incoming) : Prop :=
  incoming = [] ∨ ∃ more, incoming = .chunk [] :: more

/-- Where a stream ends, reading stops for its end. -/
theorem EndOfStream.stopped_eq {incoming : List Incoming} (h : EndOfStream incoming)
    (got expected : Nat) : stopped got expected incoming = endOfStream got expected := by
  rcases h with rfl | ⟨more, rfl⟩ <;> rfl

/-- Nothing is read from a stream that ends before the first byte. -/
theorem readMessage_atEnd {e : Endpoint} (hflow : flow e.incoming = [])
    (hend : EndOfStream (barrier e.incoming)) :
    ∃ did, readMessage e = ⟨.error (.closedBeforeData headerSize), did,
      { e with incoming := (barrier e.incoming).tail }⟩ := by
  have hshort : (flow e.incoming).length < headerSize := by rw [hflow]; decide
  obtain ⟨did, hrun⟩ := readMessage_headerShort hshort
  rw [hend.stopped_eq, hflow] at hrun
  exact ⟨did, hrun⟩

/-- How a read fails when the stream ends `arrived` bytes into the frame of `m`. -/
def cutFailure (m : Message) (arrived : Nat) : Failure :=
  if arrived < headerSize then endOfStream arrived headerSize
  else cutOff (endOfStream (arrived - headerSize) m.payload.length)

/-- A frame that is cut off is no message. -/
theorem readMessage_cut {e : Endpoint} {m : Message} (fits : m.Fits)
    (hcut : flow e.incoming <+: m.frame) (short : (flow e.incoming).length < m.frame.length)
    (hend : EndOfStream (barrier e.incoming)) :
    (readMessage e).value = .error (cutFailure m (flow e.incoming).length) := by
  rw [Message.length_frame] at short
  by_cases hlong : headerSize ≤ (flow e.incoming).length
  · -- the header has arrived, and says how long the payload was to be
    obtain ⟨did, hrun⟩ :=
      readMessage_payloadShort (Message.decodeHeader_cut fits hcut hlong) hlong short
    rw [hrun, cutFailure, if_neg (Nat.not_lt.2 hlong), hend.stopped_eq]
  · obtain ⟨did, hrun⟩ := readMessage_headerShort (Nat.lt_of_not_le hlong)
    rw [hrun, cutFailure, if_pos (Nat.lt_of_not_le hlong), hend.stopped_eq]

/-- An end before the first byte is early, and else something is cut off. -/
theorem label?_endOfStream (got expected : Nat) :
    (endOfStream got expected).label? =
      some (if got = 0 then "EarlyEOFError" else "TruncatedMessageError") := by
  unfold endOfStream
  split <;> rfl

/-- Behind the header every end cuts something off. -/
theorem label?_cutOff_endOfStream (got expected : Nat) :
    (cutOff (endOfStream got expected)).label? = some "TruncatedMessageError" := by
  unfold endOfStream
  split <;> rfl

/-- A stream that ends between two frames was closed before the next message; anywhere else it was
cut in the middle of one. -/
theorem label?_cutFailure (m : Message) (arrived : Nat) :
    (cutFailure m arrived).label? =
      some (if arrived = 0 then "EarlyEOFError" else "TruncatedMessageError") := by
  unfold cutFailure
  split
  next => exact label?_endOfStream ..
  next behind =>
    -- a whole header has arrived
    have hsome : arrived ≠ 0 := by
      rintro rfl
      exact behind (by decide)
    rw [label?_cutOff_endOfStream, if_neg hsome]

/-- Just the first `n` of the frames lie wholly inside the bytes. -/
structure WholeFrames (frames : List Message) (bytes : Bytes) (n : Nat) : Prop where
  le : n ≤ frames.length
  inside : (frames.take n).flatMap Message.frame <+: bytes
  most : ∀ k ≤ frames.length, (frames.take k).flatMap Message.frame <+: bytes → k ≤ n

/-- No frame is whole if the first one is not. -/
theorem WholeFrames.zero {frames : List Message} {bytes : Bytes}
    (h : ∀ m ∈ frames.head?, ¬m.frame <+: bytes) : WholeFrames frames bytes 0 where
  le := Nat.zero_le _
  inside := List.nil_prefix
  most := by
    intro k hk hinside
    match frames, k with
    | _, 0 => exact Nat.le_refl 0
    | m :: rest, k + 1 =>
      rw [List.take_succ_cons, List.flatMap_cons] at hinside
      exact absurd ((List.prefix_append ..).trans hinside) (h m rfl)

/-- A frame in front is one more whole frame. -/
theorem WholeFrames.cons {m : Message} {frames : List Message} {bytes : Bytes} {n : Nat}
    (h : WholeFrames frames bytes n) : WholeFrames (m :: frames) (m.frame ++ bytes) (n + 1) where
  le := Nat.succ_le_succ h.le
  inside := by
    rw [List.take_succ_cons, List.flatMap_cons]
    exact (List.prefix_append_right_inj _).2 h.inside
  most := by
    intro k hk hinside
    match k with
    | 0 => exact Nat.zero_le _
    | k + 1 =>
      rw [List.take_succ_cons, List.flatMap_cons, List.prefix_append_right_inj] at hinside
      exact Nat.succ_le_succ (h.most k (Nat.le_of_succ_le_succ hk) hinside)

/-- Repeated reads of a stream of frames that ends anywhere: first the whole frames, then one
failure, which tells whether the stream ended between two frames. -/
theorem transcript_readMessage {frames : List Message} (fits : ∀ m ∈ frames, m.Fits) {e : Endpoint}
    (hflow : flow e.incoming <+: frames.flatMap Message.frame)
    (hend : EndOfStream (barrier e.incoming)) :
    ∃ n failure, WholeFrames frames (flow e.incoming) n ∧
      (Action.transcript (List.replicate (n + 1) readMessage) e).map (·.value) =
        (frames.take n).map .ok ++ [.error failure] ∧
      failure.label? = some (if flow e.incoming = (frames.take n).flatMap Message.frame
        then "EarlyEOFError" else "TruncatedMessageError") := by
  induction frames generalizing e with
  | nil =>
    have hnil : flow e.incoming = [] := List.prefix_nil.1 hflow
    obtain ⟨did, hrun⟩ := readMessage_atEnd hnil hend
    refine ⟨0, .closedBeforeData headerSize, .zero (by simp), ?_, ?_⟩
    · simp [Action.transcript, hrun]
    · rw [hnil]; rfl
  | cons m rest ih =>
    rw [List.flatMap_cons] at hflow
    by_cases hwhole : m.frame <+: flow e.incoming
    · -- the first frame is whole: it is read, and the rest of the stream is a shorter one
      obtain ⟨more, hmore⟩ := hwhole
      rw [← hmore, List.prefix_append_right_inj] at hflow
      obtain ⟨did, left, hrun, hleft, hbarrier⟩ :=
        readMessage_frame (fits m (List.mem_cons_self ..)) hmore.symm
      obtain ⟨n, failure, hn, hvalues, hlabel⟩ := ih (e := { e with incoming := left })
        (fun m' hm' => fits m' (List.mem_cons_of_mem _ hm')) (hleft ▸ hflow) (hbarrier ▸ hend)
      refine ⟨n + 1, failure, ?_, ?_, ?_⟩
      · rw [← hmore, ← hleft]; exact hn.cons
      · rw [List.replicate_succ, Action.transcript, List.map_cons, hrun, hvalues]
        rfl
      · rw [hlabel, List.take_succ_cons, List.flatMap_cons, ← hmore, hleft]
        simp only [List.append_cancel_left_eq]
    · -- the stream ends in front of the end of the first frame
      have hcut : flow e.incoming <+: m.frame :=
        (List.prefix_or_prefix_of_prefix hflow (List.prefix_append ..)).resolve_right hwhole
      have hshort : (flow e.incoming).length < m.frame.length := by
        refine Nat.lt_of_le_of_ne hcut.length_le fun heq => hwhole ⟨[], ?_⟩
        rw [List.append_nil, hcut.eq_of_length heq]
      have hfail := readMessage_cut (fits m (List.mem_cons_self ..)) hcut hshort hend
      refine ⟨0, cutFailure m (flow e.incoming).length, .zero (by simpa using hwhole), ?_, ?_⟩
      · simp [Action.transcript, hfail]
      · rw [label?_cutFailure, List.take_zero, List.flatMap_nil]
        simp only [List.length_eq_zero_iff]

/-- **A stream of frames that is cut anywhere.** Let `bytes` be the beginning of a stream of encoded
messages, delivered in chunks of any kind and followed by the end of the stream. Repeated reads
return just the messages whose frames lie wholly inside `bytes`, in order; the next read fails, in
one way if `bytes` ends between two frames and in another if it ends inside one. A message without
payload takes no call but those that read its header. -/
theorem reads_return_whole_frames {frames : List Message} (fits : ∀ m ∈ frames, m.Fits)
    {bytes : Bytes} (begins : bytes <+: frames.flatMap Message.frame) {e : Endpoint}
    {script ending : List Incoming} (delivers : Delivers script bytes) (ends : EndOfStream ending)
    (hincoming : e.incoming = script ++ ending) :
    (∀ m ∈ frames, Message.encode m.type.toNat m.payload = .ok m.frame) ∧
    (∃ n failure, WholeFrames frames bytes n ∧
      (Action.transcript (List.replicate (n + 1) readMessage) e).map (·.value) =
        (frames.take n).map .ok ++ [.error failure] ∧
      failure.label? = some (if bytes = (frames.take n).flatMap Message.frame
        then "EarlyEOFError" else "TruncatedMessageError")) ∧
    ∀ (e : Endpoint) (m : Message), (readMessage e).value = .ok m → m.payload = [] →
      Notice.asked (readMessage e).did = Notice.asked (readExactly headerSize e).did ∧
        (readMessage e).state = (readExactly headerSize e).state := by
  refine ⟨fun m hm => Message.encode_eq_frame (fits m hm), ?_,
    fun e m => readMessage_emptyPayload⟩
  obtain ⟨hflow, hbarrier⟩ := delivers.views_append ending
  have hbytes : flow e.incoming = bytes := by
    rw [hincoming, hflow]
    rcases ends with rfl | ⟨more, rfl⟩ <;> exact List.append_nil _
  have hend : EndOfStream (barrier e.incoming) := by
    rw [hincoming, hbarrier]
    rcases ends with rfl | ⟨more, rfl⟩
    · exact Or.inl rfl
    · exact Or.inr ⟨more, rfl⟩
  subst hbytes
  exact transcript_readMessage fits begins hend

/-- An event without payload and eight bytes of a reply, in two chunks with a fault between them. -/
theorem reads_return_event_of_cut_reply :
    let frames : List Message := [⟨6, []⟩, ⟨5, [1, 2]⟩]
    let bytes := (frames.flatMap Message.frame).take 20
    let e : Endpoint := ⟨[.chunk (bytes.take 5), .fault (.numbered 11 []), .chunk (bytes.drop 5)] ++
      [.chunk [], .chunk [7]], [], none, none⟩
    Delivers [.chunk (bytes.take 5), .fault (.numbered 11 []), .chunk (bytes.drop 5)] bytes ∧
      ∃ failure, (Action.transcript [readMessage, readMessage] e).map (·.value) =
          [.ok ⟨6, []⟩, .error failure] ∧
        failure.label? = some "TruncatedMessageError" := by
  intro frames bytes e
  have hdelivers : Delivers [.chunk (bytes.take 5), .fault (.numbered 11 []), .chunk (bytes.drop 5)]
      bytes := .in_two (by decide) (by decide) rfl
  refine ⟨hdelivers, ?_⟩
  have hfits : ∀ m ∈ frames, m.Fits := by decide
  obtain ⟨-, ⟨n, failure, hn, hvalues, hlabel⟩, -⟩ := reads_return_whole_frames hfits
    (List.take_prefix 20 _) hdelivers (Or.inr ⟨[.chunk [7]], rfl⟩) (e := e) rfl
  have hone : 1 ≤ n := hn.most 1 (by decide) (by decide)
  have htwo : n ≠ 2 := by
    rintro rfl
    exact absurd hn.inside (by decide)
  have hle : n ≤ 2 := hn.le
  obtain rfl : n = 1 := by omega
  exact ⟨failure, hvalues, by rw [hlabel]; decide⟩

end DwmIpc.Endpoint
