import DwmIpc.Proofs.Codec
import DwmIpc.Proofs.Stream.Framing

/-!
# The stream reader and the decoder

A message can be decoded from bytes in memory, or read from a socket that delivers
these bytes and then ends. Both come to the same (`readMessage_agrees_with_decode`):
the same message, the same complaint about a bad magic, and a failure of the
reader wherever the decoder finds the bytes cut off. Besides, the reader touches
no byte behind what it needs: `Coming` says which bytes are left.

The proof goes by the outcomes of the decoder. Each of them is a fact about the
bytes, and the lemmas about reading from a flow turn it into what the reader does.
-/

namespace DwmIpc.Endpoint

open Incoming

/-! ## What is still to come -/

/-- What is to be received is these bytes, cut anywhere and with transient faults in between, and
then what `ending` says. -/
def Coming (e : Endpoint) (bytes : Bytes) (ending : List Incoming) : Prop :=
  ∃ script, Delivers script bytes ∧ e.incoming = script ++ ending

/-- An end of the stream lets nothing through. -/
theorem EndOfStream.views {ending : List Incoming} (h : EndOfStream ending) :
    flow ending = [] ∧ barrier ending = ending := by
  rcases h with rfl | ⟨more, rfl⟩ <;> exact ⟨rfl, rfl⟩

/-- So what is coming is the flow, and the end is the barrier. -/
theorem coming_iff {e : Endpoint} {bytes : Bytes} {ending : List Incoming}
    (h : EndOfStream ending) :
    Coming e bytes ending ↔ flow e.incoming = bytes ∧ barrier e.incoming = ending := by
  obtain ⟨hflow, hbarrier⟩ := h.views
  constructor
  · rintro ⟨script, delivers, hincoming⟩
    obtain ⟨hfront, hbehind⟩ := delivers.views_append ending
    rw [hincoming, hfront, hbehind, hflow, hbarrier, List.append_nil]
    exact ⟨rfl, rfl⟩
  · rintro ⟨rfl, rfl⟩
    exact exists_delivers_append_barrier e.incoming

/-! ## A bad header -/

/-- No call asks for more than the header. -/
theorem asked_readHeader (e : Endpoint) :
    Notice.asked (readHeader e).did = Notice.asked (readExactly headerSize e).did := by
  cases hread : readExactly headerSize e with
  | mk value did t =>
    cases value with
    | ok bytes =>
      rw [readHeader, Action.bind_ok hread, Action.tell_bind]
      simp [Action.ofExcept]
    | error failure => rw [readHeader, Action.bind_error hread]

/-- After a bad header nothing is asked for, and what is behind it is still to come. -/
theorem readMessage_headerBad {e : Endpoint} {failure : Failure}
    (hheader : Header.decode (flow e.incoming) = .error failure)
    (enough : headerSize ≤ (flow e.incoming).length) :
    ∃ did rest, readMessage e = ⟨.error failure, did, { e with incoming := rest }⟩ ∧
      flow rest = (flow e.incoming).drop headerSize ∧ barrier rest = barrier e.incoming ∧
      Notice.asked did = Notice.asked (readExactly headerSize e).did := by
  obtain ⟨did, rest, hrun, hflow, hbarrier⟩ := readHeader_enough enough
  have hasked := asked_readHeader e
  rw [hheader] at hrun
  rw [hrun] at hasked
  exact ⟨did, rest, Action.bind_error hrun, hflow, hbarrier, hasked⟩

/-! ## Agreement -/

/-- What can be decoded is read, and no byte behind it. -/
theorem readMessage_decoded {e : Endpoint} {m : Message}
    (hdecode : Message.decode (flow e.incoming) = .ok m) :
    ∃ did left, readMessage e = ⟨.ok m, did, { e with incoming := left }⟩ ∧
      flow left = (flow e.incoming).drop (headerSize + m.payload.length) ∧
      barrier left = barrier e.incoming := by
  obtain ⟨hfits, hframe, -⟩ := Message.frame_of_decode hdecode
  refine readMessage_frame hfits ?_
  rw [hframe, List.take_append_drop]

/-- A bad magic is found by the header alone. -/
theorem readMessage_badMagic {e : Endpoint} {failure : Failure}
    (hdecode : Message.decode (flow e.incoming) = .error failure)
    (bad : failure.label? = some "BadMagicError") :
    headerSize ≤ (flow e.incoming).length ∧ ∃ did rest,
      readMessage e = ⟨.error failure, did, { e with incoming := rest }⟩ ∧
        flow rest = (flow e.incoming).drop headerSize ∧ barrier rest = barrier e.incoming ∧
        Notice.asked did = Notice.asked (readExactly headerSize e).did := by
  obtain ⟨long, hne⟩ := (Message.decode_badMagic_iff _).1 ⟨failure, hdecode, bad⟩
  have hheader := Header.decode_badMagic long hne
  rw [Message.decode, hheader] at hdecode
  obtain rfl := Except.error.inj hdecode
  exact ⟨long, readMessage_headerBad hheader long⟩

/-- A stream that is cut off inside a header or a payload is used up. If it ends there, the failure
tells whether there was anything of it. -/
theorem readMessage_truncated {e : Endpoint} {failure : Failure}
    (hdecode : Message.decode (flow e.incoming) = .error failure)
    (truncated : failure.label? = some "TruncatedMessageError") :
    ∃ failure did, readMessage e =
        ⟨.error failure, did, { e with incoming := (barrier e.incoming).tail }⟩ ∧
      (EndOfStream (barrier e.incoming) → failure.label? =
        some (if flow e.incoming = [] then "EarlyEOFError" else "TruncatedMessageError")) := by
  rcases Nat.lt_or_ge (flow e.incoming).length headerSize with short | long
  · obtain ⟨did, hrun⟩ := readMessage_headerShort short
    refine ⟨_, did, hrun, fun hend => ?_⟩
    rw [hend.stopped_eq, label?_endOfStream]
    simp only [List.length_eq_zero_iff]
  · -- the header is there, so it is the payload that is cut off
    obtain ⟨hmagic, hcut⟩ :=
      ((Message.decode_truncated_iff _).1 ⟨failure, hdecode, truncated⟩).resolve_left
        (Nat.not_lt.2 long)
    obtain ⟨did, hrun⟩ := readMessage_payloadShort (Header.decode_magic long hmagic) long hcut
    refine ⟨_, did, hrun, fun hend => ?_⟩
    have hsome : flow e.incoming ≠ [] := by
      intro hnil
      rw [hnil] at long
      exact absurd long (by decide)
    rw [hend.stopped_eq, label?_cutOff_endOfStream, if_neg hsome]

/-- What cannot be decoded is not read either. -/
theorem readMessage_undecoded {e : Endpoint} {failure : Failure}
    (hdecode : Message.decode (flow e.incoming) = .error failure) :
    ∃ failure did left, readMessage e = ⟨.error failure, did, { e with incoming := left }⟩ := by
  rcases Message.label?_of_decode hdecode with htruncated | hbad
  · obtain ⟨failure, did, hrun, -⟩ := readMessage_truncated hdecode htruncated
    exact ⟨failure, did, _, hrun⟩
  · obtain ⟨-, did, left, hrun, -⟩ := readMessage_badMagic hdecode hbad
    exact ⟨failure, did, left, hrun⟩

/-- **The stream reader and the decoder agree.** Let a socket deliver any bytes, in chunks of any
kind, and then end. If the bytes begin with a message, it is read, and the bytes behind it are still
to come. If they begin with another magic, the reader complains as the decoder does; it has taken
the header and asked for nothing else. If the bytes are cut off, the reader takes them all, and
fails in one way if there were none and in another if there were some. So a message is read just if
it is decoded. -/
theorem readMessage_agrees_with_decode {data : Bytes} {e : Endpoint} {ending : List Incoming}
    (coming : Coming e data ending) (ends : EndOfStream ending) :
    (∀ m, Message.decode data = .ok m →
      (readMessage e).value = .ok m ∧ 12 + m.payload.length ≤ data.length ∧
        Coming (readMessage e).state (data.drop (12 + m.payload.length)) ending) ∧
    (∀ failure, Message.decode data = .error failure → failure.label? = some "BadMagicError" →
      (readMessage e).value = .error failure ∧ 12 ≤ data.length ∧
        Coming (readMessage e).state (data.drop 12) ending ∧
        Notice.asked (readMessage e).did = Notice.asked (readExactly 12 e).did) ∧
    (∀ failure, Message.decode data = .error failure →
      failure.label? = some "TruncatedMessageError" →
      (∃ failure', (readMessage e).value = .error failure' ∧ failure'.label? =
          some (if data = [] then "EarlyEOFError" else "TruncatedMessageError")) ∧
        (readMessage e).state = { e with incoming := ending.tail }) ∧
    ∀ m, (readMessage e).value = .ok m ↔ Message.decode data = .ok m := by
  obtain ⟨rfl, rfl⟩ := (coming_iff ends).1 coming
  refine ⟨?_, ?_, ?_, fun m => ⟨fun hread => ?_, fun hdecode => ?_⟩⟩
  · intro m hdecode
    obtain ⟨did, left, hrun, hviews⟩ := readMessage_decoded hdecode
    rw [hrun]
    exact ⟨rfl, (Message.frame_of_decode hdecode).2.2, (coming_iff ends).2 hviews⟩
  · intro failure hdecode hbad
    obtain ⟨long, did, rest, hrun, hflow, hbarrier, hasked⟩ := readMessage_badMagic hdecode hbad
    rw [hrun]
    exact ⟨rfl, long, (coming_iff ends).2 ⟨hflow, hbarrier⟩, hasked⟩
  · intro failure hdecode htruncated
    obtain ⟨failure, did, hrun, hlabel⟩ := readMessage_truncated hdecode htruncated
    rw [hrun]
    exact ⟨⟨failure, rfl, hlabel ends⟩, rfl⟩
  · -- a reader that got something did not meet one of the failures
    cases hdecode : Message.decode (flow e.incoming) with
    | ok m' =>
      obtain ⟨did, left, hrun, -⟩ := readMessage_decoded hdecode
      rwa [hrun] at hread
    | error failure =>
      obtain ⟨failure, did, left, hrun⟩ := readMessage_undecoded hdecode
      rw [hrun] at hread
      cases hread
  · obtain ⟨did, left, hrun, -⟩ := readMessage_decoded hdecode
    rw [hrun]

/-- An event in two chunks and with another byte behind it, which is still to come. -/
theorem readMessage_leaves_byte_behind_event :
    let data := Message.frame ⟨6, [123, 125]⟩ ++ [9]
    let e : Endpoint := ⟨[.chunk (data.take 5), .fault (.numbered 11 []), .chunk (data.drop 5)] ++
      [.chunk []], [], none, none⟩
    Coming e data [.chunk []] ∧ EndOfStream [.chunk []] ∧
      Message.decode data = .ok ⟨6, [123, 125]⟩ ∧ (readMessage e).value = .ok ⟨6, [123, 125]⟩ ∧
      Coming (readMessage e).state [9] [.chunk []] := by
  intro data e
  have hcoming : Coming e data [.chunk []] :=
    ⟨_, .in_two (by decide) (by decide) rfl, rfl⟩
  have hends : EndOfStream [.chunk []] := .inr ⟨[], rfl⟩
  have hdecode : Message.decode data = .ok ⟨6, [123, 125]⟩ :=
    Message.decode_frame_append (by decide) [9]
  obtain ⟨hmessage, -⟩ := readMessage_agrees_with_decode hcoming hends
  obtain ⟨hvalue, -, hleft⟩ := hmessage _ hdecode
  exact ⟨hcoming, hends, hdecode, hvalue, hleft⟩

end DwmIpc.Endpoint
