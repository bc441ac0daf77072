import DwmIpc.Proofs.Stream.Decoding

/-!
# How a stream of frames ends

A stream of whole frames ends between two of them, inside one, at a header that is
none, or with a fault that is not transient. `Ends` lists these ends with the failure
that a read meets there (`readMessage_ends`), and `Streams` are the scripts that
deliver the frames of some messages, cut anywhere, and then end in one of these ways.
-/

namespace DwmIpc

open Incoming

namespace Endpoint

/-- Less than the frame of `m`, and its beginning, as far as there is a header to tell. -/
structure Begins (tail : Bytes) (m : Message) : Prop where
  fits : m.Fits
  short : tail.length < m.frame.length
  beginning : headerSize ≤ tail.length → tail <+: m.frame

/-- How a stream ends behind its last whole frame, and how a read fails there. -/
inductive Ends : (tail : Bytes) → (ending : List Incoming) → Failure → Prop
  /-- The peer closed between two frames. -/
  | closed {ending : List Incoming} : EndOfStream ending →
      Ends [] ending (.closedBeforeData headerSize)
  /-- The peer closed inside a frame. -/
  | cut {tail : Bytes} {m : Message} {ending : List Incoming} : tail ≠ [] → Begins tail m →
      EndOfStream ending → Ends tail ending (cutFailure m tail.length)
  /-- Something else than a frame begins. -/
  | badHeader {tail : Bytes} {ending : List Incoming} : headerSize ≤ tail.length →
      tail.take 7 ≠ magic → Ends tail ending (.badMagic (tail.take 7))
  /-- The system reports a fault. -/
  | fault {tail : Bytes} {m : Message} {f : Fault} {more : List Incoming} : Begins tail m →
      f.isSystem = true → f.isTransient = false →
      Ends tail (.fault f :: more) (.readFailed f)

variable {e : Endpoint} {m : Message}

/-- A frame that has not arrived as a whole ends the read as the barrier says. -/
theorem readMessage_begins (h : Begins (flow e.incoming) m) :
    ∃ did left, readMessage e =
      ⟨.error (if (flow e.incoming).length < headerSize then
          stopped (flow e.incoming).length headerSize (barrier e.incoming)
        else cutOff (stopped ((flow e.incoming).length - headerSize) m.payload.length
          (barrier e.incoming))), did, { e with incoming := left }⟩ := by
  by_cases hlong : headerSize ≤ (flow e.incoming).length
  · -- the header has arrived, and says how long the payload was to be
    have hshort := h.short
    rw [Message.length_frame] at hshort
    obtain ⟨did, hrun⟩ := readMessage_payloadShort
      (Message.decodeHeader_cut h.fits (h.beginning hlong) hlong) hlong hshort
    rw [if_neg (Nat.not_lt.2 hlong)]
    exact ⟨did, _, hrun⟩
  · obtain ⟨did, hrun⟩ := readMessage_headerShort (Nat.lt_of_not_le hlong)
    rw [if_pos (Nat.lt_of_not_le hlong)]
    exact ⟨did, _, hrun⟩

/-- A read at the end of a stream fails as the end says. -/
theorem readMessage_ends {failure : Failure}
    (h : Ends (flow e.incoming) (barrier e.incoming) failure) :
    ∃ did left, readMessage e = ⟨.error failure, did, { e with incoming := left }⟩ := by
  generalize hflow : flow e.incoming = tail at h
  generalize hbarrier : barrier e.incoming = ending at h
  cases h with
  | closed hend =>
    obtain ⟨did, hrun⟩ := readMessage_atEnd hflow (hbarrier.symm ▸ hend)
    exact ⟨did, _, hrun⟩
  | @cut _ m _ _ hbegins hend =>
    subst hflow hbarrier
    obtain ⟨did, left, hrun⟩ := readMessage_begins hbegins
    rw [hend.stopped_eq, hend.stopped_eq] at hrun
    exact ⟨did, left, hrun⟩
  | badHeader hlong hmagic =>
    subst hflow
    obtain ⟨did, left, hrun, -⟩ := readMessage_headerBad (Header.decode_badMagic hlong hmagic) hlong
    exact ⟨did, left, hrun⟩
  | @fault _ m f more hbegins hsystem hlasting =>
    subst hflow
    obtain ⟨did, left, hrun⟩ := readMessage_begins hbegins
    refine ⟨did, left, ?_⟩
    have hstopped (got expected : Nat) :
        stopped got expected (barrier e.incoming) = .readFailed f := by
      rw [hbarrier, stopped, failureOf, if_pos hsystem]
    rw [hrun, hstopped, hstopped]
    split <;> rfl

end Endpoint

/-- The script delivers the frames of the messages, cut anywhere, and ends so that the read behind
them fails in this way. -/
def Incoming.Streams (incoming : List Incoming) (messages : List Message) (failure : Failure) :
    Prop :=
  ∃ tail, flow incoming = messages.flatMap Message.frame ++ tail ∧
    Endpoint.Ends tail (barrier incoming) failure

namespace Endpoint

variable {e : Endpoint} {m : Message} {rest : List Message} {failure : Failure}

/-- A read takes the first frame, and leaves the others. -/
theorem readMessage_streams (fits : m.Fits) (h : Streams e.incoming (m :: rest) failure) :
    ∃ did left, readMessage e = ⟨.ok m, did, { e with incoming := left }⟩ ∧
      Streams left rest failure := by
  obtain ⟨tail, hflow, hend⟩ := h
  rw [List.flatMap_cons, List.append_assoc] at hflow
  obtain ⟨did, left, hrun, hleft, hbarrier⟩ := readMessage_frame fits hflow
  exact ⟨did, left, hrun, tail, hleft, hbarrier ▸ hend⟩

/-- Behind the last frame a read fails. -/
theorem readMessage_streams_nil (h : Streams e.incoming [] failure) :
    ∃ did left, readMessage e = ⟨.error failure, did, { e with incoming := left }⟩ := by
  obtain ⟨tail, hflow, hend⟩ := h
  rw [List.flatMap_nil, List.nil_append] at hflow
  exact readMessage_ends (hflow ▸ hend)

end Endpoint

end DwmIpc
