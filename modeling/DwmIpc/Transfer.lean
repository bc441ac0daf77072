import DwmIpc.Endpoint
import DwmIpc.Frame

/-!
# Moving whole messages over an endpoint

A call on a socket may move fewer bytes than asked for, so reading and writing
repeat it until all bytes are moved. Transient faults are met by calling again;
every other system error ends the transfer as an IPC failure with that error as
its cause, and a fault that the system did not report passes through.
-/

namespace DwmIpc.Endpoint

/-- The most that one call asks for. -/
def receiveLimit : Nat := 0x10000

/-- How a fault that is not transient ends a transfer. -/
def failureOf (wrap : Fault → Failure) (f : Fault) : Failure :=
  if f.isSystem then wrap f else .raised f

/-- The end of the stream after `got` of `expected` bytes. -/
def endOfStream (got expected : Nat) : Failure :=
  if got = 0 then .closedBeforeData expected else .closedMidway got expected

/-- The record that an unexpected end of the stream leaves. -/
def endOfStreamRecord (got expected : Nat) : LogRecord :=
  ⟨.warning, .connection,
    Text.ofString "unexpected EOF: read " ++ Text.ofNat got ++ Text.ofString " of " ++
      Text.ofNat expected ++ Text.ofString " bytes"⟩

/-- A run with one more event in front. -/
def after (notice : Notice) {σ α : Type} (run : Run Notice σ α) : Run Notice σ α :=
  { run with did := notice :: run.did }

/-- Reads until there are `expected` bytes; `got` are there already. -/
def receiveUpTo (expected : Nat) (got : Bytes) (incoming : List Incoming) :
    Run Notice (List Incoming) Bytes :=
  if got.length < expected then
    let asked := min (expected - got.length) receiveLimit
    match _found : Incoming.receive asked incoming with
    | (.fault f, rest) =>
      if f.isTransient then after (.call (.receive asked)) (receiveUpTo expected got rest)
      else ⟨.error (failureOf .readFailed f), [.call (.receive asked)], rest⟩
    | (.chunk bytes, rest) =>
      if _nonempty : bytes = [] then
        ⟨.error (endOfStream got.length expected),
          [.call (.receive asked), .log (endOfStreamRecord got.length expected)], rest⟩
      else after (.call (.receive asked)) (receiveUpTo expected (got ++ bytes) rest)
  else ⟨.ok got, [], incoming⟩
termination_by Incoming.backlog incoming
decreasing_by
  · exact Incoming.backlog_of_receive_fault _found
  · exact Incoming.backlog_of_receive_chunk _found _nonempty

/-- Reads exactly `expected` bytes. -/
def readExactly (expected : Nat) : Action Notice Endpoint Bytes := fun e =>
  let run := receiveUpTo expected [] e.incoming
  ⟨run.value, run.did, { e with incoming := run.state }⟩

/-- Offers `data` until all of it is accepted. -/
def sendAll (data : Bytes) : (outgoing : List Outgoing) → Run Notice (List Outgoing) Unit
  | [] => ⟨.ok (), if data.isEmpty then [] else [.call (.send ⟨data⟩ data)], []⟩
  | next :: rest =>
    if data.isEmpty then ⟨.ok (), [], next :: rest⟩
    else
      match next with
      | .room count =>
        after (.call (.send ⟨data⟩ (data.take count))) (sendAll (data.drop count) rest)
      | .fault f =>
        if f.isTransient then after (.call (.send ⟨data⟩ [])) (sendAll data rest)
        else ⟨.error (failureOf .writeFailed f), [.call (.send ⟨data⟩ [])], rest⟩

/-- Writes all bytes of `data`. -/
def writeExactly (data : Bytes) : Action Notice Endpoint Unit := fun e =>
  let run := sendAll data e.outgoing
  ⟨run.value, run.did, { e with outgoing := run.state }⟩

/-- Lists a log record. -/
def log {σ : Type} (record : LogRecord) : Action Notice σ Unit :=
  Action.tell [.log record]

/-- Reads and checks a header. -/
def readHeader : Action Notice Endpoint Header := do
  let header := Header.decode (← readExactly headerSize)
  Action.tell ((Header.records header).map .log)
  Action.ofExcept header

/-- After a header the end of the stream cuts a message off. -/
def cutOff : Failure → Failure
  | .closedBeforeData expected => .closedAfterHeader expected
  | failure => failure

/-- Reads one message. No byte of the payload is read before the header is checked. -/
def readMessage : Action Notice Endpoint Message := do
  let header ← readHeader
  let payload ← (readExactly header.size).mapFailure cutOff
  log ⟨.debug, .connection,
    Text.ofString "received " ++ Text.ofNat header.type.toNat ++ Text.ofString " (" ++
      Text.ofNat header.size ++ Text.ofString " bytes)"⟩
  return ⟨header.type, payload⟩

/-- Writes one message, its header and its payload apart. -/
def writeMessage (type : Int) (payload : Bytes) : Action Notice Endpoint Unit := do
  let header ← Action.ofExcept (Header.encode type payload.length)
  writeExactly header
  writeExactly payload
  log ⟨.debug, .connection,
    Text.ofString "sent type " ++ Text.ofInt type ++ Text.ofString " (" ++
      Text.ofNat payload.length ++ Text.ofString " bytes)"⟩

end DwmIpc.Endpoint
