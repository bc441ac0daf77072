import DwmIpc.Transfer

/-!
# Connections

A `Connection` holds at most one socket. It opens one when it needs one and
retires it when it is closed; `pending` are the endpoints that the next sockets
will be, `retired` those that are no longer in use, in order, so that the sockets
are numbered in the order of their creation.
-/

namespace DwmIpc

/-- What can be seen of an action on a connection. -/
inductive Effect where
  | call (socket : Nat) (call : SocketCall)
  | log (record : LogRecord)
  deriving DecidableEq

/-- What an action on one of several sockets shows. -/
def Effect.onSocket (socket : Nat) : Notice → Effect
  | .call made => .call socket made
  | .log record => .log record

/-- An endpoint with nothing to read, which accepts everything. -/
def Endpoint.quiet : Endpoint := ⟨[], [], none, none⟩

/-- A connection to the window manager's socket. -/
structure Connection where
  path : Text
  pending : List Endpoint
  retired : List Endpoint
  held : Option Endpoint
  deriving DecidableEq

namespace Connection

/-- The socket that is used when no other is named. -/
def defaultPath : Text := "/tmp/dwm.sock"

/-- A connection that has no socket yet; an empty path is no path. -/
def new (path : Option Text) (endpoints : List Endpoint) : Connection where
  path := match path with
    | some (c :: rest) => c :: rest
    | _ => defaultPath
  pending := endpoints
  retired := []
  held := none

/-- Is a socket held? -/
def connected (c : Connection) : Bool :=
  c.held.isSome

/-- The number of the socket that is held, or of the next one. -/
def current (c : Connection) : Nat :=
  c.retired.length

/-- Takes an endpoint out of use. -/
def retire (c : Connection) (e : Endpoint) : Connection :=
  { c with retired := c.retired ++ [e], held := none }

/-- How a failed connection attempt ends. The socket is closed after a system error only, and an
error in closing it takes the place of the first one. -/
def connectFailure (path : Text) (e : Endpoint) (f : Fault) : Failure × List SocketCall :=
  if f.isSystem then
    match e.closeFault with
    | none => (.connectFailed path f, [.connect path, .close])
    | some g => (.raised g, [.connect path, .close])
  else (.raised f, [.connect path])

/-- The endpoint that is held; if there is none, a new socket is connected. -/
def acquire : Action Effect Connection Endpoint := fun c =>
  match c.held with
  | some e => ⟨.ok e, [], c⟩
  | none =>
    let e := c.pending.headD .quiet
    let opened := { c with pending := c.pending.tail }
    match e.connectFault with
    | none =>
      ⟨.ok e,
        [.call c.current (.connect c.path),
          .log ⟨.debug, .connection, Text.ofString "connected to " ++ c.path⟩],
        { opened with held := some e }⟩
    | some f =>
      let (failure, calls) := connectFailure c.path e f
      ⟨.error failure, calls.map (.call c.current), opened.retire e⟩

/-- Connects, unless a socket is held. -/
def connect : Action Effect Connection Unit := do
  let _ ← acquire

/-- Acts on the socket, which is connected first if need be. -/
def onSocket {α : Type} (action : Action Notice Endpoint α) : Action Effect Connection α := do
  let e ← acquire
  fun c =>
    let run := action e
    ⟨run.value, run.did.map (Effect.onSocket c.current), { c with held := some run.state }⟩

/-- Sends one message. -/
def send (type : Int) (payload : Bytes) : Action Effect Connection Unit :=
  onSocket (Endpoint.writeMessage type payload)

/-- Receives one message. -/
def receive : Action Effect Connection Message :=
  onSocket Endpoint.readMessage

/-- Closes the socket, if one is held. A system error in closing is of no consequence; after any
other fault the socket is still held. -/
def close : Action Effect Connection Unit := fun c =>
  match c.held with
  | none => ⟨.ok (), [], c⟩
  | some e =>
    match e.closeFault with
    | none => ⟨.ok (), [.call c.current .close], c.retire e⟩
    | some f =>
      if f.isSystem then ⟨.ok (), [.call c.current .close], c.retire e⟩
      else ⟨.error (.raised f), [.call c.current .close], c⟩

end Connection

end DwmIpc
