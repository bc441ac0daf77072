import DwmIpc.Connection

/-!
# How a connection comes by its socket

The cases of `Connection.acquire`: a socket is held, the next one connects, or it
does not. An action on the socket then runs on whichever it is
(`onSocket_of_acquire`).
-/

namespace DwmIpc.Connection

variable {c d : Connection} {e : Endpoint}

/-- A socket that is held is used. -/
theorem acquire_held (hheld : c.held = some e) : acquire c = ⟨.ok e, [], c⟩ := by
  rw [acquire, hheld]

/-- Without one, the next socket is connected. -/
theorem acquire_connects (hheld : c.held = none)
    (hconnect : (c.pending.headD .quiet).connectFault = none) :
    acquire c = ⟨.ok (c.pending.headD .quiet),
      [.call c.current (.connect c.path),
        .log ⟨.debug, .connection, Text.ofString "connected to " ++ c.path⟩],
      { c with pending := c.pending.tail, held := some (c.pending.headD .quiet) }⟩ := by
  rw [acquire, hheld]
  simp only [hconnect]

/-- If that fails, the socket is left. -/
theorem acquire_fails {f : Fault} (hheld : c.held = none)
    (hconnect : (c.pending.headD .quiet).connectFault = some f) :
    acquire c = ⟨.error (connectFailure c.path (c.pending.headD .quiet) f).1,
      (connectFailure c.path (c.pending.headD .quiet) f).2.map (.call c.current),
      { c with pending := c.pending.tail }.retire (c.pending.headD .quiet)⟩ := by
  rw [acquire, hheld]
  simp only [hconnect]

/-- An action is carried out on the socket that is there then. -/
theorem onSocket_of_acquire {α : Type} {action : Action Notice Endpoint α} {did : List Effect}
    (hacquire : acquire c = ⟨.ok e, did, d⟩) :
    onSocket action c = ⟨(action e).value, did ++ (action e).did.map (Effect.onSocket d.current),
      { d with held := some (action e).state }⟩ :=
  Action.bind_ok hacquire

end DwmIpc.Connection
