import DwmIpc.Connection

/-!
# Views of a trace

Everything an action did is listed in order. Views pick out what matters of such a
list: the bytes that were accepted, all together or call by call; how much each
receiving call asked for; all calls, without the log records; and the milestones,
which are all but the calls that move bytes (connecting, closing, log records).
Each view of a joined list is the joined views.
-/

namespace DwmIpc

namespace Notice

/-- The bytes that the socket accepted. -/
def accepted (notices : List Notice) : Bytes :=
  notices.flatMap fun
    | .call (.send _ bytes) => bytes
    | _ => []

/-- The calls that send: which bytes each of them offered, and which were accepted. -/
def offers (notices : List Notice) : List (Bytes × Bytes) :=
  notices.filterMap fun
    | .call (.send offered bytes) => some (offered.bytes, bytes)
    | _ => none

/-- How much each receiving call asked for. -/
def asked (notices : List Notice) : List Nat :=
  notices.filterMap fun
    | .call (.receive n) => some n
    | _ => none

/-- Anything but a call that moves bytes. -/
def isMilestone : Notice → Bool
  | .call (.receive _) | .call (.send ..) => false
  | _ => true

/-- The log records, and the calls that move no bytes. -/
def milestones (notices : List Notice) : List Notice :=
  notices.filter isMilestone

@[simp] theorem accepted_nil : accepted [] = [] := rfl

@[simp] theorem accepted_append (a b : List Notice) :
    accepted (a ++ b) = accepted a ++ accepted b :=
  List.flatMap_append

@[simp] theorem accepted_cons_send (offered : Offer) (bytes : Bytes) (rest : List Notice) :
    accepted (.call (.send offered bytes) :: rest) = bytes ++ accepted rest := rfl

@[simp] theorem accepted_cons_log (record : LogRecord) (rest : List Notice) :
    accepted (.log record :: rest) = accepted rest := rfl

@[simp] theorem accepted_map_log (records : List LogRecord) : accepted (records.map .log) = [] := by
  induction records with
  | nil => rfl
  | cons record rest ih => exact ih

@[simp] theorem offers_nil : offers [] = [] := rfl

@[simp] theorem offers_append (a b : List Notice) : offers (a ++ b) = offers a ++ offers b :=
  List.filterMap_append

@[simp] theorem offers_cons_send (offered : Offer) (bytes : Bytes) (rest : List Notice) :
    offers (.call (.send offered bytes) :: rest) = (offered.bytes, bytes) :: offers rest := rfl

@[simp] theorem offers_map_log (records : List LogRecord) : offers (records.map .log) = [] := by
  induction records with
  | nil => rfl
  | cons record rest ih => exact ih

/-- What was accepted was accepted call by call. -/
theorem accepted_eq_flatMap_offers (notices : List Notice) :
    accepted notices = (offers notices).flatMap Prod.snd := by
  induction notices with
  | nil => rfl
  | cons notice rest ih =>
    match notice with
    | .log _ | .call (.connect _) | .call (.receive _) | .call .close => exact ih
    | .call (.send _ bytes) => exact congrArg (bytes ++ ·) ih

@[simp] theorem asked_append (a b : List Notice) : asked (a ++ b) = asked a ++ asked b :=
  List.filterMap_append

@[simp] theorem asked_nil : asked [] = [] := rfl

@[simp] theorem asked_cons_log (record : LogRecord) (rest : List Notice) :
    asked (.log record :: rest) = asked rest := rfl

@[simp] theorem asked_map_log (records : List LogRecord) : asked (records.map .log) = [] := by
  induction records with
  | nil => rfl
  | cons record rest ih => exact ih

@[simp] theorem milestones_append (a b : List Notice) :
    milestones (a ++ b) = milestones a ++ milestones b :=
  List.filter_append ..

end Notice

namespace Effect

/-- The bytes that a socket accepted. -/
def sentOn (socket : Nat) (effects : List Effect) : Bytes :=
  effects.flatMap fun
    | .call n (.send _ bytes) => if n = socket then bytes else []
    | _ => []

/-- The calls, each with the number of its socket. -/
def calls (effects : List Effect) : List (Nat × SocketCall) :=
  effects.filterMap fun
    | .call socket made => some (socket, made)
    | .log _ => none

/-- Which sockets were asked, and for how much. -/
def asked (effects : List Effect) : List (Nat × Nat) :=
  effects.filterMap fun
    | .call socket (.receive n) => some (socket, n)
    | _ => none

/-- Anything but a call that moves bytes. -/
def isMilestone : Effect → Bool
  | .call _ (.receive _) | .call _ (.send ..) => false
  | _ => true

/-- The log records, and the calls that move no bytes. -/
def milestones (effects : List Effect) : List Effect :=
  effects.filter isMilestone

@[simp] theorem sentOn_nil (socket : Nat) : sentOn socket [] = [] := rfl

/-- What is sent on a socket is sent in the order of the effects. -/
@[simp] theorem sentOn_append (socket : Nat) (a b : List Effect) :
    sentOn socket (a ++ b) = sentOn socket a ++ sentOn socket b :=
  List.flatMap_append

@[simp] theorem calls_append (a b : List Effect) : calls (a ++ b) = calls a ++ calls b :=
  List.filterMap_append

@[simp] theorem asked_append (a b : List Effect) : asked (a ++ b) = asked a ++ asked b :=
  List.filterMap_append

@[simp] theorem milestones_append (a b : List Effect) :
    milestones (a ++ b) = milestones a ++ milestones b :=
  List.filter_append ..

/-- What an action on one socket sends is sent on that socket. -/
theorem sentOn_map_onSocket (socket n : Nat) (notices : List Notice) :
    sentOn socket (notices.map (onSocket n)) =
      if n = socket then Notice.accepted notices else [] := by
  induction notices with
  | nil => simp
  | cons notice rest ih =>
    match notice with
    | .log record => exact ih
    | .call (.connect path) => exact ih
    | .call (.receive asked) => exact ih
    | .call .close => exact ih
    | .call (.send offered bytes) =>
      show (if n = socket then bytes else []) ++ sentOn socket (rest.map (onSocket n)) = _
      rw [ih]
      split <;> simp

/-- What is asked of a socket is asked of the connection, with the number of the socket. -/
theorem asked_map_onSocket (socket : Nat) (notices : List Notice) :
    asked (notices.map (onSocket socket)) = (Notice.asked notices).map (socket, ·) := by
  induction notices with
  | nil => rfl
  | cons notice rest ih =>
    match notice with
    | .log _ | .call (.connect _) | .call (.send ..) | .call .close => exact ih
    | .call (.receive n) => exact congrArg ((socket, n) :: ·) ih

/-- The milestones on a socket are those of the connection. -/
theorem milestones_map_onSocket (n : Nat) (notices : List Notice) :
    milestones (notices.map (onSocket n)) = (Notice.milestones notices).map (onSocket n) := by
  rw [milestones, List.filter_map, Notice.milestones]
  congr 1
  refine List.filter_congr fun notice _ => ?_
  match notice with
  | .log _ | .call (.connect _) | .call (.receive _) | .call (.send ..) | .call .close => rfl

end Effect

end DwmIpc
