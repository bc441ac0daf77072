import DwmIpc.Proofs.Operands
import DwmIpc.Proofs.Process
import DwmIpc.Proofs.SharedStream

/-!
# What a command line sends as a command

`Sends` is what becomes of a frame: some beginning of it is sent, and all of it if the
action succeeded. An action that goes on after that and sends nothing more keeps it so
(`Sends.bind`), from the request to the whole program (`CommandLine.sends_report`).

So the words behind the name of a command are sent just as they are, whatever the
sockets do (`CommandLine.words_behind_operand_are_verbatim`).
-/

namespace DwmIpc

/-! ## What becomes of a frame -/

/-- Nothing is sent. -/
def Effect.Silent (effects : List Effect) : Prop :=
  ∀ n, sentOn n effects = []

/-- On the first socket a beginning of the frame is sent, and the whole of it after success; on
others nothing is sent. Without a frame nothing is sent, and there is no success. -/
def Sends (frame : Except Failure Bytes) (succeeded : Prop) (effects : List Effect) : Prop :=
  ∃ sent, Effect.SentOnly 0 sent effects ∧
    (∀ bytes, frame = .ok bytes → sent <+: bytes ∧ (succeeded → sent = bytes)) ∧
    ∀ failure, frame = .error failure → sent = [] ∧ ¬succeeded

/-- A run ends with a value. -/
def Run.Succeeds {ω σ α : Type} (run : Run ω σ α) : Prop :=
  ∃ a, run.value = .ok a

theorem Run.not_succeeds {ω σ α : Type} {run : Run ω σ α} {failure : Failure}
    (h : run.value = .error failure) : ¬run.Succeeds := by
  rintro ⟨a, ha⟩
  cases h.symm.trans ha

namespace Sends

variable {frame : Except Failure Bytes} {succeeded succeeded' : Prop}
  {effects front back : List Effect}

theorem nothing (hsilent : Effect.Silent effects) (hfails : ¬succeeded) :
    Sends frame succeeded effects :=
  ⟨[], .of_silent hsilent, fun _ _ => ⟨List.nil_prefix, fun h => absurd h hfails⟩,
    fun _ _ => ⟨rfl, hfails⟩⟩

/-- Success may get lost. -/
theorem mono (h : Sends frame succeeded effects) (hless : succeeded' → succeeded) :
    Sends frame succeeded' effects := by
  obtain ⟨sent, honly, hframe, hnone⟩ := h
  refine ⟨sent, honly, fun bytes hbytes => ?_, fun failure hfailure => ?_⟩
  · obtain ⟨hbegins, hwhole⟩ := hframe bytes hbytes
    exact ⟨hbegins, fun hsucceeded => hwhole (hless hsucceeded)⟩
  · obtain ⟨hnothing, hfails⟩ := hnone failure hfailure
    exact ⟨hnothing, fun hsucceeded => hfails (hless hsucceeded)⟩

/-- Something silent may come before. -/
theorem behind (hfront : Effect.Silent front) (h : Sends frame succeeded effects) :
    Sends frame succeeded (front ++ effects) := by
  obtain ⟨sent, honly, hrest⟩ := h
  exact ⟨sent, (Effect.SentOnly.of_silent hfront).append honly, hrest⟩

/-- Something silent may come after. -/
theorem ahead (h : Sends frame succeeded effects) (hback : Effect.Silent back) :
    Sends frame succeeded (effects ++ back) := by
  obtain ⟨sent, honly, hrest⟩ := h
  have hall := honly.append (.of_silent hback)
  rw [List.append_nil] at hall
  exact ⟨sent, hall, hrest⟩

/-- An action may go on if it sends nothing more. -/
theorem bind {ω σ α β : Type} (view : List ω → List Effect)
    (hview : ∀ a b, view (a ++ b) = view a ++ view b)
    {m : Action ω σ α} {f : α → Action ω σ β} {s : σ}
    (h : Sends frame (m s).Succeeds (view (m s).did))
    (hsilent : ∀ a t, Effect.Silent (view (f a t).did)) :
    Sends frame ((m >>= f) s).Succeeds (view ((m >>= f) s).did) := by
  cases hrun : m s with
  | mk value did t =>
    rw [hrun] at h
    cases value with
    | error failure =>
      rw [Action.bind_error hrun]
      exact h.mono fun hsucceeds => absurd hsucceeds (Run.not_succeeds rfl)
    | ok a =>
      rw [Action.bind_ok hrun, hview]
      exact (h.mono fun _ => ⟨a, rfl⟩).ahead (hsilent a t)

end Sends

/-! ## Requests -/

/-- A message is sent on the socket that is held. -/
theorem Connection.sends_send {c : Connection} {e : Endpoint} (hheld : c.held = some e)
    (hfirst : c.current = 0) (type : Int) (payload : Bytes) :
    Sends (Message.encode type payload) (send type payload c).Succeeds
      (send type payload c).did := by
  cases hencode : Message.encode type payload with
  | error failure =>
    have hsend : send type payload c = _ := onSocket_of_acquire (acquire_held hheld)
    rw [hsend, Endpoint.writeMessage_refused hencode]
    exact .nothing (fun _ => rfl) (Run.not_succeeds rfl)
  | ok frame =>
    obtain ⟨sent, honly, hbegins, hwhole⟩ := send_begins hencode c
    rw [hfirst] at honly
    refine ⟨sent, honly, fun bytes hbytes => ?_, fun failure h => nomatch h⟩
    obtain rfl := Except.ok.inj hbytes
    exact ⟨hbegins, fun ⟨_, hvalue⟩ => hwhole hvalue⟩

namespace Client

variable {c : Client} {e : Endpoint}

/-- An exchange sends the frame of its request, or fails. -/
theorem sends_exchange (hheld : c.connection.held = some e) (hfirst : c.connection.current = 0)
    (request : Request) :
    Sends request.frame (exchange request c).Succeeds (exchange request c).did := by
  cases hpayload : request.payload with
  | error failure =>
    have hexchange : exchange request c = ⟨.error failure, [], c⟩ := by
      rw [exchange, hpayload, Action.ofExcept_error_bind]
    rw [hexchange]
    exact .nothing (fun _ => rfl) (Run.not_succeeds rfl)
  | ok payload =>
    rw [Request.frame, hpayload, exchange, hpayload, Action.ofExcept_ok_bind]
    refine Sends.bind id (fun _ _ => rfl) ?_ fun _ t => ?_
    · rw [onConnection_apply]
      exact Connection.sends_send hheld hfirst _ payload
    · rw [onConnection_apply]
      exact Connection.silent_receive t.connection

theorem sends_exchangeQuietly (hheld : c.connection.held = some e)
    (hfirst : c.connection.current = 0) (request : Request) :
    Sends request.frame (exchangeQuietly request c).Succeeds (exchangeQuietly request c).did := by
  rw [exchangeQuietly]
  refine Sends.bind id (fun _ _ => rfl) (sends_exchange hheld hfirst request) fun reply t n => ?_
  have hget : (Action.get : Action Effect Client Client) t = ⟨.ok t, [], t⟩ := rfl
  rw [Action.bind_ok hget]
  show Effect.sentOn n
    ((if t.ignoreReply then _ else _ : Action Effect Client (Option Message)) t).did = []
  split <;> rfl

end Client

namespace CommandLine

/-! ## The program -/

namespace Process

variable {p : Process} {rounds : Nat} {w : Text} {tail : List Text}

/-- Printing sends nothing. -/
theorem silent_printReply (reply : Option Message) (p : Process) :
    Effect.Silent (Report.effectsOf (printReply reply p).did) := by
  intro n
  cases reply with
  | none => rfl
  | some m =>
    show Effect.sentOn n (Report.effectsOf (print _ p).did) = []
    unfold print
    split <;> rfl

/-- A command sends its frame, or fails. -/
theorem sends_perform (rounds : Nat) (w : Text) (tail : List Text) {e : Endpoint}
    (hheld : p.connection.held = some e) (hfirst : p.connection.current = 0) :
    Sends (Request.runCommand w tail).frame (perform rounds (.runCommand w tail) p).Succeeds
      (Report.effectsOf (perform rounds (.runCommand w tail) p).did) := by
  refine Sends.bind Report.effectsOf Report.effectsOf_append ?_ fun reply q =>
    silent_printReply reply q
  have hclient := Client.sends_exchangeQuietly hheld hfirst (.runCommand w tail)
  show Sends _ _ (Report.effectsOf ((Client.runCommand w tail p.client).did.map .effect))
  rw [Report.effectsOf_map_effect]
  exact hclient

/-- Closing sends nothing. -/
theorem silent_close (p : Process) :
    Effect.Silent (Report.effectsOf (onClient Client.close p).did) := by
  intro n
  have hclose : onClient Client.close p = _ := onClient_onConnection Connection.close p
  rw [hclose, Report.effectsOf_map_effect]
  unfold Connection.close
  split
  · rfl
  · split
    · rfl
    · split <;> rfl

/-- A connection is refused, or there is a socket. -/
theorem connect_cases (hheld : p.connection.held = none) (hfirst : p.connection.current = 0) :
    ∃ did q, Effect.Silent (Report.effectsOf did) ∧
      ((∃ failure, onClient Client.connect p = ⟨.error failure, did, q⟩) ∨
        onClient Client.connect p = ⟨.ok (), did, q⟩ ∧
          (∃ e, q.connection.held = some e) ∧ q.connection.current = 0) := by
  have hclient : onClient Client.connect p = _ := onClient_onConnection Connection.connect p
  cases hconnect : (p.connection.pending.headD .quiet).connectFault with
  | some f =>
    have hacquire := Connection.acquire_fails hheld hconnect
    have hrefused : Connection.connect p.connection = _ := Action.bind_error hacquire
    have hsilent := Connection.silent_acquire p.connection
    rw [hacquire] at hsilent
    rw [hrefused] at hclient
    refine ⟨_, _, ?_, .inl ⟨_, hclient⟩⟩
    rw [Report.effectsOf_map_effect]
    exact hsilent
  | none =>
    have hopened : Connection.connect p.connection = _ :=
      Action.bind_ok (Connection.acquire_connects hheld hconnect)
    rw [hopened] at hclient
    refine ⟨_, _, ?_, .inr ⟨hclient, ⟨_, rfl⟩, hfirst⟩⟩
    rw [Report.effectsOf_map_effect]
    exact fun _ => rfl

/-- A command is sent between connecting and closing. -/
theorem sends_converse (hheld : p.connection.held = none) (hfirst : p.connection.current = 0) :
    Sends (Request.runCommand w tail).frame (converse rounds (.runCommand w tail) p).Succeeds
      (Report.effectsOf (converse rounds (.runCommand w tail) p).did) := by
  obtain ⟨did, q, hsilent, ⟨failure, hrefused⟩ | ⟨hconnected, ⟨e, hsome⟩, hcurrent⟩⟩ :=
    connect_cases hheld hfirst
  · rw [converse_refused hrefused]
    exact .nothing hsilent (Run.not_succeeds rfl)
  · rw [converse_connected hconnected, Report.effectsOf_append, Report.effectsOf_append]
    have hperform := sends_perform rounds w tail hsome hcurrent
    refine ((hperform.ahead (silent_close _)).behind hsilent).mono ?_
    -- there is no success but that of the command
    rintro ⟨a, hvalue⟩
    dsimp only at hvalue
    split at hvalue
    next => exact ⟨a, hvalue⟩
    next => cases hvalue

end Process

namespace Report

/-- No failure ends with the status of success. -/
theorem status_ne_zero {failure : Failure} {status : Nat} {records : List LogRecord}
    (h : statusOf failure = some (status, records)) : status ≠ 0 := by
  unfold statusOf at h
  split at h
  next =>
    obtain ⟨rfl, -⟩ := Prod.mk.inj (Option.some.inj h)
    exact Nat.one_ne_zero
  next =>
    split at h
    next =>
      obtain ⟨rfl, -⟩ := Prod.mk.inj (Option.some.inj h)
      exact Nat.succ_ne_zero _
    next =>
      split at h
      next =>
        obtain ⟨rfl, -⟩ := Prod.mk.inj (Option.some.inj h)
        exact Nat.one_ne_zero
      next => cases h
    next => cases h

/-- The status is 0 only after success. -/
theorem ok_of_endingOf {value : Except Failure Unit} (h : (endingOf value).1 = .finished 0) :
    value = .ok () := by
  cases value with
  | ok a => rfl
  | error failure =>
    unfold endingOf at h
    dsimp only at h
    split at h
    next status records hstatus => exact absurd (Ending.finished.inj h) (status_ne_zero hstatus)
    next => cases h

/-- A command is sent whatever the settings are; without settings nothing is. -/
theorem sends_ofLoaded (loaded : Loaded) {invocation : Invocation} {w : Text} {tail : List Text}
    (htask : invocation.task = .runCommand w tail) (endpoints : List Endpoint) (room : Option Nat) :
    let r := ofLoaded loaded invocation endpoints room
    Sends (Request.runCommand w tail).frame (r.ending = .finished 0) r.effects := by
  intro r
  have hoffline (ending : Ending) (output errors : Text) (hending : ending ≠ .finished 0) :
      Sends (Request.runCommand w tail).frame ((offline ending output errors).ending = .finished 0)
        (offline ending output errors).effects := .nothing (fun _ => rfl) hending
  show Sends _ ((ofLoaded loaded invocation endpoints room).ending = _)
    (ofLoaded loaded invocation endpoints room).effects
  unfold ofLoaded
  split
  next settings _ =>
    unfold ofInvocation
    rw [htask]
    exact (Process.sends_converse rfl rfl).mono fun hending => ⟨(), ok_of_endingOf hending⟩
  next failure _ =>
    split
    next problem => exact hoffline _ _ _ (by rintro ⟨⟩)
    next => exact hoffline _ _ _ Ending.noConfusion

end Report

/-- What a command line sends whose task is a command. -/
theorem sends_report (env : Environment) (find : Path → Found) (endpoints : List Endpoint)
    (room : Option Nat) {words : List Text} {invocation : Invocation} {w : Text} {tail : List Text}
    (hparse : Invocation.parse words = .ok invocation)
    (htask : invocation.task = .runCommand w tail) :
    let r := report env find endpoints room words
    Sends (Request.runCommand w tail).frame (r.ending = .finished 0) r.effects := by
  intro r
  show Sends _ ((report env find endpoints room words).ending = _)
    (report env find endpoints room words).effects
  unfold report
  rw [hparse]
  dsimp only
  split
  · exact .nothing (fun _ => rfl) Ending.noConfusion
  · exact Report.sends_ofLoaded _ htask endpoints room

/-- **What follows the first operand is taken as it is.** Let words be switches with their values,
and let an operand follow. Then the words behind that are kept, whatever they look like, and the
switches say what they say alone; a command is sent with just these words, in whatever portions and
up to whatever fault the sockets decide. Only if one of the words in front of a terminator begins
with `--=`, which could be any switch, the command line is refused for the first such word, and
nothing is done. -/
theorem words_behind_operand_are_verbatim {front : List Text} {w : Text} {arguments : Arguments}
    (hfront : Arguments.parse front = .ok arguments) (hnone : arguments.message = [])
    (hw : w.head? ≠ some hyphen) (tail : List Text) :
    let words := front ++ w :: tail
    (ambiguity? tail = none →
      Arguments.parse words = .ok { arguments with message := w :: tail } ∧
      (arguments.kind = some .runCommand → arguments.monitor = false →
        Invocation.parse words = .ok ⟨.runCommand w tail, arguments.socket, arguments.ignoreReply,
          arguments.config, arguments.verbose⟩ ∧
        ∀ env find endpoints room,
          let r := report env find endpoints room words
          Sends (Request.runCommand w tail).frame (r.ending = .finished 0) r.effects)) ∧
    (∀ t, ambiguity? tail = some t →
      Arguments.parse words = .error (.misuse (.ambiguous t Switch.all)) ∧
      ∀ env find endpoints room, report env find endpoints room words =
        Report.offline (.stopped 2) [] (Misuse.ambiguous t Switch.all).report) := by
  intro words
  have hparse := Arguments.parse_operand tail hfront hnone hw
  refine ⟨fun hplain => ?_, fun t ht => ?_⟩
  · rw [hplain] at hparse
    refine ⟨hparse, fun hkind hmonitor => ?_⟩
    have hinvocation : Invocation.parse words = .ok ⟨.runCommand w tail, arguments.socket,
        arguments.ignoreReply, arguments.config, arguments.verbose⟩ := by
      have harguments : Arguments.parse words = _ := hparse
      rw [Invocation.parse, harguments]
      dsimp only
      rw [Invocation.ofArguments, hkind, hmonitor]
      rfl
    exact ⟨hinvocation, fun env find endpoints room =>
      sends_report env find endpoints room hinvocation rfl⟩
  · rw [ht] at hparse
    refine ⟨hparse, fun env find endpoints room => ?_⟩
    have hinvocation : Invocation.parse words = .error (.misuse (.ambiguous t Switch.all)) := by
      have harguments : Arguments.parse words = _ := hparse
      rw [Invocation.parse, harguments]
    rw [report, hinvocation]
    rfl

/-- A negative number, a switch, a terminator, and what would be ambiguous without it. -/
theorem words_behind_tag_are_verbatim :
    let front : List Text := ["-iv", "--sock", "x"]
    let tag : Text := "tag"
    let tail : List Text := ["-1", "-h", "--monitor=", "", "--", "--=x"]
    Arguments.parse front = .ok ⟨some "x", some .runCommand, true, false, .usual, true, []⟩ ∧
      Invocation.parse (front ++ tag :: tail) =
        .ok ⟨.runCommand tag tail, some "x", true, .usual, true⟩ := by
  intro front tag tail
  have hfront : Arguments.parse front =
      .ok ⟨some "x", some .runCommand, true, false, .usual, true, []⟩ := by
    let value : List (Word × Text) := [(.operand, "x")]
    let socket : List (Word × Text) := (.long .socket none, "--sock") :: value
    have hclassify : classify front = .ok ((.short .ignoreReply (some "v"), "-iv") :: socket) := by
      decide
    have hshort : Arguments.settle (Arguments.nextOperand socket) (.short .ignoreReply (some "v")) =
        .ok ⟨[⟨.ignoreReply, none⟩, ⟨.verbose, none⟩], false⟩ := by decide
    have hlong : Arguments.settle (Arguments.nextOperand value) (.long .socket none) =
        .ok ⟨[⟨.socket, some "x"⟩], true⟩ := by decide
    refine Arguments.parse_of_ofWords hclassify ?_
    rw [Arguments.ofWords_switch Word.noConfusion Word.noConfusion Word.noConfusion hshort rfl,
      if_neg Bool.false_ne_true,
      Arguments.ofWords_switch Word.noConfusion Word.noConfusion Word.noConfusion hlong rfl,
      if_pos rfl, List.tail_cons, Arguments.ofWords]
    rfl
  have hw : tag.head? ≠ some hyphen := by decide
  obtain ⟨hplain, -⟩ := words_behind_operand_are_verbatim hfront rfl hw tail
  obtain ⟨-, hcommand⟩ := hplain (by decide)
  exact ⟨hfront, (hcommand rfl rfl).1⟩

end CommandLine

end DwmIpc
