import DwmIpc.Proofs.Process

/-!
# How the program exits

On sockets that raise what the system reports and the user's interrupt, and with
room for all that is printed. `Decided` tells how a conversation ends by the faults
that it has met: an interrupt gives 130 wherever it arrives, a failure of the
protocol is reported and gives 1, and without a failure the status is 0. Two more
ways are left. A task may be refused after the command line was accepted, and a
socket that does not connect may not close either; these failures are handled by
nobody.

One part of a conversation decides: what it meets before connecting is done, and in
closing after all, is mild, or it is an interrupt (`Process.decided_converse`). The
main result, `every_exit_is_decided`, is about all command lines.
-/

namespace DwmIpc

/-- Is it the user's interrupt? -/
def Fault.isInterrupt : Fault → Bool
  | .interrupt _ => true
  | _ => false

theorem Fault.eq_interrupt {f : Fault} (h : f.isInterrupt = true) :
    ∃ message, f = .interrupt message := by
  cases f with
  | interrupt message => exact ⟨message, rfl⟩
  | _ => cases h

/-- Does the system report it, or is it the user's interrupt? -/
def Fault.isExpected (f : Fault) : Bool :=
  f.isSystem || f.isInterrupt

namespace Encounter

/-- One of the faults is the user's interrupt. -/
def Interrupted (met : List Encounter) : Prop :=
  ∃ x ∈ met, x.fault.isInterrupt = true

variable {met front back : List Encounter} {x : Encounter}

theorem isInterrupt_of_not_grave (h : x.isGrave = false) : x.fault.isInterrupt = false := by
  obtain ⟨call, f⟩ := x
  have hsystem : f.isSystem = true := by
    cases call with
    | connect _ => cases h
    | receive _ | send _ _ =>
      have htransient : f.isTransient = true := by simpa [isGrave] using h
      exact Fault.isSystem_of_isTransient htransient
    | close => simpa [isGrave] using h
  cases f <;> first | rfl | cases hsystem

/-- Transient faults are no interrupts. -/
theorem Mild.not_interrupted (h : Mild met) : ¬Interrupted met := by
  rintro ⟨x, hx, hinterrupt⟩
  rw [isInterrupt_of_not_grave (h x hx)] at hinterrupt
  cases hinterrupt

/-- An interrupt is met in one of two parts. -/
theorem interrupted_append :
    Interrupted (front ++ back) ↔ Interrupted front ∨ Interrupted back := by
  simp only [Interrupted, List.mem_append, or_and_right, exists_or]

/-- Mild faults make no difference. -/
theorem interrupted_between (hfront : Mild front) (hback : Mild back) :
    Interrupted (front ++ (met ++ back)) ↔ Interrupted met := by
  rw [interrupted_append, interrupted_append]
  constructor
  · rintro (h | h | h)
    · exact absurd h hfront.not_interrupted
    · exact h
    · exact absurd h hback.not_interrupted
  · exact fun h => .inr (.inl h)

end Encounter

namespace CommandLine

open Encounter (Interrupted Mild)
open Connection (dynamics Verdict)

/-- The status of stopping early. -/
def Stop.status : Stop → Nat
  | .help => 0
  | .misuse _ => 2

/-- What a conversation comes to, and how the program ends with it, by the faults that were met. -/
inductive Decided (task : Task) (met : List Encounter) :
    Except Failure Unit → Ending → List LogRecord → Prop
  | completed : ¬Interrupted met → Decided task met (.ok ()) (.finished 0) []
  | interrupted (message : Text) :
      Interrupted met → Decided task met (.error (.raised (.interrupt message))) (.finished 130) []
  | reported {failure : Failure} {label : String} :
      ¬Interrupted met → failure.label? = some label →
      Decided task met (.error failure) (.finished 1)
        [⟨.error, .commandLine, Text.ofString label ++ Text.ofString ": " ++ failure.message⟩]
  /-- Nobody handles this. -/
  | refused {failure : Failure} :
      ¬Interrupted met → task.Refused failure →
      Decided task met (.error failure) (.failed failure) []
  /-- A socket neither connects nor closes. Unless nobody reads, nobody handles this. -/
  | twice {path : Text} {f g : Fault} :
      ¬Interrupted met → ⟨.connect path, f⟩ ∈ met → ⟨.close, g⟩ ∈ met →
      Decided task met (.error (.raised g))
        (if g.isBrokenPipe then .finished 1 else .failed (.raised g)) []

/-! ## Endings -/

namespace Report

/-- A failure with a label ends with the status 1 and a record. -/
theorem endingOf_reported {failure : Failure} {label : String} (h : failure.label? = some label) :
    endingOf (.error failure) = (.finished 1,
      [⟨.error, .commandLine, Text.ofString label ++ Text.ofString ": " ++ failure.message⟩]) := by
  have hstatus : statusOf failure = some (1,
      [⟨.error, .commandLine, Text.ofString label ++ Text.ofString ": " ++ failure.message⟩]) := by
    unfold statusOf
    rw [h]
  unfold endingOf
  dsimp only
  rw [hstatus]

/-- A request that cannot be made ends with a failure that nothing handles. -/
theorem endingOf_refused {task : Task} {failure : Failure} (h : task.Refused failure) :
    endingOf (.error failure) = (.failed failure, []) := by
  cases h <;> rfl

/-- A fault that is no interrupt ends quietly if nobody reads, and else is not handled. -/
theorem endingOf_raised {f : Fault} (h : f.isInterrupt = false) :
    endingOf (.error (.raised f)) =
      (if f.isBrokenPipe then .finished 1 else .failed (.raised f), []) := by
  have hstatus : statusOf (.raised f) = if f.isBrokenPipe then some (1, []) else none := by
    cases f with
    | interrupt message => cases h
    | numbered _ _ | unnumbered _ | timeout _ | invalidValue _ => rfl
  unfold endingOf
  dsimp only
  rw [hstatus]
  by_cases hpipe : f.isBrokenPipe = true
  · rw [if_pos hpipe, if_pos hpipe]
  · rw [if_neg hpipe, if_neg hpipe]

end Report

namespace Decided

variable {task : Task} {met front back : List Encounter} {value : Except Failure Unit}
  {ending : Ending} {records : List LogRecord}

/-- Mild faults before and after make no difference. -/
theorem between (h : Decided task met value ending records) (hfront : Mild front)
    (hback : Mild back) : Decided task (front ++ (met ++ back)) value ending records := by
  have hsame := @Encounter.interrupted_between met front back hfront hback
  have hmem {x : Encounter} (hx : x ∈ met) : x ∈ front ++ (met ++ back) :=
    List.mem_append_right _ (List.mem_append_left _ hx)
  cases h with
  | completed hnone => exact .completed (mt hsame.1 hnone)
  | interrupted message hsome => exact .interrupted message (hsame.2 hsome)
  | reported hnone hlabel => exact .reported (mt hsame.1 hnone) hlabel
  | refused hnone hrefused => exact .refused (mt hsame.1 hnone) hrefused
  | twice hnone hconnect hclose => exact .twice (mt hsame.1 hnone) (hmem hconnect) (hmem hclose)

/-- What the faults tell about a run decides how the program ends. -/
theorem of_verdict (expected : ∀ x ∈ met, x.fault.isExpected = true)
    (h : Verdict (fun failure => failure.IsIpc ∨ task.Refused failure) met value) :
    Decided task met value (Report.endingOf value).1 (Report.endingOf value).2 := by
  have hreported {met : List Encounter} {failure : Failure} (hnone : ¬Interrupted met)
      (hipc : failure.IsIpc) : Decided task met (.error failure)
        (Report.endingOf (.error failure)).1 (Report.endingOf (.error failure)).2 := by
    obtain ⟨label, hlabel⟩ := hipc
    rw [Report.endingOf_reported hlabel]
    exact .reported hnone hlabel
  have hlast {x : Encounter} {met : List Encounter} (hmild : Mild met)
      (hx : x.fault.isInterrupt = false) : ¬Interrupted (met ++ [x]) := by
    rw [Encounter.interrupted_append]
    rintro (hsome | ⟨y, hy, hinterrupt⟩)
    · exact hmild.not_interrupted hsome
    · rw [List.mem_singleton.1 hy, hx] at hinterrupt
      cases hinterrupt
  cases h with
  | value _ hmild => exact .completed hmild.not_interrupted
  | own hmild hown =>
    rcases hown with hipc | hrefused
    · exact hreported hmild.not_interrupted hipc
    · rw [Report.endingOf_refused hrefused]
      exact .refused hmild.not_interrupted hrefused
  | @fault front x hmild hgrave =>
    have hmem : x ∈ front ++ [x] := List.mem_append_right _ (List.mem_singleton_self x)
    have hexpected : (x.fault.isSystem || x.fault.isInterrupt) = true := expected x hmem
    cases hinterrupt : x.fault.isInterrupt with
    | false =>
      -- then the system reports it, and it makes a failure of the protocol
      rw [hinterrupt, Bool.or_false] at hexpected
      exact hreported (hlast hmild hinterrupt) (Encounter.isIpc_failure hgrave hexpected)
    | true =>
      obtain ⟨call, f⟩ := x
      obtain ⟨message, rfl⟩ := Fault.eq_interrupt hinterrupt
      have hfailure : Encounter.failure ⟨call, .interrupt message⟩ =
          .raised (.interrupt message) := by
        cases call <;> rfl
      rw [hfailure]
      exact .interrupted message ⟨_, hmem, rfl⟩
  | @twice front path f g hmild hsystem =>
    have hconnect : ⟨.connect path, f⟩ ∈ front ++ [⟨.connect path, f⟩, ⟨.close, g⟩] :=
      List.mem_append_right _ (List.mem_cons_self ..)
    have hclose : ⟨.close, g⟩ ∈ front ++ [⟨.connect path, f⟩, ⟨.close, g⟩] :=
      List.mem_append_right _ (List.mem_cons_of_mem _ (List.mem_singleton_self _))
    have hfirst : f.isInterrupt = false := by
      cases f <;> first | rfl | cases hsystem
    cases hinterrupt : g.isInterrupt with
    | false =>
      rw [Report.endingOf_raised hinterrupt]
      refine .twice ?_ hconnect hclose
      rintro ⟨y, hy, hsome⟩
      rcases List.mem_append.1 hy with hmem | hmem
      · exact hmild.not_interrupted ⟨y, hmem, hsome⟩
      · simp only [List.mem_cons, List.not_mem_nil, or_false] at hmem
        rcases hmem with rfl | rfl
        · rw [hfirst] at hsome
          cases hsome
        · rw [hinterrupt] at hsome
          cases hsome
    | true =>
      obtain ⟨message, rfl⟩ := Fault.eq_interrupt hinterrupt
      exact .interrupted message ⟨_, hclose, rfl⟩

end Decided

/-! ## Conversations -/

namespace Process

variable {p : Process} {task : Task} {rounds : Nat}

/-- Closing keeps what has been decided, unless an interrupt arrives. -/
theorem decided_closing {front met : List Encounter} {value : Except Failure Unit}
    (hfront : Mild front)
    (h : Decided task met value (Report.endingOf value).1 (Report.endingOf value).2)
    (expected : ∀ i, (p.connection.socketAt i).Raises fun f => f.isExpected = true) :
    let closing := onClient Client.close p
    let last : Except Failure Unit := match closing.value with
      | .ok () => value
      | .error failure => .error failure
    Decided task
      (front ++ (met ++ Effect.met p.connection.socketAt (Report.effectsOf closing.did))) last
      (Report.endingOf last).1 (Report.endingOf last).2 := by
  have hclosing : onClient Client.close p = _ := onClient_onConnection Connection.close p
  rw [hclosing]
  dsimp only
  rw [Report.effectsOf_map_effect]
  rcases Connection.close_cases p.connection with
    ⟨did, d, hclose, hgoes, -⟩ | ⟨e, f, hheld, hfault, hother, hclose⟩
  · rw [hclose]
    exact h.between hfront (Connection.goes_met hgoes).2.1
  · have hinterrupt : f.isInterrupt = true := by
      have hraises := (expected p.connection.current).close
      rw [Connection.socketAt_of_held hheld] at hraises
      have hcases : (f.isSystem || f.isInterrupt) = true := hraises f hfault
      rwa [Bool.eq_false_iff.2 hother, Bool.false_or] at hcases
    have hlast : Effect.met p.connection.socketAt [.call p.connection.current .close] =
        [⟨.close, f⟩] := Connection.met_held hheld hfault
    obtain ⟨message, rfl⟩ := Fault.eq_interrupt hinterrupt
    rw [hclose, hlast]
    refine .interrupted message ⟨⟨.close, .interrupt message⟩, ?_, rfl⟩
    exact List.mem_append_right _ (List.mem_append_right _ (List.mem_singleton_self _))

/-- The faults that a conversation has met decide how the program ends. -/
theorem decided_converse (numeric : task.Numeric) (hroom : p.room = none)
    (hrounds : p.connection.bytesLeft < rounds)
    (expected : ∀ i, (p.connection.socketAt i).Raises fun f => f.isExpected = true) :
    let run := converse rounds task p
    Decided task (Effect.met p.connection.socketAt (Report.effectsOf run.did)) run.value
      (Report.endingOf run.value).1 (Report.endingOf run.value).2 := by
  have hconnect : dynamics.EndsIn (fun failure => failure.IsIpc ∨ task.Refused failure) connection
      Report.effectsOf (onClient Client.connect) p :=
    ends_onClient (Client.ends_onConnection (Connection.ends_connect _))
  have hopened : (onClient Client.connect p).state.room = none := hroom
  cases hrun : onClient Client.connect p with
  | mk value did q =>
    unfold Dynamics.EndsIn at hconnect
    rw [hrun] at hconnect hopened
    dsimp only at hconnect hopened
    cases value with
    | error failure =>
      rw [converse_refused hrun]
      exact .of_verdict (Effect.met_raises expected _).1 (Connection.ends_verdict hconnect)
    | ok _ =>
      -- the connection has been made, with nothing but mild faults
      obtain ⟨hq, hfront, -⟩ := Connection.goes_met hconnect.goes_of_ok
      have hexpected : ∀ i, (q.connection.socketAt i).Raises fun f => f.isExpected = true := by
        rw [hq]
        exact (Effect.met_raises expected _).2
      have hless : q.connection.bytesLeft < rounds :=
        Nat.lt_of_le_of_lt (Connection.bytesLeft_goes hconnect.goes_of_ok) hrounds
      have hperform := ends_perform numeric hopened hless
      obtain ⟨hmet, hleft⟩ :=
        Effect.met_raises hexpected (Report.effectsOf (perform rounds task q).did)
      have hdecided := Decided.of_verdict hmet (Connection.ends_verdict hperform)
      obtain ⟨ht, -⟩ := Connection.ends_keeps hperform
      rw [← ht] at hleft
      rw [converse_connected hrun]
      dsimp only
      rw [Report.effectsOf_append, Report.effectsOf_append, Effect.met_append, Effect.met_append,
        ← hq, ← ht]
      exact decided_closing hfront hdecided hleft

end Process

/-! ## Command lines -/

/-- How the program exits with an invocation that was accepted, and settings that were loaded. -/
structure Exits (words : List Text) (invocation : Invocation) (settings : Settings) (early : Text)
    (endpoints : List Endpoint) (r : Report) : Prop where
  /-- The faults that were met decide, and what there is to report is written last. -/
  decided : ∃ records,
    Decided invocation.task (Effect.met (fun i => endpoints.getD i .quiet) r.effects)
        (Report.conversation settings invocation endpoints).value r.ending records ∧
      r.errors = early ++
        Report.recordLines (if invocation.verbose then Level.debug else settings.level)
          (Report.recordsOf r.effects ++ records)
  /-- A window that was accepted is asked for, unless it has too many digits. -/
  windows : ∀ window, invocation.task = .getClient window →
    window.isUnsignedInt = true ∧
      ((∃ id, Client.windowId (.str window) = .ok id) ↔ window.length ≤ maxDigits)
  /-- Words that were decoded from bytes have bytes. -/
  encodable : (∀ word ∈ words, word.IsRaw) →
    ∀ request ∈ invocation.task.requests, ∀ t ∈ request.texts, t.Encodable

section

variable {env : Environment} {find : Path → Found} {endpoints : List Endpoint} {words : List Text}
  {invocation : Invocation}

/-- Nothing is done without an invocation. -/
theorem report_of_stop {stop : Stop} (hparse : Invocation.parse words = .error stop) :
    let r := report env find endpoints none words
    r.ending = .stopped stop.status ∧ r.effects = [] ∧ r.sockets = [] := by
  have hreport : report env find endpoints none words = Report.ofStop none stop := by
    unfold report
    rw [hparse]
  rw [hreport]
  cases stop with
  | help => exact ⟨rfl, rfl, rfl⟩
  | misuse misuse => exact ⟨rfl, rfl, rfl⟩

/-- Nor without a file to look for. -/
theorem report_of_nameless {failure : Failure} (hparse : Invocation.parse words = .ok invocation)
    (hpath : invocation.configPath env = .error failure) :
    let r := report env find endpoints none words
    invocation.config = .nameless ∧ failure = .namelessFile ∧ r.ending = .failed failure ∧
      r.effects = [] ∧ r.sockets = [] := by
  have hreport : report env find endpoints none words =
      Report.offline (.failed failure) [] [] := by
    unfold report
    rw [hparse]
    dsimp only
    rw [hpath]
  have hnameless : invocation.config = .nameless ∧ failure = .namelessFile := by
    unfold Invocation.configPath at hpath
    cases hconfig : invocation.config with
    | usual | named _ =>
      rw [hconfig] at hpath
      cases hpath
    | nameless =>
      rw [hconfig] at hpath
      exact ⟨rfl, (Except.error.inj hpath).symm⟩
  rw [hreport]
  exact ⟨hnameless.1, hnameless.2, rfl, rfl, rfl⟩

/-- How the program ends, once the settings are loaded. -/
theorem exits_of_loaded (expected : ∀ e ∈ endpoints, e.Raises fun f => f.isExpected = true)
    {path : Path} {settings : Settings} (hparse : Invocation.parse words = .ok invocation)
    (hpath : invocation.configPath env = .ok path)
    (hload : (Settings.load env path (find path)).outcome = .ok settings) :
    Exits words invocation settings
      (Report.earlyLines (Settings.load env path (find path)).records) endpoints
      (report env find endpoints none words) := by
  obtain ⟨hnumeric, htexts⟩ := Invocation.of_parse hparse
  let start : Process := ⟨Report.clientOf settings invocation endpoints, none⟩
  have hrounds : start.connection.bytesLeft < Report.roundsFor endpoints := Nat.lt_succ_self _
  have hdecided := Process.decided_converse hnumeric (p := start) rfl hrounds
    (Endpoint.Raises.getD expected)
  refine ⟨?_, fun window htask => ?_, fun hraw request hrequest t ht => ?_⟩
  · rw [Report.eq_of_loaded hparse hpath hload, Report.ofInvocation_eq]
    exact ⟨_, hdecided, rfl⟩
  · rw [htask] at hnumeric
    refine ⟨hnumeric, ?_⟩
    rw [Task.windowId_digits hnumeric]
    by_cases hlength : window.length ≤ maxDigits
    · rw [if_pos hlength]
      exact iff_of_true ⟨_, rfl⟩ hlength
    · rw [if_neg hlength]
      exact iff_of_false (fun ⟨_, hid⟩ => nomatch hid) hlength
  · exact (hraw t (htexts request hrequest t ht)).encodable

end

/-- **Every exit is decided.** Let there be room for all that is printed, and sockets that fail in
any call, as the system reports it or with an interrupt. A command line that is misused, or asks for
the help, ends with 2 or 0, and no socket is created. One that names a file without a name fails
before anything is done. If the settings can be loaded, the faults that are met decide: with an
interrupt the status is 130; without one, it is 0 if the conversation ends well, and 1 if it fails
in the protocol, which is reported. No failure leaves the program but the refusal of the task, by a
number of too many digits, a payload that is too long or a word without bytes, and the second fault
of a socket that neither connects nor closes. -/
theorem every_exit_is_decided (env : Environment) (find : Path → Found) {endpoints : List Endpoint}
    (expected : ∀ e ∈ endpoints, e.Raises fun f => f.isExpected = true) (words : List Text) :
    let r := report env find endpoints none words
    (∀ stop, Invocation.parse words = .error stop →
      r.ending = .stopped stop.status ∧ r.effects = [] ∧ r.sockets = []) ∧
    (∀ invocation failure, Invocation.parse words = .ok invocation →
      invocation.configPath env = .error failure →
        invocation.config = .nameless ∧ failure = .namelessFile ∧ r.ending = .failed failure ∧
          r.effects = [] ∧ r.sockets = []) ∧
    ∀ invocation path settings, Invocation.parse words = .ok invocation →
      invocation.configPath env = .ok path →
      (Settings.load env path (find path)).outcome = .ok settings →
        Exits words invocation settings
          (Report.earlyLines (Settings.load env path (find path)).records) endpoints r :=
  ⟨fun _ hparse => report_of_stop hparse,
    fun _ _ hparse hpath => report_of_nameless hparse hpath,
    fun _ _ _ hparse hpath hload => exits_of_loaded expected hparse hpath hload⟩

/-- A socket that neither connects nor closes ends the program with a failure. -/
theorem fault_of_closing_leaves_the_program :
    let e : Endpoint := ⟨[], [], some (.numbered 111 "Connection refused"),
      some (.numbered 5 "Input/output error")⟩
    let invocation : Invocation := ⟨.runCommand "quit" [], none, false, .usual, false⟩
    let r := report ⟨"/root", none, []⟩ (fun _ => .nothing) [e] none ["quit"]
    (∀ e' ∈ [e], e'.Raises fun f => f.isExpected = true) ∧
      Exits ["quit"] invocation Settings.default [] [e] r ∧
      r.ending = .failed (.raised (.numbered 5 "Input/output error")) := by
  intro e invocation r
  have hexpected : ∀ e' ∈ [e], e'.Raises fun f => f.isExpected = true := by decide
  have hparse : Invocation.parse ["quit"] = .ok invocation := by
    have hwords : Arguments.ofWords Arguments.empty [] [(.operand, "quit")] =
        .ok ({ Arguments.empty with message := ["quit"] }, []) := by
      rw [Arguments.ofWords]
      rfl
    have hclassify : classify ["quit"] = .ok [(.operand, "quit")] := by decide
    unfold Invocation.parse Arguments.parse
    rw [hclassify]
    dsimp only
    rw [hwords]
    rfl
  obtain ⟨-, -, haccepted⟩ :=
    every_exit_is_decided ⟨"/root", none, []⟩ (fun _ => .nothing) hexpected ["quit"]
  have hreport : r = _ := Report.eq_of_loaded hparse rfl rfl
  refine ⟨hexpected, haccepted invocation _ Settings.default hparse rfl rfl, ?_⟩
  rw [hreport]
  rfl

end CommandLine

end DwmIpc
