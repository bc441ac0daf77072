import DwmIpc.Proofs.ConfigFiles
import DwmIpc.Proofs.LevelNames
import DwmIpc.Proofs.Requests
import Mathlib.Data.List.Lex
import Mathlib.Data.List.Nodup

/-!
# Mappings as configurations

Three keys of a mapping have a meaning. What a mapping gives them (`Settings.Gives`) is
either all fine, or one of them is the first that is not (`Settings.FirstInvalid`), and
that decides what comes of the mapping: settings that follow what is given
(`Settings.Follows`), or a refusal. Other entries, and the order of all, make no
difference but for the warning.

Two things keep it from being so for every mapping: the user of a socket's home
directory may have a name that cannot be looked up (`Settings.BadUser`), and a key
without a meaning may be an integer of too many digits to be shown
(`Settings.Showable`). The main result, `Settings.known_keys_decide`, says what comes
of those too.
-/

namespace DwmIpc

namespace Text

/-! ## The order of texts -/

/-- Texts are ordered as lists of the numbers of their code points. -/
theorem precedes_iff (a b : Text) :
    precedes a b = true ↔ a.map CodePoint.toNat ≤ b.map CodePoint.toNat := by
  induction a generalizing b with
  | nil => exact iff_of_true rfl (not_lt.1 (List.not_lt_nil _))
  | cons c s ih =>
    cases b with
    | nil => exact iff_of_false Bool.false_ne_true (not_le.2 (List.nil_lt_cons _ _))
    | cons d t =>
      rw [List.map_cons, List.map_cons, le_iff_lt_or_eq, List.cons_lt_cons_iff, List.cons.injEq,
        or_assoc, ← and_or_left, ← le_iff_lt_or_eq, ← ih t, precedes, Bool.or_eq_true,
        Bool.and_eq_true, decide_eq_true_eq, beq_iff_eq]

/-- Sorted texts are in the order of their code points. -/
theorem pairwise_mergeSort_precedes (texts : List Text) :
    (texts.mergeSort precedes).Pairwise fun a b =>
      a.map CodePoint.toNat ≤ b.map CodePoint.toNat := by
  have htrans (a b c : Text) (hab : precedes a b = true) (hbc : precedes b c = true) :
      precedes a c = true :=
    (precedes_iff a c).2 (le_trans ((precedes_iff a b).1 hab) ((precedes_iff b c).1 hbc))
  have htotal (a b : Text) : (precedes a b || precedes b a) = true :=
    Bool.or_eq_true_iff.2 ((le_total _ _).imp (precedes_iff a b).2 (precedes_iff b a).2)
  exact (List.pairwise_mergeSort htrans htotal texts).imp (precedes_iff _ _).1

end Text

namespace Settings

/-! ## What a mapping says -/

/-- No two entries have the same key. -/
def Distinct (entries : Yaml.Entries) : Prop :=
  (entries.map (·.1.key)).Nodup

/-- The mapping gives the key this value, which is not null. -/
def Gives (entries : Yaml.Entries) (key : ConfigKey) (value : Yaml.Value) : Prop :=
  (.text key.name, value) ∈ entries ∧ value ≠ .scalar .null

/-- The values that a key may have. -/
inductive Valid : ConfigKey → Yaml.Value → Prop
  | socket {t : Text} : t ≠ [] → Valid .socket (.scalar (.text t))
  | ignoreReply (b : Bool) : Valid .ignoreReply (.scalar (.bool b))
  | logLevel {t : Text} (level : Level) : t.IsUpToCase level.name.toList →
      Valid .logLevel (.scalar (.text t))

/-- The key is absent or null, or has a value that it may have. -/
def Fine (entries : Yaml.Entries) (key : ConfigKey) : Prop :=
  ∀ value, Gives entries key value → Valid key value

/-- The key is the first that has a value that it may not have. -/
def FirstInvalid (entries : Yaml.Entries) (key : ConfigKey) : Prop :=
  ¬Fine entries key ∧ ∀ earlier ∈ knownKeys.takeWhile (· ≠ key), Fine entries earlier

/-- The settings are what the mapping gives, or the defaults. -/
structure Follows (env : Environment) (entries : Yaml.Entries) (settings : Settings) : Prop where
  socket : (∀ value, ¬Gives entries .socket value) ∧ settings.socket = default.socket ∨
    ∃ t, Gives entries .socket (.scalar (.text t)) ∧ env.expandHome t = .ok settings.socket
  ignoreReply : (∀ value, ¬Gives entries .ignoreReply value) ∧
      settings.ignoreReply = default.ignoreReply ∨
    Gives entries .ignoreReply (.scalar (.bool settings.ignoreReply))
  level : (∀ value, ¬Gives entries .logLevel value) ∧ settings.level = default.level ∨
    ∃ t, Gives entries .logLevel (.scalar (.text t)) ∧
      t.lowerCase = Text.ofString settings.level.name

/-- The socket is to be in the home directory of a user whose name cannot be looked up. -/
def BadUser (entries : Yaml.Entries) (failure : Failure) : Prop :=
  ∃ rest, Gives entries .socket (.scalar (.text (.scalar '~' :: rest))) ∧
    Environment.checkUser (rest.takeWhile (· != Path.slash)) = .error failure

/-- Every key can be shown: integers have at most 4300 digits. -/
def Showable (entries : Yaml.Entries) : Prop :=
  ∀ n value, (.int n, value) ∈ entries → (Nat.toDigits 10 n.natAbs).length ≤ 4300

/-- The mapping is neither accepted nor refused. -/
inductive Fails (entries : Yaml.Entries) : Failure → Prop
  | user {failure : Failure} : BadUser entries failure → Fails entries failure
  | key : (∀ key, Fine entries key) → (∀ failure, ¬BadUser entries failure) →
      ¬Showable entries → Fails entries .unwritableInteger

variable {env : Environment} {path : Path} {entries : Yaml.Entries} {settings : Settings}
  {key : ConfigKey} {value : Yaml.Value} {failure : Failure}

/-! ## What a key is given -/

theorem isKey_iff {scalar : Yaml.Scalar} : isKey scalar key = true ↔ scalar = .text key.name :=
  beq_iff_eq

/-- A key has one value. -/
theorem Distinct.eq_of_key (h : Distinct entries) {scalar : Yaml.Scalar} {a b : Yaml.Value}
    (ha : (scalar, a) ∈ entries) (hb : (scalar, b) ∈ entries) : a = b :=
  congrArg Prod.snd (List.inj_on_of_nodup_map h ha hb rfl)

/-- The value of a key does not depend on where its entry stands. -/
theorem given?_eq_some_iff (h : Distinct entries) :
    given? entries key = some value ↔ Gives entries key value := by
  unfold given?
  cases hfind : entries.find? fun entry => isKey entry.1 key with
  | none =>
    refine iff_of_false (fun hnone => nomatch hnone) fun hgives => ?_
    exact List.find?_eq_none.1 hfind _ hgives.1 (isKey_iff.2 rfl)
  | some entry =>
    obtain ⟨scalar, found⟩ := entry
    have hmem : (scalar, found) ∈ entries := List.mem_of_find?_eq_some hfind
    have hkey := List.find?_some hfind
    obtain rfl : scalar = .text key.name := isKey_iff.1 hkey
    have hfound (hgives : Gives entries key value) : found = value := h.eq_of_key hmem hgives.1
    split
    next heq => cases heq
    next heq =>
      obtain rfl : found = .scalar .null := congrArg Prod.snd (Option.some.inj heq)
      exact iff_of_false (fun hnone => nomatch hnone) fun hgives =>
        hgives.2 (hfound hgives).symm
    next hnull heq =>
      obtain ⟨-, rfl⟩ := Prod.mk.inj (Option.some.inj heq)
      rw [Option.some.injEq]
      exact ⟨fun heq => heq ▸ ⟨hmem, hnull⟩, hfound⟩

/-- A key is given nothing, or one value. -/
theorem given?_cases (h : Distinct entries) (key : ConfigKey) :
    given? entries key = none ∧ (∀ value, ¬Gives entries key value) ∨
      ∃ value, given? entries key = some value ∧ Gives entries key value ∧
        (Fine entries key ↔ Valid key value) := by
  cases hgiven : given? entries key with
  | none =>
    refine .inl ⟨rfl, fun value hgives => ?_⟩
    cases hgiven.symm.trans ((given?_eq_some_iff h).2 hgives)
  | some value =>
    have hgives := (given?_eq_some_iff h).1 hgiven
    refine .inr ⟨value, rfl, hgives, fun hfine => hfine value hgives, fun hvalid other hother => ?_⟩
    obtain rfl := Option.some.inj (hgiven.symm.trans ((given?_eq_some_iff h).2 hother))
    exact hvalid

/-- A key that is not there has no bad value. -/
theorem Fine.of_absent (h : ∀ value, ¬Gives entries key value) : Fine entries key :=
  fun value hgives => absurd hgives (h value)

/-! ## One key after the other -/

/-- The socket: the home of a user may be missing, and a value may be no text; or it is given or
not. -/
theorem socketOf_cases (env : Environment) (path : Path) (h : Distinct entries) :
    (Fine entries .socket ∧
      ((∃ failure, BadUser entries failure ∧
          socketOf env path (given? entries .socket) = .error failure) ∨
        ∃ socket, socketOf env path (given? entries .socket) = .ok socket ∧
          ((∀ value, ¬Gives entries .socket value) ∧ socket = default.socket ∨
            ∃ t, Gives entries .socket (.scalar (.text t)) ∧ env.expandHome t = .ok socket))) ∨
      ¬Fine entries .socket ∧ socketOf env path (given? entries .socket) = refuse path .socket := by
  rcases given?_cases h .socket with ⟨hgiven, hnone⟩ | ⟨value, hgiven, hgives, hfine⟩
  · rw [hgiven]
    exact .inl ⟨.of_absent hnone, .inr ⟨_, rfl, .inl ⟨hnone, rfl⟩⟩⟩
  · rw [hgiven, hfine]
    cases value with
    | collection => exact .inr ⟨nofun, rfl⟩
    | scalar s =>
      cases s with
      | text t =>
        cases t with
        | nil =>
          refine .inr ⟨fun hvalid => ?_, rfl⟩
          cases hvalid with
          | socket hne => exact hne rfl
        | cons c rest =>
          have hread : socketOf env path (some (.scalar (.text (c :: rest)))) =
              env.expandHome (c :: rest) := rfl
          refine .inl ⟨.socket (List.cons_ne_nil _ _), ?_⟩
          rw [hread]
          cases hexpand : env.expandHome (c :: rest) with
          | ok socket => exact .inr ⟨socket, rfl, .inr ⟨_, hgives, hexpand⟩⟩
          | error failure =>
            obtain ⟨more, hmore, hcheck⟩ := expandHome_error hexpand
            rw [hmore] at hgives
            exact .inl ⟨failure, ⟨more, hgives, hcheck⟩, rfl⟩
      | _ => exact .inr ⟨nofun, rfl⟩

/-- Keeping replies back: it is given as a truth value or not at all, or refused. -/
theorem ignoreReplyOf_cases (path : Path) (h : Distinct entries) :
    (Fine entries .ignoreReply ∧ ∃ ignoreReply,
      ignoreReplyOf path (given? entries .ignoreReply) = .ok ignoreReply ∧
        ((∀ value, ¬Gives entries .ignoreReply value) ∧ ignoreReply = default.ignoreReply ∨
          Gives entries .ignoreReply (.scalar (.bool ignoreReply)))) ∨
      ¬Fine entries .ignoreReply ∧
        ignoreReplyOf path (given? entries .ignoreReply) = refuse path .ignoreReply := by
  rcases given?_cases h .ignoreReply with ⟨hgiven, hnone⟩ | ⟨value, hgiven, hgives, hfine⟩
  · rw [hgiven]
    exact .inl ⟨.of_absent hnone, _, rfl, .inl ⟨hnone, rfl⟩⟩
  · rw [hgiven, hfine]
    cases value with
    | collection => exact .inr ⟨nofun, rfl⟩
    | scalar s =>
      cases s with
      | bool b => exact .inl ⟨.ignoreReply b, b, rfl, .inr hgives⟩
      | _ => exact .inr ⟨nofun, rfl⟩

/-- The level: it is given by its name or not at all, or refused. -/
theorem levelOf_cases (path : Path) (h : Distinct entries) :
    (Fine entries .logLevel ∧ ∃ level, levelOf path (given? entries .logLevel) = .ok level ∧
      ((∀ value, ¬Gives entries .logLevel value) ∧ level = default.level ∨
        ∃ t, Gives entries .logLevel (.scalar (.text t)) ∧
          t.lowerCase = Text.ofString level.name)) ∨
      ¬Fine entries .logLevel ∧
        levelOf path (given? entries .logLevel) = refuse path .logLevel := by
  rcases given?_cases h .logLevel with ⟨hgiven, hnone⟩ | ⟨value, hgiven, hgives, hfine⟩
  · rw [hgiven]
    exact .inl ⟨.of_absent hnone, _, rfl, .inl ⟨hnone, rfl⟩⟩
  · rw [hgiven, hfine]
    cases value with
    | collection => exact .inr ⟨nofun, rfl⟩
    | scalar s =>
      cases s with
      | text t =>
        rw [levelOf]
        cases hlevel : Level.ofText? t with
        | some level =>
          exact .inl ⟨.logLevel level (Level.ofText?_eq_some.1 hlevel), level, rfl,
            .inr ⟨t, hgives, Level.ofText?_eq_some_iff_lowerCase.1 hlevel⟩⟩
        | none =>
          refine .inr ⟨fun hvalid => ?_, rfl⟩
          cases hvalid with
          | logLevel level hname =>
            cases hlevel.symm.trans (Level.ofText?_eq_some.2 hname)
      | _ => exact .inr ⟨nofun, rfl⟩

/-- A home that cannot be found stops everything. -/
theorem BadUser.ofEntries_eq (h : Distinct entries) (hbad : BadUser entries failure) :
    ofEntries env path entries = .error failure := by
  obtain ⟨rest, hgives, hcheck⟩ := hbad
  exact ofEntries_of_checkUser ((given?_eq_some_iff h).2 hgives) hcheck

/-- Without a bad user, the first invalid key is refused, or the settings follow the mapping. -/
theorem ofEntries_cases (env : Environment) (path : Path) (h : Distinct entries)
    (hgood : ∀ failure, ¬BadUser entries failure) :
    (∃ key, FirstInvalid entries key ∧ ofEntries env path entries = refuse path key) ∨
      (∀ key, Fine entries key) ∧
        ∃ settings, ofEntries env path entries = .ok settings ∧ Follows env entries settings := by
  unfold ofEntries
  rcases socketOf_cases env path h with
    ⟨hsocket, ⟨failure, hbad, -⟩ | ⟨socket, hsocketOf, hfromSocket⟩⟩ | ⟨hsocket, hsocketOf⟩
  · exact absurd hbad (hgood failure)
  · rcases ignoreReplyOf_cases path h with
      ⟨hignore, ignoreReply, hignoreOf, hfromIgnore⟩ | ⟨hignore, hignoreOf⟩
    · rcases levelOf_cases path h with
        ⟨hlevel, level, hlevelOf, hfromLevel⟩ | ⟨hlevel, hlevelOf⟩
      · rw [hsocketOf, hignoreOf, hlevelOf]
        refine .inr ⟨fun key => ?_, _, rfl, hfromSocket, hfromIgnore, hfromLevel⟩
        cases key <;> assumption
      · rw [hsocketOf, hignoreOf, hlevelOf]
        refine .inl ⟨.logLevel, ⟨hlevel, fun earlier hearlier => ?_⟩, rfl⟩
        rcases List.mem_pair.1 hearlier with rfl | rfl <;> assumption
    · rw [hsocketOf, hignoreOf]
      refine .inl ⟨.ignoreReply, ⟨hignore, fun earlier hearlier => ?_⟩, rfl⟩
      exact List.mem_singleton.1 hearlier ▸ hsocket
  · rw [hsocketOf]
    exact .inl ⟨.socket, ⟨hsocket, fun _ hearlier => absurd hearlier List.not_mem_nil⟩, rfl⟩

theorem FirstInvalid.unique {other : ConfigKey} (h : FirstInvalid entries key)
    (hother : FirstInvalid entries other) : other = key := by
  have hplace : other = key ∨ other ∈ knownKeys.takeWhile (· ≠ key) ∨
      key ∈ knownKeys.takeWhile (· ≠ other) := by
    cases key <;> cases other <;> decide
  rcases hplace with rfl | hbefore | hbehind
  · rfl
  · exact absurd (h.2 other hbefore) hother.1
  · exact absurd (hother.2 key hbehind) h.1

/-! ## The whole mapping -/

/-- Keys can be shown unless one of them is an integer with too many digits. -/
theorem showable_iff : Showable entries ↔
    ∀ n value, (.int n, value) ∈ entries → Request.isUnwritable n = false :=
  forall_congr' fun _ => forall_congr' fun _ => forall_congr' fun _ =>
    Request.isUnwritable_eq_false_iff.symm

/-- The unknown keys are shown in order. -/
theorem unknownKeys_of_showable (h : Showable entries) : unknownKeys entries =
    .ok (((others entries).map (·.1.shown)).mergeSort Text.precedes) := by
  rcases unknownKeys_cases entries with ⟨hunknown, -⟩ | ⟨-, n, value, hmem, hlong⟩
  · exact hunknown
  · exact absurd hlong (Bool.eq_false_iff.1 (showable_iff.1 h n value hmem))

/-- One key that cannot be shown is enough for none to be. -/
theorem unknownKeys_of_not_showable (h : ¬Showable entries) :
    unknownKeys entries = .error .unwritableInteger := by
  rcases unknownKeys_cases entries with ⟨-, hall⟩ | ⟨hunknown, -⟩
  · exact absurd (showable_iff.2 hall) h
  · exact hunknown

/-- If all keys can be shown, what comes of the mapping is what comes of the three keys. -/
theorem outcome_of_showable (h : Showable entries) :
    (read env path entries).outcome = ofEntries env path entries := by
  rw [read, unknownKeys_of_showable h]
  cases ofEntries env path entries <;> rfl

/-- With a key that cannot be shown, reading fails for it unless a known key fails before. -/
theorem outcome_of_not_showable (h : ¬Showable entries) :
    (read env path entries).outcome =
      (ofEntries env path entries).bind fun _ => .error .unwritableInteger := by
  rw [read, unknownKeys_of_not_showable h]
  cases ofEntries env path entries <;> rfl

/-- Settings are those of the known keys, and all keys can be shown. -/
theorem ofEntries_of_outcome (h : (read env path entries).outcome = .ok settings) :
    ofEntries env path entries = .ok settings ∧ Showable entries := by
  by_cases hshow : Showable entries
  · exact ⟨(outcome_of_showable hshow).symm.trans h, hshow⟩
  · rw [outcome_of_not_showable hshow] at h
    cases hread : ofEntries env path entries <;> rw [hread] at h <;> cases h

/-- The warning names the keys without a meaning, in order, if there are any. -/
theorem records_of_ok (h : (read env path entries).outcome = .ok settings) :
    ∃ names : List Text, names.Perm ((others entries).map (·.1.shown)) ∧
      (names.Pairwise fun a b => a.map CodePoint.toNat ≤ b.map CodePoint.toNat) ∧
      (read env path entries).records = if others entries = [] then [] else
        [⟨.warning, .config, path.text ++ Text.ofString ": ignoring unknown keys: " ++
          Text.joinWith ", " names⟩] := by
  have hsorted := List.mergeSort_perm ((others entries).map (·.1.shown)) Text.precedes
  refine ⟨_, hsorted, Text.pairwise_mergeSort_precedes _, ?_⟩
  obtain ⟨hread, hshow⟩ := ofEntries_of_outcome h
  rw [read, hread, unknownKeys_of_showable hshow]
  dsimp only
  rw [warnings]
  refine if_congr ?_ rfl rfl
  rw [List.isEmpty_iff, ← List.length_eq_zero_iff, hsorted.length_eq, List.length_map,
    List.length_eq_zero_iff]

/-- There is no warning about a mapping that fails. -/
theorem records_of_error (h : (read env path entries).outcome = .error failure) :
    (read env path entries).records = [] := by
  unfold read at h ⊢
  split at h
  next => rfl
  next =>
    split at h
    next => rfl
    next => cases h

/-- A mapping with a reason to fail fails for it. -/
theorem Fails.outcome_eq (h : Distinct entries) (hfails : Fails entries failure) :
    (read env path entries).outcome = .error failure := by
  cases hfails with
  | user hbad => rw [read, hbad.ofEntries_eq h]
  | key hfine hgood hlong =>
    rcases ofEntries_cases env path h hgood with ⟨key, hfirst, -⟩ | ⟨-, settings, hread, -⟩
    · exact absurd (hfine key) hfirst.1
    · rw [outcome_of_not_showable hlong, hread]
      rfl

/-- These failures are not those of a protocol. -/
theorem Fails.label?_eq_none (hfails : Fails entries failure) : failure.label? = none := by
  cases hfails with
  | user hbad =>
    obtain ⟨rest, -, hcheck⟩ := hbad
    rcases checkUser_cases (rest.takeWhile (· != Path.slash)) with hok | ⟨_, herror, hlabel⟩
    · cases hcheck.symm.trans hok
    · exact Except.error.inj (hcheck.symm.trans herror) ▸ hlabel
  | key => rfl

/-- A mapping that does not fail is refused at its first invalid key, or all its keys are fine. -/
theorem outcome_of_not_fails (env : Environment) (path : Path) (h : Distinct entries)
    (hnone : ∀ failure, ¬Fails entries failure) :
    (∃ key, FirstInvalid entries key ∧
      (read env path entries).outcome = .error (.badConfig (.badValue path.text key))) ∨
      (∀ key, Fine entries key) ∧ ∃ settings, (read env path entries).outcome = .ok settings := by
  have hgood (failure : Failure) : ¬BadUser entries failure := fun hbad => hnone _ (.user hbad)
  rcases ofEntries_cases env path h hgood with ⟨key, hfirst, hread⟩ | ⟨hfine, settings, hread, -⟩
  · exact .inl ⟨key, hfirst, by rw [read, hread]; rfl⟩
  · have hshow : Showable entries := by
      by_contra hlong
      exact hnone _ (.key hfine hgood hlong)
    exact .inr ⟨hfine, settings, (outcome_of_showable hshow).trans hread⟩

/-- Settings that are read follow the mapping. -/
theorem follows_of_ok (h : Distinct entries)
    (hok : (read env path entries).outcome = .ok settings) : Follows env entries settings := by
  have hgood (failure : Failure) : ¬BadUser entries failure := fun hbad => by
    cases ((Fails.user hbad).outcome_eq h).symm.trans hok
  have hread := (ofEntries_of_outcome hok).1
  rcases ofEntries_cases env path h hgood with ⟨key, -, hrefused⟩ | ⟨-, other, hother, hfollows⟩
  · cases hrefused.symm.trans hread
  · obtain rfl := Except.ok.inj (hother.symm.trans hread)
    exact hfollows

/-- Only what the three keys are given counts, and whether all keys can be shown. -/
theorem outcome_congr {same : Yaml.Entries} (hgiven : ∀ key, given? same key = given? entries key)
    (hshow : Showable same ↔ Showable entries) :
    (read env path same).outcome = (read env path entries).outcome := by
  have hread : ofEntries env path same = ofEntries env path entries := by
    rw [ofEntries, ofEntries, hgiven, hgiven, hgiven]
  by_cases h : Showable entries
  · rw [outcome_of_showable h, outcome_of_showable (hshow.2 h), hread]
  · rw [outcome_of_not_showable h, outcome_of_not_showable fun hs => h (hshow.1 hs), hread]

/-- **The known keys decide.** Unless a mapping fails, it gives settings just if each known key is
absent or null or has a value that it may have, and else the first key that has no such value is
refused; it fails just with a failure that is not reported as a bad configuration. Settings are what
the mapping gives, or the defaults, and come with a warning just if there are other keys: all of
them, in the order of their texts. Whatever fails or is refused has no warning. Mappings that give
the known keys the same values come to the same, whatever else is in them and in whatever order, as
long as the keys of both can be shown, or of neither. -/
theorem known_keys_decide (env : Environment) (path : Path) (h : Distinct entries) :
    let run := read env path entries
    (∀ failure, Fails entries failure → run.outcome = .error failure ∧ failure.label? = none) ∧
    ((∀ failure, ¬Fails entries failure) →
      ((∃ settings, run.outcome = .ok settings) ↔ ∀ key, Fine entries key) ∧
      ∀ key, FirstInvalid entries key →
        run.outcome = .error (.badConfig (.badValue path.text key))) ∧
    (∀ settings, run.outcome = .ok settings → Follows env entries settings ∧
      ∃ names : List Text, names.Perm ((others entries).map (·.1.shown)) ∧
        (names.Pairwise fun a b => a.map CodePoint.toNat ≤ b.map CodePoint.toNat) ∧
        run.records = if others entries = [] then [] else
          [⟨.warning, .config, path.text ++ Text.ofString ": ignoring unknown keys: " ++
            Text.joinWith ", " names⟩]) ∧
    (∀ failure, run.outcome = .error failure → run.records = []) ∧
    ∀ same, Distinct same → (∀ key value, Gives same key value ↔ Gives entries key value) →
      (Showable same ↔ Showable entries) → (read env path same).outcome = run.outcome := by
  intro run
  refine ⟨fun failure hfails => ⟨hfails.outcome_eq h, hfails.label?_eq_none⟩, fun hnone => ?_,
    fun settings hsettings => ⟨follows_of_ok h hsettings, records_of_ok hsettings⟩,
    fun failure => records_of_error, fun same hsame hgives hshow => ?_⟩
  · rcases outcome_of_not_fails env path h hnone with ⟨key, hfirst, hrun⟩ | ⟨hfine, settings, hrun⟩
    · refine ⟨iff_of_false (fun ⟨_, hok⟩ => ?_) fun hfine => hfirst.1 (hfine key),
        fun other hother => ?_⟩
      · cases hrun.symm.trans hok
      · rw [hother.unique hfirst] at hrun
        exact hrun
    · exact ⟨iff_of_true ⟨settings, hrun⟩ hfine, fun key hfirst => absurd (hfine key) hfirst.1⟩
  · have hgiven (key : ConfigKey) : given? same key = given? entries key := by
      ext value
      rw [given?_eq_some_iff hsame, given?_eq_some_iff h, hgives]
    exact outcome_congr hgiven hshow

/-- A level in capitals is a level, with or without other keys; a user named by a zero byte is
looked up in vain. -/
theorem known_keys_decide_on_level :
    let env : Environment := ⟨"/home/u", none, []⟩
    let path : Path := ⟨.workingDirectory, ["c.yaml"]⟩
    let level : Yaml.Scalar × Yaml.Value := (.text "log_level", .scalar (.text "INFO"))
    let user : Yaml.Scalar × Yaml.Value := (.text "socket", .scalar (.text "~\x00"))
    ((∃ settings, (read env path [level]).outcome = .ok settings) ∧
      (read env path [(.int 7, .collection), level]).outcome = (read env path [level]).outcome) ∧
    (Fails [user] (.raised (.invalidValue "embedded null byte")) ∧
      (read env path [user]).outcome = .error (.raised (.invalidValue "embedded null byte"))) := by
  intro env path level user
  have hlevel : Distinct [level] := by unfold Distinct; decide
  have hmore : Distinct [(.int 7, .collection), level] := by unfold Distinct; decide
  have huser : Distinct [user] := by unfold Distinct; decide
  have honly {key : ConfigKey} {value : Yaml.Value} (h : Gives [level] key value) :
      key = .logLevel ∧ value = .scalar (.text "INFO") := by
    obtain ⟨hname, hvalue⟩ := Prod.mk.inj (List.mem_singleton.1 h.1)
    refine ⟨?_, hvalue⟩
    revert hname
    cases key <;> decide
  have hvalid : Valid .logLevel (.scalar (.text "INFO")) :=
    .logLevel .info (.cons (.inr rfl) (.cons (.inr rfl) (.cons (.inr rfl) (.cons (.inr rfl) .nil))))
  have hfine (key : ConfigKey) : Fine [level] key := fun value hgives => by
    obtain ⟨rfl, rfl⟩ := honly hgives
    exact hvalid
  have hshow {mapping : Yaml.Entries} (h : ∀ n value, (.int n, value) ∈ mapping → n = 7) :
      Showable mapping := fun n value hmem => by
    rw [h n value hmem]
    decide
  have hshown : Showable [level] := hshow fun n value hmem => by simp [level] at hmem
  have hnone (failure : Failure) : ¬Fails [level] failure := by
    rintro (⟨rest, hgives, -⟩ | ⟨-, -, hlong⟩)
    · cases (honly hgives).1
    · exact hlong hshown
  have hgives (key : ConfigKey) (value : Yaml.Value) :
      Gives [(.int 7, .collection), level] key value ↔ Gives [level] key value :=
    and_congr_left' (by simp)
  have hbad : Fails [user] (.raised (.invalidValue "embedded null byte")) :=
    .user ⟨[.scalar '\x00'], ⟨List.mem_singleton.2 rfl, by decide⟩, rfl⟩
  obtain ⟨-, hdecides, -, -, hsame⟩ := known_keys_decide env path hlevel
  obtain ⟨hfails, -⟩ := known_keys_decide env path huser
  refine ⟨⟨(hdecides hnone).1.2 hfine, hsame _ hmore hgives ?_⟩, hbad, (hfails _ hbad).1⟩
  exact iff_of_true (hshow fun n value hmem => by simp_all [level]) hshown

end Settings

end DwmIpc
