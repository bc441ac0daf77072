import DwmIpc.Proofs.Loading

/-!
# Configuration files of any content

Loading settings gives settings, or refuses the file as a bad configuration, or ends
with a failure that was never meant for the user. `Settings.Escapes` lists the last
ones by what is in the file: no text, a value that cannot be, too many digits or
brackets, a user whose name is none, or a path that the system does not even look at.
There are no others, and none of them is reported as a bad configuration
(`Settings.load_reports_unless_escaping`).

A file that holds nothing is as good as none. `Yaml.Vacant` are the texts without a
word in them: lines of spaces and comments. They have no tokens (`Yaml.tokens_vacant`).
-/

namespace DwmIpc

/-! ## Texts that hold nothing -/

namespace Yaml

namespace Cursor

theorem rest_next (c : Cursor) : c.next.rest = c.rest.tail := by
  obtain ⟨rest, line, column, index, size⟩ := c
  cases rest with
  | nil => rfl
  | cons x rest =>
    unfold next
    dsimp only
    split
    · rfl
    · split <;> rfl

theorem rest_advance (n : Nat) (c : Cursor) : (advance n c).rest = c.rest.drop n := by
  induction n generalizing c with
  | zero => rfl
  | succ n ih => rw [advance, ih, rest_next, List.drop_tail]

/-- Skipping leaves what the skipped characters leave. -/
theorem rest_skip (p : CodePoint → Bool) (c : Cursor) : (c.skip p).rest = c.rest.dropWhile p := by
  rw [skip, rest_advance, run]
  induction c.rest with
  | nil => rfl
  | cons x rest ih =>
    rw [List.takeWhile_cons, List.dropWhile_cons]
    split
    · exact ih
    · rfl

/-- What is skipped ends where something else begins. -/
theorem rest_skip_of_append {p : CodePoint → Bool} {c : Cursor} {body rest : Text}
    (hc : c.rest = body ++ rest) (hinside : ∀ x ∈ body, p x = true)
    (hboundary : ∀ x, rest.head? = some x → p x = false) : (c.skip p).rest = rest := by
  rw [rest_skip, hc, List.dropWhile_append_of_pos hinside]
  cases rest with
  | nil => rfl
  | cons x more =>
    rw [List.dropWhile_cons, hboundary x rfl]
    rfl

/-- The place behind spaces and a comment. -/
def lineEnd (c : Cursor) : Cursor :=
  let c := c.skip isSpace
  if c.isAt '#' then c.skipLine else c

theorem lineBreak?_nil {c : Cursor} (hc : c.rest = []) : c.lineBreak? = none := by
  rw [lineBreak?, peek, hc]
  rfl

/-- A line break is read in one step. -/
theorem lineBreak?_cons {c : Cursor} {x : CodePoint} {rest : Text} (hc : c.rest = x :: rest)
    (hbreak : isBreak x = true) : ∃ y, c.lineBreak? = some (y, c.next) := by
  rw [lineBreak?, peek, hc, List.head?_cons]
  dsimp only
  rw [if_pos hbreak]
  exact ⟨_, rfl⟩

end Cursor

/-- A line that says nothing: spaces, and a comment behind them or none. -/
inductive VacantLine : Text → Prop
  | blank (n : Nat) : VacantLine (List.replicate n (.scalar ' '))
  | comment (n : Nat) {words : Text} : (∀ c ∈ words, isBreak c = false) →
      VacantLine (List.replicate n (.scalar ' ') ++ .scalar '#' :: words)

/-- Lines that say nothing. -/
inductive Vacant : Text → Prop
  | last {line : Text} : VacantLine line → Vacant line
  | more {line rest : Text} {c : CodePoint} : VacantLine line → isBreak c = true → Vacant rest →
      Vacant (line ++ c :: rest)

theorem isSpace_of_mem_replicate {n : Nat} :
    ∀ x ∈ List.replicate n (CodePoint.scalar ' '), isSpace x = true := by
  intro x hx
  rw [List.eq_of_mem_replicate hx]
  rfl

/-- A line that says nothing is skipped up to its end. -/
theorem VacantLine.rest_lineEnd {line rest : Text} (hline : VacantLine line)
    (hrest : ∀ x, rest.head? = some x → isBreak x = true) {c : Cursor}
    (hc : c.rest = line ++ rest) : c.lineEnd.rest = rest := by
  cases hline with
  | blank n =>
    have hboundary : ∀ x, rest.head? = some x → isSpace x = false := by
      intro x hx
      refine beq_eq_false_iff_ne.2 ?_
      rintro rfl
      cases hrest _ hx
    have hskip := Cursor.rest_skip_of_append hc isSpace_of_mem_replicate hboundary
    have hat : (c.skip isSpace).isAt '#' = false := by
      rw [Cursor.isAt, Cursor.peek, hskip]
      refine beq_eq_false_iff_ne.2 fun hhash => ?_
      cases hrest _ hhash
    unfold Cursor.lineEnd
    dsimp only
    rw [hat]
    exact hskip
  | @comment n words hwords =>
    rw [List.append_assoc] at hc
    have hskip := Cursor.rest_skip_of_append hc isSpace_of_mem_replicate
      (fun x hx => Option.some.inj hx ▸ rfl)
    have hat : (c.skip isSpace).isAt '#' = true := by
      rw [Cursor.isAt, Cursor.peek, hskip]
      rfl
    have hinside : ∀ x ∈ (.scalar '#' :: words : Text), (!isBreak x) = true := by
      refine List.forall_mem_cons.2 ⟨rfl, fun x hx => ?_⟩
      rw [hwords x hx]
      rfl
    have hboundary : ∀ x, rest.head? = some x → (!isBreak x) = false := by
      intro x hx
      rw [hrest x hx]
      rfl
    unfold Cursor.lineEnd
    dsimp only
    rw [hat]
    exact Cursor.rest_skip_of_append hskip hinside hboundary

/-- Blanks are skipped line by line. -/
theorem Layout.skipBlanks_succ (fuel : Nat) (l : Layout) :
    l.skipBlanks (fuel + 1) =
      match l.cursor.lineEnd.lineBreak? with
      | some (_, c) =>
        skipBlanks fuel { l with cursor := c, keyAllowed := l.keyAllowed || !l.inFlow }
      | none => { l with cursor := l.cursor.lineEnd } := rfl

/-- All of it is skipped, and only the place and whether a key may start change. -/
theorem Vacant.skipBlanks {t : Text} (ht : Vacant t) (fuel : Nat) (l : Layout)
    (hrest : l.cursor.rest = t) (hfuel : t.length < fuel) :
    ∃ cursor keyAllowed, cursor.rest = [] ∧
      l.skipBlanks fuel = { l with cursor := cursor, keyAllowed := keyAllowed } := by
  induction ht generalizing fuel l with
  | @last line hline =>
    obtain ⟨fuel, rfl⟩ : ∃ less, fuel = less + 1 := ⟨fuel - 1, by omega⟩
    have hnone : ∀ x, ([] : Text).head? = some x → isBreak x = true := fun _ hx => nomatch hx
    have hend : l.cursor.lineEnd.rest = [] :=
      hline.rest_lineEnd hnone (hrest.trans (List.append_nil line).symm)
    refine ⟨l.cursor.lineEnd, l.keyAllowed, hend, ?_⟩
    rw [Layout.skipBlanks_succ, Cursor.lineBreak?_nil hend]
  | @more line rest x hline hbreak _ ih =>
    obtain ⟨fuel, rfl⟩ : ∃ less, fuel = less + 1 := ⟨fuel - 1, by omega⟩
    have hhead : ∀ y, (x :: rest).head? = some y → isBreak y = true :=
      fun y hy => Option.some.inj hy ▸ hbreak
    have hend := hline.rest_lineEnd hhead hrest
    obtain ⟨y, hline⟩ := Cursor.lineBreak?_cons hend hbreak
    have hnext : l.cursor.lineEnd.next.rest = rest := by
      rw [Cursor.rest_next, hend]
      rfl
    have hshorter : rest.length < fuel := by
      rw [List.length_append, List.length_cons] at hfuel
      omega
    rw [Layout.skipBlanks_succ, hline]
    exact ih fuel _ hnext hshorter

/-- A text of blanks and comments has no byte order mark. -/
theorem Vacant.head?_ne {t : Text} (ht : Vacant t) : t.head? ≠ some byteOrderMark := by
  have hline {line : Text} (h : VacantLine line) (x : CodePoint) (hx : line.head? = some x) :
      x = .scalar ' ' ∨ x = .scalar '#' := by
    cases h with
    | blank n =>
      cases n with
      | zero => cases hx
      | succ n => exact .inl (Option.some.inj hx).symm
    | comment n =>
      cases n with
      | zero => exact .inr (Option.some.inj hx).symm
      | succ n => exact .inl (Option.some.inj hx).symm
  have hmark : byteOrderMark ≠ .scalar ' ' ∧ byteOrderMark ≠ .scalar '#' := by decide
  intro hhead
  cases ht with
  | last h => exact (hline h _ hhead).elim hmark.1 hmark.2
  | @more line rest x h hbreak _ =>
    cases line with
    | nil =>
      obtain rfl : x = byteOrderMark := Option.some.inj hhead
      exact absurd hbreak (by decide)
    | cons y more => exact (hline h _ hhead).elim hmark.1 hmark.2

/-- A text that holds nothing has no tokens. -/
theorem tokens_vacant {t : Text} (ht : Vacant t) : tokens t = [] := by
  have hfuel : t.length < (Layout.start t).cursor.fuel := Nat.lt_succ_self _
  obtain ⟨cursor, keyAllowed, hempty, hskip⟩ := ht.skipBlanks _ (Layout.start t) rfl hfuel
  obtain ⟨rest, line, column, index, size⟩ := cursor
  obtain rfl : rest = [] := hempty
  have hstep : (Layout.start t).step = .ok none := by
    rw [Layout.step, hskip]
    rfl
  have hend : ∃ last, (Layout.start t).atEnd = .ok last ∧ last.tokens = [] := by
    rw [Layout.atEnd, hskip]
    exact ⟨_, rfl, rfl⟩
  obtain ⟨last, hlast, htokens⟩ := hend
  unfold tokens
  dsimp only
  rw [if_neg ht.head?_ne, Layout.readAll, hstep, hlast]
  dsimp only
  rw [htokens]
  rfl

/-- A text that holds nothing stands for null. -/
theorem ofText_vacant {t : Text} (ht : Vacant t) (hallowed : t.all isAllowed = true) :
    Document.ofText t = .ok (.other (.scalar .null)) := by
  rw [Document.ofText, if_pos hallowed, tokens_vacant ht]
  rfl

/-- The ways to write null. -/
theorem ofText_null : ∀ s ∈ ["~", "null", "Null", "NULL"], ∀ lineFeed ∈ ["", "\n"],
    Document.ofText (Text.ofString (s ++ lineFeed)) = .ok (.other (.scalar .null)) := by
  intro s hs lineFeed hlineFeed
  simp only [List.mem_cons, List.not_mem_nil, or_false] at hs hlineFeed
  rcases hs with rfl | rfl | rfl | rfl <;> rcases hlineFeed with rfl | rfl <;>
    with_unfolding_all rfl

end Yaml

namespace Settings

variable {readText : Text → Except Yaml.Problem Yaml.Document} {env : Environment} {path : Path}
  {found : Found} {failure : Failure}

/-- The text of a file. -/
def textOf? (content : Bytes) : Option Text :=
  (Utf8.decode? content).map unifyLineEnds

/-- Nothing is found, or a file that is empty, says nothing or holds only null. -/
inductive HoldsNothing : Found → Prop
  | missing : HoldsNothing .nothing
  | vacant {content : Bytes} {t : Text} : textOf? content = some t → Yaml.Vacant t →
      t.all Yaml.isAllowed = true → HoldsNothing (.file content)
  | word {content : Bytes} {s lineFeed : String} : s ∈ ["~", "null", "Null", "NULL"] →
      lineFeed ∈ ["", "\n"] → textOf? content = some (Text.ofString (s ++ lineFeed)) →
      HoldsNothing (.file content)

/-! ## Failures that escape -/

/-- What is found leads to a failure that is not reported as a bad configuration, if texts are read
in this way. -/
inductive Escapes (readText : Text → Except Yaml.Problem Yaml.Document) (env : Environment)
    (path : Path) : Found → Failure → Prop
  /-- The system does not even look. -/
  | refused (fault : FileFault) : Escapes readText env path (.refused fault) (.refusedFile fault)
  | undecodable {content : Bytes} : Utf8.decode? content = none →
      Escapes readText env path (.file content) .undecodableFile
  | tooDeep {content : Bytes} {t : Text} : textOf? content = some t →
      readText t = .error .tooDeep → Escapes readText env path (.file content) .tooDeeplyNested
  | impossible {content : Bytes} {t : Text} {fault : Yaml.ValueFault} : textOf? content = some t →
      readText t = .error (.impossible fault) →
      Escapes readText env path (.file content) (.impossibleValue fault)
  | tooManyDigits {content : Bytes} {t : Text} {count : Nat} : textOf? content = some t →
      readText t = .error (.tooManyDigits count) →
      Escapes readText env path (.file content) (.tooManyDigits count)
  /-- The socket is to be in the home directory of a user whose name cannot be looked up. -/
  | user {content : Bytes} {t rest : Text} {entries : Yaml.Entries} {failure : Failure} :
      textOf? content = some t → readText t = .ok (.mapping entries) →
      given? entries .socket = some (.scalar (.text (.scalar '~' :: rest))) →
      Environment.checkUser (rest.takeWhile (· != Path.slash)) = .error failure →
      Escapes readText env path (.file content) failure
  /-- All is well but for a key without a meaning, which cannot be named in the warning. -/
  | key {content : Bytes} {t : Text} {entries : Yaml.Entries} {settings : Settings} {n : Int}
      {value : Yaml.Value} :
      textOf? content = some t → readText t = .ok (.mapping entries) →
      ofEntries env path entries = .ok settings → (.int n, value) ∈ entries →
      Request.isUnwritable n = true → Escapes readText env path (.file content) .unwritableInteger

section

variable {content : Bytes} {t : Text}

/-- A file that has a text holds the document that is read from it. -/
theorem documentBy_eq (h : textOf? content = some t) :
    documentBy readText path content = (readText t).mapError (failureOf path) := by
  obtain ⟨u, hdecode, rfl⟩ := Option.map_eq_some_iff.1 h
  rw [documentBy, hdecode]

/-- A text that is no document is a problem of the configuration. -/
theorem loadBy_of_problem (htext : textOf? content = some t) {problem : Yaml.Problem}
    (hdocument : readText t = .error problem) :
    loadBy readText env path (.file content) = ⟨.error (failureOf path problem), []⟩ := by
  rw [loadBy, documentBy_eq htext, hdocument]
  rfl

/-- A mapping is read as settings. -/
theorem loadBy_of_mapping (htext : textOf? content = some t) {entries : Yaml.Entries}
    (hdocument : readText t = .ok (.mapping entries)) :
    loadBy readText env path (.file content) = read env path entries := by
  rw [loadBy, documentBy_eq htext, hdocument]
  rfl

/-- Null is as good as no file; all else that is no mapping is refused. -/
theorem loadBy_of_other (htext : textOf? content = some t) {value : Yaml.Value}
    (hdocument : readText t = .ok (.other value)) :
    loadBy readText env path (.file content) =
      if value = .scalar .null then ⟨.ok default, []⟩
      else ⟨.error (.badConfig (.notMapping path.text)), []⟩ := by
  rw [loadBy, documentBy_eq htext, hdocument]
  cases value with
  | collection => rfl
  | scalar s => cases s <;> rfl

end

/-- A user is looked up unless the name has no bytes, or has a zero byte. -/
theorem checkUser_cases (name : Text) :
    Environment.checkUser name = .ok () ∨
      ∃ failure, Environment.checkUser name = .error failure ∧ failure.label? = none := by
  unfold Environment.checkUser
  split
  · exact .inr ⟨_, rfl, rfl⟩
  · split
    · exact .inr ⟨_, rfl, rfl⟩
    · exact .inl rfl

/-- No failure that escapes is one that a user is told about. -/
theorem Escapes.label?_eq_none (h : Escapes readText env path found failure) :
    failure.label? = none := by
  cases h with
  | user _ _ _ hcheck =>
    rcases checkUser_cases _ with hok | ⟨_, herror, hlabel⟩
    · cases hcheck.symm.trans hok
    · exact Except.error.inj (hcheck.symm.trans herror) ▸ hlabel
  | _ => rfl

/-! ## The ways in which loading ends -/

/-- A text is refused only for the name of a user behind a tilde. -/
theorem expandHome_error {t : Text} (h : env.expandHome t = .error failure) :
    ∃ rest, t = .scalar '~' :: rest ∧
      Environment.checkUser (rest.takeWhile (· != Path.slash)) = .error failure := by
  unfold Environment.expandHome at h
  split at h
  next rest =>
    refine ⟨rest, rfl, ?_⟩
    dsimp only at h
    split at h
    next => cases h
    next =>
      cases hcheck : Environment.checkUser (rest.takeWhile (· != Path.slash)) with
      | error reason =>
        rw [hcheck] at h
        exact congrArg Except.error (Except.error.inj h)
      | ok _ =>
        rw [hcheck] at h
        cases h
  next => cases h

/-- It is refused whenever that name is. -/
theorem expandHome_of_checkUser {rest : Text}
    (h : Environment.checkUser (rest.takeWhile (· != Path.slash)) = .error failure) :
    env.expandHome (.scalar '~' :: rest) = .error failure := by
  have hname : (rest.takeWhile (· != Path.slash)).isEmpty = false := by
    rw [List.isEmpty_eq_false_iff]
    intro hnil
    rw [hnil] at h
    cases h
  rw [Environment.expandHome, hname, h]
  rfl

/-- A socket is refused, or its user cannot be looked up. -/
theorem socketOf_error {value : Option Yaml.Value} (h : socketOf env path value = .error failure) :
    (∃ problem, failure = .badConfig problem) ∨
      ∃ rest, value = some (.scalar (.text (.scalar '~' :: rest))) ∧
        Environment.checkUser (rest.takeWhile (· != Path.slash)) = .error failure := by
  unfold socketOf at h
  split at h
  next => cases h
  next c rest =>
    obtain ⟨more, hmore, hcheck⟩ := expandHome_error h
    exact .inr ⟨more, by rw [hmore], hcheck⟩
  next => exact .inl ⟨_, (Except.error.inj h).symm⟩

/-- A bad value is a problem of the configuration. -/
theorem ignoreReplyOf_error {value : Option Yaml.Value}
    (h : ignoreReplyOf path value = .error failure) : ∃ problem, failure = .badConfig problem := by
  unfold ignoreReplyOf at h
  split at h
  next => cases h
  next => cases h
  next => exact ⟨_, (Except.error.inj h).symm⟩

theorem levelOf_error {value : Option Yaml.Value} (h : levelOf path value = .error failure) :
    ∃ problem, failure = .badConfig problem := by
  unfold levelOf at h
  split at h
  next => cases h
  next =>
    split at h
    next => cases h
    next => exact ⟨_, (Except.error.inj h).symm⟩
  next => exact ⟨_, (Except.error.inj h).symm⟩

/-- Entries are refused, or the user of the socket cannot be looked up. -/
theorem ofEntries_error {entries : Yaml.Entries} (h : ofEntries env path entries = .error failure) :
    (∃ problem, failure = .badConfig problem) ∨
      ∃ rest, given? entries .socket = some (.scalar (.text (.scalar '~' :: rest))) ∧
        Environment.checkUser (rest.takeWhile (· != Path.slash)) = .error failure := by
  unfold ofEntries at h
  cases hsocket : socketOf env path (given? entries .socket) with
  | error reason =>
    rw [hsocket] at h
    obtain rfl : reason = failure := Except.error.inj h
    exact socketOf_error hsocket
  | ok socket =>
    refine .inl ?_
    cases hignore : ignoreReplyOf path (given? entries .ignoreReply) with
    | error reason =>
      rw [hsocket, hignore] at h
      obtain rfl : reason = failure := Except.error.inj h
      exact ignoreReplyOf_error hignore
    | ok ignoreReply =>
      cases hlevel : levelOf path (given? entries .logLevel) with
      | error reason =>
        rw [hsocket, hignore, hlevel] at h
        obtain rfl : reason = failure := Except.error.inj h
        exact levelOf_error hlevel
      | ok level =>
        rw [hsocket, hignore, hlevel] at h
        cases h

/-- A socket in the home of a user whose name is refused gives no settings. -/
theorem ofEntries_of_checkUser {entries : Yaml.Entries} {rest : Text}
    (hgiven : given? entries .socket = some (.scalar (.text (.scalar '~' :: rest))))
    (h : Environment.checkUser (rest.takeWhile (· != Path.slash)) = .error failure) :
    ofEntries env path entries = .error failure := by
  have hsocket : socketOf env path (given? entries .socket) = .error failure := by
    rw [hgiven]
    exact expandHome_of_checkUser h
  unfold ofEntries
  rw [hsocket]
  rfl

/-- A key can be shown unless it is an integer with too many digits. -/
theorem keyText_cases (key : Yaml.Scalar) :
    keyText key = .ok key.shown ∧ (∀ n, key = .int n → Request.isUnwritable n = false) ∨
      keyText key = .error .unwritableInteger ∧
        ∃ n, key = .int n ∧ Request.isUnwritable n = true := by
  unfold keyText
  split
  next n =>
    split
    next hlong => exact .inr ⟨rfl, n, rfl, hlong⟩
    next hshort =>
      exact .inl ⟨rfl, fun m hm => Yaml.Scalar.int.inj hm ▸ Bool.eq_false_iff.2 hshort⟩
  next hother => exact .inl ⟨rfl, fun n hn => absurd hn (hother n)⟩

/-- Keys are written unless one is an integer of too many digits. -/
theorem mapM_keyText (entries : Yaml.Entries) :
    entries.mapM (fun entry => keyText entry.1) = .ok (entries.map (·.1.shown)) ∧
        (∀ n value, (.int n, value) ∈ entries → Request.isUnwritable n = false) ∨
      entries.mapM (fun entry => keyText entry.1) = .error .unwritableInteger ∧
        ∃ n value, (.int n, value) ∈ entries ∧ Request.isUnwritable n = true := by
  induction entries with
  | nil => exact .inl ⟨rfl, fun _ _ h => absurd h List.not_mem_nil⟩
  | cons entry more ih =>
    obtain ⟨key, value⟩ := entry
    rw [List.mapM_cons]
    rcases keyText_cases key with ⟨ht, hfew⟩ | ⟨herror, n, rfl, hlong⟩
    · rw [ht]
      rcases ih with ⟨htexts, hall⟩ | ⟨herror, n, value, hmem, hlong⟩
      · refine .inl ⟨by rw [htexts]; rfl, fun n v hmem => ?_⟩
        rcases List.mem_cons.1 hmem with heq | hmem
        · exact hfew n (congrArg Prod.fst heq).symm
        · exact hall n v hmem
      · exact .inr ⟨by rw [herror]; rfl, n, value, List.mem_cons_of_mem _ hmem, hlong⟩
    · exact .inr ⟨by rw [herror]; rfl, n, value, List.mem_cons_self .., hlong⟩

/-- The entries whose keys have no meaning. -/
def others (entries : Yaml.Entries) : Yaml.Entries :=
  entries.filter fun entry => !knownKeys.any (isKey entry.1)

/-- An integer is no key with a meaning. -/
theorem mem_others_int {entries : Yaml.Entries} {n : Int} {value : Yaml.Value} :
    (.int n, value) ∈ others entries ↔ (.int n, value) ∈ entries := by
  rw [others, List.mem_filter]
  exact and_iff_left rfl

/-- The keys without a meaning are listed unless one is an integer of too many digits. -/
theorem unknownKeys_cases (entries : Yaml.Entries) :
    unknownKeys entries = .ok (((others entries).map (·.1.shown)).mergeSort Text.precedes) ∧
        (∀ n value, (.int n, value) ∈ entries → Request.isUnwritable n = false) ∨
      unknownKeys entries = .error .unwritableInteger ∧
        ∃ n value, (.int n, value) ∈ entries ∧ Request.isUnwritable n = true := by
  unfold unknownKeys
  dsimp only
  rw [← others]
  rcases mapM_keyText (others entries) with ⟨htexts, hall⟩ | ⟨herror, n, value, hmem, hlong⟩
  · exact .inl ⟨by rw [htexts]; rfl, fun n value hmem => hall n value (mem_others_int.2 hmem)⟩
  · exact .inr ⟨by rw [herror]; rfl, n, value, mem_others_int.1 hmem, hlong⟩

/-- Entries give settings, or are refused, or fail in one of the ways that escape. -/
theorem read_cases {content : Bytes} {t : Text} {entries : Yaml.Entries}
    (htext : textOf? content = some t)
    (hdocument : readText t = .ok (.mapping entries)) :
    (∃ settings, (read env path entries).outcome = .ok settings) ∨
      (∃ problem, (read env path entries).outcome = .error (.badConfig problem)) ∨
      ∃ failure, (read env path entries).outcome = .error failure ∧
        Escapes readText env path (.file content) failure := by
  unfold read
  cases hentries : ofEntries env path entries with
  | error failure =>
    rcases ofEntries_error hentries with ⟨problem, rfl⟩ | ⟨rest, hgiven, hcheck⟩
    · exact .inr (.inl ⟨problem, rfl⟩)
    · exact .inr (.inr ⟨failure, rfl, .user htext hdocument hgiven hcheck⟩)
  | ok settings =>
    dsimp only
    rcases unknownKeys_cases entries with ⟨hunknown, -⟩ | ⟨hunknown, n, value, hmem, hlong⟩
    · rw [hunknown]
      exact .inl ⟨settings, rfl⟩
    · rw [hunknown]
      exact .inr (.inr ⟨_, rfl, .key htext hdocument hentries hmem hlong⟩)

/-- Loading gives settings, refuses the file, or fails in one of the ways that escape. -/
theorem loadBy_cases (readText : Text → Except Yaml.Problem Yaml.Document) (env : Environment)
    (path : Path) (found : Found) :
    (∃ settings, (loadBy readText env path found).outcome = .ok settings) ∨
      (∃ problem, (loadBy readText env path found).outcome = .error (.badConfig problem)) ∨
      ∃ failure, (loadBy readText env path found).outcome = .error failure ∧
        Escapes readText env path found failure := by
  cases found with
  | nothing => exact .inl ⟨_, rfl⟩
  | directory => exact .inr (.inl ⟨_, rfl⟩)
  | refused fault => exact .inr (.inr ⟨_, rfl, .refused fault⟩)
  | file content =>
    cases htext : textOf? content with
    | none =>
      have hdecode : Utf8.decode? content = none := Option.map_eq_none_iff.1 htext
      refine .inr (.inr ⟨_, ?_, .undecodable hdecode⟩)
      rw [loadBy, documentBy, hdecode]
    | some t =>
      cases hdocument : readText t with
      | error problem =>
        rw [loadBy_of_problem htext hdocument]
        cases problem with
        | malformed => exact .inr (.inl ⟨_, rfl⟩)
        | tooDeep => exact .inr (.inr ⟨_, rfl, .tooDeep htext hdocument⟩)
        | tooManyDigits count => exact .inr (.inr ⟨_, rfl, .tooManyDigits htext hdocument⟩)
        | impossible fault => exact .inr (.inr ⟨_, rfl, .impossible htext hdocument⟩)
      | ok document =>
        cases document with
        | mapping entries =>
          rw [loadBy_of_mapping htext hdocument]
          exact read_cases htext hdocument
        | other value =>
          rw [loadBy_of_other htext hdocument]
          split
          · exact .inl ⟨_, rfl⟩
          · exact .inr (.inl ⟨_, rfl⟩)

/-- What is found and escapes is how loading ends. -/
theorem Escapes.outcome_eq (h : Escapes readText env path found failure) :
    (loadBy readText env path found).outcome = .error failure := by
  cases h with
  | refused fault => rfl
  | undecodable hdecode => rw [loadBy, documentBy, hdecode]
  | tooDeep htext hdocument => rw [loadBy_of_problem htext hdocument, failureOf]
  | impossible htext hdocument => rw [loadBy_of_problem htext hdocument, failureOf]
  | tooManyDigits htext hdocument => rw [loadBy_of_problem htext hdocument, failureOf]
  | user htext hdocument hgiven hcheck =>
    rw [loadBy_of_mapping htext hdocument, read, ofEntries_of_checkUser hgiven hcheck]
  | @key _ _ entries _ n value htext hdocument hentries hmem hlong =>
    rw [loadBy_of_mapping htext hdocument, read, hentries]
    rcases unknownKeys_cases entries with ⟨-, hall⟩ | ⟨hunknown, -⟩
    · exact absurd hlong (Bool.eq_false_iff.1 (hall n value hmem))
    · dsimp only
      rw [hunknown]

/-- Whatever holds nothing gives the defaults. -/
theorem HoldsNothing.outcome_eq (h : HoldsNothing found) :
    (load env path found).outcome = .ok default := by
  cases h with
  | missing => rfl
  | vacant htext hvacant hallowed =>
    rw [load, loadBy_of_other htext (Yaml.ofText_vacant hvacant hallowed), if_pos rfl]
  | word hs hlineFeed htext =>
    rw [load, loadBy_of_other htext (Yaml.ofText_null _ hs _ hlineFeed), if_pos rfl]

/-- **Loading gives settings or refuses the file, unless a failure escapes.** In whatever way texts
are read, it does so just if what is found has none of the listed faults; with one of them it ends
with the failure of that fault, which has no label. Settings that were loaded have a socket with a
path and one of the five levels, and where null is read, they are the defaults. In YAML they are so,
too, where nothing is found, or a file that holds nothing. -/
theorem load_reports_unless_escaping (env : Environment) (path : Path) (found : Found) :
    (∀ readText : Text → Except Yaml.Problem Yaml.Document,
      let outcome := (loadBy readText env path found).outcome
      ((∃ settings, outcome = .ok settings) ∨ (∃ problem, outcome = .error (.badConfig problem)) ↔
        ∀ failure, ¬Escapes readText env path found failure) ∧
      (∀ failure, Escapes readText env path found failure →
        outcome = .error failure ∧ failure.label? = none) ∧
      (∀ settings, outcome = .ok settings → settings.socket ≠ [] ∧
        settings.level.name ∈ ["debug", "info", "warning", "error", "critical"]) ∧
      ∀ content t, found = .file content → textOf? content = some t →
        readText t = .ok (.other (.scalar .null)) →
        outcome = .ok ⟨"/tmp/dwm.sock", false, .warning⟩) ∧
    (HoldsNothing found →
      (load env path found).outcome = .ok ⟨"/tmp/dwm.sock", false, .warning⟩) := by
  refine ⟨?_, HoldsNothing.outcome_eq⟩
  intro readText outcome
  refine ⟨⟨fun h failure hescapes => ?_, fun h => ?_⟩,
    fun failure hescapes => ⟨hescapes.outcome_eq, hescapes.label?_eq_none⟩,
    fun settings hsettings => ⟨socket_ne_nil hsettings, ?_⟩, ?_⟩
  · rcases h with ⟨settings, hok⟩ | ⟨problem, hbad⟩
    · cases hok.symm.trans hescapes.outcome_eq
    · obtain rfl := Except.error.inj (hbad.symm.trans hescapes.outcome_eq)
      cases hescapes.label?_eq_none
  · rcases loadBy_cases readText env path found with hok | hbad | ⟨failure, -, hescapes⟩
    · exact .inl hok
    · exact .inr hbad
    · exact absurd hescapes (h failure)
  · cases settings.level <;> decide
  · rintro content t rfl htext hnull
    show (loadBy readText env path (.file content)).outcome = _
    rw [loadBy_of_other htext hnull, if_pos rfl]
    rfl

example (env : Environment) (path : Path) :
    (load env path (.file [0xFF])).outcome = .error .undecodableFile := rfl

end Settings

end DwmIpc
