import DwmIpc.Config.Settings

/-!
# Settings that were loaded

Each setting comes from its own key in the file, or it is the default
(`Settings.of_loadBy`). A socket that was loaded has a path (`Settings.socket_ne_nil`):
neither is an empty one accepted, nor does a home directory leave one.
-/

namespace DwmIpc

/-- With a home directory in its front, a text is not empty. -/
theorem Environment.expandHome_ne_nil {env : Environment} {t expanded : Text} (ht : t ≠ [])
    (h : env.expandHome t = .ok expanded) : expanded ≠ [] := by
  have hdirectory (directory rest : Text) : inDirectory directory rest ≠ [] := by
    unfold inDirectory
    split
    · exact List.cons_ne_nil _ _
    next hne => exact hne
  unfold expandHome at h
  split at h
  next rest =>
    dsimp only at h
    split at h
    next =>
      obtain rfl := Except.ok.inj h
      exact hdirectory _ _
    next =>
      cases hcheck : checkUser (rest.takeWhile (· != Path.slash)) with
      | error failure =>
        rw [hcheck] at h
        cases h
      | ok _ =>
        rw [hcheck] at h
        obtain rfl := Except.ok.inj h
        split
        · exact hdirectory _ _
        · exact ht
  next =>
    obtain rfl := Except.ok.inj h
    exact ht

namespace Settings

variable {readText : Text → Except Yaml.Problem Yaml.Document} {env : Environment} {path : Path}
  {found : Found} {settings : Settings}

/-- The value of a key in what was found, unless it is absent or null. -/
def configured? (readText : Text → Except Yaml.Problem Yaml.Document) (path : Path) (found : Found)
    (key : ConfigKey) : Option Yaml.Value :=
  match found with
  | .file content =>
    match documentBy readText path content with
    | .ok (.mapping entries) => given? entries key
    | _ => none
  | _ => none

theorem of_ofEntries {entries : Yaml.Entries} (h : ofEntries env path entries = .ok settings) :
    socketOf env path (given? entries .socket) = .ok settings.socket ∧
      ignoreReplyOf path (given? entries .ignoreReply) = .ok settings.ignoreReply ∧
      levelOf path (given? entries .logLevel) = .ok settings.level := by
  unfold ofEntries at h
  cases hsocket : socketOf env path (given? entries .socket) with
  | error failure =>
    rw [hsocket] at h
    cases h
  | ok socket =>
    cases hignore : ignoreReplyOf path (given? entries .ignoreReply) with
    | error failure =>
      rw [hsocket, hignore] at h
      cases h
    | ok ignoreReply =>
      cases hlevel : levelOf path (given? entries .logLevel) with
      | error failure =>
        rw [hsocket, hignore, hlevel] at h
        cases h
      | ok level =>
        rw [hsocket, hignore, hlevel] at h
        obtain rfl := Except.ok.inj h
        exact ⟨rfl, rfl, rfl⟩

/-- Each setting is what its key says, or the default. -/
theorem of_loadBy (h : (loadBy readText env path found).outcome = .ok settings) :
    socketOf env path (configured? readText path found .socket) = .ok settings.socket ∧
      ignoreReplyOf path (configured? readText path found .ignoreReply) =
        .ok settings.ignoreReply ∧
      levelOf path (configured? readText path found .logLevel) = .ok settings.level := by
  cases found with
  | nothing =>
    obtain rfl := Except.ok.inj h
    exact ⟨rfl, rfl, rfl⟩
  | directory | refused _ => cases h
  | file content =>
    unfold loadBy at h
    unfold configured?
    dsimp only at h ⊢
    cases hdocument : documentBy readText path content with
    | error failure =>
      rw [hdocument] at h
      cases h
    | ok document =>
      rw [hdocument] at h
      cases document with
      | mapping entries =>
        have hread : (read env path entries).outcome = .ok settings := h
        unfold read at hread
        cases hentries : ofEntries env path entries with
        | error failure =>
          rw [hentries] at hread
          cases hread
        | ok loaded =>
          rw [hentries] at hread
          dsimp only at hread
          split at hread
          next => cases hread
          next =>
            obtain rfl := Except.ok.inj hread
            exact of_ofEntries hentries
      | other value =>
        -- a file that holds nothing is as good as none
        dsimp only at h ⊢
        split at h
        next heq => cases heq
        next =>
          obtain rfl := Except.ok.inj h
          exact ⟨rfl, rfl, rfl⟩
        next heq => cases heq
        next => cases h

theorem socketOf_ne_nil {value : Option Yaml.Value} {socket : Text}
    (h : socketOf env path value = .ok socket) : socket ≠ [] := by
  unfold socketOf at h
  split at h
  next =>
    obtain rfl := Except.ok.inj h
    decide
  next => exact Environment.expandHome_ne_nil (List.cons_ne_nil _ _) h
  next => cases h

/-- A socket that was loaded has a path. -/
theorem socket_ne_nil (h : (loadBy readText env path found).outcome = .ok settings) :
    settings.socket ≠ [] :=
  socketOf_ne_nil (of_loadBy h).1

end Settings

end DwmIpc
