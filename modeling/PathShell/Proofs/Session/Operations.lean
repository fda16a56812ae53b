import PathShell.Session
import PathShell.Proofs.Command

/-!
# Operations of a session

What a session can be asked to do, and what each part of its answer leaves of the file system, the
working directory, the editor, the history, the key and the store.
-/

namespace PathShell

/-- What a session can be asked to do. -/
inductive Operation where
  | execute (clock : Clock) (line : String)
  | openEditor (path : String)
  | setDraft (draft : String)
  | saveEditor (now : Instant) (path content : String)
  | commitDraft (now : Instant)
  | cancelEditor

namespace Session

variable {σ : Type} [Storage σ]

/-- The result of an operation, and the session after it. Only an editor that opens tells a text. -/
def perform (session : Session σ) : Operation → Except SessionError (Option String) × Session σ
  | .execute clock line => (session.execute clock line).map (·.map fun _ => none) id
  | .openEditor path => (session.openEditor path).map (·.map some) id
  | .setDraft draft => (session.setDraft draft).map (·.map fun _ => none) id
  | .saveEditor now path content => (session.saveEditor now path content).map (·.map fun _ => none) id
  | .commitDraft now => (session.commitDraft now).map (·.map fun _ => none) id
  | .cancelEditor => (.ok none, session.cancelEditor)

/-- The session after one operation. -/
def after (session : Session σ) (operation : Operation) : Session σ := (session.perform operation).2

/-- The session after operations in turn. -/
def afterAll (session : Session σ) (operations : List Operation) : Session σ :=
  operations.foldl after session

/-- The sessions differ at most in their logs and their histories. -/
structure SameState (before after : Session σ) : Prop where
  files : after.files = before.files
  cwd : after.cwd = before.cwd
  editor : after.editor = before.editor
  key : after.key = before.key
  store : after.store = before.store

omit [Storage σ] in
theorem sameState_refl (session : Session σ) : SameState session session :=
  ⟨rfl, rfl, rfl, rfl, rfl⟩

/-! ## Logging -/

omit [Storage σ] in
@[simp] theorem files_logged (session : Session σ) (events : List Log.Event) :
    (session.logged events).files = session.files := rfl

omit [Storage σ] in
@[simp] theorem cwd_logged (session : Session σ) (events : List Log.Event) :
    (session.logged events).cwd = session.cwd := rfl

omit [Storage σ] in
@[simp] theorem key_logged (session : Session σ) (events : List Log.Event) :
    (session.logged events).key = session.key := rfl

omit [Storage σ] in
@[simp] theorem editor_logged (session : Session σ) (events : List Log.Event) :
    (session.logged events).editor = session.editor := rfl

omit [Storage σ] in
@[simp] theorem store_logged (session : Session σ) (events : List Log.Event) :
    (session.logged events).store = session.store := rfl

/-! ## Writing back -/

@[simp] theorem files_persist (session : Session σ) : session.persist.files = session.files := by
  rw [persist]; split <;> rfl

@[simp] theorem cwd_persist (session : Session σ) : session.persist.cwd = session.cwd := by
  rw [persist]; split <;> rfl

@[simp] theorem editor_persist (session : Session σ) : session.persist.editor = session.editor := by
  rw [persist]; split <;> rfl

@[simp] theorem history_persist (session : Session σ) : session.persist.history = session.history := by
  rw [persist]; split <;> rfl

@[simp] theorem clears_persist (session : Session σ) : session.persist.clears = session.clears := by
  rw [persist]; split <;> rfl

@[simp] theorem key_persist (session : Session σ) : session.persist.key = session.key := by
  rw [persist]; split <;> rfl

@[simp] theorem store_persist (session : Session σ) :
    session.persist.store = (Storage.set session.store session.key session.files.stored).2 := by
  rw [persist]
  split
  · next wrote => simp [wrote]
  · next failed => simp [failed]

/-! ## Replies -/

/-- The working directory once an effect is done. -/
def directoryAfter (cwd : String) : Option Effect → String
  | some (.changeDirectory path) => path
  | some .clearHistory => cwd
  | some (.openEditor _) => cwd
  | none => cwd

omit [Storage σ] in
/-- An editor that opens, or does not, leaves the rest of the session. -/
theorem openEditor_frame (session : Session σ) (path : String) :
    (session.openEditor path).2.files = session.files ∧
      (session.openEditor path).2.cwd = session.cwd ∧
      (session.openEditor path).2.key = session.key ∧
      (session.openEditor path).2.store = session.store := by
  rw [openEditor]
  split
  · exact ⟨rfl, rfl, rfl, rfl⟩
  · split
    · exact ⟨rfl, rfl, rfl, rfl⟩
    · exact ⟨rfl, rfl, rfl, rfl⟩

omit [Storage σ] in
/-- An effect changes neither the files nor the store, and only one changes the directory. -/
theorem follow_frame (session : Session σ) (effect : Option Effect) :
    (session.follow effect).files = session.files ∧
      (session.follow effect).cwd = directoryAfter session.cwd effect ∧
      (session.follow effect).key = session.key ∧
      (session.follow effect).store = session.store := by
  rcases effect with _ | path | _ | path
  · exact ⟨rfl, rfl, rfl, rfl⟩
  · exact ⟨rfl, rfl, rfl, rfl⟩
  · exact ⟨rfl, rfl, rfl, rfl⟩
  · have frame := openEditor_frame session path
    rw [follow, apply]
    split
    · next opened => rw [opened] at frame; exact frame
    · next refused => rw [refused] at frame; exact frame

omit [Storage σ] in
theorem sameState_note (session : Session σ) (clock : Clock) (line : String)
    (output : Option Output) : SameState session (session.note clock line output) := by
  cases output with
  | none => exact sameState_refl session
  | some output => exact ⟨rfl, rfl, rfl, rfl, rfl⟩

/-- A reply leaves the files, writes them back if it says that they changed, and moves the session
    only where it asks for that. -/
theorem settle_frame (session : Session σ) (clock : Clock) (line : String) (reply : Reply) :
    (session.settle clock line reply).files = session.files ∧
      (session.settle clock line reply).cwd = directoryAfter session.cwd reply.effect ∧
      (session.settle clock line reply).key = session.key ∧
      (session.settle clock line reply).store =
        if reply.changed then (Storage.set session.store session.key session.files.stored).2
        else session.store := by
  obtain ⟨files, cwd, key, store⟩ := follow_frame (session.save reply.changed) reply.effect
  have noted := sameState_note ((session.save reply.changed).follow reply.effect) clock line reply.output
  rw [settle, noted.files, noted.cwd, noted.key, noted.store, files, cwd, key, store]
  cases reply.changed with
  | true => simp [save]
  | false => simp [save]

/-- The editor once an effect is done. -/
def editorAfter (files : FileSystem) (editor : Editor) : Option Effect → Editor
  | some (.openEditor path) =>
    match editor, files.read path with
    | .closed, .ok draft => .editing path draft
    | .closed, .error _ => .closed
    | .editing opened draft, _ => .editing opened draft
  | some (.changeDirectory _) => editor
  | some .clearHistory => editor
  | none => editor

/-- The history once an effect is done. -/
def historyAfter (history : List HistoryEntry) : Option Effect → List HistoryEntry
  | some .clearHistory => []
  | some (.changeDirectory _) => history
  | some (.openEditor _) => history
  | none => history

omit [Storage σ] in
theorem editor_follow (session : Session σ) (effect : Option Effect) :
    (session.follow effect).editor = editorAfter session.files session.editor effect := by
  rcases effect with _ | path | _ | path
  · rfl
  · rfl
  · rfl
  · simp only [follow, apply, openEditor, editorAfter]
    cases state : session.editor with
    | editing opened draft => exact state
    | closed =>
      cases session.files.read path with
      | ok draft => rfl
      | error cause => exact state

omit [Storage σ] in
theorem history_follow (session : Session σ) (effect : Option Effect) :
    (session.follow effect).history = historyAfter session.history effect := by
  rcases effect with _ | path | _ | path
  · rfl
  · rfl
  · rfl
  · simp only [follow, apply, openEditor]
    cases session.editor with
    | editing opened draft => rfl
    | closed => cases session.files.read path <;> rfl

omit [Storage σ] in
theorem history_note (session : Session σ) (clock : Clock) (line : String)
    (output : Option Output) :
    (session.note clock line output).history =
      session.history ++ output.toList.map (⟨line, ·, clock.wall⟩) := by
  cases output with
  | none => simp [note]
  | some output => rfl

/-- A reply opens the editor and clears the history only where it asks for that, and records what it
    prints. -/
theorem settle_view (session : Session σ) (clock : Clock) (line : String) (reply : Reply) :
    (session.settle clock line reply).editor =
        editorAfter session.files session.editor reply.effect ∧
      (session.settle clock line reply).history =
        historyAfter session.history reply.effect ++
          reply.output.toList.map (⟨line, ·, clock.wall⟩) := by
  have noted := sameState_note ((session.save reply.changed).follow reply.effect) clock line reply.output
  rw [settle, noted.editor, history_note, editor_follow, history_follow]
  cases reply.changed with
  | true => simp [save]
  | false => simp [save]

/-! ## Lines -/

/-- What a command leaves of the session that runs it, where it succeeds. -/
theorem dispatch_of_ok {session : Session σ} {clock : Clock} {command : Command}
    {arguments : List String} {reply : Reply} (line : String)
    (answered : (command.run clock.stamp arguments session.cwd session.files).answer = .ok reply) :
    let files := (command.run clock.stamp arguments session.cwd session.files).files
    let ended := session.dispatch clock line command arguments
    ended.files = files ∧ ended.cwd = directoryAfter session.cwd reply.effect ∧
      ended.key = session.key ∧
      ended.store =
        if reply.changed then (Storage.set session.store session.key files.stored).2
        else session.store := by
  simp only [dispatch, files_logged, cwd_logged, answered]
  exact settle_frame ..

/-- What a command leaves of the session that runs it, where it fails. -/
theorem dispatch_of_error {session : Session σ} {clock : Clock} {line : String} {command : Command}
    {arguments : List String} {error : CommandError}
    (failed : (command.run clock.stamp arguments session.cwd session.files).answer = .error error) :
    SameState session (session.dispatch clock line command arguments) := by
  have unchanged := Command.files_of_error failed
  simp only [dispatch, files_logged, cwd_logged, failed]
  exact ⟨unchanged, rfl, rfl, rfl, rfl⟩

/-- Whether the command succeeds or fails, the session goes on with the files that the command leaves. -/
theorem files_dispatch (session : Session σ) (clock : Clock) (line : String) (command : Command)
    (arguments : List String) :
    (session.dispatch clock line command arguments).files =
      (command.run clock.stamp arguments session.cwd session.files).files := by
  cases answered : (command.run clock.stamp arguments session.cwd session.files).answer with
  | ok reply => exact (dispatch_of_ok line answered).1
  | error error => exact (dispatch_of_error answered).files.trans (Command.files_of_error answered).symm

/-- What a command shows of itself where it succeeds. -/
theorem dispatch_view_of_ok {session : Session σ} {clock : Clock} {command : Command}
    {arguments : List String} {reply : Reply} (line : String)
    (answered : (command.run clock.stamp arguments session.cwd session.files).answer = .ok reply) :
    let files := (command.run clock.stamp arguments session.cwd session.files).files
    let ended := session.dispatch clock line command arguments
    ended.editor = editorAfter files session.editor reply.effect ∧
      ended.history = historyAfter session.history reply.effect ++
        reply.output.toList.map (⟨line, ·, clock.wall⟩) := by
  simp only [dispatch, files_logged, cwd_logged, answered]
  exact settle_view ..

/-- What a command shows of itself where it fails. -/
theorem history_dispatch_of_error {session : Session σ} {clock : Clock} {command : Command}
    {arguments : List String} {error : CommandError} (line : String)
    (failed : (command.run clock.stamp arguments session.cwd session.files).answer = .error error) :
    (session.dispatch clock line command arguments).history =
      session.history ++ [⟨line, .text error.message, clock.wall⟩] := by
  simp only [dispatch, files_logged, cwd_logged, failed]
  rfl

theorem ne_empty_of_mem_words {text word : String} (member : word ∈ Text.words text) : word ≠ "" := by
  rw [Text.words, List.mem_map] at member
  obtain ⟨run, kept, rfl⟩ := member
  have filled := (List.mem_filter.mp kept).2
  simpa [← String.toList_eq_nil_iff] using filled

/-- A line is refused, blank, unknown or a command whose arguments are not empty. -/
theorem execute_cases (session : Session σ) (clock : Clock) (line : String) :
    SameState session (session.execute clock line).2 ∨
      ∃ command arguments, (∀ name ∈ arguments, name ≠ "") ∧
        (session.execute clock line).2 =
          session.dispatch clock (Text.trim line) command arguments := by
  rw [execute]
  split
  · exact .inl (sameState_refl session)
  · dsimp only
    split
    · exact .inl (sameState_refl session)
    · next name arguments worded =>
      split
      · next command _ =>
        refine .inr ⟨command, arguments, fun argument member => ?_, rfl⟩
        have inside : argument ∈ Text.words (Text.trim line) :=
          worded ▸ List.mem_cons_of_mem name member
        exact ne_empty_of_mem_words inside
      · exact .inl ⟨rfl, rfl, rfl, rfl, rfl⟩

/-- A line whose first word is a command runs it on the other words. -/
theorem execute_eq_dispatch {session : Session σ} (closed : session.editor = .closed) (clock : Clock)
    {line name : String} {arguments : List String} {command : Command}
    (worded : Text.words (Text.trim line) = name :: arguments)
    (known : Registry.builtin.find? name = some command) :
    session.execute clock line = (.ok (), session.dispatch clock (Text.trim line) command arguments) := by
  simp [execute, closed, worded, known]

/-! ## Saving -/

/-- Saving leaves everything, or writes the file that was open and writes the file system back. -/
theorem saveEditor_cases (session : Session σ) (now : Instant) (path content : String) :
    SameState session (session.saveEditor now path content).2 ∨
      ∃ file, session.files.get? path = some (.file file) ∧
        let ended := (session.saveEditor now path content).2
        ended.files = session.files.insert path (.file ⟨content, now⟩) ∧
          ended.cwd = session.cwd ∧ ended.key = session.key ∧
          ended.store = (Storage.set session.store session.key ended.files.stored).2 := by
  rw [saveEditor]
  split
  · exact .inl (sameState_refl session)
  · split
    · exact .inl (sameState_refl session)
    · have written := Edit.run_write now path content session.files
      split at written
      · next file found =>
        refine .inr ⟨file, found, ?_⟩
        simp [written, logged]
      · refine .inl ?_
        simp only [written]
        exact sameState_refl session
      · refine .inl ?_
        simp only [written]
        exact sameState_refl session

theorem commitDraft_cases (session : Session σ) (now : Instant) :
    SameState session (session.commitDraft now).2 ∨
      ∃ path draft, (session.commitDraft now).2 = (session.saveEditor now path draft).2 := by
  rw [commitDraft]
  split
  · exact .inl (sameState_refl session)
  · next path draft _ => exact .inr ⟨path, draft, rfl⟩

end Session
end PathShell
