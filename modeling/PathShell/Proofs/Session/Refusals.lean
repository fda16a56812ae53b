import PathShell.Proofs.Session.Editor

/-!
# Refusals

Whether a session refuses an operation, and why, is decided by its editor and its files before anything
is done. So a refusal leaves the session as it is, its store is not asked for anything, and while the
file that the editor is open on is there, saving it is not refused.
-/

namespace PathShell
namespace Session

variable {σ : Type}

/-! ## Why an operation is refused -/

/-- Why `content` cannot be written to a file at `path`. -/
def unwritable? (files : FileSystem) (path : String) : Option SessionError :=
  match files.get? path with
  | some (.file _) => none
  | some .directory => some (.files (.notAFile path))
  | none => some (.files (.notFound path))

/-- Why the session refuses an operation, if it does. -/
def refusal? (session : Session σ) : Operation → Option SessionError
  | .execute .. => session.editor.path?.map .editorOpen
  | .openEditor path =>
    match session.editor with
    | .editing opened _ => some (.editorOpen opened)
    | .closed => unwritable? session.files path
  | .setDraft _ => if session.editor = .closed then some .editorClosed else none
  | .saveEditor _ path _ =>
    match session.editor with
    | .closed => some .editorClosed
    | .editing opened _ =>
      if opened = path then unwritable? session.files path
      else some (.editorPathMismatch opened path)
  | .commitDraft _ =>
    match session.editor with
    | .closed => some .editorClosed
    | .editing path _ => unwritable? session.files path
  | .cancelEditor => none

theorem unwritable?_eq_none_iff {files : FileSystem} {path : String} :
    unwritable? files path = none ↔ ∃ file, files.get? path = some (.file file) := by
  rw [unwritable?]
  rcases files.get? path with _ | file | _
  · simp
  · simp
  · simp

/-- What can be written to can be read, and fails to be read for the same reason. -/
theorem read_of_unwritable? (files : FileSystem) (path : String) :
    match unwritable? files path with
    | some error => ∃ cause, error = .files cause ∧ files.read path = .error cause
    | none => ∃ content, files.read path = .ok content := by
  rw [unwritable?, FileSystem.read]
  rcases files.get? path with _ | file | _
  · exact ⟨_, rfl, rfl⟩
  · exact ⟨_, rfl⟩
  · exact ⟨_, rfl, rfl⟩

/-! ## What a refusal leaves -/

/-- The answer and the session after it would be the same with any `other` functions to read and to set
    the store by, such as ones that keep a record of their calls. -/
def IgnoresStore [given : Storage σ] (session : Session σ) (operation : Operation) : Prop :=
  ∀ other : Storage σ, @perform σ other session operation = @perform σ given session operation

variable [Storage σ]

/-- The operation is answered with an error. -/
def Refuses (session : Session σ) (operation : Operation) : Prop :=
  ∃ error, (session.perform operation).1 = .error error

theorem saveEditor_eq (session : Session σ) (now : Instant) (path content : String) :
    match session.refusal? (.saveEditor now path content) with
    | some error => session.saveEditor now path content = (.error error, session)
    | none => (session.saveEditor now path content).1 = .ok () := by
  rw [refusal?, saveEditor]
  cases state : session.editor with
  | closed => rfl
  | editing opened draft =>
    by_cases same : opened = path
    · subst same
      have kept : ({ session with editor := .editing opened draft } : Session σ) = session := by
        rw [← state]
      have written := Edit.run_write now opened content session.files
      simp only [if_true, ne_eq, not_true_eq_false, if_false, unwritable?]
      rcases found : session.files.get? opened with _ | file | _
      · rw [found] at written
        simpa [written] using kept
      · rw [found] at written
        simp [written]
      · rw [found] at written
        simpa [written] using kept
    · simp [same]

/-- What is refused is refused for that reason, and nothing is done; what is not refused is accepted. -/
theorem perform_eq (session : Session σ) (operation : Operation) :
    match session.refusal? operation with
    | some error => session.perform operation = (.error error, session)
    | none => ∃ told, (session.perform operation).1 = .ok told := by
  cases operation with
  | execute clock line =>
    cases state : session.editor with
    | closed =>
      obtain ⟨after, ran, -⟩ := execute_of_closed state clock line
      simp [refusal?, state, Editor.path?, perform, ran, Except.map]
    | editing path draft => simp [refusal?, state, Editor.path?, perform, execute, Except.map]
  | openEditor path =>
    have read := read_of_unwritable? session.files path
    rw [refusal?]
    cases state : session.editor with
    | editing opened draft => simp [perform, openEditor, state, Except.map]
    | closed =>
      dsimp only
      cases reason : unwritable? session.files path with
      | none =>
        rw [reason] at read
        obtain ⟨content, held⟩ := read
        simp [perform, openEditor, state, held, Except.map]
      | some error =>
        rw [reason] at read
        obtain ⟨cause, rfl, failed⟩ := read
        simp [perform, openEditor, state, failed, Except.map]
  | setDraft draft =>
    cases state : session.editor with
    | closed => simp [refusal?, perform, setDraft, state, Except.map]
    | editing path old => simp [refusal?, perform, setDraft, state, Except.map]
  | saveEditor now path content =>
    have saved := saveEditor_eq session now path content
    split at saved
    · next reason => simp [perform, saved, Except.map]
    · next reason => simp [perform, saved, Except.map]
  | commitDraft now =>
    cases state : session.editor with
    | closed => simp [refusal?, perform, commitDraft, state, Except.map]
    | editing path draft =>
      have saved := saveEditor_eq session now path draft
      have same : session.refusal? (.commitDraft now) =
          session.refusal? (.saveEditor now path draft) := by simp [refusal?, state]
      rw [same]
      split at saved
      · next reason => simp [perform, commitDraft, state, saved, Except.map]
      · next reason => simp [perform, commitDraft, state, saved, Except.map]
  | cancelEditor => exact ⟨none, rfl⟩

theorem refuses_iff (session : Session σ) (operation : Operation) :
    session.Refuses operation ↔ session.refusal? operation ≠ none := by
  have performed := perform_eq session operation
  rw [Refuses]
  cases reason : session.refusal? operation with
  | none =>
    rw [reason] at performed
    obtain ⟨told, accepted⟩ := performed
    simp [accepted]
  | some error =>
    rw [reason] at performed
    simp [performed]

/-- A refusal leaves the session, and the store is not asked. -/
theorem perform_of_error {session : Session σ} {operation : Operation} {error : SessionError}
    (refused : (session.perform operation).1 = .error error) :
    session.perform operation = (.error error, session) ∧ session.IgnoresStore operation := by
  have performed := perform_eq session operation
  obtain ⟨reason, why⟩ := Option.ne_none_iff_exists'.mp ((refuses_iff session operation).mp ⟨error, refused⟩)
  rw [why] at performed
  have same : reason = error := by
    rw [performed] at refused
    exact Except.error.inj refused
  subst same
  refine ⟨performed, fun other => ?_⟩
  have elsewhere := @perform_eq σ other session operation
  rw [why] at elsewhere
  exact elsewhere.trans performed.symm

/-! ## Sessions from their start -/

/-- The file that the editor is open on is there. -/
theorem file_of_editing {first : Session σ} (fresh : first.editor = .closed)
    {operations : List Operation} {path draft : String}
    (editing : (first.afterAll operations).editor = .editing path draft) :
    ∃ file, (first.afterAll operations).files.get? path = some (.file file) := by
  rcases closed_or_openSince fresh operations with
    closed | ⟨earlier, opening, later, opened, file, rfl, since⟩
  · rw [closed] at editing
    cases editing
  · have current := since.draft later (List.prefix_refl later)
    rw [editing] at current
    obtain ⟨rfl, -⟩ := Editor.editing.inj current
    rw [since.files later (List.prefix_refl later)]
    exact ⟨file, since.found⟩

/-- However a session is used, what it refuses leaves it as it is, with its files, its directory, its
    editor and draft, its history and its store, and the store is not asked for anything. A line is
    refused just while the editor is open, saving just while it is closed or open on another path,
    setting and committing the draft just while it is closed, and opening just while it is open or where
    there is no file. -/
theorem refusals_leave_session (now : Instant) (options : SessionOptions) (store : σ)
    (operations : List Operation) :
    let session := (start now options store).afterAll operations
    (∀ operation error, (session.perform operation).1 = .error error →
      session.after operation = session ∧ session.IgnoresStore operation) ∧
    (∀ clock line, session.Refuses (.execute clock line) ↔ session.editor ≠ .closed) ∧
    (∀ now path content, session.Refuses (.saveEditor now path content) ↔
      session.editor = .closed ∨
        ∃ opened draft, session.editor = .editing opened draft ∧ opened ≠ path) ∧
    (∀ draft, session.Refuses (.setDraft draft) ↔ session.editor = .closed) ∧
    (∀ now, session.Refuses (.commitDraft now) ↔ session.editor = .closed) ∧
    ∀ path, session.Refuses (.openEditor path) ↔
      session.editor ≠ .closed ∨ ¬ ∃ file, session.files.get? path = some (.file file) := by
  intro session
  have writable {path draft : String} (editing : session.editor = .editing path draft) :
      unwritable? session.files path = none :=
    unwritable?_eq_none_iff.mpr (file_of_editing (editor_start now options store) editing)
  simp only [refuses_iff]
  refine ⟨?_, ?_, ?_, ?_, ?_, ?_⟩
  · intro operation error refused
    obtain ⟨performed, ignores⟩ := perform_of_error refused
    exact ⟨congrArg Prod.snd performed, ignores⟩
  · intro clock line
    cases state : session.editor with
    | closed => simp [refusal?, state, Editor.path?]
    | editing opened draft => simp [refusal?, state, Editor.path?]
  · intro now path content
    cases state : session.editor with
    | closed => simp [refusal?, state]
    | editing opened draft =>
      by_cases same : opened = path
      · subst same
        simp [refusal?, state, writable state]
      · simp [refusal?, state, same]
  · intro draft
    simp [refusal?]
  · intro now
    cases state : session.editor with
    | closed => simp [refusal?, state]
    | editing opened draft => simp [refusal?, state, writable state]
  · intro path
    rw [← unwritable?_eq_none_iff]
    cases state : session.editor with
    | closed => simp [refusal?, state]
    | editing opened draft => simp [refusal?, state]

/-- While a note is edited, neither a line is accepted nor a save to another path. -/
theorem refusals_leave_open_editor :
    let clock : Clock := ⟨.epoch, ⟨0, 0, 0, 0⟩⟩
    let first := start .epoch ⟨none, none⟩ (⟨.empty⟩ : MemoryStore)
    let session := first.afterAll [.execute clock "cd documents", .execute clock "edit notes.txt",
      .setDraft "milk"]
    session.editor = .editing "/home/user/documents/notes.txt" "milk" ∧
      session.Refuses (.execute clock "rm notes.txt") ∧
      session.after (.execute clock "rm notes.txt") = session ∧
      session.IgnoresStore (.execute clock "rm notes.txt") ∧
      session.Refuses (.saveEditor .epoch "/home/user" "eggs") ∧
      session.after (.saveEditor .epoch "/home/user" "eggs") = session := by
  intro clock first session
  have editing : session.editor = .editing "/home/user/documents/notes.txt" "milk" := by decide
  obtain ⟨leaves, lines, saves, -⟩ := refusals_leave_session .epoch ⟨none, none⟩
    (⟨.empty⟩ : MemoryStore) [.execute clock "cd documents", .execute clock "edit notes.txt",
      .setDraft "milk"]
  have line : session.Refuses (.execute clock "rm notes.txt") :=
    (lines clock "rm notes.txt").mpr (by simp [session, first, editing])
  have save : session.Refuses (.saveEditor .epoch "/home/user" "eggs") :=
    (saves .epoch "/home/user" "eggs").mpr (.inr ⟨_, _, editing, by decide⟩)
  obtain ⟨lineError, lineRefused⟩ := line
  obtain ⟨saveError, saveRefused⟩ := save
  obtain ⟨lineLeaves, lineIgnores⟩ := leaves _ lineError lineRefused
  exact ⟨editing, ⟨lineError, lineRefused⟩, lineLeaves, lineIgnores, ⟨saveError, saveRefused⟩,
    (leaves _ saveError saveRefused).1⟩

end Session
end PathShell
