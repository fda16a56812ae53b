import Mathlib.Data.List.Induction
import PathShell.Proofs.Session.Start

/-!
# The editor

While the editor is open on a file, the file is there, the file system stands still, and the draft is
the last one that was set, or the content that the file had when it was opened. So what is saved ends
up in that file and nowhere else, and saving cannot fail.
-/

namespace PathShell

/-- The draft that an operation sets. -/
def Operation.draft? : Operation → Option String
  | .setDraft draft => some draft
  | .execute .. => none
  | .openEditor _ => none
  | .saveEditor .. => none
  | .commitDraft _ => none
  | .cancelEditor => none

/-- The draft that was set last. -/
def lastDraft? (operations : List Operation) : Option String :=
  (operations.filterMap Operation.draft?).getLast?

theorem lastDraft?_concat (operations : List Operation) (operation : Operation) :
    lastDraft? (operations ++ [operation]) = operation.draft?.or (lastDraft? operations) := by
  cases set : operation.draft? with
  | none => simp [lastDraft?, set]
  | some draft => simp [lastDraft?, set]

namespace Session

variable {σ : Type} [Storage σ]

/-! ## One operation -/

omit [Storage σ] in
/-- An editor opens on a file, with its content. -/
theorem openEditor_of_closed {session : Session σ} (closed : session.editor = .closed)
    (path : String) :
    (session.openEditor path).2.editor = .closed ∨
      ∃ file, session.files.get? path = some (.file file) ∧
        (session.openEditor path).2.editor = .editing path file.content := by
  rw [openEditor, closed]
  dsimp only
  split
  · exact .inl closed
  · next draft held =>
    rw [FileSystem.read] at held
    split at held
    · next file found =>
      cases held
      exact .inr ⟨file, found, rfl⟩
    · cases held
    · cases held

/-- A line is never refused while the editor is closed. It opens the editor only on a file that is
    there, and then leaves the file system as it was. -/
theorem execute_of_closed {session : Session σ} (closed : session.editor = .closed) (clock : Clock)
    (line : String) :
    ∃ after, session.execute clock line = (.ok (), after) ∧
      (after.editor = .closed ∨
        ∃ path file, session.files.get? path = some (.file file) ∧
          after.editor = .editing path file.content ∧ after.files = session.files) := by
  have accepted : (session.execute clock line).1 = .ok () := by
    rw [execute, closed]
    dsimp only
    split
    · rfl
    · split <;> rfl
  refine ⟨(session.execute clock line).2, Prod.ext accepted rfl, ?_⟩
  rcases execute_cases session clock line with same | ⟨command, arguments, -, ran⟩
  · exact .inl (same.editor.trans closed)
  · rw [ran]
    cases answered : (command.run clock.stamp arguments session.cwd session.files).answer with
    | error error => exact .inl ((dispatch_of_error answered).editor.trans closed)
    | ok reply =>
      obtain ⟨files, -, -, -⟩ := dispatch_of_ok (Text.trim line) answered
      obtain ⟨editor, -⟩ := dispatch_view_of_ok (Text.trim line) answered
      have follows := Command.canFollow_of_run answered
      rw [closed] at editor
      rw [Reply.CanFollow] at follows
      cases asked : reply.effect with
      | none => rw [asked] at editor; exact .inl editor
      | some effect =>
        have unchanged := Command.files_of_asking answered asked
        rw [asked] at editor follows
        rw [unchanged] at editor follows files
        cases effect with
        | changeDirectory path => exact .inl editor
        | clearHistory => exact .inl editor
        | openEditor path =>
          obtain ⟨file, found⟩ := follows
          refine .inr ⟨path, file, found, ?_, files⟩
          simpa [editorAfter, FileSystem.read, found] using editor

theorem after_of_closed {session : Session σ} (closed : session.editor = .closed)
    (operation : Operation) :
    (session.after operation).editor = .closed ∨
      ∃ path file, session.files.get? path = some (.file file) ∧
        (session.after operation).editor = .editing path file.content ∧
        (session.after operation).files = session.files := by
  cases operation with
  | execute clock line =>
    obtain ⟨after, ran, state⟩ := execute_of_closed closed clock line
    have ended : session.after (.execute clock line) = after := congrArg Prod.snd ran
    rw [ended]
    exact state
  | openEditor path =>
    rcases openEditor_of_closed closed path with still | ⟨file, found, opened⟩
    · exact .inl still
    · exact .inr ⟨path, file, found, opened, (openEditor_frame session path).1⟩
  | setDraft draft =>
    change (session.setDraft draft).2.editor = .closed ∨ _
    rw [setDraft, closed]
    exact .inl closed
  | saveEditor now path content =>
    change (session.saveEditor now path content).2.editor = .closed ∨ _
    rw [saveEditor, closed]
    exact .inl closed
  | commitDraft now =>
    change (session.commitDraft now).2.editor = .closed ∨ _
    rw [commitDraft, closed]
    exact .inl closed
  | cancelEditor => exact .inl rfl

/-- Saving closes the editor, or leaves the session as it was. -/
theorem saveEditor_of_editing {session : Session σ} {opened draft : String}
    (editing : session.editor = .editing opened draft) (now : Instant) (path content : String) :
    (session.saveEditor now path content).2.editor = .closed ∨
      SameState session (session.saveEditor now path content).2 := by
  rw [saveEditor, editing]
  dsimp only
  split
  · exact .inr (sameState_refl session)
  · have written := Edit.run_write now path content session.files
    split at written
    · simp [written, logged]
    · simp only [written]
      exact .inr ⟨rfl, rfl, editing.symm, rfl, rfl⟩
    · simp only [written]
      exact .inr ⟨rfl, rfl, editing.symm, rfl, rfl⟩

/-- While the editor is open, an operation closes it, or leaves all but the draft. -/
theorem after_of_editing {session : Session σ} {path draft : String}
    (editing : session.editor = .editing path draft) (operation : Operation) :
    (session.after operation).editor = .closed ∨
      (session.after operation).editor = .editing path (operation.draft?.getD draft) ∧
        (session.after operation).files = session.files := by
  cases operation with
  | execute clock line =>
    refine .inr ⟨?_, ?_⟩
    · simp [after, perform, execute, editing, Operation.draft?]
    · simp [after, perform, execute, editing]
  | openEditor other =>
    refine .inr ⟨?_, (openEditor_frame session other).1⟩
    simp [after, perform, openEditor, editing, Operation.draft?]
  | setDraft other =>
    refine .inr ⟨?_, ?_⟩
    · simp [after, perform, setDraft, editing, Operation.draft?]
    · simp [after, perform, setDraft, editing]
  | saveEditor now other content =>
    rcases saveEditor_of_editing editing now other content with closed | same
    · exact .inl closed
    · exact .inr ⟨same.editor.trans editing, same.files⟩
  | commitDraft now =>
    have saved := saveEditor_of_editing editing now path draft
    change (session.commitDraft now).2.editor = .closed ∨
      (session.commitDraft now).2.editor = _ ∧ (session.commitDraft now).2.files = _
    rw [commitDraft, editing]
    rcases saved with closed | same
    · exact .inl closed
    · exact .inr ⟨same.editor.trans editing, same.files⟩
  | cancelEditor => exact .inl rfl

/-! ## Since the editor was opened -/

theorem afterAll_concat (session : Session σ) (operations : List Operation)
    (operation : Operation) :
    session.afterAll (operations ++ [operation]) = (session.afterAll operations).after operation := by
  rw [afterAll, List.foldl_append]
  rfl

/-- The editor was opened on the file at `path` by the operation `opening`, and has been open during
    all the `later` ones: its draft was always the last one set, or the content of the file, and the
    file system has been the same. -/
structure OpenSince (first : Session σ) (earlier : List Operation) (opening : Operation)
    (later : List Operation) (path : String) (file : File) : Prop where
  closed : (first.afterAll earlier).editor = .closed
  found : (first.afterAll earlier).files.get? path = some (.file file)
  draft : ∀ part, part <+: later → (first.afterAll (earlier ++ opening :: part)).editor =
    .editing path ((lastDraft? part).getD file.content)
  files : ∀ part, part <+: later → (first.afterAll (earlier ++ opening :: part)).files =
    (first.afterAll earlier).files

/-- An operation that opens the editor is the one it has been open since. -/
theorem openSince_opening {first : Session σ} {earlier : List Operation} {opening : Operation}
    {path : String} {file : File} (closed : (first.afterAll earlier).editor = .closed)
    (found : (first.afterAll earlier).files.get? path = some (.file file))
    (opened : ((first.afterAll earlier).after opening).editor = .editing path file.content)
    (files : ((first.afterAll earlier).after opening).files = (first.afterAll earlier).files) :
    OpenSince first earlier opening [] path file := by
  refine ⟨closed, found, ?_, ?_⟩
  · intro part inside
    rw [List.prefix_nil.mp inside, afterAll_concat]
    exact opened
  · intro part inside
    rw [List.prefix_nil.mp inside, afterAll_concat]
    exact files

/-- The editor has been open for one operation more, if that one does not close it. -/
theorem openSince_concat {first : Session σ} {earlier later : List Operation}
    {opening : Operation} {path : String} {file : File}
    (since : OpenSince first earlier opening later path file) {operation : Operation}
    (editing : ((first.afterAll (earlier ++ opening :: later)).after operation).editor =
      .editing path (operation.draft?.getD ((lastDraft? later).getD file.content)))
    (files : ((first.afterAll (earlier ++ opening :: later)).after operation).files =
      (first.afterAll (earlier ++ opening :: later)).files) :
    OpenSince first earlier opening (later ++ [operation]) path file := by
  have whole : earlier ++ opening :: (later ++ [operation]) =
      (earlier ++ opening :: later) ++ [operation] := by simp
  refine ⟨since.closed, since.found, ?_, ?_⟩
  · intro part inside
    rcases List.prefix_concat_iff.mp inside with rfl | before
    · rw [whole, afterAll_concat, editing, lastDraft?_concat]
      cases operation.draft? <;> rfl
    · exact since.draft part before
  · intro part inside
    rcases List.prefix_concat_iff.mp inside with rfl | before
    · rw [whole, afterAll_concat, files]
      exact since.files later (List.prefix_refl later)
    · exact since.files part before

/-- After any operations the editor is closed, or has been open since it was opened on a file. -/
theorem closed_or_openSince {first : Session σ} (fresh : first.editor = .closed)
    (operations : List Operation) :
    (first.afterAll operations).editor = .closed ∨
      ∃ earlier opening later path file, operations = earlier ++ opening :: later ∧
        OpenSince first earlier opening later path file := by
  -- The last operation closes the editor, opens it, or leaves it open.
  induction operations using List.reverseRecOn with
  | nil => exact .inl fresh
  | append_singleton operations operation ih =>
    rw [afterAll_concat]
    rcases ih with closed | ⟨earlier, opening, later, path, file, rfl, since⟩
    · rcases after_of_closed closed operation with still | ⟨path, file, found, opened, files⟩
      · exact .inl still
      · exact .inr ⟨operations, operation, [], path, file, rfl,
          openSince_opening closed found opened files⟩
    · have current := since.draft later (List.prefix_refl later)
      rcases after_of_editing current operation with shut | ⟨editing, files⟩
      · exact .inl shut
      · exact .inr ⟨earlier, opening, later ++ [operation], path, file, by simp,
          openSince_concat since editing files⟩

/-! ## Saving -/

/-- The file at `path` has got the content, nothing else has changed, and the editor is closed. -/
structure Saves (before : Session σ) (path content : String)
    (outcome : Except SessionError Unit × Session σ) : Prop where
  accepted : outcome.1 = .ok ()
  closed : outcome.2.editor = .closed
  writes : FileSystem.Writes before.files outcome.2.files path content

/-- What is saved to the open file is written, where the file is there. -/
theorem saves_saveEditor {session : Session σ} {path draft : String} {file : File}
    (editing : session.editor = .editing path draft)
    (found : session.files.get? path = some (.file file)) (now : Instant) (content : String) :
    Saves session path content (session.saveEditor now path content) := by
  have written := Edit.run_write now path content session.files
  rw [found] at written
  have saved : session.saveEditor now path content =
      (.ok (), (Session.logged
        { session with files := session.files.insert path (.file ⟨content, now⟩), editor := .closed }
        [⟨.debug, sessionTarget, "editor saved", [("path", Text.quoted path)]⟩]).persist) := by
    simp [saveEditor, editing, written]
  rw [saved]
  refine ⟨rfl, ?_, ?_⟩
  · rw [editor_persist, editor_logged]
  · rw [files_persist, files_logged]
    exact FileSystem.writes_insert found content now

/-- Setting a draft and committing it is saving it. -/
theorem commitDraft_setDraft {session written : Session σ} {path draft content : String}
    {now : Instant} (editing : session.editor = .editing path draft)
    (saving : session.saveEditor now path content = (.ok (), written)) :
    session.setDraft content = (.ok (), { session with editor := .editing path content }) ∧
      commitDraft now { session with editor := .editing path content } = (.ok (), written) := by
  constructor
  · rw [setDraft, editing]
  · change saveEditor now { session with editor := .editing path content } path content = _
    rw [saveEditor, editing] at saving
    rw [saveEditor]
    simp only [ne_eq, not_true_eq_false, if_false] at saving ⊢
    cases wrote : (Edit.write now path content).run session.files with
    | ok value files => simpa only [wrote] using saving
    | error cause files => simp [wrote] at saving

/-! ## Opening by a line -/

/-- A line that asks for the editor either opens it on the file and says so, or says that there is no
    such file. -/
theorem execute_edit {session : Session σ} (closed : session.editor = .closed) (clock : Clock)
    {line name : String} {rest : List String} (worded : Text.words (Text.trim line) = "edit" :: name :: rest) :
    let ended := (session.execute clock line).2
    let entry (text : String) : HistoryEntry := ⟨Text.trim line, .text text, clock.wall⟩
    (ended.editor.path? = some (Path.join session.cwd name) ∧
        ended.history = session.history ++ [entry "Opening editor..."]) ∨
      (ended.editor = .closed ∧ ended.history = session.history ++ [entry "File not found"]) := by
  have dispatched : (session.execute clock line).2 =
      session.dispatch clock (Text.trim line) .edit (name :: rest) :=
    congrArg Prod.snd (execute_eq_dispatch closed clock worded (by decide))
  have ran := Command.run_edit clock.stamp name rest session.cwd session.files
  rw [dispatched]
  cases held : session.files.read (Path.join session.cwd name) with
  | ok content =>
    rw [held] at ran
    obtain ⟨editor, history⟩ := dispatch_view_of_ok (Text.trim line) (congrArg Outcome.answer ran)
    rw [ran, closed] at editor
    refine .inl ⟨?_, history⟩
    rw [editor]
    simp [editorAfter, Reply.requesting, held, Editor.path?]
  | error cause =>
    rw [held] at ran
    have answered := congrArg Outcome.answer ran
    exact .inr ⟨(dispatch_of_error answered).editor.trans closed,
      history_dispatch_of_error (Text.trim line) answered⟩

/-! ## Sessions from their start -/

/-- However a session came to have its editor open, the editor has been open since some operation
    opened it on a file, the file system is still the one of that moment, and the draft is the last one
    set since, or else the content of the file. Then committing, and saving under the open path, are
    accepted and write just that file, and cancelling writes nothing. While the editor is closed, a
    line that asks for it is recorded as opening it just if it is open afterwards. -/
theorem editor_keeps_draft (now : Instant) (options : SessionOptions) (store : σ)
    (operations : List Operation) :
    let first := start now options store
    let session := first.afterAll operations
    (∀ path draft, session.editor = .editing path draft →
      (∃ earlier opening later file, operations = earlier ++ opening :: later ∧
        OpenSince first earlier opening later path file ∧
        session.files = (first.afterAll earlier).files ∧
        session.files.get? path = some (.file file) ∧
        draft = (lastDraft? later).getD file.content) ∧
      (∀ now, Saves session path draft (session.commitDraft now)) ∧
      (∀ now content, Saves session path content (session.saveEditor now path content)) ∧
      session.cancelEditor.editor = .closed ∧ session.cancelEditor.files = session.files) ∧
    (session.editor = .closed → ∀ clock line name rest,
      Text.words (Text.trim line) = "edit" :: name :: rest →
      ((session.execute clock line).2.history = session.history ++
          [⟨Text.trim line, .text "Opening editor...", clock.wall⟩] ↔
        (session.execute clock line).2.editor.path? = some (Path.join session.cwd name))) := by
  intro first session
  constructor
  · intro path draft editing
    rcases closed_or_openSince (editor_start now options store) operations with
      closed | ⟨earlier, opening, later, opened, file, rfl, since⟩
    · rw [editing] at closed
      cases closed
    · have current := since.draft later (List.prefix_refl later)
      have files := since.files later (List.prefix_refl later)
      change session.editor = _ at current
      rw [editing] at current
      obtain ⟨rfl, rfl⟩ := Editor.editing.inj current
      have found : session.files.get? path = some (.file file) := by
        change (first.afterAll (earlier ++ opening :: later)).files.get? path = _
        rw [files]
        exact since.found
      refine ⟨⟨earlier, opening, later, file, rfl, since, files, found, rfl⟩, ?_, ?_, rfl, rfl⟩
      · intro now
        rw [commitDraft, editing]
        exact saves_saveEditor editing found now _
      · intro now content
        exact saves_saveEditor editing found now content
  · intro closed clock line name rest worded
    rcases execute_edit closed clock worded with ⟨opened, recorded⟩ | ⟨shut, recorded⟩
    · exact iff_of_true recorded opened
    · refine iff_of_false ?_ ?_
      · rw [recorded]
        simp
      · rw [shut]
        intro opened
        cases opened

/-- A note whose draft is set and then committed. -/
theorem editor_keeps_first_draft :
    let clock : Clock := ⟨.epoch, ⟨0, 0, 0, 0⟩⟩
    let first := start .epoch ⟨none, none⟩ (⟨.empty⟩ : MemoryStore)
    let session := first.afterAll [.execute clock "cd documents", .execute clock "edit notes.txt",
      .setDraft "buy milk"]
    session.editor = .editing "/home/user/documents/notes.txt" "buy milk" ∧
      Saves session "/home/user/documents/notes.txt" "buy milk" (session.commitDraft .epoch) := by
  intro clock first session
  have editing : session.editor = .editing "/home/user/documents/notes.txt" "buy milk" := by decide
  have kept := editor_keeps_draft .epoch ⟨none, none⟩ (⟨.empty⟩ : MemoryStore)
    [.execute clock "cd documents", .execute clock "edit notes.txt", .setDraft "buy milk"]
  exact ⟨editing, (kept.1 _ _ editing).2.1 .epoch⟩

end Session
end PathShell
