import PathShell.Proofs.Session.Start

/-!
# Sessions in lockstep

What a session shows never depends on its store once it has started: two sessions that show the same,
over whatever stores, answer every operation alike and show the same after it, and one asks its store
to be written just if the other does.
-/

namespace PathShell
namespace Session

variable {σ τ : Type} [Storage σ] [Storage τ] {left : Session σ} {right : Session τ}

/-- The sessions differ at most in their keys, their stores and their logs. -/
structure SameView (left : Session σ) (right : Session τ) : Prop where
  files : right.files = left.files
  cwd : right.cwd = left.cwd
  editor : right.editor = left.editor
  history : right.history = left.history
  clears : right.clears = left.clears

/-! ## Parts of operations -/

omit [Storage σ] [Storage τ] in
theorem sameView_logged (same : SameView left right) (events events' : List Log.Event) :
    SameView (left.logged events) (right.logged events') :=
  ⟨same.files, same.cwd, same.editor, same.history, same.clears⟩

omit [Storage σ] [Storage τ] in
theorem sameView_files (same : SameView left right) (files : FileSystem) :
    SameView { left with files } { right with files } :=
  ⟨rfl, same.cwd, same.editor, same.history, same.clears⟩

omit [Storage σ] [Storage τ] in
theorem sameView_editor (same : SameView left right) (editor : Editor) :
    SameView { left with editor } { right with editor } :=
  ⟨same.files, same.cwd, rfl, same.history, same.clears⟩

omit [Storage σ] [Storage τ] in
theorem sameView_record (same : SameView left right) (clock : Clock) (line : String)
    (output : Output) : SameView (left.record clock line output) (right.record clock line output) :=
  ⟨same.files, same.cwd, same.editor, by simp only [record, same.history], same.clears⟩

theorem sameView_persist (same : SameView left right) : SameView left.persist right.persist := by
  refine ⟨?_, ?_, ?_, ?_, ?_⟩
  · simpa using same.files
  · simpa using same.cwd
  · simpa using same.editor
  · simpa using same.history
  · simpa using same.clears

theorem sameView_save (same : SameView left right) (changed : Bool) :
    SameView (left.save changed) (right.save changed) := by
  cases changed with
  | true => exact sameView_persist same
  | false => exact same

omit [Storage σ] [Storage τ] in
/-- An editor opens on the same draft, or both refuse alike. -/
theorem openEditor_alike (same : SameView left right) (path : String) :
    (right.openEditor path).1 = (left.openEditor path).1 ∧
      SameView (left.openEditor path).2 (right.openEditor path).2 := by
  rw [openEditor, openEditor, same.editor]
  have read : right.files.read path = left.files.read path := by rw [same.files]
  rw [read]
  split
  · exact ⟨rfl, same⟩
  · split
    · exact ⟨rfl, same⟩
    · exact ⟨rfl, sameView_editor same _⟩

omit [Storage σ] [Storage τ] in
theorem sameView_follow (same : SameView left right) (effect : Option Effect) :
    SameView (left.follow effect) (right.follow effect) := by
  rcases effect with _ | path | _ | path
  · exact same
  · exact ⟨same.files, rfl, same.editor, same.history, same.clears⟩
  · exact ⟨same.files, same.cwd, same.editor, rfl, congrArg (· + 1) same.clears⟩
  · obtain ⟨answer, opened⟩ := openEditor_alike same path
    simp only [follow, apply]
    generalize left.openEditor path = leftAnswer at answer opened ⊢
    generalize right.openEditor path = rightAnswer at answer opened ⊢
    obtain ⟨_ | _, _⟩ := leftAnswer <;> obtain ⟨_ | _, _⟩ := rightAnswer
    · exact sameView_logged opened _ _
    · cases answer
    · cases answer
    · exact opened

omit [Storage σ] [Storage τ] in
theorem sameView_note (same : SameView left right) (clock : Clock) (line : String)
    (output : Option Output) : SameView (left.note clock line output) (right.note clock line output) := by
  cases output with
  | none => exact same
  | some output => exact sameView_record same clock line output

theorem sameView_settle (same : SameView left right) (clock : Clock) (line : String)
    (reply : Reply) : SameView (left.settle clock line reply) (right.settle clock line reply) :=
  sameView_note (sameView_follow (sameView_save same reply.changed) reply.effect) clock line
    reply.output

/-! ## Operations -/

/-- Two sessions after the same operation: they show the same, and both have left their stores or both
    have had them set to what they show. -/
structure Lockstep (left left' : Session σ) (right right' : Session τ) : Prop where
  view : SameView left' right'
  stores : (left'.store = left.store ∧ right'.store = right.store) ∨
    (left'.store = (Storage.set left.store left.key left'.files.stored).2 ∧
      right'.store = (Storage.set right.store right.key right'.files.stored).2)

theorem lockstep_idle (same : SameView left right) : Lockstep left left right right :=
  ⟨same, .inl ⟨rfl, rfl⟩⟩

theorem lockstep_dispatch (same : SameView left right) (clock : Clock) (line : String)
    (command : Command) (arguments : List String) :
    Lockstep left (left.dispatch clock line command arguments)
      right (right.dispatch clock line command arguments) := by
  have ran : command.run clock.stamp arguments right.cwd right.files =
      command.run clock.stamp arguments left.cwd left.files := by rw [same.cwd, same.files]
  cases answered : (command.run clock.stamp arguments left.cwd left.files).answer with
  | error error =>
    have failed := (congrArg Outcome.answer ran).trans answered
    refine ⟨?_, .inl ⟨(dispatch_of_error answered).store, (dispatch_of_error failed).store⟩⟩
    simp only [dispatch, files_logged, cwd_logged, ran, answered]
    exact sameView_record (sameView_files (sameView_logged same _ _) _) ..
  | ok reply =>
    have succeeded := (congrArg Outcome.answer ran).trans answered
    obtain ⟨leftFiles, -, -, leftStore⟩ := dispatch_of_ok line answered
    obtain ⟨rightFiles, -, -, rightStore⟩ := dispatch_of_ok line succeeded
    rw [← leftFiles] at leftStore
    rw [← rightFiles] at rightStore
    refine ⟨?_, ?_⟩
    · simp only [dispatch, files_logged, cwd_logged, ran, answered]
      exact sameView_settle (sameView_files (sameView_logged same _ _) _) ..
    · cases changed : reply.changed with
      | true =>
        rw [changed, if_pos rfl] at leftStore rightStore
        exact .inr ⟨leftStore, rightStore⟩
      | false =>
        rw [changed, if_neg (by decide)] at leftStore rightStore
        exact .inl ⟨leftStore, rightStore⟩

theorem execute_alike (same : SameView left right) (clock : Clock) (line : String) :
    (right.execute clock line).1 = (left.execute clock line).1 ∧
      Lockstep left (left.execute clock line).2 right (right.execute clock line).2 := by
  simp only [execute, same.editor]
  split
  · exact ⟨rfl, lockstep_idle same⟩
  · split
    · exact ⟨rfl, lockstep_idle same⟩
    · split
      · exact ⟨rfl, lockstep_dispatch same ..⟩
      · exact ⟨rfl, sameView_record (sameView_logged same _ _) .., .inl ⟨rfl, rfl⟩⟩

theorem saveEditor_alike (same : SameView left right) (now : Instant) (path content : String) :
    (right.saveEditor now path content).1 = (left.saveEditor now path content).1 ∧
      Lockstep left (left.saveEditor now path content).2
        right (right.saveEditor now path content).2 := by
  rw [saveEditor, saveEditor, same.editor]
  have written : (Edit.write now path content).run right.files =
      (Edit.write now path content).run left.files := by rw [same.files]
  rw [written]
  split
  · exact ⟨rfl, lockstep_idle same⟩
  · split
    · exact ⟨rfl, lockstep_idle same⟩
    · split
      · exact ⟨rfl, ⟨rfl, same.cwd, rfl, same.history, same.clears⟩, .inl ⟨rfl, rfl⟩⟩
      · refine ⟨rfl, sameView_persist ?_, .inr ⟨?_, ?_⟩⟩
        · exact sameView_logged (sameView_editor (sameView_files same _) _) _ _
        · simp
        · simp

theorem commitDraft_alike (same : SameView left right) (now : Instant) :
    (right.commitDraft now).1 = (left.commitDraft now).1 ∧
      Lockstep left (left.commitDraft now).2 right (right.commitDraft now).2 := by
  simp only [commitDraft, same.editor]
  split
  · exact ⟨rfl, lockstep_idle same⟩
  · exact saveEditor_alike same now _ _

omit [Storage σ] [Storage τ] in
theorem setDraft_alike (same : SameView left right) (draft : String) :
    (right.setDraft draft).1 = (left.setDraft draft).1 ∧
      SameView (left.setDraft draft).2 (right.setDraft draft).2 := by
  simp only [setDraft, same.editor]
  split
  · exact ⟨rfl, same⟩
  · exact ⟨rfl, same.files, same.cwd, rfl, same.history, same.clears⟩

omit [Storage σ] in
theorem store_setDraft (session : Session σ) (draft : String) :
    (session.setDraft draft).2.store = session.store := by
  rw [setDraft]
  split <;> rfl

/-- Sessions that show the same answer alike, and go on in lockstep. -/
theorem perform_alike (same : SameView left right) (operation : Operation) :
    (right.perform operation).1 = (left.perform operation).1 ∧
      Lockstep left (left.after operation) right (right.after operation) := by
  cases operation with
  | execute clock line =>
    obtain ⟨answer, step⟩ := execute_alike same clock line
    exact ⟨congrArg (Except.map fun _ => none) answer, step⟩
  | openEditor path =>
    obtain ⟨answer, view⟩ := openEditor_alike same path
    refine ⟨congrArg (·.map some) answer, view, .inl ⟨?_, ?_⟩⟩
    · exact (openEditor_frame left path).2.2.2
    · exact (openEditor_frame right path).2.2.2
  | setDraft draft =>
    obtain ⟨answer, view⟩ := setDraft_alike same draft
    exact ⟨congrArg (Except.map fun _ => none) answer, view, .inl ⟨store_setDraft .., store_setDraft ..⟩⟩
  | saveEditor now path content =>
    obtain ⟨answer, step⟩ := saveEditor_alike same now path content
    exact ⟨congrArg (Except.map fun _ => none) answer, step⟩
  | commitDraft now =>
    obtain ⟨answer, step⟩ := commitDraft_alike same now
    exact ⟨congrArg (Except.map fun _ => none) answer, step⟩
  | cancelEditor => exact ⟨rfl, sameView_editor same .closed, .inl ⟨rfl, rfl⟩⟩

/-! ## Starting -/

/-- A session starts with nothing recorded, and writes back only what it has made. -/
theorem start_blank (now : Instant) (options : SessionOptions) (store : σ) :
    let key := options.key.getD defaultKey
    let session := start now options store
    session.history = [] ∧ session.clears = 0 ∧
      session.store =
        if (load store key).1.isNone then (Storage.set store key (FileSystem.seeded now).stored).2
        else store := by
  simp only [start]
  split
  · next missing => simp [Option.isNone_iff_eq_none.mp missing]
  · simp

/-- Sessions that load the same, or nothing, show the same where they stand in the same directory. -/
theorem sameView_start {steady : σ} {failing : τ} {options options' : SessionOptions} {now : Instant}
    (loaded : (load failing (options'.key.getD defaultKey)).1 =
      (load steady (options.key.getD defaultKey)).1)
    (cwd : (start now options' failing).cwd = (start now options steady).cwd) :
    SameView (start now options steady) (start now options' failing) := by
  obtain ⟨-, leftFiles, leftEditor, -⟩ := start_frame now options steady
  obtain ⟨-, rightFiles, rightEditor, -⟩ := start_frame now options' failing
  obtain ⟨leftHistory, leftClears, -⟩ := start_blank now options steady
  obtain ⟨rightHistory, rightClears, -⟩ := start_blank now options' failing
  refine ⟨?_, cwd, rightEditor.trans leftEditor.symm, rightHistory.trans leftHistory.symm,
    rightClears.trans leftClears.symm⟩
  rw [leftFiles, rightFiles, loaded]

end Session
end PathShell
