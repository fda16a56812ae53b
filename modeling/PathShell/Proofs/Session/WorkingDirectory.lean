import PathShell.Proofs.Session.Operations

/-!
# The working directory

A session that stands in a directory of a file system with a root directory keeps doing so. Commands
name entries of the working directory, so all that they remove, move away or overwrite lies strictly
below it; the editor only writes to files.
-/

namespace PathShell
namespace Session

variable {σ : Type} [Storage σ]

/-- The root and the working directory are directories of the file system. -/
structure Grounded (session : Session σ) : Prop where
  root : session.files.get? "/" = some .directory
  cwd : session.files.get? session.cwd = some .directory

omit [Storage σ] in
theorem grounded_of_sameState {before after : Session σ} (same : SameState before after)
    (grounded : before.Grounded) : after.Grounded := by
  refine ⟨?_, ?_⟩
  · rw [same.files]; exact grounded.root
  · rw [same.files, same.cwd]; exact grounded.cwd

/-- Named arguments reach neither the root nor the working directory. -/
theorem get?_of_run (now : Instant) (command : Command) {arguments : List String} {cwd key : String}
    (fs : FileSystem) (named : ∀ name ∈ arguments, name ≠ "")
    (apart : Path.strictlyBelow cwd key = false) :
    (command.run now arguments cwd fs).files.get? key = fs.get? key := by
  have within : (command.action now arguments cwd).Within (Path.strictlyBelow cwd) :=
    Command.within_action now command fun name member _ begins =>
      Path.strictlyBelow_of_begins_join (named name member) begins
  rw [Command.files_run]
  exact FileSystem.get?_eq_of_outside (within fs) apart

theorem grounded_dispatch {session : Session σ} (grounded : session.Grounded) (clock : Clock)
    (line : String) (command : Command) {arguments : List String}
    (named : ∀ name ∈ arguments, name ≠ "") :
    (session.dispatch clock line command arguments).Grounded := by
  cases answered : (command.run clock.stamp arguments session.cwd session.files).answer with
  | error error => exact grounded_of_sameState (dispatch_of_error answered) grounded
  | ok reply =>
    obtain ⟨files, cwd, -, -⟩ := dispatch_of_ok line answered
    have root := get?_of_run clock.stamp command session.files named
      (Path.not_strictlyBelow_root session.cwd)
    have home := get?_of_run clock.stamp command session.files named
      (Path.not_strictlyBelow_self session.cwd)
    have follows := Command.canFollow_of_run answered
    refine ⟨?_, ?_⟩
    · rw [files, root]; exact grounded.root
    · rw [files, cwd]
      cases asked : reply.effect with
      | none => exact home.trans grounded.cwd
      | some effect =>
        rw [Reply.CanFollow, asked] at follows
        cases effect with
        | changeDirectory path => exact follows
        | clearHistory => exact home.trans grounded.cwd
        | openEditor path => exact home.trans grounded.cwd

theorem grounded_saveEditor {session : Session σ} (grounded : session.Grounded) (now : Instant)
    (path content : String) : (session.saveEditor now path content).2.Grounded := by
  rcases saveEditor_cases session now path content with same | ⟨file, found, files, cwd, -, -⟩
  · exact grounded_of_sameState same grounded
  · have kept {key : String} (directory : session.files.get? key = some .directory) :
        (session.files.insert path (.file ⟨content, now⟩)).get? key = some .directory := by
      have other : key ≠ path := by
        rintro rfl
        rw [found] at directory
        cases directory
      rw [FileSystem.get?_insert, if_neg other]
      exact directory
    refine ⟨?_, ?_⟩
    · rw [files]; exact kept grounded.root
    · rw [files, cwd]; exact kept grounded.cwd

theorem grounded_after {session : Session σ} (grounded : session.Grounded) (operation : Operation) :
    (session.after operation).Grounded := by
  cases operation with
  | execute clock line =>
    change (session.execute clock line).2.Grounded
    rcases execute_cases session clock line with same | ⟨command, arguments, named, ran⟩
    · exact grounded_of_sameState same grounded
    · rw [ran]
      exact grounded_dispatch grounded clock _ command named
  | openEditor path =>
    obtain ⟨files, cwd, -, -⟩ := openEditor_frame session path
    change (session.openEditor path).2.Grounded
    refine ⟨?_, ?_⟩
    · rw [files]; exact grounded.root
    · rw [files, cwd]; exact grounded.cwd
  | setDraft draft =>
    change (session.setDraft draft).2.Grounded
    rw [setDraft]
    split
    · exact grounded
    · exact ⟨grounded.root, grounded.cwd⟩
  | saveEditor now path content => exact grounded_saveEditor grounded now path content
  | commitDraft now =>
    change (session.commitDraft now).2.Grounded
    rcases commitDraft_cases session now with same | ⟨path, draft, saved⟩
    · exact grounded_of_sameState same grounded
    · rw [saved]
      exact grounded_saveEditor grounded now path draft
  | cancelEditor => exact ⟨grounded.root, grounded.cwd⟩

/-- No run of operations, whatever succeeds or fails in it, takes the root or the working directory
    away: one operation keeps both, and so does any number of them. -/
theorem grounded_afterAll (session : Session σ) (grounded : session.Grounded)
    (operations : List Operation) : (session.afterAll operations).Grounded := by
  induction operations generalizing session with
  | nil => exact grounded
  | cons operation rest ih => exact ih _ (grounded_after grounded operation)

/-- A session that has just started in its home directory, whatever it is then asked to remove or
    to move. -/
theorem grounded_new_session :
    let session := start .epoch ⟨none, none⟩ (⟨.empty⟩ : MemoryStore)
    let clock : Clock := ⟨.epoch, ⟨0, 0, 0, 0⟩⟩
    session.Grounded ∧
      (session.afterAll [.execute clock "mkdir a", .execute clock "cd a", .execute clock "rm ..",
        .execute clock "mv /home b", .execute clock "touch /"]).Grounded := by
  intro session clock
  have grounded : session.Grounded := ⟨by decide, by decide⟩
  exact ⟨grounded, grounded_afterAll session grounded _⟩

end Session
end PathShell
