import PathShell.Proofs.FileSystem.Stored
import PathShell.Proofs.Session.WorkingDirectory

/-!
# Where sessions start

A session starts on what is stored under its key, or else on a new file system, and stands in the
directory it is asked for, or else in the root. What is stored is taken as it is: where it has a file
at the root, the session has no directory to fall back to.
-/

namespace PathShell

theorem FileSystem.get?_root_seeded (now : Instant) : (seeded now).get? "/" = some .directory := by
  have first : root.get? "/" = some .directory := by decide
  simpa [seeded] using first

theorem FileSystem.requireDirectory_eq_ok_iff (fs : FileSystem) (path : String) :
    fs.requireDirectory path = .ok () ↔ fs.get? path = some .directory := by
  rw [requireDirectory]
  split
  · next found => simp [found]
  · next found => simp [found]
  · next missing => simp [missing]

namespace Session

variable {σ : Type} [Storage σ]

/-- What is loaded was read from a text, and has a root. -/
theorem of_load {store : σ} {key : String} {files : FileSystem}
    (held : (load store key).1 = some files) :
    (∃ text, Storage.get store key = .ok (some text) ∧ FileSystem.ofStored? text = some files) ∧
      files.contains "/" := by
  rw [load] at held
  split at held
  · cases held
  · cases held
  · next text stored =>
    split at held
    · next loaded read =>
      cases held
      exact ⟨⟨text, stored, read⟩, FileSystem.contains_of_ofStored? read⟩
    · cases held

/-- What a session starts with. -/
theorem start_frame (now : Instant) (options : SessionOptions) (store : σ) :
    let key := options.key.getD defaultKey
    let files := (load store key).1.getD (.seeded now)
    let session := start now options store
    session.key = key ∧ session.files = files ∧ session.editor = .closed ∧
      session.cwd = (startDirectory files (options.cwd.getD defaultDirectory)).1 := by
  simp only [start]
  split
  · simp
  · simp

theorem key_start (now : Instant) (options : SessionOptions) (store : σ) :
    (start now options store).key = options.key.getD defaultKey :=
  (start_frame now options store).1

/-- What is stored under its key is what a session that starts shows. -/
theorem files_start {store : σ} {options : SessionOptions} {files : FileSystem}
    (held : (load store (options.key.getD defaultKey)).1 = some files) (now : Instant) :
    (start now options store).files = files := by
  rw [(start_frame now options store).2.1, held]
  rfl

theorem editor_start (now : Instant) (options : SessionOptions) (store : σ) :
    (start now options store).editor = .closed :=
  (start_frame now options store).2.2.1

/-- Where the root is a directory, a session starts in a directory. -/
theorem get?_startDirectory {files : FileSystem} (root : files.get? "/" = some .directory)
    (requested : String) : files.get? (startDirectory files requested).1 = some .directory := by
  rw [startDirectory]
  split
  · next found => exact (files.requireDirectory_eq_ok_iff requested).mp found
  · exact root

theorem grounded_start_iff_root (now : Instant) (options : SessionOptions) (store : σ) :
    (start now options store).Grounded ↔
      ((load store (options.key.getD defaultKey)).1.getD (.seeded now)).get? "/" =
        some .directory := by
  obtain ⟨-, files, -, cwd⟩ := start_frame now options store
  constructor
  · intro grounded
    rw [← files]
    exact grounded.root
  · intro root
    refine ⟨?_, ?_⟩
    · rw [files]
      exact root
    · rw [files, cwd]
      exact get?_startDirectory root _

/-- A session starts in a directory, with a directory at the root, unless what is stored under its key
    is a file system that has a file there. -/
theorem grounded_start_iff (now : Instant) (options : SessionOptions) (store : σ) :
    (start now options store).Grounded ↔
      ∀ text files file, Storage.get store (options.key.getD defaultKey) = .ok (some text) →
        FileSystem.ofStored? text = some files → files.get? "/" ≠ some (.file file) := by
  rw [grounded_start_iff_root]
  cases held : (load store (options.key.getD defaultKey)).1 with
  | none =>
    refine iff_of_true (FileSystem.get?_root_seeded now) ?_
    intro text files file stored read
    simp [load, stored, read] at held
  | some loaded =>
    obtain ⟨⟨text, stored, read⟩, rooted⟩ := of_load held
    constructor
    · intro root other files file again reread isFile
      rw [stored] at again
      cases again
      rw [read] at reread
      cases reread
      rw [Option.getD_some, isFile] at root
      cases root
    · intro noFile
      obtain ⟨node, found⟩ := Option.isSome_iff_exists.mp rooted
      cases node with
      | directory => exact found
      | file file => exact absurd found (noFile text loaded file stored read)

/-- A root that is a file is kept, and the session stands in it. -/
theorem start_in_root_file :
    let text := "\x7b\"/\":\x7b\"type\":\"file\"\x7d\x7d"
    let store : MemoryStore := ⟨.ofList [("terminalFS", text)]⟩
    let session := start .epoch ⟨none, none⟩ store
    session.cwd = "/" ∧ session.files.get? "/" = some (.file ⟨"", .epoch⟩) ∧ ¬ session.Grounded := by
  intro text store session
  have cwd : session.cwd = "/" := by decide +kernel
  have root : session.files.get? "/" = some (.file ⟨"", .epoch⟩) := by decide +kernel
  refine ⟨cwd, root, ?_⟩
  intro grounded
  have directory := grounded.root
  rw [root] at directory
  cases directory

end Session
end PathShell
