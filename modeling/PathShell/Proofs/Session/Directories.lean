import PathShell.Proofs.FileSystem.Listing
import PathShell.Proofs.Session.Operations
import PathShell.Proofs.Text.Blank

/-!
# Directories that lines make

A line makes a directory at the path that its argument names in the working directory, and the parent of
that path lists it. Names are taken as they are: one that ends with a slash has no last segment to be
listed by, and one that begins with a slash makes two of them in the root, which is then the parent, but
without one of the two.
-/

namespace PathShell
namespace Session

variable {σ : Type} [Storage σ]

/-- Where its path is free, a line that makes a directory adds just that. -/
theorem files_execute_mkdir {session : Session σ} (closed : session.editor = .closed) (clock : Clock)
    {line name : String} {rest : List String} (worded : Text.words line = "mkdir" :: name :: rest)
    (free : session.files.get? (Path.join session.cwd name) = none) :
    (session.execute clock line).2.files =
      session.files.insert (Path.join session.cwd name) .directory := by
  have trimmed : Text.words (Text.trim line) = "mkdir" :: name :: rest :=
    (Text.words_trim line).trans worded
  have absent : session.files.contains (Path.join session.cwd name) = false := by
    rw [FileSystem.contains, OrderedMap.contains]
    exact congrArg Option.isSome free
  have ran := Command.run_mkdir clock.stamp name rest session.cwd session.files
  rw [absent] at ran
  have known : Registry.builtin.find? "mkdir" = some .mkdir := by decide
  rw [execute_eq_dispatch closed clock trimmed known, files_dispatch, ran]
  rfl

/-- A line that makes a directory where nothing was makes it indeed, and its parent lists it as a
    directory under its last segment, unless its path ends with a slash or is a single segment after
    two slashes. -/
theorem lists_made_directory {session : Session σ} (closed : session.editor = .closed) (clock : Clock)
    {line name : String} {rest : List String} (worded : Text.words line = "mkdir" :: name :: rest)
    (free : session.files.get? (Path.join session.cwd name) = none) :
    let path := Path.join session.cwd name
    let files := (session.execute clock line).2.files
    files.get? path = some .directory ∧
      (Path.basename path ≠ "" → path ≠ "//" ++ Path.basename path →
        ⟨Path.basename path, true⟩ ∈ files.list (Path.parent path)) := by
  intro path files
  have made : files.get? path = some .directory := by
    change (session.execute clock line).2.files.get? path = _
    rw [files_execute_mkdir closed clock worded free, FileSystem.get?_insert, if_pos rfl]
  refine ⟨made, fun ended single => ?_⟩
  have slashed : '/' ∈ path.toList := Path.slash_mem_join session.cwd name
  have child := (Path.childName?_parent_iff slashed).mpr ⟨ended, single⟩
  obtain ⟨segment, whole⟩ := Path.childName?_eq_some_iff.mp child
  refine FileSystem.mem_list_iff.mpr ⟨segment, .directory, ?_, rfl⟩
  rw [← whole]
  exact made

/-- A name with two slashes inside. -/
theorem lists_made_inner_directory :
    let clock : Clock := ⟨.epoch, ⟨0, 0, 0, 0⟩⟩
    let session := start .epoch ⟨none, none⟩ (⟨.empty⟩ : MemoryStore)
    let path := Path.join session.cwd "documents//old"
    let files := (session.execute clock "mkdir documents//old").2.files
    session.editor = .closed ∧ Text.words "mkdir documents//old" = ["mkdir", "documents//old"] ∧
      session.files.get? path = none ∧ path = "/home/user/documents//old" ∧
      ⟨Path.basename path, true⟩ ∈ files.list (Path.parent path) := by
  intro clock session path files
  have closed : session.editor = .closed := by decide
  have worded : Text.words "mkdir documents//old" = ["mkdir", "documents//old"] := by decide
  have free : session.files.get? path = none := by decide
  have whole : path = "/home/user/documents//old" := by decide
  have ended : Path.basename path ≠ "" := by rw [whole]; decide
  have single : path ≠ "//" ++ Path.basename path := by rw [whole]; decide
  exact ⟨closed, worded, free, whole, (lists_made_directory closed clock worded free).2 ended single⟩

/-- In the root, a name with a slash before it or after it makes a directory that its parent does not
    list under its last segment. -/
theorem hides_made_directories :
    let clock : Clock := ⟨.epoch, ⟨0, 0, 0, 0⟩⟩
    let store : MemoryStore := ⟨.ofList [("terminalFS", "\x7b\x7d")]⟩
    let session := start .epoch ⟨some "/", none⟩ store
    session.editor = .closed ∧ session.files.get? session.cwd = some .directory ∧
      (let path := Path.join session.cwd "/docs"
        let files := (session.execute clock "mkdir /docs").2.files
        Text.words "mkdir /docs" = ["mkdir", "/docs"] ∧ session.files.get? path = none ∧
          files.get? path = some .directory ∧
          ⟨Path.basename path, true⟩ ∉ files.list (Path.parent path)) ∧
      (let path := Path.join session.cwd "docs/"
        let files := (session.execute clock "mkdir docs/").2.files
        Text.words "mkdir docs/" = ["mkdir", "docs/"] ∧ session.files.get? path = none ∧
          files.get? path = some .directory ∧
          ⟨Path.basename path, true⟩ ∉ files.list (Path.parent path)) := by
  decide +kernel

end Session
end PathShell
