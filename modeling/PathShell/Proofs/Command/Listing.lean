import PathShell.Proofs.Command
import PathShell.Proofs.FileSystem.Remove

/-!
# What listed names stand for

A listing shows the segments that make a key with the directory, each once, in the order of the keys. A
name that it shows, given as an argument in that directory, stands for the very node that was listed,
whatever the command. One name is an exception, and for one command: where an entry is called by two dots,
they still lead to the directory above.
-/

namespace PathShell

namespace Command

open Edit

/-! ## Commands that read -/

/-- What a search in a file tells. -/
def findings (pattern content : String) : String :=
  if content.isEmpty then "File is empty"
  else if (matchingLines pattern content).isEmpty then "No matches found"
  else Text.join "\n" (matchingLines pattern content)

/-- In `cwd`, the commands that read take `name` for the file at `path`. -/
structure NamesFile (now : Instant) (fs : FileSystem) (cwd name path : String) (file : File) : Prop where
  cat : Command.cat.run now [name] cwd fs = ⟨.ok (.printing (.preformatted file.content)), fs⟩
  grep : ∀ pattern, Command.grep.run now [pattern, name] cwd fs =
    ⟨.ok (.message (findings pattern file.content)), fs⟩
  edit : Command.edit.run now [name] cwd fs =
    ⟨.ok ((Reply.message "Opening editor...").requesting (.openEditor path)), fs⟩
  cd : name ≠ ".." → Command.cd.run now [name] cwd fs =
    ⟨.error (.files "Directory not found" (.notADirectory path)), fs⟩

/-- In `cwd`, the commands that read take `name` for the directory at `path`. -/
structure NamesDirectory (now : Instant) (fs : FileSystem) (cwd name path : String) : Prop where
  cat : Command.cat.run now [name] cwd fs = ⟨.error (.files "File not found" (.notAFile path)), fs⟩
  grep : ∀ pattern, Command.grep.run now [pattern, name] cwd fs =
    ⟨.error (.files "File not found" (.notAFile path)), fs⟩
  edit : Command.edit.run now [name] cwd fs = ⟨.error (.files "File not found" (.notAFile path)), fs⟩
  cd : name ≠ ".." → Command.cd.run now [name] cwd fs =
    ⟨.ok ((Reply.message ("Changed directory to " ++ path)).requesting (.changeDirectory path)), fs⟩

section Reading

variable (now : Instant) (name : String) (rest : List String) (cwd : String)

theorem cat_acts : Command.cat.action now (name :: rest) cwd =
    (ask (·.read (Path.join cwd name))).adaptExcept (.files "File not found") >>=
      fun content => pure (.printing (.preformatted content)) := rfl

theorem grep_acts (pattern : String) : Command.grep.action now (pattern :: name :: rest) cwd =
    (ask (·.read (Path.join cwd name))).adaptExcept (.files "File not found") >>=
      fun content => pure (.message (findings pattern content)) := rfl

theorem cd_acts : Command.cd.action now (name :: rest) cwd =
    (ask (·.requireDirectory (Path.resolve name cwd))).adaptExcept (.files "Directory not found") >>=
      fun _ => pure ((Reply.message ("Changed directory to " ++ Path.resolve name cwd)).requesting
        (.changeDirectory (Path.resolve name cwd))) := rfl

end Reading

theorem namesFile_join {fs : FileSystem} {cwd name : String} {file : File}
    (segment : Path.IsSegment name) (found : fs.get? (Path.join cwd name) = some (.file file))
    (now : Instant) : NamesFile now fs cwd name (Path.join cwd name) file := by
  have answered : (ask (·.read (Path.join cwd name)) : Edit FileError String).run fs =
      .ok file.content fs := run_ask_of_ok (FileSystem.read_file found)
  refine ⟨run_of_ok (cat_acts now name [] cwd) answered,
    fun pattern => run_of_ok (grep_acts now name [] cwd pattern) answered,
    run_of_ok (edit_acts now name [] cwd) answered, fun other => ?_⟩
  have acts := cd_acts now name [] cwd
  rw [Path.resolve_of_isSegment segment other] at acts
  exact run_of_error acts (run_ask_of_error (FileSystem.requireDirectory_file found))

theorem namesDirectory_join {fs : FileSystem} {cwd name : String} (segment : Path.IsSegment name)
    (found : fs.get? (Path.join cwd name) = some .directory) (now : Instant) :
    NamesDirectory now fs cwd name (Path.join cwd name) := by
  have refused : (ask (·.read (Path.join cwd name)) : Edit FileError String).run fs =
      .error (.notAFile (Path.join cwd name)) fs := run_ask_of_error (FileSystem.read_directory found)
  refine ⟨run_of_error (cat_acts now name [] cwd) refused,
    fun pattern => run_of_error (grep_acts now name [] cwd pattern) refused,
    run_of_error (edit_acts now name [] cwd) refused, fun other => ?_⟩
  have acts := cd_acts now name [] cwd
  rw [Path.resolve_of_isSegment segment other] at acts
  exact run_of_ok acts (run_ask_of_ok (FileSystem.requireDirectory_directory found))

/-! ## Commands that write -/

/-- In `cwd`, every command that takes a name takes `name` for the node at `path`. -/
structure Addresses (now : Instant) (fs : FileSystem) (cwd name path : String) (node : Node) : Prop where
  file : ∀ file, node = .file file → NamesFile now fs cwd name path file
  directory : node = .directory → NamesDirectory now fs cwd name path
  mkdir : Command.mkdir.run now [name] cwd fs =
    ⟨.error (.files ("Error: " ++ name ++ " already exists") (.alreadyExists path)), fs⟩
  touch : Command.touch.run now [name] cwd fs =
    ⟨.ok (Reply.message ("Created file: " ++ name)).changing, fs.insert path (.file ⟨"", now⟩)⟩
  rm : Command.rm.run now [name] cwd fs =
    ⟨.ok (Reply.message ("Removed " ++ name)).changing, fs.withoutSpan path⟩
  mv : ∀ other,
    (Command.mv.run now [name, other] cwd fs).files = (Edit.move path (Path.join cwd other)).left fs ∧
    (Command.mv.run now [other, name] cwd fs).files = (Edit.move (Path.join cwd other) path).left fs
  cp : ∀ other,
    (Command.cp.run now [name, other] cwd fs).files = (Edit.copy path (Path.join cwd other)).left fs ∧
    (Command.cp.run now [other, name] cwd fs).files = (Edit.copy (Path.join cwd other) path).left fs

section Writing

variable (now : Instant) (cwd : String)

theorem rm_acts (name : String) (rest : List String) : Command.rm.action now (name :: rest) cwd =
    (Edit.remove (Path.join cwd name)).adaptExcept
        (.files ("Error: " ++ name ++ " does not exist")) >>=
      fun _ => pure (Reply.message ("Removed " ++ name)).changing := rfl

/-- A transfer to a second name leaves what its operation leaves. -/
theorem files_transfer {command : Command} {operation : String → String → Edit FileError Unit}
    {done source target : String}
    (transfers : command.action now [source, target] cwd = transfer operation done [source, target] cwd)
    (fs : FileSystem) :
    (command.run now [source, target] cwd fs).files =
      (operation (Path.join cwd source) (Path.join cwd target)).left fs := by
  have acts : transfer operation done [source, target] cwd =
      (operation (Path.join cwd source) (Path.join cwd target)).adaptExcept
          (fun cause => .files (transferReport source cause) cause) >>=
        fun _ => pure (Reply.message (done ++ " " ++ source ++ " to " ++ target)).changing := rfl
  exact files_of_operation (transfers.trans acts) fs

end Writing

theorem addresses_join {fs : FileSystem} {cwd name : String} {node : Node}
    (segment : Path.IsSegment name) (found : fs.get? (Path.join cwd name) = some node) (now : Instant) :
    Addresses now fs cwd name (Path.join cwd name) node := by
  have present : fs.contains (Path.join cwd name) := Option.isSome_of_eq_some found
  refine ⟨?_, ?_, ?_, rfl, ?_, ?_, ?_⟩
  · rintro file rfl
    exact namesFile_join segment found now
  · rintro rfl
    exact namesDirectory_join segment found now
  · rw [run_mkdir, if_pos present]
  · exact run_of_ok (rm_acts now cwd name []) (run_remove_of_contains present)
  · exact fun other => ⟨files_transfer now cwd rfl fs, files_transfer now cwd rfl fs⟩
  · exact fun other => ⟨files_transfer now cwd rfl fs, files_transfer now cwd rfl fs⟩

/-! ## Listings -/

/-- A listing has an entry for every segment that makes a key with the directory, and for nothing else;
    each name occurs once, and the names come in the order of their keys. In the directory, each stands
    for the node that was listed. -/
theorem list_addresses_nodes (fs : FileSystem) (dir : String) :
    (∀ entry, entry ∈ fs.list dir ↔ entry.name ≠ "" ∧ '/' ∉ entry.name.toList ∧
      ∃ node, fs.get? (Path.join dir entry.name) = some node ∧
        node.isDirectory = entry.isDirectory) ∧
    ((fs.list dir).map ListedEntry.name).Nodup ∧
    ((fs.list dir).map fun entry => Path.join dir entry.name).Sublist fs.entries.keys ∧
    ∀ entry ∈ fs.list dir, ∃ node, fs.get? (Path.join dir entry.name) = some node ∧
      node.isDirectory = entry.isDirectory ∧
      ∀ now, Addresses now fs dir entry.name (Path.join dir entry.name) node := by
  refine ⟨fun entry => FileSystem.mem_list_iff.trans and_assoc, fs.nodup_names_list dir,
    fs.keys_list_sublist dir, fun entry listed => ?_⟩
  obtain ⟨segment, node, found, kind⟩ := FileSystem.mem_list_iff.mp listed
  exact ⟨node, found, kind, addresses_join segment found⟩

/-- A directory called by two dots is listed, but the command that enters directories goes up instead. -/
theorem listed_dots_climb :
    let fs := (FileSystem.root.insert "/a" .directory).insert "/a/.." .directory
    ⟨"..", true⟩ ∈ fs.list "/a" ∧ fs.get? (Path.join "/a" "..") = some .directory ∧
      Command.cd.run .epoch [".."] "/a" fs =
        ⟨.ok ((Reply.message "Changed directory to /").requesting (.changeDirectory "/")), fs⟩ := by
  intro fs
  have upwards : Path.resolve ".." "/a" = "/" := by decide
  have acts := cd_acts .epoch ".." [] "/a"
  rw [upwards] at acts
  have above : fs.get? "/" = some .directory := by decide
  exact ⟨by decide, by decide,
    run_of_ok acts (run_ask_of_ok (FileSystem.requireDirectory_directory above))⟩

end Command
end PathShell
