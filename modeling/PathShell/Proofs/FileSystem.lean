import PathShell.FileSystem
import PathShell.Proofs.OrderedMap

/-!
# Nodes and the root

What stands at a path after a node is put somewhere, what is answered about the node there, what writing
a file leaves alone, and file systems that have a node at `/`.
-/

namespace PathShell
namespace FileSystem

@[simp] theorem get?_insert (fs : FileSystem) (path other : String) (node : Node) :
    (fs.insert path node).get? other = if other = path then some node else fs.get? other :=
  OrderedMap.get?_insert fs.entries path other node

theorem contains_iff {fs : FileSystem} {path : String} : fs.contains path ↔ fs.get? path ≠ none :=
  Option.isSome_iff_ne_none

/-! ## Asking -/

section Asking

variable {fs : FileSystem} {path : String}

theorem read_file {file : File} (found : fs.get? path = some (.file file)) :
    fs.read path = .ok file.content := by
  rw [read, found]

theorem read_directory (found : fs.get? path = some .directory) :
    fs.read path = .error (.notAFile path) := by
  rw [read, found]

theorem requireDirectory_file {file : File} (found : fs.get? path = some (.file file)) :
    fs.requireDirectory path = .error (.notADirectory path) := by
  rw [requireDirectory, found]

theorem requireDirectory_directory (found : fs.get? path = some .directory) :
    fs.requireDirectory path = .ok () := by
  rw [requireDirectory, found]

end Asking

/-! ## Writing -/

/-- The file at `path` has the content, and every other path its node; all keep their places. -/
structure Writes (before after : FileSystem) (path content : String) : Prop where
  written : ∃ file, after.get? path = some (.file file) ∧ file.content = content ∧
    file.size = content.utf8ByteSize
  others : ∀ other, other ≠ path → after.get? other = before.get? other
  keys : after.entries.keys = before.entries.keys

theorem writes_insert {fs : FileSystem} {path : String} {node : Node}
    (found : fs.get? path = some node) (content : String) (now : Instant) :
    Writes fs (fs.insert path (.file ⟨content, now⟩)) path content := by
  have member : path ∈ fs.entries.keys :=
    OrderedMap.contains_iff_mem_keys.mp (Option.isSome_of_eq_some found)
  refine ⟨⟨⟨content, now⟩, ?_, rfl, rfl⟩, ?_, ?_⟩
  · rw [get?_insert, if_pos rfl]
  · intro other different
    rw [get?_insert, if_neg different]
  · exact (OrderedMap.map_fst_put ..).trans (if_pos member)

/-! ## The root -/

theorem contains_of_get? {before after : FileSystem} (rooted : before.contains "/")
    (same : after.get? "/" = before.get? "/") : after.contains "/" := by
  rw [contains, OrderedMap.contains] at rooted ⊢
  exact (congrArg Option.isSome same).trans rooted

theorem contains_insert {fs : FileSystem} (rooted : fs.contains "/") (path : String) (node : Node) :
    (fs.insert path node).contains "/" := by
  by_cases same : "/" = path
  · simp [contains, OrderedMap.contains, insert, ← same]
  · exact contains_of_get? rooted (by simp [same])

/-- A missing root comes first; what is there keeps its place. -/
theorem entries_ensureRoot (fs : FileSystem) :
    fs.ensureRoot.entries.entries =
      if fs.contains "/" then fs.entries.entries else ("/", .directory) :: fs.entries.entries :=
  OrderedMap.entries_insertFront fs.entries "/" .directory

theorem ensureRoot_of_contains {fs : FileSystem} (rooted : fs.contains "/") : fs.ensureRoot = fs := by
  rw [ensureRoot, OrderedMap.insertFront_of_contains rooted]

theorem contains_ensureRoot (fs : FileSystem) : fs.ensureRoot.contains "/" := by
  by_cases rooted : fs.contains "/"
  · rw [ensureRoot_of_contains rooted]
    exact rooted
  · have entries := fs.entries_ensureRoot
    rw [if_neg rooted] at entries
    simp [contains, OrderedMap.contains, OrderedMap.get?, entries]

theorem contains_seeded (now : Instant) : (seeded now).contains "/" := by
  have root : root.contains "/" := contains_ensureRoot _
  have home := contains_insert root "/home" .directory
  have user := contains_insert home "/home/user" .directory
  have documents := contains_insert user "/home/user/documents" .directory
  exact contains_insert documents "/home/user/documents/notes.txt" (.file ⟨sampleNote, now⟩)

end FileSystem
end PathShell
