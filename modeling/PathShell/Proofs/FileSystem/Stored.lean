import PathShell.FileSystem.Stored
import PathShell.Proofs.FileSystem
import PathShell.Proofs.Instant.Text
import PathShell.Proofs.Json.RoundTrip

/-!
# Reading the stored form back

The text that a file system is stored as is read as that file system: its paths in their order, every
content and every time. Only a missing root directory is added.
-/

namespace PathShell

/-! ## The written value -/

theorem File.sound_toJson (file : File) : file.toJson.Sound := by
  have size : (Json.Value.ofNat file.size.toUInt64.toNat).Sound := Json.sound_ofNat (UInt64.toNat_lt _)
  simp only [File.toJson, Json.Value.Sound, Json.SoundMembers, size, and_self]

theorem Node.sound_toJson (node : Node) : node.toJson.Sound := by
  cases node with
  | file file => exact file.sound_toJson
  | directory => simp [Node.toJson, Json.Value.Sound, Json.SoundMembers]

theorem Node.depth_toJson (node : Node) : node.toJson.depth = 1 := by
  cases node with
  | file file => rfl
  | directory => rfl

theorem FileSystem.sound_toJson (fs : FileSystem) : fs.toJson.Sound := by
  rw [FileSystem.toJson, Json.Value.Sound]
  induction fs.entries.entries with
  | nil => trivial
  | cons entry rest ih =>
    rw [List.map_cons, Json.SoundMembers]
    exact ⟨entry.2.sound_toJson, ih⟩

theorem FileSystem.depth_toJson (fs : FileSystem) : fs.toJson.depth ≤ 2 := by
  have flat : Json.membersDepth (fs.entries.entries.map fun entry => (entry.1, entry.2.toJson)) ≤ 1 := by
    induction fs.entries.entries with
    | nil => exact Nat.zero_le 1
    | cons entry rest ih =>
      rw [List.map_cons, Json.membersDepth, Node.depth_toJson]
      omega
  rw [FileSystem.toJson, Json.Value.depth]
  omega

/-! ## Nodes -/

theorem Node.ofJson?_toJson (node : Node) : Node.ofJson? node.toJson = some node := by
  cases node with
  | directory => rfl
  | file file =>
    have parts : File.ofParts? (some (.string file.content)) (some (.string file.modified.text)) =
        some file := by
      simp [File.ofParts?, storedContent?, storedInstant?, Instant.ofText?_text]
    simp [Node.toJson, File.toJson, Node.ofJson?, Node.ofMembers?, soleMember?, parts]

theorem FileSystem.nodes?_toJson (entries : List (String × Node)) :
    FileSystem.nodes? (entries.map fun entry => (entry.1, entry.2.toJson)) = some entries := by
  induction entries with
  | nil => rfl
  | cons entry rest ih => rw [List.map_cons, FileSystem.nodes?, Node.ofJson?_toJson, ih]

/-! ## File systems -/

namespace FileSystem

theorem ofJson?_toJson (fs : FileSystem) : ofJson? fs.toJson = some fs.ensureRoot := by
  rw [toJson, ofJson?, nodes?_toJson, Option.map_some, OrderedMap.ofList_entries]

theorem ofStored?_stored (fs : FileSystem) : ofStored? fs.stored = some fs.ensureRoot := by
  have shallow : fs.toJson.depth ≤ Json.maxOpen := Nat.le_trans fs.depth_toJson (by decide)
  rw [ofStored?, stored, Json.read?_compact fs.sound_toJson shallow, Option.bind_some, ofJson?_toJson]

/-- Whatever a text holds has a root. -/
theorem contains_of_ofStored? {text : String} {fs : FileSystem} (held : ofStored? text = some fs) :
    fs.contains "/" := by
  rw [ofStored?, Option.bind_eq_some_iff] at held
  obtain ⟨value, -, held⟩ := held
  cases value with
  | object members =>
    rw [ofJson?, Option.map_eq_some_iff] at held
    obtain ⟨nodes, -, rfl⟩ := held
    exact contains_ensureRoot _
  | _ => cases held

/-- The stored form of a file system, however it came about, is read as that file system with a root;
    and what any text is read as, stored and read again, is the same. -/
theorem stored_round_trip (fs : FileSystem) (text : String) :
    ofStored? fs.stored = some fs.ensureRoot ∧
      fs.ensureRoot.entries.entries =
        (if fs.contains "/" then fs.entries.entries else ("/", .directory) :: fs.entries.entries) ∧
      ((ofStored? text).map stored).bind ofStored? = ofStored? text := by
  refine ⟨fs.ofStored?_stored, fs.entries_ensureRoot, ?_⟩
  cases held : ofStored? text with
  | none => rfl
  | some read =>
    have rooted := contains_of_ofStored? held
    rw [Option.map_some, Option.bind_some, ofStored?_stored, ensureRoot_of_contains rooted]

end FileSystem
end PathShell
