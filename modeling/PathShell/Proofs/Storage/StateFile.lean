import Mathlib.Data.List.TakeWhile
import PathShell.Storage.StateFile
import PathShell.Proofs.Json.RoundTrip
import PathShell.Proofs.Storage
import PathShell.Proofs.Storage.Places
import PathShell.Proofs.Text.Digits

/-!
# The state file as a store

The text of a state file is read as the cells that it was written from, so a key that was set is found
again and all others stay, although every setting rewrites the whole file.
-/

namespace PathShell
namespace StateFile

/-! ## The order of the keys -/

theorem insertSorted_perm (cell : String × String) (cells : List (String × String)) :
    (insertSorted cell cells).Perm (cell :: cells) := by
  induction cells with
  | nil => exact .refl _
  | cons next rest ih =>
    rw [insertSorted]
    split
    · exact .refl _
    · exact (ih.cons next).trans (.swap cell next rest)

theorem sorted_perm (cells : List (String × String)) : (sorted cells).Perm cells := by
  induction cells with
  | nil => exact .refl _
  | cons cell rest ih => exact (insertSorted_perm cell (sorted rest)).trans (ih.cons cell)

theorem nodup_sorted (cells : OrderedMap String) : ((sorted cells.entries).map Prod.fst).Nodup :=
  ((sorted_perm cells.entries).map Prod.fst).nodup_iff.mpr cells.nodup

/-- The order in which cells are written makes no difference to what stands under a key. -/
theorem get?_ofList_sorted (cells : OrderedMap String) (key : String) :
    (OrderedMap.ofList (sorted cells.entries)).get? key = cells.get? key := by
  refine Option.ext fun value => ?_
  rw [OrderedMap.get?_eq_some_iff, OrderedMap.get?_eq_some_iff,
    OrderedMap.entries_ofList (nodup_sorted cells), (sorted_perm cells.entries).mem_iff]

/-! ## The text of the file -/

theorem texts?_strings (cells : List (String × String)) :
    texts? (cells.map fun cell => (cell.1, Json.Value.string cell.2)) = some cells := by
  induction cells with
  | nil => rfl
  | cons cell rest ih => rw [List.map_cons, texts?, ih, Option.map_some]

/-- The value that the file writes. -/
def cellsJson (cells : List (String × String)) : Json.Value :=
  .object (cells.map fun cell => (cell.1, .string cell.2))

theorem sound_cellsJson (cells : List (String × String)) : (cellsJson cells).Sound := by
  rw [cellsJson, Json.Value.Sound]
  induction cells with
  | nil => trivial
  | cons cell rest ih => exact ⟨trivial, ih⟩

theorem depth_cellsJson (cells : List (String × String)) : (cellsJson cells).depth = 1 := by
  have flat : Json.membersDepth (cells.map fun cell => (cell.1, Json.Value.string cell.2)) = 0 := by
    induction cells with
    | nil => rfl
    | cons cell rest ih => rw [List.map_cons, Json.membersDepth, ih, Json.Value.depth, Nat.max_self]
  rw [cellsJson, Json.Value.depth, flat]

theorem read?_written (cells : OrderedMap String) :
    (Json.read? (written cells)).bind cells? = some (.ofList (sorted cells.entries)) := by
  have shallow : (cellsJson (sorted cells.entries)).depth ≤ Json.maxOpen := by
    rw [depth_cellsJson]
    decide
  have read := Json.read?_indented (sound_cellsJson _) shallow
  rw [show written cells = (cellsJson (sorted cells.entries)).indented from rfl, read,
    Option.bind_some, cellsJson, cells?, texts?_strings, Option.map_some]

/-- The file is never blank. -/
theorem skipBlanks_written (cells : OrderedMap String) :
    (Text.skipBlanks (written cells).toList).isEmpty = false := by
  have opened (members : List (String × Json.Value)) :
      ∃ rest, (Json.Value.object members).indentedChars 0 = '\x7b' :: rest := by
    cases members with
    | nil => exact ⟨_, rfl⟩
    | cons member members => exact ⟨_, rfl⟩
  obtain ⟨rest, shape⟩ := opened ((sorted cells.entries).map fun cell => (cell.1, .string cell.2))
  rw [written, Json.Value.indented, String.toList_ofList, shape, Text.skipBlanks_cons (by decide)]
  rfl

theorem readAll_of_written {file : StateFile} {cells : OrderedMap String}
    (holds : file.disk.readText file.path = .ok (written cells)) :
    file.readAll = .ok (.ofList (sorted cells.entries)) := by
  simp only [readAll, holds, skipBlanks_written, read?_written]
  rfl

/-! ## Setting -/

/-- The place of the file, and the place where its next text is written first. -/
def places (file : StateFile) : List String :=
  [Disk.placeNamed file.path, Disk.placeNamed file.temporary]

/-- Replacing the content of the file fails and touches nothing but the file beside it, or the new
    content is what the file holds. -/
theorem replace_cases (file : StateFile) (text : String) :
    (∃ error disk, file.replace text = (.error error, { file with disk }) ∧
        Disk.Touches [Disk.placeNamed file.temporary] file.disk disk) ∨
      ∃ disk, file.replace text = (.ok (), { file with disk }) ∧
        Disk.Touches file.places file.disk disk ∧ disk.readText file.path = .ok text := by
  have parents := Disk.touches_makeParents file.disk file.path
  rw [replace]
  split
  · next error disk made =>
    rw [made] at parents
    exact .inl ⟨_, disk, rfl, parents.mono (List.nil_subset _)⟩
  · next disk made =>
    rw [made] at parents
    split
    · exact .inl ⟨_, disk, rfl, parents.mono (List.nil_subset _)⟩
    · next written wrote =>
      split
      · exact .inl ⟨_, written, rfl,
          (parents.mono (List.nil_subset _)).trans (Disk.touches_writeText wrote)⟩
      · next after renamed =>
        exact .inr ⟨after, rfl,
          (parents.mono (List.nil_subset _)).trans (Disk.touches_replaced wrote renamed),
          Disk.readText_of_replaced wrote renamed⟩

theorem readText_replace {file : StateFile} {text : String}
    (replaced : (file.replace text).1 = .ok ()) :
    (file.replace text).2.disk.readText (file.replace text).2.path = .ok text := by
  rcases replace_cases file text with ⟨error, disk, failed, -⟩ | ⟨disk, done, -, read⟩
  · rw [failed] at replaced
    cases replaced
  · rw [done]
    exact read

/-- Setting a key fails and touches nothing but the file beside it, or the file holds what could be
    read of it, with the key. -/
theorem set_cases (file : StateFile) (key value : String) :
    (∃ error disk, Storage.set file key value = (.error error, { file with disk }) ∧
        Disk.Touches [Disk.placeNamed file.temporary] file.disk disk) ∨
      ∃ cells disk, file.readAll = .ok cells ∧
        Storage.set file key value = (.ok (), { file with disk }) ∧
        Disk.Touches file.places file.disk disk ∧
        disk.readText file.path = .ok (written (cells.insert key value)) := by
  simp only [Storage.set]
  cases held : file.readAll with
  | error error => exact .inl ⟨error, file.disk, rfl, .refl _ _⟩
  | ok cells =>
    rcases replace_cases file (written (cells.insert key value)) with failed | ⟨disk, done⟩
    · exact .inl failed
    · exact .inr ⟨cells, disk, rfl, done⟩

instance : LawfulStorage StateFile where
  get_set file key value other wrote := by
    simp only [Storage.set, Storage.get] at wrote ⊢
    cases held : file.readAll with
    | error error =>
      rw [held] at wrote
      cases wrote
    | ok cells =>
      rw [held] at wrote
      simp only at wrote ⊢
      rw [readAll_of_written (readText_replace wrote)]
      simp only [Except.map, get?_ofList_sorted, OrderedMap.get?_insert]
      split <;> rfl

/-! ## A file that is no map -/

theorem texts?_eq_some {members : List (String × Json.Value)} {cells : List (String × String)}
    (texts : texts? members = some cells) :
    members = cells.map fun cell => (cell.1, Json.Value.string cell.2) := by
  induction members generalizing cells with
  | nil =>
    cases texts
    rfl
  | cons member rest ih =>
    obtain ⟨key, value⟩ := member
    cases value with
    | string text =>
      rw [texts?, Option.map_eq_some_iff] at texts
      obtain ⟨others, found, rfl⟩ := texts
      rw [ih found, List.map_cons]
    | _ => cases texts

theorem cells?_eq_none {value : Json.Value} (noCells : ∀ cells, value ≠ cellsJson cells) :
    cells? value = none := by
  cases value with
  | object members =>
    rw [cells?, Option.map_eq_none_iff, Option.eq_none_iff_forall_ne_some]
    intro cells texts
    exact noCells cells (congrArg Json.Value.object (texts?_eq_some texts))
  | _ => rfl

/-- There is something at the path, but it cannot be read as a map: a text that is not blank and is no
    object of texts, or what is not to be read at all. -/
inductive Unreadable (file : StateFile) : Prop where
  | noMap (text : String) (read : file.disk.readText file.path = .ok text)
      (filled : ¬ ∀ c ∈ text.toList, Text.isBlank c)
      (noCells : ∀ cells, Json.read? text ≠ some (cellsJson cells))
  | noText (error : OsError) (failed : file.disk.readText file.path = .error error)
      (there : error ≠ .notFound)

theorem readAll_of_unreadable {file : StateFile} (unreadable : file.Unreadable) :
    ∃ error, file.readAll = .error error := by
  cases unreadable with
  | noMap text read filled noCells =>
    have kept : (Text.skipBlanks text.toList).isEmpty = false := by
      rw [List.isEmpty_eq_false_iff, ne_eq, Text.skipBlanks, List.dropWhile_eq_nil_iff]
      exact filled
    have none : (Json.read? text).bind cells? = none := by
      cases parsed : Json.read? text with
      | none => rfl
      | some value => exact cells?_eq_none fun cells same => noCells cells (same ▸ parsed)
    exact ⟨.malformed, by simp [readAll, read, kept, none]⟩
  | noText error failed there => exact ⟨.files error, by simp [readAll, failed]⟩

/-- A file that cannot be read as a map refuses everything, and stays as it is. -/
theorem Unreadable.refuses {file : StateFile} (unreadable : file.Unreadable) :
    ∃ error, (∀ key, Storage.get file key = .error error) ∧
      ∀ key value, Storage.set file key value = (.error error, file) := by
  obtain ⟨error, failed⟩ := readAll_of_unreadable unreadable
  refine ⟨error, fun key => ?_, fun key value => ?_⟩
  · simp [Storage.get, failed, Except.map]
  · simp [Storage.set, failed]

/-! ## A file that never fails -/

/-- A path that leads to an entry of the directory that the program runs in, whatever is on the disk. -/
def Leads (path place : String) : Prop := ∀ disk : Disk, disk.locate path = .ok (.entry place false)

/-- The file stands at `place` in the directory that the program runs in and can be read, and at
    `beside` nothing keeps a text from being written. -/
structure Ready (place beside : String) (file : StateFile) : Prop where
  leads : Leads file.path place
  leadsBeside : Leads file.temporary beside
  parents : (Disk.namedSegments file.path).reverse.drop 1 = []
  held : ∃ cells, file.readAll = .ok cells
  noDirectory : file.disk.nodes.get? beside ≠ some .directory
  noLock : file.disk.nodes.get? beside ≠ some .locked

theorem Ready.replace_eq {place beside : String} {file : StateFile} (ready : Ready place beside file)
    (text : String) :
    file.replace text = (.ok (), { file with disk :=
      ⟨((file.disk.nodes.insert beside (.text text)).erase beside).insert place (.text text)⟩ }) := by
  have made : file.disk.makeParents file.path = (.ok (), file.disk) := by
    rw [Disk.makeParents, ready.parents, Disk.makeDirectories]
  have wrote := Disk.writeText_of_free (ready.leadsBeside file.disk) ready.noDirectory ready.noLock text
  have written : (file.disk.nodes.insert beside (.text text)).get? beside = some (.text text) := by
    simp
  have noTarget : (file.disk.nodes.insert beside (.text text)).get? place ≠ some .directory := by
    rw [OrderedMap.get?_insert]
    split
    · simp
    · intro directory
      obtain ⟨cells, held⟩ := ready.held
      simp [readAll, Disk.readText, ready.leads file.disk, directory] at held
  have renamed := Disk.rename_of_found (ready.leadsBeside ⟨file.disk.nodes.insert beside (.text text)⟩)
    (ready.leads _) written noTarget
  simp only [replace, made, wrote, renamed]

theorem Ready.set {place beside : String} {file : StateFile} (ready : Ready place beside file)
    (key value : String) :
    (Storage.set file key value).1 = .ok () ∧ Ready place beside (Storage.set file key value).2 := by
  obtain ⟨cells, held⟩ := ready.held
  have replaced := ready.replace_eq (written (cells.insert key value))
  have done : (file.replace (written (cells.insert key value))).1 = .ok () := by rw [replaced]
  have read := readAll_of_written (readText_replace done)
  simp only [Storage.set, held]
  refine ⟨done, ?_⟩
  rw [replaced] at read ⊢
  exact {
    leads := ready.leads
    leadsBeside := ready.leadsBeside
    parents := ready.parents
    held := ⟨_, read⟩
    noDirectory := by
      by_cases same : beside = place
      · simp [same]
      · simp [same]
    noLock := by
      by_cases same : beside = place
      · simp [same]
      · simp [same] }

/-- A file that is not there yet, on an empty disk. -/
theorem ready_missing : Ready "state.json" "state.json.tmp" ⟨"state.json", .empty⟩ where
  leads _ := rfl
  leadsBeside _ := rfl
  parents := rfl
  held := ⟨.empty, rfl⟩
  noDirectory := by decide
  noLock := by decide

/-- Such a file can always be read and written. -/
theorem neverFails_of_ready {place beside : String} {file : StateFile}
    (ready : Ready place beside file) : Storage.NeverFails file := by
  refine Storage.neverFails_of_invariant (Ready place beside) ?_ ?_ ready
  · intro file key ready
    obtain ⟨cells, held⟩ := ready.held
    exact ⟨cells.get? key, by simp [Storage.get, held, Except.map]⟩
  · intro file key value ready
    exact ready.set key value

end StateFile
end PathShell
