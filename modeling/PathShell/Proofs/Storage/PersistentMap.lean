import PathShell.Proofs.Storage.Places
import PathShell.Proofs.Storage.Recorded
import PathShell.Proofs.Storage.StateFile
import PathShell.Proofs.Text.ByteOrder

/-!
# The state file as a map that lasts

Any number of state files opened on one path after the other are one map: what was granted last for a
key is what is read under it, through whichever file. A setting that is granted leaves every key in the
file once, in the order of bytes, and one that is refused leaves the file as it was; neither touches
any other file but the one that is written beside it.
-/

namespace PathShell
namespace StateFile

/-! ## The order of what is written -/

/-- Cells in the order of their keys, each key once. -/
def Ordered (cells : List (String × String)) : Prop := cells.Pairwise fun cell next => cell.1 < next.1

theorem ordered_insertSorted {cell : String × String} {cells : List (String × String)}
    (ordered : Ordered cells) (fresh : cell.1 ∉ cells.map Prod.fst) :
    Ordered (insertSorted cell cells) := by
  induction cells with
  | nil => exact List.pairwise_singleton _ _
  | cons next rest ih =>
    obtain ⟨first, later⟩ := List.pairwise_cons.mp ordered
    rw [List.map_cons, List.mem_cons, not_or] at fresh
    rw [insertSorted]
    split
    · next before =>
      refine List.pairwise_cons.mpr ⟨fun other member => ?_, ordered⟩
      rcases List.mem_cons.mp member with rfl | member
      · exact before
      · exact String.lt_trans before (first other member)
    · next notBefore =>
      have after : next.1 < cell.1 := Std.lt_of_le_of_ne (String.not_lt.mp notBefore) (Ne.symm fresh.1)
      refine List.pairwise_cons.mpr ⟨fun other member => ?_, ih later fresh.2⟩
      rcases List.mem_cons.mp ((insertSorted_perm cell rest).mem_iff.mp member) with rfl | member
      · exact after
      · exact first other member

theorem ordered_sorted {cells : List (String × String)} (nodup : (cells.map Prod.fst).Nodup) :
    Ordered (sorted cells) := by
  induction cells with
  | nil => exact .nil
  | cons cell rest ih =>
    obtain ⟨fresh, nodup⟩ := List.nodup_cons.mp nodup
    have same := ((sorted_perm rest).map Prod.fst).mem_iff (a := cell.1)
    exact ordered_insertSorted (ih nodup) fun member => fresh (same.mp member)

theorem lookup_sorted (cells : OrderedMap String) (key : String) :
    (sorted cells.entries).lookup key = cells.get? key := by
  rw [← get?_ofList_sorted, OrderedMap.get?, OrderedMap.entries_ofList (nodup_sorted cells)]

/-- The text of the file is that of an object with the keys of the map, each once and in the order of
    its bytes, and nothing else. -/
def HoldsInOrder (file : StateFile) : Prop :=
  ∃ cells, file.disk.readText file.path = .ok (cellsJson cells).indented ∧
    (cells.map fun cell => Text.bytes cell.1).Pairwise (· < ·) ∧
    ∀ key, Storage.get file key = .ok (cells.lookup key)

theorem holdsInOrder_of_written {file : StateFile} {cells : OrderedMap String}
    (holds : file.disk.readText file.path = .ok (written cells)) : file.HoldsInOrder := by
  refine ⟨sorted cells.entries, holds, ?_, fun key => ?_⟩
  · exact List.pairwise_map.mpr ((ordered_sorted cells.nodup).imp Text.bytes_lt)
  · rw [lookup_sorted, ← get?_ofList_sorted]
    simp only [Storage.get, readAll_of_written holds]
    rfl

/-! ## One setting -/

theorem places_eq {file other : StateFile} (same : file.path = other.path) :
    file.places = other.places := by
  rw [places, places, temporary, temporary, same]

/-- What is read depends on the text of the file only. -/
theorem get_congr {file other : StateFile}
    (same : other.disk.readText other.path = file.disk.readText file.path) (key : String) :
    Storage.get other key = Storage.get file key := by
  simp only [Storage.get, readAll, same]

theorem path_set (file : StateFile) (key value : String) :
    (Storage.set file key value).2.path = file.path := by
  rcases set_cases file key value with ⟨error, disk, answered, -⟩ | ⟨cells, disk, -, answered, -⟩
  · rw [answered]
  · rw [answered]

/-- There is a text at the path of the file. -/
def Readable (file : StateFile) : Prop := ∃ text, file.disk.readText file.path = .ok text

/-- A setting that is granted has written the whole file. -/
theorem written_of_granted {file : StateFile} {key value : String}
    (granted : (Storage.set file key value).1 = .ok ()) :
    Disk.Touches file.places file.disk (Storage.set file key value).2.disk ∧
      ∃ cells, (Storage.set file key value).2.disk.readText (Storage.set file key value).2.path =
        .ok (written cells) := by
  rcases set_cases file key value with ⟨error, disk, answered, -⟩ | ⟨cells, disk, -, answered, touches, holds⟩
  · rw [answered] at granted
    cases granted
  · rw [answered]
    exact ⟨touches, _, holds⟩

theorem touches_of_refused {file : StateFile} {key value : String} {error : StorageError}
    (refused : (Storage.set file key value).1 = .error error) :
    Disk.Touches [Disk.placeNamed file.temporary] file.disk (Storage.set file key value).2.disk := by
  rcases set_cases file key value with ⟨error, disk, answered, touches⟩ | ⟨cells, disk, -, answered, -⟩
  · rw [answered]
    exact touches
  · rw [answered] at refused
    cases refused

theorem place_ne_temporary (file : StateFile) :
    Disk.placeNamed file.path ∉ [Disk.placeNamed file.temporary] := by
  rw [List.mem_singleton]
  exact Disk.placeNamed_ne_temporary file.path

/-- A text that can be read when a setting is refused can be read afterwards. -/
theorem readText_of_refused {file : StateFile} {key value : String} {error : StorageError}
    (refused : (Storage.set file key value).1 = .error error) (readable : file.Readable) :
    (Storage.set file key value).2.disk.readText (Storage.set file key value).2.path =
      file.disk.readText file.path := by
  obtain ⟨text, read⟩ := readable
  rw [path_set, read]
  exact Disk.readText_of_touches (touches_of_refused refused) (place_ne_temporary file) read

/-! ## Calls in turn -/

/-- The record of calls through files that are opened on one path in turn; each finds the disk as the
    one before left it. -/
def history (path : String) (disk : Disk) (instances : List (List Call)) : Recorded StateFile :=
  instances.foldl
    (fun recorded calls => Storage.afterCalls ⟨⟨path, recorded.store.disk⟩, recorded.requests⟩ calls)
    (Recorded.begin ⟨path, disk⟩)

/-- What stands under a key: the text that was granted last, or what stood there first. -/
def expected (first : StateFile) (recorded : Recorded StateFile) (key : String) :
    Except StorageError (Option String) :=
  match recorded.latest? key with
  | some value => .ok (some value)
  | none => Storage.get first key

/-- The file has not moved, no other file has changed, and once the file can be read, every key holds
    what it should. -/
structure Remembers (first : StateFile) (recorded : Recorded StateFile) : Prop where
  path : recorded.store.path = first.path
  touches : Disk.Touches first.places first.disk recorded.store.disk
  held (key : String) : first.Readable ∨ (recorded.latest? key).isSome →
    recorded.store.Readable ∧ Storage.get recorded.store key = expected first recorded key

theorem remembers_begin (first : StateFile) : Remembers first (Recorded.begin first) := by
  refine ⟨rfl, .refl _ _, fun key known => ?_⟩
  rcases known with readable | granted
  · exact ⟨readable, rfl⟩
  · cases granted

theorem remembers_set {first : StateFile} {recorded : Recorded StateFile}
    (remembers : Remembers first recorded) (key value : String) :
    Remembers first (Storage.set recorded key value).2 := by
  have path : (Storage.set recorded key value).2.store.path = first.path :=
    (path_set recorded.store key value).trans remembers.path
  cases answered : (Storage.set recorded.store key value).1 with
  | ok done =>
    obtain ⟨touches, cells, holds⟩ := written_of_granted answered
    refine ⟨path, ?_, fun other known => ⟨⟨_, holds⟩, ?_⟩⟩
    · rw [places_eq remembers.path] at touches
      exact remembers.touches.trans touches
    · have found := LawfulStorage.get_set recorded.store key value other answered
      rw [Recorded.latest?_set_of_ok answered] at known
      refine found.trans ?_
      rw [expected, Recorded.latest?_set_of_ok answered]
      by_cases same : other = key
      · simp [same]
      · rw [if_neg same] at known
        simp only [if_neg same]
        exact (remembers.held other known).2
  | error error =>
    refine ⟨path, ?_, fun other known => ?_⟩
    · have touches := touches_of_refused answered
      refine remembers.touches.trans (touches.mono ?_)
      simp [places, temporary, remembers.path]
    · rw [Recorded.latest?_set_of_error answered] at known
      obtain ⟨readable, found⟩ := remembers.held other known
      have same := readText_of_refused answered readable
      obtain ⟨text, read⟩ := readable
      refine ⟨⟨text, same.trans read⟩, (get_congr same other).trans ?_⟩
      rw [found, expected, expected, Recorded.latest?_set_of_error answered]

theorem remembers_afterCalls {first : StateFile} {recorded : Recorded StateFile}
    (remembers : Remembers first recorded) (calls : List Call) :
    Remembers first (Storage.afterCalls recorded calls) := by
  induction calls generalizing recorded with
  | nil => exact remembers
  | cons call rest ih =>
    cases call with
    | get key => exact ih remembers
    | set key value => exact ih (remembers_set remembers key value)

theorem path_afterCalls (recorded : Recorded StateFile) (calls : List Call) :
    (Storage.afterCalls recorded calls).store.path = recorded.store.path := by
  induction calls generalizing recorded with
  | nil => rfl
  | cons call rest ih =>
    cases call with
    | get key => exact ih recorded
    | set key value =>
      exact (ih (Storage.set recorded key value).2).trans (path_set recorded.store key value)

/-- A file keeps nothing but what is on the disk, so it makes no difference when it is opened anew. -/
theorem history_eq (path : String) (disk : Disk) (instances : List (List Call)) :
    history path disk instances =
      Storage.afterCalls (Recorded.begin ⟨path, disk⟩) instances.flatten := by
  have opened (recorded : Recorded StateFile) (here : recorded.store.path = path) :
      instances.foldl (fun recorded calls =>
        Storage.afterCalls ⟨⟨path, recorded.store.disk⟩, recorded.requests⟩ calls) recorded =
      Storage.afterCalls recorded instances.flatten := by
    induction instances generalizing recorded with
    | nil => rfl
    | cons calls rest ih =>
      have same : (⟨⟨path, recorded.store.disk⟩, recorded.requests⟩ : Recorded StateFile) = recorded := by
        rw [← here]
      rw [List.foldl_cons, same, ih _ ((path_afterCalls recorded calls).trans here), List.flatten_cons,
        Storage.afterCalls, Storage.afterCalls, Storage.afterCalls, List.foldl_append]
  exact opened _ rfl

theorem remembers_history (path : String) (disk : Disk) (instances : List (List Call)) :
    Remembers ⟨path, disk⟩ (history path disk instances) := by
  rw [history_eq]
  exact remembers_afterCalls (remembers_begin _) _

/-- Whatever was called through any number of files that were opened on a path in turn, what was granted
    last for a key is read under it; a key that was granted nothing is read as at first, if the file could
    be read then. A setting that is granted is found under its key and changes no other, leaves every
    key in the file once and in the order of bytes, and touches no file but the state file and the one
    beside it. A setting that is refused touches that one at most, so the file that the path leads to,
    before or afterwards, is there as it was or is still missing. -/
theorem lasts_over_instances (path : String) (disk : Disk) (instances : List (List Call)) :
    let first : StateFile := ⟨path, disk⟩
    let before := history path disk instances
    Disk.Touches first.places disk before.store.disk ∧
      (∀ key, first.Readable ∨ (before.latest? key).isSome →
        Storage.get before key = expected first before key) ∧
      ∀ key value,
        let after := (Storage.set before.store key value).2
        match (Storage.set before.store key value).1 with
        | .ok () =>
          Storage.get after key = .ok (some value) ∧
            (∀ other, other ≠ key → Storage.get after other = Storage.get before.store other) ∧
            after.HoldsInOrder ∧ Disk.Touches first.places before.store.disk after.disk
        | .error _ =>
          (∀ place slash, before.store.disk.locate path = .ok (.entry place slash) ∨
                after.disk.locate path = .ok (.entry place slash) →
              after.disk.fileAt? place = before.store.disk.fileAt? place) ∧
            (before.store.Readable →
              after.disk.readText path = before.store.disk.readText path) ∧
            Disk.Touches [Disk.placeNamed first.temporary] before.store.disk after.disk := by
  intro first before
  have remembers : Remembers first before := remembers_history path disk instances
  have moved : before.store.path = path := remembers.path
  refine ⟨remembers.touches, fun key known => (remembers.held key known).2, fun key value => ?_⟩
  intro after
  cases answered : (Storage.set before.store key value).1 with
  | ok done =>
    have found := fun other => LawfulStorage.get_set before.store key value other answered
    obtain ⟨touches, cells, holds⟩ := written_of_granted answered
    refine ⟨(found key).trans (if_pos rfl), fun other apart => (found other).trans (if_neg apart),
      holdsInOrder_of_written holds, ?_⟩
    rw [places_eq remembers.path] at touches
    exact touches
  | error error =>
    have touches := touches_of_refused answered
    refine ⟨fun place slash led => ?_, fun readable => ?_, ?_⟩
    · have named : place = Disk.placeNamed path := led.elim Disk.locate_place Disk.locate_place
      have outside := place_ne_temporary before.store
      rw [moved, ← named] at outside
      exact touches.files place outside
    · have same := readText_of_refused answered readable
      rw [path_set, moved] at same
      exact same
    · have beside : before.store.temporary = first.temporary := congrArg (· ++ ".tmp") moved
      rw [← beside]
      exact touches

/-- A second file finds what was set through the first, and what is set through it changes no other
    key. -/
theorem second_instance_finds_first :
    let before := history "state.json" .empty [[.set "z" "1"], [.get "z"]]
    let after := (Storage.set before.store "é" "2").2
    before.latest? "z" = some "1" ∧ Storage.get before "z" = .ok (some "1") ∧
      (Storage.set before.store "é" "2").1 = .ok () ∧ Storage.get after "é" = .ok (some "2") ∧
      "z" ≠ "é" ∧ Storage.get after "z" = .ok (some "1") ∧ after.HoldsInOrder := by
  have first := ready_missing.set "z" "1"
  have second := first.2.set "é" "2"
  have opened : history "state.json" .empty [[.set "z" "1"], [.get "z"]] =
      (Storage.set (Recorded.begin ⟨"state.json", .empty⟩) "z" "1").2 := history_eq _ _ _
  have latest : (history "state.json" .empty [[.set "z" "1"], [.get "z"]]).latest? "z" = some "1" := by
    rw [opened, Recorded.latest?_set_of_ok first.1, if_pos rfl]
  have granted : (Storage.set (history "state.json" .empty [[.set "z" "1"], [.get "z"]]).store
      "é" "2").1 = .ok () := by
    rw [opened]
    exact second.1
  obtain ⟨-, held, settings⟩ := lasts_over_instances "state.json" .empty [[.set "z" "1"], [.get "z"]]
  have found := held "z" (.inr (by rw [latest]; rfl))
  rw [expected, latest] at found
  have answered := settings "é" "2"
  rw [granted] at answered
  obtain ⟨set, others, inOrder, -⟩ := answered
  exact ⟨latest, found, granted, set, by decide, (others "z" (by decide)).trans found, inOrder⟩

end StateFile
end PathShell
