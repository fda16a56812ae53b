import PathShell.Proofs.Session.Lockstep
import PathShell.Proofs.Session.WriteBack
import PathShell.Proofs.Storage.Recorded

/-!
# Saves that fail

A store that refuses to be written is noticed nowhere but in the log: the session goes on as it would
over any other store, and asks for its file system to be written as often. What is stored meanwhile is
the whole file system of an earlier moment, the last one whose save was granted, and the next save that
is granted makes up for all that were refused.
-/

namespace PathShell
namespace Session

variable {σ τ : Type} [Storage σ] [Storage τ]

/-! ## Two stores that are asked alike -/

/-- The sessions show the same and have asked their stores equally often. -/
structure InStep (left : Session (Recorded σ)) (right : Session (Recorded τ)) : Prop where
  view : SameView left right
  asked : right.store.requests.length = left.store.requests.length

theorem inStep_after {left : Session (Recorded σ)} {right : Session (Recorded τ)}
    (inStep : InStep left right) (operation : Operation) :
    InStep (left.after operation) (right.after operation) := by
  obtain ⟨-, view, stores⟩ := perform_alike inStep.view operation
  refine ⟨view, ?_⟩
  rcases stores with ⟨leftStore, rightStore⟩ | ⟨leftStore, rightStore⟩
  · rw [leftStore, rightStore, inStep.asked]
  · rw [leftStore, rightStore, Recorded.length_requests_set, Recorded.length_requests_set, inStep.asked]

theorem inStep_afterAll {left : Session (Recorded σ)} {right : Session (Recorded τ)}
    (inStep : InStep left right) (operations : List Operation) :
    InStep (left.afterAll operations) (right.afterAll operations) := by
  induction operations generalizing left right with
  | nil => exact inStep
  | cons operation rest ih => exact ih (inStep_after inStep operation)

theorem inStep_start {steady : σ} {failing : τ} {options options' : SessionOptions} {now : Instant}
    (loaded : (load failing (options'.key.getD defaultKey)).1 =
      (load steady (options.key.getD defaultKey)).1)
    (cwd : (start now options' failing).cwd = (start now options steady).cwd) :
    InStep (start now options (Recorded.begin steady)) (start now options' (Recorded.begin failing)) := by
  refine ⟨sameView_start loaded ?_, ?_⟩
  · have left := (start_frame now options steady).2.2.2
    have right := (start_frame now options' failing).2.2.2
    rw [left, right] at cwd
    rw [(start_frame now options (Recorded.begin steady)).2.2.2,
      (start_frame now options' (Recorded.begin failing)).2.2.2]
    exact cwd
  · obtain ⟨-, -, left⟩ := start_blank now options (Recorded.begin steady)
    obtain ⟨-, -, right⟩ := start_blank now options' (Recorded.begin failing)
    have loading : (load (Recorded.begin failing) (options'.key.getD defaultKey)).1 =
        (load (Recorded.begin steady) (options.key.getD defaultKey)).1 := loaded
    rw [left, right, loading]
    split
    · rw [Recorded.length_requests_set, Recorded.length_requests_set]
      rfl
    · rfl

/-! ## What is stored -/

/-- The file system right after the last of the operations whose save was granted; `saved` is the one
    saved before them. -/
def savedBy (session : Session (Recorded σ)) (saved : Option FileSystem) :
    List Operation → Option FileSystem
  | [] => saved
  | operation :: rest =>
    let next := session.after operation
    next.savedBy (if session.store.grants < next.store.grants then some next.files else saved) rest

/-- The file system that a session was given when it started, if that was saved, or right after the last
    operation whose save was granted. -/
def lastSaved? (first : Session (Recorded σ)) (operations : List Operation) : Option FileSystem :=
  first.savedBy (if 0 < first.store.grants then some first.files else none) operations

/-- What stands under a key once a file system was saved there, or `initial` if none was. -/
def textOf (initial : Except StorageError (Option String)) :
    Option FileSystem → Except StorageError (Option String)
  | some files => .ok (some files.stored)
  | none => initial

/-- The store is faithful, and holds the file system that was saved last. -/
structure HoldsSaved (initial : Except StorageError (Option String)) (saved : Option FileSystem)
    (session : Session (Recorded σ)) : Prop where
  faithful : Storage.Faithful session.store.store
  held : Storage.get session.store session.key = textOf initial saved

/-- Whether a save is granted shows in the record, and decides what is held. -/
theorem holdsSaved_set {initial : Except StorageError (Option String)} {saved : Option FileSystem}
    {store : Recorded σ} {next : Session (Recorded σ)} (faithful : Storage.Faithful store.store)
    (held : Storage.get store next.key = textOf initial saved)
    (asked : next.store = (Storage.set store next.key next.files.stored).2) :
    HoldsSaved initial (if store.grants < next.store.grants then some next.files else saved) next := by
  refine ⟨?_, ?_⟩
  · rw [asked]
    exact Storage.faithful_set faithful next.key next.files.stored
  · cases answered : (Storage.set store.store next.key next.files.stored).1 with
    | ok value =>
      have grants := Recorded.grants_set_of_ok answered
      rw [asked, grants, if_pos (Nat.lt_succ_self _)]
      exact (faithful.granted [] next.key next.files.stored next.key answered).trans (if_pos rfl)
    | error error =>
      have grants := Recorded.grants_set_of_error answered
      rw [asked, grants, if_neg (Nat.lt_irrefl _), ← held]
      exact faithful.refused [] next.key next.files.stored next.key error answered

theorem holdsSaved_after {initial : Except StorageError (Option String)} {saved : Option FileSystem}
    {session : Session (Recorded σ)} (holds : HoldsSaved initial saved session)
    (operation : Operation) :
    HoldsSaved initial
      (if session.store.grants < (session.after operation).store.grants
        then some (session.after operation).files else saved)
      (session.after operation) := by
  have wrote := writesBack_after session operation
  rcases wrote.stored with ⟨-, same⟩ | asked
  · rw [same, if_neg (Nat.lt_irrefl _)]
    refine ⟨?_, ?_⟩
    · rw [same]
      exact holds.faithful
    · rw [same, wrote.key]
      exact holds.held
  · rw [← wrote.key] at asked
    refine holdsSaved_set holds.faithful ?_ asked
    rw [wrote.key]
    exact holds.held

theorem holdsSaved_afterAll {initial : Except StorageError (Option String)}
    {saved : Option FileSystem} {session : Session (Recorded σ)}
    (holds : HoldsSaved initial saved session) (operations : List Operation) :
    HoldsSaved initial (session.savedBy saved operations) (session.afterAll operations) := by
  induction operations generalizing saved session with
  | nil => exact holds
  | cons operation rest ih => exact ih (holdsSaved_after holds operation)

/-- A session that starts has saved what it made, or has left the store as it was. -/
theorem holdsSaved_start {store : σ} (faithful : Storage.Faithful store) (now : Instant)
    (options : SessionOptions) :
    let first := start now options (Recorded.begin store)
    HoldsSaved (Storage.get store first.key)
      (if 0 < first.store.grants then some first.files else none) first := by
  intro first
  rcases (settled_start now options (Recorded.begin store)).2 with ⟨same, -⟩ | asked
  · have none : first.store.grants = 0 := congrArg Recorded.grants same
    rw [none, if_neg (Nat.lt_irrefl _)]
    refine ⟨?_, ?_⟩
    · exact (congrArg Recorded.store same).symm ▸ faithful
    · exact congrArg (Storage.get · first.key) same
  · have held : Storage.get (Recorded.begin store) first.key =
        textOf (Storage.get store first.key) none := rfl
    exact holdsSaved_set faithful held asked

/-! ## Two runs -/

/-- Two sessions start on the same file system, in the same directory, over any two stores; whatever
    the second store refuses to set, it leaves as it was. Then after any operations both show the same,
    answer the next one alike, and have asked their stores equally often. Under the key of the second
    one stands the whole file system of the last moment that was saved, or what stood there before if
    none was; so each save that is granted leaves what the session shows just then. -/
theorem failed_saves_stay_unseen {steady : σ} {failing : τ} (faithful : Storage.Faithful failing)
    {options options' : SessionOptions} {now : Instant}
    (loaded : (load failing (options'.key.getD defaultKey)).1 =
      (load steady (options.key.getD defaultKey)).1)
    (cwd : (start now options' failing).cwd = (start now options steady).cwd)
    (operations : List Operation) :
    let left := (start now options (Recorded.begin steady)).afterAll operations
    let first := start now options' (Recorded.begin failing)
    let right := first.afterAll operations
    SameView left right ∧
      (∀ operation, (right.perform operation).1 = (left.perform operation).1) ∧
      right.store.requests.length = left.store.requests.length ∧
      Storage.get right.store right.key =
        textOf (Storage.get failing first.key) (first.lastSaved? operations) ∧
      ∀ operation, right.store.grants < (right.after operation).store.grants →
        Storage.get (right.after operation).store (right.after operation).key =
          .ok (some (right.after operation).files.stored) := by
  intro left first right
  have inStep : InStep left right := inStep_afterAll (inStep_start loaded cwd) operations
  have holds := holdsSaved_afterAll (holdsSaved_start faithful now options') operations
  refine ⟨inStep.view, ?_, inStep.asked, holds.held, ?_⟩
  · intro operation
    exact (perform_alike inStep.view operation).1
  · intro operation granted
    have next := holdsSaved_after holds operation
    rw [if_pos granted] at next
    exact next.held

/-- A store that refuses every other setting, the first one included, holds the first directory that
    was made and not the second. -/
theorem first_directory_saved :
    let clock : Clock := ⟨.epoch, ⟨0, 0, 0, 0⟩⟩
    let options : SessionOptions := ⟨none, none⟩
    let steady : MemoryStore := ⟨.empty⟩
    let failing : UnreliableStore := ⟨.empty, 0, false, fun save => save % 2 = 0⟩
    let first := start .epoch options (Recorded.begin failing)
    let made := first.afterAll [.execute clock "mkdir a"]
    let right := first.afterAll [.execute clock "mkdir a", .execute clock "mkdir b"]
    Storage.Faithful failing ∧
      (load failing (options.key.getD defaultKey)).1 = (load steady (options.key.getD defaultKey)).1 ∧
      (start .epoch options failing).cwd = (start .epoch options steady).cwd ∧
      Storage.get right.store right.key = .ok (some made.files.stored) ∧
      right.files ≠ made.files ∧ right.store.requests.length = 3 := by
  intro clock options steady failing
  have faithful : Storage.Faithful failing := UnreliableStore.faithful rfl
  have loaded : (load failing (options.key.getD defaultKey)).1 =
      (load steady (options.key.getD defaultKey)).1 := rfl
  have cwd : (start .epoch options failing).cwd = (start .epoch options steady).cwd := by decide
  have saved : (start .epoch options (Recorded.begin failing)).lastSaved?
      [.execute clock "mkdir a", .execute clock "mkdir b"] =
      some ((start .epoch options (Recorded.begin failing)).afterAll
        [.execute clock "mkdir a"]).files := by decide +kernel
  obtain ⟨-, -, -, held, -⟩ := failed_saves_stay_unseen faithful loaded cwd
    [.execute clock "mkdir a", .execute clock "mkdir b"]
  rw [saved] at held
  exact ⟨faithful, loaded, cwd, held, by decide +kernel, by decide +kernel⟩

end Session
end PathShell
