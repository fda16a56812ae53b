import PathShell.Proofs.Session.Lockstep
import PathShell.Proofs.Session.WriteBack

/-!
# Sessions over a file that cannot be read

A state file that is no map of texts is not replaced by one: every session over it starts on a new file
system and serves its run from memory, while the disk stays as it was found.
-/

namespace PathShell
namespace Session

/-- The session after one step where nothing outlasts a session: each starts over a store in memory that
    is empty. -/
def nextInMemory (session : Session MemoryStore) : Step → Session MemoryStore
  | .operate operation => session.after operation
  | .restart now options => start now options ⟨.empty⟩

/-- The session after steps in turn where nothing outlasts a session. -/
def inMemory (now : Instant) (options : SessionOptions) (steps : List Step) : Session MemoryStore :=
  steps.foldl nextInMemory (start now options ⟨.empty⟩)

/-- The session stands on the file, and shows what one in memory does. -/
structure ServesAlone (file : StateFile) (memory : Session MemoryStore) (session : Session StateFile) :
    Prop where
  store : session.store = file
  view : SameView memory session

variable {file : StateFile}

theorem load_of_unreadable (unreadable : file.Unreadable) (key : String) :
    (load file key).1 = none := by
  obtain ⟨error, get, -⟩ := unreadable.refuses
  simp [load, get key]

theorem set_of_unreadable (unreadable : file.Unreadable) (key value : String) :
    (Storage.set file key value).2 = file := by
  obtain ⟨error, -, set⟩ := unreadable.refuses
  rw [set key value]

theorem files_start_of_unreadable (unreadable : file.Unreadable) (now : Instant)
    (options : SessionOptions) : (start now options file).files = .seeded now := by
  rw [(start_frame now options file).2.1, load_of_unreadable unreadable]
  rfl

theorem servesAlone_start (unreadable : file.Unreadable) (now : Instant) (options : SessionOptions) :
    ServesAlone file (start now options ⟨.empty⟩) (start now options file) := by
  have loaded : (load file (options.key.getD defaultKey)).1 =
      (load (⟨.empty⟩ : MemoryStore) (options.key.getD defaultKey)).1 :=
    load_of_unreadable unreadable _
  refine ⟨?_, sameView_start loaded ?_⟩
  · rcases (settled_start now options file).2 with ⟨same, -⟩ | asked
    · exact same
    · exact asked.trans (set_of_unreadable unreadable _ _)
  · rw [(start_frame now options file).2.2.2, loaded]
    exact (start_frame now options (⟨.empty⟩ : MemoryStore)).2.2.2.symm

theorem servesAlone_next (unreadable : file.Unreadable) {memory : Session MemoryStore}
    {session : Session StateFile} (serves : ServesAlone file memory session) (step : Step) :
    ServesAlone file (memory.nextInMemory step) (session.next step) := by
  cases step with
  | operate operation =>
    refine ⟨?_, (perform_alike serves.view operation).2.view⟩
    rcases (writesBack_after session operation).stored with ⟨-, same⟩ | asked
    · exact same.trans serves.store
    · rw [serves.store] at asked
      exact asked.trans (set_of_unreadable unreadable _ _)
  | restart now options =>
    rw [nextInMemory, next, serves.store]
    exact servesAlone_start unreadable now options

theorem servesAlone_after (unreadable : file.Unreadable) {memory : Session MemoryStore}
    {run : Run StateFile} (serves : ServesAlone file memory run.current) (steps : List Step) :
    ServesAlone file (steps.foldl nextInMemory memory) (run.after steps).current := by
  induction steps generalizing memory run with
  | nil => exact serves
  | cons step rest ih => exact ih (servesAlone_next unreadable serves step)

/-- Whatever sessions do over a file that cannot be read as a map, and whatever keys they start on, the
    file and the whole disk stay as they were, and everything that is read or set is refused. The
    sessions serve the run all the same: each starts on a new file system, shows what it would show
    over an empty store in memory, and answers every operation as it would there. -/
theorem unreadable_file_stays (unreadable : file.Unreadable) (now : Instant)
    (options : SessionOptions) (steps : List Step) :
    let run := (Run.begin now options file).after steps
    run.current.store = file ∧
      (∃ error, (∀ key, Storage.get run.current.store key = .error error) ∧
        ∀ key value, (Storage.set run.current.store key value).1 = .error error) ∧
      SameView (inMemory now options steps) run.current ∧
      (∀ operation, (run.current.perform operation).1 =
        ((inMemory now options steps).perform operation).1) ∧
      ∀ now options, (start now options run.current.store).files = .seeded now := by
  intro run
  have begun : ServesAlone file (start now options ⟨.empty⟩) (Run.begin now options file).current :=
    servesAlone_start unreadable now options
  have serves : ServesAlone file (inMemory now options steps) run.current :=
    servesAlone_after unreadable begun steps
  obtain ⟨error, get, set⟩ := unreadable.refuses
  refine ⟨serves.store, ⟨error, ?_, ?_⟩, serves.view, ?_, ?_⟩
  · intro key
    rw [serves.store]
    exact get key
  · intro key value
    rw [serves.store, set key value]
  · intro operation
    exact (perform_alike serves.view operation).1
  · intro now options
    rw [serves.store]
    exact files_start_of_unreadable unreadable now options

/-- A text that is no JSON stays where it is, whatever is made and edited, and on whatever key. -/
theorem plain_text_stays :
    let file : StateFile := ⟨"state.json", ⟨.ofList [("state.json", .text "not json")]⟩⟩
    let clock : Clock := ⟨.epoch, ⟨0, 0, 0, 0⟩⟩
    let steps : List Step := [.operate (.execute clock "mkdir papers"),
      .restart .epoch ⟨some "/", some "other"⟩, .operate (.execute clock "cd home"),
      .operate (.execute clock "touch letter"), .operate (.openEditor "/home/letter"),
      .operate (.saveEditor .epoch "/home/letter" "Dear all")]
    let session := ((Run.begin .epoch ⟨none, none⟩ file).after steps).current
    file.Unreadable ∧ session.store = file ∧
      session.files.get? "/home/letter" = some (.file ⟨"Dear all", .epoch⟩) := by
  intro file clock steps
  have unreadable : file.Unreadable := by
    refine .noMap "not json" (by decide +kernel) (fun blank => ?_) fun cells => ?_
    · exact absurd (blank 'n' (by decide)) (by decide)
    · have noJson : Json.read? "not json" = none := by decide +kernel
      rw [noJson]
      exact (Option.some_ne_none _).symm
  have stays := unreadable_file_stays unreadable .epoch ⟨none, none⟩ steps
  exact ⟨unreadable, stays.1, by decide +kernel⟩

end Session
end PathShell
