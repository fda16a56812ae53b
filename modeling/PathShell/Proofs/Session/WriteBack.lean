import PathShell.Program
import PathShell.Proofs.Session.Start
import PathShell.Proofs.Storage.StateFile

/-!
# Writing back

Sessions follow one another over one store, on this key or that. Every step either leaves what the
session shows and what is stored, or stores what the session now shows; so under every key stands what
the last session on it was showing, and the next one resumes it.
-/

namespace PathShell

/-! ## Stores of the program -/

instance : LawfulStorage Backend where
  get_set store key value other wrote := by
    cases store with
    | memory store => exact LawfulStorage.get_set store key value other wrote
    | file file => exact LawfulStorage.get_set file key value other wrote

namespace Backend

theorem neverFails_file {file : StateFile} (reliable : Storage.NeverFails file) :
    Storage.NeverFails (Backend.file file) :=
  Storage.neverFails_lift Backend.file (fun _ _ _ => rfl) (fun _ _ => rfl) reliable

theorem neverFails_memory (store : MemoryStore) : Storage.NeverFails (Backend.memory store) :=
  Storage.neverFails_lift Backend.memory (fun _ _ _ => rfl) (fun _ _ => rfl) store.neverFails

end Backend

namespace Session

variable {σ : Type} [Storage σ]

/-! ## Loading -/

theorem load_congr {before after : σ} {key : String}
    (same : Storage.get after key = Storage.get before key) : load after key = load before key := by
  rw [load, load, same]

theorem load_of_get {store : σ} {key : String} {files : FileSystem}
    (held : Storage.get store key = .ok (some files.stored)) (rooted : files.contains "/") :
    (load store key).1 = some files := by
  have read := files.ofStored?_stored
  rw [FileSystem.ensureRoot_of_contains rooted] at read
  simp [load, held, read]

/-! ## Operations -/

/-- The key and the root stay, and what has changed has been written back. -/
structure WritesBack (before after : Session σ) : Prop where
  key : after.key = before.key
  rooted : before.files.contains "/" → after.files.contains "/"
  stored : (after.files = before.files ∧ after.store = before.store) ∨
    after.store = (Storage.set before.store before.key after.files.stored).2

theorem writesBack_of_same {before after : Session σ} (key : after.key = before.key)
    (files : after.files = before.files) (store : after.store = before.store) :
    WritesBack before after :=
  ⟨key, fun rooted => files ▸ rooted, .inl ⟨files, store⟩⟩

theorem writesBack_of_sameState {before after : Session σ} (same : SameState before after) :
    WritesBack before after :=
  writesBack_of_same same.key same.files same.store

theorem writesBack_dispatch (session : Session σ) (clock : Clock) (line : String)
    (command : Command) {arguments : List String} (named : ∀ name ∈ arguments, name ≠ "") :
    WritesBack session (session.dispatch clock line command arguments) := by
  cases answered : (command.run clock.stamp arguments session.cwd session.files).answer with
  | error error => exact writesBack_of_sameState (dispatch_of_error answered)
  | ok reply =>
    obtain ⟨files, -, key, store⟩ := dispatch_of_ok line answered
    have root := get?_of_run clock.stamp command session.files named
      (Path.not_strictlyBelow_root session.cwd)
    refine ⟨key, fun rooted => ?_, ?_⟩
    · rw [files]
      exact FileSystem.contains_of_get? rooted root
    · cases changed : reply.changed with
      | true =>
        rw [changed, if_pos rfl] at store
        exact .inr (files ▸ store)
      | false =>
        rw [changed, if_neg (by decide)] at store
        exact .inl ⟨files.trans (Command.files_of_unchanged answered changed), store⟩

theorem writesBack_saveEditor (session : Session σ) (now : Instant) (path content : String) :
    WritesBack session (session.saveEditor now path content).2 := by
  rcases saveEditor_cases session now path content with same | ⟨file, -, files, -, key, store⟩
  · exact writesBack_of_sameState same
  · refine ⟨key, fun rooted => ?_, .inr store⟩
    rw [files]
    exact FileSystem.contains_insert rooted path _

/-- Every operation writes back what it changes. -/
theorem writesBack_after (session : Session σ) (operation : Operation) :
    WritesBack session (session.after operation) := by
  cases operation with
  | execute clock line =>
    change WritesBack session (session.execute clock line).2
    rcases execute_cases session clock line with same | ⟨command, arguments, named, ran⟩
    · exact writesBack_of_sameState same
    · rw [ran]
      exact writesBack_dispatch session clock _ command named
  | openEditor path =>
    obtain ⟨files, -, key, store⟩ := openEditor_frame session path
    exact writesBack_of_same key files store
  | setDraft draft =>
    change WritesBack session (session.setDraft draft).2
    rw [setDraft]
    split
    · exact writesBack_of_same rfl rfl rfl
    · exact writesBack_of_same rfl rfl rfl
  | saveEditor now path content => exact writesBack_saveEditor session now path content
  | commitDraft now =>
    change WritesBack session (session.commitDraft now).2
    rcases commitDraft_cases session now with same | ⟨path, draft, saved⟩
    · exact writesBack_of_sameState same
    · rw [saved]
      exact writesBack_saveEditor session now path draft
  | cancelEditor => exact writesBack_of_same rfl rfl rfl

/-! ## What is stored after a step -/

/-- The store is left where it holds what the session shows, or has just been given it. -/
def Settled (store : σ) (session : Session σ) : Prop :=
  (session.store = store ∧ (load store session.key).1 = some session.files) ∨
    session.store = (Storage.set store session.key session.files.stored).2

/-- A settled session finds what it shows under its key, and nothing else has changed. -/
theorem load_of_settled [LawfulStorage σ] {store : σ} {session : Session σ}
    (reliable : Storage.NeverFails store) (rooted : session.files.contains "/")
    (settled : Settled store session) :
    (load session.store session.key).1 = some session.files ∧
      (∀ key, key ≠ session.key → load session.store key = load store key) ∧
      Storage.NeverFails session.store := by
  rcases settled with ⟨same, held⟩ | given
  · rw [same]
    exact ⟨held, fun _ _ => rfl, reliable⟩
  · have found (other : String) := LawfulStorage.get_set store session.key session.files.stored other
      (reliable.set [] session.key session.files.stored)
    rw [given]
    refine ⟨load_of_get ?_ rooted, fun key other => load_congr ?_, Storage.neverFails_set reliable _ _⟩
    · rw [found, if_pos rfl]
    · rw [found, if_neg other]

/-! ## Starting -/

/-- A session that starts resumes what is stored under its key, or writes back what it makes. -/
theorem settled_start (now : Instant) (options : SessionOptions) (store : σ) :
    (start now options store).files.contains "/" ∧ Settled store (start now options store) := by
  rw [Settled, key_start]
  cases held : (load store (options.key.getD defaultKey)).1 with
  | none =>
    have made : (start now options store).files = .seeded now := by simp [start, held]
    rw [made]
    exact ⟨FileSystem.contains_seeded now, .inr (by simp [start, held])⟩
  | some files =>
    rw [files_start held now]
    exact ⟨(of_load held).2, .inl ⟨by simp [start, held], rfl⟩⟩

/-! ## Runs -/

/-- What can come next: an operation of the session that stands, or another session. -/
inductive Step where
  | operate (operation : Operation)
  | restart (now : Instant) (options : SessionOptions)

/-- The session after one step. -/
def next (session : Session σ) : Step → Session σ
  | .operate operation => session.after operation
  | .restart now options => start now options session.store

/-- Sessions on one store: the one that stands, and how it and the ones before it stood after each
    step so far, the latest first. -/
structure Run (σ : Type) where
  current : Session σ
  earlier : List (Session σ)

namespace Run

/-- The first session starts. -/
def begin (now : Instant) (options : SessionOptions) (store : σ) : Run σ :=
  ⟨start now options store, []⟩

def next (run : Run σ) (step : Step) : Run σ := ⟨run.current.next step, run.current :: run.earlier⟩

/-- The run after steps in turn. -/
def after (run : Run σ) (steps : List Step) : Run σ := steps.foldl next run

/-- The last session on a key, as it stood at last. -/
def last? (run : Run σ) (key : String) : Option (Session σ) :=
  (run.current :: run.earlier).find? fun session => session.key = key

/-- Under every key stands what the last session on it was showing. -/
structure Complete (run : Run σ) : Prop where
  reliable : Storage.NeverFails run.current.store
  rooted : run.current.files.contains "/"
  held (key : String) (session : Session σ) (last : run.last? key = some session) :
    (load run.current.store key).1 = some session.files

omit [Storage σ] in
theorem last?_cons (current : Session σ) (earlier : List (Session σ)) (before : Session σ)
    (key : String) :
    last? ⟨current, before :: earlier⟩ key =
      if current.key = key then some current else last? ⟨before, earlier⟩ key := by
  rw [last?, List.find?_cons]
  split
  · next same => rw [if_pos (by simpa using same)]
  · next other => rw [if_neg (by simpa using other)]; rfl

theorem complete_begin [LawfulStorage σ] {store : σ} (reliable : Storage.NeverFails store)
    (now : Instant) (options : SessionOptions) : (begin now options store).Complete := by
  obtain ⟨rooted, settled⟩ := settled_start now options store
  obtain ⟨held, -, still⟩ := load_of_settled reliable rooted settled
  refine ⟨still, rooted, fun key session last => ?_⟩
  have only := List.mem_of_find?_eq_some last
  have same : session = start now options store := by simpa [begin] using only
  have asked : session.key = key := by simpa using List.find?_some last
  subst same asked
  exact held

theorem complete_next [LawfulStorage σ] {run : Run σ} (complete : run.Complete) (step : Step) :
    (run.next step).Complete := by
  have current : (load run.current.store run.current.key).1 = some run.current.files :=
    complete.held run.current.key run.current (by simp [last?])
  have shown : (run.current.next step).files.contains "/" ∧
      Settled run.current.store (run.current.next step) := by
    cases step with
    | operate operation =>
      have wrote := writesBack_after run.current operation
      refine ⟨wrote.rooted complete.rooted, ?_⟩
      rcases wrote.stored with ⟨files, store⟩ | given
      · refine .inl ⟨store, ?_⟩
        rw [Session.next, wrote.key, files]
        exact current
      · refine .inr ?_
        rw [Session.next, wrote.key]
        exact given
    | restart now options => exact settled_start now options run.current.store
  obtain ⟨held, others, still⟩ := load_of_settled complete.reliable shown.1 shown.2
  refine ⟨still, shown.1, fun key session last => ?_⟩
  -- Under the key of the step stands what it shows; the others are as the run before it has them.
  rw [next, last?_cons] at last
  split at last
  · next same =>
    cases last
    subst same
    exact held
  · next other =>
    rw [next, others key (Ne.symm other)]
    exact complete.held key session last

theorem complete_after [LawfulStorage σ] {run : Run σ} (complete : run.Complete)
    (steps : List Step) : (run.after steps).Complete := by
  induction steps generalizing run with
  | nil => exact complete
  | cons step rest ih => exact ih (complete_next complete step)

/-- After any run over a store that never fails, in memory or in a file, what is stored under the key
    of the current session is what it shows, what is stored under any other key is what the last
    session on it showed at last, and a session that starts on a key resumes just that. -/
theorem resumes_after (store : Backend) (reliable : Storage.NeverFails store) (now : Instant)
    (options : SessionOptions) (steps : List Step) :
    let run := (begin now options store).after steps
    (load run.current.store run.current.key).1 = some run.current.files ∧
      ∀ key session, run.last? key = some session →
        (load run.current.store key).1 = some session.files ∧
          ∀ now options, options.key.getD defaultKey = key →
            (start now options run.current.store).files = session.files := by
  intro run
  have complete : run.Complete := complete_after (complete_begin reliable now options) steps
  refine ⟨complete.held run.current.key run.current (by simp [last?]), ?_⟩
  intro key session last
  have held := complete.held key session last
  refine ⟨held, fun now options asked => ?_⟩
  exact files_start (asked ▸ held) now

/-- A file that is not there yet, in the directory that the program runs in. -/
private theorem neverFails_missing :
    Storage.NeverFails (Backend.file ⟨"state.json", .empty⟩) :=
  Backend.neverFails_file (StateFile.neverFails_of_ready StateFile.ready_missing)

/-- A session that has made a directory is resumed after another one on another key, where its store is
    a file that was not there and where it is memory. -/
theorem resumes_in_file_and_memory :
    let resumes (store : Backend) : Prop :=
      let first := begin .epoch ⟨none, none⟩ store
      let made := first.current.after (.execute ⟨.epoch, ⟨0, 0, 0, 0⟩⟩ "mkdir papers")
      let run := first.after [.operate (.execute ⟨.epoch, ⟨0, 0, 0, 0⟩⟩ "mkdir papers"),
        .restart .epoch ⟨some "/", some "other"⟩]
      Storage.NeverFails store ∧ run.last? defaultKey = some made ∧
        (start .epoch ⟨none, none⟩ run.current.store).files = made.files
    resumes (.file ⟨"state.json", .empty⟩) ∧ resumes (.memory ⟨.empty⟩) := by
  intro resumes
  have resumed {store : Backend} (reliable : Storage.NeverFails store) : resumes store := by
    unfold resumes
    intro first made run
    have key : made.key = defaultKey :=
      (writesBack_after first.current _).key.trans (key_start .epoch ⟨none, none⟩ store)
    have other : run.current.key = "other" := key_start .epoch ⟨some "/", some "other"⟩ made.store
    have last : run.last? defaultKey = some made := by
      change last? ⟨run.current, [made, first.current]⟩ defaultKey = some made
      rw [last?_cons, if_neg (by rw [other]; decide)]
      simp [last?, key]
    have held := (resumes_after store reliable .epoch ⟨none, none⟩
      [.operate (.execute ⟨.epoch, ⟨0, 0, 0, 0⟩⟩ "mkdir papers"),
        .restart .epoch ⟨some "/", some "other"⟩]).2 defaultKey made last
    exact ⟨reliable, last, held.2 .epoch ⟨none, none⟩ rfl⟩
  exact ⟨resumed neverFails_missing, resumed (Backend.neverFails_memory ⟨.empty⟩)⟩

end Run
end Session
end PathShell
