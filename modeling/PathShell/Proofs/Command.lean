import PathShell.Command
import PathShell.Proofs.FileSystem.Edit

/-!
# What commands do to the file system

A command that fails, or does not say that it changed something, leaves the file system as it was. What
it changes lies below its working directory, and what it asks of the session can be done.
-/

namespace PathShell

/-- The file system is as it was before, unless the reply says that it changed. -/
def Outcome.AllOrNothing (before : FileSystem) (outcome : Outcome) : Prop :=
  (∀ error, outcome.answer = .error error → outcome.files = before) ∧
  ∀ reply, outcome.answer = .ok reply → reply.changed = false → outcome.files = before

/-- What the reply asks of the session can be done: the directory is there, or the file. -/
def Reply.CanFollow (reply : Reply) (fs : FileSystem) : Prop :=
  match reply.effect with
  | some (.changeDirectory path) => fs.get? path = some .directory
  | some (.openEditor path) => ∃ file, fs.get? path = some (.file file)
  | some .clearHistory => True
  | none => True

namespace Command

open Edit

/-! ## Arguments and reports -/

theorem reads_argument (arguments : List String) (position : Nat) (request : String) :
    (argument arguments position request).Reads := by
  rw [argument]
  split
  · exact reads_pure _
  · exact reads_throw _

/-- An argument is one of the arguments. -/
theorem within_argument {β : Type} {inside : String → Bool} {arguments : List String}
    {position : Nat} {request : String} {next : String → Edit CommandError β}
    (second : ∀ value ∈ arguments, (next value).Within inside) :
    (argument arguments position request >>= next).Within inside := by
  intro fs
  rw [left_bind, argument]
  cases found : arguments[position]? with
  | some value => exact second value (List.mem_of_getElem? found) fs
  | none => rfl

theorem reads_reporting_ask {α : Type} (report : String)
    (question : FileSystem → Except FileError α) : (reporting report (.ask question)).Reads :=
  (reads_ask question).adaptExcept _

/-- What follows a question knows its answer. -/
theorem ensures_ask {α β : Type} {fits : β → FileSystem → Prop} (report : String)
    (question : FileSystem → Except FileError α) (value : α → β)
    (holds : ∀ fs answer, question fs = .ok answer → fits (value answer) fs) :
    Ensures fits (reporting report (.ask question) >>= fun answer => pure (value answer)) := by
  intro fs result after ran
  rw [EStateM.run_bind, reporting, EStateM.run_adaptExcept, run_ask] at ran
  cases asked : question fs with
  | error cause => simp only [asked] at ran; contradiction
  | ok answer =>
    simp only [asked] at ran
    cases ran
    exact holds fs answer asked

/-! ## Commands that only read -/

theorem reads_calculate (arguments : List String) : (calculate arguments).Reads := by
  unfold calculate
  dsimp only
  split
  · exact reads_pure _
  · exact reads_throw _

theorem reads_showFile (arguments : List String) (cwd : String) :
    (showFile arguments cwd).Reads :=
  (reads_argument _ _ _).bind fun _ => (reads_reporting_ask _ _).bind fun _ => reads_pure _

theorem reads_changeDirectory (arguments : List String) (cwd : String) :
    (changeDirectory arguments cwd).Reads :=
  (reads_argument _ _ _).bind fun _ => (reads_reporting_ask _ _).bind fun _ => reads_pure _

theorem reads_openEditor (arguments : List String) (cwd : String) :
    (openEditor arguments cwd).Reads :=
  (reads_argument _ _ _).bind fun _ => (reads_reporting_ask _ _).bind fun _ => reads_pure _

theorem reads_search (arguments : List String) (cwd : String) : (search arguments cwd).Reads :=
  (reads_argument _ _ _).bind fun _ => (reads_argument _ _ _).bind fun _ =>
    (reads_reporting_ask _ _).bind fun _ => reads_pure _

theorem reads_forecast (arguments : List String) : (forecast arguments).Reads := by
  rw [forecast]
  split
  · exact reads_throw _
  · exact reads_pure _

/-! ## Failing without a trace -/

/-- The action leaves everything as it was, unless it replies that it changed something. -/
def Honest (action : Action) : Prop :=
  action.Atomic ∧
  ∀ fs reply after, action.run fs = .ok reply after → reply.changed = false → after = fs

theorem honest_of_reads {action : Action} (reads : action.Reads) : Honest action :=
  ⟨reads.atomic, fun fs _ _ ran _ => (left_of_run ran).symm.trans (reads fs)⟩

/-- An action that always replies that it changed something has to be atomic. -/
theorem honest_of_changing {action : Action} (atomic : action.Atomic)
    (changing : action.Ensures fun reply _ => reply.changed = true) : Honest action := by
  refine ⟨atomic, fun fs reply after ran unchanged => ?_⟩
  have changed : reply.changed = true := changing fs reply after ran
  rw [unchanged] at changed
  contradiction

theorem honest_makeDirectory (arguments : List String) (cwd : String) :
    Honest (makeDirectory arguments cwd) := by
  refine honest_of_changing ?_ ?_
  · exact (reads_argument _ _ _).bind_atomic fun _ =>
      ((atomic_makeDirectory _).adaptExcept _).bind_succeeds fun _ => succeeds_pure _
  · exact Ensures.bind fun _ => Ensures.bind fun _ => ensures_pure fun _ => rfl

theorem honest_transfer {operation : String → String → Edit FileError Unit}
    (atomic : ∀ source target, (operation source target).Atomic) (done : String)
    (arguments : List String) (cwd : String) : Honest (transfer operation done arguments cwd) := by
  refine honest_of_changing ?_ ?_
  · exact (reads_argument _ _ _).bind_atomic fun _ => (reads_argument _ _ _).bind_atomic fun _ =>
      ((atomic _ _).adaptExcept _).bind_succeeds fun _ => succeeds_pure _
  · exact Ensures.bind fun _ => Ensures.bind fun _ => Ensures.bind fun _ =>
      ensures_pure fun _ => rfl

theorem honest_remove (arguments : List String) (cwd : String) : Honest (remove arguments cwd) := by
  refine honest_of_changing ?_ ?_
  · exact (reads_argument _ _ _).bind_atomic fun _ =>
      ((atomic_remove _).adaptExcept _).bind_succeeds fun _ => succeeds_pure _
  · exact Ensures.bind fun _ => Ensures.bind fun _ => ensures_pure fun _ => rfl

theorem honest_createFile (now : Instant) (arguments : List String) (cwd : String) :
    Honest (createFile now arguments cwd) := by
  refine honest_of_changing ?_ ?_
  · exact (reads_argument _ _ _).bind_atomic fun _ =>
      ((succeeds_modify _).bind fun _ => succeeds_pure _).atomic
  · exact Ensures.bind fun _ => Ensures.bind fun _ => ensures_pure fun _ => rfl

theorem honest_action (now : Instant) (command : Command) (arguments : List String) (cwd : String) :
    Honest (command.action now arguments cwd) := by
  cases command with
  | «calc» => exact honest_of_reads (reads_calculate arguments)
  | cat => exact honest_of_reads (reads_showFile arguments cwd)
  | cd => exact honest_of_reads (reads_changeDirectory arguments cwd)
  | clear => exact honest_of_reads (reads_pure _)
  | cp => exact honest_transfer atomic_copy "Copied" arguments cwd
  | echo => exact honest_of_reads (reads_pure _)
  | edit => exact honest_of_reads (reads_openEditor arguments cwd)
  | grep => exact honest_of_reads (reads_search arguments cwd)
  | help => exact honest_of_reads (reads_pure _)
  | ls => exact honest_of_reads (reads_get.bind fun _ => reads_pure _)
  | mkdir => exact honest_makeDirectory arguments cwd
  | mv => exact honest_transfer atomic_move "Moved" arguments cwd
  | rm => exact honest_remove arguments cwd
  | touch => exact honest_createFile now arguments cwd
  | weather => exact honest_of_reads (reads_forecast arguments)

theorem files_of_error {now : Instant} {command : Command} {arguments : List String} {cwd : String}
    {fs : FileSystem} {error : CommandError}
    (failed : (command.run now arguments cwd fs).answer = .error error) :
    (command.run now arguments cwd fs).files = fs := by
  rw [run] at failed ⊢
  cases ran : (command.action now arguments cwd).run fs with
  | ok reply after => rw [ran] at failed; contradiction
  | error cause after => exact (honest_action now command arguments cwd).1 fs cause after ran

theorem files_of_unchanged {now : Instant} {command : Command} {arguments : List String}
    {cwd : String} {fs : FileSystem} {reply : Reply}
    (answered : (command.run now arguments cwd fs).answer = .ok reply)
    (unchanged : reply.changed = false) : (command.run now arguments cwd fs).files = fs := by
  rw [run] at answered ⊢
  cases ran : (command.action now arguments cwd).run fs with
  | ok value after =>
    rw [ran] at answered
    cases answered
    exact (honest_action now command arguments cwd).2 fs reply after ran unchanged
  | error error after => rw [ran] at answered; contradiction

/-- A command that fails, or replies that it changed nothing, leaves every entry with its path, its
    node and its place: nothing is ever half done. -/
theorem run_all_or_nothing (now : Instant) (command : Command) (arguments : List String)
    (cwd : String) (fs : FileSystem) : (command.run now arguments cwd fs).AllOrNothing fs :=
  ⟨fun _ failed => files_of_error failed,
    fun _ answered unchanged => files_of_unchanged answered unchanged⟩

/-! ## Staying below the working directory -/

/-- A command changes only what begins with the path of one of its arguments. -/
theorem within_action (now : Instant) (command : Command) {arguments : List String} {cwd : String}
    {inside : String → Bool}
    (covers : ∀ name ∈ arguments, ∀ key, Path.Begins (Path.join cwd name) key → inside key) :
    (command.action now arguments cwd).Within inside := by
  cases command with
  | «calc» => exact (reads_calculate arguments).within inside
  | cat => exact (reads_showFile arguments cwd).within inside
  | cd => exact (reads_changeDirectory arguments cwd).within inside
  | clear => exact (reads_pure _).within inside
  | cp =>
    exact within_argument fun source _ => within_argument fun target inTarget =>
      ((within_copy (covers target inTarget)).adaptExcept _).bind fun _ =>
        (reads_pure _).within inside
  | echo => exact (reads_pure _).within inside
  | edit => exact (reads_openEditor arguments cwd).within inside
  | grep => exact (reads_search arguments cwd).within inside
  | help => exact (reads_pure _).within inside
  | ls => exact (reads_get.bind fun _ => reads_pure _).within inside
  | mkdir =>
    exact within_argument fun name member =>
      ((within_makeDirectory (covers name member)).adaptExcept _).bind fun _ =>
        (reads_pure _).within inside
  | mv =>
    exact within_argument fun source inSource => within_argument fun target inTarget =>
      ((within_move (covers source inSource) (covers target inTarget)).adaptExcept _).bind fun _ =>
        (reads_pure _).within inside
  | rm =>
    exact within_argument fun name member =>
      ((within_remove (covers name member)).adaptExcept _).bind fun _ =>
        (reads_pure _).within inside
  | touch =>
    exact within_argument fun name member =>
      (within_touch now (covers name member)).bind fun _ => (reads_pure _).within inside
  | weather => exact (reads_forecast arguments).within inside

theorem files_run (now : Instant) (command : Command) (arguments : List String) (cwd : String)
    (fs : FileSystem) :
    (command.run now arguments cwd fs).files = (command.action now arguments cwd).left fs := by
  rw [run, left]
  cases (command.action now arguments cwd).run fs <;> rfl

/-- Whatever its arguments are called, a command leaves all that does not lie below its working
    directory. -/
theorem run_stays_below (now : Instant) (command : Command) (arguments : List String) (cwd : String)
    (fs : FileSystem) :
    FileSystem.SameOutside (Path.isBelow cwd) fs (command.run now arguments cwd fs).files := by
  have within : (command.action now arguments cwd).Within (Path.isBelow cwd) :=
    within_action now command fun _ _ _ begins => Path.isBelow_of_begins_join begins
  rw [files_run]
  exact FileSystem.sameOutside_of_outside (within fs)

/-! ## What a reply asks for -/

/-- Three commands ask something of the session, each its own thing. Every reply of the others prints
    something, and so do all replies but the one of `clear`. -/
theorem ensures_of_asking {fits : Reply → FileSystem → Prop} (now : Instant) (command : Command)
    (arguments : List String) (cwd : String)
    (quiet : ∀ reply fs, command ≠ .clear → reply.effect = none → reply.output.isSome → fits reply fs)
    (moves : command = .cd → (changeDirectory arguments cwd).Ensures fits)
    (clears : command = .clear → ∀ fs, fits (Reply.silent.requesting .clearHistory) fs)
    (opens : command = .edit → (openEditor arguments cwd).Ensures fits) :
    (command.action now arguments cwd).Ensures fits := by
  have plain (stays : command ≠ .clear) (reply : Reply) (asksNothing : reply.effect = none)
      (prints : reply.output.isSome) : Ensures fits (pure reply : Action) :=
    ensures_pure fun fs => quiet reply fs stays asksNothing prints
  cases command with
  | «calc» =>
    unfold action calculate
    dsimp only
    split
    · exact plain nofun _ rfl rfl
    · exact ensures_throw _
  | cat => exact Ensures.bind fun _ => Ensures.bind fun _ => plain nofun _ rfl rfl
  | cd => exact moves rfl
  | clear => exact ensures_pure (clears rfl)
  | cp =>
    exact Ensures.bind fun _ => Ensures.bind fun _ => Ensures.bind fun _ => plain nofun _ rfl rfl
  | echo => exact plain nofun _ rfl rfl
  | edit => exact opens rfl
  | grep =>
    exact Ensures.bind fun _ => Ensures.bind fun _ => Ensures.bind fun _ => plain nofun _ rfl rfl
  | help => exact plain nofun _ rfl rfl
  | ls => exact Ensures.bind fun _ => plain nofun _ rfl rfl
  | mkdir => exact Ensures.bind fun _ => Ensures.bind fun _ => plain nofun _ rfl rfl
  | mv =>
    exact Ensures.bind fun _ => Ensures.bind fun _ => Ensures.bind fun _ => plain nofun _ rfl rfl
  | rm => exact Ensures.bind fun _ => Ensures.bind fun _ => plain nofun _ rfl rfl
  | touch => exact Ensures.bind fun _ => Ensures.bind fun _ => plain nofun _ rfl rfl
  | weather =>
    unfold action forecast
    dsimp only
    split
    · exact ensures_throw _
    · exact plain nofun _ rfl rfl

theorem ensures_canFollow (now : Instant) (command : Command) (arguments : List String)
    (cwd : String) : (command.action now arguments cwd).Ensures Reply.CanFollow := by
  apply ensures_of_asking
  · intro reply fs _ asksNothing _
    simp [Reply.CanFollow, asksNothing]
  · intro _
    refine Ensures.bind fun target => ensures_ask _ _ _ fun fs answer held => ?_
    rw [FileSystem.requireDirectory] at held
    split at held
    · assumption
    · contradiction
    · contradiction
  · intro _ fs
    trivial
  · intro _
    refine Ensures.bind fun name => ensures_ask _ _ _ fun fs content held => ?_
    rw [FileSystem.read] at held
    split at held
    · next file found => exact ⟨file, found⟩
    · contradiction
    · contradiction

theorem ensures_askingUnchanged (now : Instant) (command : Command) (arguments : List String)
    (cwd : String) :
    (command.action now arguments cwd).Ensures fun reply _ =>
      reply.effect = none ∨ reply.changed = false := by
  apply ensures_of_asking
  · intro reply fs _ asksNothing _
    exact .inl asksNothing
  · intro _
    exact Ensures.bind fun target => ensures_ask _ _ _ fun _ _ _ => .inr rfl
  · intro _ fs
    exact .inr rfl
  · intro _
    exact Ensures.bind fun name => ensures_ask _ _ _ fun _ _ _ => .inr rfl

/-- All commands but `clear` print something where they succeed, and leave the history to grow. -/
theorem ensures_prints (now : Instant) {command : Command} (other : command ≠ .clear)
    (arguments : List String) (cwd : String) :
    (command.action now arguments cwd).Ensures fun reply _ =>
      reply.output.isSome ∧ reply.effect ≠ some .clearHistory := by
  apply ensures_of_asking
  · intro reply fs _ asksNothing prints
    exact ⟨prints, by simp [asksNothing]⟩
  · intro _
    exact Ensures.bind fun target => ensures_ask _ _ _ fun _ _ _ => ⟨rfl, nofun⟩
  · intro same
    contradiction
  · intro _
    exact Ensures.bind fun name => ensures_ask _ _ _ fun _ _ _ => ⟨rfl, nofun⟩

/-- What an action ensures holds of the reply, and of the file system that the command leaves. -/
theorem holds_of_run {fits : Reply → FileSystem → Prop} {now : Instant} {command : Command}
    {arguments : List String} {cwd : String} {fs : FileSystem} {reply : Reply}
    (ensures : (command.action now arguments cwd).Ensures fits)
    (answered : (command.run now arguments cwd fs).answer = .ok reply) :
    fits reply (command.run now arguments cwd fs).files := by
  rw [run] at answered ⊢
  cases ran : (command.action now arguments cwd).run fs with
  | ok value after =>
    rw [ran] at answered
    cases answered
    exact ensures fs reply after ran
  | error error after => rw [ran] at answered; contradiction

theorem canFollow_of_run {now : Instant} {command : Command} {arguments : List String}
    {cwd : String} {fs : FileSystem} {reply : Reply}
    (answered : (command.run now arguments cwd fs).answer = .ok reply) :
    reply.CanFollow (command.run now arguments cwd fs).files :=
  holds_of_run (ensures_canFollow now command arguments cwd) answered

/-- A command that asks something of the session has changed nothing. -/
theorem files_of_asking {now : Instant} {command : Command} {arguments : List String}
    {cwd : String} {fs : FileSystem} {reply : Reply} {effect : Effect}
    (answered : (command.run now arguments cwd fs).answer = .ok reply)
    (asks : reply.effect = some effect) : (command.run now arguments cwd fs).files = fs := by
  rcases holds_of_run (ensures_askingUnchanged now command arguments cwd) answered with nothing | same
  · rw [asks] at nothing
    contradiction
  · exact files_of_unchanged answered same

/-! ## Answers -/

section OneOperation

variable {α : Type} {now : Instant} {command : Command} {arguments : List String} {cwd : String}
  {wrap : FileError → CommandError} {edit : Edit FileError α} {reply : α → Reply}
  (acts : command.action now arguments cwd =
    edit.adaptExcept wrap >>= fun value => pure (reply value))

include acts

/-- A command that is one file operation replies to what the operation answers. -/
theorem run_of_ok {fs after : FileSystem} {value : α} (ran : edit.run fs = .ok value after) :
    command.run now arguments cwd fs = ⟨.ok (reply value), after⟩ := by
  rw [run, acts, EStateM.run_bind, EStateM.run_adaptExcept, ran]
  rfl

/-- It fails where the operation does. -/
theorem run_of_error {fs after : FileSystem} {cause : FileError}
    (failed : edit.run fs = .error cause after) :
    command.run now arguments cwd fs = ⟨.error (wrap cause), after⟩ := by
  rw [run, acts, EStateM.run_bind, EStateM.run_adaptExcept, failed]

/-- It leaves what the operation leaves. -/
theorem files_of_operation (fs : FileSystem) :
    (command.run now arguments cwd fs).files = edit.left fs := by
  cases ran : edit.run fs with
  | ok value after => rw [run_of_ok acts ran, left_of_run ran]
  | error cause after => rw [run_of_error acts ran, left_of_run_error ran]

end OneOperation

theorem edit_acts (now : Instant) (name : String) (rest : List String) (cwd : String) :
    Command.edit.action now (name :: rest) cwd =
      (ask (·.read (Path.join cwd name))).adaptExcept (.files "File not found") >>=
        fun _ => pure ((Reply.message "Opening editor...").requesting
          (.openEditor (Path.join cwd name))) := rfl

/-- The editor is asked for just if the file is there. -/
theorem run_edit (now : Instant) (name : String) (rest : List String) (cwd : String)
    (fs : FileSystem) :
    Command.edit.run now (name :: rest) cwd fs =
      match fs.read (Path.join cwd name) with
      | .ok _ => ⟨.ok ((Reply.message "Opening editor...").requesting
          (.openEditor (Path.join cwd name))), fs⟩
      | .error cause => ⟨.error (.files "File not found" cause), fs⟩ := by
  cases answer : fs.read (Path.join cwd name) with
  | ok content => exact run_of_ok (edit_acts now name rest cwd) (run_ask_of_ok answer)
  | error cause => exact run_of_error (edit_acts now name rest cwd) (run_ask_of_error answer)

/-- A directory is made just if its path is free. -/
theorem run_mkdir (now : Instant) (name : String) (rest : List String) (cwd : String)
    (fs : FileSystem) :
    Command.mkdir.run now (name :: rest) cwd fs =
      if fs.contains (Path.join cwd name) then
        ⟨.error (.files ("Error: " ++ name ++ " already exists") (.alreadyExists (Path.join cwd name))), fs⟩
      else
        ⟨.ok (Reply.message ("Created directory: " ++ name)).changing,
          fs.insert (Path.join cwd name) .directory⟩ := by
  have acts : Command.mkdir.action now (name :: rest) cwd =
      (Edit.makeDirectory (Path.join cwd name)).adaptExcept
          (.files ("Error: " ++ name ++ " already exists")) >>=
        fun _ => pure (Reply.message ("Created directory: " ++ name)).changing := rfl
  have ran := Edit.run_makeDirectory (Path.join cwd name) fs
  split at ran
  · next taken => rw [if_pos taken, run_of_error acts ran]
  · next free => rw [if_neg free, run_of_ok acts ran]

end Command
end PathShell
