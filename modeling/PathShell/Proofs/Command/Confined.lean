import PathShell.Command
import PathShell.Proofs.FileSystem.Confined

/-!
# What commands look at

The names that commands are given stand for entries of the working directory, and a listing is one of
that directory. So all commands but the one that changes the directory are confined to what lies below
it: nothing else in the file system shows in their answers or in what they leave there.
-/

namespace PathShell
namespace Command

open Edit

variable {inside : String → Bool} {cwd : String}

theorem confined_argument (arguments : List String) (position : Nat) (request : String) :
    (argument arguments position request).Confined inside := by
  rw [argument]
  split
  · exact confined_pure _
  · exact confined_throw _

theorem confined_calculate (arguments : List String) : (calculate arguments).Confined inside := by
  unfold calculate
  dsimp only
  split
  · exact confined_pure _
  · exact confined_throw _

theorem confined_forecast (arguments : List String) : (forecast arguments).Confined inside := by
  rw [forecast]
  split
  · exact confined_throw _
  · exact confined_pure _

/-! ## Names in the working directory -/

theorem isBelow_join (cwd name : String) : Path.isBelow cwd (Path.join cwd name) :=
  Path.isBelow_of_begins_join (Path.begins_refl (Path.join cwd name))

theorem confined_reporting_read (report name : String) :
    (reporting report (.ask (·.read (Path.join cwd name)))).Confined (Path.isBelow cwd) :=
  (confined_ask_read (isBelow_join cwd name)).adaptExcept _

theorem confined_showFile (arguments : List String) (cwd : String) :
    (showFile arguments cwd).Confined (Path.isBelow cwd) := by
  refine (confined_argument _ _ _).bind fun name => ?_
  exact (confined_reporting_read _ _).bind fun content => confined_pure _

theorem confined_openEditor (arguments : List String) (cwd : String) :
    (openEditor arguments cwd).Confined (Path.isBelow cwd) := by
  refine (confined_argument _ _ _).bind fun name => ?_
  exact (confined_reporting_read _ _).bind fun content => confined_pure _

theorem confined_search (arguments : List String) (cwd : String) :
    (search arguments cwd).Confined (Path.isBelow cwd) := by
  refine (confined_argument _ _ _).bind fun pattern => (confined_argument _ _ _).bind fun name => ?_
  exact (confined_reporting_read _ _).bind fun content => confined_pure _

theorem confined_makeDirectory (arguments : List String) (cwd : String) :
    (makeDirectory arguments cwd).Confined (Path.isBelow cwd) := by
  refine (confined_argument _ _ _).bind fun name => ?_
  have made := Edit.confined_makeDirectory (isBelow_join cwd name)
  exact (made.adaptExcept _).bind fun _ => confined_pure _

theorem confined_remove (arguments : List String) (cwd : String) :
    (remove arguments cwd).Confined (Path.isBelow cwd) := by
  refine (confined_argument _ _ _).bind fun name => ?_
  have removed : (Edit.remove (Path.join cwd name)).Confined (Path.isBelow cwd) :=
    Edit.confined_remove fun _ => Path.isBelow_of_begins_join
  exact (removed.adaptExcept _).bind fun _ => confined_pure _

theorem confined_createFile (now : Instant) (arguments : List String) (cwd : String) :
    (createFile now arguments cwd).Confined (Path.isBelow cwd) := by
  refine (confined_argument _ _ _).bind fun name => ?_
  exact (confined_insert (isBelow_join cwd name) _).bind fun _ => confined_pure _

theorem confined_transfer {operation : String → String → Edit FileError Unit}
    (confined : ∀ source target,
      (operation (Path.join cwd source) (Path.join cwd target)).Confined (Path.isBelow cwd))
    (done : String) (arguments : List String) :
    (transfer operation done arguments cwd).Confined (Path.isBelow cwd) := by
  refine (confined_argument _ _ _).bind fun source => (confined_argument _ _ _).bind fun target => ?_
  exact ((confined source target).adaptExcept _).bind fun _ => confined_pure _

theorem confined_listing (cwd : String) :
    Confined (Path.isBelow cwd) (do return .printing (.listing ((← get).list cwd)) : Action) := by
  refine confined_get_bind (fun left right same => ?_) fun fs => confined_pure _
  rw [FileSystem.list_eq_filterMap_part, FileSystem.list_eq_filterMap_part, same]

/-! ## All commands but one -/

theorem confined_action (now : Instant) {command : Command} (stays : command ≠ .cd)
    (arguments : List String) (cwd : String) :
    (command.action now arguments cwd).Confined (Path.isBelow cwd) := by
  cases command with
  | «calc» => exact confined_calculate arguments
  | cat => exact confined_showFile arguments cwd
  | cd => contradiction
  | clear => exact confined_pure _
  | cp =>
    refine confined_transfer (fun source target => ?_) "Copied" arguments
    exact confined_copy (fun _ => Path.isBelow_of_begins_join) fun _ => Path.isBelow_of_begins_join
  | echo => exact confined_pure _
  | edit => exact confined_openEditor arguments cwd
  | grep => exact confined_search arguments cwd
  | help => exact confined_pure _
  | ls => exact confined_listing cwd
  | mkdir => exact confined_makeDirectory arguments cwd
  | mv =>
    refine confined_transfer (fun source target => ?_) "Moved" arguments
    exact confined_move (fun _ => Path.isBelow_of_begins_join) fun _ => Path.isBelow_of_begins_join
  | rm => exact confined_remove arguments cwd
  | touch => exact confined_createFile now arguments cwd
  | weather => exact confined_forecast arguments

/-- Two file systems hold the same entries below the working directory, in the same order, whatever else
    they hold. Then every command but `cd` gives the same answer on both, a reply with all its parts or
    a failure with its cause, and leaves the same entries below the working directory. -/
theorem run_sees_below (now : Instant) {command : Command} (stays : command ≠ .cd)
    (arguments : List String) {cwd : String} {left right : FileSystem}
    (same : left.part (Path.isBelow cwd) = right.part (Path.isBelow cwd)) :
    (command.run now arguments cwd left).answer = (command.run now arguments cwd right).answer ∧
      (command.run now arguments cwd left).files.part (Path.isBelow cwd) =
        (command.run now arguments cwd right).files.part (Path.isBelow cwd) := by
  have ran := confined_action now stays arguments cwd left right same
  rw [run, run]
  generalize (command.action now arguments cwd).run left = leftRan at ran ⊢
  generalize (command.action now arguments cwd).run right = rightRan at ran ⊢
  cases ran with
  | ok reply after => exact ⟨rfl, after⟩
  | error error after => exact ⟨rfl, after⟩

/-- A directory is moved over a file, in a whole file system and in one that holds nothing else. -/
theorem run_sees_below_home :
    let note : Node := .file ⟨"milk", .epoch⟩
    let left := ((FileSystem.seeded .epoch).insert "/home/user/list" note).insert "/etc" .directory
    let right : FileSystem :=
      ((⟨.empty⟩ : FileSystem).insert "/home/user/documents" .directory).insert
        "/home/user/documents/notes.txt" (.file ⟨FileSystem.sampleNote, .epoch⟩) |>.insert
        "/home/user/list" note
    let inside := Path.isBelow "/home/user"
    let arguments := ["documents", "list"]
    left ≠ right ∧ Command.mv ≠ .cd ∧ left.part inside = right.part inside ∧
      (Command.mv.run .epoch arguments "/home/user" left).answer =
        (Command.mv.run .epoch arguments "/home/user" right).answer ∧
      (Command.mv.run .epoch arguments "/home/user" left).files.part inside =
        (Command.mv.run .epoch arguments "/home/user" right).files.part inside := by
  intro note left right inside arguments
  have stays : Command.mv ≠ .cd := by decide
  have same : left.part inside = right.part inside := by decide +kernel
  obtain ⟨answer, files⟩ := run_sees_below .epoch stays arguments same
  exact ⟨by decide +kernel, stays, same, answer, files⟩

end Command
end PathShell
