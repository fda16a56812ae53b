import PathShell.Program
import PathShell.Proofs.Session.Editor
import PathShell.Proofs.Session.History

/-!
# What a batch prints

A batch runs its lines one after the other, and each finds the editor closed, since what a line opens is
closed before the next one. What goes to standard output is told line by line: it depends on the line
and on the entry that this very line left in the history, and on no other entry.
-/

namespace PathShell

variable {σ : Type} [Storage σ]

/-- What a line that was accepted shows of itself. -/
inductive Shows (clock : Clock) (line : String) (before after : Session σ) : String → Prop where
  /-- A line that clears the history empties the screen and puts the cursor at its top. -/
  | clearing (clearing : isClearing line) : Shows clock line before after "\x1b[2J\x1b[H"
  | void (void : isVoid line) : Shows clock line before after ""
  /-- Of any other line there is the text of its entry, with a newline unless it is empty. -/
  | entry (output : Output) (other : isClearing line = false) (filled : isVoid line = false)
      (recorded : after.history = before.history ++ [⟨Text.trim line, output, clock.wall⟩]) :
    Shows clock line before after (if output.display = "" then "" else output.display ++ "\n")

/-- What a batch makes of its lines, each at its time, and what each of them shows. -/
inductive Transcript : Session σ → List (Clock × String) → List String → Session σ → Prop where
  | nil {session : Session σ} (closed : session.editor = .closed) : Transcript session [] [] session
  /-- The line finds the editor closed and is accepted. If it opens the editor, that is closed again, and
      no line that asks for it changes a file. -/
  | cons {session after last : Session σ} {clock : Clock} {line shown : String}
      {rest : List (Clock × String)} {texts : List String}
      (closed : session.editor = .closed) (ran : session.execute clock line = (.ok (), after))
      (shows : Shows clock line session after shown)
      (kept : (Text.words line).head? = some "edit" →
        after.withoutLog.cancelEditor.files = session.files)
      (next : Transcript after.withoutLog.cancelEditor rest texts last) :
    Transcript session ((clock, line) :: rest) (shown :: texts) last

/-! ## Standard output -/

namespace Program

theorem outText_append (first second : List Printed) :
    outText (first ++ second) = outText first ++ outText second := by
  rw [outText, List.map_append, String.join_append, outText, outText]

omit [Storage σ] in
/-- The log goes elsewhere. -/
theorem outText_events (session : Session σ) (now : Instant) : outText (session.events now) = "" := by
  rw [Session.events]
  induction session.log with
  | nil => rfl
  | cons event rest ih =>
    rw [List.map_cons, outText, List.map_cons, String.join_cons]
    exact ih

theorem outText_singleton (text : String) : outText [.out text] = text := by
  simp [outText, String.join_cons]

end Program

open Program

omit [Storage σ] in
/-- The new output is told from the length of the history and its count of clearings alone, but these
    tell what the line was. -/
theorem shows_newOutput {clock : Clock} {line : String} {before after : Session σ}
    (accepts : Session.Accepts clock line before after) :
    Shows clock line before after (outText (before.newOutput after)) := by
  rw [Session.newOutput]
  cases accepts with
  | void void same =>
    rw [if_neg (fun other => other same.clears), if_pos (congrArg List.length same.history)]
    exact .void void
  | clearing clearing history clears =>
    rw [if_pos (by omega), outText_singleton]
    exact .clearing clearing
  | entry output filled other history clears =>
    have longer : after.history.length ≠ before.history.length := by simp [history]
    have last : after.history.getLast? = some ⟨Text.trim line, output, clock.wall⟩ := by simp [history]
    have text : outText (if output.display.isEmpty then [] else [.out (output.display ++ "\n")]) =
        if output.display = "" then "" else output.display ++ "\n" := by
      by_cases empty : output.display = ""
      · simp [empty, outText]
      · simp [empty, outText_singleton]
    rw [if_neg (fun other => other clears), if_neg longer, last]
    dsimp only
    rw [text]
    exact .entry output other filled history

/-! ## Lines -/

namespace Session

/-- A line that asks for the editor changes no file, whether the editor opens or not. -/
theorem files_execute_edit {session : Session σ} (closed : session.editor = .closed) (clock : Clock)
    {line : String} (asks : (Text.words line).head? = some "edit") :
    (session.execute clock line).2.files = session.files := by
  obtain ⟨arguments, worded⟩ := List.head?_eq_some_iff.mp asks
  have dispatched := execute_eq_dispatch closed clock ((Text.words_trim line).trans worded)
    (by decide : Registry.builtin.find? "edit" = some .edit)
  rw [dispatched, files_dispatch, Command.files_run]
  exact Command.reads_openEditor arguments session.cwd session.files

end Session

namespace Batch

/-- A line that finds the editor closed is accepted, prints its new output after what it logs, and leaves
    the editor closed. -/
theorem line_of_closed {session : Session σ} (closed : session.editor = .closed) (clock : Clock)
    (text : String) : ∃ after, session.execute clock text = (.ok (), after) ∧
      line clock false session text =
        (after.events clock.now ++ session.newOutput after, after.withoutLog.cancelEditor) := by
  obtain ⟨after, ran, -⟩ := Session.execute_of_closed closed clock text
  refine ⟨after, ran, ?_⟩
  simp only [line, ran]
  rfl

/-- What lines print on standard output is what each of them shows, in their order. -/
theorem transcript_lines {session : Session σ} (closed : session.editor = .closed)
    (texts : List (Clock × String)) :
    ∃ shown, Transcript session texts shown (lines false session texts).2 ∧
      outText (lines false session texts).1 = String.join shown := by
  induction texts generalizing session with
  | nil => exact ⟨[], .nil closed, rfl⟩
  | cons first rest ih =>
    obtain ⟨clock, text⟩ := first
    obtain ⟨after, ran, printed⟩ := line_of_closed closed clock text
    have shut : after.withoutLog.cancelEditor.editor = .closed := rfl
    obtain ⟨shown, transcript, joined⟩ := ih shut
    have ended : after = (session.execute clock text).2 := (congrArg Prod.snd ran).symm
    have shows : Shows clock text session after (outText (session.newOutput after)) :=
      shows_newOutput (ended ▸ Session.accepts_execute closed clock text)
    have kept (asks : (Text.words text).head? = some "edit") :
        after.withoutLog.cancelEditor.files = session.files := by
      change after.files = session.files
      rw [ended, Session.files_execute_edit closed clock asks]
    refine ⟨outText (session.newOutput after) :: shown, ?_, ?_⟩
    · simp only [lines, printed]
      exact .cons closed ran shows kept transcript
    · simp only [lines, printed]
      rw [outText_append, outText_append, joined, outText_events, String.empty_append, String.join_cons]

/-- A batch whose session has its editor closed tells each of its lines once: none of them is refused, none
    finds the editor open or leaves it so, and what goes to standard output is, one after the other, what
    each of them shows of the entry that it left. -/
theorem prints_each_line {session : Session σ} (closed : session.editor = .closed)
    (texts : List (Clock × String)) :
    ∃ shown, Transcript session texts shown (run false session texts).2 ∧
      outText (run false session texts).1 = String.join shown :=
  transcript_lines closed texts

/-- A note that cannot be opened, one that can, two clearings of which one finds nothing to clear, and
    lines that show nothing. -/
theorem prints_each_line_once :
    let session := Session.start .epoch ⟨none, none⟩ (⟨.empty⟩ : MemoryStore)
    let lines := ["clear", "echo a", "edit notes", "cd documents", "edit notes.txt", " ", "echo", "clear all",
      "echo a"]
    let texts := Program.timed (fun turn => ⟨.epoch, ⟨0, 0, turn, 0⟩⟩) lines
    let printed := run false session texts
    session.editor = .closed ∧
      outText printed.1 =
        "\x1b[2J\x1b[Ha\nFile not found\nChanged directory to /home/user/documents\n" ++
          "Opening editor...\n\x1b[2J\x1b[Ha\n" ∧
      ∃ shown, Transcript session texts shown printed.2 ∧ outText printed.1 = String.join shown := by
  intro session lines texts printed
  have closed : session.editor = .closed := by decide
  exact ⟨closed, by decide +kernel, prints_each_line closed texts⟩

end Batch

namespace Program

theorem editor_of_start {clock : Clock} {surroundings : Surroundings} {running : Running}
    (started : start clock surroundings = .ok running) : running.session.editor = .closed := by
  rw [start] at started
  split at started
  · cases started
  · split at started
    · cases started
    · cases started
      exact Session.editor_start ..

/-- So it is with a program that is given lines and not asked for JSON. -/
theorem run_prints_each_line {clock : Clock} {surroundings : Surroundings} {running : Running}
    (started : start clock surroundings = .ok running) (given : running.invocation.commands ≠ [])
    (plain : running.invocation.json = false) (input : List UInt8) (readings : Nat → Clock) :
    let texts := timed readings running.invocation.commands
    ∃ shown last, Transcript running.session.withoutLog texts shown last ∧
      (run clock surroundings input readings).exit.out = String.join shown := by
  intro texts
  have closed : running.session.withoutLog.editor = .closed := editor_of_start started
  obtain ⟨shown, transcript, joined⟩ := Batch.transcript_lines closed texts
  refine ⟨shown, _, transcript, ?_⟩
  have lined : running.invocation.commands.isEmpty = false := by simpa using given
  simp only [run, started, lined, plain, Batch.run, Bool.false_eq_true, if_false]
  rw [outText_append, joined, outText_events, String.empty_append]

end Program
end PathShell
