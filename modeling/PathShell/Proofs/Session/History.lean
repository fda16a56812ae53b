import Mathlib.Data.List.DropRight
import PathShell.Proofs.Session.Lockstep
import PathShell.Proofs.Text.Blank

/-!
# The history

The history of a session shows what was submitted to it: the lines that came while its editor was
closed, since the last one of them that cleared it, in order, each without the blanks around it. Whether
a line is known, fails or succeeds makes no difference, and nothing but lines is recorded.
-/

namespace PathShell

/-- The line that an operation submits. -/
def Operation.line? : Operation → Option String
  | .execute _ line => some line
  | .openEditor _ => none
  | .setDraft _ => none
  | .saveEditor .. => none
  | .commitDraft _ => none
  | .cancelEditor => none

theorem Operation.eq_execute_of_line? {operation : Operation} {line : String}
    (submits : operation.line? = some line) : ∃ clock, operation = .execute clock line := by
  cases operation with
  | execute clock submitted =>
    cases submits
    exact ⟨clock, rfl⟩
  | openEditor => cases submits
  | setDraft => cases submits
  | saveEditor => cases submits
  | commitDraft => cases submits
  | cancelEditor => cases submits

/-- The line has no other characters than blanks. -/
def isVoid (line : String) : Bool := line.toList.all Text.isBlank

/-- The first word of the line is `clear`. -/
def isClearing (line : String) : Bool := (Text.words line).head? = some "clear"

/-- What a history shows of lines: those after the last one that clears it, but for void ones, trimmed. -/
def shownOf (lines : List String) : List String :=
  ((lines.rtakeWhile (!isClearing ·)).filter (!isVoid ·)).map Text.trim

/-- What a history shows after one line more. -/
def shownAfter (shown : List String) (line : String) : List String :=
  if isClearing line then [] else if isVoid line then shown else shown ++ [Text.trim line]

theorem foldl_shownAfter (lines : List String) : lines.foldl shownAfter [] = shownOf lines := by
  induction lines using List.reverseRecOn with
  | nil => rfl
  | append_singleton lines line ih =>
    rw [List.foldl_append, ih, List.foldl_cons, List.foldl_nil, shownAfter, shownOf, shownOf]
    by_cases clearing : isClearing line
    · rw [if_pos clearing, List.rtakeWhile_concat_neg _ _ _ (by simp [clearing])]
      rfl
    · rw [if_neg clearing, List.rtakeWhile_concat_pos _ _ _ (by simp [clearing]), List.filter_append,
        List.map_append]
      by_cases void : isVoid line
      · simp [void]
      · simp [void]

/-- A void line has no first word. -/
theorem isClearing_of_isVoid {line : String} (void : isVoid line) : isClearing line = false := by
  have none : Text.words line = [] := (Text.words_eq_nil_iff line).mpr void
  simp [isClearing, none]

namespace Session

variable {σ : Type} [Storage σ]

/-! ## What is recorded -/

/-- What the history shows of the lines that were submitted. -/
def shown (session : Session σ) : List String := session.history.map HistoryEntry.command

/-- The lines are recorded: the history shows them after what it showed before, and has been cleared
    once more for each one that clears it. -/
structure Records (before after : Session σ) (lines : List String) : Prop where
  shown : after.shown = lines.foldl shownAfter before.shown
  clears : after.clears = before.clears + lines.countP isClearing

/-- The sessions have the same history, cleared equally often. -/
structure SameRecord (before after : Session σ) : Prop where
  history : after.history = before.history
  clears : after.clears = before.clears

omit [Storage σ] in
theorem sameRecord_refl (session : Session σ) : SameRecord session session := ⟨rfl, rfl⟩

omit [Storage σ] in
theorem records_of_sameRecord {before after : Session σ} (same : SameRecord before after) :
    Records before after [] :=
  ⟨congrArg (List.map HistoryEntry.command) same.history, same.clears⟩

omit [Storage σ] in
theorem Records.append {first second third : Session σ} {lines later : List String}
    (before : Records first second lines) (after : Records second third later) :
    Records first third (lines ++ later) := by
  refine ⟨?_, ?_⟩
  · rw [List.foldl_append, ← before.shown, after.shown]
  · rw [List.countP_append, after.clears, before.clears, Nat.add_assoc]

/-! ## Commands -/

omit [Storage σ] in
theorem clears_follow {session : Session σ} {effect : Option Effect}
    (keeps : effect ≠ some .clearHistory) : (session.follow effect).clears = session.clears := by
  rcases effect with _ | path | _ | path
  · rfl
  · rfl
  · contradiction
  · simp only [follow, apply, openEditor]
    cases session.editor with
    | editing opened draft => rfl
    | closed => cases session.files.read path <;> rfl

theorem clears_settle {reply : Reply} (keeps : reply.effect ≠ some .clearHistory)
    (session : Session σ) (clock : Clock) (line : String) :
    (session.settle clock line reply).clears = session.clears := by
  have noted (session : Session σ) : (session.note clock line reply.output).clears = session.clears := by
    cases reply.output <;> rfl
  rw [settle, noted, clears_follow keeps]
  cases reply.changed with
  | true => exact clears_persist session
  | false => rfl

/-- A command that is not `clear` leaves one entry, with its line. -/
theorem exists_entry_dispatch {command : Command} (other : command ≠ .clear) (session : Session σ)
    (clock : Clock) (line : String) (arguments : List String) :
    ∃ output, (session.dispatch clock line command arguments).history =
        session.history ++ [⟨line, output, clock.wall⟩] ∧
      (session.dispatch clock line command arguments).clears = session.clears := by
  cases answered : (command.run clock.stamp arguments session.cwd session.files).answer with
  | error error =>
    refine ⟨.text error.message, history_dispatch_of_error line answered, ?_⟩
    simp only [dispatch, files_logged, cwd_logged, answered]
    rfl
  | ok reply =>
    obtain ⟨prints, keeps⟩ :=
      Command.holds_of_run (Command.ensures_prints clock.stamp other arguments session.cwd) answered
    obtain ⟨-, history⟩ := dispatch_view_of_ok line answered
    obtain ⟨output, printed⟩ := Option.isSome_iff_exists.mp prints
    have kept : historyAfter session.history reply.effect = session.history := by
      rcases asked : reply.effect with _ | _ | _ | _
      · rfl
      · rfl
      · exact absurd asked keeps
      · rfl
    refine ⟨output, by simp [history, kept, printed], ?_⟩
    simp only [dispatch, files_logged, cwd_logged, answered]
    exact clears_settle keeps ..

/-- The command `clear` leaves nothing, not even itself. -/
theorem history_dispatch_clear (session : Session σ) (clock : Clock) (line : String)
    (arguments : List String) :
    (session.dispatch clock line .clear arguments).history = [] ∧
      (session.dispatch clock line .clear arguments).clears = session.clears + 1 :=
  ⟨rfl, rfl⟩

theorem find?_eq_clear_iff {name : String} : Registry.builtin.find? name = some .clear ↔ name = "clear" := by
  constructor
  · intro found
    have named := List.find?_some found
    exact (of_decide_eq_true named).symm
  · rintro rfl
    decide

/-! ## Operations -/

/-- What becomes of the history and its count of clearings when a line is accepted. -/
inductive Accepts (clock : Clock) (line : String) (before after : Session σ) : Prop where
  /-- A void line is no entry. -/
  | void (void : isVoid line) (same : SameRecord before after)
  /-- The line clears the history, and is no entry either. -/
  | clearing (clearing : isClearing line) (history : after.history = [])
      (clears : after.clears = before.clears + 1)
  /-- Any other line is the last entry. -/
  | entry (output : Output) (filled : isVoid line = false) (other : isClearing line = false)
      (history : after.history = before.history ++ [⟨Text.trim line, output, clock.wall⟩])
      (clears : after.clears = before.clears)

theorem accepts_execute {session : Session σ} (closed : session.editor = .closed) (clock : Clock)
    (line : String) : Accepts clock line session (session.execute clock line).2 := by
  simp only [execute, closed, Text.words_trim]
  cases worded : Text.words line with
  | nil => exact .void ((Text.words_eq_nil_iff line).mp worded) (sameRecord_refl session)
  | cons name arguments =>
    have filled : isVoid line = false := by
      rw [Bool.eq_false_iff]
      intro void
      rw [(Text.words_eq_nil_iff line).mpr void] at worded
      cases worded
    have first : isClearing line = decide (name = "clear") := by simp [isClearing, worded]
    dsimp only
    split
    · next command found =>
      by_cases same : command = .clear
      · subst same
        have named : name = "clear" := find?_eq_clear_iff.mp found
        obtain ⟨history, clears⟩ := history_dispatch_clear session clock (Text.trim line) arguments
        exact .clearing (by simp [first, named]) history clears
      · have other : name ≠ "clear" := by
          intro named
          rw [find?_eq_clear_iff.mpr named] at found
          exact same (Option.some.inj found).symm
        obtain ⟨output, history, clears⟩ :=
          exists_entry_dispatch same session clock (Text.trim line) arguments
        exact .entry output filled (by simp [first, other]) history clears
    · next unknown =>
      have other : name ≠ "clear" := by
        intro named
        rw [find?_eq_clear_iff.mpr named] at unknown
        cases unknown
      exact .entry (.text ("Command not found: " ++ name)) filled (by simp [first, other]) rfl rfl

/-- A line that is accepted is recorded. -/
theorem records_execute {session : Session σ} (closed : session.editor = .closed) (clock : Clock)
    (line : String) : Records session (session.execute clock line).2 [line] := by
  cases accepts_execute closed clock line with
  | void void same =>
    refine ⟨?_, ?_⟩
    · simp [shown, same.history, shownAfter, void, isClearing_of_isVoid void]
    · simp [same.clears, isClearing_of_isVoid void]
  | clearing clearing history clears =>
    exact ⟨by simp [shown, history, shownAfter, clearing], by simp [clears, clearing]⟩
  | entry output filled other history clears =>
    exact ⟨by simp [shown, history, shownAfter, filled, other], by simp [clears, other]⟩

omit [Storage σ] in
theorem sameRecord_openEditor (session : Session σ) (path : String) :
    SameRecord session (session.openEditor path).2 := by
  rw [openEditor]
  split
  · exact sameRecord_refl session
  · split
    · exact sameRecord_refl session
    · exact ⟨rfl, rfl⟩

theorem sameRecord_saveEditor (session : Session σ) (now : Instant) (path content : String) :
    SameRecord session (session.saveEditor now path content).2 := by
  rw [saveEditor]
  split
  · exact sameRecord_refl session
  · split
    · exact sameRecord_refl session
    · split
      · exact ⟨rfl, rfl⟩
      · exact ⟨history_persist _, clears_persist _⟩

/-- Nothing is recorded of an operation that submits no line, or submits one while the editor is open. -/
theorem sameRecord_after (session : Session σ) (operation : Operation)
    (idle : operation.line? = none ∨ session.editor ≠ .closed) :
    SameRecord session (session.after operation) := by
  cases operation with
  | execute clock line =>
    cases state : session.editor with
    | closed => simp [Operation.line?, state] at idle
    | editing path draft =>
      have refused : session.after (.execute clock line) = session := by
        simp [after, perform, execute, state]
      rw [refused]
      exact sameRecord_refl session
  | openEditor path => exact sameRecord_openEditor session path
  | setDraft draft =>
    change SameRecord session (session.setDraft draft).2
    rw [setDraft]
    split
    · exact sameRecord_refl session
    · exact ⟨rfl, rfl⟩
  | saveEditor now path content => exact sameRecord_saveEditor session now path content
  | commitDraft now =>
    change SameRecord session (session.commitDraft now).2
    rw [commitDraft]
    split
    · exact sameRecord_refl session
    · exact sameRecord_saveEditor session now _ _
  | cancelEditor => exact ⟨rfl, rfl⟩

/-! ## Runs -/

/-- The lines that a session accepts when it is asked for operations in turn: those that are submitted
    while its editor is closed. -/
def accepted (session : Session σ) : List Operation → List String
  | [] => []
  | operation :: rest =>
    (if session.editor = .closed then operation.line?.toList else []) ++
      (session.after operation).accepted rest

theorem records_after (session : Session σ) (operation : Operation) :
    Records session (session.after operation)
      (if session.editor = .closed then operation.line?.toList else []) := by
  by_cases closed : session.editor = .closed
  · rw [if_pos closed]
    cases submitted : operation.line? with
    | none => exact records_of_sameRecord (sameRecord_after session operation (.inl submitted))
    | some line =>
      obtain ⟨clock, rfl⟩ := Operation.eq_execute_of_line? submitted
      exact records_execute closed clock line
  · rw [if_neg closed]
    exact records_of_sameRecord (sameRecord_after session operation (.inr closed))

theorem records_afterAll (session : Session σ) (operations : List Operation) :
    Records session (session.afterAll operations) (session.accepted operations) := by
  induction operations generalizing session with
  | nil => exact records_of_sameRecord (sameRecord_refl session)
  | cons operation rest ih => exact (records_after session operation).append (ih (session.after operation))

/-- However a new session is used, its history shows, in order and trimmed, the lines that it accepted
    since the last one whose first word is `clear`, void ones apart, and it was cleared as often as
    such a line was accepted. Operations that submit no line, and lines that find the editor open,
    leave both as they are. -/
theorem history_shows_accepted (now : Instant) (options : SessionOptions) (store : σ)
    (operations : List Operation) :
    let first := start now options store
    let session := first.afterAll operations
    session.history.map HistoryEntry.command = shownOf (first.accepted operations) ∧
      session.clears = (first.accepted operations).countP isClearing ∧
      ∀ operation, operation.line? = none ∨ session.editor ≠ .closed →
        SameRecord session (session.after operation) := by
  intro first session
  obtain ⟨history, clears, -⟩ := start_blank now options store
  have recorded : Records first session (first.accepted operations) := records_afterAll first operations
  refine ⟨?_, ?_, sameRecord_after session⟩
  · have blank : first.shown = [] := congrArg (List.map HistoryEntry.command) history
    have grown := recorded.shown
    rw [blank, foldl_shownAfter] at grown
    exact grown
  · have none : first.clears = 0 := clears
    rw [recorded.clears, none, Nat.zero_add]

/-- Of two lines before the second `clear` and five after it, the editor refuses one and one is void. -/
theorem history_shows_accepted_lines :
    let clock : Clock := ⟨.epoch, ⟨0, 0, 0, 0⟩⟩
    let operations : List Operation := [.execute clock "clear", .execute clock "echo a",
      .execute clock " clear all", .execute clock "\tcd documents ", .execute clock "edit notes.txt",
      .execute clock "clear", .cancelEditor, .execute clock "no such", .execute clock " "]
    let first := start .epoch ⟨none, none⟩ (⟨.empty⟩ : MemoryStore)
    let session := first.afterAll operations
    session.history.map HistoryEntry.command = ["cd documents", "edit notes.txt", "no such"] ∧
      session.clears = 2 ∧ Operation.cancelEditor.line? = none ∧
      SameRecord session (session.after .cancelEditor) := by
  intro clock operations first session
  obtain ⟨history, clears, idle⟩ :=
    history_shows_accepted .epoch ⟨none, none⟩ (⟨.empty⟩ : MemoryStore) operations
  have shown : shownOf (first.accepted operations) = ["cd documents", "edit notes.txt", "no such"] := by
    decide +kernel
  have cleared : (first.accepted operations).countP isClearing = 2 := by decide +kernel
  exact ⟨history.trans shown, clears.trans cleared, rfl, idle .cancelEditor (.inl rfl)⟩

end Session
end PathShell
