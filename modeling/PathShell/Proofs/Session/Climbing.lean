import PathShell.Proofs.Command.Listing
import PathShell.Proofs.Session.Start
import PathShell.Proofs.Text.Blank

/-!
# Climbing back

A line that names a directory enters it, and two dots lead from there to where the session came from. So
a session that has gone down by names, however far, climbs back through the same directories: each of
them was entered as a directory, and entering changes no file.
-/

namespace PathShell

namespace Command

/-- A directory is entered just if it is there. -/
theorem run_cd (now : Instant) (name : String) (rest : List String) (cwd : String) (fs : FileSystem) :
    Command.cd.run now (name :: rest) cwd fs =
      match fs.requireDirectory (Path.resolve name cwd) with
      | .ok () => ⟨.ok ((Reply.message ("Changed directory to " ++ Path.resolve name cwd)).requesting
          (.changeDirectory (Path.resolve name cwd))), fs⟩
      | .error cause => ⟨.error (.files "Directory not found" cause), fs⟩ := by
  cases answer : fs.requireDirectory (Path.resolve name cwd) with
  | ok value => exact run_of_ok (cd_acts now name rest cwd) (Edit.run_ask_of_ok answer)
  | error cause => exact run_of_error (cd_acts now name rest cwd) (Edit.run_ask_of_error answer)

end Command

namespace Session

variable {σ : Type} [Storage σ]

/-! ## Entering a directory -/

/-- The line is accepted, and recorded as changing to the directory that the session then stands in. -/
structure Enters (clock : Clock) (before : Session σ) (line : String) (after : Session σ) : Prop where
  ran : before.execute clock line = (.ok (), after)
  recorded : after.history = before.history ++
    [⟨Text.trim line, .text ("Changed directory to " ++ after.cwd), clock.wall⟩]

section Line

variable {session : Session σ} (closed : session.editor = .closed) {line name : String}
  {rest : List String} (worded : Text.words line = "cd" :: name :: rest)

include closed worded

theorem execute_cd (clock : Clock) : session.execute clock line =
    (.ok (), session.dispatch clock (Text.trim line) .cd (name :: rest)) :=
  execute_eq_dispatch closed clock ((Text.words_trim line).trans worded) (by decide)

/-- Where the directory is there, the line enters it. -/
theorem exists_enters
    (directory : session.files.get? (Path.resolve name session.cwd) = some .directory)
    (clock : Clock) : ∃ after, Enters clock session line after := by
  have ran := Command.run_cd clock.stamp name rest session.cwd session.files
  rw [FileSystem.requireDirectory_directory directory] at ran
  obtain ⟨-, cwd, -, -⟩ := dispatch_of_ok (Text.trim line) (congrArg Outcome.answer ran)
  obtain ⟨-, history⟩ := dispatch_view_of_ok (Text.trim line) (congrArg Outcome.answer ran)
  refine ⟨_, execute_cd closed worded clock, ?_⟩
  rw [cwd]
  exact history

/-- A line that enters a directory finds it there, and changes nothing but where the session stands. -/
theorem enters_frame {clock : Clock} {after : Session σ} (enters : Enters clock session line after) :
    after.cwd = Path.resolve name session.cwd ∧
      session.files.get? (Path.resolve name session.cwd) = some .directory ∧
      after.files = session.files ∧ after.editor = .closed := by
  have ended : session.dispatch clock (Text.trim line) .cd (name :: rest) = after :=
    congrArg Prod.snd ((execute_cd closed worded clock).symm.trans enters.ran)
  have ran := Command.run_cd clock.stamp name rest session.cwd session.files
  cases found : session.files.requireDirectory (Path.resolve name session.cwd) with
  | ok value =>
    rw [found] at ran
    obtain ⟨files, cwd, -, -⟩ := dispatch_of_ok (Text.trim line) (congrArg Outcome.answer ran)
    obtain ⟨editor, -⟩ := dispatch_view_of_ok (Text.trim line) (congrArg Outcome.answer ran)
    rw [ended, ran] at files editor
    rw [ended] at cwd
    exact ⟨cwd, (FileSystem.requireDirectory_eq_ok_iff ..).mp found, files, editor.trans closed⟩
  | error cause =>
    -- A failure is recorded with another text.
    rw [found] at ran
    have history := history_dispatch_of_error (Text.trim line) (congrArg Outcome.answer ran)
    rw [ended, enters.recorded] at history
    have same : "Changed directory to " ++ after.cwd = "Directory not found" := by
      simpa [CommandError.message] using history
    have begins := congrArg (·.toList.head?) same
    simp at begins

end Line

/-! ## Entering one after the other -/

/-- Lines, each at its time, that enter one directory after the other. -/
inductive Walks : Session σ → List (Clock × String) → List String → Session σ → Prop where
  | nil (session : Session σ) : Walks session [] [] session
  | cons {before middle last : Session σ} {clock : Clock} {line : String}
      {rest : List (Clock × String)} {visited : List String} (enters : Enters clock before line middle)
      (next : Walks middle rest visited last) :
    Walks before ((clock, line) :: rest) (middle.cwd :: visited) last

theorem Walks.concat {before middle last : Session σ} {lines : List (Clock × String)}
    {visited : List String} (walks : Walks before lines visited middle) {clock : Clock} {line : String}
    (enters : Enters clock middle line last) :
    Walks before (lines ++ [(clock, line)]) (visited ++ [last.cwd]) last := by
  induction walks with
  | nil session => exact .cons enters (.nil last)
  | cons first _ ih => exact .cons first (ih enters)

/-! ## Down and up -/

/-- A name that a line can give and that is no path: a word without a slash, other than two dots. -/
structure IsName (name : String) : Prop where
  word : Text.IsWord name
  plain : '/' ∉ name.toList
  other : name ≠ ".."

/-- A name leads to the child that it names. -/
theorem enters_child {session after : Session σ} (closed : session.editor = .closed) {name : String}
    (named : IsName name) {clock : Clock} (enters : Enters clock session ("cd " ++ name) after) :
    after.cwd = Path.join session.cwd name ∧ after.files.get? after.cwd = some .directory ∧
      after.files = session.files ∧ after.editor = .closed := by
  have worded : Text.words ("cd " ++ name) = ["cd", name] := by
    have apart : "cd " ++ name = "cd" ++ " " ++ name := rfl
    rw [apart, Text.words_append (by decide), Text.words_of_isWord named.word]
  have resolved : Path.resolve name session.cwd = Path.join session.cwd name :=
    Path.resolve_of_isSegment ⟨named.word.1, named.plain⟩ named.other session.cwd
  obtain ⟨cwd, directory, files, shut⟩ := enters_frame closed worded enters
  rw [resolved] at cwd directory
  rw [files, cwd]
  exact ⟨rfl, directory, rfl, shut⟩

/-- Two dots lead from a child to its directory. -/
theorem exists_enters_parent {session : Session σ} (closed : session.editor = .closed)
    {dir name : String} (filled : dir ≠ "") (directory : session.files.get? dir = some .directory)
    (plain : '/' ∉ name.toList) (stands : session.cwd = Path.join dir name) (clock : Clock) :
    ∃ after, Enters clock session "cd .." after ∧ after.cwd = dir ∧ after.files = session.files ∧
      after.editor = .closed := by
  have worded : Text.words "cd .." = ["cd", ".."] := by decide
  have above : Path.resolve ".." session.cwd = dir := by
    rw [stands, Path.resolve, if_pos rfl, Path.parent_join filled plain]
  obtain ⟨after, enters⟩ := exists_enters closed worded (above ▸ directory) clock
  obtain ⟨cwd, -, files, shut⟩ := enters_frame closed worded enters
  exact ⟨after, enters, cwd.trans above, files, shut⟩

/-- A session that has gone down from a directory by names climbs back by two dots as often: it comes
    through the same directories in the other order, ends where it began, and has changed no file. -/
theorem climbs_back {session : Session σ} (closed : session.editor = .closed)
    (filled : session.cwd ≠ "") (home : session.files.get? session.cwd = some .directory)
    {names : List (Clock × String)} (named : ∀ entry ∈ names, IsName entry.2) {visited : List String}
    {deep : Session σ}
    (descends : Walks session (names.map fun entry => (entry.1, "cd " ++ entry.2)) visited deep)
    {clocks : List Clock} (enough : clocks.length = names.length) :
    ∃ climbed last, Walks deep (clocks.map (·, "cd ..")) climbed last ∧
      deep.cwd :: climbed = (session.cwd :: visited).reverse ∧ last.cwd = session.cwd ∧
      last.files = session.files ∧ last.editor = .closed := by
  -- The last step up undoes the first step down, after the steps before it have undone the others.
  induction names generalizing session visited clocks with
  | nil =>
    cases descends
    rw [List.length_eq_zero_iff.mp enough]
    exact ⟨[], deep, .nil deep, rfl, rfl, rfl, closed⟩
  | cons entry names ih =>
    obtain ⟨clock, name⟩ := entry
    obtain ⟨first, others⟩ := List.forall_mem_cons.mp named
    rcases List.eq_nil_or_concat' clocks with rfl | ⟨earlier, final, rfl⟩
    · cases enough
    cases descends with
    | @cons _ middle _ _ _ _ visited enters next =>
      obtain ⟨cwd, directory, files, shut⟩ := enters_child closed first enters
      have inside : middle.cwd ≠ "" := by
        intro empty
        have slash := Path.slash_mem_join session.cwd name
        rw [← cwd, empty] at slash
        cases slash
      obtain ⟨climbed, near, climbs, order, reached, kept, still⟩ :=
        ih shut inside directory others next (by simpa using enough)
      have there : near.files.get? session.cwd = some .directory := by
        rw [kept, files]
        exact home
      obtain ⟨last, returns, back, same, closes⟩ :=
        exists_enters_parent still filled there first.plain (reached.trans cwd) final
      refine ⟨climbed ++ [last.cwd], last, ?_, ?_, back, same.trans (kept.trans files), closes⟩
      · rw [List.map_append]
        exact climbs.concat returns
      · rw [← List.cons_append, order, back]
        exact List.reverse_cons.symm

/-- From the root, whose children have no other slash than its own, down to the home directory. -/
theorem climbs_back_to_root :
    let clock : Clock := ⟨.epoch, ⟨0, 0, 0, 0⟩⟩
    let session := start .epoch ⟨some "/", none⟩ (⟨.empty⟩ : MemoryStore)
    let names := [(clock, "home"), (clock, "user")]
    let deep := session.afterAll [.execute clock "cd home", .execute clock "cd user"]
    session.editor = .closed ∧ session.cwd ≠ "" ∧
      session.files.get? session.cwd = some .directory ∧ (∀ entry ∈ names, IsName entry.2) ∧
      Walks session (names.map fun entry => (entry.1, "cd " ++ entry.2)) ["/home", "/home/user"] deep ∧
      [clock, clock].length = names.length ∧
      ∃ climbed last, Walks deep ([clock, clock].map (·, "cd ..")) climbed last ∧
        deep.cwd :: climbed = ["/home/user", "/home", "/"] ∧ last.cwd = session.cwd ∧
        last.files = session.files ∧ last.editor = .closed := by
  intro clock session names deep
  have closed : session.editor = .closed := by decide
  have filled : session.cwd ≠ "" := by decide
  have home : session.files.get? session.cwd = some .directory := by decide
  have named : ∀ entry ∈ names, IsName entry.2 := by
    intro entry among
    rcases List.mem_pair.mp among with rfl | rfl
    · exact ⟨by decide, by decide, by decide⟩
    · exact ⟨by decide, by decide, by decide⟩
  have first : Enters clock session "cd home" (session.after (.execute clock "cd home")) :=
    ⟨rfl, by decide⟩
  have second : Enters clock (session.after (.execute clock "cd home")) "cd user" deep :=
    ⟨rfl, by decide⟩
  have descends : Walks session (names.map fun entry => (entry.1, "cd " ++ entry.2))
      ["/home", "/home/user"] deep := .cons first (.cons second (.nil deep))
  exact ⟨closed, filled, home, named, descends, rfl, climbs_back closed filled home named descends rfl⟩

end Session
end PathShell
