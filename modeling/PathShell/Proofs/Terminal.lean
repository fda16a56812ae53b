import PathShell.Proofs.Session.Editor
import PathShell.Terminal

/-!
# Conversations at a terminal

A terminal takes its input one by one, each at its time, and remembers what it takes the next one for. Told as a
conversation the same input falls into turns: a line is a command, and where the command opens the
editor, the turn goes on to the line that ends the typing. Every terminal of a session that has just
started holds such a conversation, so what is typed is never run, a command is never refused, and the
editor never stays open at the prompt.
-/

namespace PathShell

variable {σ : Type} [Storage σ]

/-- A line that belongs to the content of the file. -/
def IsContent (line : String) : Prop := line ≠ "." ∧ line ≠ ":q"

/-- Input that ends the typing without saving. -/
def Input.Discards : Input → Prop
  | .line text => text = ":q"
  | .garbled _ => True
  | .ended => True

/-- Lines that come in, each at its time. -/
def typedLines (typed : List (Clock × String)) : List (Clock × Input) :=
  typed.map fun line => (line.1, .line line.2)

/-- What a session at the prompt makes of some input, and where the terminal then stands. -/
inductive Conversation : Session σ → List (Clock × Input) → Terminal σ → Prop where
  /-- The prompt waits for a command. -/
  | waiting {session : Session σ} (closed : session.editor = .closed) :
    Conversation session [] ⟨session, .prompt⟩
  /-- Where input is no line, nothing is read any more. -/
  | finished {session : Session σ} {clock : Clock} {input : Input} {rest : List (Clock × Input)}
      (closed : session.editor = .closed) (noLine : ∀ text, input ≠ .line text) :
    Conversation session ((clock, input) :: rest) ⟨session, .closed⟩
  /-- A command leaves the editor closed. -/
  | command {session after : Session σ} {clock : Clock} {text : String}
      {rest : List (Clock × Input)} {last : Terminal σ} (closed : session.editor = .closed)
      (ran : session.execute clock text = (.ok (), after)) (still : after.editor = .closed)
      (next : Conversation after.withoutLog rest last) :
    Conversation session ((clock, .line text) :: rest) last
  /-- A command opens the editor on a file, and its content is still being typed. -/
  | typing {session after : Session σ} {clock : Clock} {text path : String} {file : File}
      {typed : List (Clock × String)} (closed : session.editor = .closed)
      (ran : session.execute clock text = (.ok (), after))
      (opened : after.editor = .editing path file.content)
      (content : ∀ line ∈ typed, IsContent line.2) :
    Conversation session ((clock, .line text) :: typedLines typed)
      ⟨after.withoutLog, .typing path (typed.map Prod.snd).reverse⟩
  /-- A command opens the editor, and the lines that are typed become the content of the file, at the
      time of the line that ends them. -/
  | saved {session after written : Session σ} {clock ending : Clock} {text path : String} {file : File}
      {typed : List (Clock × String)} {rest : List (Clock × Input)} {last : Terminal σ}
      (closed : session.editor = .closed) (ran : session.execute clock text = (.ok (), after))
      (opened : after.editor = .editing path file.content)
      (content : ∀ line ∈ typed, IsContent line.2)
      (saving : after.withoutLog.saveEditor ending.stamp path (Text.join "\n" (typed.map Prod.snd)) =
        (.ok (), written))
      (writes : FileSystem.Writes session.files written.files path
        (Text.join "\n" (typed.map Prod.snd)))
      (next : Conversation written.withoutLog rest last) :
    Conversation session
      ((clock, .line text) :: (typedLines typed ++ (ending, .line ".") :: rest)) last
  /-- A command opens the editor, and what is typed is thrown away. -/
  | discarded {session after : Session σ} {clock ending : Clock} {text path : String} {file : File}
      {typed : List (Clock × String)} {input : Input} {rest : List (Clock × Input)} {last : Terminal σ}
      (closed : session.editor = .closed) (ran : session.execute clock text = (.ok (), after))
      (opened : after.editor = .editing path file.content)
      (content : ∀ line ∈ typed, IsContent line.2) (discards : input.Discards)
      (unchanged : after.files = session.files)
      (next : Conversation after.withoutLog.cancelEditor rest last) :
    Conversation session ((clock, .line text) :: (typedLines typed ++ (ending, input) :: rest)) last

/-- Input is all content, or comes after some content to what ends it. -/
theorem content_or_ended (inputs : List (Clock × Input)) :
    (∃ typed, inputs = typedLines typed ∧ ∀ line ∈ typed, IsContent line.2) ∨
      ∃ typed ending input rest, inputs = typedLines typed ++ (ending, input) :: rest ∧
        (∀ line ∈ typed, IsContent line.2) ∧ (input = .line "." ∨ input.Discards) := by
  induction inputs with
  | nil => exact .inl ⟨[], rfl, List.forall_mem_nil _⟩
  | cons first rest ih =>
    obtain ⟨clock, input⟩ := first
    -- The first input ends the typing, or is content before all that the rest has.
    have ends (ended : input = .line "." ∨ input.Discards) :
        ∃ typed ending other others, (clock, input) :: rest = typedLines typed ++ (ending, other) :: others ∧
          (∀ line ∈ typed, IsContent line.2) ∧ (other = .line "." ∨ other.Discards) :=
      ⟨[], clock, input, rest, rfl, List.forall_mem_nil _, ended⟩
    cases input with
    | garbled error => exact .inr (ends (.inr trivial))
    | ended => exact .inr (ends (.inr trivial))
    | line text =>
      by_cases saves : text = "."
      · exact .inr (ends (.inl (congrArg Input.line saves)))
      · by_cases discards : text = ":q"
        · exact .inr (ends (.inr discards))
        · have first : IsContent text := ⟨saves, discards⟩
          rcases ih with ⟨typed, rfl, content⟩ | ⟨typed, ending, other, others, rfl, content, ended⟩
          · exact .inl ⟨(clock, text) :: typed, rfl, List.forall_mem_cons.mpr ⟨first, content⟩⟩
          · exact .inr ⟨(clock, text) :: typed, ending, other, others, rfl,
              List.forall_mem_cons.mpr ⟨first, content⟩, ended⟩

namespace Terminal

/-! ## One input -/

omit [Storage σ] in
theorem andThen_snd (printed : List Printed) (next : List Printed × Terminal σ) :
    (andThen printed next).2 = next.2 := rfl

/-- The terminal after inputs in turn. -/
theorem feedAll_cons (terminal : Terminal σ) (clock : Clock) (input : Input)
    (rest : List (Clock × Input)) :
    (feedAll terminal ((clock, input) :: rest)).2 = (feedAll (feed clock terminal input).2 rest).2 :=
  rfl

theorem feedAll_append (terminal : Terminal σ) (first second : List (Clock × Input)) :
    (feedAll terminal (first ++ second)).2 = (feedAll (feedAll terminal first).2 second).2 := by
  induction first generalizing terminal with
  | nil => rfl
  | cons input rest ih => exact ih (feed input.1 terminal input.2).2

theorem feedAll_closed (session : Session σ) (inputs : List (Clock × Input)) :
    (feedAll ⟨session, .closed⟩ inputs).2 = ⟨session, .closed⟩ := by
  induction inputs with
  | nil => rfl
  | cons input rest ih => exact ih

theorem feed_command {clock : Clock} {session after : Session σ} {text : String}
    (ran : session.execute clock text = (.ok (), after)) (still : after.editor = .closed) :
    (feed clock ⟨session, .prompt⟩ (.line text)).2 = ⟨after.withoutLog, .prompt⟩ := by
  simp only [feed, command, ran, andThen_snd, still]
  rfl

theorem feed_opening {clock : Clock} {session after : Session σ} {text path draft : String}
    (ran : session.execute clock text = (.ok (), after))
    (opened : after.editor = .editing path draft) :
    (feed clock ⟨session, .prompt⟩ (.line text)).2 = ⟨after.withoutLog, .typing path []⟩ := by
  simp only [feed, command, ran, andThen_snd, opened]
  rfl

theorem feed_content (clock : Clock) (session : Session σ) (path : String) (lines : List String)
    {text : String} (content : IsContent text) :
    (feed clock ⟨session, .typing path lines⟩ (.line text)).2 =
      ⟨session, .typing path (text :: lines)⟩ := by
  simp only [feed, if_neg content.1, if_neg content.2]

theorem feed_discards (clock : Clock) (session : Session σ) (path : String) (lines : List String)
    {input : Input} (discards : input.Discards) :
    (feed clock ⟨session, .typing path lines⟩ input).2 = ⟨session.cancelEditor, .prompt⟩ := by
  cases input with
  | garbled error => rfl
  | ended => rfl
  | line text =>
    have quits : text = ":q" := discards
    rw [quits]
    rfl

theorem feed_saves (clock : Clock) {session written : Session σ} {path draft : String}
    (lines : List String) (editing : session.editor = .editing path draft)
    (saving : session.saveEditor clock.stamp path (Text.join "\n" lines.reverse) = (.ok (), written)) :
    (feed clock ⟨session, .typing path lines⟩ (.line ".")).2 = ⟨written.withoutLog, .prompt⟩ := by
  obtain ⟨drafted, committed⟩ := Session.commitDraft_setDraft editing saving
  change (save clock session path lines).2 = _
  simp only [save, drafted, committed, andThen_snd]
  rfl

/-- The lines of the content are kept, and nothing else happens. -/
theorem feedAll_content (session : Session σ) (path : String) (lines : List String)
    {typed : List (Clock × String)} (content : ∀ line ∈ typed, IsContent line.2) :
    (feedAll ⟨session, .typing path lines⟩ (typedLines typed)).2 =
      ⟨session, .typing path ((typed.map Prod.snd).reverse ++ lines)⟩ := by
  induction typed generalizing lines with
  | nil => rfl
  | cons line rest ih =>
    obtain ⟨clock, text⟩ := line
    obtain ⟨first, others⟩ := List.forall_mem_cons.mp content
    rw [typedLines, List.map_cons, feedAll_cons, feed_content clock session path lines first]
    exact (ih _ others).trans (by simp)

/-- What comes after the content decides what becomes of it. -/
theorem feedAll_typed (session : Session σ) (path : String) {typed : List (Clock × String)}
    (content : ∀ line ∈ typed, IsContent line.2) (ending : Clock) (input : Input)
    (rest : List (Clock × Input)) :
    (feedAll ⟨session, .typing path []⟩ (typedLines typed ++ (ending, input) :: rest)).2 =
      (feedAll (feed ending ⟨session, .typing path (typed.map Prod.snd).reverse⟩ input).2 rest).2 := by
  rw [feedAll_append, feedAll_content session path [] content, List.append_nil, feedAll_cons]

/-! ## Conversations -/

/-- A terminal at the prompt holds a conversation, if the editor is closed. -/
theorem conversation_feedAll (session : Session σ) (closed : session.editor = .closed)
    (inputs : List (Clock × Input)) :
    Conversation session inputs (feedAll ⟨session, .prompt⟩ inputs).2 := by
  -- By strong induction on the number of inputs: a turn takes at least the command line.
  induction size : inputs.length using Nat.strongRecOn generalizing session inputs with
  | ind count ih =>
  subst size
  have ends (clock : Clock) (input : Input) (rest : List (Clock × Input))
      (noLine : ∀ text, input ≠ .line text)
      (shut : (feed clock ⟨session, .prompt⟩ input).2 = ⟨session, .closed⟩) :
      Conversation session ((clock, input) :: rest)
        (feedAll ⟨session, .prompt⟩ ((clock, input) :: rest)).2 := by
    rw [feedAll_cons, shut, feedAll_closed]
    exact .finished closed noLine
  match inputs with
  | [] => exact .waiting closed
  | (clock, .garbled error) :: rest => exact ends clock (.garbled error) rest nofun rfl
  | (clock, .ended) :: rest => exact ends clock .ended rest nofun rfl
  | (clock, .line text) :: rest =>
    obtain ⟨after, ran, still | ⟨path, file, found, opened, files⟩⟩ :=
      Session.execute_of_closed closed clock text
    · rw [feedAll_cons, feed_command ran still]
      exact .command closed ran still (ih _ (by simp) after.withoutLog still rest rfl)
    · rw [feedAll_cons, feed_opening ran opened]
      rcases content_or_ended rest with
        ⟨typed, rfl, content⟩ | ⟨typed, ending, input, others, rfl, content, saves | discards⟩
      · rw [feedAll_content _ path [] content, List.append_nil]
        exact .typing closed ran opened content
      · have editing : after.withoutLog.editor = .editing path file.content := opened
        have there : after.withoutLog.files.get? path = some (.file file) := files ▸ found
        have saved := Session.saves_saveEditor editing there ending.stamp
          (Text.join "\n" (typed.map Prod.snd))
        obtain ⟨written, saving⟩ : ∃ written, after.withoutLog.saveEditor ending.stamp path
            (Text.join "\n" (typed.map Prod.snd)) = (.ok (), written) :=
          ⟨_, Prod.ext saved.accepted rfl⟩
        rw [saving] at saved
        have fed := feed_saves ending (typed.map Prod.snd).reverse editing
          (by rwa [List.reverse_reverse])
        rw [saves, feedAll_typed _ path content, fed]
        exact .saved closed ran opened content saving (files ▸ saved.writes)
          (ih _ (by simp; omega) written.withoutLog saved.closed others rfl)
      · rw [feedAll_typed _ path content, feed_discards ending _ path _ discards]
        exact .discarded closed ran opened content discards files
          (ih _ (by simp; omega) after.withoutLog.cancelEditor rfl others rfl)

theorem closed_of_conversation {session : Session σ} {inputs : List (Clock × Input)}
    {last : Terminal σ} (conversation : Conversation session inputs last)
    (awaits : last.mode = .prompt) : last.session.editor = .closed := by
  induction conversation with
  | waiting closed => exact closed
  | finished => cases awaits
  | command _ _ _ _ ih => exact ih awaits
  | typing => cases awaits
  | saved _ _ _ _ _ _ _ ih => exact ih awaits
  | discarded _ _ _ _ _ _ _ ih => exact ih awaits

/-! ## Prompts -/

/-- Where a command is awaited, the prompt has just been printed. -/
def Prompted (shown : List Printed × Terminal σ) : Prop :=
  shown.2.mode = .prompt → shown.1.getLast? = some (.out shown.2.session.prompt)

omit [Storage σ] in
theorem prompted_toPrompt (session : Session σ) : Prompted (toPrompt session) := fun _ => rfl

omit [Storage σ] in
theorem prompted_andThen (printed : List Printed) {next : List Printed × Terminal σ}
    (prompted : Prompted next) : Prompted (andThen printed next) := by
  intro awaits
  have last := prompted awaits
  simp only [andThen, List.getLast?_append, last, Option.some_or]

theorem prompted_feed (clock : Clock) (terminal : Terminal σ) (input : Input) :
    Prompted (feed clock terminal input) := by
  obtain ⟨session, mode⟩ := terminal
  have asks (session : Session σ) : Prompted (toPrompt session) := prompted_toPrompt session
  cases mode with
  | closed => exact nofun
  | prompt =>
    cases input with
    | garbled error => exact nofun
    | ended => exact nofun
    | line text =>
      change Prompted (command clock session text)
      rw [command]
      split
      · exact prompted_andThen _ (asks _)
      · apply prompted_andThen
        split
        · exact asks _
        · exact nofun
  | typing path lines =>
    cases input with
    | garbled error => exact asks _
    | ended => exact asks _
    | line text =>
      simp only [feed]
      split
      · exact prompted_andThen _ (asks _)
      · split
        · exact prompted_andThen _ (asks _)
        · exact nofun

theorem prompted_feedAll {shown : List Printed × Terminal σ} (prompted : Prompted shown)
    (inputs : List (Clock × Input)) :
    Prompted (andThen shown.1 (feedAll shown.2 inputs)) := by
  induction inputs generalizing shown with
  | nil => simpa [feedAll, andThen] using prompted
  | cons input rest ih =>
    have fed := prompted_andThen shown.1 (prompted_feed input.1 shown.2 input.2)
    simpa [feedAll, andThen, List.append_assoc] using ih fed

/-! ## Whole runs -/

theorem mode_of_ending (terminal : Terminal σ) (last : Clock) :
    (feedAll terminal (ending last)).2.mode = .closed := by
  obtain ⟨session, mode⟩ := terminal
  cases mode <;> rfl

/-- A terminal of a session that has just started holds a conversation, at every moment and until it is
    closed, whatever the clock shows meanwhile. Whenever a command is awaited, the prompt has just been
    printed, the editor is closed, and no line would be refused. -/
theorem holds_conversation (now : Instant) (options : SessionOptions) (store : σ)
    (inputs : List (Clock × Input)) (last : Clock) :
    let session := Session.start now options store
    let shown := andThen (start now session).1 (feedAll (start now session).2 inputs)
    Conversation session.withoutLog inputs shown.2 ∧
      (shown.2.mode = .prompt →
        shown.1.getLast? = some (.out shown.2.session.prompt) ∧
          shown.2.session.editor = .closed ∧
          ∀ clock text, (shown.2.session.execute clock text).1 = .ok ()) ∧
      Conversation session.withoutLog (inputs ++ ending last) (run now session inputs last).2 ∧
      (run now session inputs last).2.mode = .closed := by
  intro session shown
  have closed : session.withoutLog.editor = .closed := Session.editor_start now options store
  have conversation := conversation_feedAll session.withoutLog closed
  refine ⟨conversation inputs, ?_, conversation (inputs ++ ending last), ?_⟩
  · intro awaits
    have shut := closed_of_conversation (conversation inputs) awaits
    refine ⟨prompted_feedAll (prompted_andThen _ (prompted_toPrompt _)) inputs awaits, shut, ?_⟩
    intro clock text
    obtain ⟨after, ran, -⟩ := Session.execute_of_closed shut clock text
    exact congrArg Prod.fst ran
  · change (feedAll _ (inputs ++ ending last)).2.mode = .closed
    rw [feedAll_append]
    exact mode_of_ending _ last

/-- A command that is typed into a file is its content. -/
example :
    let clock : Clock := ⟨.epoch, ⟨0, 0, 0, 0⟩⟩
    let session := Session.start .epoch ⟨none, none⟩ (⟨.empty⟩ : MemoryStore)
    let lines := ["touch a", "edit a", "rm a", "", ".", "pwd"]
    let ended := run .epoch session (typedLines (lines.map (clock, ·))) clock
    ended.2.session.files.get? "/home/user/a" = some (.file ⟨"rm a\n", .epoch⟩) := by
  decide

end Terminal
end PathShell
