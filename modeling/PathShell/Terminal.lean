import PathShell.Session
import PathShell.Text.Utf8

/-!
# Terminals

What a session looks like from outside: lines come in, and texts go out. A terminal reads commands at
a prompt; while the editor of its session is open, it reads the new content of the file instead. A
batch runs given lines, and closes an editor that one of them has opened.
-/

namespace PathShell

/-- Something that goes out. -/
inductive Printed where
  /-- On standard output. -/
  | out (text : String)
  /-- On standard error. -/
  | err (text : String)
  /-- To the log, at some time. -/
  | event (time : Instant) (event : Log.Event)

/-- Something that comes in. -/
inductive Input where
  | line (text : String)
  /-- A line that is no text. -/
  | garbled (error : Text.Utf8Error)
  /-- Nothing more comes. -/
  | ended

/-- The lines that bytes hold. Each is text or not by itself, without its end. -/
def Input.ofBytes (bytes : List UInt8) : List Input :=
  (Text.byteLines [] bytes).map fun line =>
    match Text.decode (Text.withoutLineEnd line) with
    | .ok text => .line text
    | .error error => .garbled error

/-- What a terminal takes its input for. -/
inductive Mode where
  /-- A command. -/
  | prompt
  /-- The content of the file that is edited; the lines typed so far, the last one first. -/
  | typing (path : String) (lines : List String)
  /-- Nothing any more. -/
  | closed
  deriving DecidableEq

structure Terminal (σ : Type) where
  session : Session σ
  mode : Mode

/-- What makes a screen empty. -/
def clearScreen : String := "\x1b[2J\x1b[H"

variable {σ : Type} [Storage σ]

/-- What has been logged, as of now. -/
def Session.events (session : Session σ) (now : Instant) : List Printed :=
  session.log.map (.event now)

def Session.withoutLog (session : Session σ) : Session σ := { session with log := [] }

/-- What a line has added to the screen: nothing, an empty screen, or the text of its entry. -/
def Session.newOutput (before after : Session σ) : List Printed :=
  if after.clears ≠ before.clears then [.out clearScreen]
  else if after.history.length = before.history.length then []
  else
    match after.history.getLast? with
    | none => []
    | some entry =>
      let text := entry.output.display
      if text.isEmpty then [] else [.out (text ++ "\n")]

/-! ## Batches -/

namespace Batch

/-- One line. With `quiet` its output is not shown. -/
def line (clock : Clock) (quiet : Bool) (session : Session σ) (text : String) :
    List Printed × Session σ :=
  match session.execute clock text with
  | (.error error, after) =>
    (after.events clock.now ++ [.err (error.message ++ "\n")], after.withoutLog)
  | (.ok (), after) =>
    let shown := if quiet then [] else session.newOutput after
    (after.events clock.now ++ shown, after.withoutLog.cancelEditor)

/-- Lines in turn, each at its time. -/
def lines (quiet : Bool) (session : Session σ) :
    List (Clock × String) → List Printed × Session σ
  | [] => ([], session)
  | (clock, text) :: rest =>
    let (printed, session) := line clock quiet session text
    let (more, session) := lines quiet session rest
    (printed ++ more, session)

/-- The history, as it is shown after quiet lines. -/
def summary (session : Session σ) : List Printed := [.out (session.historyJson.indented ++ "\n")]

/-- All the lines, and then the history if they are quiet. -/
def run (quiet : Bool) (session : Session σ) (texts : List (Clock × String)) :
    List Printed × Session σ :=
  let (printed, session) := lines quiet session texts
  (if quiet then printed ++ summary session else printed, session)

end Batch

/-! ## Prompts -/

namespace Terminal

/-- A command may follow. -/
def toPrompt (session : Session σ) : List Printed × Terminal σ :=
  ([.out session.prompt], ⟨session, .prompt⟩)

/-- A file is edited: its content is shown, and how to end. -/
def toEditor (session : Session σ) (path draft : String) : List Printed × Terminal σ :=
  let content :=
    if draft.isEmpty then "" else draft ++ "\n--- type the new content ---\n"
  ([.out ("--- " ++ path ++ " ---\n" ++ content ++
      "(finish with a line containing only '.', or ':q' to discard)\n")],
    ⟨session, .typing path []⟩)

/-- What comes after what was printed. -/
def andThen (printed : List Printed) (next : List Printed × Terminal σ) :
    List Printed × Terminal σ :=
  (printed ++ next.1, next.2)

/-- A terminal of a session that has just begun. -/
def start (now : Instant) (session : Session σ) : List Printed × Terminal σ :=
  andThen (session.events now) (toPrompt session.withoutLog)

/-- A command line. -/
def command (clock : Clock) (session : Session σ) (text : String) : List Printed × Terminal σ :=
  match session.execute clock text with
  | (.error error, after) =>
    andThen (after.events clock.now ++ [.err (error.message ++ "\n")]) (toPrompt after.withoutLog)
  | (.ok (), after) =>
    andThen (after.events clock.now ++ session.newOutput after)
      (match after.editor with
        | .closed => toPrompt after.withoutLog
        | .editing path draft => toEditor after.withoutLog path draft)

/-- The lines typed become the content of the file. -/
def save (clock : Clock) (session : Session σ) (path : String) (lines : List String) :
    List Printed × Terminal σ :=
  let (saved, after) :=
    match session.setDraft (Text.join "\n" lines.reverse) with
    | (.ok (), drafted) => drafted.commitDraft clock.stamp
    | refused => refused
  let report : Printed := match saved with
    | .ok () => .out ("Saved " ++ path ++ "\n")
    | .error error => .err ("Error: " ++ error.message ++ "\n")
  andThen (after.events clock.now ++ [report]) (toPrompt after.withoutLog)

/-- One input. -/
def feed (clock : Clock) (terminal : Terminal σ) (input : Input) : List Printed × Terminal σ :=
  match terminal.mode, input with
  | .closed, _ => ([], terminal)
  | .prompt, .line text => command clock terminal.session text
  | .prompt, .garbled error =>
    ([.err ("Error: cannot read input: " ++ error.message ++ "\n")],
      { terminal with mode := .closed })
  | .prompt, .ended => ([], { terminal with mode := .closed })
  | .typing path lines, .line text =>
    if text = "." then save clock terminal.session path lines
    else if text = ":q" then
      andThen [.out ("Discarded changes to " ++ path ++ "\n")]
        (toPrompt terminal.session.cancelEditor)
    else ([], { terminal with mode := .typing path (text :: lines) })
  | .typing _ _, _ => toPrompt terminal.session.cancelEditor

/-- Inputs in turn, each at its time. -/
def feedAll (terminal : Terminal σ) : List (Clock × Input) → List Printed × Terminal σ
  | [] => ([], terminal)
  | (clock, input) :: rest =>
    let (printed, terminal) := feed clock terminal input
    andThen printed (feedAll terminal rest)

/-- What an open editor, and then the prompt, come upon where nothing more comes. -/
def ending (clock : Clock) : List (Clock × Input) := [(clock, .ended), (clock, .ended)]

/-- From the start over all inputs to their end, at the time `last`. -/
def run (now : Instant) (session : Session σ) (inputs : List (Clock × Input)) (last : Clock) :
    List Printed × Terminal σ :=
  let (printed, terminal) := start now session
  andThen printed (feedAll terminal (inputs ++ ending last))

end Terminal
end PathShell
