import PathShell.Command
import PathShell.FileSystem.Stored
import PathShell.Storage
import PathShell.Text.Blank
import PathShell.Text.Quoted

/-!
# Sessions

A session turns submitted lines into commands. It stands in a directory of its file system, records
what every line printed, and writes the file system back whenever a command may have changed it. While
its editor is open no line is accepted. A failure of the store is logged and never seen by the user.
-/

namespace PathShell

/-- The time when something is done: in UTC, and as the wall clock shows it. -/
structure Clock where
  now : Instant
  wall : TimeOfDay

/-- What files are stamped with: no finer than to the millisecond. -/
def Clock.stamp (clock : Clock) : Instant := clock.now.toMillisecond

/-- What a session starts with; what is not given has a default. -/
structure SessionOptions where
  cwd : Option String
  key : Option String

/-- The directory that a session starts in. -/
def defaultDirectory : String := "/home/user"

/-- The key that the file system is stored under. -/
def defaultKey : String := "terminalFS"

inductive Editor where
  | closed
  | editing (path draft : String)
  deriving DecidableEq

/-- The path that the editor is open on. -/
def Editor.path? : Editor → Option String
  | .closed => none
  | .editing path _ => some path

/-- A line that was executed, and what it printed. -/
structure HistoryEntry where
  command : String
  output : Output
  time : TimeOfDay
  deriving DecidableEq

def HistoryEntry.toJson (entry : HistoryEntry) : Json.Value :=
  .object [("command", .string entry.command), ("output", entry.output.toJson),
    ("timestamp", .string (String.ofList (Instant.clockText entry.time)))]

/-- Why a session refuses what it is asked for. -/
inductive SessionError where
  | editorOpen (path : String)
  | editorClosed
  | editorPathMismatch (opened requested : String)
  | files (cause : FileError)
  deriving DecidableEq

def SessionError.message : SessionError → String
  | .editorOpen path => "editor is open on '" ++ path ++ "'; save or cancel first"
  | .editorClosed => "no file is open in the editor"
  | .editorPathMismatch opened requested =>
    "editor is open on '" ++ opened ++ "', not '" ++ requested ++ "'"
  | .files cause => cause.message

structure Session (σ : Type) where
  files : FileSystem
  cwd : String
  editor : Editor
  /-- The oldest entry first. -/
  history : List HistoryEntry
  /-- How often the history was cleared. -/
  clears : Nat
  /-- The key that the file system is written back under. -/
  key : String
  store : σ
  /-- What was logged, the oldest event first. -/
  log : List Log.Event

namespace Session

variable {σ : Type} [Storage σ]

/-! ## Logging -/

def sessionTarget : String := "vterm::session::session"
def loadTarget : String := "vterm::storage::persistence"

def logged (session : Session σ) (events : List Log.Event) : Session σ :=
  { session with log := session.log ++ events }

/-! ## Loading and writing back -/

/-- The file system under a key, if a usable one is stored, and what is logged about it. -/
def load (store : σ) (key : String) : Option FileSystem × List Log.Event :=
  match Storage.get store key with
  | .error error =>
    (none, [⟨.warn, loadTarget, "could not read stored file system",
      [("key", key), ("error", error.message)]⟩])
  | .ok none => (none, [])
  | .ok (some text) =>
    match FileSystem.ofStored? text with
    | some files =>
      (some files, [⟨.debug, loadTarget, "loaded file system",
        [("key", key), ("entries", toString files.size)]⟩])
    | none =>
      (none, [⟨.warn, loadTarget, "stored file system is malformed, ignoring it",
        [("key", key), ("error", "malformed")]⟩])

/-- The file system is written to the store. -/
def persist (session : Session σ) : Session σ :=
  match Storage.set session.store session.key session.files.stored with
  | (.ok (), store) =>
    { session with store, log := session.log ++ Storage.report store session.key }
  | (.error error, store) =>
    { session with
      store
      log := session.log ++ [⟨.warn, sessionTarget, "failed to persist file system",
        [("key", Text.quoted session.key), ("error", error.message)]⟩] }

/-! ## Starting -/

/-- The directory to stand in: the requested one, or the root if there is no such directory. -/
def startDirectory (files : FileSystem) (requested : String) : String × List Log.Event :=
  match files.requireDirectory requested with
  | .ok () => (requested, [])
  | .error error =>
    ("/", [⟨.warn, sessionTarget, "starting directory unusable, falling back to /",
      [("cwd", requested), ("error", error.message)]⟩])

/-- A session on what is stored under its key. Where nothing usable is, a new file system is made and
    written back at once. -/
def start (now : Instant) (options : SessionOptions) (store : σ) : Session σ :=
  let key := options.key.getD defaultKey
  let (stored, loading) := load store key
  let files := stored.getD (.seeded now)
  let ready : Log.Event := ⟨.info, sessionTarget, "file system ready",
    [("entries", toString files.size), ("seeded", if stored.isNone then "true" else "false")]⟩
  let (cwd, falling) := startDirectory files (options.cwd.getD defaultDirectory)
  let session : Session σ :=
    { files, cwd, editor := .closed, history := [], clears := 0, key, store
      log := loading ++ ready :: falling }
  if stored.isNone then session.persist else session

/-! ## The editor -/

/-- The content of a file becomes the draft. -/
def openEditor (session : Session σ) (path : String) : Except SessionError String × Session σ :=
  match session.editor with
  | .editing opened _ => (.error (.editorOpen opened), session)
  | .closed =>
    match session.files.read path with
    | .error cause => (.error (.files cause), session)
    | .ok draft => (.ok draft, { session with editor := .editing path draft })

/-- Another draft. -/
def setDraft (session : Session σ) (draft : String) : Except SessionError Unit × Session σ :=
  match session.editor with
  | .closed => (.error .editorClosed, session)
  | .editing path _ => (.ok (), { session with editor := .editing path draft })

/-- `content` is written to the open file, which has to be `path`, and the editor closes. -/
def saveEditor (now : Instant) (session : Session σ) (path content : String) :
    Except SessionError Unit × Session σ :=
  match session.editor with
  | .closed => (.error .editorClosed, session)
  | .editing opened _ =>
    if opened ≠ path then (.error (.editorPathMismatch opened path), session)
    else
      match (Edit.write now path content).run session.files with
      | .error cause files => (.error (.files cause), { session with files })
      | .ok () files =>
        let saved := { session with files, editor := .closed }.logged
          [⟨.debug, sessionTarget, "editor saved", [("path", Text.quoted path)]⟩]
        (.ok (), saved.persist)

/-- The draft is written to the open file. -/
def commitDraft (now : Instant) (session : Session σ) : Except SessionError Unit × Session σ :=
  match session.editor with
  | .closed => (.error .editorClosed, session)
  | .editing path draft => saveEditor now session path draft

/-- The draft is thrown away. -/
def cancelEditor (session : Session σ) : Session σ := { session with editor := .closed }

/-! ## Lines -/

def record (session : Session σ) (clock : Clock) (command : String) (output : Output) : Session σ :=
  { session with history := session.history ++ [⟨command, output, clock.wall⟩] }

/-- What a command asked for is done. -/
def apply (session : Session σ) : Effect → Session σ
  | .changeDirectory path => { session with cwd := path }
  | .clearHistory => { session with history := [], clears := session.clears + 1 }
  | .openEditor path =>
    match session.openEditor path with
    | (.ok _, opened) => opened
    | (.error error, same) =>
      same.logged [⟨.warn, sessionTarget, "could not open editor",
        [("path", path), ("error", error.message)]⟩]

/-- The file system is written back if it has changed. -/
def save (session : Session σ) (changed : Bool) : Session σ :=
  if changed then session.persist else session

/-- What a command asked for, if anything, is done. -/
def follow (session : Session σ) : Option Effect → Session σ
  | some effect => session.apply effect
  | none => session

/-- What a command printed, if anything, is recorded. -/
def note (session : Session σ) (clock : Clock) (line : String) : Option Output → Session σ
  | some output => session.record clock line output
  | none => session

/-- A command that succeeded: its changes are written back, then its effect and its output follow. -/
def settle (session : Session σ) (clock : Clock) (line : String) (reply : Reply) : Session σ :=
  ((session.save reply.changed).follow reply.effect).note clock line reply.output

/-- A command with its arguments. -/
def dispatch (session : Session σ) (clock : Clock) (line : String) (command : Command)
    (arguments : List String) : Session σ :=
  let session := session.logged [⟨.debug, sessionTarget, "dispatching",
    [("command", Text.quoted command.name), ("args", toString arguments.length),
     ("cwd", session.cwd)]⟩]
  let outcome := command.run clock.stamp arguments session.cwd session.files
  let session := { session with files := outcome.files }
  match outcome.answer with
  | .ok reply => session.settle clock line reply
  | .error error => session.record clock line (.text error.message)

/-- One submitted line. A blank line does nothing; a failing or unknown command is recorded like any
    other. The line is refused only while the editor is open. -/
def execute (clock : Clock) (session : Session σ) (line : String) :
    Except SessionError Unit × Session σ :=
  match session.editor with
  | .editing path _ => (.error (.editorOpen path), session)
  | .closed =>
    let line := Text.trim line
    match Text.words line with
    | [] => (.ok (), session)
    | name :: arguments =>
      match Registry.builtin.find? name with
      | some command => (.ok (), session.dispatch clock line command arguments)
      | none =>
        let session := session.logged [⟨.debug, sessionTarget, "unknown command",
          [("command", Text.quoted name)]⟩]
        (.ok (), session.record clock line (.text ("Command not found: " ++ name)))

/-- A line that runs a command which takes its time. -/
def isSlow (session : Session σ) (line : String) : Bool :=
  match session.editor, Text.words (Text.trim line) with
  | .closed, name :: arguments =>
    match Registry.builtin.find? name with
    | some command => command.isSlow arguments
    | none => false
  | _, _ => false

/-- The text before a line that is typed. -/
def prompt (session : Session σ) : String := session.cwd ++ " $ "

/-- The history as a JSON value. -/
def historyJson (session : Session σ) : Json.Value :=
  .array (session.history.map HistoryEntry.toJson)

end Session
end PathShell
