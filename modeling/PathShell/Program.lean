import PathShell.CommandLine
import PathShell.Log.Filter
import PathShell.Settings
import PathShell.Storage.StateFile
import PathShell.Terminal

/-!
# The program

Arguments, settings and what is on disk make a session; then it runs the lines of the arguments, or
those of standard input.
-/

namespace PathShell

/-- Where a session keeps its file system. -/
inductive Backend where
  | memory (store : MemoryStore)
  | file (file : StateFile)

instance : Storage Backend where
  get
    | .memory store, key => Storage.get store key
    | .file file, key => Storage.get file key
  set
    | .memory store, key, value => (Storage.set store key value).map id .memory
    | .file file, key, value => (Storage.set file key value).map id .file
  report
    | .memory store, key => Storage.report store key
    | .file file, key => Storage.report file key

/-- What the program finds when it starts. -/
structure Surroundings where
  arguments : List String
  /-- The log filter of the environment. -/
  logVariable : Option String
  disk : Disk

/-- A program that has started. -/
structure Running where
  invocation : Invocation
  filter : Log.Filter
  /-- How long a forecast takes, in milliseconds. -/
  forecastDelay : Nat
  session : Session Backend

/-- A program that has not: its exit code and what it says. -/
structure Exit where
  code : Nat
  out : String
  err : String
  deriving DecidableEq

/-- How a program ends. -/
structure Ending where
  exit : Exit
  disk : Disk

namespace Program

/-- The file that holds the file system where nothing else is said. -/
def defaultStateFile : String := "vterm-state.json"

/-- How long a forecast takes where nothing else is said, in milliseconds. -/
def defaultForecastDelay : Nat := 1000

def refuse : Refusal → Exit
  | .help => ⟨0, CommandLine.helpText, ""⟩
  | .version => ⟨0, CommandLine.versionText, ""⟩
  | refusal => ⟨2, "", CommandLine.usageText refusal⟩

/-- The settings of a configuration file. -/
def loadSettings (disk : Disk) : Option String → Except Exit Settings
  | none => .ok Settings.default
  | some path =>
    match disk.readText path with
    | .error error =>
      .error ⟨1, "", "Error: cannot read config file " ++ Text.quoted path ++ ": "
        ++ error.message ++ "\n"⟩
    | .ok text =>
      match Settings.ofToml? text with
      | some settings => .ok settings
      | none => .error ⟨1, "", "Error: invalid config: these are no settings\n"⟩

/-- The store that arguments and settings ask for; arguments come first. -/
def backend (invocation : Invocation) (settings : Settings) (disk : Disk) : Backend :=
  if invocation.memory then .memory ⟨.empty⟩
  else .file ⟨(invocation.state.or settings.storagePath).getD defaultStateFile, disk⟩

/-- The paths that a run asks the disk for. A configuration file that is already there may name the
    state file. -/
def paths (arguments : List String) (disk : Disk) : List String :=
  match CommandLine.read arguments with
  | .error _ => []
  | .ok invocation =>
    let settings := match loadSettings disk invocation.config with
      | .ok settings => settings
      | .error _ => Settings.default
    invocation.config.toList ++
      match backend invocation settings disk with
      | .memory _ => []
      | .file file => [file.path, file.temporary]

/-- The program starts, or exits at once. -/
def start (clock : Clock) (surroundings : Surroundings) : Except Exit Running :=
  match CommandLine.read surroundings.arguments with
  | .error refusal => .error (refuse refusal)
  | .ok invocation =>
    match loadSettings surroundings.disk invocation.config with
    | .error exit => .error exit
    | .ok settings =>
      .ok {
        invocation
        filter := Log.Filter.choose surroundings.logVariable settings.logLevel
        forecastDelay := settings.shell.weatherDelay.getD defaultForecastDelay
        session := Session.start clock.stamp
          ⟨invocation.cwd.or settings.shell.cwd, settings.shell.storageKey⟩
          (backend invocation settings surroundings.disk) }

/-- The disk as the session leaves it. -/
def diskAfter (disk : Disk) (session : Session Backend) : Disk :=
  match session.store with
  | .memory _ => disk
  | .file file => file.disk

/-- The session as it goes on where the disk has changed meanwhile. -/
def onDisk (disk : Disk) (session : Session Backend) : Session Backend :=
  match session.store with
  | .memory _ => session
  | .file file => { session with store := .file { file with disk } }

/-- What goes to standard output. -/
def outText (printed : List Printed) : String :=
  String.join (printed.map fun
    | .out text => text
    | .err _ => ""
    | .event .. => "")

/-- What goes to standard error: messages, and the log lines that the filter lets through. -/
def errText (filter : Log.Filter) (printed : List Printed) : String :=
  String.join (printed.map fun
    | .out _ => ""
    | .err text => text
    | .event time event => if filter.passes event then event.line time else "")

/-- Items that come one after the other, each with what the clock then shows. -/
def timed {α : Type} (readings : Nat → Clock) (items : List α) : List (Clock × α) :=
  items.zipIdx.map fun item => (readings item.2, item.1)

/-- A whole run: it starts at the time of `clock`, and looks at the clock again for each line. -/
def run (clock : Clock) (surroundings : Surroundings) (input : List UInt8)
    (readings : Nat → Clock := fun _ => clock) : Ending :=
  match start clock surroundings with
  | .error exit => ⟨exit, surroundings.disk⟩
  | .ok running =>
    let (printed, session) :=
      if running.invocation.commands.isEmpty then
        let inputs := Input.ofBytes input
        let (printed, terminal) := Terminal.run clock.now running.session (timed readings inputs)
          (readings inputs.length)
        (printed, terminal.session)
      else
        let (printed, session) := Batch.run running.invocation.json running.session.withoutLog
          (timed readings running.invocation.commands)
        (running.session.events clock.now ++ printed, session)
    ⟨⟨0, outText printed, errText running.filter printed⟩,
      diskAfter surroundings.disk session⟩

end Program
end PathShell
