import PathShell.Calc.Machine
import PathShell.Command.Output

/-!
# Commands

What each command does with its arguments, in a working directory of a file system. All names but the
target of `cd` stand for entries of the working directory. A command edits the file system it is given,
and one that may have changed it says so.
-/

namespace PathShell

inductive Command where
  | calc
  | cat
  | cd
  | clear
  | cp
  | echo
  | edit
  | grep
  | help
  | ls
  | mkdir
  | mv
  | rm
  | touch
  | weather
  deriving DecidableEq

/-- What a command asks of the session. -/
inductive Effect where
  | changeDirectory (path : String)
  | clearHistory
  | openEditor (path : String)
  deriving DecidableEq

/-- The answer of a command that succeeds. -/
structure Reply where
  /-- Nothing is recorded without it. -/
  output : Option Output
  effect : Option Effect
  /-- The file system has to be written back. -/
  changed : Bool
  deriving DecidableEq

/-- Why a command fails. -/
inductive CommandError where
  | missingArgument (request : String)
  | evaluation (failure : Calc.Failure)
  | files (report : String) (cause : FileError)

/-- What is recorded of a failure. -/
def CommandError.message : CommandError → String
  | .missingArgument request => request
  | .evaluation _ => "Invalid expression"
  | .files report _ => report

/-- What a command answers, and the file system as it leaves it. -/
structure Outcome where
  answer : Except CommandError Reply
  files : FileSystem

namespace Reply

def message (text : String) : Reply := ⟨some (.text text), none, false⟩
def printing (output : Output) : Reply := ⟨some output, none, false⟩
def silent : Reply := ⟨none, none, false⟩
def requesting (reply : Reply) (effect : Effect) : Reply := { reply with effect := some effect }
def changing (reply : Reply) : Reply := { reply with changed := true }

end Reply

namespace Command

def name : Command → String
  | .calc => "calc"
  | .cat => "cat"
  | .cd => "cd"
  | .clear => "clear"
  | .cp => "cp"
  | .echo => "echo"
  | .edit => "edit"
  | .grep => "grep"
  | .help => "help"
  | .ls => "ls"
  | .mkdir => "mkdir"
  | .mv => "mv"
  | .rm => "rm"
  | .touch => "touch"
  | .weather => "weather"

/-- Every command, in the order of their names. -/
def all : List Command :=
  [.calc, .cat, .cd, .clear, .cp, .echo, .edit, .grep, .help, .ls, .mkdir, .mv, .rm, .touch,
   .weather]

/-- What a command does to the file system, up to its reply or its failure. -/
abbrev Action := Edit CommandError Reply

/-- The argument at a position, or the request for it. -/
def argument (arguments : List String) (position : Nat) (request : String) :
    Edit CommandError String :=
  match arguments[position]? with
  | some value => return value
  | none => throw (.missingArgument request)

/-- A file operation, its failure under the report that the user sees. -/
def reporting {α : Type} (report : String) (edit : Edit FileError α) : Edit CommandError α :=
  edit.adaptExcept (.files report)

/-- The arguments are one expression, glued together. -/
def calculate (arguments : List String) : Action := do
  let expression := String.join arguments
  match Calc.evaluate expression with
  | .ok value => return .message (expression ++ " = " ++ Calc.display value)
  | .error failure => throw (.evaluation failure)

def showFile (arguments : List String) (cwd : String) : Action := do
  let name ← argument arguments 0 "Please specify a file"
  let content ← reporting "File not found" (.ask (·.read (Path.join cwd name)))
  return .printing (.preformatted content)

def changeDirectory (arguments : List String) (cwd : String) : Action := do
  let target ← argument arguments 0 "Please specify a directory"
  let path := Path.resolve target cwd
  reporting "Directory not found" (.ask (·.requireDirectory path))
  return (Reply.message ("Changed directory to " ++ path)).requesting (.changeDirectory path)

def openEditor (arguments : List String) (cwd : String) : Action := do
  let name ← argument arguments 0 "Please specify a file name"
  let path := Path.join cwd name
  let _ ← reporting "File not found" (.ask (·.read path))
  return (Reply.message "Opening editor...").requesting (.openEditor path)

/-- The lines that contain a pattern, in order. -/
def matchingLines (pattern content : String) : List String :=
  (Text.pieces '\n' content).filter (Text.contains pattern)

def search (arguments : List String) (cwd : String) : Action := do
  let pattern ← argument arguments 0 "Please specify a pattern and a file"
  let name ← argument arguments 1 "Please specify a pattern and a file"
  let content ← reporting "File not found" (.ask (·.read (Path.join cwd name)))
  let found := matchingLines pattern content
  let text :=
    if content.isEmpty then "File is empty"
    else if found.isEmpty then "No matches found"
    else Text.join "\n" found
  return .message text

def makeDirectory (arguments : List String) (cwd : String) : Action := do
  let name ← argument arguments 0 "Please specify a directory name"
  reporting ("Error: " ++ name ++ " already exists") (.makeDirectory (Path.join cwd name))
  return (Reply.message ("Created directory: " ++ name)).changing

/-- What the user sees of a failed transfer. -/
def transferReport (source : String) : FileError → String
  | .invalidTarget .. => "Error: cannot place " ++ source ++ " inside itself"
  | _ => "Error: " ++ source ++ " does not exist"

/-- Moving and copying differ in what they do and how it is called. -/
def transfer (operation : String → String → Edit FileError Unit) (done : String)
    (arguments : List String) (cwd : String) : Action := do
  let source ← argument arguments 0 "Please specify source and destination"
  let target ← argument arguments 1 "Please specify source and destination"
  (operation (Path.join cwd source) (Path.join cwd target)).adaptExcept fun cause =>
    .files (transferReport source cause) cause
  return (Reply.message (done ++ " " ++ source ++ " to " ++ target)).changing

def remove (arguments : List String) (cwd : String) : Action := do
  let name ← argument arguments 0 "Please specify a file or directory name"
  let _ ← reporting ("Error: " ++ name ++ " does not exist") (.remove (Path.join cwd name))
  return (Reply.message ("Removed " ++ name)).changing

def createFile (now : Instant) (arguments : List String) (cwd : String) : Action := do
  let name ← argument arguments 0 "Please specify a file name"
  Edit.touch now (Path.join cwd name)
  return (Reply.message ("Created file: " ++ name)).changing

/-- The same weather everywhere. -/
def forecast (arguments : List String) : Action :=
  let city := Text.join " " arguments
  if city.isEmpty then throw (.missingArgument "Please specify a city")
  else return .message ("Weather in " ++ city ++ ": 22°C, Partly Cloudy")

/-- A forecast for a city takes its time. -/
def isSlow (command : Command) (arguments : List String) : Bool :=
  command = .weather && !(Text.join " " arguments).isEmpty

def action (now : Instant) (command : Command) (arguments : List String) (cwd : String) : Action :=
  match command with
  | .calc => calculate arguments
  | .cat => showFile arguments cwd
  | .cd => changeDirectory arguments cwd
  | .clear => return Reply.silent.requesting .clearHistory
  | .cp => transfer .copy "Copied" arguments cwd
  | .echo => return .message (Text.join " " arguments)
  | .edit => openEditor arguments cwd
  | .grep => search arguments cwd
  | .help => return .printing .help
  | .ls => return .printing (.listing ((← get).list cwd))
  | .mkdir => makeDirectory arguments cwd
  | .mv => transfer .move "Moved" arguments cwd
  | .rm => remove arguments cwd
  | .touch => createFile now arguments cwd
  | .weather => forecast arguments

/-- A command with its arguments, in the working directory `cwd`. -/
def run (now : Instant) (command : Command) (arguments : List String) (cwd : String)
    (fs : FileSystem) : Outcome :=
  match (command.action now arguments cwd).run fs with
  | .ok reply files => ⟨.ok reply, files⟩
  | .error error files => ⟨.error error, files⟩

end Command

/-! ## Looking commands up -/

/-- The commands that a shell knows. -/
structure Registry where
  commands : List Command

namespace Registry

def empty : Registry := ⟨[]⟩
def builtin : Registry := ⟨Command.all⟩

/-- The names, in order. -/
def names (registry : Registry) : List String := registry.commands.map Command.name

/-- The command of exactly that name. -/
def find? (registry : Registry) (name : String) : Option Command :=
  registry.commands.find? (·.name = name)

def contains (registry : Registry) (name : String) : Bool := (registry.find? name).isSome

end Registry
end PathShell
