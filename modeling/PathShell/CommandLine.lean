import PathShell.Text.Pieces

/-!
# The command line

Arguments are read from the left. The first mistake ends the reading, and so does a request for help
or for the version.
-/

namespace PathShell

/-- What the program is asked to do. -/
structure Invocation where
  config : Option String
  state : Option String
  memory : Bool
  cwd : Option String
  /-- Lines to run in place of standard input. -/
  commands : List String
  json : Bool
  deriving DecidableEq

/-- Why the program does not start. -/
inductive Refusal where
  | help
  | version
  | unknownArgument (argument : String)
  | repeated (option : String)
  | missingValue (option : String)
  | emptyValue (option : String)
  | unexpectedValue (option : String)
  | conflict (first second : String)
  deriving DecidableEq

namespace CommandLine

/-- The options that take a value. -/
inductive ValueOption where
  | config
  | state
  | cwd
  | command
  deriving DecidableEq

/-- The options that stand alone. -/
inductive Switch where
  | memory
  | json
  | help
  | version
  deriving DecidableEq

def ValueOption.spelling : ValueOption → String
  | .config => "--config <CONFIG>"
  | .state => "--state <STATE>"
  | .cwd => "--cwd <CWD>"
  | .command => "-c <COMMANDS>"

def Switch.spelling : Switch → String
  | .memory => "--memory"
  | .json => "--json"
  | .help => "--help"
  | .version => "--version"

/-- An option with its value, if it takes one, or a mistake. -/
inductive Item where
  | value (option : ValueOption) (value : String)
  | switch (switch : Switch)
  | mistake (refusal : Refusal)

def longOption? (name : String) : Option (ValueOption ⊕ Switch) :=
  if name = "config" then some (.inl .config)
  else if name = "state" then some (.inl .state)
  else if name = "cwd" then some (.inl .cwd)
  else if name = "memory" then some (.inr .memory)
  else if name = "json" then some (.inr .json)
  else if name = "help" then some (.inr .help)
  else if name = "version" then some (.inr .version)
  else none

def shortOption? (letter : Char) : Option (ValueOption ⊕ Switch) :=
  if letter = 'c' then some (.inl .command)
  else if letter = 'h' then some (.inr .help)
  else if letter = 'V' then some (.inr .version)
  else none

/-- An argument that looks like an option; a single dash does not. -/
def looksLikeOption (argument : String) : Bool :=
  match argument.toList with
  | '-' :: _ :: _ => true
  | _ => false

/-- The value in the argument after an option, and the arguments after that. -/
def nextValue (option : ValueOption) : List String → Item × List String
  | value :: rest =>
    if looksLikeOption value then (.mistake (.missingValue option.spelling), [])
    else (.value option value, rest)
  | [] => (.mistake (.missingValue option.spelling), [])

/-- A long option without its dashes, its value behind an equals sign or in the next argument. -/
def longItem (text : String) (rest : List String) : Item × List String :=
  let name := text.toList.takeWhile (· ≠ '=')
  let attached := text.toList.drop name.length
  match longOption? (String.ofList name), attached with
  | none, _ => (.mistake (.unknownArgument ("--" ++ text)), [])
  | some (.inl option), [] => nextValue option rest
  | some (.inl option), _ :: value => (.value option (String.ofList value), rest)
  | some (.inr switch), [] => (.switch switch, rest)
  | some (.inr switch), _ => (.mistake (.unexpectedValue switch.spelling), [])

/-- A short option, its value in the same argument, with or without an equals sign, or in the next. -/
def shortItem (letter : Char) (attached : List Char) (rest : List String) : Item × List String :=
  match shortOption? letter, attached with
  | none, _ => (.mistake (.unknownArgument (String.ofList ['-', letter])), [])
  | some (.inl option), [] => nextValue option rest
  | some (.inl option), '=' :: value => (.value option (String.ofList value), rest)
  | some (.inl option), value => (.value option (String.ofList value), rest)
  | some (.inr switch), _ => (.switch switch, rest)

/-- The first item of the arguments, and those after it. Two dashes end the options. -/
def item (argument : String) (rest : List String) : Item × List String :=
  match argument.toList with
  | ['-', '-'] => (.mistake (.unknownArgument (rest.headD argument)), [])
  | '-' :: '-' :: text => longItem (String.ofList text) rest
  | '-' :: letter :: attached => shortItem letter attached rest
  | _ => (.mistake (.unknownArgument argument), [])

/-- A value for an option that takes one only once. -/
def once (option : ValueOption) (old : Option String) (set : Invocation) :
    Except Refusal Invocation :=
  if old.isSome then .error (.repeated option.spelling) else .ok set

/-- What an item adds. A file name is not empty. -/
def add (invocation : Invocation) : Item → Except Refusal Invocation
  | .value .config value =>
    if value = "" then .error (.emptyValue ValueOption.config.spelling)
    else once .config invocation.config { invocation with config := some value }
  | .value .state value =>
    if value = "" then .error (.emptyValue ValueOption.state.spelling)
    else once .state invocation.state { invocation with state := some value }
  | .value .cwd value => once .cwd invocation.cwd { invocation with cwd := some value }
  | .value .command value => .ok { invocation with commands := invocation.commands ++ [value] }
  | .switch .memory =>
    if invocation.memory then .error (.repeated Switch.memory.spelling)
    else .ok { invocation with memory := true }
  | .switch .json =>
    if invocation.json then .error (.repeated Switch.json.spelling)
    else .ok { invocation with json := true }
  | .switch .help => .error .help
  | .switch .version => .error .version
  | .mistake refusal => .error refusal

/-- The arguments in turn. -/
def readAll (invocation : Invocation) : List String → Except Refusal Invocation
  | [] => .ok invocation
  | ["--"] => .ok invocation
  | argument :: rest =>
    let (first, after) := item argument rest
    match add invocation first with
    | .error refusal => .error refusal
    | .ok invocation =>
      if after.length ≤ rest.length then readAll invocation after else .ok invocation
termination_by arguments => arguments.length

/-- The invocation that arguments ask for. A state file and memory exclude each other. -/
def read (arguments : List String) : Except Refusal Invocation :=
  match readAll ⟨none, none, false, none, [], false⟩ arguments with
  | .error refusal => .error refusal
  | .ok invocation =>
    if invocation.memory && invocation.state.isSome then
      .error (.conflict Switch.memory.spelling ValueOption.state.spelling)
    else .ok invocation

def versionText : String := "vterm 0.1.0\n"

def helpText : String :=
  "A simulated terminal over a persistent virtual file system\n\n" ++
  "Usage: vterm [OPTIONS]\n\n" ++
  "Options:\n" ++
  "      --config <CONFIG>  TOML configuration file\n" ++
  "      --state <STATE>    JSON file the file system is saved to\n" ++
  "      --memory           Keep the file system in memory only\n" ++
  "      --cwd <CWD>        Starting working directory\n" ++
  "  -c <COMMANDS>          Run this line instead of reading stdin (repeatable)\n" ++
  "      --json             Print the resulting history as JSON (with -c)\n" ++
  "  -h, --help             Print help\n" ++
  "  -V, --version          Print version\n"

/-- What is wrong with the arguments. -/
def mistakeText : Refusal → String
  | .help => ""
  | .version => ""
  | .unknownArgument argument => "unexpected argument '" ++ argument ++ "' found"
  | .repeated option => "the argument '" ++ option ++ "' cannot be used multiple times"
  | .missingValue option => "a value is required for '" ++ option ++ "' but none was supplied"
  | .emptyValue option => "a value is required for '" ++ option ++ "' but none was supplied"
  | .unexpectedValue option => "unexpected value for '" ++ option ++ "' found; no more were expected"
  | .conflict first second => "the argument '" ++ first ++ "' cannot be used with '" ++ second ++ "'"

def usageText (refusal : Refusal) : String :=
  "error: " ++ mistakeText refusal ++
    "\n\nUsage: vterm [OPTIONS]\n\nFor more information, try '--help'.\n"

end CommandLine
end PathShell
