import PathShell.Toml.Document

/-!
# Settings

The settings of the program, from a TOML document with three sections. Everything may be left out, and
nothing else may be there. A section may also be an array of its fields in order, as many as are
given.
-/

namespace PathShell

structure ShellSettings where
  cwd : Option String
  weatherDelay : Option Nat
  storageKey : Option String
  deriving DecidableEq

structure Settings where
  shell : ShellSettings
  /-- The file that the file system is kept in. -/
  storagePath : Option String
  /-- Which log events are shown. -/
  logLevel : Option String
  deriving DecidableEq

namespace Settings

/-- Nothing is set. -/
def default : Settings := ⟨⟨none, none, none⟩, none, none⟩

instance : Inhabited Settings := ⟨default⟩

/-- A field of a section: its name, and what its value does to the settings. -/
structure Field where
  name : String
  set : Toml.Value → Settings → Option Settings

/-- A field that holds a text. -/
def textField (name : String) (set : String → Settings → Settings) : Field where
  name
  set
    | .string text, settings => some (set text settings)
    | _, _ => none

/-- A field that holds a natural number. -/
def numberField (name : String) (set : Nat → Settings → Settings) : Field where
  name
  set
    | .integer value, settings => if 0 ≤ value then some (set value.toNat settings) else none
    | _, _ => none

/-- The sections with their fields. -/
def sections : List (String × List Field) :=
  [("shell",
    [textField "cwd" fun text settings => { settings with shell.cwd := some text },
     numberField "weather_delay_ms" fun delay settings =>
       { settings with shell.weatherDelay := some delay },
     textField "storage_key" fun text settings => { settings with shell.storageKey := some text }]),
   ("storage", [textField "path" fun text settings => { settings with storagePath := some text }]),
   ("logging", [textField "level" fun text settings => { settings with logLevel := some text }])]

/-- The entries of a table set the fields of their names. -/
def setEntries (fields : List Field) : Toml.Entries → Settings → Option Settings
  | [], settings => some settings
  | (name, value) :: rest, settings =>
    match fields.find? (·.name = name) with
    | none => none
    | some field => (field.set value settings).bind (setEntries fields rest)

/-- The items of an array set the fields in turn. -/
def setItems : List Field → List Toml.Value → Settings → Option Settings
  | field :: fields, value :: values, settings =>
    (field.set value settings).bind (setItems fields values)
  | _, _, settings => some settings

/-- A section. -/
def setSection (fields : List Field) (value : Toml.Value) (settings : Settings) : Option Settings :=
  match value with
  | .table _ entries => setEntries fields entries settings
  | .array items => setItems fields items settings
  | _ => none

/-- The sections of a document. -/
def setSections : Toml.Entries → Settings → Option Settings
  | [], settings => some settings
  | (name, value) :: rest, settings =>
    match sections.lookup name with
    | none => none
    | some fields => (setSection fields value settings).bind (setSections rest)

/-- The settings that a document holds. -/
def ofToml? (text : String) : Option Settings :=
  (Toml.read? text).bind fun entries => setSections entries default

end Settings
end PathShell
