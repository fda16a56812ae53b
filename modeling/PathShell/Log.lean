import PathShell.Instant.Text

/-!
# Log events
-/

namespace PathShell
namespace Log

inductive Level where
  | error
  | warn
  | info
  | debug
  | trace
  deriving DecidableEq

/-- How much a level lets through: each includes those before it. -/
def Level.rank : Level → Nat
  | .error => 1
  | .warn => 2
  | .info => 3
  | .debug => 4
  | .trace => 5

/-- The name, in the five columns of a log line. -/
def Level.column : Level → String
  | .error => "ERROR"
  | .warn => " WARN"
  | .info => " INFO"
  | .debug => "DEBUG"
  | .trace => "TRACE"

/-- Something that happened, with what it happened to. -/
structure Event where
  level : Level
  /-- The part of the program that reports it. -/
  target : String
  message : String
  fields : List (String × String)
  deriving DecidableEq

/-- The line of an event. -/
def Event.line (now : Instant) (event : Event) : String :=
  now.stampText ++ " " ++ event.level.column ++ " " ++ event.target ++ ": " ++ event.message
    ++ String.join (event.fields.map fun field => " " ++ field.1 ++ "=" ++ field.2) ++ "\n"

end Log
end PathShell
