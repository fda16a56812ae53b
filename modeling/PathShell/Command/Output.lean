import PathShell.FileSystem
import PathShell.Json.Printer
import PathShell.Text.Pieces

/-!
# What commands print
-/

namespace PathShell

/-- One line of the help screen. -/
structure HelpTopic where
  usage : String
  description : String
  deriving DecidableEq

namespace Help

def commands : List HelpTopic :=
  [⟨"help", "Show this help message"⟩,
   ⟨"clear", "Clear terminal"⟩,
   ⟨"echo [text]", "Display text"⟩,
   ⟨"ls", "List directory contents"⟩,
   ⟨"cd [path]", "Change directory"⟩,
   ⟨"cat [file]", "Display file contents"⟩,
   ⟨"touch [file]", "Create new file"⟩,
   ⟨"mkdir [dir]", "Create new directory"⟩,
   ⟨"rm [file/dir]", "Remove file or directory"⟩,
   ⟨"edit [file]", "Edit file contents"⟩,
   ⟨"weather [city]", "Get weather info"⟩,
   ⟨"calc [expression]", "Calculate expression"⟩,
   ⟨"mv [source] [destination]", "Move or rename files and directories"⟩,
   ⟨"cp [source] [destination]", "Copy files and directories"⟩,
   ⟨"grep [pattern] [file]", "Search for a pattern in a file"⟩]

def examples : List HelpTopic :=
  [⟨"echo Hello World", "Displays \"Hello World\""⟩,
   ⟨"cd /home/user/docs", "Changes directory to /home/user/docs"⟩,
   ⟨"cat file.txt", "Displays contents of file.txt"⟩,
   ⟨"mv oldname.txt newname.txt", "Renames oldname.txt to newname.txt"⟩,
   ⟨"cp file1.txt file2.txt", "Copies file1.txt to file2.txt"⟩,
   ⟨"grep search file.txt", "Searches for \"search\" in file.txt"⟩]

/-- A topic as a line of the screen. -/
def line (topic : HelpTopic) : String := "  " ++ topic.usage ++ ": " ++ topic.description

/-- The whole screen. -/
def screen : String :=
  Text.join "\n"
    (("Available commands:" :: commands.map line) ++ ("" :: "Examples:" :: examples.map line))

def topicJson (topic : HelpTopic) : Json.Value :=
  .object [("usage", .string topic.usage), ("description", .string topic.description)]

end Help

/-- What a command shows. -/
inductive Output where
  /-- A message. -/
  | text (text : String)
  /-- The content of a file, shown with its white space. -/
  | preformatted (text : String)
  | listing (entries : List ListedEntry)
  | help
  deriving DecidableEq

/-- A directory is listed with a slash. -/
def ListedEntry.shown (entry : ListedEntry) : String :=
  if entry.isDirectory then entry.name ++ "/" else entry.name

def ListedEntry.toJson (entry : ListedEntry) : Json.Value :=
  .object [("name", .string entry.name), ("is_directory", .bool entry.isDirectory)]

namespace Output

/-- The text on the screen. -/
def display : Output → String
  | .text shown => shown
  | .preformatted shown => shown
  | .listing entries => Text.join "  " (entries.map ListedEntry.shown)
  | .help => Help.screen

/-- A kind and a value. -/
def toJson : Output → Json.Value
  | .text shown => .object [("kind", .string "text"), ("value", .string shown)]
  | .preformatted shown => .object [("kind", .string "preformatted"), ("value", .string shown)]
  | .listing entries =>
    .object [("kind", .string "listing"), ("value", .array (entries.map ListedEntry.toJson))]
  | .help =>
    .object [("kind", .string "help"),
      ("value", .object [("commands", .array (Help.commands.map Help.topicJson)),
        ("examples", .array (Help.examples.map Help.topicJson))])]

end Output
end PathShell
