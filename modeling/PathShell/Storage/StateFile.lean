import PathShell.Json.Printer
import PathShell.Json.Reader
import PathShell.Storage.Disk
import PathShell.Text.Blank
import PathShell.Text.Quoted

/-!
# The state file

A store that keeps all its keys in one JSON object on disk, in the order of the keys. Every change
writes the whole text beside the file and then puts it in its place, so that the file is never half
written; and it reads the file first, so that a file which cannot be read is never replaced.
-/

namespace PathShell

/-- A store in the file at `path`. -/
structure StateFile where
  path : String
  disk : Disk

namespace StateFile

/-- The members of an object, where all of them are texts. -/
def texts? : List (String × Json.Value) → Option (List (String × String))
  | [] => some []
  | (key, .string text) :: rest => (texts? rest).map ((key, text) :: ·)
  | _ => none

/-- The cells that a JSON value holds. -/
def cells? : Json.Value → Option (OrderedMap String)
  | .object members => (texts? members).map .ofList
  | _ => none

/-- What the file holds; nothing where it is missing or blank. -/
def readAll (file : StateFile) : Except StorageError (OrderedMap String) :=
  match file.disk.readText file.path with
  | .error .notFound => .ok .empty
  | .error error => .error (.files error)
  | .ok text =>
    if (Text.skipBlanks text.toList).isEmpty then .ok .empty
    else
      match (Json.read? text).bind cells? with
      | some cells => .ok cells
      | none => .error .malformed

/-- A cell among cells in the order of their keys. -/
def insertSorted (cell : String × String) : List (String × String) → List (String × String)
  | [] => [cell]
  | next :: rest => if cell.1 < next.1 then cell :: next :: rest else next :: insertSorted cell rest

/-- Cells in the order of their keys. -/
def sorted (cells : List (String × String)) : List (String × String) :=
  cells.foldr insertSorted []

/-- The text of the file. -/
def written (cells : OrderedMap String) : String :=
  (Json.Value.object ((sorted cells.entries).map fun cell => (cell.1, .string cell.2))).indented

/-- The file that a change is written to first. -/
def temporary (file : StateFile) : String := file.path ++ ".tmp"

/-- The text becomes the content of the file. -/
def replace (file : StateFile) (text : String) : Except StorageError Unit × StateFile :=
  match file.disk.makeParents file.path with
  | (.error error, disk) => (.error (.files error), { file with disk })
  | (.ok (), disk) =>
    match disk.writeText file.temporary text with
    | .error error => (.error (.files error), { file with disk })
    | .ok disk =>
      match disk.rename file.temporary file.path with
      | .error error => (.error (.files error), { file with disk })
      | .ok disk => (.ok (), { file with disk })

instance : Storage StateFile where
  get file key := file.readAll.map fun cells => cells.get? key
  set file key value :=
    match file.readAll with
    | .error error => (.error error, file)
    | .ok cells => file.replace (written (cells.insert key value))
  report file key :=
    [⟨.debug, "vterm::storage::file", "state written",
      [("path", file.path), ("key", Text.quoted key)]⟩]

end StateFile
end PathShell
