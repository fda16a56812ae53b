import PathShell.FileSystem
import PathShell.Instant.Text
import PathShell.Json.Printer
import PathShell.Json.Reader

/-!
# The stored form

A file system is stored as one JSON object with a member per path. A node is an object: `type` says
what it is, and a file adds `content` and `lastModified`. The size of a file is written but never
read. A node may also be an array of the type and then the other two in order.
-/

namespace PathShell

/-! ## Writing -/

/-- The size is written as a number of 64 bits. -/
def File.toJson (file : File) : Json.Value :=
  .object [("type", .string "file"), ("content", .string file.content),
    ("size", .ofNat file.size.toUInt64.toNat), ("lastModified", .string file.modified.text)]

def Node.toJson : Node → Json.Value
  | .file data => data.toJson
  | .directory => .object [("type", .string "directory")]

/-- One member per path, in insertion order. -/
def FileSystem.toJson (fs : FileSystem) : Json.Value :=
  .object (fs.entries.entries.map fun entry => (entry.1, entry.2.toJson))

/-- The stored text. -/
def FileSystem.stored (fs : FileSystem) : String := fs.toJson.compact

/-! ## Reading -/

/-- The one value of a member, where there is one; a member that comes twice is an error. -/
def soleMember? (name : String) (members : List (String × Json.Value)) :
    Option (Option Json.Value) :=
  match members.filter (·.1 = name) with
  | [] => some none
  | [member] => some (some member.2)
  | _ => none

/-- The content of a file; empty where there is none. -/
def storedContent? : Option Json.Value → Option String
  | none => some ""
  | some (.string text) => some text
  | some _ => none

/-- The time of a file; the epoch where there is none, or `null`. -/
def storedInstant? : Option Json.Value → Option Instant
  | none | some .null => some .epoch
  | some (.string text) => Instant.ofText? text
  | some _ => none

/-- A file from its content and its time. -/
def File.ofParts? (content modified : Option Json.Value) : Option File :=
  match storedContent? content, storedInstant? modified with
  | some content, some modified => some ⟨content, modified⟩
  | _, _ => none

/-- A node from the members of an object. Those that do not belong to its type are not looked at. -/
def Node.ofMembers? (members : List (String × Json.Value)) : Option Node :=
  match soleMember? "type" members with
  | some (some (.string kind)) =>
    if kind = "directory" then some .directory
    else if kind = "file" then
      match soleMember? "content" members, soleMember? "lastModified" members with
      | some content, some modified => (File.ofParts? content modified).map .file
      | _, _ => none
    else none
  | _ => none

/-- A node from the items of an array. -/
def Node.ofItems? : List Json.Value → Option Node
  | .string kind :: rest =>
    if kind = "directory" then if rest.isEmpty then some .directory else none
    else if kind = "file" then
      match rest with
      | [] => (File.ofParts? none none).map .file
      | [content] => (File.ofParts? (some content) none).map .file
      | [content, modified] => (File.ofParts? (some content) (some modified)).map .file
      | _ => none
    else none
  | _ => none

def Node.ofJson? : Json.Value → Option Node
  | .object members => Node.ofMembers? members
  | .array items => Node.ofItems? items
  | _ => none

/-- The nodes of the members; every one has to be a node. -/
def FileSystem.nodes? : List (String × Json.Value) → Option (List (String × Node))
  | [] => some []
  | (path, value) :: rest =>
    match Node.ofJson? value, nodes? rest with
    | some node, some nodes => some ((path, node) :: nodes)
    | _, _ => none

/-- A file system from a JSON value. A root directory is added where there is no `/`. -/
def FileSystem.ofJson? : Json.Value → Option FileSystem
  | .object members =>
    (FileSystem.nodes? members).map fun nodes => (⟨.ofList nodes⟩ : FileSystem).ensureRoot
  | _ => none

/-- The file system that a stored text holds. -/
def FileSystem.ofStored? (text : String) : Option FileSystem :=
  (Json.read? text).bind FileSystem.ofJson?

end PathShell
