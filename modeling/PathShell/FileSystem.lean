import PathShell.Node
import PathShell.OrderedMap
import PathShell.Path

/-!
# The file system

One flat map from paths to nodes. What lies in a directory follows from the keys alone: its
descendants are the keys below its stem. So listing and removal are scans over the keys, and no
operation asks whether the directories above a path exist. A change is an edit of the one file system
there is: nothing undoes what it did before it failed.
-/

namespace PathShell

/-- Nodes by path, in insertion order. -/
structure FileSystem where
  entries : OrderedMap Node
  deriving DecidableEq

/-- One line of a listing. -/
structure ListedEntry where
  name : String
  isDirectory : Bool
  deriving DecidableEq

namespace FileSystem

def get? (fs : FileSystem) (path : String) : Option Node := fs.entries.get? path

def contains (fs : FileSystem) (path : String) : Bool := fs.entries.contains path

def size (fs : FileSystem) : Nat := fs.entries.size

/-- The file system with `node` at `path`. -/
def insert (fs : FileSystem) (path : String) (node : Node) : FileSystem :=
  ⟨fs.entries.insert path node⟩

/-- Equal as maps: the order of the entries does not count. -/
def sameEntries (a b : FileSystem) : Bool := a.entries.sameEntries b.entries

/-- A root directory comes first where there is no node at `/`. -/
def ensureRoot (fs : FileSystem) : FileSystem := ⟨fs.entries.insertFront "/" .directory⟩

/-- Nothing but the root directory. -/
def root : FileSystem := (⟨.empty⟩ : FileSystem).ensureRoot

def sampleNote : String := "Welcome to the terminal!\nUse \"edit <filename>\" to edit files."

/-- What a new session finds: a home directory with one directory, which holds a note. -/
def seeded (now : Instant) : FileSystem :=
  ((((root.insert "/home" .directory).insert "/home/user" .directory).insert
    "/home/user/documents" .directory).insert
    "/home/user/documents/notes.txt" (.file ⟨sampleNote, now⟩))

/-- Fails unless there is a directory at `path`. -/
def requireDirectory (fs : FileSystem) (path : String) : Except FileError Unit :=
  match fs.get? path with
  | some .directory => .ok ()
  | some (.file _) => .error (.notADirectory path)
  | none => .error (.notFound path)

/-- The direct children of `dir`, in the order of their keys. -/
def list (fs : FileSystem) (dir : String) : List ListedEntry :=
  fs.entries.entries.filterMap fun entry =>
    (Path.childName? dir entry.1).map fun name => ⟨name, entry.2.isDirectory⟩

/-- The content of a file. -/
def read (fs : FileSystem) (path : String) : Except FileError String :=
  match fs.get? path with
  | some (.file file) => .ok file.content
  | some .directory => .error (.notAFile path)
  | none => .error (.notFound path)

/-- Fails unless there is a node at `path`. -/
def requireNode (fs : FileSystem) (path : String) : Except FileError Unit :=
  if fs.contains path then .ok () else .error (.notFound path)

/-- The node at `source` and, if it is a directory, the entries below it. A directory cannot be placed
    below itself. -/
def subtree (fs : FileSystem) (source target : String) : Except FileError (List (String × Node)) :=
  match fs.get? source with
  | none => .error (.notFound source)
  | some (.file file) => .ok [(source, .file file)]
  | some .directory =>
    if Path.isBelow source target then .error (.invalidTarget source target)
    else
      .ok ((source, .directory) ::
        fs.entries.entries.filter fun entry => Path.isBelow source entry.1)

/-! ## Changes that cannot fail -/

/-- An empty file, in place of whatever was there. -/
def touch (fs : FileSystem) (now : Instant) (path : String) : FileSystem :=
  fs.insert path (.file ⟨"", now⟩)

/-- Without the node at `path`. -/
def erase (fs : FileSystem) (path : String) : FileSystem := ⟨fs.entries.erase path⟩

/-- Without all that lies below `dir`. -/
def clearBelow (fs : FileSystem) (dir : String) : FileSystem :=
  ⟨fs.entries.filter fun key => !Path.isBelow dir key⟩

/-- Without the keys of a subtree. -/
def prune (fs : FileSystem) (nodes : List (String × Node)) : FileSystem :=
  ⟨fs.entries.filter fun key => !(nodes.any fun entry => entry.1 = key)⟩

/-- Every node of a subtree of `source`, at its place under `target`. -/
def graft (fs : FileSystem) (source target : String) (nodes : List (String × Node)) : FileSystem :=
  nodes.foldl (fun fs entry => fs.insert (Path.rebase source target entry.1) entry.2) fs

end FileSystem

/-! ## Edits -/

/-- A computation on a file system. What it has done by the time it fails stays done. -/
abbrev Edit (ε α : Type) := EStateM ε FileSystem α

namespace Edit

/-- What is asked of the file system as it is. -/
def ask {ε α : Type} (question : FileSystem → Except ε α) : Edit ε α := do
  match question (← get) with
  | .ok value => return value
  | .error cause => throw cause

/-- A new directory. -/
def makeDirectory (path : String) : Edit FileError Unit := do
  if (← get).contains path then throw (.alreadyExists path)
  else modify (·.insert path .directory)

def touch {ε : Type} (now : Instant) (path : String) : Edit ε Unit := modify (·.touch now path)

/-- A file with other content. -/
def write (now : Instant) (path content : String) : Edit FileError Unit := do
  match (← get).get? path with
  | some (.file _) => modify (·.insert path (.file ⟨content, now⟩))
  | some .directory => throw (.notAFile path)
  | none => throw (.notFound path)

/-- The node at `path`, which goes. -/
def take (path : String) : Edit FileError Node := do
  match (← get).get? path with
  | some node =>
    modify (·.erase path)
    return node
  | none => throw (.notFound path)

/-- The node at `path` goes, and then all that lies below it if it was a directory; how many keys
    went. -/
def remove (path : String) : Edit FileError Nat := do
  let node ← take path
  if node.isDirectory then
    let before := (← get).size
    modify (·.clearBelow path)
    return 1 + (before - (← get).size)
  else return 1

/-- `source` and what lies below it stand at `target` instead. -/
def move (source target : String) : Edit FileError Unit := do
  if source = target then ask (·.requireNode source)
  else
    let nodes ← ask (·.subtree source target)
    modify (·.prune nodes)
    modify (·.graft source target nodes)

/-- `source` and what lies below it stand at `target` too. -/
def copy (source target : String) : Edit FileError Unit := do
  if source = target then ask (·.requireNode source)
  else
    let nodes ← ask (·.subtree source target)
    modify (·.graft source target nodes)

end Edit

namespace FileSystem

/-- What an edit gives back and makes of a file system, where it does not fail. -/
def edited {ε α : Type} (fs : FileSystem) (edit : Edit ε α) : Except ε (α × FileSystem) :=
  match edit.run fs with
  | .ok value fs => .ok (value, fs)
  | .error cause _ => .error cause

def makeDirectory (fs : FileSystem) (path : String) : Except FileError FileSystem :=
  (fs.edited (.makeDirectory path)).map Prod.snd

def write (fs : FileSystem) (now : Instant) (path content : String) : Except FileError FileSystem :=
  (fs.edited (.write now path content)).map Prod.snd

def remove (fs : FileSystem) (path : String) : Except FileError (Nat × FileSystem) :=
  fs.edited (.remove path)

def move (fs : FileSystem) (source target : String) : Except FileError FileSystem :=
  (fs.edited (.move source target)).map Prod.snd

def copy (fs : FileSystem) (source target : String) : Except FileError FileSystem :=
  (fs.edited (.copy source target)).map Prod.snd

end FileSystem
end PathShell
