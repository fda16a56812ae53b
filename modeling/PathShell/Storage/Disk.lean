import PathShell.Storage
import PathShell.Text.Pieces

/-!
# The disk

The files and directories that a program finds, as seen from the directory it runs in. A path is
followed segment by segment: every segment but the last has to be a directory, `.` and empty segments
stay, and `..` climbs, at last above the directory that the program runs in. A path that begins with a
slash starts at a root of its own.
-/

namespace PathShell

/-- What stands at a place of a disk. -/
inductive DiskNode where
  | text (content : String)
  /-- A file whose bytes are no UTF-8. -/
  | binary
  /-- A file that may not be read or written. -/
  | locked
  | directory
  deriving DecidableEq

/-- Nodes by place. A place is the path without `.` and empty segments, and with `..` only where it
    begins above the directory that the program runs in. -/
structure Disk where
  nodes : OrderedMap DiskNode

/-- The segments of a place, the innermost first. -/
abbrev Trail := List String

/-- Where a path leads. -/
inductive Location where
  /-- A directory that is there. -/
  | directory
  /-- An entry of a directory that is there. It may itself be missing; `slash` says that the path ends
      with a slash, so that only a directory will do. -/
  | entry (place : String) (slash : Bool)

namespace Disk

def empty : Disk := ⟨.empty⟩

instance : Inhabited Disk := ⟨empty⟩

/-- The longest name, in bytes. -/
def maxName : Nat := 255

/-- The longest path, in bytes. -/
def maxPath : Nat := 4095

/-- The place of a trail. -/
def placeOf (trail : Trail) : String := Text.join "/" trail.reverse

/-- The directory above; a root is its own. -/
def climb : Trail → Trail
  | [""] => [""]
  | [] => [".."]
  | ".." :: above => ".." :: ".." :: above
  | _ :: above => above

/-- The trails that segments pass. -/
def trails (trail : Trail) : List String → List Trail
  | [] => []
  | segment :: rest =>
    if segment = "" ∨ segment = "." then trails trail rest
    else if segment = ".." then trails (climb trail) rest
    else (segment :: trail) :: trails (segment :: trail) rest

/-- The trail that a path starts from, and the segments that it follows. An absolute path begins with
    an empty segment, and that is the trail of its root. -/
def departure (path : String) : Trail × List String :=
  match Text.pieces '/' path with
  | "" :: rest => ([""], rest)
  | segments => ([], segments)

/-- The places that a path passes, its own included. -/
def placesOn (path : String) : List String :=
  let (trail, segments) := departure path
  (trails trail segments).map placeOf

/-- Follows segments from a directory that is there. -/
def follow (disk : Disk) (trail : Trail) : List String → Except OsError Location
  | [] => .ok .directory
  | segment :: rest =>
    if segment = "" ∨ segment = "." then disk.follow trail rest
    else if segment = ".." then disk.follow (climb trail) rest
    else if maxName < segment.utf8ByteSize then .error .nameTooLong
    else
      let place := placeOf (segment :: trail)
      if rest.isEmpty then .ok (.entry place false)
      else
        match disk.nodes.get? place with
        | some .directory => disk.follow (segment :: trail) rest
        | some _ => .error .notDirectory
        | none => if rest.all (· = "") then .ok (.entry place true) else .error .notFound

/-- Where a path leads, from the directory that the program runs in. -/
def locate (disk : Disk) (path : String) : Except OsError Location :=
  if path = "" then .error .notFound
  else if path.toList.contains '\x00' then .error .nulInPath
  else if maxPath < path.utf8ByteSize then .error .nameTooLong
  else
    let (trail, segments) := departure path
    disk.follow trail segments

/-- The text of a file. -/
def readText (disk : Disk) (path : String) : Except OsError String :=
  match disk.locate path with
  | .error error => .error error
  | .ok .directory => .error .isDirectory
  | .ok (.entry place _) =>
    match disk.nodes.get? place with
    | some (.text content) => .ok content
    | some .binary => .error .notText
    | some .locked => .error .denied
    | some .directory => .error .isDirectory
    | none => .error .notFound

/-- A file with another text; a missing one is made. -/
def writeText (disk : Disk) (path content : String) : Except OsError Disk :=
  match disk.locate path with
  | .error error => .error error
  | .ok .directory => .error .isDirectory
  | .ok (.entry place slash) =>
    match disk.nodes.get? place with
    | some .directory => .error .isDirectory
    | some .locked => .error .denied
    | some _ => .ok ⟨disk.nodes.insert place (.text content)⟩
    | none => if slash then .error .isDirectory else .ok ⟨disk.nodes.insert place (.text content)⟩

/-- There is a directory at a path. -/
def isDirectory (disk : Disk) (path : String) : Bool :=
  match disk.locate path with
  | .error _ => false
  | .ok .directory => true
  | .ok (.entry place _) =>
    match disk.nodes.get? place with
    | some .directory => true
    | _ => false

/-- A new directory. -/
def makeDirectory (disk : Disk) (path : String) : Except OsError Disk :=
  match disk.locate path with
  | .error error => .error error
  | .ok .directory => .error .exists
  | .ok (.entry place _) =>
    if disk.nodes.contains place then .error .exists
    else .ok ⟨disk.nodes.insert place .directory⟩

/-- The segments that name something: a leading `.` stays, others and empty ones go. -/
def namedSegments (path : String) : List String :=
  match Text.pieces '/' path with
  | "." :: rest => "." :: rest.filter fun segment => segment ≠ "" && segment ≠ "."
  | segments => segments.filter fun segment => segment ≠ "" && segment ≠ "."

/-- A directory and all that are missing above it; `trail` holds the segments of its path, the
    innermost first. Those made before a failure stay. -/
def makeDirectories (disk : Disk) (absolute : Bool) : Trail → Except OsError Unit × Disk
  | [] => (.ok (), disk)
  | segment :: above =>
    let path := (if absolute then "/" else "") ++ placeOf (segment :: above)
    match disk.makeDirectory path with
    | .ok disk => (.ok (), disk)
    | .error .notFound =>
      match disk.makeDirectories absolute above with
      | (.error error, disk) => (.error error, disk)
      | (.ok (), disk) =>
        match disk.makeDirectory path with
        | .ok disk => (.ok (), disk)
        | .error error =>
          if error = .exists && disk.isDirectory path then (.ok (), disk) else (.error error, disk)
    | .error error =>
      if error = .exists && disk.isDirectory path then (.ok (), disk) else (.error error, disk)

/-- The directory that a path names an entry of, and all missing above it. -/
def makeParents (disk : Disk) (path : String) : Except OsError Unit × Disk :=
  disk.makeDirectories (path.toList.head? = some '/') ((namedSegments path).reverse.drop 1)

/-- A file takes another name, in place of a file that has it. -/
def rename (disk : Disk) (source target : String) : Except OsError Disk :=
  match disk.locate source, disk.locate target with
  | .error error, _ => .error error
  | _, .error error => .error error
  | .ok .directory, _ => .error .busy
  | _, .ok .directory => .error .busy
  | .ok (.entry origin _), .ok (.entry place slash) =>
    match disk.nodes.get? origin, disk.nodes.get? place with
    | none, _ => .error .notFound
    | some _, some .directory => .error .isDirectory
    | some node, other =>
      if slash && other.isNone then .error .notDirectory
      else .ok ⟨(disk.nodes.erase origin).insert place node⟩

/-! ## Differences -/

/-- What makes one disk more like another. -/
inductive Change where
  | makeDirectory (place : String)
  | write (place content : String)
  | remove (place : String)
  deriving DecidableEq

/-- What has to be done to one disk to make it another: directories come before the files in them,
    for a directory is always older on a disk than what is made in it. -/
def changes (before after : Disk) : List Change :=
  (after.nodes.entries.filterMap fun (place, node) =>
    if before.nodes.get? place = some node then none
    else match node with
      | .directory => some (.makeDirectory place)
      | .text content => some (.write place content)
      | .binary => none
      | .locked => none)
  ++ (before.nodes.entries.filterMap fun (place, _) =>
    if after.nodes.contains place then none else some (.remove place))

end Disk
end PathShell
