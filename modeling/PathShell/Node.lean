import PathShell.Instant

/-!
# Nodes
-/

namespace PathShell

/-- A file. Its size follows from its content. -/
structure File where
  content : String
  modified : Instant
  deriving DecidableEq

/-- The length of the content in bytes of UTF-8. -/
def File.size (file : File) : Nat := file.content.utf8ByteSize

/-- What stands at a path. -/
inductive Node where
  | file (file : File)
  | directory
  deriving DecidableEq

def Node.isDirectory : Node → Bool
  | .file _ => false
  | .directory => true

/-- Why an operation on a file system fails. -/
inductive FileError where
  | notFound (path : String)
  | notAFile (path : String)
  | notADirectory (path : String)
  | alreadyExists (path : String)
  /-- The target of a transfer lies below the directory to be transferred. -/
  | invalidTarget (source target : String)
  deriving DecidableEq

def FileError.message : FileError → String
  | .notFound path => "no such file or directory: '" ++ path ++ "'"
  | .notAFile path => "not a file: '" ++ path ++ "'"
  | .notADirectory path => "not a directory: '" ++ path ++ "'"
  | .alreadyExists path => "file already exists: '" ++ path ++ "'"
  | .invalidTarget source target =>
    "cannot place '" ++ source ++ "' inside itself at '" ++ target ++ "'"

end PathShell
