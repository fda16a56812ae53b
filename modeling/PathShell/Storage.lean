import PathShell.Log
import PathShell.OrderedMap

/-!
# Storage

Durable texts under keys. Setting a key may fail, and may leave traces even then, so it always gives
back the store.
-/

namespace PathShell

/-- Why the operating system refuses an operation on files. -/
inductive OsError where
  | notFound
  | inputOutput
  | denied
  | busy
  | exists
  | notDirectory
  | isDirectory
  | nameTooLong
  /-- The content of a file is no UTF-8. -/
  | notText
  /-- A path holds a NUL character. -/
  | nulInPath
  deriving DecidableEq

def OsError.message : OsError → String
  | .notFound => "No such file or directory (os error 2)"
  | .inputOutput => "Input/output error (os error 5)"
  | .denied => "Permission denied (os error 13)"
  | .busy => "Device or resource busy (os error 16)"
  | .exists => "File exists (os error 17)"
  | .notDirectory => "Not a directory (os error 20)"
  | .isDirectory => "Is a directory (os error 21)"
  | .nameTooLong => "File name too long (os error 36)"
  | .notText => "stream did not contain valid UTF-8"
  | .nulInPath => "file name contained an unexpected NUL byte"

inductive StorageError where
  | files (cause : OsError)
  /-- What is stored is no map of texts. -/
  | malformed
  deriving DecidableEq

def StorageError.message : StorageError → String
  | .files cause => "storage I/O failed: " ++ cause.message
  | .malformed => "stored data is malformed"

/-- A store of texts under keys. -/
class Storage (σ : Type) where
  get : σ → String → Except StorageError (Option String)
  set : σ → String → String → Except StorageError Unit × σ
  /-- What is logged of a key that was set. -/
  report : σ → String → List Log.Event

/-! ## In memory -/

/-- A store that lasts as long as the program. -/
structure MemoryStore where
  cells : OrderedMap String
  deriving DecidableEq

instance : Storage MemoryStore where
  get store key := .ok (store.cells.get? key)
  set store key value := (.ok (), ⟨store.cells.insert key value⟩)
  report _ _ := []

/-- A store in memory whose operations fail as told; a failing one stores nothing. -/
structure UnreliableStore where
  cells : OrderedMap String
  /-- How often a key was set, failures included. -/
  saves : Nat
  getFails : Bool
  /-- Whether the n-th setting fails. -/
  setFails : Nat → Bool

instance : Storage UnreliableStore where
  get store key := if store.getFails then .error (.files .inputOutput) else .ok (store.cells.get? key)
  set store key value :=
    if store.setFails store.saves then
      (.error (.files .inputOutput), { store with saves := store.saves + 1 })
    else
      (.ok (), { store with saves := store.saves + 1, cells := store.cells.insert key value })
  report _ _ := []

end PathShell
