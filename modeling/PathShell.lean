import PathShell.Path
import PathShell.Node
import PathShell.OrderedMap
import PathShell.FileSystem
import PathShell.FileSystem.Stored
import PathShell.Instant
import PathShell.Instant.Text
import PathShell.Decimal
import PathShell.Text.Ranges
import PathShell.Text.Alphanumeric
import PathShell.Text.Blank
import PathShell.Text.Digits
import PathShell.Text.Pieces
import PathShell.Text.Quoted
import PathShell.Text.Unprintable
import PathShell.Text.Utf8
import PathShell.Json
import PathShell.Json.Number
import PathShell.Json.Token
import PathShell.Json.Reader
import PathShell.Json.Printer
import PathShell.Pattern.Height
import PathShell.Pattern.Switches
import PathShell.Pattern.Escape
import PathShell.Pattern.Class
import PathShell.Pattern
import PathShell.Calc.Token
import PathShell.Calc.Lexer
import PathShell.Calc.Machine
import PathShell.Command.Output
import PathShell.Command
import PathShell.Log
import PathShell.Log.Directive
import PathShell.Log.Filter
import PathShell.Storage
import PathShell.Storage.Disk
import PathShell.Storage.StateFile
import PathShell.Session
import PathShell.Terminal
import PathShell.Toml
import PathShell.Toml.Scalar
import PathShell.Toml.Document
import PathShell.Settings
import PathShell.CommandLine
import PathShell.Program
import PathShell.Main
import PathShell.Proofs.FileSystem.Edit
import PathShell.Proofs.Command
import PathShell.Proofs.Session.Operations
import PathShell.Proofs.Session.WorkingDirectory
import PathShell.Proofs.Instant.Text
import PathShell.Proofs.Instant.Calendar
import PathShell.Proofs.FileSystem.Stored
import PathShell.Proofs.FileSystem.Decoding
import PathShell.Proofs.Session.WriteBack
import PathShell.Proofs.Calc.Grammar
import PathShell.Proofs.Calc.Reader
import PathShell.Proofs.Calc.Evaluation
import PathShell.Proofs.Calc.FirstError
import PathShell.Proofs.Calc.Lexer
import PathShell.Proofs.Session.Editor
import PathShell.Proofs.Terminal
import PathShell.Proofs.Session.Lockstep
import PathShell.Proofs.Storage.Recorded
import PathShell.Proofs.Session.FailedSaves
import PathShell.Proofs.Session.UnreadableFile
import PathShell.Proofs.Storage.Places
import PathShell.Proofs.Text.ByteOrder
import PathShell.Proofs.Storage.PersistentMap
import PathShell.Proofs.FileSystem.Confined
import PathShell.Proofs.Command.Confined
import PathShell.Proofs.FileSystem.Transfer
import PathShell.Proofs.FileSystem.Move
import PathShell.Proofs.Session.History
import PathShell.Proofs.Session.Refusals
import PathShell.Proofs.FileSystem.Copy
import PathShell.Proofs.FileSystem.Listing
import PathShell.Proofs.Session.Directories
import PathShell.Proofs.FileSystem.Remove
import PathShell.Proofs.FileSystem.MoveLaws
import PathShell.Proofs.Command.Listing
import PathShell.Proofs.Text.Lines
import PathShell.Proofs.Command.Search
import PathShell.Proofs.Session.Climbing
import PathShell.Proofs.Terminal.Batch
import PathShell.Proofs.FileSystem.Order
