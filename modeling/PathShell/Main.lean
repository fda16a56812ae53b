import PathShell.Program
import Std.Time.Format

/-!
# Running the program

The outer layer: it looks at the clock and at the disk, feeds the program what comes in, and does what
the program says. All that is decided is decided elsewhere.
-/

namespace PathShell.Outer

open Std.Time (DateTime PlainDateTime PlainTime Timestamp)
open Std.Time.TimeZone (ZoneRules)

/-! ## Time -/

def timeOfDay (time : PlainTime) : TimeOfDay :=
  ⟨time.hour.val.toNat, time.minute.val.toNat, time.second.val.toNat, time.nanosecond.val.toNat⟩

def instant? (reading : PlainDateTime) : Option Instant :=
  Instant.of? ⟨reading.date.year.toInt, reading.date.month.val.toNat, reading.date.day.val.toNat⟩
    (timeOfDay reading.time)

/-- The clock as it stands. Where the zone of the machine is unknown, its wall shows UTC. -/
def clock : IO Clock := do
  let time ← Timestamp.now
  let zone ← try Std.Time.Database.defaultGetLocalZoneRules catch _ => pure ZoneRules.UTC
  let utc := (DateTime.ofTimestamp time ZoneRules.UTC).toPlainDateTime
  let wall := (DateTime.ofTimestamp time zone).toPlainDateTime
  return ⟨(instant? utc).getD .epoch, timeOfDay wall.time⟩

/-! ## The disk -/

/-- What stands at a place. -/
def probe (place : String) : IO (Option DiskNode) := do
  if ← (try (← IO.FS.realPath place).isDir catch _ => pure false) then
    return some .directory
  try
    match String.fromUTF8? (← IO.FS.readBinFile place) with
    | some content => return some (.text content)
    | none => return some .binary
  catch
    | .permissionDenied .. => return some .locked
    | _ => return none

/-- The disk, so far as these paths see it. -/
def look (paths : List String) : IO Disk :=
  (paths.flatMap Disk.placesOn).foldlM (fun disk place => do
    match ← probe place with
    | some node => return ⟨disk.nodes.insert place node⟩
    | none => return disk) Disk.empty

/-- A file is written beside its place and then put there. -/
def perform : Disk.Change → IO Unit
  | .makeDirectory place => IO.FS.createDirAll place
  | .write place content => do
    let temporary := place ++ ".tmp"
    IO.FS.writeFile temporary content
    IO.FS.rename temporary place
  | .remove place => IO.FS.removeFile place

/-! ## The session -/

/-- What has been printed goes out. -/
def emit (running : Running) (printed : List Printed) : IO Unit := do
  let out ← IO.getStdout
  let err ← IO.getStderr
  for item in printed do
    out.putStr (Program.outText [item])
    err.putStr (Program.errText running.filter [item])
  out.flush

/-- What was done to the disk of the program is done to that of the machine. A failure is logged. -/
def carryOut (running : Running) (clock : Clock) (before : Disk) (session : Session Backend) :
    IO Unit := do
  try
    (before.changes (Program.diskAfter before session)).forM perform
  catch error =>
    emit running [.event clock.now ⟨.warn, Session.sessionTarget, "failed to persist file system",
      [("key", session.key), ("error", toString error)]⟩]

/-- A step of the session: on the disk as it is now, its text printed and its changes carried out. A
    line that is slow waits first. -/
def advance {α : Type} (running : Running) (paths : List String) (session : Session Backend)
    (line : Option String) (sessionOf : α → Session Backend)
    (step : Clock → Session Backend → List Printed × α) : IO α := do
  if (line.map session.isSlow).getD false then
    IO.sleep (UInt32.ofNat (min running.forecastDelay (UInt32.size - 1)))
  let disk ← look paths
  let clock ← clock
  let (printed, after) := step clock (Program.onDisk disk session)
  carryOut running clock disk (sessionOf after)
  emit running printed
  return after

/-- The bytes up to the next line feed, which is one of them. -/
partial def readLine (input : IO.FS.Stream) (bytes : List UInt8) : IO (List UInt8) := do
  match (← input.read 1).toList with
  | [] => return bytes.reverse
  | byte :: _ => if byte = 10 then return (byte :: bytes).reverse else readLine input (byte :: bytes)

/-- Reads and answers until the terminal is closed. -/
partial def converse (running : Running) (paths : List String) (terminal : Terminal Backend) :
    IO Unit := do
  if terminal.mode = .closed then return
  let input := (Input.ofBytes (← readLine (← IO.getStdin) [])).head?.getD .ended
  let line := match terminal.mode, input with
    | .prompt, .line text => some text
    | _, _ => none
  let terminal ← advance running paths terminal.session line Terminal.session fun clock session =>
    { terminal with session }.feed clock input
  converse running paths terminal

/-- Runs the lines of the arguments, or those that are typed. -/
def serve (running : Running) (paths : List String) : IO Unit := do
  let invocation := running.invocation
  if invocation.commands.isEmpty then
    let terminal ← advance running paths running.session none Terminal.session fun clock session =>
      Terminal.start clock.now session
    converse running paths terminal
  else
    let session ← advance running paths running.session none id fun clock session =>
      (session.events clock.now, session.withoutLog)
    let session ← invocation.commands.foldlM (fun session text =>
      advance running paths session (some text) id fun clock session =>
        Batch.line clock invocation.json session text) session
    if invocation.json then emit running (Batch.summary session)

end PathShell.Outer

open PathShell PathShell.Outer in
/-- Starts the program on what it finds. -/
def main (arguments : List String) : IO UInt32 := do
  let configured ← look (Program.paths arguments .empty)
  let paths := Program.paths arguments configured
  let disk ← look paths
  match Program.start (← clock) ⟨arguments, ← IO.getEnv "VTERM_LOG", disk⟩ with
  | .error exit =>
    (← IO.getStdout).putStr exit.out
    (← IO.getStderr).putStr exit.err
    return UInt32.ofNat exit.code
  | .ok running =>
    carryOut running (← clock) disk running.session
    serve running paths
    return 0
