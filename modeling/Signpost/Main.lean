import Signpost.Command.Run
import Signpost.Json.Parser
import Signpost.Protocol.Wire

/-!
# The program

The outer layer: it looks at the disk, reads and writes the standard streams, and leaves
every decision to the library. The library sees a disk as a function, so before each step
the paths that the step may ask about are looked up, and the step gets the answers as a
table.
-/

namespace Signpost.Outer

/-- The reason of a system error. -/
def reasonOf : IO.Error → DiskError
  | .noFileOrDirectory .. => .notFound
  | .noSuchThing .. => .notFound
  | .inappropriateType .. => .notADirectory
  | .permissionDenied .. => .other "Permission denied (os error 13)"
  | e => .other (toString e)

/-- Looks a path up on the disk: what is there, and whether it can be opened and, if that is
what it is for, read. -/
def lookUp (reading : Bool) (p : Path) : IO (Except DiskError Node) := do
  if p.bytes.contains 0 then return .error .nulByte
  let opened ← EIO.toBaseIO (IO.FS.Handle.mk p.display .read)
  let found ← EIO.toBaseIO do (← IO.FS.realPath p.display).metadata
  match found.map IO.FS.Metadata.type, opened with
  | .error _, .error e => return .error (reasonOf e)
  | .error e, .ok _ => return .error (reasonOf e)
  | .ok kind, .error e => return .ok (.sealed (kind matches .file) (reasonOf e))
  | .ok .dir, .ok _ => return .ok .directory
  | .ok kind, .ok handle =>
    if reading then
      match ← EIO.toBaseIO handle.readBinToEnd with
      | .ok bytes => return .ok (.file bytes.toList)
      | .error e => return .ok (.sealed (kind matches .file) (reasonOf e))
    else if kind matches .file then return .ok (.file [])
    else return .ok (.sealed false (.notRegular p))

/-- The disk as far as some paths go: of some the step may read what is there, and others may
be the target of a reference. -/
def observe (sources targets : List Path) : IO Disk := do
  let read ← sources.mapM fun p => return (p, ← lookUp true p)
  let probed ← targets.mapM fun p => return (p, ← lookUp false p)
  return fun p => ((read ++ probed).lookup p).getD (.error .notFound)

/-- The surroundings of the program. -/
def environment : IO Environment := do
  let configHome := (← IO.getEnv "XDG_CONFIG_HOME").map Path.ofString
  let home := (← IO.getEnv "HOME").map Path.ofString
  let workingDirectory ←
    try pure (some (Path.ofString (← IO.currentDir).toString))
    catch _ => pure none
  return { configHome, home, workingDirectory }

/-- The filter that the surroundings ask for; without one, warnings are shown. -/
def filter : IO LogFilter := do
  let spec := (← IO.getEnv "RUST_LOG").getD "warn"
  let (filter, nonsense) := LogFilter.parse spec.toList
  nonsense.forM fun part => IO.eprintln part.warning
  return filter

/-- Shows the records that a filter lets through. -/
def showRecords (filter : LogFilter) (records : List Record) : IO Unit :=
  (records.filter filter.admits).forM fun record => IO.eprintln record.shown

/-! ### Serving -/

/-- The disk as far as a server may ask about it on a message. -/
def diskOn (server : Server) (env : Environment) (j : Json) : IO Disk := do
  let blind : Disk := fun _ => .error .notFound
  let (next, _, _) := Wire.step server env blind j
  let files := (Settings.userFile? env).toList ++
    next.session.root.toList.map fun root => root.join Settings.fileName
  let asked := match Wire.arrival j with
    | .message envelope =>
      match Server.read envelope Params.definition with
      | .ok (.definition uri position) => (server.session.asked? uri position).toList
      | _ => []
    | _ => []
  observe files asked

/-- Reads the header of a message up to its empty line, and gives the length of the
message; none at the end of the input. -/
partial def header (input : IO.FS.Stream) (length : Nat) : IO (Option Nat) := do
  let line ← input.getLine
  if line.isEmpty then return none
  if line.all Char.isWhitespace then return some length
  header input ((Wire.lengthOf? line).getD length)

/-- Reads some bytes. -/
partial def body (input : IO.FS.Stream) (length : Nat) (before : ByteArray) : IO ByteArray := do
  if length ≤ before.size then return before
  let more ← input.read (length - before.size).toUSize
  if more.isEmpty then return before
  body input length (before ++ more)

/-- Serves a client until the input ends or the server has gone. -/
partial def serve (env : Environment) (filter : LogFilter) (input output : IO.FS.Stream)
    (server : Server) : IO Unit := do
  let some length ← header input 0 | return
  let bytes ← body input length .empty
  let value := ((String.fromUTF8? bytes).bind Json.parse?).getD .null
  let disk ← diskOn server env value
  let (server, written, records) := Wire.step server env disk value
  showRecords filter records
  for j in written do
    output.putStr (Wire.frame j)
  output.flush
  if server.phase = .gone then return
  serve env filter input output server

/-! ### Other commands -/

/-- The disk as far as a command goes. -/
def diskFor (env : Environment) : Command → IO Disk
  | .resolve file position language => do
    let files := match Path.absolute? env.workingDirectory (.ofString file) with
      | some path => path :: Command.settingsFiles env path
      | none => []
    let disk ← observe files []
    match (Command.attemptAt env disk (.ofString file) position language).2 with
    | .ok (some attempt) => observe files attempt.asked?.toList
    | _ => return disk
  | .word file _ => observe [.ofString file] []
  | _ => observe [] []

/-- Runs a command. -/
def run (env : Environment) (filter : LogFilter) (arguments : List String) : IO UInt32 := do
  match Command.parse? arguments with
  | some .serve =>
    serve env filter (← IO.getStdin) (← IO.getStdout) .fresh
    return 0
  | command =>
    let outcome ← match command with
      | some command => pure (command.run env (← diskFor env command))
      | none => pure Command.mistaken
    (outcome.aside filter).forM IO.eprintln
    IO.print outcome.output
    return outcome.code.toUInt32

end Signpost.Outer

/-- The program. -/
def main (arguments : List String) : IO UInt32 := do
  let env ← Signpost.Outer.environment
  let filter ← Signpost.Outer.filter
  Signpost.Outer.run env filter arguments
