import Supervisor.Program

/-!
# The command line program

Brings the manifest and the status file to the disk a daemon works on, lets the daemon work as time
passes, and writes back the files that have changed.
-/

namespace Supervisor.Main

/-- The text of a file, if there is one. -/
def fileText? (path : String) : IO (Option String) := do
  try
    return some (← IO.FS.readFile path)
  catch _ =>
    return none

/-- A disk with the named files on it. -/
def gather (paths : List String) : IO Disk :=
  paths.foldlM (fun disk path => do
    match ← fileText? path with
    | some text => return disk.install workPlace path (.text text)
    | none => return disk) .fresh

/-- The files that matter before any program starts. -/
def paths (args : CommandLine.Arguments) : List String :=
  let parent := Disk.directoryParts args.manifest
  [args.manifest, "/".intercalate (parent ++ [statusFileName])] ++ args.statusFile.toList

/-- The path by which the file of a key is found from where the program runs. -/
def pathOf (key : String) : String :=
  let lead := workPlace.key ++ "/"
  if lead.toList.isPrefixOf key.toList then String.ofList (key.toList.drop lead.length)
  else "/" ++ key

/-- Write the files that differ from what they were. -/
def writeBack (before after : Disk) : IO Unit :=
  (after.filesBelow []).forM fun (key, contents) =>
    match contents with
    | .binary => pure ()
    | .text text => do
      if before.entries.get? key ≠ some (.file contents) then
        let path := pathOf key
        let parent := Disk.directoryParts path
        unless parent.isEmpty do IO.FS.createDirAll ("/".intercalate parent)
        IO.FS.writeFile path text

/-- How long to sleep where nothing is due. -/
def idleTime : Nat := 1000

/-- Let a daemon work until it is served. -/
partial def attend (d : Daemon) (written : Disk) : IO Ended := do
  let s := Timed.settle d.supervision
  writeBack written s.host.disk
  if d.isServed s then return { d with supervision := s }.finish
  let next := max s.now ((Timed.nextDue s).getD (s.now + idleTime))
  IO.sleep (next - s.now).toUInt32
  attend { d with supervision := { s with now := next } } s.host.disk

/-- Print what the program prints. -/
def conclude (e : Exit) : IO UInt32 := do
  IO.print e.printed
  e.complaint.forM fun complaint => IO.eprintln complaint
  return e.code.toUInt32

/-- Do what the arguments ask for. -/
def execute (argv : List String) : IO UInt32 := do
  match CommandLine.read argv with
  | .error r => conclude (Program.exitOfRefusal .fresh r)
  | .ok args =>
    let disk ← gather (paths args)
    let ended ← match Daemon.boot disk workPlace args with
      | .error ended => pure ended
      | .ok d => attend d disk
    writeBack disk ended.disk
    conclude (Program.exitOf ended)

end Supervisor.Main

def main (argv : List String) : IO UInt32 := Supervisor.Main.execute argv
