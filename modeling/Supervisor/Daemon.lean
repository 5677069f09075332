import Supervisor.CommandLine.Basic
import Supervisor.Manifest.Resolve
import Supervisor.Manifest.Summary
import Supervisor.Supervision
import Supervisor.Workshop

/-!
# The daemon

From the command line to the end of supervision: a manifest is loaded, a store opened and the
commands asked for are queued. The daemon then works until it is interrupted, or until the queue is
drained where that is enough. At the end its loop stops first and its processes after it. The daemon
does not wait for the commands that are cut off so: that they have failed may still be recorded.
-/

namespace Supervisor

namespace Supervision

variable {H : Type} [Host H]

/-- Ask for commands whose statuses are to be kept, one after the other. One that is in the queue or
has completed once and for all is passed over. -/
def request (s : Supervision H) : List String → Supervision H × Except Fault Unit
  | [] => (s, .ok ())
  | name :: names =>
    match s.enqueue s.current name true with
    | (s, .ok ()) | (s, .error (.alreadyQueued _)) | (s, .error (.alreadyCompletedOnce _)) =>
      s.request names
    | (s, .error fault) => (s, .error fault)

/-- The commands that have failed, in order of names. -/
def failedNames (s : Supervision H) : List String :=
  match s.current? with
  | none => []
  | some x => (x.scheduler.queue.snapshot.filter fun _ status => status = .error).keys

/-- Somebody waits as long as anybody would. -/
def patience : Nat := 1000000000

/-- Stop the loop, and then every process. -/
def shutDown (s : Supervision H) : Supervision H :=
  let g := s.current
  let s := Timed.advance (s.signal g .shutdown) (s.now + patience) fun s => s.isStopped g
  { s with host := (Host.stopAll s.host s.now).1 }

end Supervision

/-- How a daemon has ended. -/
structure Ended where
  result : Except Fault Unit
  printed : String := ""
  disk : Disk

/-- A daemon at work. -/
structure Daemon where
  supervision : Supervision Workshop
  /-- It is enough that the queue is drained. -/
  once : Bool
  /-- Where the daemon waits for that. -/
  watcher : Nat

/-- An interrupt that comes some milliseconds after a file has appeared. -/
structure Interrupt where
  directory : Place
  path : String
  delay : Nat

namespace Daemon

/-- Where a manifest is, its commands start and its status file lies. -/
def rootOf (disk : Disk) (directory : Place) (path : String) : Place :=
  let start := if path.toList.head? = some '/' then [] else directory
  (disk.follow start (Disk.directoryParts path)).toOption.getD directory

def openStore (disk : Disk) (directory root : Place) (m : Manifest) (args : CommandLine.Arguments) :
    Except Fault Store :=
  if args.noPersist then .ok (.inMemory m.fingerprint)
  else match args.statusFile with
    | some path => Store.openFile disk directory path m.fingerprint args.ignoreVersion
    | none => Store.openFile disk root statusFileName m.fingerprint args.ignoreVersion

/-- The commands on the command line, or else the manifest's first one. -/
def requested (args : CommandLine.Arguments) (m : Manifest) : List String :=
  if args.commands = [] then m.init.toList else args.commands

/-- Begin to work, with the commands asked for in the queue. -/
def start (disk : Disk) (root : Place) (m : Manifest) (store : Store) (args : CommandLine.Arguments) :
    Except Ended Daemon :=
  let idle : Supervision Workshop := { manifest := m, host := { disk, directory := root } }
  match (idle.start store).request (requested args m) with
  | (s, .error fault) => .error { result := .error fault, disk := s.host.disk }
  | (s, .ok ()) =>
    let watcher := ((s.current?).map fun x => x.scheduler.watchers.nextId).getD 0
    .ok {
      supervision := if args.once then s.beginDrain s.current "drain" none else s
      once := args.once
      watcher }

/-- Begin to do what the command line asks for, or be done with it. -/
def boot (disk : Disk) (directory : Place) (args : CommandLine.Arguments) : Except Ended Daemon := do
  let refuse := fun (fault : Fault) => { result := .error fault, disk : Ended }
  let m ← (Manifest.load disk directory args.manifest).mapError refuse
  if args.dryRun then throw { result := .ok (), printed := m.summary, disk }
  let root := rootOf disk directory args.manifest
  let store ← (openStore disk directory root m args).mapError refuse
  start disk root m store args

/-- There is nothing left to wait for. -/
def isServed (d : Daemon) (s : Supervision Workshop) : Bool :=
  d.once && !s.isDraining s.current d.watcher

/-- Work until all is served or an interrupt comes. -/
def serve (d : Daemon) (interrupt : Option Interrupt) : Daemon :=
  let s := d.supervision
  let limit := s.now + Supervision.patience
  match interrupt with
  | none => { d with supervision := Timed.advance s limit d.isServed }
  | some i =>
    let s := Timed.advance s limit fun s =>
      d.isServed s || s.host.disk.pathExists i.directory i.path
    { d with supervision := if d.isServed s then s else Timed.advance s (s.now + i.delay) d.isServed }

/-- End the work. Commands that have failed matter where the daemon was to work only once. -/
def finish (d : Daemon) : Ended :=
  let s := d.supervision.shutDown
  { result := if d.once ∧ s.failedNames ≠ [] then .error (.commandsFailed s.failedNames) else .ok ()
    disk := s.host.disk }

/-- Everything from the command line to the end. -/
def run (disk : Disk) (directory : Place) (args : CommandLine.Arguments)
    (interrupt : Option Interrupt) : Ended :=
  match boot disk directory args with
  | .error ended => ended
  | .ok d => (d.serve interrupt).finish

end Daemon

end Supervisor
