import Supervisor.Rehearsal.Stage
import Supervisor.Supervision

/-!
# Plays

A supervisor on a stage, driven by a list of directions: asking for commands, letting time pass,
waiting for the queue, starting again.
-/

namespace Supervisor.Rehearsal

inductive Direction where
  | enqueue (name : String) (persist : Bool)
  | advance (milliseconds : Nat)
  /-- Wait for the queue, or for what a command depends on, but not for ever. -/
  | drain (milliseconds : Nat) (target : Option String)
  /-- Begin to wait and go on. -/
  | beginDrain (key : String) (target : Option String)
  | stop (process : String)
  | setExitCode (process : String) (exitCode : Int)
  | setLifetime (process : String) (milliseconds : Nat)
  | evict
  | shutdown
  /-- Wait for the end of the loop, but not for ever. -/
  | join (milliseconds : Nat)
  | count (name : String)
  /-- Shut down and start again. -/
  | reboot

inductive Reply where
  | nothing
  | accepted (result : Except Fault Unit)
  | drained (b : Bool)
  | stopped (b : Bool)
  | evicted (names : List String)
  | joined (b : Bool)
  | counted (starts : Nat) (status : Option Status) (launches : Nat)

structure Play where
  supervision : Supervision Stage
  /-- Somebody has waited for the end of the current loop. -/
  joined : Bool := false

namespace Play

/-- A supervisor on a stage with a store. -/
def start (m : Manifest) (stage : Stage) (unwritable : List String) (store : Store) : Play :=
  let s : Supervision Stage := { manifest := m, host := stage, unwritable }
  { supervision := Timed.settle (s.start store) }

/-- The store that takes the place of another one after a restart. -/
def reopened (disk : Disk) : Store → Store
  | .file directory path record fingerprint =>
    (Store.openFile disk directory path fingerprint false).toOption.getD
      (.file directory path record fingerprint)
  | .memory record _ => .memory record none

/-- Shut the current scheduler down and start a new one. -/
def reboot (s : Supervision Stage) : Supervision Stage :=
  let s := Timed.settle (s.signal s.current .shutdown)
  match s.current? with
  | none => s
  | some x => s.start (reopened s.host.disk x.store)

def updateScript (s : Supervision Stage) (change : Script → Script) : Supervision Stage :=
  { s with host := { s.host with script := change s.host.script } }

/-- Wait for the queue up to a limit, then no longer. -/
def drain (s : Supervision Stage) (milliseconds : Nat) (target : Option String) :
    Supervision Stage × Bool :=
  let g := s.current
  let watcher := ((s.current?).map fun x => x.scheduler.watchers.nextId).getD 0
  let s := Timed.advance (s.beginDrain g "drain" target) (s.now + milliseconds) fun s =>
    !s.isDraining g watcher
  ({ s with drainers := s.drainers.filter fun d => !(d.generation = g && d.watcher = watcher) },
    !s.isDraining g watcher)

/-- Follow a direction. -/
def follow (p : Play) (d : Direction) : Play × Reply :=
  let s := p.supervision
  let g := s.current
  let become := fun (s : Supervision Stage) => { p with supervision := s }
  match d with
  | .enqueue name persist =>
    let (s, result) := s.enqueue g name persist
    (become s, .accepted result)
  | .advance milliseconds => (become (Timed.pass s milliseconds), .nothing)
  | .drain milliseconds target =>
    let (s, drained) := drain s milliseconds target
    (become s, .drained drained)
  | .beginDrain key target => (become (s.beginDrain g key target), .nothing)
  | .stop process =>
    let (host, stopped) := s.host.stop s.now process
    (become { s with host }, .stopped stopped)
  | .setExitCode process exitCode =>
    (become (updateScript s fun script =>
      { script with exitCodes := script.exitCodes.insert process exitCode }), .nothing)
  | .setLifetime process milliseconds =>
    (become (updateScript s fun script =>
      { script with lifetimes := script.lifetimes.insert process milliseconds }), .nothing)
  | .evict =>
    match s.current? with
    | none => (p, .evicted [])
    | some x =>
      let (scheduler, names) := x.scheduler.evict
      (become (s.updateScheduler g scheduler), .evicted names)
  | .shutdown => (become (s.signal g .shutdown), .nothing)
  | .join milliseconds =>
    if p.joined then (p, .joined true)
    else
      let s := Timed.advance s (s.now + milliseconds) fun s => s.isStopped g
      ({ supervision := s, joined := true }, .joined (s.isStopped g))
  | .count name =>
    let queue := ((s.current?).map fun x => x.scheduler.queue).getD .empty
    (p, .counted (s.host.starts name) (queue.statusOf name) (queue.launchCount name))
  | .reboot => ({ supervision := reboot s, joined := false }, .nothing)

/-- Follow a direction and let everything happen that does not have to wait. -/
def perform (p : Play) (d : Direction) : Play × Reply :=
  let (p, reply) := p.follow d
  ({ p with supervision := Timed.settle p.supervision }, reply)

/-- The events so far, and the play with none. -/
def takeEvents (p : Play) : Play × List Event :=
  let s := p.supervision
  ({ p with supervision := { s with events := [], host := { s.host with events := [] } } },
    Event.arranged (s.host.events ++ s.events))

end Play

end Supervisor.Rehearsal
