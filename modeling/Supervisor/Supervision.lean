import Supervisor.Event
import Supervisor.Scheduler.Basic
import Supervisor.Store.Basic
import Supervisor.Task
import Supervisor.Timed

/-!
# Supervision

Schedulers at work on a host: their loops, the commands they have launched, and those who wait for
their queues. A supervisor that is started again is a new generation: what the old one has launched
goes on beside it.
-/

namespace Supervisor

/-- A scheduler and where it keeps its statuses. -/
structure Generation where
  scheduler : Scheduler
  store : Store

/-- The launch of a command by a generation. -/
structure Launched where
  generation : Nat
  name : String
  deriving DecidableEq, Repr

/-- Somebody who waits for the queue of a generation. -/
structure Drainer where
  key : String
  generation : Nat
  watcher : Nat
  target : Option String
  deriving DecidableEq, Repr

structure Supervision (H : Type) where
  manifest : Manifest
  host : H
  now : Nat := 0
  /-- The oldest generation first. -/
  generations : List Generation := []
  tasks : List (Task Launched) := []
  drainers : List Drainer := []
  /-- Commands whose statuses cannot be kept. -/
  unwritable : List String := []
  events : List Event := []

namespace Supervision

variable {H : Type} [Host H]

def note (s : Supervision H) (name : String) (what : Happening) : Supervision H :=
  { s with events := s.events ++ [⟨s.now, name, what⟩] }

def updateScheduler (s : Supervision H) (g : Nat) (scheduler : Scheduler) : Supervision H :=
  { s with generations := s.generations.modify g fun x => { x with scheduler } }

/-- Have a generation's store keep a status. A failure is of no consequence. -/
def keep (s : Supervision H) (g : Nat) (w : StatusWrite) : Supervision H :=
  let s := s.note w.name (.wrote w.status)
  match s.generations[g]? with
  | none => s
  | some x =>
    if s.unwritable.contains w.name then s
    else
      let written := x.store.setStatus (Host.disk s.host) w.name w.status
      { s with
        host := Host.withDisk s.host written.disk
        generations := s.generations.modify g fun x => { x with store := written.store } }

def keepAll (s : Supervision H) (g : Nat) (ws : List StatusWrite) : Supervision H :=
  ws.foldl (fun s w => s.keep g w) s

def signal (s : Supervision H) (g : Nat) (t : Trigger) : Supervision H :=
  match s.generations[g]? with
  | none => s
  | some x => s.updateScheduler g (x.scheduler.signal t)

/-- Ask a generation for a command. -/
def enqueue (s : Supervision H) (g : Nat) (name : String) (persist : Bool) :
    Supervision H × Except Fault Unit :=
  match s.generations[g]? with
  | none => (s, .error (.commandNotFound name))
  | some x =>
    match x.scheduler.accept s.manifest name persist with
    | .error fault => (s, .error fault)
    | .ok (scheduler, write) =>
      (((s.updateScheduler g scheduler).keepAll g write.toList).signal g (.enqueued name), .ok ())

/-- Note how a launched command has ended. -/
def finish (s : Supervision H) (l : Launched) (result : Except Fault Unit) : Supervision H :=
  match s.generations[l.generation]? with
  | none => s
  | some x =>
    let outcome := match result with
      | .ok () => Outcome.succeeded
      | .error _ => .failed
    let (scheduler, write) := x.scheduler.finish l.name outcome
    ((s.updateScheduler l.generation scheduler).keepAll l.generation write.toList).signal l.generation
      (.completed l.name)

/-- Begin to wait for the queue of a generation. -/
def beginDrain (s : Supervision H) (g : Nat) (key : String) (target : Option String) :
    Supervision H :=
  match s.generations[g]? with
  | none => s
  | some x =>
    let (scheduler, watcher) := x.scheduler.subscribe
    let drainer : Drainer := ⟨key, g, watcher, target⟩
    let s := s.updateScheduler g scheduler
    { s with drainers := s.drainers ++ [drainer] }.signal g .drain

/-! ## Steps -/

/-- One turn of a loop, with the writes and launches it calls for. -/
def turn (s : Supervision H) (g : Nat) (scheduler : Scheduler) : Supervision H :=
  let (scheduler, pass) := scheduler.turn s.manifest
  let s := (s.updateScheduler g scheduler).keepAll g pass.writes
  let launched : List (Task Launched) :=
    pass.launches.map fun l => ⟨⟨g, l.name⟩, .list l.command.procedures⟩
  { s with tasks := s.tasks ++ launched }

/-- One turn of the first loop that has something to do. -/
def stepLoop? (s : Supervision H) : Option (Supervision H) :=
  (s.generations.findIdx? fun x => x.scheduler.isAwake).bind fun g =>
    (s.generations[g]?).map fun x => s.turn g x.scheduler

def stepTask? (s : Supervision H) : Option (Supervision H) :=
  (Task.stepFirst? s.host s.now s.tasks).map fun stepped =>
    let s := { s with host := stepped.host, tasks := stepped.tasks }
    match stepped.request with
    | none => s
    | some (.ended owner result) => s.finish owner result
    | some (.handOver owner target) =>
      let (s, answer) := s.enqueue owner.generation target false
      s.finish owner (Executor.handedOver answer)

/-- A drainer looks whether it has been told anything; what it waits for may be there. -/
def stepDrainer (s : Supervision H) (d : Drainer) (x : Generation) : Option (Supervision H) :=
  let leave := fun (watchers : Watchers) =>
    { s.updateScheduler d.generation { x.scheduler with watchers := watchers.unsubscribe d.watcher } with
      drainers := s.drainers.filter (· ≠ d) }.note d.key .drained
  match x.scheduler.watchers.poll d.watcher with
  | (watchers, .changed _) =>
    if Scheduler.isDrained x.scheduler.queue d.target then some (leave watchers)
    else some (s.updateScheduler d.generation { x.scheduler with watchers })
  | (watchers, .closed _) => some (leave watchers)
  | (_, .unchanged _) | (_, .nobody) => none

def stepDrainer? (s : Supervision H) : Option (Supervision H) :=
  s.drainers.findSome? fun d => (s.generations[d.generation]?).bind (s.stepDrainer d)

/-- One step of whatever can take one. -/
def step? (s : Supervision H) : Option (Supervision H) :=
  if Host.isDue s.host s.now then some { s with host := Host.elapse s.host s.now }
  else s.stepLoop?.orElse fun _ => s.stepTask?.orElse fun _ => s.stepDrainer?

instance : Timed (Supervision H) where
  now := Supervision.now
  withNow s now := { s with now }
  step? := step?
  nextDue s := Task.nextDue s.host s.tasks

/-! ## The current generation -/

/-- The place of the current generation. -/
def current (s : Supervision H) : Nat := s.generations.length - 1

def current? (s : Supervision H) : Option Generation := s.generations.getLast?

/-- Start a scheduler on a store. -/
def start (s : Supervision H) (store : Store) : Supervision H :=
  { s with generations := s.generations ++ [⟨.start s.manifest store.record, store⟩] }

/-- The loop of a generation has ended. -/
def isStopped (s : Supervision H) (g : Nat) : Bool :=
  (s.generations[g]?).any fun x => x.scheduler.loop = .stopped

/-- Somebody waits under a watcher's number. -/
def isDraining (s : Supervision H) (g watcher : Nat) : Bool :=
  s.drainers.any fun d => d.generation = g && d.watcher = watcher

end Supervision

end Supervisor
