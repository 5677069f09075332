import Supervisor.Queue.Closure
import Supervisor.Watchers

/-!
# The scheduler

A queue, the triggers that have been sent to its work loop, and the watchers the loop reports to.
Callers and the loop take turns in any order; each function below is one turn that nothing else
comes between. Whoever changes the queue sends a trigger in a turn of its own afterwards.
-/

namespace Supervisor

/-- What wakes the work loop. -/
inductive Trigger where
  | enqueued (name : String)
  | completed (name : String)
  /-- Somebody waits for the queue to empty and wants a report. -/
  | drain
  | shutdown
  deriving DecidableEq, Repr

/-- Where the work loop is. -/
inductive Loop where
  /-- It waits for a trigger. -/
  | idle
  /-- It has taken a trigger and has not scanned yet. -/
  | woken
  | scanned
  /-- It has read what is pending and has not reported it yet. -/
  | reporting (pending : List String)
  /-- It has taken the last trigger. -/
  | closing
  | stopped
  deriving DecidableEq, Repr

structure Scheduler where
  queue : Queue
  /-- Triggers not taken yet, the oldest first. -/
  triggers : List Trigger := []
  loop : Loop := .idle
  watchers : Watchers := {}

namespace Scheduler

/-- A scheduler that takes up the work of a record. -/
def start (m : Manifest) (record : Record) : Scheduler :=
  let (queue, resumed) := Queue.restore .empty m record
  { queue, triggers := if resumed = [] then [] else [.drain] }

/-- Send a trigger; after the end of the loop nobody receives it. -/
def signal (s : Scheduler) (t : Trigger) : Scheduler :=
  if s.loop = .stopped then s else { s with triggers := s.triggers ++ [t] }

/-! ## Turns of callers -/

/-- Ask for a command. The trigger `enqueued` is due. -/
def accept (s : Scheduler) (m : Manifest) (name : String) (persist : Bool) :
    Except Fault (Scheduler × Option StatusWrite) := do
  let (queue, write) ← s.queue.enqueue m name persist
  return ({ s with queue }, write)

/-- Note the end of a launch. The trigger `completed` is due. -/
def finish (s : Scheduler) (name : String) (outcome : Outcome) : Scheduler × Option StatusWrite :=
  let (queue, write) := s.queue.complete name outcome
  ({ s with queue }, write)

def evict (s : Scheduler) : Scheduler × List String :=
  let (queue, names) := s.queue.evict
  ({ s with queue }, names)

/-- Begin to watch. The trigger `drain` is due. -/
def subscribe (s : Scheduler) : Scheduler × Nat :=
  ({ s with watchers := s.watchers.subscribe }, s.watchers.nextId)

/-- What a drainer waits for: that nothing is pending, or nothing a command depends on. -/
def isDrained (q : Queue) : Option String → Bool
  | none => q.pending.isEmpty
  | some name => !q.closurePending name

/-! ## Turns of the work loop -/

/-- Take the oldest trigger. -/
def take (s : Scheduler) : Scheduler :=
  match s.loop, s.triggers with
  | .idle, .shutdown :: rest => { s with triggers := rest, loop := .closing }
  | .idle, _ :: rest => { s with triggers := rest, loop := .woken }
  | _, _ => s

/-- Scan the queue. A discovered command sends its trigger at once; the writes and launches of the
pass are due. -/
def scan (s : Scheduler) (m : Manifest) : Scheduler × Queue.Pass :=
  match s.loop with
  | .woken =>
    let (queue, pass) := s.queue.scan m
    ({ s with
        queue, loop := .scanned
        triggers := s.triggers ++ pass.discovered.map .enqueued }, pass)
  | _ => (s, {})

/-- Read what is pending. -/
def read (s : Scheduler) : Scheduler :=
  if s.loop = .scanned then { s with loop := .reporting s.queue.pending } else s

/-- Report what has been read. -/
def report (s : Scheduler) : Scheduler :=
  match s.loop with
  | .reporting pending => { s with loop := .idle, watchers := s.watchers.broadcast pending }
  | _ => s

/-- End the loop. -/
def close (s : Scheduler) : Scheduler :=
  if s.loop = .closing then { s with loop := .stopped, watchers := s.watchers.closeAll } else s

/-! ## Turns in a row -/

/-- The loop has something to do. -/
def isAwake (s : Scheduler) : Bool :=
  match s.loop, s.triggers with
  | .stopped, _ => false
  | .idle, [] => false
  | _, _ => true

/-- Everything the loop does for one trigger. -/
def turn (s : Scheduler) (m : Manifest) : Scheduler × Queue.Pass :=
  let (s, pass) := s.take.scan m
  (s.read.report.close, pass)

end Scheduler

end Supervisor
