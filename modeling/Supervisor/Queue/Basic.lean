import Supervisor.Manifest.Basic
import Supervisor.Record.Basic

/-!
# The command queue

The commands that have been asked for or are needed, with their statuses. Each operation is a
function of the queue that returns, besides the new queue, the status writes it calls for, in order;
carrying them out is the caller's business. An entry leaves the queue by eviction only.
-/

namespace Supervisor

/-- A change of status to be kept in the status record. -/
structure StatusWrite where
  name : String
  status : Status
  deriving DecidableEq, Repr

/-- How a launched command has ended. -/
inductive Outcome where
  | succeeded
  | failed
  deriving DecidableEq, Repr

namespace Queue

structure Entry where
  status : Status
  /-- Changes of status go into the status record. -/
  persist : Bool
  /-- How often the command has been launched. -/
  launches : Nat
  command : Command
  deriving DecidableEq, Repr

namespace Entry

def fresh (command : Command) (status : Status) (persist : Bool) : Entry :=
  ⟨status, persist, 0, command⟩

/-- The command has ended and does not start again by itself. -/
def isSettled (e : Entry) : Bool := e.status.isTerminal && e.command.policy ≠ .restart

/-- The write of a status, if the entry's statuses are kept. -/
def write (e : Entry) (name : String) (status : Status) : Option StatusWrite :=
  if e.persist then some ⟨name, status⟩ else none

end Entry

end Queue

/-- Entries by command name. -/
abbrev Queue := NameMap Queue.Entry

namespace Queue

def statusOf (q : Queue) (name : String) : Option Status := (q.get? name).map Entry.status

def launchCount (q : Queue) (name : String) : Nat := ((q.get? name).map Entry.launches).getD 0

/-- The statuses of all entries. -/
def snapshot (q : Queue) : NameMap Status := q.map fun _ e => e.status

/-- Commands that wait or run. -/
def pending (q : Queue) : List String := (q.filter fun _ e => !e.status.isTerminal).keys

/-! ## Asking for a command -/

/-- Whether statuses of the command are kept: those of a `once` command always are. -/
def keeps (command : Command) (persist : Bool) : Bool := persist || command.policy = .once

/-- Ask for a command. It is refused while it waits or runs, and for good once a `once` command has
succeeded. -/
def enqueue (q : Queue) (m : Manifest) (name : String) (persist : Bool) :
    Except Fault (Queue × Option StatusWrite) := do
  let command ← m.lookup name
  let persist := keeps command persist
  let entry ← match q.get? name with
    | none => .ok (Entry.fresh command .waiting persist)
    | some e =>
      match e.status with
      | .waiting | .running => .error (.alreadyQueued name)
      | .done =>
        if command.policy = .once then .error (.alreadyCompletedOnce name)
        else .ok { e with status := .waiting, persist }
      | .error => .ok { e with status := .waiting, persist }
  return (q.insert name entry, entry.write name .waiting)

/-! ## Scanning -/

/-- A command that has just been set running. -/
structure Launch where
  name : String
  command : Command
  deriving DecidableEq, Repr

/-- What a scan does, in order. -/
structure Pass where
  launches : List Launch := []
  /-- Commands that nobody had asked for and that are needed. -/
  discovered : List String := []
  writes : List StatusWrite := []
  deriving DecidableEq, Repr

/-- A scan under way: the queue, what was done, and whether the needs looked at so far are met. -/
structure Scan where
  queue : Queue
  pass : Pass
  ready : Bool

/-- Look at one need of a command. One that is not in the queue is asked for and considered at the
next scan. -/
def Scan.need (m : Manifest) (persist : Bool) (s : Scan) (need : String) : Scan :=
  match s.queue.get? need with
  | some e => if e.status = .done then s else { s with ready := false }
  | none =>
    match s.queue.enqueue m need persist with
    | .error _ => { s with ready := false }
    | .ok (queue, write) =>
      { queue
        pass :=
          { s.pass with
            discovered := s.pass.discovered ++ [need]
            writes := s.pass.writes ++ write.toList }
        ready := false }

/-- Set a command running. -/
def Scan.launch (s : Scan) (name : String) (e : Entry) : Scan :=
  { s with
    queue := s.queue.insert name { e with status := .running, launches := e.launches + 1 }
    pass :=
      { s.pass with
        launches := s.pass.launches ++ [⟨name, e.command⟩]
        writes := s.pass.writes ++ (e.write name .running).toList } }

/-- Look at one command: if it is neither running nor settled and all its needs are done, it is set
running. -/
def Scan.visit (m : Manifest) (s : Scan) (name : String) : Scan :=
  match s.queue.get? name with
  | none => s
  | some e =>
    if e.status = .running || e.isSettled then s
    else
      let looked := e.command.needs.foldl (Scan.need m e.persist) { s with ready := true }
      if looked.ready then looked.launch name e else looked

/-- Look at every command of the queue once, in the order of names. -/
def scan (q : Queue) (m : Manifest) : Queue × Pass :=
  let s := q.keys.foldl (Scan.visit m) ⟨q, {}, true⟩
  (s.queue, s.pass)

/-- The scan found nothing to do. -/
def Pass.isIdle (p : Pass) : Bool := p.launches.isEmpty && p.discovered.isEmpty

/-! ## The end of a launch -/

/-- Note the end of a launch. A `restart` command that succeeded waits again, which is not kept. -/
def complete (q : Queue) (name : String) (outcome : Outcome) : Queue × Option StatusWrite :=
  match q.get? name with
  | none => (q, none)
  | some e =>
    match outcome with
    | .failed => (q.insert name { e with status := .error }, e.write name .error)
    | .succeeded =>
      if e.command.policy = .restart then (q.insert name { e with status := .waiting }, none)
      else (q.insert name { e with status := .done }, e.write name .done)

/-! ## Starting from a record -/

/-- The status in which a recorded command enters the queue. One that waited or ran was interrupted
and waits again; success counts only for a `once` command. -/
def restoredStatus (command : Command) : Status → Option Status
  | .waiting | .running => some .waiting
  | .done => if command.policy = .once then some .done else none
  | .error => none

/-- Bring one recorded command into the queue. -/
def restoreEntry (m : Manifest) (q : Queue) (name : String) (recorded : Status) : Queue :=
  match m.get? name with
  | none => q
  | some command =>
    match restoredStatus command recorded with
    | none => q
    | some status => q.insert name (Entry.fresh command status true)

/-- The command was interrupted and takes up its work again. -/
def isResumed (m : Manifest) (name : String) (recorded : Status) : Bool :=
  (m.get? name).isSome && !recorded.isTerminal

/-- Bring the commands of a record into the queue; also the names of those that were interrupted. -/
def restore (q : Queue) (m : Manifest) (record : Record) : Queue × List String :=
  (record.statuses.toList.foldl (fun q e => restoreEntry m q e.1 e.2) q,
    (record.statuses.filter (isResumed m)).keys)

/-! ## Eviction -/

/-- Some entry of the queue needs the command. -/
def isNeeded (q : Queue) (name : String) : Bool := q.values.any fun e => e.command.needs.contains name

/-- The entry has ended, is free to run again when asked for, and nothing needs it. -/
def isEvictable (q : Queue) (name : String) (e : Entry) : Bool :=
  e.status.isTerminal && e.command.policy = .always && !q.isNeeded name

/-- Remove the entries that are of no further use, all judged before any is removed. -/
def evict (q : Queue) : Queue × List String :=
  (q.filter fun name e => !q.isEvictable name e, (q.filter q.isEvictable).keys)

end Queue

end Supervisor
