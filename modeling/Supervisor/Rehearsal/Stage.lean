import Supervisor.Event
import Supervisor.Host

/-!
# Stages

A host whose processes are scripted: each lives for a time and ends with an exit code that its name
decides. One plugin at most is there, and it either takes or rejects every payload.
-/

namespace Supervisor.Rehearsal

/-- A plugin that answers to one name. -/
structure Plugin where
  name : String
  fails : Bool

structure Script where
  defaultLifetime : Nat := 1
  lifetimes : NameMap Nat := .empty
  exitCodes : NameMap Int := .empty
  plugin : Option Plugin := none

/-- A process; its ticket is its place in the order of starts. -/
structure Process where
  name : String
  due : Nat
  exitCode : Int
  result : Option (Except Fault Int) := none

structure Stage where
  script : Script
  processes : List Process := []
  /-- The latest process of each name, while it runs. -/
  latest : NameMap Nat := .empty
  events : List Event := []
  disk : Disk := .fresh

namespace Stage

def note (s : Stage) (now : Nat) (name : String) (what : Happening) : Stage :=
  { s with events := s.events ++ [⟨now, name, what⟩] }

/-- How many processes have been started under a name. -/
def starts (s : Stage) (name : String) : Nat := s.processes.countP fun p => p.name = name

def start (s : Stage) (now : Nat) (r : ProcessRequest) : Stage × Except Fault Nat :=
  let ticket := s.processes.length
  let process : Process :=
    { name := r.name
      due := now + (s.script.lifetimes.get? r.name).getD s.script.defaultLifetime
      exitCode := (s.script.exitCodes.get? r.name).getD 0 }
  ({ s with
      processes := s.processes ++ [process]
      latest := s.latest.insert r.name ticket }.note now r.name (.started r.argv r.tty), .ok ticket)

/-- End a process. -/
def finish (s : Stage) (now ticket : Nat) (p : Process) (result : Except Fault Int) : Stage :=
  { s with
    processes := s.processes.set ticket { p with result := some result }
    latest := if s.latest.get? p.name = some ticket then s.latest.erase p.name else s.latest }.note
      now p.name (.ended result)

/-- End the processes whose time has come. -/
def elapse (s : Stage) (now : Nat) : Stage :=
  s.processes.zipIdx.foldl (fun s e =>
    if e.1.result.isNone ∧ e.1.due ≤ now then s.finish now e.2 e.1 (.ok e.1.exitCode) else s) s

/-- The first time at which a process ends. -/
def due? (s : Stage) : Option Nat := ((s.processes.filter (·.result.isNone)).map (·.due)).min?

def stop (s : Stage) (now : Nat) (name : String) : Stage × Bool :=
  match s.latest.get? name with
  | none => (s, false)
  | some ticket =>
    match s.processes[ticket]? with
    | none => (s, true)
    | some p => (s.finish now ticket p (.error (.terminated name)), true)

def write (s : Stage) (now : Nat) (name text : String) : Stage × Except Fault Unit :=
  let taken := s.latest.contains name
  (s.note now name (.input text taken), if taken then .ok () else .error (.processNotFound name))

/-- What a plugin answers to a payload. -/
def answer (p : Plugin) (payload : String) : Except Fault String :=
  if p.fails then .error (.pluginRejected p.name) else .ok (p.name ++ ":" ++ payload)

def plugin (s : Stage) (now : Nat) (name payload : String) : Stage × Option (Except Fault String) :=
  match s.script.plugin with
  | none => (s, none)
  | some p =>
    if p.name = name then
      (s.note now name (.plugin payload (answer p payload)), some (answer p payload))
    else (s, none)

end Stage

instance : Host Stage where
  start := Stage.start
  ended? s ticket := (s.processes[ticket]?).bind (·.result)
  write := Stage.write
  stop := Stage.stop
  running s := s.latest.keys
  plugin := Stage.plugin
  due? := Stage.due?
  elapse := Stage.elapse
  disk := Stage.disk
  withDisk s disk := { s with disk }

end Supervisor.Rehearsal
