import Supervisor.Host
import Supervisor.ProcessTable
import Supervisor.Shell.Machine

/-!
# Workshops

A host whose processes are programs that work on its disk, each in the same directory at first. A
process lives until its program has ended or it is stopped. There are no plugins.
-/

namespace Supervisor

structure Workshop where
  disk : Disk
  /-- Where programs start. -/
  directory : Place
  table : ProcessTable := {}
  /-- The programs of the runs, by generation. -/
  machines : List Shell.Machine := []

namespace Workshop

/-- How many steps a program takes before the others have their turn. -/
def turnLength : Nat := 1000

/-- The number by which the program of a run knows itself. -/
def programId (generation : Nat) : Nat := 1000 + generation

def start (w : Workshop) (r : ProcessRequest) : Workshop × Except Fault Nat :=
  if r.argv = [] then (w, .error (.manifest (.emptyArgv r.name)))
  else match Shell.Machine.start? (programId w.machines.length) w.directory r.argv with
    | none => (w, .error (.spawn r.name))
    | some machine =>
      let (table, generation) := w.table.reserve r.name
      ({ w with
          table := table.enter generation r.tty
          machines := w.machines ++ [machine] }, .ok generation)

/-- Give input to the process of a name: a line, or the bare text where it has a terminal. -/
def write (w : Workshop) (name text : String) : Workshop × Except Fault Unit :=
  match w.table.slots.get? name with
  | none => (w, .error (.processNotFound name))
  | some slot =>
    let input := text.toList ++ if slot.tty then [] else ['\n']
    if (w.machines[slot.generation]?).any (·.isOver) then (w, .error (.disk .brokenPipe))
    else ({ w with
        machines := w.machines.modify slot.generation fun m => { m with given := m.given ++ input } },
      .ok ())

def stop (w : Workshop) (name : String) : Workshop × Bool :=
  let (table, stopped) := w.table.stop name
  ({ w with table }, stopped)

/-- A run's turn: it stops, or its program goes on, and it leaves when it is over. -/
def turn (w : Workshop) (now generation : Nat) : Workshop :=
  match w.table.runs[generation]?, w.machines[generation]? with
  | some r, some m =>
    match r.phase with
    | .inFlight =>
      if r.signals ≠ 0 then { w with table := (w.table.heed generation).leave generation }
      else
        let (m, disk) := m.run turnLength now w.disk
        let w := { w with disk, machines := w.machines.set generation m }
        if m.isOver then { w with table := (w.table.exit generation m.exitCode).leave generation }
        else w
    | _ => w
  | _, _ => w

/-- One turn for every run. -/
def elapse (w : Workshop) (now : Nat) : Workshop :=
  (List.range w.machines.length).foldl (fun w generation => w.turn now generation) w

/-- When a run in flight has its next turn. -/
def turnDue? (r : Run) (m : Shell.Machine) : Option Nat :=
  match r.phase with
  | .inFlight => if r.signals ≠ 0 ∨ m.isOver then some 0 else m.due?
  | _ => none

def due? (w : Workshop) : Option Nat :=
  ((w.table.runs.zip w.machines).filterMap fun e => turnDue? e.1 e.2).min?

end Workshop

instance : Host Workshop where
  start w _ r := w.start r
  ended? w generation := w.table.result? generation
  write w _ name text := w.write name text
  stop w _ name := w.stop name
  running w := w.table.running
  plugin w _ _ _ := (w, none)
  due? := Workshop.due?
  elapse := Workshop.elapse
  disk := Workshop.disk
  withDisk w disk := { w with disk }

end Supervisor
