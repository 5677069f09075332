import Supervisor.Fault
import Supervisor.NameMap

/-!
# The process table

Runs of processes and the names they go by. A name leads to the run that was entered under it last,
until that run has left. A run that loses its name to another one is told to stop, and so is a run
that somebody stops by its name; the means to tell it is used up by the first who does.
-/

namespace Supervisor

inductive Phase where
  /-- It has its number and is not in the table yet. -/
  | reserved
  | inFlight
  /-- It is over and has not left the table yet. -/
  | over (result : Except Fault Int)
  | left (result : Except Fault Int)

/-- A run of a process; its generation is its place in the order of reservations. -/
structure Run where
  name : String
  phase : Phase := .reserved
  /-- How often it has been told to stop. -/
  signals : Nat := 0

/-- What a name leads to. -/
structure Slot where
  generation : Nat
  tty : Bool
  /-- The run can be told to stop through this slot. -/
  armed : Bool := true
  deriving DecidableEq, Repr

structure ProcessTable where
  runs : List Run := []
  slots : NameMap Slot := .empty

namespace ProcessTable

/-- Get a number for a run. -/
def reserve (t : ProcessTable) (name : String) : ProcessTable × Nat :=
  ({ t with runs := t.runs ++ [{ name }] }, t.runs.length)

/-- Tell a run to stop. -/
def signal (t : ProcessTable) (generation : Nat) : ProcessTable :=
  { t with runs := t.runs.modify generation fun r => { r with signals := r.signals + 1 } }

/-- Use up the means that a slot has to tell its run to stop. -/
def disarm (t : ProcessTable) : Option Slot → ProcessTable
  | some slot => if slot.armed then t.signal slot.generation else t
  | none => t

/-- Enter a run under its name, in place of whatever goes by it. -/
def enter (t : ProcessTable) (generation : Nat) (tty : Bool) : ProcessTable :=
  match t.runs[generation]? with
  | none => t
  | some r =>
    let entered : ProcessTable :=
      { runs := t.runs.set generation { r with phase := .inFlight }
        slots := t.slots.insert r.name { generation, tty } }
    entered.disarm (t.slots.get? r.name)

/-- Stop whatever goes by a name; whether somebody was told. -/
def stop (t : ProcessTable) (name : String) : ProcessTable × Bool :=
  match t.slots.get? name with
  | none => (t, false)
  | some slot =>
    ({ t with slots := t.slots.insert name { slot with armed := false } }.disarm (some slot), slot.armed)

/-- A run in flight is over. -/
def finish (t : ProcessTable) (generation : Nat) (result : Run → Option (Except Fault Int)) :
    ProcessTable :=
  { t with
    runs := t.runs.modify generation fun r =>
      match r.phase, result r with
      | .inFlight, some result => { r with phase := .over result }
      | _, _ => r }

/-- The process of a run has ended by itself. -/
def exit (t : ProcessTable) (generation : Nat) (code : Int) : ProcessTable :=
  t.finish generation fun _ => some (.ok code)

/-- A run does what it has been told. -/
def heed (t : ProcessTable) (generation : Nat) : ProcessTable :=
  t.finish generation fun r =>
    if r.signals = 0 then none else some (.error (.terminated r.name))

/-- A run that is over leaves the table; its name is free unless another run goes by it. -/
def leave (t : ProcessTable) (generation : Nat) : ProcessTable :=
  match t.runs[generation]? with
  | none => t
  | some r =>
    match r.phase with
    | .over result =>
      { runs := t.runs.set generation { r with phase := .left result }
        slots := if (t.slots.get? r.name).any (·.generation = generation) then t.slots.erase r.name
          else t.slots }
    | _ => t

/-- Names that lead to runs, in order. -/
def running (t : ProcessTable) : List String := t.slots.keys

/-- How a run has ended, once it has left. -/
def result? (t : ProcessTable) (generation : Nat) : Option (Except Fault Int) :=
  (t.runs[generation]?).bind fun r =>
    match r.phase with
    | .left result => some result
    | .reserved | .inFlight | .over _ => none

end ProcessTable

end Supervisor
