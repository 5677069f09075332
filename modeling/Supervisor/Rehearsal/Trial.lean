import Supervisor.Rehearsal.Stage
import Supervisor.Task
import Supervisor.Timed

/-!
# Trials

One list of procedures on a stage, with answers laid down for the commands it hands over to.
-/

namespace Supervisor.Rehearsal

/-- How asking for a command is answered. -/
inductive Answer where
  | accepted
  | queued
  | completedOnce
  | missing
  deriving DecidableEq, Repr

def Answer.result (name : String) : Answer → Except Fault Unit
  | accepted => .ok ()
  | queued => .error (.alreadyQueued name)
  | completedOnce => .error (.alreadyCompletedOnce name)
  | missing => .error (.commandNotFound name)

structure Trial where
  stage : Stage
  now : Nat := 0
  answers : NameMap Answer := .empty
  tasks : List (Task Unit) := []
  /-- How the list has ended. -/
  result : Option (Except Fault Unit) := none

namespace Trial

/-- Answer what a task asks. -/
def respond (t : Trial) : Option (Request Unit) → Trial
  | none => t
  | some (.ended () result) => { t with result := some result }
  | some (.handOver () name) =>
    let answer := ((t.answers.get? name).getD .accepted).result name
    { t with
      stage := t.stage.note t.now name .asked
      result := some (Executor.handedOver answer) }

def step? (t : Trial) : Option Trial :=
  if Host.isDue t.stage t.now then some { t with stage := t.stage.elapse t.now }
  else (Task.stepFirst? t.stage t.now t.tasks).map fun stepped =>
    { t with stage := stepped.host, tasks := stepped.tasks }.respond stepped.request

instance : Timed Trial where
  now := Trial.now
  withNow t now := { t with now }
  step? := step?
  nextDue t := Task.nextDue t.stage t.tasks

/-- Processes that run before the list begins. -/
def prepare (t : Trial) (names : List String) : Trial :=
  { t with stage := names.foldl (fun s name => (s.start t.now ⟨name, [name], false⟩).1) t.stage }

/-- How long processes of the procedures live, one after the other. -/
def span (t : Trial) (procedures : List Procedure) : Nat :=
  procedures.foldl (fun total p =>
    total + (t.stage.script.lifetimes.get? p.id).getD t.stage.script.defaultLifetime) 0

/-- Carry out a list to its end, and what else happens at that moment. -/
def run (t : Trial) (procedures : List Procedure) : Trial :=
  let begun := { t with tasks := [⟨(), .list procedures⟩] }
  Timed.advance begun (t.now + t.span procedures) fun t => t.result.isSome

/-- Carry out one procedure whatever its wait says, to its end. -/
def dispatch (t : Trial) (p : Procedure) : Trial × Except Fault Int :=
  match Host.perform t.stage t.now p with
  | (stage, .over result) => ({ t with stage }, result)
  | (stage, .process ticket) =>
    let t := Timed.advance { t with stage } (t.now + t.span [p]) fun t =>
      (Host.ended? t.stage ticket).isSome
    (t, (Host.ended? t.stage ticket).getD (.error (.terminated p.id)))

/-- The events so far, and the trial with none. -/
def takeEvents (t : Trial) : Trial × List Event :=
  ({ t with stage := { t.stage with events := [] } }, Event.arranged t.stage.events)

end Trial

end Supervisor.Rehearsal
