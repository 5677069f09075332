import Supervisor.Host

/-!
# Tasks

Lists of procedures under way on a host. A task takes a step when its turn comes and whatever it
waits for is there; where it needs somebody else, it leaves a request. Procedures that nothing waits
for become tasks of their own.
-/

namespace Supervisor

inductive Work where
  /-- The front of the list is next. -/
  | list (procedures : List Procedure)
  /-- A process has to end before the list goes on. -/
  | awaiting (ticket : Nat) (p : Procedure) (rest : List Procedure)
  /-- A procedure aside from its list, not to start before its time. -/
  | delayed (due : Nat) (p : Procedure)
  /-- A process whose end matters to nobody. -/
  | aside (ticket : Nat)
  deriving DecidableEq, Repr

/-- Work of somebody. -/
structure Task (ω : Type) where
  owner : ω
  work : Work
  deriving DecidableEq, Repr

/-- What a task leaves to others. -/
inductive Request (ω : Type) where
  /-- Ask for a command; the answer is how the owner's list ends. -/
  | handOver (owner : ω) (target : String)
  /-- The owner's list has ended. -/
  | ended (owner : ω) (result : Except Fault Unit)

/-- One step of a task: what becomes of the host, what the task is replaced by, and what it asks. -/
structure Stepped (H ω : Type) where
  host : H
  tasks : List (Task ω) := []
  request : Option (Request ω) := none

namespace Task

variable {H ω : Type} [Host H]

/-- Go on, or end, with the result of a procedure that was waited for. -/
def resume (h : H) (owner : ω) (p : Procedure) (rest : List Procedure) (result : Except Fault Int) :
    Stepped H ω :=
  match Executor.verdict p result with
  | none => { host := h, tasks := [⟨owner, .list rest⟩] }
  | some result => { host := h, request := some (.ended owner result) }

/-- The front of a list. -/
def advance (h : H) (now : Nat) (owner : ω) (procedures : List Procedure) : Stepped H ω :=
  match Executor.Move.next procedures with
  | .finish => { host := h, request := some (.ended owner (.ok ())) }
  | .handOver p =>
    match Executor.target p with
    | .ok target => { host := h, request := some (.handOver owner target) }
    | .error fault => { host := h, request := some (.ended owner (.error fault)) }
  | .detach p rest =>
    { host := h
      tasks := [⟨owner, .list rest⟩, ⟨owner, .delayed (now + 1000 * p.wait.delay) p⟩] }
  | .await p rest =>
    match Host.perform h now p with
    | (h, .process ticket) => { host := h, tasks := [⟨owner, .awaiting ticket p rest⟩] }
    | (h, .over result) => resume h owner p rest result

/-- One step of a task, if it can take one. -/
def step? (h : H) (now : Nat) (t : Task ω) : Option (Stepped H ω) :=
  match t.work with
  | .list procedures => some (advance h now t.owner procedures)
  | .awaiting ticket p rest => (Host.ended? h ticket).map (resume h t.owner p rest)
  | .delayed due p =>
    if due ≤ now then
      match Host.perform h now p with
      | (h, .process ticket) => some { host := h, tasks := [⟨t.owner, .aside ticket⟩] }
      | (h, .over _) => some { host := h }
    else none
  | .aside ticket => (Host.ended? h ticket).map fun _ => { host := h }

/-- When the task can go on by itself. -/
def due? (t : Task ω) : Option Nat :=
  match t.work with
  | .delayed due _ => some due
  | _ => none

/-- One step of the first task that can take one. -/
def stepFirst? (h : H) (now : Nat) : List (Task ω) → Option (Stepped H ω)
  | [] => none
  | t :: rest =>
    match t.step? h now with
    | some s => some { s with tasks := s.tasks ++ rest }
    | none => (stepFirst? h now rest).map fun s => { s with tasks := t :: s.tasks }

/-- The earlier of two times, where they are known. -/
def earlier : Option Nat → Option Nat → Option Nat
  | some a, some b => some (min a b)
  | some a, none => some a
  | none, b => b

/-- When one of the tasks or the host can go on by itself. -/
def nextDue (h : H) (tasks : List (Task ω)) : Option Nat :=
  tasks.foldl (fun due t => earlier due t.due?) (Host.due? h)

end Task

end Supervisor
