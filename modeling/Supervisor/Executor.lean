import Supervisor.Manifest.Basic

/-!
# Carrying out procedures

The order in which a command's procedures are carried out, apart from what they do. `Move.next` looks
at the front of the list: a procedure that nothing waits for is started aside, one that hands the
command over ends the list, and any other one is waited for; `verdict` then tells from its result
whether the list goes on.
-/

namespace Supervisor

/-- A process that is to be started under a name. -/
structure ProcessRequest where
  name : String
  argv : List String
  tty : Bool
  deriving DecidableEq, Repr

/-- What carrying out a procedure comes to. -/
inductive Action where
  | run (request : ProcessRequest)
  | write (target input : String)
  | plugin (name payload : String)
  /-- It cannot be carried out at all. -/
  | refuse (fault : Fault)
  deriving DecidableEq, Repr

/-- The action of a procedure, by its mode and the data that goes with it. -/
def Procedure.action (p : Procedure) : Action :=
  match p.mode, p.data with
  | .exec, .argv words => .run ⟨p.id, words, false⟩
  | .execTty, .argv words => .run ⟨p.id, words, true⟩
  | .stdin, .stdin target input => .write target input
  | .plugin name, .payload text => .plugin name text
  | .unsupported text, _ => .refuse (.unsupportedMode text)
  | mode, data => .refuse (.manifest (.mismatch p.id mode data))

namespace Executor

/-- What is next for a list of procedures. -/
inductive Move where
  /-- Carry one out and wait for its result. -/
  | await (p : Procedure) (rest : List Procedure)
  /-- Start one aside and go on. -/
  | detach (p : Procedure) (rest : List Procedure)
  /-- Hand over; nothing after it is carried out. -/
  | handOver (p : Procedure)
  | finish
  deriving DecidableEq, Repr

def Move.next : List Procedure → Move
  | [] => .finish
  | p :: rest =>
    if p.mode = .command then .handOver p
    else if p.wait.isBlocking then .await p rest
    else .detach p rest

/-- How a list ends with the result of a procedure it waited for, or nothing if it goes on. An exit
code may be ignored, a fault never. -/
def verdict (p : Procedure) : Except Fault Int → Option (Except Fault Unit)
  | .error fault => some (.error fault)
  | .ok exitCode =>
    if exitCode = 0 ∨ p.ignoreFailure then none
    else some (.error (.procedureFailed p.mode exitCode))

/-- The command that a procedure hands over to. -/
def target (p : Procedure) : Except Fault String :=
  match p.data with
  | .command target => .ok target
  | _ => .error (.manifest (.noTarget p.id))

/-- How a list ends that has handed over, given how the other command was asked for: one that has
completed once and for all counts as done. -/
def handedOver : Except Fault Unit → Except Fault Unit
  | .error (.alreadyCompletedOnce _) => .ok ()
  | answer => answer

end Executor

end Supervisor
