import Supervisor.Disk
import Supervisor.Executor

/-!
# Hosts

What procedures act upon: processes by name, plugins, and a disk. Time is counted in milliseconds
and passes outside; a host says when something on it is due, and is told how late it is.
-/

namespace Supervisor

/-- Operations at a time given in milliseconds. -/
class Host (H : Type) where
  /-- Start a process. It gets a ticket under which its end is found. -/
  start : H → Nat → ProcessRequest → H × Except Fault Nat
  /-- How the process of a ticket has ended, if it has. -/
  ended? : H → Nat → Option (Except Fault Int)
  /-- Give a running process a line of input. -/
  write : H → Nat → String → String → H × Except Fault Unit
  /-- Stop a running process; whether there is one of the name. -/
  stop : H → Nat → String → H × Bool
  /-- Names of running processes, in order. -/
  running : H → List String
  /-- Call a plugin by name with a payload, if there is one. -/
  plugin : H → Nat → String → String → H × Option (Except Fault String)
  /-- When something on the host is due next. -/
  due? : H → Option Nat
  /-- Do what is due by now. -/
  elapse : H → Nat → H
  disk : H → Disk
  withDisk : H → Disk → H

namespace Host

variable {H : Type} [Host H]

/-- How an action has begun: it is over, or goes on as a process. -/
inductive Begun where
  | over (result : Except Fault Int)
  | process (ticket : Nat)

/-- Begin to carry out a procedure. -/
def perform (h : H) (now : Nat) (p : Procedure) : H × Begun :=
  match p.action with
  | .run request =>
    match start h now request with
    | (h, .ok ticket) => (h, .process ticket)
    | (h, .error fault) => (h, .over (.error fault))
  | .write target input =>
    let (h, result) := write h now target input
    (h, .over (result.map fun _ => 0))
  | .plugin name payload =>
    match plugin h now name payload with
    | (h, some result) => (h, .over (result.map fun _ => 0))
    | (h, none) => (h, .over (.error (.unsupportedMode p.mode.text)))
  | .refuse fault => (h, .over (.error fault))

/-- Stop every process; how many were there to be stopped. -/
def stopAll (h : H) (now : Nat) : H × Nat :=
  (running h).foldl (fun (h, n) name =>
    let (h, stopped) := stop h now name
    (h, if stopped then n + 1 else n)) (h, 0)

/-- Something on the host is due by now. -/
def isDue (h : H) (now : Nat) : Bool := (due? h).any (· ≤ now)

end Host

end Supervisor
