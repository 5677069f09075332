import Supervisor.Fault
import Supervisor.Status

/-!
# Events

What can be seen of a supervisor's work from outside, with the time in milliseconds and the name it
concerns.
-/

namespace Supervisor

inductive Happening where
  | started (argv : List String) (tty : Bool)
  | ended (result : Except Fault Int)
  /-- Input was given to a process, with or without success. -/
  | input (text : String) (taken : Bool)
  | plugin (payload : String) (result : Except Fault String)
  /-- A command was asked for by another one. -/
  | asked
  /-- A status was to be kept. -/
  | wrote (status : Status)
  /-- Somebody stopped waiting for the queue. -/
  | drained

structure Event where
  time : Nat
  name : String
  what : Happening

namespace Event

/-- By time, then by name. -/
def le (a b : Event) : Bool := a.time < b.time || (a.time = b.time && !(b.name < a.name))

/-- In order of time and name, and otherwise as they occurred. -/
def arranged (events : List Event) : List Event := events.mergeSort le

end Event

end Supervisor
