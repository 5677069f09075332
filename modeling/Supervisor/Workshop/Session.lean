import Supervisor.Timed
import Supervisor.Workshop

/-!
# Sessions

A workshop in time, at the hands of somebody who starts processes under keys of his own, waits for
them, and gives them input.
-/

namespace Supervisor

structure Session where
  workshop : Workshop
  now : Nat := 0
  /-- The runs that have been started and not been waited for. -/
  tickets : NameMap Nat := .empty

namespace Session

inductive Order where
  /-- Start a process and wait for its end. -/
  | run (request : ProcessRequest)
  | start (key : String) (request : ProcessRequest)
  | wait (key : String)
  | input (name text : String)
  | stop (name : String)
  | stopAll
  | running
  | read (path : String)

inductive Answer where
  | ended (result : Except Fault Int)
  | started
  /-- Nothing has been started under the key. -/
  | unknownKey
  | taken (result : Except Fault Unit)
  | stopped (told : Bool)
  | count (n : Nat)
  | names (names : List String)
  | text (contents : Option String)

instance : Timed Session where
  now := Session.now
  withNow s now := { s with now }
  step? s :=
    if Host.isDue s.workshop s.now then some { s with workshop := s.workshop.elapse s.now } else none
  nextDue s := s.workshop.due?

/-- How many milliseconds anybody waits for a process. -/
def patience : Nat := 1000000000

/-- Wait for the end of a run. -/
def await (s : Session) (ticket : Nat) : Session × Answer :=
  let isOver := fun (s : Session) => (s.workshop.table.result? ticket).isSome
  let s := Timed.advance s (s.now + patience) isOver
  (s, (s.workshop.table.result? ticket).elim .unknownKey .ended)

/-- Follow an order. -/
def follow (s : Session) (order : Order) : Session × Answer :=
  let become := fun (workshop : Workshop) => { s with workshop }
  match order with
  | .run request =>
    match s.workshop.start request with
    | (workshop, .ok ticket) => (become workshop).await ticket
    | (workshop, .error fault) => (become workshop, .ended (.error fault))
  | .start key request =>
    match s.workshop.start request with
    | (workshop, .ok ticket) => ({ s with workshop, tickets := s.tickets.insert key ticket }, .started)
    | (workshop, .error fault) => (become workshop, .ended (.error fault))
  | .wait key =>
    match s.tickets.get? key with
    | some ticket => { s with tickets := s.tickets.erase key }.await ticket
    | none => (s, .unknownKey)
  | .input name text =>
    let (workshop, result) := s.workshop.write name text
    (become workshop, .taken result)
  | .stop name =>
    let (workshop, told) := s.workshop.stop name
    (become workshop, .stopped told)
  | .stopAll =>
    let (workshop, n) := Host.stopAll s.workshop s.now
    (become workshop, .count n)
  | .running => (s, .names s.workshop.table.running)
  | .read path => (s, .text (s.workshop.disk.readText s.workshop.directory path).toOption)

/-- Follow an order and let everything happen that does not have to wait. -/
def perform (s : Session) (order : Order) : Session × Answer :=
  let (s, answer) := s.follow order
  (Timed.settle s, answer)

end Session

end Supervisor
