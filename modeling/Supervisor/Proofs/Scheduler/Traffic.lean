import Mathlib.Logic.Relation
import Supervisor.Executor
import Supervisor.Scheduler.Basic

/-!
# A scheduler among its callers

A scheduler with everybody who takes turns with its work loop: calls that have changed the queue and
have not sent their trigger, launches on their way through their procedures, and those who wait for
the queue. Any number of each may be there, and their turns come in any order. A turn is what the
scheduler's locks keep together; the locks themselves are not described, nor are the writes, which
change nothing here. What processes and plugins answer is left open.
-/

namespace Supervisor

/-- How a launch counts that has ended with a result. -/
def Outcome.ofResult : Except Fault Unit → Outcome
  | .ok () => .succeeded
  | .error _ => .failed

namespace Traffic

/-- How far a launch has come. -/
inductive Progress where
  /-- These procedures are left. -/
  | working (procedures : List Procedure)
  /-- A procedure has to end before the others go on. -/
  | awaiting (p : Procedure) (rest : List Procedure)
  /-- It has asked for another command; the trigger `enqueued` is due. -/
  | announcing (target : String)
  /-- Its result is known and has not been noted. -/
  | over (result : Except Fault Unit)

/-- A launch that has not ended. -/
structure Run where
  name : String
  progress : Progress

/-- A call that has changed the queue and has not sent its trigger. -/
inductive Call where
  | enqueue (name : String)
  | finish (name : String)

def Call.trigger : Call → Trigger
  | enqueue name => .enqueued name
  | finish name => .completed name

/-- Where somebody is who waits for the queue. -/
inductive Watch where
  /-- The trigger `drain` is due. -/
  | subscribed
  | asleep
  /-- Woken, and has not looked at the queue yet. -/
  | awake
  /-- What was waited for is there, or nothing more will come. -/
  | leaving

structure Waiter where
  watcher : Nat
  target : Option String
  watch : Watch

end Traffic

structure Traffic where
  scheduler : Scheduler
  calls : List Traffic.Call := []
  runs : List Traffic.Run := []
  waiters : List Traffic.Waiter := []

namespace Traffic

open Progress (working announcing)
open Relation (ReflTransGen)

/-- Go on, or end, with the answer to a procedure that was waited for. -/
def Progress.resumed (p : Procedure) (rest : List Procedure) (answer : Except Fault Int) : Progress :=
  match Executor.verdict p answer with
  | none => .working rest
  | some result => .over result

/-- A step of a launch that concerns nobody else. Procedures aside are not followed: they ask for
nothing. -/
inductive Progress.Goes : Progress → Progress → Prop
  | await {procedures rest : List Procedure} {p : Procedure}
      (next : Executor.Move.next procedures = .await p rest) :
      Goes (.working procedures) (.awaiting p rest)
  | resume (p : Procedure) (rest : List Procedure) (answer : Except Fault Int) :
      Goes (.awaiting p rest) (.resumed p rest answer)
  | detach {procedures rest : List Procedure} {p : Procedure}
      (next : Executor.Move.next procedures = .detach p rest) :
      Goes (.working procedures) (.working rest)
  | stray {procedures : List Procedure} {p : Procedure} {fault : Fault}
      (next : Executor.Move.next procedures = .handOver p) (none : Executor.target p = .error fault) :
      Goes (.working procedures) (.over (.error fault))
  | finish {procedures : List Procedure} (next : Executor.Move.next procedures = .finish) :
      Goes (.working procedures) (.over (.ok ()))

/-- A launch at its beginning. -/
def begin (l : Queue.Launch) : Run := ⟨l.name, working l.command.procedures⟩

/-- Turns of those who ask, evict and shut down. A request that is refused changes nothing. -/
inductive CallerTurn (m : Manifest) (s : Traffic) : Traffic → Prop
  | enqueue (name : String) (persist : Bool) {scheduler : Scheduler} {write : Option StatusWrite}
      (granted : s.scheduler.accept m name persist = .ok (scheduler, write)) :
      CallerTurn m s { s with scheduler, calls := .enqueue name :: s.calls }
  | signal (before : List Call) {after : List Call} {call : Call}
      (due : s.calls = before ++ call :: after) :
      CallerTurn m s
        { s with scheduler := s.scheduler.signal call.trigger, calls := before ++ after }
  | evict : CallerTurn m s { s with scheduler := s.scheduler.evict.1 }
  | shutdown : CallerTurn m s { s with scheduler := s.scheduler.signal .shutdown }

/-- Turns of the work loop. -/
inductive LoopTurn (m : Manifest) (s : Traffic) : Traffic → Prop
  | take : LoopTurn m s { s with scheduler := s.scheduler.take }
  | scan : LoopTurn m s
      { s with
        scheduler := (s.scheduler.scan m).1
        runs := s.runs ++ (s.scheduler.scan m).2.launches.map begin }
  | read : LoopTurn m s { s with scheduler := s.scheduler.read }
  | report : LoopTurn m s { s with scheduler := s.scheduler.report }
  | close : LoopTurn m s { s with scheduler := s.scheduler.close }

/-- Turns of a launch. It asks for another command as any caller does, and goes on once it has sent
the trigger. -/
inductive RunTurn (m : Manifest) (s : Traffic) : Traffic → Prop
  | proceed (before : List Run) {after : List Run} {name : String} {now next : Progress}
      (here : s.runs = before ++ ⟨name, now⟩ :: after) (goes : now.Goes next) :
      RunTurn m s { s with runs := before ++ ⟨name, next⟩ :: after }
  | handOver (before : List Run) {after : List Run} {name target : String}
      {procedures : List Procedure} {p : Procedure} {scheduler : Scheduler} {write : Option StatusWrite}
      (here : s.runs = before ++ ⟨name, working procedures⟩ :: after)
      (next : Executor.Move.next procedures = .handOver p) (aim : Executor.target p = .ok target)
      (granted : s.scheduler.accept m target false = .ok (scheduler, write)) :
      RunTurn m s { s with scheduler, runs := before ++ ⟨name, announcing target⟩ :: after }
  | refused (before : List Run) {after : List Run} {name target : String}
      {procedures : List Procedure} {p : Procedure} {fault : Fault}
      (here : s.runs = before ++ ⟨name, working procedures⟩ :: after)
      (next : Executor.Move.next procedures = .handOver p) (aim : Executor.target p = .ok target)
      (refused : s.scheduler.accept m target false = .error fault) :
      RunTurn m s
        { s with runs := before ++ ⟨name, .over (Executor.handedOver (.error fault))⟩ :: after }
  | announce (before : List Run) {after : List Run} {name target : String}
      (here : s.runs = before ++ ⟨name, announcing target⟩ :: after) :
      RunTurn m s
        { s with
          scheduler := s.scheduler.signal (.enqueued target)
          runs := before ++ ⟨name, .over (Executor.handedOver (.ok ()))⟩ :: after }
  | finish (before : List Run) {after : List Run} {name : String} {result : Except Fault Unit}
      (here : s.runs = before ++ ⟨name, .over result⟩ :: after) :
      RunTurn m s
        { s with
          scheduler := (s.scheduler.finish name (.ofResult result)).1
          calls := .finish name :: s.calls
          runs := before ++ after }

/-- Turns of those who wait for the queue. They look at it as it is when they look, whatever has been
reported; who gives up does not unsubscribe. -/
inductive WaiterTurn (s : Traffic) : Traffic → Prop
  | subscribe (target : Option String) :
      WaiterTurn s
        { s with
          scheduler := s.scheduler.subscribe.1
          waiters := s.waiters ++ [⟨s.scheduler.subscribe.2, target, .subscribed⟩] }
  | signal (before : List Waiter) {after : List Waiter} {watcher : Nat} {target : Option String}
      (here : s.waiters = before ++ ⟨watcher, target, .subscribed⟩ :: after) :
      WaiterTurn s
        { s with
          scheduler := s.scheduler.signal .drain
          waiters := before ++ ⟨watcher, target, .asleep⟩ :: after }
  | wake (before : List Waiter) {after : List Waiter} {watcher : Nat} {target : Option String}
      {watchers : Watchers} {names : List String}
      (here : s.waiters = before ++ ⟨watcher, target, .asleep⟩ :: after)
      (told : s.scheduler.watchers.poll watcher = (watchers, .changed names)) :
      WaiterTurn s
        { s with
          scheduler := { s.scheduler with watchers }
          waiters := before ++ ⟨watcher, target, .awake⟩ :: after }
  | closed (before : List Waiter) {after : List Waiter} {watcher : Nat} {target : Option String}
      {watchers : Watchers} {names : List String}
      (here : s.waiters = before ++ ⟨watcher, target, .asleep⟩ :: after)
      (told : s.scheduler.watchers.poll watcher = (watchers, .closed names)) :
      WaiterTurn s
        { s with
          scheduler := { s.scheduler with watchers }
          waiters := before ++ ⟨watcher, target, .leaving⟩ :: after }
  | look (before : List Waiter) {after : List Waiter} {watcher : Nat} {target : Option String}
      (here : s.waiters = before ++ ⟨watcher, target, .awake⟩ :: after) :
      WaiterTurn s
        { s with
          waiters := before ++ ⟨watcher, target,
            if Scheduler.isDrained s.scheduler.queue target then .leaving else .asleep⟩ :: after }
  | leave (before : List Waiter) {after : List Waiter} {watcher : Nat} {target : Option String}
      (here : s.waiters = before ++ ⟨watcher, target, .leaving⟩ :: after) :
      WaiterTurn s
        { s with
          scheduler := { s.scheduler with watchers := s.scheduler.watchers.unsubscribe watcher }
          waiters := before ++ after }
  | giveUp (before : List Waiter) {after : List Waiter} {watcher : Nat} {target : Option String}
      (here : s.waiters = before ++ ⟨watcher, target, .asleep⟩ :: after) :
      WaiterTurn s
        { s with
          scheduler := { s.scheduler with watchers := s.scheduler.watchers.hangUp watcher }
          waiters := before ++ after }

/-- One turn of anybody. -/
inductive Step (m : Manifest) (s : Traffic) : Traffic → Prop
  | caller {s' : Traffic} (turn : CallerTurn m s s') : Step m s s'
  | loop {s' : Traffic} (turn : LoopTurn m s s') : Step m s s'
  | run {s' : Traffic} (turn : RunTurn m s s') : Step m s s'
  | waiter {s' : Traffic} (turn : WaiterTurn s s') : Step m s s'

/-- What may come of a scheduler that takes up the work of a record. -/
inductive Reachable (m : Manifest) (first : Record) : Traffic → Prop
  | start : Reachable m first { scheduler := .start m first }
  | next {s s' : Traffic} (earlier : Reachable m first s) (step : Step m s s') : Reachable m first s'

/-! ## Turns in a row -/

section

variable {m : Manifest} {s : Traffic} {first : Record}

/-- A launch goes on in its place. -/
theorem Reachable.goes {before after : List Run} {name : String} {now next : Progress}
    (h : Reachable m first s) (here : s.runs = before ++ ⟨name, now⟩ :: after)
    (comes : ReflTransGen Progress.Goes now next) :
    Reachable m first { s with runs := before ++ ⟨name, next⟩ :: after } := by
  induction comes with
  | refl =>
    rw [← here]
    exact h
  | tail _ goes ih => exact ih.next (.run (.proceed before rfl goes))

/-- The result of a launch is noted, and the trigger follows. -/
theorem Reachable.finished {before after : List Run} {name : String} {result : Except Fault Unit}
    (h : Reachable m first s) (here : s.runs = before ++ ⟨name, .over result⟩ :: after) :
    Reachable m first
      { s with
        scheduler := (s.scheduler.finish name (.ofResult result)).1.signal (.completed name)
        runs := before ++ after } := by
  have noted := h.next (.run (.finish before here))
  have told := noted.next (.caller (.signal [] rfl))
  exact told

/-- Everything that the loop does for one trigger. -/
theorem Reachable.turned (h : Reachable m first s) :
    Reachable m first
      { s with
        scheduler := (s.scheduler.turn m).1
        runs := s.runs ++ (s.scheduler.turn m).2.launches.map begin } :=
  ((((h.next (.loop .take)).next (.loop .scan)).next (.loop .read)).next (.loop .report)).next
    (.loop .close)

end

end Traffic

end Supervisor
