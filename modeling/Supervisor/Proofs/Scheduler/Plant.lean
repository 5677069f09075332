import Supervisor.Proofs.Scheduler.Launches
import Supervisor.Proofs.Process.Table

/-!
# A scheduler and the processes of its launches

A scheduler among its callers, with the procedures that nobody waits for, the calls that run a process
and have not come back, and the table in which processes go by the names of their procedures. A call
starts its process, which may fail, has it numbered and entered, and comes back once its run has left
the table. When a process ends, and when somebody stops one by its name, is left open.
-/

namespace Supervisor

namespace Traffic

/-- What a step of a launch has to do with processes. -/
inductive Dealing where
  | none
  /-- It takes up a procedure and waits for it. -/
  | takeUp (p : Procedure)
  /-- The procedure that it waited for has answered. -/
  | hear (p : Procedure) (answer : Except Fault Int)
  /-- It sends a procedure aside. -/
  | sendAside (p : Procedure)

/-- A step of a launch, and what it has to do with processes. -/
inductive Progress.Deals : Progress → Dealing → Progress → Prop
  | takeUp {procedures rest : List Procedure} {p : Procedure}
      (next : Executor.Move.next procedures = .await p rest) :
      Deals (.working procedures) (.takeUp p) (.awaiting p rest)
  | hear (p : Procedure) (rest : List Procedure) (answer : Except Fault Int) :
      Deals (.awaiting p rest) (.hear p answer) (.resumed p rest answer)
  | sendAside {procedures rest : List Procedure} {p : Procedure}
      (next : Executor.Move.next procedures = .detach p rest) :
      Deals (.working procedures) (.sendAside p) (.working rest)
  | stray {procedures : List Procedure} {p : Procedure} {fault : Fault}
      (next : Executor.Move.next procedures = .handOver p) (none : Executor.target p = .error fault) :
      Deals (.working procedures) .none (.over (.error fault))
  | finish {procedures : List Procedure} (next : Executor.Move.next procedures = .finish) :
      Deals (.working procedures) .none (.over (.ok ()))

theorem Progress.goes_iff {now next : Progress} : now.Goes next ↔ ∃ dealing, now.Deals dealing next := by
  constructor
  · intro goes
    cases goes with
    | await next => exact ⟨_, .takeUp next⟩
    | resume p rest answer => exact ⟨_, .hear p rest answer⟩
    | detach next => exact ⟨_, .sendAside next⟩
    | stray next none => exact ⟨_, .stray next none⟩
    | finish next => exact ⟨_, .finish next⟩
  · rintro ⟨_, deals⟩
    cases deals with
    | takeUp next => exact .await next
    | hear p rest answer => exact .resume p rest answer
    | sendAside next => exact .detach next
    | stray next none => exact .stray next none
    | finish next => exact .finish next

/-- A launch takes a step that concerns no other part of the scheduler. -/
def Proceeds (s s' : Traffic) : Prop := ∃ before after name now next,
  s.runs = before ++ ⟨name, now⟩ :: after ∧ now.Goes next ∧
    s' = { s with runs := before ++ ⟨name, next⟩ :: after }

end Traffic

/-- A call to run a process; its run has a number once the process has started. -/
structure Plant.Call where
  procedure : Procedure
  number : Option Nat := none

structure Plant where
  traffic : Traffic
  /-- Procedures that were sent aside and have not begun. -/
  asides : List Procedure := []
  calls : List Plant.Call := []
  table : ProcessTable := {}

namespace Plant

open Traffic (Dealing Progress mem_middle)

/-- What others may notice of a step. -/
inductive Event where
  | quiet
  /-- A call has been made to run a process. -/
  | called (request : ProcessRequest)
  /-- Somebody has stopped what goes by a name. -/
  | stopped (name : String)

/-- A call comes back: its process was not started, or its run has left the table. -/
def Call.Returns (c : Call) (table : ProcessTable) (answer : Except Fault Int) : Prop :=
  match c.number with
  | none => ∃ fault, answer = .error fault
  | some number => ∃ name, table.stage? number = some (name, .left answer)

/-- What a procedure that runs no process may answer. -/
def Answers (p : Procedure) (answer : Except Fault Int) : Prop :=
  match p.action with
  | .run _ => False
  | .write .. | .plugin .. => answer = .ok 0 ∨ ∃ fault, answer = .error fault
  | .refuse fault => answer = .error fault

/-- What comes of a procedure that is carried out: a call, where it runs a process. -/
inductive Begins (s : Plant) (p : Procedure) : Event → Plant → Prop
  | call {request : ProcessRequest} (runs : p.action = .run request) :
      Begins s p (.called request) { s with calls := s.calls ++ [⟨p, none⟩] }
  | other (none : ∀ request, p.action ≠ .run request) : Begins s p .quiet s

/-- What a launch's dealing does to the rest of the plant. -/
inductive Handles (s : Plant) : Dealing → Event → Plant → Prop
  | none : Handles s .none .quiet s
  | takeUp {p : Procedure} {event : Event} {s' : Plant} (begins : s.Begins p event s') :
      Handles s (.takeUp p) event s'
  | sendAside (p : Procedure) : Handles s (.sendAside p) .quiet { s with asides := s.asides ++ [p] }
  | returned (before : List Call) {after : List Call} {c : Call} {answer : Except Fault Int}
      (due : s.calls = before ++ c :: after) (returns : c.Returns s.table answer) :
      Handles s (.hear c.procedure answer) .quiet { s with calls := before ++ after }
  | answered {p : Procedure} {answer : Except Fault Int} (answers : Answers p answer) :
      Handles s (.hear p answer) .quiet s

/-- Turns of the table. Who enters a run is the call that has it. -/
inductive TableTurn (s : Plant) : Event → Plant → Prop
  | start (before : List Call) {after : List Call} {p : Procedure}
      (due : s.calls = before ++ ⟨p, none⟩ :: after) :
      TableTurn s .quiet
        { s with
          calls := before ++ ⟨p, some (s.table.reserve p.id).2⟩ :: after
          table := (s.table.reserve p.id).1 }
  | enter {c : Call} {number : Nat} {name : String} {request : ProcessRequest} (mem : c ∈ s.calls)
      (numbered : c.number = some number) (reserved : s.table.stage? number = some (name, .reserved))
      (runs : c.procedure.action = .run request) :
      TableTurn s .quiet { s with table := s.table.enter number request.tty }
  | exit (number : Nat) (code : Int) :
      TableTurn s .quiet { s with table := s.table.exit number code }
  | heed (number : Nat) : TableTurn s .quiet { s with table := s.table.heed number }
  | leave (number : Nat) : TableTurn s .quiet { s with table := s.table.leave number }
  | stop (name : String) : TableTurn s (.stopped name) { s with table := (s.table.stop name).1 }

inductive Step (m : Manifest) (s : Plant) : Event → Plant → Prop
  /-- A turn of the scheduler and its callers in which no launch goes on by itself. -/
  | turn {traffic : Traffic} (step : s.traffic.Step m traffic) (apart : ¬ s.traffic.Proceeds traffic) :
      Step m s .quiet { s with traffic }
  | proceed (before : List Traffic.Run) {after : List Traffic.Run} {name : String}
      {now next : Progress} {dealing : Dealing} {event : Event} {s' : Plant}
      (here : s.traffic.runs = before ++ ⟨name, now⟩ :: after) (deals : now.Deals dealing next)
      (handles : Handles
        { s with traffic := { s.traffic with runs := before ++ ⟨name, next⟩ :: after } }
        dealing event s') :
      Step m s event s'
  | aside (before : List Procedure) {after : List Procedure} {p : Procedure} {event : Event}
      {s' : Plant} (due : s.asides = before ++ p :: after)
      (begins : Begins { s with asides := before ++ after } p event s') : Step m s event s'
  /-- A call that nobody waits for comes back. -/
  | forget (before : List Call) {after : List Call} {c : Call} {answer : Except Fault Int}
      (due : s.calls = before ++ c :: after) (loose : c.procedure.wait.isBlocking = false)
      (returns : c.Returns s.table answer) : Step m s .quiet { s with calls := before ++ after }
  | table {event : Event} {s' : Plant} (turn : s.TableTurn event s') : Step m s event s'

/-- What may come of a scheduler that takes up the work of a record, and of its processes. -/
inductive Reachable (m : Manifest) (first : Record) : Plant → Prop
  | start : Reachable m first { traffic := { scheduler := .start m first } }
  | next {s s' : Plant} {event : Event} (earlier : Reachable m first s) (step : Step m s event s') :
      Reachable m first s'

/-! ## The scheduler of a plant -/

variable {m : Manifest} {first : Record} {s s' : Plant} {p : Procedure} {event : Event}
  {dealing : Dealing}

theorem Begins.same (h : s.Begins p event s') :
    s'.traffic = s.traffic ∧ s'.asides = s.asides ∧ s'.table = s.table := by
  cases h <;> exact ⟨rfl, rfl, rfl⟩

theorem Handles.same (h : s.Handles dealing event s') :
    s'.traffic = s.traffic ∧ s'.table = s.table := by
  cases h with
  | takeUp begins => exact ⟨begins.same.1, begins.same.2.2⟩
  | none | sendAside | returned | answered => exact ⟨rfl, rfl⟩

theorem TableTurn.same (h : s.TableTurn event s') :
    s'.traffic = s.traffic ∧ s'.asides = s.asides := by
  cases h <;> exact ⟨rfl, rfl⟩

theorem Step.traffic (h : Step m s event s') :
    s'.traffic = s.traffic ∨ s.traffic.Step m s'.traffic := by
  cases h with
  | turn step => exact .inr step
  | proceed before here deals handles =>
    rw [handles.same.1]
    exact .inr (.run (.proceed before here (Progress.goes_iff.2 ⟨_, deals⟩)))
  | aside _ _ begins => exact .inl begins.same.1
  | forget => exact .inl rfl
  | table turn => exact .inl turn.same.1

theorem Reachable.traffic (h : Reachable m first s) : s.traffic.Reachable m first := by
  induction h with
  | start => exact .start
  | next _ step ih =>
    rcases step.traffic with same | turn
    · rw [same]
      exact ih
    · exact ih.next turn

/-- A launch that goes on moves neither the loop nor the calls. -/
theorem apart_of_moved {t t' : Traffic}
    (moved : t'.scheduler.loop ≠ t.scheduler.loop ∨ t'.calls.length ≠ t.calls.length) :
    ¬ t.Proceeds t' := by
  rintro ⟨_, _, _, _, _, _, _, rfl⟩
  rcases moved with loop | calls
  · exact loop rfl
  · exact calls rfl

/-! ## Where procedures come from -/

theorem Begins.called {request : ProcessRequest} (h : s.Begins p (.called request) s') :
    p.action = .run request ∧ s'.calls = s.calls ++ [⟨p, none⟩] := by
  cases h with
  | call runs => exact ⟨runs, rfl⟩

theorem Step.called {request : ProcessRequest} (h : Step m s (.called request) s') :
    ∃ p, p.action = .run request ∧ s'.calls = s.calls ++ [⟨p, none⟩] := by
  cases h with
  | aside _ _ begins => exact ⟨_, begins.called⟩
  | table turn => cases turn
  | proceed _ _ _ handles =>
    cases handles with
    | takeUp begins => exact ⟨_, begins.called⟩

/-- Every procedure that is aside or has a call comes from the manifest. -/
structure Origin (m : Manifest) (asides : List Procedure) (calls : List Call) : Prop where
  asides : ∀ p ∈ asides, m.Holds p ∧ p.mode ≠ .command ∧ p.wait.isBlocking = false
  calls : ∀ c ∈ calls, m.Holds c.procedure ∧ ∃ request, c.procedure.action = .run request

/-- A launch takes up, or sends aside, what its command has for it. -/
theorem Reachable.holds (h : Reachable m first s) {before after : List Traffic.Run} {name : String}
    {now : Progress} {rest : List Procedure} (here : s.traffic.runs = before ++ ⟨name, now⟩ :: after)
    (left : now.left = p :: rest) : m.Holds p := by
  have mem : ⟨name, now⟩ ∈ s.traffic.runs := here ▸ mem_middle.2 (.inl rfl)
  exact h.traffic.holds mem (left ▸ List.mem_cons_self)

theorem Origin.fewer {asides : List Procedure} {before after : List Call} {c : Call}
    (origin : Origin m asides (before ++ c :: after)) : Origin m asides (before ++ after) :=
  ⟨origin.asides, fun c mem => origin.calls c (mem_middle.2 (.inr mem))⟩

theorem Begins.origin (h : s.Begins p event s') (origin : Origin m s.asides s.calls)
    (holds : m.Holds p) : Origin m s'.asides s'.calls := by
  cases h with
  | other => exact origin
  | call runs =>
    refine ⟨origin.asides, fun c mem => ?_⟩
    rcases List.mem_append.1 mem with old | new
    · exact origin.calls c old
    · obtain rfl := List.mem_singleton.1 new
      exact ⟨holds, _, runs⟩

theorem TableTurn.origin (h : s.TableTurn event s') (origin : Origin m s.asides s.calls) :
    Origin m s'.asides s'.calls := by
  cases h with
  | enter | exit | heed | leave | stop => exact origin
  | @start before after p due =>
    have called := origin.calls ⟨p, none⟩ (due ▸ mem_middle.2 (.inl rfl))
    rw [due] at origin
    refine ⟨origin.asides, fun c mem => ?_⟩
    rcases mem_middle.1 mem with rfl | mem
    · exact called
    · exact origin.fewer.calls c mem

theorem Step.origin (h : Step m s event s') (reachable : Reachable m first s)
    (origin : Origin m s.asides s.calls) : Origin m s'.asides s'.calls := by
  cases h with
  | turn => exact origin
  | forget _ due =>
    rw [due] at origin
    exact origin.fewer
  | table turn => exact turn.origin origin
  | @aside before after p _ _ due begins =>
    have loose := origin.asides p (due ▸ mem_middle.2 (.inl rfl))
    refine begins.origin ⟨fun p mem => ?_, origin.calls⟩ loose.1
    exact origin.asides p (due ▸ mem_middle.2 (.inr mem))
  | proceed before here deals handles =>
    cases handles with
    | none | answered => exact origin
    | returned _ due =>
      rw [show s.calls = _ from due] at origin
      exact origin.fewer
    | takeUp begins =>
      cases deals with
      | takeUp next =>
        obtain ⟨rfl, -⟩ := Executor.Move.next_eq_await next
        exact begins.origin origin (reachable.holds here rfl)
    | sendAside p =>
      cases deals with
      | sendAside next =>
        obtain ⟨rfl, mode, loose⟩ := Executor.Move.next_eq_detach next
        refine ⟨fun p mem => ?_, origin.calls⟩
        rcases List.mem_append.1 mem with old | new
        · exact origin.asides p old
        · obtain rfl := List.mem_singleton.1 new
          exact ⟨reachable.holds here rfl, mode, loose⟩

theorem Reachable.origin (h : Reachable m first s) : Origin m s.asides s.calls := by
  induction h with
  | start =>
    constructor
    · intro p mem
      cases mem
    · intro c mem
      cases mem
  | next earlier step ih => exact step.origin earlier ih

end Plant

end Supervisor
