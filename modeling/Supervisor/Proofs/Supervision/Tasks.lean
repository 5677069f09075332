import Mathlib.Logic.Relation
import Supervisor.Proofs.Scheduler.Traffic
import Supervisor.Task

/-!
# The launches of tasks

A task that goes through a list of procedures is a launch on its way; the others concern nobody. What
a task leaves and asks for in a step is what its launch comes to in turns of its own. What is to be done
later has been sent aside by a list.
-/

namespace Supervisor

namespace Work

/-- How far the launch has come whose list this is. -/
def progress? : Work → Option Traffic.Progress
  | list procedures => some (.working procedures)
  | awaiting _ p rest => some (.awaiting p rest)
  | delayed _ _ | aside _ => none

/-- A task asks for another command and is told the answer in one step. -/
theorem progress?_ne_announcing (w : Work) (target : String) :
    w.progress? ≠ some (.announcing target) := by
  cases w <;> simp [progress?]

/-- The front of the list is a procedure that is sent aside. -/
def Sends (w : Work) (p : Procedure) : Prop :=
  ∃ procedures rest, w = .list procedures ∧ Executor.Move.next procedures = .detach p rest

end Work

namespace Task

open Relation (ReflTransGen)
open Traffic (Progress)

variable {H ω : Type} {h : H} {now : Nat} {t : Task ω} {stepped : Stepped H ω}

/-- What a step makes of a task. -/
inductive Turned (t : Task ω) : List (Task ω) → Option (Request ω) → Prop
  /-- It concerns nobody. -/
  | silent {left : List (Task ω)} (aside : t.work.progress? = none)
      (still : ∀ t' ∈ left, t'.work.progress? = none ∧ t'.owner = t.owner) : Turned t left none
  /-- Its list goes on. -/
  | onward {left : List (Task ω)} {work : Work} {now next : Progress}
      (begun : t.work.progress? = some now) (comes : ReflTransGen Progress.Goes now next)
      (goes : work.progress? = some next)
      (still : ∀ t' ∈ left, t'.work.progress? = none ∧ t'.owner = t.owner) :
      Turned t (⟨t.owner, work⟩ :: left) none
  /-- Its list has ended. -/
  | ended {now : Progress} {result : Except Fault Unit} (begun : t.work.progress? = some now)
      (comes : ReflTransGen Progress.Goes now (.over result)) :
      Turned t [] (some (.ended t.owner result))
  /-- It hands over. -/
  | handedOver {procedures : List Procedure} {p : Procedure} {target : String}
      (begun : t.work.progress? = some (.working procedures))
      (next : Executor.Move.next procedures = .handOver p) (aim : Executor.target p = .ok target) :
      Turned t [] (some (.handOver t.owner target))

/-- With the answer to a procedure the list goes on or has ended. -/
theorem turned_resume {p : Procedure} {rest : List Procedure} {answer : Except Fault Int}
    {now : Progress} (begun : t.work.progress? = some now)
    (comes : ReflTransGen Progress.Goes now (.resumed p rest answer)) :
    Turned t (resume h t.owner p rest answer).tasks (resume h t.owner p rest answer).request := by
  unfold resume
  unfold Progress.resumed at comes
  cases verdict : Executor.verdict p answer with
  | none =>
    rw [verdict] at comes
    exact .onward begun comes rfl fun _ mem => by cases mem
  | some result =>
    rw [verdict] at comes
    exact .ended begun comes

theorem turned_advance [Host H] {procedures : List Procedure} (begun : t.work = .list procedures) :
    Turned t (advance h now t.owner procedures).tasks (advance h now t.owner procedures).request := by
  have begun : t.work.progress? = some (.working procedures) := by rw [begun]; rfl
  unfold advance
  cases next : Executor.Move.next procedures with
  | finish => exact .ended begun (.single (.finish next))
  | detach p rest =>
    refine .onward begun (.single (.detach next)) rfl fun t' mem => ?_
    obtain rfl := List.mem_singleton.1 mem
    exact ⟨rfl, rfl⟩
  | handOver p =>
    dsimp only
    cases aim : Executor.target p with
    | ok target => exact .handedOver begun next aim
    | error fault => exact .ended begun (.single (.stray next aim))
  | await p rest =>
    dsimp only
    rcases Host.perform h now p with ⟨h', answer | ticket⟩
    · exact turned_resume begun (.head (.await next) (.single (.resume p rest answer)))
    · exact .onward begun (.single (.await next)) rfl fun _ mem => by cases mem

theorem turned [Host H] (taken : t.step? h now = some stepped) :
    Turned t stepped.tasks stepped.request := by
  cases work : t.work with
  | list procedures =>
    simp only [step?, work] at taken
    obtain rfl := Option.some.inj taken
    exact turned_advance work
  | awaiting ticket p rest =>
    simp only [step?, work, Option.map_eq_some_iff] at taken
    obtain ⟨answer, -, rfl⟩ := taken
    refine turned_resume ?_ (.single (.resume p rest answer))
    rw [work]
    rfl
  | delayed due p =>
    simp only [step?, work] at taken
    split at taken
    · split at taken
      · obtain rfl := Option.some.inj taken
        refine .silent (by rw [work]; rfl) fun t' mem => ?_
        obtain rfl := List.mem_singleton.1 mem
        exact ⟨rfl, rfl⟩
      · obtain rfl := Option.some.inj taken
        exact .silent (by rw [work]; rfl) fun _ mem => by cases mem
    · cases taken
  | aside ticket =>
    simp only [step?, work, Option.map_eq_some_iff] at taken
    obtain ⟨answer, -, rfl⟩ := taken
    exact .silent (by rw [work]; rfl) fun _ mem => by cases mem

/-- One task has taken a step, in its place. -/
theorem stepFirst?_eq_some [Host H] {tasks : List (Task ω)}
    (taken : stepFirst? h now tasks = some stepped) :
    ∃ before t left after, tasks = before ++ t :: after ∧ stepped.tasks = before ++ left ++ after ∧
      Turned t left stepped.request := by
  induction tasks generalizing stepped with
  | nil => cases taken
  | cons t rest ih =>
    unfold stepFirst? at taken
    split at taken
    · rename_i s step
      obtain rfl := Option.some.inj taken
      exact ⟨[], t, s.tasks, rest, rfl, rfl, turned step⟩
    · obtain ⟨s, later, rfl⟩ := Option.map_eq_some_iff.1 taken
      obtain ⟨before, t', left, after, here, tasks, turned⟩ := ih later
      exact ⟨t :: before, t', left, after, congrArg (t :: ·) here, congrArg (t :: ·) tasks, turned⟩

/-! ## Procedures aside -/

section Aside

variable {t' : Task ω} {p : Procedure} {due : Nat}

theorem not_delayed_resume {owner : ω} {q : Procedure} {rest : List Procedure}
    {answer : Except Fault Int} (mem : t' ∈ (resume h owner q rest answer).tasks) :
    t'.work ≠ .delayed due p := by
  unfold resume at mem
  split at mem
  · obtain rfl := List.mem_singleton.1 mem
    exact fun delayed => by cases delayed
  · cases mem

variable [Host H]

theorem sends_of_advance {procedures : List Procedure}
    (mem : t' ∈ (advance h now t.owner procedures).tasks) (delayed : t'.work = .delayed due p) :
    ∃ rest, Executor.Move.next procedures = .detach p rest := by
  unfold advance at mem
  cases next : Executor.Move.next procedures with
  | finish =>
    rw [next] at mem
    cases mem
  | handOver q =>
    rw [next] at mem
    dsimp only at mem
    split at mem <;> cases mem
  | detach q rest =>
    rw [next] at mem
    rcases List.mem_cons.1 mem with rfl | mem
    · cases delayed
    · obtain rfl := List.mem_singleton.1 mem
      cases delayed
      exact ⟨rest, rfl⟩
  | await q rest =>
    rw [next] at mem
    dsimp only at mem
    split at mem
    · obtain rfl := List.mem_singleton.1 mem
      cases delayed
    · exact absurd delayed (not_delayed_resume mem)

/-- What is to be done later has been sent aside by the step. -/
theorem sends_of_step (taken : t.step? h now = some stepped) (mem : t' ∈ stepped.tasks)
    (delayed : t'.work = .delayed due p) : t.work.Sends p := by
  cases work : t.work with
  | list procedures =>
    simp only [step?, work] at taken
    obtain rfl := Option.some.inj taken
    obtain ⟨rest, next⟩ := sends_of_advance mem delayed
    exact ⟨procedures, rest, rfl, next⟩
  | awaiting ticket q rest =>
    simp only [step?, work, Option.map_eq_some_iff] at taken
    obtain ⟨answer, -, rfl⟩ := taken
    exact absurd delayed (not_delayed_resume mem)
  | delayed due' q =>
    simp only [step?, work] at taken
    split at taken
    · split at taken
      · obtain rfl := Option.some.inj taken
        obtain rfl := List.mem_singleton.1 mem
        cases delayed
      · obtain rfl := Option.some.inj taken
        cases mem
    · cases taken
  | aside ticket =>
    simp only [step?, work, Option.map_eq_some_iff] at taken
    obtain ⟨answer, -, rfl⟩ := taken
    cases mem

theorem sends_of_stepFirst {tasks : List (Task ω)} (taken : stepFirst? h now tasks = some stepped)
    (mem : t' ∈ stepped.tasks) (delayed : t'.work = .delayed due p) :
    t' ∈ tasks ∨ ∃ t ∈ tasks, t.work.Sends p := by
  induction tasks generalizing stepped with
  | nil => cases taken
  | cons t rest ih =>
    unfold stepFirst? at taken
    split at taken
    · rename_i s step
      obtain rfl := Option.some.inj taken
      rcases List.mem_append.1 mem with new | old
      · exact .inr ⟨t, List.mem_cons_self, sends_of_step step new delayed⟩
      · exact .inl (List.mem_cons_of_mem _ old)
    · obtain ⟨s, later, rfl⟩ := Option.map_eq_some_iff.1 taken
      rcases List.mem_cons.1 mem with rfl | mem
      · exact .inl List.mem_cons_self
      · rcases ih later mem with old | ⟨u, there, sends⟩
        · exact .inl (List.mem_cons_of_mem _ old)
        · exact .inr ⟨u, List.mem_cons_of_mem _ there, sends⟩

end Aside

end Task

end Supervisor
