import Supervisor.Proofs.Scheduler.Leaving
import Supervisor.Proofs.Scheduler.Stillness

/-!
# What is left for somebody who has waited

A command that starts again by itself stays in the queue, so a queue without one has had none. Whoever
has waited for all of such a queue finds it settled for good: nothing but a request from outside makes
anything of it wait or run again, however late he looks.
-/

namespace Supervisor

open Relation (ReflTransGen)

namespace Queue

variable {m : Manifest} {q q' : Queue} {act : Act}

/-- Something in the queue starts again by itself. -/
def Restless (q : Queue) : Prop := ∃ name e, q.get? name = some e ∧ e.command.policy = .restart

/-- Nothing waits or runs, unless something starts again by itself. -/
def Spent (q : Queue) : Prop := ¬ q.Restless → q.pending = []

instance (q : Queue) : Decidable q.Restless :=
  decidable_of_iff (∃ e ∈ q.values, e.command.policy = .restart) <| by
    simp only [mem_values, Restless]
    exact ⟨fun ⟨e, ⟨name, he⟩, restart⟩ => ⟨name, e, he, restart⟩,
      fun ⟨name, e, he, restart⟩ => ⟨e, ⟨name, he⟩, restart⟩⟩

theorem Restless.step (restless : q.Restless) (step : Step m q act q') : q'.Restless := by
  obtain ⟨name, e, he, restart⟩ := restless
  obtain ⟨e', he', restart'⟩ := step.restart_stays he restart
  exact ⟨name, e', he', restart'⟩

theorem Restless.spent (restless : q.Restless) : q.Spent := fun rests => absurd restless rests

theorem settled_iff : Settled q ↔ ¬ q.Restless ∧ q.Spent := by
  constructor
  · rintro ⟨nothing, finite⟩
    refine ⟨?_, fun _ => nothing⟩
    rintro ⟨name, e, he, restart⟩
    exact finite name e he restart
  · rintro ⟨rests, spent⟩
    exact ⟨spent rests, fun name e he restart => rests ⟨name, e, he, restart⟩⟩

theorem Settled.spent (settled : Settled q) : q.Spent := (settled_iff.1 settled).2

/-- Over a manifest of which nothing starts again by itself, no queue is restless. -/
theorem Sound.rests (sound : Sound m q)
    (finite : ∀ name command, m.get? name = some command → command.policy ≠ .restart) :
    ¬ q.Restless := by
  rintro ⟨name, e, he, restart⟩
  exact finite name _ (sound name e he).known restart

/-! ## What is left -/

theorem get?_snapshot (q : Queue) (name : String) : q.snapshot.get? name = q.statusOf name :=
  NameMap.get?_map ..

/-- All that is left has ended, and these are the commands that have failed. -/
structure Leaves (q : Queue) (failed : List String) : Prop where
  ended : ∀ name status, q.snapshot.get? name = some status → status = .done ∨ status = .error
  failed : ∀ name, name ∈ failed ↔ q.snapshot.get? name = some .error

theorem mem_failed {name : String} :
    name ∈ (q.snapshot.filter fun _ status => status = .error).keys ↔
      q.snapshot.get? name = some .error := by
  rw [NameMap.mem_keys_iff, NameMap.contains_iff]
  constructor
  · rintro ⟨status, kept⟩
    rw [NameMap.get?_filter, Option.filter_eq_some_iff, decide_eq_true_eq] at kept
    rw [← kept.2]
    exact kept.1
  · intro failed
    exact ⟨.error, by rw [NameMap.get?_filter, failed]; rfl⟩

theorem Settled.leaves (settled : Settled q) :
    q.Leaves (q.snapshot.filter fun _ status => status = .error).keys := by
  refine ⟨fun name status found => ?_, fun name => mem_failed⟩
  rw [get?_snapshot, statusOf_eq_some] at found
  obtain ⟨e, he, rfl⟩ := found
  exact done_or_error settled.none_pending he

/-- None has failed just where all that is left is done. -/
theorem Leaves.none_failed {failed : List String} (leaves : q.Leaves failed) :
    failed = [] ↔ ∀ name status, q.snapshot.get? name = some status → status = .done := by
  rw [List.eq_nil_iff_forall_not_mem]
  constructor
  · intro none name status found
    refine (leaves.ended name status found).resolve_right ?_
    rintro rfl
    exact none name ((leaves.failed name).2 found)
  · intro done name mem
    cases done name _ ((leaves.failed name).1 mem)

end Queue

namespace Traffic

variable {m : Manifest} {s s' s₀ s₁ : Traffic} {first : Record} {watcher : Nat}

theorem Step.restless (step : Step m s s') (matched : s.Matched)
    (restless : s.scheduler.queue.Restless) : s'.scheduler.queue.Restless := by
  obtain ⟨acts, follows⟩ := step.follows matched
  exact follows.steps.keeps (fun step restless => restless.step step) restless

/-- What is spent stays so while nobody asks. -/
theorem Inward.spent (inward : Inward m s s') (h : Reachable m first s)
    (spent : s.scheduler.queue.Spent) : s'.scheduler.queue.Spent := by
  by_cases restless : s.scheduler.queue.Restless
  · exact (inward.1.restless h.matched restless).spent
  · have settled := Queue.settled_iff.2 ⟨restless, spent⟩
    have still := h.no_runs settled.none_pending
    exact (settled.within (inward.within h.matched settled still)).spent

theorem Reachable.inwards (h : Reachable m first s) (onward : ReflTransGen (Inward m) s s') :
    Reachable m first s' := by
  induction onward with
  | refl => exact h
  | tail _ inward ih => exact ih.next inward.1

theorem Reachable.spent_stays (h : Reachable m first s) (onward : ReflTransGen (Inward m) s s')
    (spent : s.scheduler.queue.Spent) : s'.scheduler.queue.Spent := by
  induction onward with
  | refl => exact spent
  | tail earlier inward ih => exact inward.spent (h.inwards earlier) ih

/-- Somebody who begins to leave while the loop works has found nothing pending, and while nobody asks
it stays so. -/
theorem Reachable.spent (h : Reachable m first s₀) (waits : ⟨watcher, none, .leaving⟩ ∉ s₀.waiters)
    (onward : ReflTransGen (Inward m) s₀ s) (leaves : ⟨watcher, none, .leaving⟩ ∈ s.waiters)
    (working : s.scheduler.loop ≠ .stopped) : s.scheduler.queue.Spent := by
  induction onward with
  | refl => exact absurd leaves waits
  | @tail s s' earlier inward ih =>
    have reachable := h.inwards earlier
    have before := inward.1.working working
    have decides : ⟨watcher, none, .leaving⟩ ∈ s.waiters ∨ Decision watcher none s s' := by
      rcases inward.1.waiters with same | turn
      · exact .inl (same ▸ leaves)
      · exact turn.decides reachable.attached leaves before
    rcases decides with old | decision
    · exact inward.spent reachable (ih old before)
    · cases decision with
      | look _ _ drained => exact fun _ => List.isEmpty_iff.1 drained

/-- **However the turns are mixed, whoever has waited for all finds all ended.** -/
theorem Reachable.leaves (h : Reachable m first s₀)
    (waits : ⟨watcher, none, .leaving⟩ ∉ s₀.waiters) (served : ReflTransGen (Inward m) s₀ s₁)
    (left : ⟨watcher, none, .leaving⟩ ∈ s₁.waiters) (working : s₁.scheduler.loop ≠ .stopped)
    (onward : ReflTransGen (Inward m) s₁ s) (rests : ¬ s.scheduler.queue.Restless) :
    s.scheduler.queue.Leaves
      (s.scheduler.queue.snapshot.filter fun _ status => status = .error).keys := by
  have spent := h.spent waits served left working
  have stays := (h.inwards served).spent_stays onward spent
  exact (Queue.settled_iff.2 ⟨rests, stays⟩).leaves

end Traffic

end Supervisor
