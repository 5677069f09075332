import Supervisor.Proofs.Manifest.Validated
import Supervisor.Proofs.Queue.Closure
import Supervisor.Proofs.Queue.Work

/-!
# Queues at rest

Nothing runs and a scan finds nothing to do. Over a manifest without cycles and unknown needs, each
entry that a scan would not leave alone is then held by a command that has failed and does not start
again by itself, so what still waits is listed by `stalled`. Whether a queue comes to rest is not
said here.
-/

namespace Supervisor.Queue

open Relation (TransGen)

variable {m : Manifest} {q : Queue} {name need : String} {e : Entry}

structure AtRest (m : Manifest) (q : Queue) : Prop where
  still : ∀ name, q.statusOf name ≠ some .running
  idle : (q.scan m).2.isIdle = true

theorem atRest_iff : AtRest m q ↔
    (∀ e ∈ q.values, e.status ≠ .running) ∧ (q.scan m).2.isIdle = true := by
  have still : (∀ name, q.statusOf name ≠ some .running) ↔ ∀ e ∈ q.values, e.status ≠ .running := by
    constructor
    · intro still e he running
      obtain ⟨name, he⟩ := mem_values.1 he
      exact still name (statusOf_eq_some.2 ⟨e, he, running⟩)
    · intro still name running
      obtain ⟨e, he, hs⟩ := statusOf_eq_some.1 running
      exact still e (mem_values.2 ⟨name, he⟩) hs
  rw [← still]
  exact ⟨fun rest => ⟨rest.still, rest.idle⟩, fun rest => ⟨rest.1, rest.2⟩⟩

instance (m : Manifest) (q : Queue) : Decidable (AtRest m q) := decidable_of_iff _ atRest_iff.symm

theorem Sound.links (sound : Sound m q) (h : Links q name need) : m.Requires name need := by
  obtain ⟨e, he, mem⟩ := mem_needsOf.1 h.1
  exact ⟨e.command, (sound name e he).known, mem⟩

/-- At rest, an entry that is not left alone has a need that is not done. -/
theorem AtRest.unready (rest : AtRest m q) (sound : Sound m q) (he : q.get? name = some e)
    (active : e.isActive = true) : ¬ q.isReady e = true := fun ready =>
  sound.isIdle_iff.1 rest.idle (.launch he active ready)

/-- At rest, all that such an entry needs is in the queue, if it is known. -/
theorem AtRest.tracked (rest : AtRest m q) (sound : Sound m q) (he : q.get? name = some e)
    (active : e.isActive = true) (mem : need ∈ e.command.needs) (known : (m.get? need).isSome = true) :
    ∃ d, q.get? need = some d := by
  cases hd : q.get? need with
  | some d => exact ⟨d, rfl⟩
  | none => exact absurd (.discover he active mem hd known) (sound.isIdle_iff.1 rest.idle)

/-- A scan would not leave the command alone but cannot launch it: needs lead from it to a failure, and
each command on the way is in the same position. -/
inductive Held (q : Queue) : String → Prop
  | failure {name need : String} {e f : Entry} (tracked : q.get? name = some e)
      (active : e.isActive = true) (mem : need ∈ e.command.needs) (found : q.get? need = some f)
      (failed : f.isFailure) : Held q name
  | behind {name need : String} {e : Entry} (tracked : q.get? name = some e)
      (active : e.isActive = true) (mem : need ∈ e.command.needs) (held : Held q need) : Held q name

theorem Held.tracked (held : Held q name) : ∃ e, q.get? name = some e ∧ e.isActive = true := by
  cases held with
  | failure tracked active | behind tracked active => exact ⟨_, tracked, active⟩

/-- What a command is held by. -/
theorem Held.leads (held : Held q name) :
    ∃ need f, TransGen (Links q) name need ∧ q.get? need = some f ∧ f.isFailure := by
  have link : ∀ {name need : String} {e d : Entry}, q.get? name = some e → need ∈ e.command.needs →
      q.get? need = some d → Links q name need := fun he mem hd =>
    ⟨mem_needsOf.2 ⟨_, he, mem⟩, (NameMap.contains_iff q).2 ⟨_, hd⟩⟩
  induction held with
  | failure tracked _ mem found failed =>
    exact ⟨_, _, .single (link tracked mem found), found, failed⟩
  | behind tracked _ mem held ih =>
    obtain ⟨d, hd, -⟩ := held.tracked
    obtain ⟨last, f, leads, hf, failed⟩ := ih
    exact ⟨last, f, .head (link tracked mem hd) leads, hf, failed⟩

/-- **At rest, what is not left alone is held by a failure.** The induction is on the rank that falls
along needs: a need that is not done has failed for good or is not left alone either. -/
theorem AtRest.held (rest : AtRest m q) (sound : Sound m q) (wf : m.WellFormed)
    (he : q.get? name = some e) (active : e.isActive = true) : Held q name := by
  obtain ⟨rank, falls⟩ := wf.ranked
  induction hr : rank name using Nat.strongRecOn generalizing name e with
  | _ n ih =>
    have unready := rest.unready sound he active
    rw [isReady_iff] at unready
    obtain ⟨need, mem, undone⟩ : ∃ need ∈ e.command.needs, q.statusOf need ≠ some .done := by
      simpa using unready
    have requires : m.Requires name need := ⟨e.command, (sound name e he).known, mem⟩
    have known : (m.get? need).isSome = true := Option.isSome_iff_exists.2 (wf.known requires)
    obtain ⟨d, hd⟩ := rest.tracked sound he active mem known
    have onward : d.isActive = true → Held q name := fun active' =>
      .behind he active mem (ih (rank need) (hr ▸ falls requires) hd active' rfl)
    cases hs : d.status with
    | waiting => exact onward ((sound.active_iff hd).2 (.inl hs))
    | running => exact absurd (statusOf_eq_some.2 ⟨d, hd, hs⟩) (rest.still need)
    | done => exact absurd (statusOf_eq_some.2 ⟨d, hd, hs⟩) undone
    | error =>
      by_cases restart : d.command.policy = .restart
      · exact onward ((sound.active_iff hd).2 (.inr ⟨hs, restart⟩))
      · exact .failure he active mem hd ⟨hs, restart⟩

/-- At rest, what is not left alone depends on a failure. -/
theorem AtRest.blocked (rest : AtRest m q) (sound : Sound m q) (wf : m.WellFormed)
    (he : q.get? name = some e) (active : e.isActive = true) :
    ∃ need f, TransGen (Links q) name need ∧ q.get? need = some f ∧ f.isFailure :=
  (rest.held sound wf he active).leads

/-- A command that waits and is held is listed as stalled. -/
theorem Held.stalled (held : Held q name) (sound : Sound m q) (wf : m.WellFormed)
    (waits : q.statusOf name = some .waiting) : name ∈ q.stalled := by
  obtain ⟨e, he, -⟩ := held.tracked
  obtain ⟨need, f, leads, hf, failed⟩ := held.leads
  have requires : Links q ≤ m.Requires := fun _ _ link => sound.links link
  have other : need ≠ name := wf.other (TransGen.mono requires _ _ leads)
  have tracked : q.contains name = true := (NameMap.contains_iff q).2 ⟨e, he⟩
  have blocked := isBlocked_iff.2 ⟨tracked, need, f, other, leads.to_reflTransGen, hf, failed⟩
  exact mem_stalled_iff.2 ⟨waits, blocked⟩

/-- At rest, a command that waits is listed as stalled. -/
theorem AtRest.stalled (rest : AtRest m q) (sound : Sound m q) (wf : m.WellFormed)
    (waits : q.statusOf name = some .waiting) : name ∈ q.stalled := by
  obtain ⟨e, he, hs⟩ := statusOf_eq_some.1 waits
  exact (rest.held sound wf he ((sound.active_iff he).2 (.inl hs))).stalled sound wf waits

end Supervisor.Queue
