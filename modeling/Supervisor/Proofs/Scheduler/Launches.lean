import Supervisor.Proofs.Manifest.Dispatch
import Supervisor.Proofs.Scheduler.Wakeup

/-!
# Launches carry out their commands

What a launch has still to do is the end of the procedures of its command. Over a manifest that has
been resolved from a draft, the command that a launch hands over to is therefore known.
-/

namespace Supervisor

open Manifest (Validated)

namespace Executor

variable {procedures rest : List Procedure} {p : Procedure}

theorem Move.next_eq_handOver (h : Move.next procedures = .handOver p) :
    ∃ rest, procedures = p :: rest ∧ p.mode = .command := by
  cases procedures with
  | nil => cases h
  | cons first others =>
    by_cases mode : first.mode = .command
    · rw [Move.next, if_pos mode] at h
      cases h
      exact ⟨others, rfl, mode⟩
    · cases wait : first.wait.isBlocking with
      | true => simp [Move.next, mode, wait] at h
      | false => simp [Move.next, mode, wait] at h

theorem Move.next_eq_await (h : Move.next procedures = .await p rest) :
    procedures = p :: rest ∧ p.mode ≠ .command ∧ p.wait.isBlocking = true := by
  cases procedures with
  | nil => cases h
  | cons first others =>
    by_cases mode : first.mode = .command
    · simp [Move.next, mode] at h
    · cases wait : first.wait.isBlocking with
      | true =>
        rw [Move.next, if_neg mode, if_pos wait] at h
        cases h
        exact ⟨rfl, mode, wait⟩
      | false => simp [Move.next, mode, wait] at h

theorem Move.next_eq_detach (h : Move.next procedures = .detach p rest) :
    procedures = p :: rest ∧ p.mode ≠ .command ∧ p.wait.isBlocking = false := by
  cases procedures with
  | nil => cases h
  | cons first others =>
    by_cases mode : first.mode = .command
    · simp [Move.next, mode] at h
    · cases wait : first.wait.isBlocking with
      | true => simp [Move.next, mode, wait] at h
      | false =>
        rw [Move.next, if_neg mode, if_neg (Bool.eq_false_iff.1 wait)] at h
        cases h
        exact ⟨rfl, mode, wait⟩

end Executor

namespace Traffic

variable {m : Manifest} {s s' : Traffic} {first : Record} {name target : String}

/-- What is left for a launch to do. -/
def Progress.left : Progress → List Procedure
  | .working procedures => procedures
  | .awaiting p rest => p :: rest
  | .announcing _ | .over _ => []

theorem Progress.Goes.left {now next : Progress} (goes : now.Goes next) : next.left <:+ now.left := by
  cases goes with
  | await next =>
    obtain ⟨rfl, -⟩ := Executor.Move.next_eq_await next
    exact List.suffix_rfl
  | detach next =>
    obtain ⟨rfl, -⟩ := Executor.Move.next_eq_detach next
    exact List.suffix_cons ..
  | stray | finish => exact List.nil_suffix
  | resume p rest answer =>
    unfold resumed
    split
    · exact List.suffix_cons ..
    · exact List.nil_suffix

/-- A launch of a command does what the command says, from some place on. -/
def Carries (m : Manifest) (r : Run) : Prop :=
  ∃ command, m.get? r.name = some command ∧ r.progress.left <:+ command.procedures

theorem Carries.onward {now next : Progress} (carries : Carries m ⟨name, now⟩)
    (left : next.left <:+ now.left) : Carries m ⟨name, next⟩ := by
  obtain ⟨command, known, before⟩ := carries
  exact ⟨command, known, left.trans before⟩

theorem carries_begin {q : Queue} (sound : Queue.Sound m q) {l : Queue.Launch}
    (launched : l ∈ (q.scan m).2.launches) : Carries m (begin l) := by
  obtain ⟨e, he, -, -, same, -⟩ := Queue.mem_launches launched
  refine ⟨e.command, (sound _ _ he).known, ?_⟩
  rw [← same]
  exact List.suffix_rfl

theorem RunTurn.carries (turn : RunTurn m s s') (carries : ∀ r ∈ s.runs, Carries m r) :
    ∀ r ∈ s'.runs, Carries m r := by
  have replace : ∀ {before after : List Run} {old new : Run}, s.runs = before ++ old :: after →
      (Carries m old → Carries m new) → ∀ r ∈ before ++ new :: after, Carries m r := by
    intro before after old new here onward r mem
    rcases mem_middle.1 mem with rfl | mem
    · exact onward (carries _ (here ▸ mem_middle.2 (.inl rfl)))
    · exact carries r (here ▸ mem_middle.2 (.inr mem))
  cases turn with
  | proceed _ here goes => exact replace here fun old => old.onward goes.left
  | handOver _ here | refused _ here => exact replace here fun old => old.onward List.nil_suffix
  | announce _ here => exact replace here fun old => old.onward List.nil_suffix
  | finish _ here =>
    intro r mem
    exact carries r (here ▸ mem_middle.2 (.inr mem))

theorem Step.carries (h : Step m s s') (sound : Queue.Sound m s.scheduler.queue)
    (carries : ∀ r ∈ s.runs, Carries m r) : ∀ r ∈ s'.runs, Carries m r := by
  cases h with
  | run turn => exact turn.carries carries
  | waiter turn => exact turn.quiet.runs ▸ carries
  | caller turn => cases turn <;> exact carries
  | loop turn =>
    cases turn with
    | take | read | report | close => exact carries
    | scan =>
      intro r mem
      rcases List.mem_append.1 mem with old | new
      · exact carries r old
      · obtain ⟨l, launched, rfl⟩ := List.mem_map.1 new
        rcases s.scheduler.scan_cases m with ⟨-, -, pass, -⟩ | ⟨-, idle⟩
        · exact carries_begin sound (pass ▸ launched)
        · rw [idle] at launched
          cases launched

/-- **Whatever a launch does is what its command says.** -/
theorem Reachable.carries (h : Reachable m first s) : ∀ r ∈ s.runs, Carries m r := by
  induction h with
  | start => exact fun r mem => by cases mem
  | next earlier step ih => exact step.carries earlier.sound ih

/-- What is left for a launch to do are procedures of the manifest. -/
theorem Reachable.holds (h : Reachable m first s) {now : Progress} {p : Procedure}
    (mem : ⟨name, now⟩ ∈ s.runs) (left : p ∈ now.left) : m.Holds p := by
  obtain ⟨command, known, suffix⟩ := h.carries _ mem
  exact ⟨name, command, known, suffix.subset left⟩

/-- A launch over a resolved manifest that hands over has a command to hand over to. -/
theorem Reachable.has_target (h : Reachable m first s) (validated : m.Validated)
    {procedures : List Procedure} {p : Procedure} (mem : ⟨name, .working procedures⟩ ∈ s.runs)
    (next : Executor.Move.next procedures = .handOver p) :
    ∃ target command, Executor.target p = .ok target ∧ m.get? target = some command := by
  obtain ⟨rest, rfl, mode⟩ := Executor.Move.next_eq_handOver next
  exact validated.target (h.holds mem List.mem_cons_self) mode

theorem Reachable.target_known (h : Reachable m first s) (validated : m.Validated)
    {procedures : List Procedure} {p : Procedure} (mem : ⟨name, .working procedures⟩ ∈ s.runs)
    (next : Executor.Move.next procedures = .handOver p) (aim : Executor.target p = .ok target) :
    (m.get? target).isSome = true := by
  obtain ⟨target', command, aim', known⟩ := h.has_target validated mem next
  obtain rfl := Except.ok.inj (aim.symm.trans aim')
  rw [known]
  rfl

end Traffic

end Supervisor
