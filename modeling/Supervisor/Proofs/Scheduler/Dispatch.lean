import Supervisor.Proofs.Queue.Asking
import Supervisor.Proofs.Scheduler.Plant

/-!
# What a scheduler carries out

Over a manifest that has been resolved, whatever a launch comes to or has sent aside can be carried
out, every process that is called for has a program, and a launch that hands over finds its command
known, whatever else the queue may say to it.
-/

namespace Supervisor

open Executor (Move)

namespace Traffic

variable {m : Manifest} {s : Traffic} {first : Record}

/-- What a launch asks for when it hands over is known: it is refused only while it is queued, or once
it has ended for good. -/
theorem Reachable.handsOver (h : Reachable m first s) (validated : m.Validated) {name : String}
    {procedures : List Procedure} {p : Procedure} (mem : ⟨name, .working procedures⟩ ∈ s.runs)
    (next : Move.next procedures = .handOver p) :
    ∃ target, Executor.target p = .ok target ∧ ∀ fault,
      s.scheduler.accept m target false = .error fault →
        fault = .alreadyQueued target ∨ fault = .alreadyCompletedOnce target := by
  obtain ⟨target, command, aim, known⟩ := h.has_target validated mem next
  refine ⟨target, aim, fun fault refused => ?_⟩
  exact Queue.enqueue_known known (Scheduler.accept_eq_error refused)

end Traffic

namespace Plant

variable {m : Manifest} {first : Record} {s s' : Plant} {p : Procedure}

/-- The procedure is to be carried out: a launch has come to it and is going to wait for it, or it has
been sent aside. -/
inductive Dispatches (s : Plant) (p : Procedure) : Prop
  | awaited {name : String} {procedures rest : List Procedure}
      (mem : ⟨name, .working procedures⟩ ∈ s.traffic.runs)
      (next : Move.next procedures = .await p rest)
  | aside (mem : p ∈ s.asides)

theorem Reachable.dispatchable (h : Reachable m first s) (validated : m.Validated)
    (dispatches : s.Dispatches p) : p.Dispatchable := by
  cases dispatches with
  | awaited mem next =>
    obtain ⟨rfl, mode, -⟩ := Move.next_eq_await next
    exact validated.dispatchable (h.traffic.holds mem List.mem_cons_self) mode
  | aside mem =>
    obtain ⟨holds, mode, -⟩ := h.origin.asides p mem
    exact validated.dispatchable holds mode

theorem mode_of_run {request : ProcessRequest} (runs : p.action = .run request) :
    p.mode ≠ .command := by
  intro mode
  rw [Procedure.action, mode] at runs
  cases runs

/-- Every process that is called for has a program. -/
theorem Reachable.given (h : Reachable m first s) (validated : m.Validated) {request : ProcessRequest}
    (step : Step m s (.called request) s') : request.argv ≠ [] := by
  obtain ⟨p, runs, calls⟩ := step.called
  have mem : ⟨p, none⟩ ∈ s'.calls := calls ▸ List.mem_append_right _ List.mem_cons_self
  obtain ⟨holds, -⟩ := (h.next step).origin.calls _ mem
  have dispatchable := validated.dispatchable holds (mode_of_run runs)
  rw [Procedure.Dispatchable, runs] at dispatchable
  exact dispatchable.2

end Plant

end Supervisor
