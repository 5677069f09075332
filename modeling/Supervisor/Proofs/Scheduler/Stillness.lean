import Supervisor.Proofs.Scheduler.Launches

/-!
# What is drained stays drained

Where nothing is pending and nothing starts again by itself, no launch is under way, and nothing but
a request from outside makes a command wait or run. A launch that hands over makes its request while
its own command runs, so one of the two is pending until the other command has ended.
-/

namespace Supervisor

open Relation (ReflTransGen)

namespace Queue

variable {m : Manifest} {q q' : Queue} {name : String} {e : Entry} {act : Act}

/-! ## Settled queues -/

/-- Nothing waits or runs, and nothing starts again by itself. -/
structure Settled (q : Queue) : Prop where
  none_pending : q.pending = []
  none_restarts : ∀ name e, q.get? name = some e → e.command.policy ≠ .restart

/-- The second queue holds nothing but what the first one holds. -/
def Within (q q' : Queue) : Prop := ∀ name e, q'.get? name = some e → q.get? name = some e

theorem Within.refl (q : Queue) : Within q q := fun _ _ => id

theorem Within.trans {q₁ : Queue} (h : Within q q₁) (h' : Within q₁ q') : Within q q' :=
  fun name e he => h name e (h' name e he)

theorem within_evict (q : Queue) : Within q q.evict.1 := fun _ _ => get?_of_evict

theorem Settled.within (settled : Settled q) (within : Within q q') : Settled q' := by
  refine ⟨pending_eq_nil_iff.2 fun name e he => ?_, fun name e he => ?_⟩
  · exact pending_eq_nil_iff.1 settled.none_pending name e (within name e he)
  · exact settled.none_restarts name e (within name e he)

theorem Settled.isSettled (settled : Settled q) (he : q.get? name = some e) : e.isSettled = true := by
  have ended := pending_eq_nil_iff.1 settled.none_pending name e he
  have finite := settled.none_restarts name e he
  rw [Entry.isSettled, ended, Bool.true_and, decide_eq_true_eq]
  exact finite

theorem Settled.visits {s : Scan} (settled : Settled s.queue) (names : List String) :
    names.foldl (Scan.visit m) s = s := by
  induction names with
  | nil => rfl
  | cons name names ih =>
    have visit : s.visit m name = s := by
      unfold Scan.visit
      cases he : s.queue.get? name with
      | none => rfl
      | some e => simp [settled.isSettled he]
    rw [List.foldl_cons, visit]
    exact ih

/-- A scan has nothing to do. -/
theorem Settled.scan (settled : Settled q) : q.scan m = (q, {}) := by
  have same : q.keys.foldl (Scan.visit m) ⟨q, {}, true⟩ = ⟨q, {}, true⟩ := Settled.visits settled _
  rw [Queue.scan, same]

/-! ## Pending commands -/

/-- What is pending stays so until its end is noted. -/
theorem Step.pending_stays (step : Step m q act q') (mem : name ∈ q.pending)
    (unended : ∀ outcome write, act ≠ .ended name outcome write) : name ∈ q'.pending := by
  obtain ⟨e, he, waits⟩ := mem_pending.1 mem
  obtain ⟨status, turn, -⟩ := step.turn name
  generalize after_eq : q'.get? name = after at turn
  rw [mem_pending, after_eq]
  cases turn with
  | untouched => exact ⟨e, he, waits⟩
  | accepted => exact ⟨_, rfl, by rw [askedEntry_status]; rfl⟩
  | discovered _ _ missing =>
    rw [he] at missing
    cases missing
  | launched => exact ⟨_, rfl, rfl⟩
  | ended outcome write => exact absurd rfl (unended outcome write)
  | evicted _ tracked useless =>
    obtain rfl := Option.some.inj (he.symm.trans tracked)
    rw [isEvictable_iff, waits] at useless
    cases useless.1

end Queue

namespace Traffic

open Queue (Settled Within)

variable {m : Manifest} {s s' : Traffic} {first : Record} {name target : String}

/-! ## Nothing begins -/

/-- A turn that is not a request from outside. -/
def Inward (m : Manifest) (s s' : Traffic) : Prop :=
  Step m s s' ∧ ∀ name, s'.calls ≠ .enqueue name :: s.calls

theorem Reachable.no_runs (h : Reachable m first s) (nothing : s.scheduler.queue.pending = []) :
    s.runs = [] := by
  refine List.eq_nil_iff_forall_not_mem.2 fun r mem => ?_
  obtain ⟨e, he, running⟩ := Queue.statusOf_eq_some.1 (h.matched.running mem)
  rcases Queue.done_or_error nothing he with ended | ended <;> cases running.symm.trans ended

theorem Inward.within (inward : Inward m s s') (matched : s.Matched)
    (settled : Settled s.scheduler.queue) (still : s.runs = []) :
    Within s.scheduler.queue s'.scheduler.queue := by
  obtain ⟨step, unasked⟩ := inward
  cases step.effect matched with
  | none same =>
    rw [same]
    exact .refl _
  | asked name _ _ behind =>
    rcases behind with outside | some
    · exact absurd outside (unasked name)
    · exact absurd still some
  | scanned queue =>
    rw [queue, settled.scan]
    exact .refl _
  | ended name _ running =>
    obtain ⟨e, he, running⟩ := Queue.statusOf_eq_some.1 running
    rcases Queue.done_or_error settled.none_pending he with ended | ended <;>
      cases running.symm.trans ended
  | evicted queue =>
    rw [queue]
    exact Queue.within_evict _

theorem Reachable.inward (h : Reachable m first s) (settled : Settled s.scheduler.queue)
    (onward : ReflTransGen (Inward m) s s') :
    Reachable m first s' ∧ Within s.scheduler.queue s'.scheduler.queue := by
  induction onward with
  | refl => exact ⟨h, .refl _⟩
  | tail _ inward ih =>
    obtain ⟨reachable, within⟩ := ih
    have settled := settled.within within
    have still := reachable.no_runs settled.none_pending
    have here := inward.within reachable.matched settled still
    exact ⟨reachable.next inward.1, within.trans here⟩

/-! ## Handing over -/

/-- The launch of `name` asks for the target, and the request is granted or refused. -/
inductive Delegates (m : Manifest) (s : Traffic) (name target : String) : Traffic → Prop
  | granted (before : List Run) {after : List Run} {procedures : List Procedure} {p : Procedure}
      {scheduler : Scheduler} {write : Option StatusWrite}
      (here : s.runs = before ++ ⟨name, .working procedures⟩ :: after)
      (next : Executor.Move.next procedures = .handOver p) (aim : Executor.target p = .ok target)
      (granted : s.scheduler.accept m target false = .ok (scheduler, write)) :
      Delegates m s name target
        { s with scheduler, runs := before ++ ⟨name, .announcing target⟩ :: after }
  | refused (before : List Run) {after : List Run} {procedures : List Procedure} {p : Procedure}
      {fault : Fault} (here : s.runs = before ++ ⟨name, .working procedures⟩ :: after)
      (next : Executor.Move.next procedures = .handOver p) (aim : Executor.target p = .ok target)
      (refused : s.scheduler.accept m target false = .error fault) :
      Delegates m s name target
        { s with
          runs := before ++ ⟨name, .over (Executor.handedOver (.error fault))⟩ :: after }

theorem Delegates.turn (delegates : Delegates m s name target s') : RunTurn m s s' := by
  cases delegates with
  | granted before here next aim granted => exact .handOver before here next aim granted
  | refused before here next aim refused => exact .refused before here next aim refused

/-- Its command runs before and after. -/
theorem Delegates.running (delegates : Delegates m s name target s') (matched : s.Matched)
    (matched' : s'.Matched) : name ∈ s.scheduler.queue.pending ∧ name ∈ s'.scheduler.queue.pending := by
  have pending : ∀ {s : Traffic} {before after : List Run} {progress : Progress}, s.Matched →
      s.runs = before ++ ⟨name, progress⟩ :: after → name ∈ s.scheduler.queue.pending := by
    intro s before after progress matched here
    have mem : ⟨name, progress⟩ ∈ s.runs := here ▸ mem_middle.2 (.inl rfl)
    obtain ⟨e, he, running⟩ := Queue.statusOf_eq_some.1 (matched.running mem)
    exact Queue.mem_pending.2 ⟨e, he, by rw [running]; rfl⟩
  cases delegates with
  | granted _ here => exact ⟨pending matched here, pending matched' rfl⟩
  | refused _ here => exact ⟨pending matched here, pending matched' rfl⟩

/-- The other command is pending afterwards, unless there is none or it is done once and for all. -/
theorem Delegates.pending (delegates : Delegates m s name target s') :
    m.get? target = none ∨
      (∃ command, m.get? target = some command ∧ command.policy = .once ∧
        s.scheduler.queue.statusOf target = some .done) ∨
      target ∈ s'.scheduler.queue.pending := by
  cases delegates with
  | granted _ _ _ _ granted =>
    obtain ⟨queue, asked, rfl⟩ := Scheduler.accept_eq_ok granted
    obtain ⟨command, -, rfl, -⟩ := Queue.enqueue_eq_ok asked
    refine .inr (.inr (Queue.mem_pending.2 ⟨_, NameMap.get?_insert_self .., ?_⟩))
    rw [Queue.askedEntry_status]
    rfl
  | refused _ _ _ _ refused =>
    rcases Queue.enqueue_eq_error (Scheduler.accept_eq_error refused) with
      unknown | ⟨command, e, known, he, waits | ⟨done, once⟩⟩
    · exact .inl unknown
    · exact .inr (.inr (Queue.mem_pending.2 ⟨e, he, waits⟩))
    · exact .inr (.inl ⟨command, known, once, Queue.statusOf_eq_some.2 ⟨e, he, done⟩⟩)

/-- A launch over a resolved manifest asks for a command that is known. -/
theorem Delegates.known (delegates : Delegates m s name target s') (h : Reachable m first s)
    (validated : m.Validated) : (m.get? target).isSome = true := by
  have mem : ∀ {before after : List Run} {r : Run}, s.runs = before ++ r :: after → r ∈ s.runs :=
    fun here => here ▸ mem_middle.2 (.inl rfl)
  cases delegates with
  | granted _ here next aim => exact h.target_known validated (mem here) next aim
  | refused _ here next aim => exact h.target_known validated (mem here) next aim

/-- A turn in which no end of the command is noted. -/
def Unended (m : Manifest) (name : String) (s s' : Traffic) : Prop :=
  Step m s s' ∧ s'.calls ≠ .finish name :: s.calls

theorem Unended.pending_stays (unended : Unended m name s s') (matched : s.Matched)
    (mem : name ∈ s.scheduler.queue.pending) : name ∈ s'.scheduler.queue.pending := by
  obtain ⟨step, unnoted⟩ := unended
  cases step.effect matched with
  | none same => exact same ▸ mem
  | asked other persist granted =>
    exact (Queue.Step.accept other persist granted).pending_stays mem fun _ _ h => by cases h
  | scanned queue =>
    rw [queue]
    exact Queue.Step.scan.pending_stays mem fun _ _ h => by cases h
  | ended other outcome running queue noted =>
    rw [queue]
    refine (Queue.Step.complete (m := m) other outcome running).pending_stays mem ?_
    -- The end of `name` itself would have been noted.
    intro _ _ same
    cases same
    exact unnoted noted
  | evicted queue =>
    rw [queue]
    exact Queue.Step.evict.pending_stays (m := m) mem fun _ _ h => by cases h

theorem Reachable.pending_stays (h : Reachable m first s) (mem : name ∈ s.scheduler.queue.pending)
    (onward : ReflTransGen (Unended m name) s s') :
    Reachable m first s' ∧ name ∈ s'.scheduler.queue.pending := by
  induction onward with
  | refl => exact ⟨h, mem⟩
  | tail _ unended ih =>
    obtain ⟨reachable, mem⟩ := ih
    exact ⟨reachable.next unended.1, unended.pending_stays reachable.matched mem⟩

end Traffic

end Supervisor
