import Supervisor.Proofs.Queue.Work
import Supervisor.Proofs.Scheduler.Runs

/-!
# No wakeup is lost

While the work loop has not taken the last trigger, work for a scan is never left without a reason for
the loop to scan: a trigger that has been sent, one that is due, or one that the loop has taken and
not acted upon. A request and the end of a launch owe a trigger for the work they make, a scan sends
one for each command that it discovers, and nothing else makes work.
-/

namespace Supervisor.Traffic

open Queue (HasWork restored Steps statusOf_eq_some)

variable {m : Manifest} {s s' : Traffic} {first : Record}

/-- The work loop has not taken the last trigger. -/
def IsOpen (s : Traffic) : Prop := s.scheduler.loop.isShut = false

/-- There is a reason for the work loop to scan. -/
inductive Prompted (s : Traffic) : Prop
  /-- A trigger has been sent, and is not the last one. -/
  | sent {t : Trigger} (mem : t ∈ s.scheduler.triggers) (more : t ≠ .shutdown)
  /-- A request or an end has changed the queue and not sent its trigger. -/
  | due {call : Call} (mem : call ∈ s.calls)
  /-- So has a request of a launch. -/
  | handedOver {r : Run} {target : String} (mem : r ∈ s.runs) (due : r.progress = .announcing target)
  /-- A trigger has been taken. -/
  | woken (woken : s.scheduler.loop = .woken)

theorem not_prompted (triggers : s.scheduler.triggers = []) (calls : s.calls = [])
    (runs : ∀ r ∈ s.runs, ∀ target, r.progress ≠ .announcing target)
    (loop : s.scheduler.loop ≠ .woken) : ¬ s.Prompted := by
  intro prompted
  cases prompted with
  | sent mem =>
    rw [triggers] at mem
    cases mem
  | due mem =>
    rw [calls] at mem
    cases mem
  | handedOver mem due => exact runs _ mem _ due
  | woken woken => exact loop woken

theorem Call.trigger_ne_shutdown (call : Call) : call.trigger ≠ .shutdown := by
  cases call <;> exact fun h => by cases h

/-! ## One turn -/

/-- What keeps a reason to scan: triggers, calls and requests of launches remain, and the loop stays
woken. -/
theorem Prompted.keep (h : s.Prompted)
    (triggers : ∀ t ∈ s.scheduler.triggers, t ∈ s'.scheduler.triggers)
    (calls : ∀ call ∈ s.calls, call ∈ s'.calls)
    (runs : ∀ r ∈ s.runs, ∀ target, r.progress = .announcing target → r ∈ s'.runs)
    (loop : s.scheduler.loop = .woken → s'.scheduler.loop = .woken) : s'.Prompted := by
  cases h with
  | sent mem more => exact .sent (triggers _ mem) more
  | due mem => exact .due (calls _ mem)
  | handedOver mem due => exact .handedOver (runs _ mem _ due) due
  | woken woken => exact .woken (loop woken)

theorem Quiet.prompted (quiet : Quiet s s') (h : s.Prompted) : s'.Prompted :=
  h.keep (fun _ mem => quiet.triggers.subset mem) (fun _ mem => quiet.calls ▸ mem)
    (fun _ mem _ _ => quiet.runs ▸ mem) fun woken => quiet.loop.trans woken

/-- A trigger that is sent is a reason itself. -/
theorem prompted_signal {t : Trigger} (isOpen : s.IsOpen) (more : t ≠ .shutdown) {calls : List Call}
    {runs : List Run} {waiters : List Waiter} :
    Prompted { scheduler := s.scheduler.signal t, calls, runs, waiters } := by
  have alive : s.scheduler.loop ≠ .stopped := fun stopped => by
    rw [IsOpen, stopped] at isOpen
    cases isOpen
  refine .sent (t := t) ?_ more
  show t ∈ (s.scheduler.signal t).triggers
  rw [Scheduler.signal_triggers _ _ alive]
  exact List.mem_append_right _ List.mem_cons_self

theorem LoopTurn.isOpen (turn : LoopTurn m s s') (isOpen : s'.IsOpen) : s.IsOpen := by
  rw [IsOpen, ← Bool.not_eq_true]
  intro shut
  obtain ⟨take, scan, read, report, close⟩ := Scheduler.shut_stays (m := m) shut
  rw [IsOpen, ← Bool.not_eq_true] at isOpen
  cases turn with
  | take => exact isOpen (take.symm ▸ shut)
  | scan =>
    refine isOpen ?_
    show (s.scheduler.scan m).1.loop.isShut = true
    rw [scan]
    exact shut
  | read => exact isOpen (read.symm ▸ shut)
  | report => exact isOpen (report.symm ▸ shut)
  | close => exact isOpen close

/-- The work loop does not open again. -/
theorem Step.isOpen (h : Step m s s') (isOpen : s'.IsOpen) : s.IsOpen := by
  have same : s'.scheduler.loop = s.scheduler.loop → s.IsOpen := fun loop => by
    rw [IsOpen, ← loop]
    exact isOpen
  cases h with
  | loop turn => exact turn.isOpen isOpen
  | waiter turn => exact same turn.quiet.loop
  | caller turn => exact same turn.apart.loop
  | run turn => exact same turn.apart.loop

/-- While the loop is open, work goes with a reason to scan. -/
def Attended (m : Manifest) (s : Traffic) : Prop :=
  s.IsOpen → HasWork m s.scheduler.queue → s.Prompted

theorem CallerTurn.attended (turn : CallerTurn m s s') (isOpen : s.IsOpen)
    (attended : Attended m s) : Attended m s' := by
  intro _ work
  cases turn with
  | enqueue name => exact .due List.mem_cons_self
  | signal => exact prompted_signal isOpen (Call.trigger_ne_shutdown _)
  | evict =>
    exact (attended isOpen work.of_evict).keep (fun _ mem => mem) (fun _ mem => mem)
      (fun _ mem _ _ => mem) id
  | shutdown =>
    have before := attended isOpen (Scheduler.signal_queue s.scheduler .shutdown ▸ work)
    exact before.keep (fun _ mem => (Scheduler.triggers_signal ..).subset mem) (fun _ mem => mem)
      (fun _ mem _ _ => mem) fun woken => (Scheduler.signal_loop ..).trans woken

/-- After a scan what work there is comes from commands that it discovered, and it has sent a trigger
for each. -/
theorem LoopTurn.attended (turn : LoopTurn m s s') (sound : Queue.Sound m s.scheduler.queue)
    (attended : Attended m s) : Attended m s' := by
  intro isOpen' work
  have before := attended (turn.isOpen isOpen')
  have keep : s'.scheduler.triggers = s.scheduler.triggers → s'.calls = s.calls → s'.runs = s.runs →
      (s.scheduler.loop = .woken → s'.scheduler.loop = .woken) → HasWork m s.scheduler.queue →
      s'.Prompted := fun triggers calls runs loop work =>
    (before work).keep (fun _ mem => triggers ▸ mem) (fun _ mem => calls ▸ mem)
      (fun _ mem _ _ => runs ▸ mem) loop
  cases turn with
  | take =>
    rcases s.scheduler.take_cases with same | closing | woken
    · rw [same] at work keep ⊢
      exact keep rfl rfl rfl id work
    · rw [IsOpen, closing] at isOpen'
      cases isOpen'
    · exact .woken woken
  | scan =>
    rcases s.scheduler.scan_cases m with ⟨woken, queue, pass, loop, triggers⟩ | ⟨-, same⟩
    · rw [queue] at work
      -- The scan has used the trigger up; only its own discoveries can have left work.
      cases found : (s.scheduler.queue.scan m).2.discovered with
      | nil => exact absurd work (sound.scan_leaves_none found)
      | cons name rest =>
        refine .sent (t := .enqueued name) ?_ (fun h => by cases h)
        show Trigger.enqueued name ∈ (s.scheduler.scan m).1.triggers
        rw [triggers, found]
        exact List.mem_append_right _ List.mem_cons_self
    · rw [same] at work
      refine keep ?_ rfl ?_ ?_ work
      · rw [same]
      · simp [same]
      · rw [same]
        exact id
  | read =>
    rw [Scheduler.read_queue] at work
    refine keep (Scheduler.read_triggers _) rfl rfl (fun woken => ?_) work
    exact (congrArg Scheduler.loop (Scheduler.woken_stays woken).1).trans woken
  | report =>
    rw [Scheduler.report_queue] at work
    refine keep (Scheduler.report_triggers _) rfl rfl (fun woken => ?_) work
    exact (congrArg Scheduler.loop (Scheduler.woken_stays woken).2.1).trans woken
  | close =>
    rw [Scheduler.close_queue] at work
    refine keep (Scheduler.close_triggers _) rfl rfl (fun woken => ?_) work
    exact (congrArg Scheduler.loop (Scheduler.woken_stays woken).2.2).trans woken

theorem Progress.Goes.silent {now next : Progress} (goes : now.Goes next) (target : String) :
    now ≠ .announcing target := by
  rintro rfl
  cases goes

/-- Where one launch is replaced that has announced nothing, the requests of launches remain. -/
theorem announcing_stays {before after : List Run} {old new r : Run} {target : String}
    (silent : ∀ target, old.progress ≠ .announcing target) (mem : r ∈ before ++ old :: after)
    (due : r.progress = .announcing target) : r ∈ before ++ new :: after := by
  rcases List.mem_append.1 mem with mem | mem
  · exact List.mem_append_left _ mem
  · rcases List.mem_cons.1 mem with rfl | mem
    · exact absurd due (silent target)
    · exact List.mem_append_right _ (List.mem_cons_of_mem _ mem)

theorem RunTurn.attended (turn : RunTurn m s s') (isOpen : s.IsOpen) (attended : Attended m s) :
    Attended m s' := by
  intro _ work
  cases turn with
  | proceed _ here goes =>
    refine (attended isOpen work).keep (fun _ mem => mem) (fun _ mem => mem)
      (fun r mem target due => ?_) id
    exact announcing_stays goes.silent (here ▸ mem) due
  | handOver => exact .handedOver (List.mem_append_right _ List.mem_cons_self) rfl
  | refused _ here =>
    refine (attended isOpen work).keep (fun _ mem => mem) (fun _ mem => mem)
      (fun r mem target due => ?_) id
    exact announcing_stays (fun _ same => by cases same) (here ▸ mem) due
  | announce => exact prompted_signal isOpen fun same => by cases same
  | finish => exact .due List.mem_cons_self

theorem Step.attended (h : Step m s s') (sound : Queue.Sound m s.scheduler.queue)
    (attended : Attended m s) : Attended m s' := by
  intro isOpen' work
  have isOpen := h.isOpen isOpen'
  cases h with
  | caller turn => exact turn.attended isOpen attended isOpen' work
  | loop turn => exact turn.attended sound attended isOpen' work
  | run turn => exact turn.attended isOpen attended isOpen' work
  | waiter turn => exact turn.quiet.prompted (attended isOpen (turn.quiet.queue ▸ work))

/-! ## All turns -/

/-- At its start a scheduler has a trigger if a record resumes anything, and no work otherwise. -/
theorem attended_start (m : Manifest) (first : Record) :
    Attended m { scheduler := .start m first } := by
  intro _ work
  by_cases nothing : (Queue.restore .empty m first).2 = []
  · exact absurd work (Queue.restored_none nothing)
  · refine .sent (t := .drain) ?_ (fun h => by cases h)
    simp [Scheduler.start, nothing]

theorem Reachable.sound (h : Reachable m first s) : Queue.Sound m s.scheduler.queue := by
  obtain ⟨acts, steps, -⟩ := h.history
  exact steps.sound (Queue.sound_restored m first)

theorem Reachable.attended (h : Reachable m first s) : Attended m s := by
  induction h with
  | start => exact attended_start m first
  | next earlier step ih => exact step.attended earlier.sound ih

/-- **No wakeup is lost.** In whatever order callers, launches, the work loop and those who wait take
their turns, from any record, while the loop has not taken the last trigger: if a scan would find
something to do, a trigger has been sent, or is due from a request or an end that has changed the
queue, or has been taken by the loop and not been followed by its scan. So where there is no such
trigger, whatever could be launched has been: a command whose needs are done runs or is settled, and a
`restart` command runs. -/
theorem no_lost_wakeup (h : Reachable m first s) (isOpen : s.IsOpen) :
    ((s.scheduler.queue.scan m).2.isIdle = false → s.Prompted) ∧
      (¬ s.Prompted → ∀ name e, s.scheduler.queue.get? name = some e →
        (∀ need ∈ e.command.needs, s.scheduler.queue.statusOf need = some .done) →
        (e.status = .running ∨ e.isSettled = true) ∧
          (e.command.policy = .restart → e.status = .running)) := by
  have work := h.attended isOpen
  refine ⟨fun busy => ?_, fun quiet name e he done => ?_⟩
  · refine Classical.byContradiction fun quiet => ?_
    have idle := h.sound.isIdle_iff.2 fun has => quiet (work has)
    rw [idle] at busy
    cases busy
  · exact Queue.launched_of_none (fun has => quiet (work has)) he done

/-- The first command has handed over to the worker, and no trigger has been sent: it is due from that
launch. Once the loop sleeps again and both triggers have been acted upon, the worker runs. -/
theorem no_lost_wakeup_worker :
    (∃ s, Reachable relay {} s ∧ s.scheduler.triggers = [] ∧ s.scheduler.loop = .idle ∧
      (s.scheduler.queue.scan relay).2.isIdle = false ∧ s.Prompted) ∧
    ∃ s, Reachable relay {} s ∧ s.scheduler.triggers = [] ∧ s.scheduler.loop = .idle ∧
      s.scheduler.queue.statusOf "worker" = some .running := by
  have asked : Reachable relay {} _ := .next .start (.caller (.enqueue "start" true rfl))
  have begun := (asked.next (.caller (.signal [] rfl))).turned
  have handed := begun.next (.run (.handOver [] rfl rfl rfl rfl))
  have ended := (handed.next (.run (.announce [] rfl))).finished rfl
  have asleep := ended.turned.turned
  obtain ⟨-, running⟩ := (no_lost_wakeup asleep rfl).2
    (not_prompted rfl rfl (fun r mem target due => by
      obtain rfl := List.mem_singleton.1 mem
      cases due) fun woken => by cases woken)
    "worker" _ rfl (fun _ mem => by cases mem)
  exact ⟨⟨_, handed, rfl, rfl, rfl, (no_lost_wakeup handed rfl).1 rfl⟩, _, asleep, rfl, rfl,
    statusOf_eq_some.2 ⟨_, rfl, running rfl⟩⟩

end Supervisor.Traffic
