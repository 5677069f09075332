import Supervisor.Proofs.Manifest.Validated
import Supervisor.Proofs.Queue.Eviction
import Supervisor.Proofs.Scheduler.Waiters
import Supervisor.Proofs.Scheduler.Wakeup

/-!
# Whoever waits is roused

Whoever sleeps and has what it waits for is told, or something is under way at whose end everybody is
told: whatever makes a queue drained owes a trigger for it, and the loop reports after each. There is
one exception. Evicting sends no trigger, and a command that has been evicted is waited for no more,
so who sleeps for the sake of that command may sleep on while other commands run.
-/

namespace Supervisor

open Relation (ReflTransGen)

namespace Traffic

open Scheduler (isDrained)

variable {m : Manifest} {s s' : Traffic} {first : Record} {target : Option String}

/-- What is waited for is there, and not only because the command has been evicted. -/
def Relieved (q : Queue) (target : Option String) : Prop :=
  isDrained q target = true ∧ (q.pending = [] ∨ ∀ name, target = some name → q.contains name = true)

theorem drained_of_none {q : Queue} (nothing : q.pending = []) (target : Option String) :
    isDrained q target = true := by
  cases target with
  | none => exact List.isEmpty_iff.2 nothing
  | some name =>
    rw [isDrained, Bool.not_eq_true', ← Bool.not_eq_true, Queue.closurePending_iff]
    rintro ⟨-, other, e, -, he, waits⟩
    have ended := Queue.pending_eq_nil_iff.1 nothing other e he
    rw [waits] at ended
    cases ended

theorem drained_of_untracked {q : Queue} {name : String} (untracked : q.contains name = false) :
    isDrained q (some name) = true := by
  rw [isDrained, Bool.not_eq_true', ← Bool.not_eq_true, Queue.closurePending_iff, untracked]
  exact fun found => Bool.noConfusion found.1

theorem not_relieved {q : Queue} (drained : isDrained q target = true) (not : ¬ Relieved q target) :
    ∃ name, target = some name ∧ q.contains name = false ∧ q.pending ≠ [] := by
  cases target with
  | none => exact absurd ⟨drained, .inr fun _ same => by cases same⟩ not
  | some name =>
    refine ⟨name, rfl, ?_, fun nothing => not ⟨drained, .inl nothing⟩⟩
    rw [← Bool.not_eq_true]
    exact fun tracked => not ⟨drained, .inr fun name' same => Option.some.inj same ▸ tracked⟩

/-- Eviction makes nothing drained that stays in the queue. -/
theorem Relieved.of_evict {q : Queue} (relieved : Relieved q.evict.1 target) : Relieved q target := by
  obtain ⟨drained, nothing | tracked⟩ := relieved
  · rw [Queue.pending_evict] at nothing
    exact ⟨drained_of_none nothing target, .inl nothing⟩
  · have kept name (same : target = some name) := Queue.kept_of_contains (tracked name same)
    refine ⟨?_, .inr fun name same => (kept name same).1⟩
    cases target with
    | none =>
      rw [isDrained, Queue.pending_evict] at drained
      exact drained
    | some name =>
      rw [isDrained, Queue.closurePending_evict (kept name rfl).2] at drained
      exact drained

/-! ## Whom something rouses -/

/-- Something is under way at whose end everybody who waits is told. -/
inductive Astir (s : Traffic) : Prop
  | sent (some : s.scheduler.triggers ≠ [])
  /-- A request or an end has changed the queue and not sent its trigger. -/
  | due {call : Call} (mem : call ∈ s.calls)
  /-- So has a request of a launch. -/
  | handedOver {r : Run} {target : String} (mem : r ∈ s.runs) (due : r.progress = .announcing target)
  /-- A trigger has been taken, and nothing has been reported since. -/
  | taken (busy : s.scheduler.loop ≠ .idle)

/-- Who listens to the watcher is told something if it looks, or will be. -/
def Roused (s : Traffic) (watcher : Nat) : Prop :=
  s.scheduler.watchers.Wakes watcher ∨ s.scheduler.loop ≠ .stopped ∧ s.Astir

theorem Astir.keep (h : s.Astir) (triggers : ∀ t ∈ s.scheduler.triggers, t ∈ s'.scheduler.triggers)
    (calls : ∀ call ∈ s.calls, call ∈ s'.calls)
    (runs : ∀ r ∈ s.runs, ∀ target, r.progress = .announcing target → r ∈ s'.runs)
    (loop : s'.scheduler.loop = s.scheduler.loop) : s'.Astir := by
  cases h with
  | sent some =>
    obtain ⟨t, mem⟩ := List.exists_mem_of_ne_nil _ some
    exact .sent (List.ne_nil_of_mem (triggers t mem))
  | due mem => exact .due (calls _ mem)
  | handedOver mem due => exact .handedOver (runs _ mem _ due) due
  | taken busy => exact .taken (loop ▸ busy)

theorem Quiet.astir (quiet : Quiet s s') (h : s.Astir) : s'.Astir :=
  h.keep (fun _ mem => quiet.triggers.subset mem) (fun _ mem => quiet.calls ▸ mem)
    (fun _ mem _ _ => quiet.runs ▸ mem) quiet.loop

theorem Roused.keep {n : Nat} (roused : s.Roused n)
    (same : s'.scheduler.watchers.all[n]? = s.scheduler.watchers.all[n]?)
    (loop : s'.scheduler.loop = s.scheduler.loop) (astir : s.Astir → s'.Astir) : s'.Roused n := by
  rcases roused with wakes | ⟨alive, before⟩
  · exact .inl (wakes.of_eq same)
  · exact .inr ⟨loop ▸ alive, astir before⟩

/-- Who waits is roused by what is under way; once the loop has ended it is told so anyway. -/
theorem Attached.roused (attached : s.Attached) {w : Waiter} (mem : w ∈ s.waiters)
    (astir : s.scheduler.loop ≠ .stopped → s.Astir) : s.Roused w.watcher := by
  by_cases stopped : s.scheduler.loop = .stopped
  · exact .inl (attached.wakes_of_stopped stopped mem)
  · exact .inr ⟨stopped, astir stopped⟩

theorem astir_signal {t : Trigger} {calls : List Call} {runs : List Run} {waiters : List Waiter}
    (alive : (s.scheduler.signal t).loop ≠ .stopped) :
    Astir { scheduler := s.scheduler.signal t, calls, runs, waiters } := by
  rw [Scheduler.signal_loop] at alive
  refine .sent (List.ne_nil_of_mem (a := t) ?_)
  show t ∈ (s.scheduler.signal t).triggers
  rw [Scheduler.signal_triggers _ _ alive]
  exact List.mem_append_right _ List.mem_cons_self

/-! ## One turn -/

variable {P : Queue → Option String → Prop}

/-- Everybody who sleeps and has what it waits for is roused. -/
def Alert (P : Queue → Option String → Prop) (s : Traffic) : Prop :=
  ∀ w ∈ s.waiters, w.watch = .asleep → P s.scheduler.queue w.target → s.Roused w.watcher

theorem CallerTurn.alert (turn : CallerTurn m s s') (attached : s'.Attached)
    (evict : s'.scheduler = s.scheduler.evict.1 →
      ∀ target, P s'.scheduler.queue target → P s.scheduler.queue target)
    (alert : s.Alert P) : s'.Alert P := by
  intro w mem asleep there
  cases turn with
  | enqueue => exact attached.roused mem fun _ => .due List.mem_cons_self
  | signal | shutdown => exact attached.roused mem astir_signal
  | evict =>
    refine (alert w mem asleep (evict rfl _ there)).keep rfl rfl fun astir => ?_
    exact astir.keep (fun _ mem => mem) (fun _ mem => mem) (fun _ mem _ _ => mem) rfl

/-- The loop is busy, or it has just told everybody, or nothing has happened. -/
theorem LoopTurn.alert (turn : LoopTurn m s s') (before : s.Attached) (attached : s'.Attached)
    (alert : s.Alert P) : s'.Alert P := by
  intro w mem asleep there
  have same : s'.scheduler = s.scheduler → s'.calls = s.calls → s'.runs = s.runs →
      w ∈ s.waiters → s'.Roused w.watcher := fun scheduler calls runs mem => by
    rw [scheduler] at there
    refine (alert w mem asleep there).keep (by rw [scheduler]) (by rw [scheduler]) fun astir => ?_
    exact astir.keep (fun _ mem => scheduler ▸ mem) (fun _ mem => calls ▸ mem)
      (fun _ mem _ _ => runs ▸ mem) (by rw [scheduler])
  have busy : s'.scheduler.loop ≠ .idle → s'.Roused w.watcher := fun busy =>
    attached.roused mem fun _ => .taken busy
  cases turn with
  | take =>
    rcases s.scheduler.take_cases with idle | closing | woken
    · exact same idle rfl rfl mem
    · exact busy fun idle => Loop.noConfusion (closing.symm.trans idle)
    · exact busy fun idle => Loop.noConfusion (woken.symm.trans idle)
  | scan =>
    rcases s.scheduler.scan_cases m with ⟨-, -, -, scanned, -⟩ | ⟨-, asleep⟩
    · exact busy fun idle => Loop.noConfusion (scanned.symm.trans idle)
    · refine same ?_ rfl ?_ mem
      · rw [asleep]
      · simp [asleep]
  | read =>
    by_cases scanned : s.scheduler.loop = .scanned
    · refine busy fun idle => ?_
      simp [Scheduler.read, scanned] at idle
    · exact same (if_neg scanned) rfl rfl mem
  | report =>
    rcases s.scheduler.report_cases with ⟨pending, reporting, -, watchers⟩ | idle
    · have alive : s.scheduler.loop ≠ .stopped := fun stopped =>
        Loop.noConfusion (reporting.symm.trans stopped)
      refine .inl ?_
      rw [watchers]
      exact before.wakes_of_broadcast alive mem pending
    · exact same idle rfl rfl mem
  | close =>
    rcases s.scheduler.close_cases with ⟨-, stopped, -⟩ | idle
    · exact .inl (attached.wakes_of_stopped stopped mem)
    · exact same idle rfl rfl mem

theorem RunTurn.alert (turn : RunTurn m s s') (attached : s'.Attached) (alert : s.Alert P) :
    s'.Alert P := by
  intro w mem asleep there
  have replace : ∀ {before after : List Run} {old new : Run}, s.runs = before ++ old :: after →
      (∀ target, old.progress ≠ .announcing target) → s'.runs = before ++ new :: after →
      s'.scheduler = s.scheduler → s'.calls = s.calls → w ∈ s.waiters → s'.Roused w.watcher := by
    intro before after old new here silent runs scheduler calls mem
    rw [scheduler] at there
    refine (alert w mem asleep there).keep (by rw [scheduler]) (by rw [scheduler]) fun astir => ?_
    refine astir.keep (fun _ mem => scheduler ▸ mem) (fun _ mem => calls ▸ mem)
      (fun r mem target due => ?_) (by rw [scheduler])
    rw [runs]
    exact announcing_stays silent (here ▸ mem) due
  cases turn with
  | proceed _ here goes => exact replace here goes.silent rfl rfl rfl mem
  | refused _ here => exact replace here (fun _ same => by cases same) rfl rfl rfl mem
  | handOver =>
    exact attached.roused mem fun _ => .handedOver (mem_middle.2 (.inl rfl)) rfl
  | announce => exact attached.roused mem astir_signal
  | finish => exact attached.roused mem fun _ => .due List.mem_cons_self

/-- Who looks and goes back to sleep has not got what it waits for; to the others it is nothing. -/
theorem WaiterTurn.alert (turn : WaiterTurn s s') (numbered : s.Numbered) (before : s.Attached)
    (attached : s'.Attached) (drained : ∀ q target, P q target → isDrained q target = true) (alert : s.Alert P) :
    s'.Alert P := by
  have quiet := turn.quiet
  intro w mem asleep there
  rw [quiet.queue] at there
  have other : w ∈ s.waiters →
      s'.scheduler.watchers.all[w.watcher]? = s.scheduler.watchers.all[w.watcher]? →
      s'.Roused w.watcher := fun mem same =>
    (alert w mem asleep there).keep same quiet.loop quiet.astir
  have left : ∀ {before after : List Waiter} {old : Waiter}, s.waiters = before ++ old :: after →
      w ∈ before ++ after → w ∈ s.waiters ∧ w.watcher ≠ old.watcher := by
    intro before after old here mem
    refine ⟨?_, fun same => ?_⟩
    · rw [here]
      exact mem_middle.2 (.inr mem)
    · exact numbered.left here (same ▸ List.mem_map_of_mem mem)
  have update : ∀ {watcher : Nat} {change : Watcher → Watcher}, w.watcher ≠ watcher →
      (s.scheduler.watchers.update watcher change).all[w.watcher]? =
        s.scheduler.watchers.all[w.watcher]? := fun differs => by
    rw [Watchers.getElem?_update, if_neg differs]
  have poll : ∀ {watcher : Nat} {watchers : Watchers} {look : Watchers.Look},
      s.scheduler.watchers.poll watcher = (watchers, look) → w.watcher ≠ watcher →
      watchers.all[w.watcher]? = s.scheduler.watchers.all[w.watcher]? := fun told differs => by
    rcases Watchers.poll_cases told with rfl | rfl
    · rfl
    · exact update differs
  cases turn with
  | subscribe =>
    rcases List.mem_append.1 mem with old | new
    · obtain ⟨x, here, -⟩ := before.heard _ (List.mem_map_of_mem old)
      exact other old ((Watchers.getElem?_subscribe here).trans here.symm)
    · obtain rfl := List.mem_singleton.1 new
      cases asleep
  | signal => exact attached.roused mem astir_signal
  | wake before here told | closed before here told =>
    rcases mem_middle.1 mem with rfl | mem
    · cases asleep
    · obtain ⟨old, differs⟩ := left here mem
      exact other old (poll told differs)
  | look before here =>
    rcases mem_middle.1 mem with rfl | mem
    · rw [if_pos (drained _ _ there)] at asleep
      cases asleep
    · exact other (left here mem).1 rfl
  | leave before here | giveUp before here =>
    obtain ⟨old, differs⟩ := left here mem
    exact other old (update differs)

theorem Step.alert (h : Step m s s') (numbered : s.Numbered) (attached : s.Attached)
    (drained : ∀ q target, P q target → isDrained q target = true)
    (evict : s'.scheduler = s.scheduler.evict.1 →
      ∀ target, P s'.scheduler.queue target → P s.scheduler.queue target)
    (alert : s.Alert P) : s'.Alert P := by
  have after := h.attached numbered attached
  cases h with
  | caller turn => exact turn.alert after evict alert
  | loop turn => exact turn.alert attached after alert
  | run turn => exact turn.alert after alert
  | waiter turn => exact turn.alert numbered attached after drained alert

/-! ## All turns -/

theorem Reachable.alert (h : Reachable m first s) : s.Alert Relieved := by
  induction h with
  | start => exact fun w mem => by cases mem
  | next earlier step ih =>
    refine step.alert earlier.numbered earlier.attached (fun _ _ => And.left) ?_ ih
    intro evicted target there
    rw [evicted] at there
    exact there.of_evict

/-- A turn in which nothing leaves the queue. -/
def Keeps (m : Manifest) (s s' : Traffic) : Prop :=
  Step m s s' ∧ ∀ name, s.scheduler.queue.contains name = true →
    s'.scheduler.queue.contains name = true

theorem alert_of_keeps (way : ReflTransGen (Keeps m) { scheduler := .start m first } s) :
    Reachable m first s ∧ s.Alert fun q target => isDrained q target = true := by
  induction way with
  | refl => exact ⟨.start, fun w mem => by cases mem⟩
  | tail _ turn ih =>
    obtain ⟨earlier, before⟩ := ih
    obtain ⟨step, keeps⟩ := turn
    refine ⟨earlier.next step, ?_⟩
    refine step.alert earlier.numbered earlier.attached (fun _ _ => id) ?_ before
    intro evicted target there
    rw [evicted] at there keeps
    change isDrained (Queue.evict _).1 target = true at there
    rwa [Queue.evict_eq_self keeps] at there

/-! ## Until everybody is told -/

/-- A turn that needs nobody outside: one of the loop, or a trigger that is due is sent. -/
inductive Onward (m : Manifest) (s : Traffic) : Traffic → Prop
  | loop {s' : Traffic} (turn : LoopTurn m s s') : Onward m s s'
  | signal (before : List Call) {after : List Call} {call : Call}
      (due : s.calls = before ++ call :: after) :
      Onward m s { s with scheduler := s.scheduler.signal call.trigger, calls := before ++ after }
  | announce (before : List Run) {after : List Run} {name target : String}
      (here : s.runs = before ++ ⟨name, .announcing target⟩ :: after) :
      Onward m s
        { s with
          scheduler := s.scheduler.signal (.enqueued target)
          runs := before ++ ⟨name, .over (Executor.handedOver (.ok ()))⟩ :: after }

theorem Onward.step (onward : Onward m s s') : Step m s s' := by
  cases onward with
  | loop turn => exact .loop turn
  | signal before due => exact .caller (.signal before due)
  | announce before here => exact .run (.announce before here)

/-- An awake loop has told everybody once it is through with its trigger. -/
theorem Reachable.tells (h : Reachable m first s) (awake : s.scheduler.isAwake = true) :
    ∃ s', ReflTransGen (Onward m) s s' ∧
      ∀ w ∈ s.waiters, s'.scheduler.watchers.Wakes w.watcher := by
  have turned : ReflTransGen (Onward m) s
      { s with
        scheduler := (s.scheduler.turn m).1
        runs := s.runs ++ (s.scheduler.turn m).2.launches.map begin } :=
    ((((ReflTransGen.single (.loop .take)).tail (.loop .scan)).tail (.loop .read)).tail
      (.loop .report)).tail (.loop .close)
  refine ⟨_, turned, fun w mem => ?_⟩
  rcases s.scheduler.turn_tells m awake with ⟨pending, watchers⟩ | stopped
  · show (s.scheduler.turn m).1.watchers.Wakes w.watcher
    rw [watchers]
    exact h.attached.wakes_of_broadcast ((Scheduler.isAwake_iff _).1 awake).1 mem pending
  · exact h.turned.attached.wakes_of_stopped stopped mem

theorem awake_signal {t : Trigger} (alive : s.scheduler.loop ≠ .stopped) :
    (s.scheduler.signal t).isAwake = true := by
  rw [Scheduler.isAwake_iff, Scheduler.signal_loop, Scheduler.signal_triggers _ _ alive]
  exact ⟨alive, fun _ => List.append_ne_nil_of_right_ne_nil _ (List.cons_ne_nil _ _)⟩

theorem Reachable.comes_to_wake (h : Reachable m first s) {w : Waiter} (mem : w ∈ s.waiters)
    (roused : s.Roused w.watcher) :
    ∃ s', ReflTransGen (Onward m) s s' ∧ s'.scheduler.watchers.Wakes w.watcher := by
  have tells : ∀ {s₁ : Traffic}, ReflTransGen (Onward m) s s₁ → Reachable m first s₁ →
      s₁.scheduler.isAwake = true → w ∈ s₁.waiters →
      ∃ s', ReflTransGen (Onward m) s s' ∧ s'.scheduler.watchers.Wakes w.watcher := by
    intro s₁ way reachable awake mem
    obtain ⟨s', onward, wakes⟩ := reachable.tells awake
    exact ⟨s', way.trans onward, wakes w mem⟩
  rcases roused with wakes | ⟨alive, astir⟩
  · exact ⟨s, .refl, wakes⟩
  · cases astir with
    | sent some => exact tells .refl h ((Scheduler.isAwake_iff _).2 ⟨alive, fun _ => some⟩) mem
    | taken busy =>
      exact tells .refl h ((Scheduler.isAwake_iff _).2 ⟨alive, fun idle => absurd idle busy⟩) mem
    | due due =>
      obtain ⟨before, after, here⟩ := List.append_of_mem due
      have turn : Onward m s _ := .signal before here
      exact tells (.single turn) (h.next turn.step) (awake_signal alive) mem
    | @handedOver r target running due =>
      obtain ⟨before, after, here⟩ := List.append_of_mem running
      obtain ⟨name, progress⟩ := r
      subst due
      have turn : Onward m s _ := .announce before here
      exact tells (.single turn) (h.next turn.step) (awake_signal alive) mem

/-- **Whoever has what it waits for is roused.** In whatever order callers, launches, the work loop
and those who wait take their turns, from any record: somebody sleeps, and the queue is drained of
what it waits for. Then it finds something new on looking, or the end; or a trigger has been sent, is
due, or has been taken and its report is to come, and the loop and those whose triggers are due are
enough to make it so. Unless it waits for one command, which has been evicted, while others are
pending; where nothing has been evicted there is no such exception. -/
theorem roused_when_drained (h : Reachable m first s) {w : Waiter} (mem : w ∈ s.waiters)
    (asleep : w.watch = .asleep) (drained : isDrained s.scheduler.queue w.target = true) :
    (s.Roused w.watcher ∨ ∃ name, w.target = some name ∧
      s.scheduler.queue.contains name = false ∧ s.scheduler.queue.pending ≠ []) ∧
    (ReflTransGen (Keeps m) { scheduler := .start m first } s → s.Roused w.watcher) ∧
    (s.Roused w.watcher →
      ∃ s', ReflTransGen (Onward m) s s' ∧ s'.scheduler.watchers.Wakes w.watcher) := by
  refine ⟨?_, fun way => ?_, h.comes_to_wake mem⟩
  · by_cases relieved : Relieved s.scheduler.queue w.target
    · exact .inl (h.alert w mem asleep relieved)
    · exact .inr (not_relieved drained relieved)
  · exact (alert_of_keeps way).2 w mem asleep drained

/-! ## Nobody is told -/

/-- Where nothing is under way at whose end everybody is told, nothing more comes of it. -/
theorem Onward.still (onward : Onward m s s') (still : ¬ s.Astir) (silent : s.runs = []) : s' = s := by
  have idle : s.scheduler.loop = .idle := Classical.byContradiction fun busy => still (.taken busy)
  have untold : s.scheduler.triggers = [] := Classical.byContradiction fun some => still (.sent some)
  cases onward with
  | loop turn =>
    cases turn with
    | take =>
      have same : s.scheduler.take = s.scheduler := by simp [Scheduler.take, idle, untold]
      rw [same]
    | scan =>
      have same : s.scheduler.scan m = (s.scheduler, {}) := by simp [Scheduler.scan, idle]
      rw [same, List.map_nil, List.append_nil]
    | read =>
      have same : s.scheduler.read = s.scheduler := by simp [Scheduler.read, idle]
      rw [same]
    | report =>
      have same : s.scheduler.report = s.scheduler := by simp [Scheduler.report, idle]
      rw [same]
    | close =>
      have same : s.scheduler.close = s.scheduler := by simp [Scheduler.close, idle]
      rw [same]
  | signal before due => exact absurd (.due (due ▸ mem_middle.2 (.inl rfl))) still
  | announce before here =>
    rw [silent] at here
    exact absurd here.symm (List.append_ne_nil_of_right_ne_nil _ (List.cons_ne_nil _ _))

/-! ## A depot -/

/-- The first of the launches goes on to its end, which is noted. -/
theorem Reachable.ended {after : List Run} {name : String} {now : Progress}
    {result : Except Fault Unit} (h : Reachable m first s) (here : s.runs = ⟨name, now⟩ :: after)
    (comes : ReflTransGen Progress.Goes now (.over result)) :
    Reachable m first
      { s with
        scheduler := (s.scheduler.finish name (.ofResult result)).1.signal (.completed name)
        runs := after } := by
  have first : s.runs = [] ++ ⟨name, now⟩ :: after := here
  exact (h.goes first comes).finished rfl

/-- Somebody is told, looks at the queue, and goes back to sleep. -/
theorem Reachable.looked (before : List Waiter) {after : List Waiter} {watcher : Nat}
    {watchers : Watchers} {names : List String} (h : Reachable m first s)
    (here : s.waiters = before ++ ⟨watcher, target, .asleep⟩ :: after)
    (told : s.scheduler.watchers.poll watcher = (watchers, .changed names))
    (pending : ¬ isDrained s.scheduler.queue target = true) :
    Reachable m first { s with scheduler := { s.scheduler with watchers } } := by
  have woken := h.next (.waiter (.wake before here told))
  have looked := woken.next (.waiter (.look before rfl))
  rw [if_neg pending, ← here] at looked
  exact looked

/-- The one procedure of a command. -/
def serve (id : String) : Procedure := ⟨id, .exec, .argv ["serve"], .unsaid, false⟩

/-- An application that needs a database, which needs a disk. -/
def depot : Manifest :=
  ⟨"m", none, none, .ofList [("app", ⟨"app", .always, ["db"], []⟩),
    ("db", ⟨"db", .always, ["disk"], []⟩), ("disk", ⟨"disk", .always, [], [serve "disk.0"]⟩)]⟩

/-- What its file states. -/
def depotDraft : Manifest.Draft :=
  ⟨"m", none, none, .ofList [("app", ⟨.always, ["db"], []⟩), ("db", ⟨.always, ["disk"], []⟩),
    ("disk", ⟨.always, [], [⟨"exec", some (.array [.text "serve"]), none, none, false⟩]⟩)]⟩

theorem depot_validated : depot.Validated := by
  have placed : depotDraft.needs.misplaced? = none :=
    Manifest.Needs.misplaced_none_of_rank ["disk", "db", "app"].idxOf (by decide +kernel)
  refine ⟨depotDraft, ?_⟩
  rw [Manifest.Draft.resolve, placed]
  rfl

/-- Its queue, with how often each command was launched. -/
def stock (app : Status) (appLaunches : Nat) (db : Status) (dbLaunches : Nat) (disk : Status)
    (diskLaunches : Nat) : Queue :=
  .ofList [("app", ⟨app, false, appLaunches, ⟨"app", .always, ["db"], []⟩⟩),
    ("db", ⟨db, false, dbLaunches, ⟨"db", .always, ["disk"], []⟩⟩),
    ("disk", ⟨disk, false, diskLaunches, ⟨"disk", .always, [], [serve "disk.0"]⟩⟩)]

/-- A launch at its beginning. -/
def serving (name id : String) : Run := ⟨name, .working [serve id]⟩

theorem serve_succeeds (id : String) :
    ReflTransGen Progress.Goes (.working [serve id]) (.over (.ok ())) :=
  .head (.await rfl) (.head (.resume (serve id) [] (.ok 0)) (.single (.finish rfl)))

theorem serve_fails (id : String) :
    ReflTransGen Progress.Goes (.working [serve id]) (.over (.error (.procedureFailed .exec 1))) :=
  .head (.await rfl) (.single (.resume (serve id) [] (.ok 1)))

/-- Who has seen the last report and is registered is not told. -/
theorem unaware {n : Nat} {names : List String}
    (here : s.scheduler.watchers.all[n]? = some ⟨true, true, names, false⟩) :
    ¬ s.scheduler.watchers.Wakes n := by
  rw [Watchers.wakes_iff]
  rintro ⟨x, there, -, unseen | unregistered⟩
  · obtain rfl := Option.some.inj (here.symm.trans there)
    cases unseen
  · obtain rfl := Option.some.inj (here.symm.trans there)
    cases unregistered

theorem reachable_served : Reachable depot {}
    { scheduler := { queue := stock .running 1 .done 1 .done 1 }, runs := [⟨"app", .working []⟩] } := by
  have asked : Reachable depot {} _ := .next .start (.caller (.enqueue "app" false rfl))
  -- Two turns take the needs in, the third launches the disk.
  have begun : Reachable depot {}
      { scheduler := { queue := stock .waiting 0 .waiting 0 .running 1 }
        runs := [serving "disk" "disk.0"] } :=
    (asked.next (.caller (.signal [] rfl))).turned.turned.turned
  have mounted : Reachable depot {}
      { scheduler := { queue := stock .waiting 0 .running 1 .done 1 }
        runs := [⟨"db", .working []⟩] } :=
    (begun.ended rfl (serve_succeeds _)).turned
  exact (mounted.ended rfl (.single (.finish rfl))).turned

/-- The application runs. Somebody who waits for it has looked, in vain, and sleeps. -/
def awaited : Traffic where
  scheduler :=
    { queue := stock .running 1 .done 1 .done 1
      watchers := { all := [⟨true, true, ["app"], false⟩] } }
  runs := [⟨"app", .working []⟩]
  waiters := [⟨0, some "app", .asleep⟩]

theorem reachable_awaited : Reachable depot {} awaited := by
  have subscribed := reachable_served.next (.waiter (.subscribe (some "app")))
  have told : Reachable depot {}
      { awaited with
        scheduler := { awaited.scheduler with watchers := { all := [⟨true, true, ["app"], true⟩] } } } :=
    (subscribed.next (.waiter (.signal [] rfl))).turned
  refine told.looked [] rfl rfl ?_
  rw [isDrained, Bool.not_eq_true', Bool.not_eq_false, Queue.closurePending_iff]
  exact ⟨rfl, "app", _, .refl, rfl, rfl⟩

/-- The application has ended, and its trigger is due. -/
theorem roused_when_drained_depot :
    ∃ s w, Reachable depot {} s ∧ w ∈ s.waiters ∧ w.watch = .asleep ∧
      ¬ s.scheduler.watchers.Wakes w.watcher ∧ s.Roused w.watcher ∧
      ∃ s', ReflTransGen (Onward depot) s s' ∧ s'.scheduler.watchers.Wakes w.watcher := by
  have through := reachable_awaited.next (.run (.proceed [] rfl (.finish rfl)))
  have ended := through.next (.run (.finish [] rfl))
  have drained : isDrained (stock .done 1 .done 1 .done 1) (some "app") = true :=
    drained_of_none rfl _
  obtain ⟨roused, -, wakes⟩ := roused_when_drained ended (.head _) rfl drained
  have roused := roused.resolve_right fun ⟨_, _, _, busy⟩ => busy rfl
  exact ⟨_, _, ended, .head _, rfl, unaware rfl, roused, wakes roused⟩

/-- The application has ended. Its database is asked for again and waits for the disk, which has
failed since. Somebody who waits for the application has looked, in vain, and sleeps. -/
def stuck : Traffic where
  scheduler :=
    { queue := stock .done 1 .waiting 1 .error 2
      watchers := { all := [⟨true, true, ["db"], false⟩] } }
  waiters := [⟨0, some "app", .asleep⟩]

theorem reachable_stuck : Reachable depot {} stuck := by
  have ended : Reachable depot {} { scheduler := { queue := stock .done 1 .done 1 .done 1 } } :=
    (reachable_served.ended rfl (.single (.finish rfl))).turned
  have again : Reachable depot {}
      { scheduler := { queue := stock .done 1 .done 1 .running 2 }
        runs := [serving "disk" "disk.0"] } :=
    ((ended.next (.caller (.enqueue "disk" false rfl))).next (.caller (.signal [] rfl))).turned
  have failed : Reachable depot {} { scheduler := { queue := stock .done 1 .done 1 .error 2 } } :=
    (again.ended rfl (serve_fails _)).turned
  have waiting : Reachable depot {} { scheduler := { queue := stock .done 1 .waiting 1 .error 2 } } :=
    ((failed.next (.caller (.enqueue "db" false rfl))).next (.caller (.signal [] rfl))).turned
  have subscribed := waiting.next (.waiter (.subscribe (some "app")))
  have told : Reachable depot {}
      { stuck with
        scheduler := { stuck.scheduler with watchers := { all := [⟨true, true, ["db"], true⟩] } } } :=
    (subscribed.next (.waiter (.signal [] rfl))).turned
  refine told.looked [] rfl rfl ?_
  rw [isDrained, Bool.not_eq_true', Bool.not_eq_false, Queue.closurePending_iff]
  exact ⟨rfl, "db", _, .single ⟨.head _, rfl⟩, rfl, rfl⟩

/-- The application is evicted. Whoever waits for it has what it waits for, and nobody tells, now or
later: nothing goes on by itself any more. -/
theorem evicted_unroused :
    depot.Validated ∧ ∃ s w, Reachable depot {} s ∧ w ∈ s.waiters ∧ w.watch = .asleep ∧
      isDrained s.scheduler.queue w.target = true ∧ ¬ s.Roused w.watcher ∧ s.runs = [] ∧
      ∀ s', ReflTransGen (Onward depot) s s' → s' = s := by
  have evicted := reachable_stuck.next (.caller .evict)
  have quiet : ¬ Astir { stuck with scheduler := stuck.scheduler.evict.1 } := by
    intro astir
    cases astir with
    | sent some => exact some rfl
    | due mem => cases mem
    | handedOver mem => cases mem
    | taken busy => exact busy rfl
  refine ⟨depot_validated, _, _, evicted, .head _, rfl, drained_of_untracked rfl, ?_, rfl, ?_⟩
  · rintro (wakes | ⟨-, astir⟩)
    · exact unaware rfl wakes
    · exact quiet astir
  · intro s' onward
    induction onward with
    | refl => rfl
    | tail _ onward ih =>
      subst ih
      exact onward.still quiet rfl

end Traffic

end Supervisor
