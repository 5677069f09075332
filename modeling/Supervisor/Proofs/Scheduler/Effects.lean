import Supervisor.Proofs.Queue.Effects
import Supervisor.Proofs.Scheduler.Traffic

/-!
# What the turns do to a scheduler

For each function of a scheduler, what it leaves of the queue, the loop, the triggers and the numbers
of watchers. `Quiet` gathers what the turns of those have in common who only watch.
-/

namespace Supervisor

namespace Watchers

@[simp] theorem nextId_update (w : Watchers) (id : Nat) (change : Watcher → Watcher) :
    (w.update id change).nextId = w.nextId := List.length_modify ..

/-- Looking changes nothing but that a list has been seen. -/
theorem poll_cases {w w' : Watchers} {id : Nat} {look : Look} (told : w.poll id = (w', look)) :
    w' = w ∨ w' = w.update id fun x => { x with unseen := false } := by
  unfold poll at told
  split at told
  · exact .inl (Prod.mk.inj told).1.symm
  · split at told
    · exact .inr (Prod.mk.inj told).1.symm
    · split at told
      · exact .inl (Prod.mk.inj told).1.symm
      · exact .inl (Prod.mk.inj told).1.symm

theorem nextId_poll {w w' : Watchers} {id : Nat} {look : Look} (told : w.poll id = (w', look)) :
    w'.nextId = w.nextId := by
  rcases poll_cases told with rfl | rfl
  · rfl
  · exact nextId_update ..

/-- Only who is not registered is told of the end. -/
theorem unregistered_of_closed {w w' : Watchers} {id : Nat} {names : List String}
    (told : w.poll id = (w', .closed names)) : ∃ x, w.all[id]? = some x ∧ x.registered = false := by
  unfold poll at told
  split at told
  · cases told
  · rename_i x heard
    split at told
    · cases told
    · split at told
      · cases told
      · rename_i unregistered
        rw [listener?, Option.filter_eq_some_iff] at heard
        exact ⟨x, heard.1, Bool.eq_false_iff.2 unregistered⟩

theorem getElem?_update (w : Watchers) (id : Nat) (change : Watcher → Watcher) (n : Nat) :
    (w.update id change).all[n]? = if n = id then (w.all[n]?).map change else w.all[n]? := by
  rw [update, List.getElem?_modify]
  by_cases same : n = id
  · simp [same]
  · simp [same, Ne.symm same]

theorem getElem?_subscribe {w : Watchers} {n : Nat} {x : Watcher} (here : w.all[n]? = some x) :
    w.subscribe.all[n]? = some x := by
  rw [subscribe, List.getElem?_append_left (List.getElem?_eq_some_iff.1 here).1, here]

theorem getElem?_subscribe_self (w : Watchers) :
    w.subscribe.all[w.nextId]? = some ⟨!w.closed, true, [], false⟩ := List.getElem?_concat_length

/-- Whoever is registered has something new to see. -/
theorem getElem?_broadcast {w : Watchers} {n : Nat} {x : Watcher} (here : w.all[n]? = some x)
    (names : List String) :
    ∃ x', (w.broadcast names).all[n]? = some x' ∧ x'.listening = x.listening ∧
      x'.registered = x.registered ∧ (x.registered = true → x'.unseen = true) := by
  obtain ⟨registered, listening, latest, unseen⟩ := x
  refine ⟨_, List.getElem?_map.trans (congrArg _ here), ?_⟩
  cases registered with
  | true => exact ⟨rfl, rfl, fun _ => rfl⟩
  | false => exact ⟨rfl, rfl, fun told => Bool.noConfusion told⟩

/-- Who looks now is told something, of a change or of the end. -/
def Wakes (w : Watchers) (id : Nat) : Prop :=
  ∃ w' names, w.poll id = (w', .changed names) ∨ w.poll id = (w', .closed names)

theorem wakes_iff {w : Watchers} {id : Nat} : w.Wakes id ↔
    ∃ x, w.all[id]? = some x ∧ x.listening = true ∧ (x.unseen = true ∨ x.registered = false) := by
  unfold Wakes poll listener?
  cases w.all[id]? with
  | none => simp
  | some x =>
    obtain ⟨registered, listening, latest, unseen⟩ := x
    cases listening <;> cases unseen <;> cases registered <;> simp [Option.filter]

/-- What one watcher is told depends on no other. -/
theorem Wakes.of_eq {w w' : Watchers} {id : Nat} (wakes : w.Wakes id)
    (same : w'.all[id]? = w.all[id]?) : w'.Wakes id := by
  rw [wakes_iff, same]
  exact wakes_iff.1 wakes

end Watchers

namespace Scheduler

variable {m : Manifest} {s s' : Scheduler}

/-! ## Queue and triggers -/

@[simp] theorem signal_queue (s : Scheduler) (t : Trigger) : (s.signal t).queue = s.queue := by
  unfold signal
  split <;> rfl

@[simp] theorem signal_loop (s : Scheduler) (t : Trigger) : (s.signal t).loop = s.loop := by
  unfold signal
  split <;> rfl

/-- A trigger arrives unless the loop has ended, and drives out no other. -/
theorem signal_triggers (s : Scheduler) (t : Trigger) (alive : s.loop ≠ .stopped) :
    (s.signal t).triggers = s.triggers ++ [t] := by
  rw [signal, if_neg alive]

theorem triggers_signal (s : Scheduler) (t : Trigger) : s.triggers <+: (s.signal t).triggers := by
  unfold signal
  split
  · exact List.prefix_rfl
  · exact List.prefix_append ..

theorem accept_eq_ok {name : String} {persist : Bool} {write : Option StatusWrite}
    (h : s.accept m name persist = .ok (s', write)) :
    ∃ queue, s.queue.enqueue m name persist = .ok (queue, write) ∧ s' = { s with queue } := by
  unfold accept at h
  cases hq : s.queue.enqueue m name persist with
  | error fault =>
    rw [hq] at h
    cases h
  | ok answer =>
    rw [hq] at h
    cases h
    exact ⟨answer.1, rfl, rfl⟩

theorem accept_eq_error {name : String} {persist : Bool} {fault : Fault}
    (h : s.accept m name persist = .error fault) : s.queue.enqueue m name persist = .error fault := by
  unfold accept at h
  cases hq : s.queue.enqueue m name persist with
  | error cause =>
    rw [hq] at h
    cases h
    rfl
  | ok answer =>
    rw [hq] at h
    cases h

@[simp] theorem take_queue (s : Scheduler) : s.take.queue = s.queue := by
  unfold take
  split <;> rfl

@[simp] theorem read_queue (s : Scheduler) : s.read.queue = s.queue := by
  unfold read
  split <;> rfl

@[simp] theorem report_queue (s : Scheduler) : s.report.queue = s.queue := by
  unfold report
  split <;> rfl

@[simp] theorem close_queue (s : Scheduler) : s.close.queue = s.queue := by
  unfold close
  split <;> rfl

@[simp] theorem read_triggers (s : Scheduler) : s.read.triggers = s.triggers := by
  unfold read
  split <;> rfl

@[simp] theorem report_triggers (s : Scheduler) : s.report.triggers = s.triggers := by
  unfold report
  split <;> rfl

@[simp] theorem close_triggers (s : Scheduler) : s.close.triggers = s.triggers := by
  unfold close
  split <;> rfl

/-! ## Watchers -/

@[simp] theorem signal_watchers (s : Scheduler) (t : Trigger) : (s.signal t).watchers = s.watchers := by
  unfold signal
  split <;> rfl

@[simp] theorem take_watchers (s : Scheduler) : s.take.watchers = s.watchers := by
  unfold take
  split <;> rfl

@[simp] theorem scan_watchers (s : Scheduler) (m : Manifest) :
    (s.scan m).1.watchers = s.watchers := by
  unfold scan
  split <;> rfl

@[simp] theorem read_watchers (s : Scheduler) : s.read.watchers = s.watchers := by
  unfold read
  split <;> rfl

@[simp] theorem report_nextId (s : Scheduler) : s.report.watchers.nextId = s.watchers.nextId := by
  unfold report
  split
  · exact List.length_map ..
  · rfl

@[simp] theorem close_nextId (s : Scheduler) : s.close.watchers.nextId = s.watchers.nextId := by
  unfold close
  split
  · exact List.length_map ..
  · rfl

/-! ## The loop -/

/-- What a scan of the loop does: where the loop has not been woken, nothing. -/
theorem scan_cases (s : Scheduler) (m : Manifest) :
    (s.loop = .woken ∧ (s.scan m).1.queue = (s.queue.scan m).1 ∧
      (s.scan m).2 = (s.queue.scan m).2 ∧ (s.scan m).1.loop = .scanned ∧
      (s.scan m).1.triggers = s.triggers ++ (s.queue.scan m).2.discovered.map .enqueued) ∨
    (s.loop ≠ .woken ∧ s.scan m = (s, {})) := by
  unfold scan
  split
  · rename_i woken
    exact .inl ⟨woken, rfl, rfl, rfl, rfl⟩
  · rename_i asleep
    exact .inr ⟨asleep, rfl⟩

/-- A trigger that is taken wakes the loop or is the last. -/
theorem take_cases (s : Scheduler) : s.take = s ∨ s.take.loop = .closing ∨ s.take.loop = .woken := by
  unfold take
  split
  · exact .inr (.inl rfl)
  · exact .inr (.inr rfl)
  · exact .inl rfl

theorem report_cases (s : Scheduler) :
    (∃ pending, s.loop = .reporting pending ∧ s.report.loop = .idle ∧
      s.report.watchers = s.watchers.broadcast pending) ∨ s.report = s := by
  unfold report
  split
  · exact .inl ⟨_, ‹_›, rfl, rfl⟩
  · exact .inr rfl

theorem close_cases (s : Scheduler) :
    (s.loop = .closing ∧ s.close.loop = .stopped ∧ s.close.watchers = s.watchers.closeAll) ∨
      s.close = s := by
  unfold close
  split
  · exact .inl ⟨‹_›, rfl, rfl⟩
  · exact .inr rfl

theorem isAwake_iff (s : Scheduler) :
    s.isAwake = true ↔ s.loop ≠ .stopped ∧ (s.loop = .idle → s.triggers ≠ []) := by
  unfold isAwake
  split <;> simp_all

/-- All that an awake loop does for one trigger ends with a report, or with the end of the loop. -/
theorem turn_tells (s : Scheduler) (m : Manifest) (awake : s.isAwake = true) :
    (∃ pending, (s.turn m).1.watchers = s.watchers.broadcast pending) ∨
      (s.turn m).1.loop = .stopped := by
  rw [isAwake_iff] at awake
  obtain ⟨alive, more⟩ := awake
  cases hl : s.loop with
  | idle =>
    cases ht : s.triggers with
    | nil => exact absurd ht (more hl)
    | cons t rest =>
      cases t with
      | shutdown => exact .inr (by simp [turn, take, scan, read, report, close, hl, ht])
      | enqueued | completed | drain =>
        refine .inl ⟨(s.queue.scan m).1.pending, ?_⟩
        simp [turn, take, scan, read, report, close, hl, ht]
  | woken =>
    refine .inl ⟨(s.queue.scan m).1.pending, ?_⟩
    simp [turn, take, scan, read, report, close, hl]
  | scanned => exact .inl ⟨s.queue.pending, by simp [turn, take, scan, read, report, close, hl]⟩
  | reporting pending => exact .inl ⟨pending, by simp [turn, take, scan, read, report, close, hl]⟩
  | closing => exact .inr (by simp [turn, take, scan, read, report, close, hl])
  | stopped => exact absurd hl alive

/-- Nothing but a scan puts the loop to sleep once it is woken. -/
theorem woken_stays (woken : s.loop = .woken) : s.read = s ∧ s.report = s ∧ s.close = s := by
  simp [read, report, close, woken]

@[simp] theorem take_stopped (s : Scheduler) : s.take.loop = .stopped ↔ s.loop = .stopped := by
  unfold take
  split <;> simp_all

@[simp] theorem scan_stopped (s : Scheduler) (m : Manifest) :
    (s.scan m).1.loop = .stopped ↔ s.loop = .stopped := by
  unfold scan
  split <;> simp_all

@[simp] theorem read_stopped (s : Scheduler) : s.read.loop = .stopped ↔ s.loop = .stopped := by
  unfold read
  split <;> simp_all

@[simp] theorem report_stopped (s : Scheduler) : s.report.loop = .stopped ↔ s.loop = .stopped := by
  unfold report
  split <;> simp_all

end Scheduler

/-- The loop has taken the last trigger. -/
def Loop.isShut : Loop → Bool
  | closing | stopped => true
  | idle | woken | scanned | reporting _ => false

namespace Scheduler

variable {m : Manifest} {s : Scheduler}

/-- After the last trigger the loop only ends. -/
theorem shut_stays (shut : s.loop.isShut = true) :
    s.take = s ∧ s.scan m = (s, {}) ∧ s.read = s ∧ s.report = s ∧ s.close.loop.isShut = true := by
  cases hl : s.loop with
  | closing => simp [take, scan, read, report, close, hl, Loop.isShut]
  | stopped => simp [take, scan, read, report, close, hl, Loop.isShut]
  | idle | woken | scanned | reporting =>
    rw [hl] at shut
    cases shut

end Scheduler

namespace Traffic

variable {m : Manifest} {s s' : Traffic}

theorem mem_middle {α : Type} {a b : α} {before after : List α} :
    a ∈ before ++ b :: after ↔ a = b ∨ a ∈ before ++ after :=
  List.perm_middle.mem_iff.trans List.mem_cons

theorem countP_middle {α : Type} (P : α → Bool) (before after : List α) (a : α) :
    (before ++ a :: after).countP P = (before ++ after).countP P + if P a then 1 else 0 := by
  rw [List.countP_append, List.countP_append, List.countP_cons]
  omega

/-- Nothing has changed but what watchers know, and triggers may have been sent. -/
structure Quiet (s s' : Traffic) : Prop where
  queue : s'.scheduler.queue = s.scheduler.queue
  loop : s'.scheduler.loop = s.scheduler.loop
  triggers : s.scheduler.triggers <+: s'.scheduler.triggers
  calls : s'.calls = s.calls
  runs : s'.runs = s.runs

theorem WaiterTurn.quiet (turn : WaiterTurn s s') : Quiet s s' := by
  cases turn with
  | signal =>
    exact ⟨Scheduler.signal_queue .., Scheduler.signal_loop .., Scheduler.triggers_signal .., rfl, rfl⟩
  | subscribe | wake | closed | look | leave | giveUp =>
    exact ⟨rfl, rfl, List.prefix_rfl, rfl, rfl⟩

/-- Neither the loop nor anybody who waits has taken part. -/
structure Apart (s s' : Traffic) : Prop where
  loop : s'.scheduler.loop = s.scheduler.loop
  watchers : s'.scheduler.watchers = s.scheduler.watchers
  waiters : s'.waiters = s.waiters

theorem CallerTurn.apart (turn : CallerTurn m s s') : Apart s s' := by
  cases turn with
  | enqueue _ _ granted =>
    obtain ⟨queue, -, rfl⟩ := Scheduler.accept_eq_ok granted
    exact ⟨rfl, rfl, rfl⟩
  | signal | shutdown => exact ⟨Scheduler.signal_loop .., Scheduler.signal_watchers .., rfl⟩
  | evict => exact ⟨rfl, rfl, rfl⟩

theorem RunTurn.apart (turn : RunTurn m s s') : Apart s s' := by
  cases turn with
  | handOver _ _ _ _ granted =>
    obtain ⟨queue, -, rfl⟩ := Scheduler.accept_eq_ok granted
    exact ⟨rfl, rfl, rfl⟩
  | announce => exact ⟨Scheduler.signal_loop .., Scheduler.signal_watchers .., rfl⟩
  | proceed | refused | finish => exact ⟨rfl, rfl, rfl⟩

end Traffic

end Supervisor
