import Supervisor.Proofs.Scheduler.Effects

/-!
# Each waiter has a watcher of its own

A watcher's number is given once and is never taken back, so no two of those who wait for a queue
listen to one watcher. Until the loop has ended each of them is told of changes, and after it that
nothing more will come.
-/

namespace Supervisor.Traffic

variable {m : Manifest} {s s' : Traffic} {first : Record}

/-- The watchers of those who wait are all different, and the next one is new. -/
structure Numbered (s : Traffic) : Prop where
  distinct : (s.waiters.map Waiter.watcher).Nodup
  given : ∀ n ∈ s.waiters.map Waiter.watcher, n < s.scheduler.watchers.nextId

theorem Numbered.sublist (numbered : s.Numbered)
    (fewer : (s'.waiters.map Waiter.watcher).Sublist (s.waiters.map Waiter.watcher))
    (next : s'.scheduler.watchers.nextId = s.scheduler.watchers.nextId) : s'.Numbered := by
  refine ⟨numbered.distinct.sublist fewer, fun n mem => ?_⟩
  rw [next]
  exact numbered.given n (fewer.subset mem)

theorem Numbered.subscribed (numbered : s.Numbered) (target : Option String) (watch : Watch) :
    Numbered
      { s with
        scheduler := s.scheduler.subscribe.1
        waiters := s.waiters ++ [⟨s.scheduler.subscribe.2, target, watch⟩] } := by
  have next : s.scheduler.subscribe.1.watchers.nextId = s.scheduler.watchers.nextId + 1 :=
    List.length_append
  refine ⟨?_, ?_⟩
  · rw [List.map_append, List.nodup_append]
    refine ⟨numbered.distinct, List.nodup_cons.2 ⟨List.not_mem_nil, List.nodup_nil⟩, ?_⟩
    intro n old n' new
    have here : n' = s.scheduler.watchers.nextId := List.mem_singleton.1 new
    have there := numbered.given n old
    omega
  · intro n mem
    rw [List.map_append, List.mem_append] at mem
    rw [next]
    rcases mem with old | new
    · exact Nat.lt_succ_of_lt (numbered.given n old)
    · have here : n = s.scheduler.watchers.nextId := List.mem_singleton.1 new
      omega

/-- The watchers do not change with what somebody waits for. -/
theorem watchers_replace {before after : List Waiter} {watcher : Nat} {target : Option String}
    {watch : Watch} (here : s.waiters = before ++ ⟨watcher, target, watch⟩ :: after) (next : Watch) :
    (before ++ ⟨watcher, target, next⟩ :: after).map Waiter.watcher =
      s.waiters.map Waiter.watcher := by
  rw [here, List.map_append, List.map_append]
  rfl

theorem watchers_remove {before after : List Waiter} {w : Waiter}
    (here : s.waiters = before ++ w :: after) :
    ((before ++ after).map Waiter.watcher).Sublist (s.waiters.map Waiter.watcher) := by
  rw [here]
  exact ((List.sublist_cons_self w after).append_left before).map _

theorem WaiterTurn.numbered (turn : WaiterTurn s s') (numbered : s.Numbered) : s'.Numbered := by
  cases turn with
  | subscribe target => exact numbered.subscribed target _
  | signal before here =>
    refine numbered.sublist (watchers_replace here _ ▸ List.Sublist.refl _) ?_
    exact congrArg Watchers.nextId (Scheduler.signal_watchers ..)
  | wake before here told | closed before here told =>
    exact numbered.sublist (watchers_replace here _ ▸ List.Sublist.refl _) (Watchers.nextId_poll told)
  | look before here => exact numbered.sublist (watchers_replace here _ ▸ List.Sublist.refl _) rfl
  | leave before here | giveUp before here =>
    exact numbered.sublist (watchers_remove here) (Watchers.nextId_update ..)

theorem LoopTurn.numbered (turn : LoopTurn m s s') (numbered : s.Numbered) : s'.Numbered := by
  cases turn with
  | take => exact numbered.sublist (.refl _) (congrArg Watchers.nextId (Scheduler.take_watchers _))
  | scan => exact numbered.sublist (.refl _) (congrArg Watchers.nextId (Scheduler.scan_watchers ..))
  | read => exact numbered.sublist (.refl _) (congrArg Watchers.nextId (Scheduler.read_watchers _))
  | report => exact numbered.sublist (.refl _) (Scheduler.report_nextId _)
  | close => exact numbered.sublist (.refl _) (Scheduler.close_nextId _)

theorem Apart.numbered (apart : Apart s s') (numbered : s.Numbered) : s'.Numbered :=
  numbered.sublist (apart.waiters ▸ .refl _) (congrArg Watchers.nextId apart.watchers)

theorem Step.numbered (h : Step m s s') (numbered : s.Numbered) : s'.Numbered := by
  cases h with
  | waiter turn => exact turn.numbered numbered
  | loop turn => exact turn.numbered numbered
  | caller turn => exact turn.apart.numbered numbered
  | run turn => exact turn.apart.numbered numbered

theorem Reachable.numbered (h : Reachable m first s) : s.Numbered := by
  induction h with
  | start => exact ⟨List.nodup_nil, fun _ mem => by cases mem⟩
  | next _ step ih => exact step.numbered ih

/-! ## Whoever waits is told -/

/-- Whoever waits listens, and is registered until the loop has ended. -/
structure Attached (s : Traffic) : Prop where
  heard : ∀ n ∈ s.waiters.map Waiter.watcher, ∃ x, s.scheduler.watchers.all[n]? = some x ∧
    x.listening = true ∧ x.registered = !s.scheduler.watchers.closed
  closed : s.scheduler.watchers.closed = true ↔ s.scheduler.loop = .stopped

theorem Attached.same (attached : s.Attached)
    (fewer : ∀ n ∈ s'.waiters.map Waiter.watcher, n ∈ s.waiters.map Waiter.watcher)
    (watchers : s'.scheduler.watchers = s.scheduler.watchers)
    (loop : s'.scheduler.loop = .stopped ↔ s.scheduler.loop = .stopped) : s'.Attached := by
  refine ⟨fun n mem => ?_, ?_⟩
  · rw [watchers]
    exact attached.heard n (fewer n mem)
  · rw [watchers, loop]
    exact attached.closed

/-- One watcher may change as long as it stays told, or nobody listens to it any more. -/
theorem Attached.update {id : Nat} {change : Watcher → Watcher} (attached : s.Attached)
    (fewer : ∀ n ∈ s'.waiters.map Waiter.watcher, n ∈ s.waiters.map Waiter.watcher)
    (still : id ∈ s'.waiters.map Waiter.watcher →
      ∀ x, (change x).listening = x.listening ∧ (change x).registered = x.registered)
    (watchers : s'.scheduler.watchers = s.scheduler.watchers.update id change)
    (loop : s'.scheduler.loop = s.scheduler.loop) : s'.Attached := by
  refine ⟨fun n mem => ?_, ?_⟩
  · obtain ⟨x, here, listens, registered⟩ := attached.heard n (fewer n mem)
    rw [watchers, Watchers.getElem?_update, here]
    by_cases same : n = id
    · subst same
      obtain ⟨listening, told⟩ := still mem x
      rw [if_pos rfl]
      exact ⟨_, rfl, listening.trans listens, told.trans registered⟩
    · rw [if_neg same]
      exact ⟨x, rfl, listens, registered⟩
  · rw [watchers, loop]
    exact attached.closed

theorem Attached.poll {id : Nat} {look : Watchers.Look} (attached : s.Attached)
    (fewer : ∀ n ∈ s'.waiters.map Waiter.watcher, n ∈ s.waiters.map Waiter.watcher)
    (told : s.scheduler.watchers.poll id = (s'.scheduler.watchers, look))
    (loop : s'.scheduler.loop = s.scheduler.loop) : s'.Attached := by
  rcases Watchers.poll_cases told with same | seen
  · exact attached.same fewer same (by rw [loop])
  · refine attached.update fewer ?_ seen loop
    exact fun _ _ => ⟨rfl, rfl⟩

theorem Attached.subscribed (attached : s.Attached) (target : Option String) (watch : Watch) :
    Attached
      { s with
        scheduler := s.scheduler.subscribe.1
        waiters := s.waiters ++ [⟨s.scheduler.subscribe.2, target, watch⟩] } := by
  refine ⟨fun n mem => ?_, attached.closed⟩
  rw [List.map_append, List.mem_append] at mem
  rcases mem with old | new
  · obtain ⟨x, here, told⟩ := attached.heard n old
    exact ⟨x, Watchers.getElem?_subscribe here, told⟩
  · obtain rfl : n = s.scheduler.watchers.nextId := List.mem_singleton.1 new
    exact ⟨_, Watchers.getElem?_subscribe_self _, rfl, rfl⟩

theorem Numbered.left {before after : List Waiter} {w : Waiter} (numbered : s.Numbered)
    (here : s.waiters = before ++ w :: after) :
    w.watcher ∉ (before ++ after).map Waiter.watcher := by
  have distinct := numbered.distinct
  rw [here, List.map_append, List.map_cons, List.perm_middle.nodup_iff, List.nodup_cons,
    ← List.map_append] at distinct
  exact distinct.1

theorem WaiterTurn.attached (turn : WaiterTurn s s') (numbered : s.Numbered)
    (attached : s.Attached) : s'.Attached := by
  cases turn with
  | subscribe target => exact attached.subscribed target _
  | signal before here =>
    refine attached.same (fun n mem => watchers_replace here _ ▸ mem)
      (Scheduler.signal_watchers ..) ?_
    show (s.scheduler.signal _).loop = _ ↔ _
    rw [Scheduler.signal_loop]
  | wake before here told | closed before here told =>
    exact attached.poll (fun n mem => watchers_replace here _ ▸ mem) told rfl
  | look before here => exact attached.same (fun n mem => watchers_replace here _ ▸ mem) rfl .rfl
  | leave before here | giveUp before here =>
    refine attached.update (fun n mem => (watchers_remove here).subset mem) (fun mem => ?_) rfl rfl
    exact absurd mem (numbered.left here)

theorem LoopTurn.attached (turn : LoopTurn m s s') (attached : s.Attached) : s'.Attached := by
  cases turn with
  | take =>
    exact attached.same (fun _ mem => mem) (Scheduler.take_watchers _) (Scheduler.take_stopped _)
  | scan =>
    exact attached.same (fun _ mem => mem) (Scheduler.scan_watchers ..) (Scheduler.scan_stopped ..)
  | read =>
    exact attached.same (fun _ mem => mem) (Scheduler.read_watchers _) (Scheduler.read_stopped _)
  | report =>
    rcases s.scheduler.report_cases with ⟨pending, reporting, loop, watchers⟩ | same
    · refine ⟨fun n mem => ?_, ?_⟩
      · obtain ⟨x, here, listens, registered⟩ := attached.heard n mem
        obtain ⟨x', here', listens', registered', -⟩ := Watchers.getElem?_broadcast here pending
        rw [watchers]
        exact ⟨x', here', listens'.trans listens, registered'.trans registered⟩
      · rw [watchers, loop]
        refine (iff_of_false (fun closed => ?_) Loop.noConfusion)
        have stopped := attached.closed.1 closed
        rw [reporting] at stopped
        cases stopped
    · exact attached.same (fun _ mem => mem) (congrArg Scheduler.watchers same) (by rw [same])
  | close =>
    rcases s.scheduler.close_cases with ⟨-, loop, watchers⟩ | same
    · refine ⟨fun n mem => ?_, ?_⟩
      · obtain ⟨x, here, listens, -⟩ := attached.heard n mem
        rw [watchers]
        exact ⟨_, List.getElem?_map.trans (congrArg _ here), listens, rfl⟩
      · rw [watchers, loop]
        exact iff_of_true rfl rfl
    · exact attached.same (fun _ mem => mem) (congrArg Scheduler.watchers same) (by rw [same])

theorem Apart.attached (apart : Apart s s') (attached : s.Attached) : s'.Attached :=
  attached.same (fun _ mem => apart.waiters ▸ mem) apart.watchers (by rw [apart.loop])

theorem Step.attached (h : Step m s s') (numbered : s.Numbered) (attached : s.Attached) :
    s'.Attached := by
  cases h with
  | waiter turn => exact turn.attached numbered attached
  | loop turn => exact turn.attached attached
  | caller turn => exact turn.apart.attached attached
  | run turn => exact turn.apart.attached attached

theorem Reachable.attached (h : Reachable m first s) : s.Attached := by
  induction h with
  | start => exact ⟨fun _ mem => (by cases mem), iff_of_false Bool.noConfusion Loop.noConfusion⟩
  | next earlier step ih => exact step.attached earlier.numbered ih

/-- Once the loop has ended, everybody who waits is told. -/
theorem Attached.wakes_of_stopped (attached : s.Attached) (stopped : s.scheduler.loop = .stopped)
    {w : Waiter} (mem : w ∈ s.waiters) : s.scheduler.watchers.Wakes w.watcher := by
  obtain ⟨x, here, listens, registered⟩ := attached.heard _ (List.mem_map_of_mem mem)
  rw [attached.closed.2 stopped] at registered
  exact Watchers.wakes_iff.2 ⟨x, here, listens, .inr registered⟩

/-- Until then a report reaches everybody who waits. -/
theorem Attached.wakes_of_broadcast (attached : s.Attached) (alive : s.scheduler.loop ≠ .stopped)
    {w : Waiter} (mem : w ∈ s.waiters) (pending : List String) :
    (s.scheduler.watchers.broadcast pending).Wakes w.watcher := by
  obtain ⟨x, here, listens, registered⟩ := attached.heard _ (List.mem_map_of_mem mem)
  obtain ⟨x', here', listens', -, told⟩ := Watchers.getElem?_broadcast here pending
  have isOpen : s.scheduler.watchers.closed = false := by
    rw [← Bool.not_eq_true, attached.closed]
    exact alive
  rw [isOpen] at registered
  exact Watchers.wakes_iff.2 ⟨x', here', listens'.trans listens, .inl (told registered)⟩

end Supervisor.Traffic
