import Supervisor.Proofs.Supervision.Generations

/-!
# The steps of a supervision

Each step, and whatever is asked of a supervision from outside, comes down to turns of the traffic of
one generation.
-/

namespace Supervisor.Supervision

open Traffic (Reachable)

variable {H : Type} {s s' s₀ : Supervision H} {g : Nat} {x y : Scheduler}

/-! ## From outside -/

/-- A new scheduler takes up the work of a record. -/
theorem Supervised.start (supervised : Supervised s) (store : Store) : Supervised (s.start store) := by
  have count : (s.start store).generations.length = s.generations.length + 1 := List.length_append
  refine ⟨fun t mem => ?_, fun d mem => ?_, fun g x here => ?_⟩
  · have lt := supervised.tasks t mem
    omega
  · have lt := supervised.drainers d mem
    omega
  · by_cases old : g < s.generations.length
    · refine supervised.reachable g x ?_
      rw [scheduler?, Supervision.start, List.getElem?_append_left old] at here
      exact here
    · have lt := scheduler?_lt here
      -- The new generation has no tasks and no drainers yet: all there are belong to older ones.
      obtain rfl : g = s.generations.length := by omega
      have runs : s.tasks.filterMap (runOf? s.generations.length) = [] := by
        refine List.filterMap_eq_nil_iff.2 fun t mem => if_neg ?_
        have lt := supervised.tasks t mem
        omega
      have waiters : s.drainers.filterMap (waiterOf? s.generations.length) = [] := by
        refine List.filterMap_eq_nil_iff.2 fun d mem => if_neg ?_
        have lt := supervised.drainers d mem
        omega
      rw [scheduler?, Supervision.start, List.getElem?_append_right (Nat.le_refl _),
        Nat.sub_self] at here
      obtain rfl := Option.some.inj here
      refine ⟨store.record, ?_⟩
      show Reachable s.manifest store.record
        { scheduler := _, runs := s.tasks.filterMap _, waiters := s.drainers.filterMap _ }
      rw [runs, waiters]
      exact .start

theorem Supervised.enqueue [Host H] (supervised : Supervised s) (g : Nat) (name : String)
    (persist : Bool) : Supervised (s.enqueue g name persist).1 := by
  cases here : s.scheduler? g with
  | none =>
    rw [(unasked_of_none here).2.1]
    exact supervised
  | some x =>
    cases granted : x.accept s.manifest name persist with
    | error fault =>
      rw [enqueue_refused here granted]
      exact supervised
    | ok answer =>
      refine supervised.becomes here (enqueue_granted here granted).1 fun first reachable => ?_
      have asked := reachable.next (.caller (.enqueue name persist granted))
      have told := asked.next (.caller (.signal [] rfl))
      exact told

theorem Supervised.shutdown [Host H] (supervised : Supervised s) (g : Nat) :
    Supervised (s.signal g .shutdown) := by
  cases here : s.scheduler? g with
  | none =>
    rw [(unasked_of_none here).1]
    exact supervised
  | some x =>
    refine supervised.becomes here (becomes_signal here _) fun first reachable => ?_
    exact reachable.next (.caller .shutdown)

theorem Supervised.evict (supervised : Supervised s) (here : s.scheduler? g = some x) :
    Supervised (s.updateScheduler g x.evict.1) := by
  refine supervised.becomes here (becomes_update here _) fun first reachable => ?_
  exact reachable.next (.caller .evict)

theorem Supervised.beginDrain [Host H] (supervised : Supervised s) (g : Nat) (key : String)
    (target : Option String) : Supervised (s.beginDrain g key target) := by
  cases here : s.scheduler? g with
  | none =>
    rw [(unasked_of_none here).2.2]
    exact supervised
  | some x =>
    refine supervised.change here (becomes_beginDrain here key target) rfl rfl (fun _ mem => .inl mem)
      (fun d mem => ?_) (fun i other x => ?_) fun first reachable => ?_
    · rcases List.mem_append.1 mem with old | new
      · exact .inl old
      · obtain rfl := List.mem_singleton.1 new
        exact .inr rfl
    · simp [traffic, waiterOf?, other.symm]
    · have subscribed := (reachable.next (.waiter (.subscribe target))).next (.waiter (.signal _ rfl))
      simpa [traffic, waiterOf?] using subscribed

/-! ## By itself -/

theorem Supervised.turn [Host H] (supervised : Supervised s) (here : s.scheduler? g = some x) :
    Supervised (s.turn g x) := by
  let launched : List (Task Launched) :=
    (x.turn s.manifest).2.launches.map fun l => ⟨⟨g, l.name⟩, .list l.command.procedures⟩
  have becomes :
      Becomes { s with tasks := s.tasks ++ launched } (s.turn g x) g (x.turn s.manifest).1 :=
    becomes_turn here
  refine supervised.change here becomes rfl rfl (fun t mem => ?_) (fun _ mem => .inl mem)
    (fun i other x => ?_) fun first reachable => ?_
  · rcases List.mem_append.1 mem with old | new
    · exact .inl old
    · obtain ⟨l, -, rfl⟩ := List.mem_map.1 new
      exact .inr rfl
  · have none : launched.filterMap (runOf? i) = [] := by
      refine List.filterMap_eq_nil_iff.2 fun t mem => ?_
      obtain ⟨l, -, rfl⟩ := List.mem_map.1 mem
      exact if_neg other.symm
    simp [traffic, none]
  · have begin : (runOf? g ∘ fun l : Queue.Launch => ⟨⟨g, l.name⟩, .list l.command.procedures⟩) =
        some ∘ Traffic.begin := funext fun l => if_pos rfl
    have begun : launched.filterMap (runOf? g) = (x.turn s.manifest).2.launches.map Traffic.begin := by
      rw [List.filterMap_map, begin, List.filterMap_eq_map]
    have turns := reachable.turned
    simpa [traffic, begun] using turns

theorem Supervised.stepTask [Host H] (supervised : Supervised s) (taken : s.stepTask? = some s') :
    Supervised s' := by
  obtain ⟨⟨h, tasks', request⟩, stepped, rfl⟩ := Option.map_eq_some_iff.1 taken
  obtain ⟨before, t, left, after, tasks, rfl, turned⟩ := Task.stepFirst?_eq_some stepped
  obtain ⟨x, here⟩ := scheduler?_of_lt
    (supervised.tasks t (tasks ▸ List.mem_append_right _ List.mem_cons_self))
  dsimp only at turned ⊢
  have here₀ : { s with host := h, tasks := before ++ left ++ after }.scheduler? t.owner.generation =
      some x := here
  have none_left : ∀ t' ∈ ([] : List (Task Launched)), t'.owner = t.owner := fun _ mem => by cases mem
  cases turned with
  | silent aside still =>
    refine supervised.replace tasks (fun t' mem => (still t' mem).2) here (.refl here₀) ?_
    intro first before' after' waiters reachable
    have none : runOf? t.owner.generation t = none := runOf?_eq_none fun _ => aside
    have gone : left.filterMap (runOf? t.owner.generation) = [] :=
      List.filterMap_eq_nil_iff.2 fun t' mem => runOf?_eq_none fun _ => (still t' mem).1
    rw [none] at reachable
    rw [gone]
    exact reachable
  | @onward left' work now next begun comes goes still =>
    refine supervised.carry tasks begun (fun t' mem => ?_) here (.refl here₀) ?_
    · rcases List.mem_cons.1 mem with rfl | mem
      · rfl
      · exact (still t' mem).2
    intro first before' after' waiters reachable
    have run : runOf? t.owner.generation ⟨t.owner, work⟩ = some ⟨t.owner.name, next⟩ :=
      runOf?_eq_some goes
    have gone : left'.filterMap (runOf? t.owner.generation) = [] :=
      List.filterMap_eq_nil_iff.2 fun t' mem => runOf?_eq_none fun _ => (still t' mem).1
    rw [List.filterMap_cons_some run, gone]
    exact reachable.goes rfl comes
  | @ended now result begun comes =>
    refine supervised.carry tasks begun none_left here (becomes_finish here₀ result) ?_
    intro first before' after' waiters reachable
    exact (reachable.goes rfl comes).finished rfl
  | @handedOver procedures p target begun next aim =>
    dsimp only
    cases granted : x.accept s.manifest target false with
    | error fault =>
      rw [enqueue_refused here₀ granted]
      refine supervised.carry tasks begun none_left here (becomes_finish here₀ _) ?_
      intro first before' after' waiters reachable
      have refused := reachable.next (.run (.refused before' rfl next aim granted))
      exact refused.finished rfl
    | ok answer =>
      -- The request and the end it comes to are one step here and four turns in the traffic.
      obtain ⟨asked, accepted⟩ := enqueue_granted here₀ granted
      have noted := asked.trans (becomes_finish asked.here (Executor.handedOver (.ok ())))
      rw [← accepted] at noted
      refine supervised.carry tasks begun none_left here noted ?_
      intro first before' after' waiters reachable
      have asked := reachable.next (.run (.handOver before' rfl next aim granted))
      have told := asked.next (.run (.announce before' rfl))
      rw [accepted]
      exact told.finished rfl

/-- The supervision once a drainer has left. -/
def gone (s : Supervision H) (d : Drainer) (z : Generation) (watchers : Watchers) : Supervision H :=
  { s.updateScheduler d.generation { z.scheduler with watchers := watchers.unsubscribe d.watcher } with
    drainers := s.drainers.filter (· ≠ d) }.note d.key .drained

/-- What a drainer does that has been told something: it goes on waiting, or leaves, because what it
waits for is there or because nothing more will come. -/
inductive DrainerTurn (s : Supervision H) (d : Drainer) (z : Generation) : Supervision H → Prop
  | waits {watchers : Watchers} {names : List String}
      (told : z.scheduler.watchers.poll d.watcher = (watchers, .changed names))
      (pending : ¬ Scheduler.isDrained z.scheduler.queue d.target = true) :
      DrainerTurn s d z (s.updateScheduler d.generation { z.scheduler with watchers })
  | finds {watchers : Watchers} {names : List String}
      (told : z.scheduler.watchers.poll d.watcher = (watchers, .changed names))
      (drained : Scheduler.isDrained z.scheduler.queue d.target = true) :
      DrainerTurn s d z (s.gone d z watchers)
  | closed {watchers : Watchers} {names : List String}
      (told : z.scheduler.watchers.poll d.watcher = (watchers, .closed names)) :
      DrainerTurn s d z (s.gone d z watchers)

theorem drainerTurn {d : Drainer} {z : Generation} (taken : s.stepDrainer d z = some s') :
    DrainerTurn s d z s' := by
  unfold Supervision.stepDrainer at taken
  cases told : z.scheduler.watchers.poll d.watcher with
  | mk watchers look =>
    rw [told] at taken
    cases look with
    | changed names =>
      dsimp only at taken
      split at taken
      · obtain rfl := Option.some.inj taken
        exact .finds told ‹_›
      · obtain rfl := Option.some.inj taken
        exact .waits told ‹_›
    | closed names =>
      obtain rfl := Option.some.inj taken
      exact .closed told
    | unchanged | nobody => cases taken

section Drainer

variable {before after : List Drainer} {d : Drainer} {z : Generation}

theorem waiters_of_drainer (split : s.drainers = before ++ d :: after) :
    s.drainers.filterMap (waiterOf? d.generation) =
      before.filterMap (waiterOf? d.generation) ++
        ⟨d.watcher, d.target, .asleep⟩ :: after.filterMap (waiterOf? d.generation) := by
  have waiter : waiterOf? d.generation d = some ⟨d.watcher, d.target, .asleep⟩ := if_pos rfl
  rw [split, List.filterMap_append, List.filterMap_cons_some waiter]

/-- Nobody else listens to a drainer's watcher, so the list holds it once. -/
theorem Supervised.drainer_once (supervised : Supervised s)
    (split : s.drainers = before ++ d :: after) :
    s.drainers.filter (· ≠ d) = before ++ after := by
  obtain ⟨x, here⟩ := scheduler?_of_lt
    (supervised.drainers d (split ▸ List.mem_append_right _ List.mem_cons_self))
  obtain ⟨first, reachable⟩ := supervised.reachable _ _ here
  have distinct := reachable.numbered.distinct
  rw [traffic, waiters_of_drainer split, List.map_append, List.map_cons,
    List.perm_middle.nodup_iff, List.nodup_cons] at distinct
  have alone : d ∉ before ++ after := by
    intro mem
    have waiter : waiterOf? d.generation d = some ⟨d.watcher, d.target, .asleep⟩ := if_pos rfl
    have again := List.mem_filterMap.2 ⟨d, mem, waiter⟩
    rw [List.filterMap_append] at again
    exact distinct.1 (List.map_append ▸ List.mem_map_of_mem again)
  have others : ∀ d' ∈ before ++ after, decide (d' ≠ d) = true := fun d' mem =>
    decide_eq_true fun same => alone (same ▸ mem)
  rw [split, List.filter_append, List.filter_cons_of_neg (by simp), ← List.filter_append,
    List.filter_eq_self.2 others]

/-- A drainer leaves, once it has been told enough. -/
theorem Supervised.leave (supervised : Supervised s) (split : s.drainers = before ++ d :: after)
    (here : s.scheduler? d.generation = some z.scheduler) {watchers : Watchers}
    (told : ∀ first before' after' runs,
      Reachable s.manifest first
        { scheduler := z.scheduler, runs
          waiters := before' ++ ⟨d.watcher, d.target, .asleep⟩ :: after' } →
      Reachable s.manifest first
        { scheduler := { z.scheduler with watchers }, runs
          waiters := before' ++ ⟨d.watcher, d.target, .leaving⟩ :: after' }) :
    Supervised (s.gone d z watchers) := by
  let y : Scheduler := { z.scheduler with watchers := watchers.unsubscribe d.watcher }
  have fewer : { s with drainers := before ++ after }.scheduler? d.generation = some z.scheduler := here
  have becomes := becomes_update fewer y
  have noted : Becomes { s with drainers := before ++ after } (s.gone d z watchers) d.generation y :=
    ⟨becomes.here, becomes.there, becomes.count, rfl, rfl, supervised.drainer_once split⟩
  refine supervised.change here noted rfl rfl (fun _ mem => .inl mem) (fun d' mem => .inl ?_)
    (fun i other x => ?_) fun first reachable => ?_
  · rw [split]
    exact (List.sublist_cons_self d after).append_left before |>.subset mem
  · have none : waiterOf? i d = none := if_neg other.symm
    simp [traffic, split, none]
  · rw [traffic, waiters_of_drainer split] at reachable
    have left := (told first _ _ _ reachable).next (.waiter (.leave _ rfl))
    rw [traffic, List.filterMap_append]
    exact left

theorem Supervised.stepDrainer (supervised : Supervised s) (mem : d ∈ s.drainers)
    (here : s.generations[d.generation]? = some z) (taken : s.stepDrainer d z = some s') :
    Supervised s' := by
  have here : s.scheduler? d.generation = some z.scheduler := scheduler?_eq_some.2 ⟨z, here, rfl⟩
  obtain ⟨before, after, split⟩ := List.append_of_mem mem
  cases drainerTurn taken with
  | waits told pending =>
    refine supervised.becomes here (becomes_update here _) fun first reachable => ?_
    rw [traffic, waiters_of_drainer split] at reachable ⊢
    have awake := reachable.next (.waiter (.wake _ rfl told))
    have looked := awake.next (.waiter (.look _ rfl))
    rw [if_neg pending] at looked
    exact looked
  | finds told drained =>
    refine supervised.leave split here fun first before' after' runs reachable => ?_
    have awake := reachable.next (.waiter (.wake before' rfl told))
    have looked := awake.next (.waiter (.look before' rfl))
    rw [if_pos drained] at looked
    exact looked
  | closed told =>
    refine supervised.leave split here fun first before' after' runs reachable => ?_
    exact reachable.next (.waiter (.closed before' rfl told))

end Drainer

end Supervisor.Supervision
