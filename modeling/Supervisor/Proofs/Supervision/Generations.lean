import Supervisor.Proofs.Scheduler.Waiters
import Supervisor.Proofs.Supervision.Tasks
import Supervisor.Supervision

/-!
# Supervision as traffic

A generation with its tasks and drainers is a scheduler among its callers. What a supervision does of
one generation comes down to turns of that generation's traffic, and is nothing to the others. So all
that holds of whatever may come of a scheduler holds of each generation.
-/

namespace Supervisor.Supervision

open Relation (ReflTransGen)
open Traffic (Reachable)

variable {H : Type} {s s' s₀ s₁ : Supervision H} {g i : Nat} {x y : Scheduler} {m : Manifest}
  {first : Record}

/-- The launch that a task of the generation carries on. -/
def runOf? (g : Nat) (t : Task Launched) : Option Traffic.Run :=
  if t.owner.generation = g then t.work.progress?.map fun progress => ⟨t.owner.name, progress⟩
  else none

def waiterOf? (g : Nat) (d : Drainer) : Option Traffic.Waiter :=
  if d.generation = g then some ⟨d.watcher, d.target, .asleep⟩ else none

def scheduler? (s : Supervision H) (g : Nat) : Option Scheduler :=
  (s.generations[g]?).map Generation.scheduler

/-- The generation's scheduler, as it is or will be, among its callers. -/
def traffic (s : Supervision H) (g : Nat) (x : Scheduler) : Traffic where
  scheduler := x
  runs := s.tasks.filterMap (runOf? g)
  waiters := s.drainers.filterMap (waiterOf? g)

theorem scheduler?_eq_some :
    s.scheduler? g = some x ↔ ∃ z, s.generations[g]? = some z ∧ z.scheduler = x :=
  Option.map_eq_some_iff

/-! ## What becomes of one generation -/

/-- Only the scheduler of one generation has changed. -/
structure Becomes (s s' : Supervision H) (g : Nat) (y : Scheduler) : Prop where
  here : s'.scheduler? g = some y
  there : ∀ i ≠ g, s'.scheduler? i = s.scheduler? i
  count : s'.generations.length = s.generations.length
  manifest : s'.manifest = s.manifest
  tasks : s'.tasks = s.tasks
  drainers : s'.drainers = s.drainers

theorem Becomes.refl (here : s.scheduler? g = some x) : Becomes s s g x :=
  ⟨here, fun _ _ => rfl, rfl, rfl, rfl, rfl⟩

theorem Becomes.trans (h₁ : Becomes s s₁ g x) (h₂ : Becomes s₁ s' g y) : Becomes s s' g y where
  here := h₂.here
  there i other := (h₂.there i other).trans (h₁.there i other)
  count := h₂.count.trans h₁.count
  manifest := h₂.manifest.trans h₁.manifest
  tasks := h₂.tasks.trans h₁.tasks
  drainers := h₂.drainers.trans h₁.drainers

theorem becomes_update (here : s.scheduler? g = some x) (y : Scheduler) :
    Becomes s (s.updateScheduler g y) g y := by
  obtain ⟨z, hz, -⟩ := scheduler?_eq_some.1 here
  refine ⟨?_, fun i other => ?_, List.length_modify .., rfl, rfl, rfl⟩
  · rw [scheduler?, updateScheduler, List.getElem?_modify_eq, hz]
    rfl
  · rw [scheduler?, updateScheduler, List.getElem?_modify_ne _ _ other.symm]
    rfl

theorem becomes_keep [Host H] (here : s.scheduler? g = some x) (w : StatusWrite) :
    Becomes s (s.keep g w) g x := by
  obtain ⟨z, hz, rfl⟩ := scheduler?_eq_some.1 here
  have noted : Becomes s (s.note w.name (.wrote w.status)) g z.scheduler :=
    ⟨here, fun _ _ => rfl, rfl, rfl, rfl, rfl⟩
  dsimp only [keep]
  split
  · exact noted
  · split
    · exact noted
    · refine ⟨?_, fun i other => ?_, List.length_modify .., rfl, rfl, rfl⟩
      · simp only [scheduler?, List.getElem?_modify_eq, note, hz]
        rfl
      · simp only [scheduler?, List.getElem?_modify_ne _ _ other.symm, note]

theorem becomes_keepAll [Host H] (here : s.scheduler? g = some x) (ws : List StatusWrite) :
    Becomes s (s.keepAll g ws) g x := by
  induction ws generalizing s with
  | nil => exact .refl here
  | cons w ws ih =>
    have kept := becomes_keep here w
    exact kept.trans (ih kept.here)

theorem becomes_signal (here : s.scheduler? g = some x) (t : Trigger) :
    Becomes s (s.signal g t) g (x.signal t) := by
  obtain ⟨z, hz, rfl⟩ := scheduler?_eq_some.1 here
  unfold signal
  rw [hz]
  exact becomes_update here _

/-- A request that is granted: the queue has changed, the status is kept, the trigger is sent. -/
theorem enqueue_granted [Host H] {name : String} {persist : Bool} {write : Option StatusWrite}
    (here : s.scheduler? g = some x) (granted : x.accept s.manifest name persist = .ok (y, write)) :
    Becomes s (s.enqueue g name persist).1 g (y.signal (.enqueued name)) ∧
      (s.enqueue g name persist).2 = .ok () := by
  obtain ⟨z, hz, rfl⟩ := scheduler?_eq_some.1 here
  have asked := becomes_update here y
  have kept := asked.trans (becomes_keepAll asked.here write.toList)
  unfold enqueue
  rw [hz]
  dsimp only
  rw [granted]
  exact ⟨kept.trans (becomes_signal kept.here _), rfl⟩

theorem enqueue_refused [Host H] {name : String} {persist : Bool} {fault : Fault}
    (here : s.scheduler? g = some x) (refused : x.accept s.manifest name persist = .error fault) :
    s.enqueue g name persist = (s, .error fault) := by
  obtain ⟨z, hz, rfl⟩ := scheduler?_eq_some.1 here
  unfold enqueue
  rw [hz]
  dsimp only
  rw [refused]

/-- Whatever is refused of a generation that is there, its scheduler refuses. -/
theorem accept_refused [Host H] {name : String} {persist : Bool} {fault : Fault}
    (here : s.scheduler? g = some x) (refused : (s.enqueue g name persist).2 = .error fault) :
    x.accept s.manifest name persist = .error fault := by
  cases granted : x.accept s.manifest name persist with
  | error cause =>
    rw [enqueue_refused here granted] at refused
    exact congrArg Except.error (Except.error.inj refused)
  | ok answer =>
    rw [(enqueue_granted here granted).2] at refused
    cases refused

theorem becomes_finish [Host H] {l : Launched} (here : s.scheduler? l.generation = some x)
    (result : Except Fault Unit) :
    Becomes s (s.finish l result) l.generation
      ((x.finish l.name (.ofResult result)).1.signal (.completed l.name)) := by
  obtain ⟨z, hz, rfl⟩ := scheduler?_eq_some.1 here
  have noted := becomes_update here (z.scheduler.finish l.name (.ofResult result)).1
  have kept := noted.trans
    (becomes_keepAll noted.here (z.scheduler.finish l.name (.ofResult result)).2.toList)
  have told := kept.trans (becomes_signal kept.here (.completed l.name))
  unfold finish
  rw [hz]
  cases result <;> exact told

theorem becomes_beginDrain (here : s.scheduler? g = some x) (key : String) (target : Option String) :
    Becomes { s with drainers := s.drainers ++ [⟨key, g, x.subscribe.2, target⟩] }
      (s.beginDrain g key target) g (x.subscribe.1.signal .drain) := by
  obtain ⟨z, hz, rfl⟩ := scheduler?_eq_some.1 here
  have more : scheduler?
      { s with drainers := s.drainers ++ [⟨key, g, z.scheduler.subscribe.2, target⟩] } g =
    some z.scheduler := here
  have subscribed := becomes_update more z.scheduler.subscribe.1
  unfold beginDrain
  rw [hz]
  exact subscribed.trans (becomes_signal subscribed.here .drain)

/-- One turn of a loop: the launches that it calls for are tasks, and the writes are carried out. -/
theorem becomes_turn [Host H] (here : s.scheduler? g = some x) :
    Becomes
      { s with
        tasks := s.tasks ++ (x.turn s.manifest).2.launches.map fun l =>
          ⟨⟨g, l.name⟩, .list l.command.procedures⟩ }
      (s.turn g x) g (x.turn s.manifest).1 := by
  have turned := becomes_update here (x.turn s.manifest).1
  have kept := turned.trans (becomes_keepAll turned.here (x.turn s.manifest).2.writes)
  exact ⟨kept.here, kept.there, kept.count, kept.manifest, congrArg (· ++ _) kept.tasks,
    kept.drainers⟩

/-- Of a generation that is not there nothing is asked. -/
theorem unasked_of_none [Host H] (absent : s.scheduler? g = none) :
    (∀ t, s.signal g t = s) ∧ (∀ name persist, (s.enqueue g name persist).1 = s) ∧
      ∀ key target, s.beginDrain g key target = s := by
  have none : s.generations[g]? = none := Option.map_eq_none_iff.1 absent
  refine ⟨fun t => ?_, fun name persist => ?_, fun key target => ?_⟩
  · rw [signal, none]
  · rw [enqueue, none]
  · rw [beginDrain, none]

/-! ## Traffic that can be -/

/-- What each generation and its callers are may have come of a scheduler. -/
structure Supervised (s : Supervision H) : Prop where
  tasks : ∀ t ∈ s.tasks, t.owner.generation < s.generations.length
  drainers : ∀ d ∈ s.drainers, d.generation < s.generations.length
  reachable : ∀ g x, s.scheduler? g = some x → ∃ first, Reachable s.manifest first (s.traffic g x)

/-- Before anything has been started. -/
theorem Supervised.idle (generations : s.generations = []) (tasks : s.tasks = [])
    (drainers : s.drainers = []) : Supervised s := by
  refine ⟨fun t mem => ?_, fun d mem => ?_, fun g x here => ?_⟩
  · rw [tasks] at mem
    cases mem
  · rw [drainers] at mem
    cases mem
  · rw [scheduler?, generations] at here
    cases here

theorem scheduler?_lt (here : s.scheduler? g = some x) : g < s.generations.length := by
  obtain ⟨z, hz, -⟩ := scheduler?_eq_some.1 here
  exact (List.getElem?_eq_some_iff.1 hz).1

theorem scheduler?_of_lt (lt : g < s.generations.length) : ∃ x, s.scheduler? g = some x :=
  ⟨_, scheduler?_eq_some.2 ⟨_, List.getElem?_eq_getElem lt, rfl⟩⟩

/-- Tasks and drainers of one generation have come and gone, and its scheduler has changed. If that
comes down to turns of its traffic, the supervision is as good as before. -/
theorem Supervised.change (supervised : Supervised s) (here : s.scheduler? g = some x)
    (becomes : Becomes s₀ s' g y) (generations : s₀.generations = s.generations)
    (manifest : s₀.manifest = s.manifest)
    (tasks : ∀ t ∈ s₀.tasks, t ∈ s.tasks ∨ t.owner.generation = g)
    (drainers : ∀ d ∈ s₀.drainers, d ∈ s.drainers ∨ d.generation = g)
    (others : ∀ i ≠ g, ∀ x, s₀.traffic i x = s.traffic i x)
    (turns : ∀ first, Reachable s.manifest first (s.traffic g x) →
      Reachable s.manifest first (s₀.traffic g y)) : Supervised s' := by
  have count : s'.generations.length = s.generations.length :=
    becomes.count.trans (congrArg _ generations)
  have same : ∀ i x, s'.traffic i x = s₀.traffic i x := fun i x => by
    rw [traffic, traffic, becomes.tasks, becomes.drainers]
  refine ⟨fun t mem => ?_, fun d mem => ?_, fun i z found => ?_⟩
  · rw [count]
    rcases tasks t (becomes.tasks ▸ mem) with old | rfl
    · exact supervised.tasks t old
    · exact scheduler?_lt here
  · rw [count]
    rcases drainers d (becomes.drainers ▸ mem) with old | rfl
    · exact supervised.drainers d old
    · exact scheduler?_lt here
  · rw [becomes.manifest, manifest, same]
    -- Generation `g` has taken turns; each other one has the scheduler and the callers it had.
    by_cases other : i = g
    · subst other
      obtain rfl := Option.some.inj (found.symm.trans becomes.here)
      obtain ⟨first, reachable⟩ := supervised.reachable _ _ here
      exact ⟨first, turns first reachable⟩
    · rw [others i other]
      refine supervised.reachable i z ?_
      rw [becomes.there i other, scheduler?, generations] at found
      exact found

/-- Only the scheduler has changed. -/
theorem Supervised.becomes (supervised : Supervised s) (here : s.scheduler? g = some x)
    (becomes : Becomes s s' g y)
    (turns : ∀ first, Reachable s.manifest first (s.traffic g x) →
      Reachable s.manifest first (s.traffic g y)) : Supervised s' :=
  supervised.change here becomes rfl rfl (fun _ mem => .inl mem) (fun _ mem => .inl mem)
    (fun _ _ _ => rfl) turns

/-! ## Tasks of one generation -/

/-- A task that is nobody's launch, or another generation's, does not show in the traffic. -/
theorem runOf?_eq_none {t : Task Launched}
    (hidden : t.owner.generation = g → t.work.progress? = none) :
    runOf? g t = none := by
  unfold runOf?
  split
  · rename_i own
    rw [hidden own]
    rfl
  · rfl

theorem runOf?_eq_some {t : Task Launched} {now : Traffic.Progress}
    (begun : t.work.progress? = some now) :
    runOf? t.owner.generation t = some ⟨t.owner.name, now⟩ := by
  rw [runOf?, if_pos rfl, begun]
  rfl

/-- A task has been replaced by others of its owner. -/
theorem Supervised.replace {before left after : List (Task Launched)} {t : Task Launched} {h : H}
    (supervised : Supervised s) (tasks : s.tasks = before ++ t :: after)
    (own : ∀ t' ∈ left, t'.owner = t.owner) (here : s.scheduler? t.owner.generation = some x)
    (becomes : Becomes { s with host := h, tasks := before ++ left ++ after } s' t.owner.generation y)
    (turns : ∀ first before' after' waiters,
      Reachable s.manifest first
        { scheduler := x
          runs := before' ++ (runOf? t.owner.generation t).toList ++ after', waiters } →
      Reachable s.manifest first
        { scheduler := y
          runs := before' ++ left.filterMap (runOf? t.owner.generation) ++ after', waiters }) :
    Supervised s' := by
  have split : ∀ i, s.tasks.filterMap (runOf? i) =
      before.filterMap (runOf? i) ++ (runOf? i t).toList ++ after.filterMap (runOf? i) := fun i => by
    rw [tasks, List.filterMap_append, List.filterMap_cons]
    cases runOf? i t <;> simp
  have joined : ∀ i, (before ++ left ++ after).filterMap (runOf? i) =
      before.filterMap (runOf? i) ++ left.filterMap (runOf? i) ++ after.filterMap (runOf? i) := by
    intro i
    rw [List.filterMap_append, List.filterMap_append]
  refine supervised.change here becomes rfl rfl (fun t' mem => ?_) (fun _ mem => .inl mem)
    (fun i other x => ?_) fun first reachable => ?_
  · rw [List.append_assoc, List.mem_append, List.mem_append] at mem
    rw [tasks, List.mem_append, List.mem_cons]
    rcases mem with old | new | old
    · exact .inl (.inl old)
    · exact .inr (congrArg _ (own t' new))
    · exact .inl (.inr (.inr old))
  · have mine : runOf? i t = none := runOf?_eq_none fun same => absurd same.symm other
    have theirs : left.filterMap (runOf? i) = [] := List.filterMap_eq_nil_iff.2 fun t' mem =>
      runOf?_eq_none fun same => absurd (same.symm.trans (congrArg _ (own t' mem))) other
    simp [traffic, split, mine, theirs]
  · rw [traffic, split] at reachable
    rw [traffic, joined]
    exact turns first _ _ _ reachable

/-- A task that carries on a launch has been replaced. -/
theorem Supervised.carry {before left after : List (Task Launched)} {t : Task Launched} {h : H}
    {now : Traffic.Progress} (supervised : Supervised s) (tasks : s.tasks = before ++ t :: after)
    (begun : t.work.progress? = some now) (own : ∀ t' ∈ left, t'.owner = t.owner)
    (here : s.scheduler? t.owner.generation = some x)
    (becomes : Becomes { s with host := h, tasks := before ++ left ++ after } s' t.owner.generation y)
    (turns : ∀ first before' after' waiters,
      Reachable s.manifest first
        { scheduler := x, runs := before' ++ ⟨t.owner.name, now⟩ :: after', waiters } →
      Reachable s.manifest first
        { scheduler := y
          runs := before' ++ (left.filterMap (runOf? t.owner.generation) ++ after'), waiters }) :
    Supervised s' := by
  refine supervised.replace tasks own here becomes fun first before' after' waiters reachable => ?_
  rw [runOf?_eq_some begun, Option.toList_some, List.append_assoc] at reachable
  rw [List.append_assoc]
  exact turns first before' after' waiters reachable

end Supervisor.Supervision
