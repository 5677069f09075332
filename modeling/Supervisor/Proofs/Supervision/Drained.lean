import Supervisor.Proofs.Scheduler.Stillness
import Supervisor.Proofs.Supervision.Steps
import Supervisor.Workshop

/-!
# A drained generation

Once a generation is drained, all that is left of its launches are procedures that nothing waits for.
These ask for nothing, and neither writes, nor evicting, nor drainers, nor what other generations do
make anything of it wait or run.
-/

namespace Supervisor

open Relation (ReflTransGen)
open Queue (Settled Within)
open Traffic (Reachable Delegates Unended)

/-- The turn of a loop that finds a settled queue leaves it as it is. -/
theorem Scheduler.turn_queue {x : Scheduler} {m : Manifest} (settled : Settled x.queue) :
    (x.turn m).1.queue = x.queue := by
  have scanned : (x.take.scan m).1.queue = x.queue := by
    rcases x.take.scan_cases m with ⟨-, queue, -⟩ | ⟨-, idle⟩
    · rw [queue, take_queue, settled.scan]
    · rw [idle, take_queue]
  rw [turn, close_queue, report_queue, read_queue, scanned]

namespace Supervision

variable {H : Type} {s s' : Supervision H} {g i : Nat} {x y z : Scheduler}

/-! ## One generation -/

/-- No task of the generation goes through a list of procedures. -/
def Idle (s : Supervision H) (g : Nat) : Prop :=
  ∀ t ∈ s.tasks, t.owner.generation = g → t.work.progress? = none

theorem Supervised.idle_of_settled (supervised : s.Supervised) (here : s.scheduler? g = some x)
    (settled : Settled x.queue) : s.Idle g := by
  intro t mem own
  obtain ⟨first, reachable⟩ := supervised.reachable g x here
  have none : runOf? g t = none :=
    List.filterMap_eq_nil_iff.1 (reachable.no_runs settled.none_pending) t mem
  rw [runOf?, if_pos own] at none
  exact Option.map_eq_none_iff.1 none

/-- What becomes of one generation is nothing to another. -/
theorem Becomes.within (becomes : Becomes s s' i y) (here : s.scheduler? g = some x)
    (there : s.scheduler? i = some z) (own : g = i → x = z → Within x.queue y.queue) :
    ∃ x', s'.scheduler? g = some x' ∧ Within x.queue x'.queue := by
  by_cases same : g = i
  · subst same
    exact ⟨y, becomes.here, own rfl (Option.some.inj (here.symm.trans there))⟩
  · exact ⟨x, (becomes.there g same).trans here, .refl _⟩

/-- A drainer changes watchers only. -/
theorem within_drainer {d : Drainer} {z : Generation}
    (there : s.generations[d.generation]? = some z) (taken : s.stepDrainer d z = some s')
    (here : s.scheduler? g = some x) :
    ∃ x', s'.scheduler? g = some x' ∧ Within x.queue x'.queue := by
  have there : s.scheduler? d.generation = some z.scheduler := scheduler?_eq_some.2 ⟨z, there, rfl⟩
  have told : ∀ watchers, ∃ x',
      (s.updateScheduler d.generation { z.scheduler with watchers }).scheduler? g = some x' ∧
        Within x.queue x'.queue := by
    intro watchers
    refine (becomes_update there _).within here there fun _ same => ?_
    subst same
    exact .refl _
  cases drainerTurn taken with
  | waits | finds | closed => exact told _

/-- What the step of a task comes to, once the tasks have moved on: nothing, or a turn of the one
generation whose list it goes through. -/
inductive TaskTurn (s moved : Supervision H) : Supervision H → Prop
  | apart : TaskTurn s moved moved
  | own {s' : Supervision H} {t : Task Launched} {now : Traffic.Progress} {y : Scheduler}
      (mem : t ∈ s.tasks) (begun : t.work.progress? = some now)
      (becomes : Becomes moved s' t.owner.generation y) : TaskTurn s moved s'

variable [Host H]

/-! ## One step -/

/-- What goes on in a supervision while nobody asks for a command. -/
inductive Inward (s : Supervision H) : Supervision H → Prop
  | turn {g : Nat} {x : Scheduler} (here : s.scheduler? g = some x) : Inward s (s.turn g x)
  | task {s' : Supervision H} (taken : s.stepTask? = some s') : Inward s s'
  | drainer {s' : Supervision H} {d : Drainer} {z : Generation} (mem : d ∈ s.drainers)
      (here : s.generations[d.generation]? = some z) (taken : s.stepDrainer d z = some s') :
      Inward s s'
  /-- Time passes, and something happens on the host. -/
  | host (host : H) (now : Nat) : Inward s { s with host, now }
  | evict {g : Nat} {x : Scheduler} (here : s.scheduler? g = some x) :
      Inward s (s.updateScheduler g x.evict.1)
  | beginDrain (g : Nat) (key : String) (target : Option String) :
      Inward s (s.beginDrain g key target)
  | shutdown (g : Nat) : Inward s (s.signal g .shutdown)
  | start (store : Store) : Inward s (s.start store)

/-- What of it a supervision does by itself, or its host. -/
inductive Works (s : Supervision H) : Supervision H → Prop
  | turn {g : Nat} {x : Scheduler} (here : s.scheduler? g = some x) : Works s (s.turn g x)
  | task {s' : Supervision H} (taken : s.stepTask? = some s') : Works s s'
  | drainer {s' : Supervision H} {d : Drainer} {z : Generation} (mem : d ∈ s.drainers)
      (here : s.generations[d.generation]? = some z) (taken : s.stepDrainer d z = some s') :
      Works s s'
  | host (host : H) (now : Nat) : Works s { s with host, now }

theorem Works.inward (works : Works s s') : Inward s s' := by
  cases works with
  | turn here => exact .turn here
  | task taken => exact .task taken
  | drainer mem here taken => exact .drainer mem here taken
  | host host now => exact .host host now

theorem works_of_step (taken : s.step? = some s') : Works s s' := by
  unfold Supervision.step? at taken
  split at taken
  · obtain rfl := Option.some.inj taken
    exact .host _ _
  · cases loop : s.stepLoop? with
    | some s₁ =>
      rw [loop] at taken
      obtain rfl := Option.some.inj taken
      obtain ⟨g, -, taken⟩ := Option.bind_eq_some_iff.1 loop
      obtain ⟨z, hz, rfl⟩ := Option.map_eq_some_iff.1 taken
      exact .turn (scheduler?_eq_some.2 ⟨z, hz, rfl⟩)
    | none =>
      cases task : s.stepTask? with
      | some s₁ =>
        rw [loop, task] at taken
        obtain rfl := Option.some.inj taken
        exact .task task
      | none =>
        rw [loop, task] at taken
        obtain ⟨d, mem, taken⟩ := List.exists_of_findSome?_eq_some taken
        obtain ⟨z, here, taken⟩ := Option.bind_eq_some_iff.1 taken
        exact .drainer mem here taken

theorem Inward.supervised (inward : Inward s s') (supervised : s.Supervised) : s'.Supervised := by
  cases inward with
  | turn here => exact supervised.turn here
  | task taken => exact supervised.stepTask taken
  | drainer mem here taken => exact supervised.stepDrainer mem here taken
  | host => exact ⟨supervised.tasks, supervised.drainers, supervised.reachable⟩
  | evict here => exact supervised.evict here
  | beginDrain g key target => exact supervised.beginDrain g key target
  | shutdown g => exact supervised.shutdown g
  | start store => exact supervised.start store

/-- **Whatever a supervision does by itself is turns of its generations' traffic.** -/
theorem Supervised.step (supervised : s.Supervised) (taken : s.step? = some s') : s'.Supervised :=
  (works_of_step taken).inward.supervised supervised

/-- A hand-over concerns the generation of the launch only. -/
theorem becomes_handOver {l : Launched} (here : s.scheduler? l.generation = some x)
    (target : String) : ∃ y, Becomes s
      ((s.enqueue l.generation target false).1.finish l
        (Executor.handedOver (s.enqueue l.generation target false).2)) l.generation y := by
  cases granted : x.accept s.manifest target false with
  | error fault =>
    rw [enqueue_refused here granted]
    exact ⟨_, becomes_finish here _⟩
  | ok answer =>
    obtain ⟨asked, -⟩ := enqueue_granted here granted
    exact ⟨_, asked.trans (becomes_finish asked.here _)⟩

theorem taskTurn (taken : s.stepTask? = some s') (supervised : s.Supervised) :
    ∃ stepped, Task.stepFirst? s.host s.now s.tasks = some stepped ∧
      TaskTurn s { s with host := stepped.host, tasks := stepped.tasks } s' := by
  obtain ⟨⟨h, tasks', request⟩, stepped, rfl⟩ := Option.map_eq_some_iff.1 taken
  obtain ⟨before, t, left, after, tasks, -, turned⟩ := Task.stepFirst?_eq_some stepped
  have mem : t ∈ s.tasks := tasks ▸ Traffic.mem_middle.2 (.inl rfl)
  obtain ⟨z, there⟩ := scheduler?_of_lt (supervised.tasks t mem)
  have there : { s with host := h, tasks := tasks' }.scheduler? t.owner.generation = some z := there
  refine ⟨_, stepped, ?_⟩
  dsimp only at turned ⊢
  cases turned with
  | silent | onward => exact .apart
  | @ended _ result begun => exact .own mem begun (becomes_finish there result)
  | @handedOver _ _ target begun =>
    obtain ⟨y, becomes⟩ := becomes_handOver there target
    exact .own mem begun becomes

/-- A task of a drained generation asks for nothing, and the others ask elsewhere. -/
theorem within_task (taken : s.stepTask? = some s') (supervised : s.Supervised)
    (here : s.scheduler? g = some x) (idle : s.Idle g) :
    ∃ x', s'.scheduler? g = some x' ∧ Within x.queue x'.queue := by
  obtain ⟨stepped, -, turn⟩ := taskTurn taken supervised
  cases turn with
  | apart => exact ⟨x, here, .refl _⟩
  | @own _ t _ _ mem begun becomes =>
    have elsewhere : g ≠ t.owner.generation := by
      intro own
      rw [idle t mem own.symm] at begun
      cases begun
    exact ⟨x, (becomes.there g elsewhere).trans here, .refl _⟩

theorem Inward.within (inward : Inward s s') (supervised : s.Supervised)
    (here : s.scheduler? g = some x) (settled : Settled x.queue) :
    ∃ x', s'.scheduler? g = some x' ∧ Within x.queue x'.queue := by
  cases inward with
  | @turn i z there =>
    refine (becomes_turn there).within here there fun _ same => ?_
    subst same
    rw [Scheduler.turn_queue settled]
    exact .refl _
  | task taken =>
    exact within_task taken supervised here (supervised.idle_of_settled here settled)
  | drainer mem there taken => exact within_drainer there taken here
  | host => exact ⟨x, here, .refl _⟩
  | @evict i z there =>
    refine (becomes_update there _).within here there fun _ same => ?_
    subst same
    exact Queue.within_evict _
  | beginDrain i key target =>
    cases there : s.scheduler? i with
    | none =>
      rw [(unasked_of_none there).2.2]
      exact ⟨x, here, .refl _⟩
    | some z =>
      refine (becomes_beginDrain there key target).within here there fun _ same => ?_
      subst same
      rw [Scheduler.signal_queue]
      exact .refl _
  | shutdown i =>
    cases there : s.scheduler? i with
    | none =>
      rw [(unasked_of_none there).1]
      exact ⟨x, here, .refl _⟩
    | some z =>
      refine (becomes_signal there _).within here there fun _ same => ?_
      subst same
      rw [Scheduler.signal_queue]
      exact .refl _
  | start store =>
    refine ⟨x, ?_, .refl _⟩
    rw [scheduler?, Supervision.start, List.getElem?_append_left (scheduler?_lt here)]
    exact here

/-! ## All steps -/

theorem Supervised.inward (supervised : s.Supervised) (here : s.scheduler? g = some x)
    (settled : Settled x.queue) (onward : ReflTransGen Inward s s') :
    s'.Supervised ∧ ∃ x', s'.scheduler? g = some x' ∧ Within x.queue x'.queue := by
  induction onward with
  | refl => exact ⟨supervised, x, here, .refl _⟩
  | tail _ inward ih =>
    obtain ⟨supervised, x', here, within⟩ := ih
    obtain ⟨x'', here', within'⟩ := inward.within supervised here (settled.within within)
    exact ⟨inward.supervised supervised, x'', here', within.trans within'⟩

/-- **What is drained stays drained until something is asked for.** In whatever order callers,
launches, the work loop and those who wait take their turns, from any record: where nothing is pending
and no `restart` command is in the queue, no launch is under way, and no turn but a request from
outside brings in a command or makes one wait or run. A launch that asks for another command is that
of a command that runs, before and after; and the other one is pending from then on until its end is
noted, unless it is done once and for all. (A manifest that has not been resolved may lack it.) In a
supervision all that is left of the launches of a drained generation are procedures aside, and
whatever goes on while nobody asks for a command leaves it drained. -/
theorem drained_until_asked {m : Manifest} {first : Record} {t : Traffic} (h : Reachable m first t)
    (supervised : s.Supervised) (here : s.scheduler? g = some x) :
    (Settled t.scheduler.queue → t.runs = [] ∧ ∀ t', ReflTransGen (Traffic.Inward m) t t' →
      t'.runs = [] ∧ t'.scheduler.queue.pending = [] ∧ Within t.scheduler.queue t'.scheduler.queue) ∧
    (∀ name target t', Delegates m t name target t' →
      name ∈ t.scheduler.queue.pending ∧ name ∈ t'.scheduler.queue.pending ∧
        (m.get? target = none ∧ ¬ m.Validated ∨
          (∃ command, m.get? target = some command ∧ command.policy = .once ∧
            t.scheduler.queue.statusOf target = some .done) ∨
          ∀ t'', ReflTransGen (Unended m target) t' t'' → target ∈ t''.scheduler.queue.pending)) ∧
    (Settled x.queue → s.Idle g ∧ ∀ s', ReflTransGen Inward s s' → s'.Idle g ∧
      ∃ x', s'.scheduler? g = some x' ∧ x'.queue.pending = [] ∧ Within x.queue x'.queue) := by
  refine ⟨fun settled => ?_, fun name target t' delegates => ?_, fun settled => ?_⟩
  · refine ⟨h.no_runs settled.none_pending, fun t' onward => ?_⟩
    obtain ⟨reachable, within⟩ := h.inward settled onward
    have nothing := (settled.within within).none_pending
    exact ⟨reachable.no_runs nothing, nothing, within⟩
  · have reachable := h.next (.run delegates.turn)
    obtain ⟨before, after⟩ := delegates.running h.matched reachable.matched
    refine ⟨before, after, ?_⟩
    rcases delegates.pending with unknown | done | pending
    · refine .inl ⟨unknown, fun validated => ?_⟩
      have known := delegates.known h validated
      rw [unknown] at known
      cases known
    · exact .inr (.inl done)
    · exact .inr (.inr fun t'' onward => (reachable.pending_stays pending onward).2)
  · refine ⟨supervised.idle_of_settled here settled, fun s' onward => ?_⟩
    obtain ⟨supervised', x', here', within⟩ := supervised.inward here settled onward
    have settled' := settled.within within
    exact ⟨supervised'.idle_of_settled here' settled', x', here', settled'.none_pending, within⟩

/-! ## A chime -/

/-- A manifest with a command that does something later and waits for nothing. -/
def chime : Manifest :=
  ⟨"m", none, none, .ofList [
    ("ring", ⟨"ring", .always, [], [⟨"ring.0", .exec, .argv ["ring"], .delayed 5, false⟩]⟩)]⟩

/-- The command has ended; what it does later is still to come. -/
theorem reachable_chime : ∃ (s : Supervision Workshop) (x : Scheduler), s.Supervised ∧
    s.scheduler? 0 = some x ∧ Settled x.queue ∧
      s.tasks = [⟨⟨0, "ring"⟩, .delayed 5000 ⟨"ring.0", .exec, .argv ["ring"], .delayed 5, false⟩⟩] := by
  let workshop : Workshop := { disk := .empty, directory := [] }
  have idle : Supervised { manifest := chime, host := workshop } := .idle rfl rfl rfl
  have asked := (idle.start (.memory {} none)).enqueue 0 "ring" false
  have detached := (asked.turn (g := 0) rfl).stepTask rfl
  have ended := detached.stepTask rfl
  refine ⟨_, _, ended, rfl, ⟨rfl, fun name e he => ?_⟩, rfl⟩
  obtain rfl := List.mem_singleton.1 (Queue.mem_values.2 ⟨name, he⟩)
  exact fun restart => by cases restart

/-- Of a relay, the first command hands over; a chime is to ring, and nothing else happens to it. -/
theorem drained_until_asked_chime :
    (∃ t t', Reachable Traffic.relay {} t ∧ Delegates Traffic.relay t "start" "worker" t' ∧
      ∀ t'', ReflTransGen (Unended Traffic.relay "worker") t' t'' →
        "worker" ∈ t''.scheduler.queue.pending) ∧
    ∃ s : Supervision Workshop, s.tasks ≠ [] ∧ s.Idle 0 ∧ ∀ s', ReflTransGen Inward s s' → s'.Idle 0 ∧
      ∃ x, s'.scheduler? 0 = some x ∧ x.queue.pending = [] := by
  obtain ⟨s, x, supervised, here, settled, aside⟩ := reachable_chime
  have asked : Reachable Traffic.relay {} _ := .next .start (.caller (.enqueue "start" true rfl))
  have begun := (asked.next (.caller (.signal [] rfl))).turned
  obtain ⟨t, begun, t', delegates⟩ : ∃ t, Reachable Traffic.relay {} t ∧
      ∃ t', Delegates Traffic.relay t "start" "worker" t' ∧
        t.scheduler.queue.get? "worker" = none := ⟨_, begun, _, .granted [] rfl rfl rfl rfl, rfl⟩
  obtain ⟨delegates, new⟩ := delegates
  obtain ⟨-, pending, idle⟩ := drained_until_asked begun supervised here
  refine ⟨⟨t, t', begun, delegates, ?_⟩, s, ?_, (idle settled).1, fun s' onward => ?_⟩
  · rcases (pending _ _ _ delegates).2.2 with ⟨unknown, -⟩ | ⟨_, _, _, done⟩ | pending
    · cases unknown
    · rw [Queue.statusOf, new] at done
      cases done
    · exact pending
  · rw [aside]
    exact List.cons_ne_nil _ _
  · obtain ⟨still, x', here', nothing, -⟩ := (idle settled).2 s' onward
    exact ⟨still, x', here', nothing⟩

end Supervision

end Supervisor
