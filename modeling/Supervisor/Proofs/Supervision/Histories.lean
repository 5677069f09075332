import Supervisor.Proofs.Queue.Recovery
import Supervisor.Proofs.Store.Lifetimes
import Supervisor.Proofs.Supervision.Dispatch

/-!
# What becomes of a generation

Whatever a supervision does, each of its generations goes through turns of its scheduler, whose writes
its store keeps, but for statuses that cannot be written. `Serves` and `Moves` list the turns, so what
each of them keeps is kept of every generation, whoever acts. In particular the record in its store
always brings back what its queue asks for.
-/

namespace Supervisor

open Relation (ReflTransGen)

/-- What statuses a record has for a name after writes depends on the status before. -/
theorem Record.statusOf_keep_congr {r r' : Record} {name : String}
    (same : r.statusOf name = r'.statusOf name) (writes : List StatusWrite) :
    (r.keep writes).statusOf name = (r'.keep writes).statusOf name := by
  induction writes generalizing r r' with
  | nil => exact same
  | cons w writes ih =>
    apply ih
    rw [Record.statusOf_setStatus, Record.statusOf_setStatus, same]

namespace Store

theorem statusOf_setStatus (store : Store) (disk : Disk) (name other : String) (status : Status) :
    (store.setStatus disk name status).store.record.statusOf other =
      (store.record.setStatus name status).statusOf other := by
  have kept : ∀ s : Store, (s.write disk).store = s.captured := by
    intro s
    unfold Store.write
    dsimp only
    split <;> rfl
  rw [setStatus, kept]
  cases store with
  | file directory path r f => exact statusOf_capture other
  | memory r f =>
    cases f with
    | none => rfl
    | some f => exact statusOf_capture other

/-- The second store has the statuses of the first one after writes, where statuses can be kept. -/
def Keeps (lost : List String) (store : Store) (writes : List StatusWrite) (store' : Store) : Prop :=
  ∀ name ∉ lost, store'.record.statusOf name = (store.record.keep writes).statusOf name

variable {lost : List String} {store store₁ store' : Store} {writes more : List StatusWrite}

theorem Keeps.none (lost : List String) (store : Store) : Keeps lost store [] store := fun _ _ => rfl

theorem Keeps.append (h₁ : Keeps lost store writes store₁) (h₂ : Keeps lost store₁ more store') :
    Keeps lost store (writes ++ more) store' := by
  intro name writable
  rw [h₂ name writable, Record.keep_append]
  exact Record.statusOf_keep_congr (h₁ name writable) more

end Store

namespace Supervision

variable {H : Type} {s s' s₁ : Supervision H} {g i : Nat} {x : Scheduler} {z z' z₁ : Generation}
  {m : Manifest}

/-! ## One generation -/

/-- One generation has become another one, and nothing else has changed of generations. -/
structure Goes (s s' : Supervision H) (g : Nat) (z' : Generation) : Prop where
  here : s'.generations[g]? = some z'
  there : ∀ i ≠ g, s'.generations[i]? = s.generations[i]?
  count : s'.generations.length = s.generations.length
  manifest : s'.manifest = s.manifest
  unwritable : s'.unwritable = s.unwritable

theorem Goes.refl (here : s.generations[g]? = some z) : Goes s s g z :=
  ⟨here, fun _ _ => rfl, rfl, rfl, rfl⟩

theorem Goes.trans (h₁ : Goes s s₁ g z₁) (h₂ : Goes s₁ s' g z') : Goes s s' g z' where
  here := h₂.here
  there i other := (h₂.there i other).trans (h₁.there i other)
  count := h₂.count.trans h₁.count
  manifest := h₂.manifest.trans h₁.manifest
  unwritable := h₂.unwritable.trans h₁.unwritable

theorem Goes.same (goes : Goes s s₁ g z') (generations : s'.generations = s₁.generations)
    (manifest : s'.manifest = s₁.manifest) (unwritable : s'.unwritable = s₁.unwritable) :
    Goes s s' g z' := by
  refine ⟨?_, fun i other => ?_, ?_, manifest.trans goes.manifest, unwritable.trans goes.unwritable⟩
  · rw [generations]
    exact goes.here
  · rw [generations]
    exact goes.there i other
  · rw [generations]
    exact goes.count

theorem goes_modify (here : s.generations[g]? = some z) (change : Generation → Generation) (h : H)
    (events : List Event) :
    Goes s { s with host := h, events, generations := s.generations.modify g change } g (change z) := by
  refine ⟨?_, fun i other => ?_, List.length_modify .., rfl, rfl⟩
  · show (s.generations.modify g change)[g]? = some (change z)
    rw [List.getElem?_modify_eq, here]
    rfl
  · exact List.getElem?_modify_ne _ _ other.symm

theorem goes_update (here : s.generations[g]? = some z) (y : Scheduler) :
    Goes s (s.updateScheduler g y) g { z with scheduler := y } :=
  goes_modify here (fun z => { z with scheduler := y }) s.host s.events

theorem goes_signal (here : s.generations[g]? = some z) (t : Trigger) :
    Goes s (s.signal g t) g { z with scheduler := z.scheduler.signal t } := by
  rw [signal, here]
  exact goes_update here _

/-! ## Turns of a generation -/

/-- What becomes of a generation while its supervision works, or is asked for something. -/
inductive Serves (m : Manifest) (lost : List String) (z : Generation) : Generation → Prop
  | turned {store : Store} (kept : z.store.Keeps lost (z.scheduler.turn m).2.writes store) :
      Serves m lost z ⟨(z.scheduler.turn m).1, store⟩
  | asked {y : Scheduler} {write : Option StatusWrite} {store : Store} (name : String) (persist : Bool)
      (granted : z.scheduler.accept m name persist = .ok (y, write))
      (kept : z.store.Keeps lost write.toList store) :
      Serves m lost z ⟨y.signal (.enqueued name), store⟩
  | ended {store : Store} (name : String) (outcome : Outcome)
      (running : z.scheduler.queue.statusOf name = some .running)
      (kept : z.store.Keeps lost (z.scheduler.finish name outcome).2.toList store) :
      Serves m lost z ⟨(z.scheduler.finish name outcome).1.signal (.completed name), store⟩
  | heard (watchers : Watchers) :
      Serves m lost z { z with scheduler := { z.scheduler with watchers } }

/-- What else becomes of it where others deal with it. -/
inductive Moves (m : Manifest) (lost : List String) (z : Generation) : Generation → Prop
  | serves {z' : Generation} (serves : Serves m lost z z') : Moves m lost z z'
  | evicted : Moves m lost z { z with scheduler := z.scheduler.evict.1 }
  | drains : Moves m lost z { z with scheduler := z.scheduler.subscribe.1.signal .drain }
  | shutdown : Moves m lost z { z with scheduler := z.scheduler.signal .shutdown }

/-- A turn leaves the queue alone, or does an act to it whose writes are kept. -/
theorem Moves.acts {lost : List String} (moves : Moves m lost z z') :
    z'.scheduler.queue = z.scheduler.queue ∧ z.store.Keeps lost [] z'.store ∨
      ∃ act, Queue.Step m z.scheduler.queue act z'.scheduler.queue ∧
        z.store.Keeps lost act.writes z'.store := by
  cases moves with
  | evicted => exact .inr ⟨_, .evict, .none _ _⟩
  | drains | shutdown => exact .inl ⟨Scheduler.signal_queue .., .none _ _⟩
  | serves serves =>
    cases serves with
    | heard => exact .inl ⟨rfl, .none _ _⟩
    | asked name persist granted kept =>
      obtain ⟨queue, asked, rfl⟩ := Scheduler.accept_eq_ok granted
      refine .inr ⟨.accepted name _, ?_, kept⟩
      rw [Scheduler.signal_queue]
      exact .accept name persist asked
    | ended name outcome running kept =>
      refine .inr ⟨.ended name outcome _, ?_, kept⟩
      rw [Scheduler.signal_queue]
      exact .complete name outcome running
    | turned kept =>
      have queue : (z.scheduler.turn m).1.queue = (z.scheduler.take.scan m).1.queue := by
        rw [Scheduler.turn, Scheduler.close_queue, Scheduler.report_queue, Scheduler.read_queue]
      have pass : (z.scheduler.turn m).2 = (z.scheduler.take.scan m).2 := rfl
      rw [pass] at kept
      rcases z.scheduler.take.scan_cases m with ⟨-, scanned, found, -⟩ | ⟨-, idle⟩
      · rw [Scheduler.take_queue] at scanned found
        rw [found] at kept
        refine .inr ⟨.scanned (z.scheduler.queue.scan m).2, ?_, kept⟩
        rw [queue, scanned]
        exact .scan
      · rw [idle] at kept
        refine .inl ⟨?_, kept⟩
        rw [queue, idle, Scheduler.take_queue]

/-- What every act keeps is kept of a queue, whoever takes turns. -/
theorem Moves.keeps {lost : List String} {P : Queue → Prop} (moves : ReflTransGen (Moves m lost) z z')
    (kept : ∀ {q q' : Queue} {act : Queue.Act}, Queue.Step m q act q' → P q → P q')
    (start : P z.scheduler.queue) : P z'.scheduler.queue := by
  induction moves with
  | refl => exact start
  | tail _ moves ih =>
    rcases moves.acts with ⟨queue, -⟩ | ⟨act, step, -⟩
    · rw [queue]
      exact ih
    · exact kept step ih

/-- All generations are still there, and have become what they are by turns of a kind. -/
structure Passes (Kind : Manifest → List String → Generation → Generation → Prop)
    (s s' : Supervision H) : Prop where
  manifest : s'.manifest = s.manifest
  unwritable : s'.unwritable = s.unwritable
  count : s'.generations.length = s.generations.length
  moves : ∀ (g : Nat) (z : Generation), s.generations[g]? = some z →
    ∃ z', s'.generations[g]? = some z' ∧ ReflTransGen (Kind s.manifest s.unwritable) z z'

section Passes

variable {Kind : Manifest → List String → Generation → Generation → Prop}

theorem Passes.same (generations : s'.generations = s.generations) (manifest : s'.manifest = s.manifest)
    (unwritable : s'.unwritable = s.unwritable) : Passes Kind s s' := by
  refine ⟨manifest, unwritable, congrArg _ generations, fun g z here => ⟨z, ?_, .refl⟩⟩
  rw [generations]
  exact here

theorem Goes.passes (goes : Goes s s' i z') (here : s.generations[i]? = some z)
    (moves : ReflTransGen (Kind s.manifest s.unwritable) z z') : Passes Kind s s' := by
  refine ⟨goes.manifest, goes.unwritable, goes.count, fun g y there => ?_⟩
  by_cases same : g = i
  · subst same
    obtain rfl := Option.some.inj (here.symm.trans there)
    exact ⟨z', goes.here, moves⟩
  · exact ⟨y, (goes.there g same).trans there, .refl⟩

theorem Passes.before (passes : Passes Kind s s') (here : s'.generations[g]? = some z') :
    ∃ z, s.generations[g]? = some z ∧ ReflTransGen (Kind s.manifest s.unwritable) z z' := by
  have old : g < s.generations.length := by
    rw [← passes.count]
    exact (List.getElem?_eq_some_iff.1 here).1
  have there := List.getElem?_eq_getElem old
  obtain ⟨z₁, here₁, moves⟩ := passes.moves g _ there
  obtain rfl := Option.some.inj (here₁.symm.trans here)
  exact ⟨_, there, moves⟩

theorem Passes.trans (h₁ : Passes Kind s s₁) (h₂ : Passes Kind s₁ s') : Passes Kind s s' := by
  refine ⟨h₂.manifest.trans h₁.manifest, h₂.unwritable.trans h₁.unwritable, h₂.count.trans h₁.count,
    fun g z here => ?_⟩
  obtain ⟨z₁, here₁, moves₁⟩ := h₁.moves g z here
  obtain ⟨z', here', moves'⟩ := h₂.moves g z₁ here₁
  rw [h₁.manifest, h₁.unwritable] at moves'
  exact ⟨z', here', moves₁.trans moves'⟩

theorem Passes.current (passes : Passes Kind s s') : s'.current = s.current :=
  congrArg (· - 1) passes.count

/-- What every turn keeps is kept of each generation. -/
theorem Passes.keeps {P : Generation → Prop} (passes : Passes Kind s s')
    (kept : ∀ {z z'}, Kind s.manifest s.unwritable z z' → P z → P z')
    (here : s.generations[g]? = some z) (start : P z) : ∃ z', s'.generations[g]? = some z' ∧ P z' := by
  obtain ⟨z', here', moves⟩ := passes.moves g z here
  refine ⟨z', here', ?_⟩
  clear here'
  induction moves with
  | refl => exact start
  | tail _ turn ih => exact kept turn ih

end Passes

theorem Passes.moved (passes : Passes Serves s s') : Passes Moves s s' := by
  refine ⟨passes.manifest, passes.unwritable, passes.count, fun g z here => ?_⟩
  obtain ⟨z', there, serves⟩ := passes.moves g z here
  exact ⟨z', there, serves.lift id fun _ _ => .serves⟩

/-! ## What a generation's store is good for -/

/-- The record in a generation's store brings back what the queue asks for, as far as statuses can be
kept. -/
structure Faithful (m : Manifest) (lost : List String) (z : Generation) : Prop where
  sound : Queue.Sound m z.scheduler.queue
  mirrored : ∀ name ∉ lost, ∀ command, m.get? name = some command →
    (z.store.record.statusOf name).bind (Queue.restoredStatus command) =
      (z.scheduler.queue.get? name).bind Queue.Entry.survival

section Faithful

variable {lost : List String}

theorem faithful_start (m : Manifest) (lost : List String) (store : Store) :
    Faithful m lost ⟨.start m store.record, store⟩ :=
  ⟨Queue.sound_restored m store.record, fun name _ command known =>
    Queue.mirrored_restored m store.record name command known⟩

theorem Moves.faithful (moves : Moves m lost z z') (faithful : Faithful m lost z) :
    Faithful m lost z' := by
  obtain ⟨sound, mirrored⟩ := faithful
  rcases moves.acts with ⟨queue, kept⟩ | ⟨act, step, kept⟩
  · rw [← queue] at sound mirrored
    refine ⟨sound, fun name writable command known => ?_⟩
    rw [kept name writable]
    exact mirrored name writable command known
  · refine ⟨sound.step step, fun name writable command known => ?_⟩
    obtain ⟨status, turn, writes⟩ := step.turn name
    rw [turn.survival sound known, kept name writable, writes]
    cases status with
    | none =>
      rw [Option.none_or]
      exact mirrored name writable command known
    | some status => rfl

theorem Faithful.onward (faithful : Faithful m lost z) (moves : ReflTransGen (Moves m lost) z z') :
    Faithful m lost z' := by
  induction moves with
  | refl => exact faithful
  | tail _ moves ih => exact moves.faithful ih

/-- The record brings back as waiting just what the queue keeps and has not ended. -/
theorem Faithful.resumes (faithful : Faithful m lost z) {name : String} (writable : name ∉ lost)
    {command : Command} (known : m.get? name = some command) :
    (Queue.restored m z.store.record).statusOf name = some .waiting ↔
      Queue.Unfinished z.scheduler.queue name := by
  rw [Queue.statusOf_restored known, faithful.mirrored name writable command known]
  exact Queue.survival_waiting ..

end Faithful

/-! ## Steps -/

theorem passes_beginDrain (here : s.generations[g]? = some z) (key : String) (target : Option String) :
    Passes Moves s (s.beginDrain g key target) := by
  have subscribed := goes_update here z.scheduler.subscribe.1
  have waits : Goes s
      { s.updateScheduler g z.scheduler.subscribe.1 with
        drainers := s.drainers ++ [⟨key, g, z.scheduler.subscribe.2, target⟩] }
      g { z with scheduler := z.scheduler.subscribe.1 } := subscribed.same rfl rfl rfl
  rw [Supervision.beginDrain, here]
  exact (waits.trans (goes_signal waits.here .drain)).passes here (.single .drains)

theorem passes_drainer {d : Drainer} (here : s.generations[d.generation]? = some z)
    (taken : s.stepDrainer d z = some s') : Passes Serves s s' := by
  have told : ∀ watchers,
      Goes s (s.updateScheduler d.generation { z.scheduler with watchers }) d.generation
        { z with scheduler := { z.scheduler with watchers } } := fun watchers => goes_update here _
  have still : ∀ watchers, ReflTransGen (Serves s.manifest s.unwritable) z
      { z with scheduler := { z.scheduler with watchers } } := fun watchers => .single (.heard watchers)
  cases drainerTurn taken with
  | waits => exact (told _).passes here (still _)
  | @finds watchers | @closed watchers =>
    refine Goes.passes ((told (watchers.unsubscribe d.watcher)).same ?_ ?_ ?_) here (still _)
    all_goals rfl

variable [Host H]

theorem goes_keep (here : s.generations[g]? = some z) (w : StatusWrite) : ∃ store,
    Goes s (s.keep g w) g { z with store } ∧ z.store.Keeps s.unwritable [w] store := by
  dsimp only [keep]
  rw [show (s.note w.name (.wrote w.status)).generations[g]? = some z from here]
  dsimp only
  split
  · rename_i unwritable
    refine ⟨z.store, ⟨here, fun _ _ => rfl, rfl, rfl, rfl⟩, fun name writable => ?_⟩
    have other : name ≠ w.name := fun same => writable (same ▸ List.contains_iff_mem.1 unwritable)
    rw [Record.keep, List.foldl_cons, List.foldl_nil, Record.statusOf_setStatus, if_neg other]
  · refine ⟨_, goes_modify here (fun z => { z with store := _ }) _ _, fun name _ => ?_⟩
    exact Store.statusOf_setStatus ..

theorem goes_keepAll (here : s.generations[g]? = some z) (ws : List StatusWrite) : ∃ store,
    Goes s (s.keepAll g ws) g { z with store } ∧ z.store.Keeps s.unwritable ws store := by
  induction ws generalizing s z with
  | nil => exact ⟨z.store, .refl here, .none _ _⟩
  | cons w ws ih =>
    obtain ⟨store, goes, kept⟩ := goes_keep here w
    obtain ⟨store', goes', kept'⟩ := ih goes.here
    rw [goes.unwritable] at kept'
    exact ⟨store', goes.trans goes', kept.append kept'⟩

/-- A request that is refused changes nothing, and none changes a command that runs. -/
theorem goes_asked (here : s.generations[g]? = some z) (name : String) (persist : Bool) : ∃ z',
    Goes s (s.enqueue g name persist).1 g z' ∧
      ReflTransGen (Serves s.manifest s.unwritable) z z' ∧
        ∀ other, z.scheduler.queue.statusOf other = some .running →
          z'.scheduler.queue.statusOf other = some .running := by
  cases granted : z.scheduler.accept s.manifest name persist with
  | error fault =>
    rw [enqueue_refused (scheduler?_eq_some.2 ⟨z, here, rfl⟩) granted]
    exact ⟨z, .refl here, .refl, fun _ => id⟩
  | ok answer =>
    obtain ⟨y, write⟩ := answer
    have asked := goes_update here y
    obtain ⟨store, goes, kept⟩ := goes_keepAll asked.here write.toList
    have told := (asked.trans goes).trans (goes_signal goes.here (.enqueued name))
    refine ⟨_, ?_, .single (.asked name persist granted kept), fun other running => ?_⟩
    · rw [enqueue, here]
      dsimp only
      rw [granted]
      exact told
    · obtain ⟨queue, enqueued, rfl⟩ := Scheduler.accept_eq_ok granted
      obtain ⟨e, he, running⟩ := Queue.statusOf_eq_some.1 running
      rw [Scheduler.signal_queue]
      rcases (Queue.Step.accept name persist enqueued).running_stays he running with
        stays | ⟨_, _, ended, -⟩
      · exact Queue.statusOf_eq_some.2 ⟨e, stays, running⟩
      · cases ended

theorem passes_enqueue (s : Supervision H) (g : Nat) (name : String) (persist : Bool) :
    Passes Serves s (s.enqueue g name persist).1 := by
  cases here : s.generations[g]? with
  | none =>
    rw [(unasked_of_none (Option.map_eq_none_iff.2 here)).2.1]
    exact .same rfl rfl rfl
  | some z =>
    obtain ⟨z', goes, serves, -⟩ := goes_asked here name persist
    exact goes.passes here serves

theorem passes_turn (here : s.generations[g]? = some z) : Passes Serves s (s.turn g z.scheduler) := by
  have turned := goes_update here (z.scheduler.turn s.manifest).1
  obtain ⟨store, goes, kept⟩ := goes_keepAll turned.here (z.scheduler.turn s.manifest).2.writes
  refine Goes.passes ((turned.trans goes).same ?_ ?_ ?_) here (.single (.turned kept))
  all_goals rfl

/-- The end of a launch is noted, as that of a command that runs. -/
theorem goes_ended {l : Launched} (here : s.generations[l.generation]? = some z)
    (running : z.scheduler.queue.statusOf l.name = some .running) (result : Except Fault Unit) :
    ∃ z', Goes s (s.finish l result) l.generation z' ∧ Serves s.manifest s.unwritable z z' := by
  have noted := goes_update here (z.scheduler.finish l.name (.ofResult result)).1
  obtain ⟨store, goes, kept⟩ :=
    goes_keepAll noted.here (z.scheduler.finish l.name (.ofResult result)).2.toList
  refine ⟨_, ?_, .ended l.name (.ofResult result) running kept⟩
  unfold finish
  rw [here]
  cases result <;> exact (noted.trans goes).trans (goes_signal goes.here _)

/-- A task that ends or hands over is that of a command that runs. -/
theorem passes_task (taken : s.stepTask? = some s') (supervised : s.Supervised) :
    Passes Serves s s' := by
  obtain ⟨⟨h, tasks', request⟩, stepped, rfl⟩ := Option.map_eq_some_iff.1 taken
  obtain ⟨before, t, left, after, tasks, rfl, turned⟩ := Task.stepFirst?_eq_some stepped
  have mem : t ∈ s.tasks := tasks ▸ Traffic.mem_middle.2 (.inl rfl)
  have runs : ∀ {now : Traffic.Progress}, t.work.progress? = some now →
      ∃ z, s.generations[t.owner.generation]? = some z ∧
        z.scheduler.queue.statusOf t.owner.name = some .running := by
    intro now begun
    obtain ⟨x, first, here, reachable, run⟩ := supervised.run_of_task mem begun
    obtain ⟨z, there, rfl⟩ := scheduler?_eq_some.1 here
    exact ⟨z, there, reachable.matched.running run⟩
  have moved : ∀ {s' : Supervision H},
      Passes Serves { s with host := h, tasks := before ++ left ++ after } s' → Passes Serves s s' :=
    fun passes => ⟨passes.manifest, passes.unwritable, passes.count, passes.moves⟩
  apply moved
  dsimp only at turned ⊢
  cases turned with
  | silent | onward => exact .same rfl rfl rfl
  | @ended _ result begun =>
    obtain ⟨z, here, running⟩ := runs begun
    obtain ⟨z', goes, serves⟩ := goes_ended
      (s := { s with host := h, tasks := before ++ [] ++ after }) here running result
    exact goes.passes here (.single serves)
  | @handedOver _ _ target begun =>
    obtain ⟨z, here, running⟩ := runs begun
    obtain ⟨z₁, asked, serves, still⟩ := goes_asked
      (s := { s with host := h, tasks := before ++ [] ++ after }) here target false
    obtain ⟨z', noted, ended⟩ := goes_ended asked.here (still _ running) (Executor.handedOver _)
    rw [asked.manifest, asked.unwritable] at ended
    exact (asked.trans noted).passes here (serves.tail ended)

theorem Works.passes (works : Works s s') (supervised : s.Supervised) : Passes Serves s s' := by
  cases works with
  | turn here =>
    obtain ⟨z, there, rfl⟩ := scheduler?_eq_some.1 here
    exact passes_turn there
  | task taken => exact passes_task taken supervised
  | drainer _ here taken => exact passes_drainer here taken
  | host => exact .same rfl rfl rfl

theorem Inward.passes (inward : Inward s s') (supervised : s.Supervised) :
    Passes Moves s s' ∨ ∃ store, s' = s.start store := by
  cases inward with
  | turn here => exact .inl ((Works.turn here).passes supervised).moved
  | task taken => exact .inl (passes_task taken supervised).moved
  | drainer _ here taken => exact .inl (passes_drainer here taken).moved
  | host => exact .inl (.same rfl rfl rfl)
  | evict here =>
    obtain ⟨z, there, rfl⟩ := scheduler?_eq_some.1 here
    exact .inl ((goes_update there _).passes there (.single .evicted))
  | beginDrain g key target =>
    cases here : s.generations[g]? with
    | none =>
      rw [(unasked_of_none (Option.map_eq_none_iff.2 here)).2.2]
      exact .inl (.same rfl rfl rfl)
    | some z => exact .inl (passes_beginDrain here key target)
  | shutdown g =>
    cases here : s.generations[g]? with
    | none =>
      rw [(unasked_of_none (Option.map_eq_none_iff.2 here)).1]
      exact .inl (.same rfl rfl rfl)
    | some z => exact .inl ((goes_signal here _).passes here (.single .shutdown))
  | start store => exact .inr ⟨store, rfl⟩

/-- A generation goes on where others are started. -/
theorem Inward.moves (inward : Inward s s') (supervised : s.Supervised)
    (here : s.generations[g]? = some z) : ∃ z', s'.generations[g]? = some z' ∧
      ReflTransGen (Moves s.manifest s.unwritable) z z' := by
  rcases inward.passes supervised with passes | ⟨store, rfl⟩
  · exact passes.moves g z here
  · refine ⟨z, ?_, .refl⟩
    rw [Supervision.start, List.getElem?_append_left (List.getElem?_eq_some_iff.1 here).1]
    exact here

/-- Whatever may come, every generation's store is good for a restart. -/
theorem Arises.faithful (h : s.Arises m) (here : s.generations[g]? = some z) :
    Faithful m s.unwritable z := by
  induction h generalizing g z with
  | idle _ generations =>
    rw [generations] at here
    cases here
  | @inward s s' earlier inward ih =>
    have manifest := earlier.stocked.manifest
    rcases inward.passes earlier.supervised with passes | ⟨store, rfl⟩
    · obtain ⟨z₀, there, moves⟩ := passes.before here
      rw [manifest] at moves
      rw [passes.unwritable]
      exact (ih there).onward moves
    · by_cases old : g < s.generations.length
      · rw [Supervision.start, List.getElem?_append_left old] at here
        exact ih here
      · rw [Supervision.start, List.getElem?_append_right (Nat.le_of_not_lt old), manifest] at here
        obtain rfl := List.mem_singleton.1 (List.mem_of_getElem? here)
        exact faithful_start ..
  | @asked s earlier i name persist ih =>
    have passes := (passes_enqueue s i name persist).moved
    obtain ⟨z₀, there, moves⟩ := passes.before here
    rw [earlier.stocked.manifest] at moves
    rw [passes.unwritable]
    exact (ih there).onward moves

end Supervision

end Supervisor
