import Supervisor.Proofs.Manifest.Accepted
import Supervisor.Proofs.Queue.Asking
import Supervisor.Proofs.Scheduler.Spent
import Supervisor.Proofs.Supervision.Histories

/-!
# Working once

A daemon that works once asks for its commands, waits for all of its queue, and counts what has failed
when its loop has stopped. No request of known commands keeps it from beginning. Its loop works as
long as nobody ends it, so the one who waits for the queue leaves only once nothing is pending, and what
goes on afterwards changes no status.
-/

namespace Supervisor

open Relation (ReflTransGen)

namespace Scheduler

variable {x y : Scheduler} {m : Manifest}

/-- The loop works, and no trigger has been sent to end it. -/
structure Open (x : Scheduler) : Prop where
  works : x.loop.isShut = false
  unbidden : .shutdown ∉ x.triggers

theorem open_start (m : Manifest) (record : Record) : (start m record).Open := by
  refine ⟨rfl, fun mem => ?_⟩
  dsimp only [start] at mem
  split at mem
  · cases mem
  · cases List.mem_singleton.1 mem

theorem Open.alive (h : x.Open) : x.loop ≠ .stopped := by
  intro stopped
  have works := h.works
  rw [stopped] at works
  cases works

theorem Open.signal (h : x.Open) {t : Trigger} (more : t ≠ .shutdown) : (x.signal t).Open := by
  refine ⟨?_, fun mem => ?_⟩
  · rw [signal_loop]
    exact h.works
  · rw [signal_triggers x t h.alive] at mem
    rcases List.mem_append.1 mem with old | new
    · exact h.unbidden old
    · exact more (List.mem_singleton.1 new).symm

theorem Open.take (h : x.Open) : x.take.Open := by
  unfold Scheduler.take
  split
  · rename_i triggers
    exact absurd (triggers ▸ List.mem_cons_self) h.unbidden
  · rename_i triggers
    exact ⟨rfl, fun mem => h.unbidden (triggers ▸ List.mem_cons_of_mem _ mem)⟩
  · exact h

theorem Open.scan (h : x.Open) (m : Manifest) : (x.scan m).1.Open := by
  rcases x.scan_cases m with ⟨-, -, -, loop, triggers⟩ | ⟨-, same⟩
  · refine ⟨by rw [loop]; rfl, fun mem => ?_⟩
    rw [triggers] at mem
    rcases List.mem_append.1 mem with old | new
    · exact h.unbidden old
    · obtain ⟨_, -, same⟩ := List.mem_map.1 new
      cases same
  · rw [same]
    exact h

theorem Open.read (h : x.Open) : x.read.Open := by
  unfold Scheduler.read
  split
  · exact ⟨rfl, h.unbidden⟩
  · exact h

theorem Open.report (h : x.Open) : x.report.Open := by
  unfold Scheduler.report
  split
  · exact ⟨rfl, h.unbidden⟩
  · exact h

theorem Open.close (h : x.Open) : x.close.Open := by
  rcases x.close_cases with ⟨closing, -⟩ | same
  · have works := h.works
    rw [closing] at works
    cases works
  · rw [same]
    exact h

theorem Open.turn (h : x.Open) (m : Manifest) : (x.turn m).1.Open :=
  (h.take.scan m).read.report.close

end Scheduler

/-- A result tells how the commands of a queue have ended. -/
structure Queue.Tells (q : Queue) (result : Except Fault Unit) : Prop where
  ended : ∀ name status, q.snapshot.get? name = some status → status = .done ∨ status = .error
  ok_iff : result = .ok () ↔ ∀ name status, q.snapshot.get? name = some status → status = .done
  fault : result ≠ .ok () → ∃ names, result = .error (.commandsFailed names) ∧
    ∀ name, name ∈ names ↔ q.snapshot.get? name = some .error

namespace Supervision

variable {H : Type} {s s' : Supervision H} {g : Nat} {x : Scheduler} {z z' : Generation}
  {m : Manifest} {lost : List String} {d : Drainer}

theorem Serves.open (serves : Serves m lost z z') (h : z.scheduler.Open) : z'.scheduler.Open := by
  cases serves with
  | turned => exact h.turn m
  | asked name persist granted =>
    obtain ⟨queue, -, rfl⟩ := Scheduler.accept_eq_ok granted
    have granted : Scheduler.Open { z.scheduler with queue } := ⟨h.works, h.unbidden⟩
    exact granted.signal (fun same => by cases same)
  | ended name outcome =>
    have noted : (z.scheduler.finish name outcome).1.Open := ⟨h.works, h.unbidden⟩
    exact noted.signal (fun same => by cases same)
  | heard => exact ⟨h.works, h.unbidden⟩

/-! ## Waiting -/

/-- The loop of a drainer's generation works, and the drainer waits or has left nothing pending. -/
def Awaited (s : Supervision H) (d : Drainer) : Prop :=
  ∃ x, s.scheduler? d.generation = some x ∧ x.Open ∧ (d ∈ s.drainers ∨ x.queue.Spent)

/-- While the loop works nobody who waits is told that nothing more will come. -/
theorem Supervised.never_closed (supervised : s.Supervised) (mem : d ∈ s.drainers)
    (here : s.scheduler? d.generation = some x) (alive : x.loop ≠ .stopped) (watchers : Watchers)
    (names : List String) : x.watchers.poll d.watcher ≠ (watchers, .closed names) := by
  intro told
  obtain ⟨first, reachable⟩ := supervised.reachable _ x here
  have waiter : waiterOf? d.generation d = some ⟨d.watcher, d.target, .asleep⟩ := if_pos rfl
  have waits := List.mem_filterMap.2 ⟨d, mem, waiter⟩
  obtain ⟨w, found, unregistered⟩ := Watchers.unregistered_of_closed told
  obtain ⟨w', found', -, registered⟩ := reachable.attached.heard _ (List.mem_map_of_mem waits)
  obtain rfl := Option.some.inj (found.symm.trans found')
  rw [unregistered, eq_comm, Bool.not_eq_false'] at registered
  exact alive (reachable.attached.closed.1 registered)

/-- Who leaves while the loop works has found what he waits for. -/
theorem Supervised.left (supervised : s.Supervised) {d' : Drainer} {z : Generation}
    (there : s.generations[d'.generation]? = some z) (taken : s.stepDrainer d' z = some s')
    (mem : d ∈ s.drainers) (here : s.scheduler? d.generation = some x) (alive : x.loop ≠ .stopped) :
    d ∈ s'.drainers ∨ Scheduler.isDrained x.queue d.target = true := by
  have others : d = d' ∨ d ∈ s.drainers.filter (· ≠ d') := by
    by_cases same : d = d'
    · exact .inl same
    · exact .inr (List.mem_filter.2 ⟨mem, decide_eq_true same⟩)
  cases drainerTurn taken with
  | waits => exact .inl mem
  | finds _ drained =>
    rcases others with rfl | stays
    · obtain rfl := Option.some.inj (here.symm.trans (scheduler?_eq_some.2 ⟨z, there, rfl⟩))
      exact .inr drained
    · exact .inl stays
  | closed told =>
    rcases others with rfl | stays
    · obtain rfl := Option.some.inj (here.symm.trans (scheduler?_eq_some.2 ⟨z, there, rfl⟩))
      exact absurd told (supervised.never_closed mem here alive _ _)
    · exact .inl stays

theorem current?_eq (s : Supervision H) : s.current? = s.generations[s.current]? :=
  List.getLast?_eq_getElem? ..

theorem failedNames_eq (here : s.current? = some z) :
    s.failedNames = (z.scheduler.queue.snapshot.filter fun _ status => status = .error).keys := by
  rw [failedNames, here]

theorem isDraining_beginDrain (here : s.generations[g]? = some z) (key : String)
    (target : Option String) :
    (s.beginDrain g key target).isDraining g z.scheduler.watchers.nextId = true := by
  have becomes := becomes_beginDrain (scheduler?_eq_some.2 ⟨z, here, rfl⟩) key target
  rw [isDraining, becomes.drainers, List.any_eq_true]
  refine ⟨_, List.mem_append_right _ List.mem_cons_self, ?_⟩
  rw [Bool.and_eq_true, decide_eq_true_eq, decide_eq_true_eq]
  exact ⟨rfl, rfl⟩

variable [Host H]

theorem drainers_task (taken : s.stepTask? = some s') (supervised : s.Supervised) :
    s'.drainers = s.drainers := by
  obtain ⟨stepped, -, turn⟩ := taskTurn taken supervised
  cases turn with
  | apart => rfl
  | own _ _ becomes => exact becomes.drainers

/-- What is spent stays so while nobody asks. -/
theorem Inward.spent (inward : Inward s s') (supervised : s.Supervised)
    (here : s.scheduler? g = some x) (spent : x.queue.Spent) :
    ∃ x', s'.scheduler? g = some x' ∧ x'.queue.Spent := by
  by_cases restless : x.queue.Restless
  · obtain ⟨z, there, rfl⟩ := scheduler?_eq_some.1 here
    obtain ⟨z', there', moves⟩ := inward.moves supervised there
    have still := Moves.keeps moves (fun step restless => restless.step step) restless
    exact ⟨z'.scheduler, scheduler?_eq_some.2 ⟨z', there', rfl⟩, still.spent⟩
  · have settled := Queue.settled_iff.2 ⟨restless, spent⟩
    obtain ⟨x', here', within⟩ := inward.within supervised here settled
    exact ⟨x', here', (settled.within within).spent⟩

/-- A drainer goes on waiting, or finds what it waits for. -/
theorem Works.waits (works : Works s s') (supervised : s.Supervised) (mem : d ∈ s.drainers)
    (here : s.scheduler? d.generation = some x) (alive : x.loop ≠ .stopped) :
    d ∈ s'.drainers ∨ Scheduler.isDrained x.queue d.target = true := by
  cases works with
  | turn there =>
    refine .inl ?_
    rw [(becomes_turn there).drainers]
    exact mem
  | task taken =>
    refine .inl ?_
    rw [drainers_task taken supervised]
    exact mem
  | drainer _ there taken => exact supervised.left there taken mem here alive
  | host => exact .inl mem

theorem Works.awaited (works : Works s s') (supervised : s.Supervised) (whole : d.target = none)
    (awaited : s.Awaited d) : s'.Awaited d := by
  obtain ⟨x, here, isOpen, waits⟩ := awaited
  obtain ⟨z, there, rfl⟩ := scheduler?_eq_some.1 here
  obtain ⟨z', there', isOpen'⟩ := (works.passes supervised).keeps Serves.open there isOpen
  have here' : s'.scheduler? d.generation = some z'.scheduler :=
    scheduler?_eq_some.2 ⟨z', there', rfl⟩
  have spent : z.scheduler.queue.Spent → z'.scheduler.queue.Spent := by
    intro spent
    obtain ⟨x', found, spent'⟩ := works.inward.spent supervised here spent
    obtain rfl := Option.some.inj (found.symm.trans here')
    exact spent'
  refine ⟨z'.scheduler, here', isOpen', ?_⟩
  rcases waits with mem | old
  · refine (works.waits supervised mem here isOpen.alive).imp id fun drained => spent fun _ => ?_
    rw [whole] at drained
    exact List.isEmpty_iff.1 drained
  · exact .inr (spent old)

/-! ## Asking -/

/-- What is known is refused only while it is queued, or once it has ended for good. -/
theorem fault_of_known {name : String} {persist : Bool} {fault : Fault}
    (here : s.scheduler? g = some x) (known : (s.manifest.get? name).isSome = true)
    (refused : (s.enqueue g name persist).2 = .error fault) :
    fault = .alreadyQueued name ∨ fault = .alreadyCompletedOnce name := by
  obtain ⟨command, known⟩ := Option.isSome_iff_exists.1 known
  exact Queue.enqueue_known known (Scheduler.accept_eq_error (accept_refused here refused))

theorem passes_request (s : Supervision H) (names : List String) :
    Passes Serves s (s.request names).1 :=
  request_keeps (fun name passes => passes.trans (passes_enqueue _ _ name true)) names
    (.same rfl rfl rfl)

/-- A request of known commands is granted, whatever of them is queued or has ended. -/
theorem request_known {names : List String} (some : s.generations ≠ [])
    (known : ∀ name ∈ names, (s.manifest.get? name).isSome = true) : (s.request names).2 = .ok () := by
  induction names generalizing s with
  | nil => rfl
  | cons name names ih =>
    have count : s.generations.length ≠ 0 := fun none => some (List.length_eq_zero_iff.1 none)
    obtain ⟨x, here⟩ := scheduler?_of_lt (Nat.sub_one_lt count)
    have fault : ∀ fault, (s.enqueue s.current name true).2 = .error fault →
        fault = .alreadyQueued name ∨ fault = .alreadyCompletedOnce name := fun _ =>
      fault_of_known here (known name List.mem_cons_self)
    have asked := passes_enqueue s s.current name true
    unfold Supervision.request
    cases answer : s.enqueue s.current name true with
    | mk s₁ result =>
      rw [answer] at fault asked
      have more : (s₁.request names).2 = .ok () := by
        refine ih (fun none => ?_) fun name mem => ?_
        · rw [← asked.count, none] at count
          exact count rfl
        · rw [asked.manifest]
          exact known name (List.mem_cons_of_mem _ mem)
      cases result with
      | ok => exact more
      | error cause => rcases fault cause rfl with rfl | rfl <;> exact more

/-! ## From the beginning to the end -/

/-- A supervision of one generation whose drainer is waited for. -/
structure AtWork (s : Supervision H) (d : Drainer) : Prop where
  supervised : s.Supervised
  current : d.generation = s.current
  whole : d.target = none
  awaited : s.Awaited d

theorem AtWork.onward (h : s.AtWork d) (onward : ReflTransGen Works s s') : s'.AtWork d := by
  induction onward with
  | refl => exact h
  | tail _ works ih =>
    obtain ⟨supervised, current, whole, awaited⟩ := ih
    exact ⟨works.inward.supervised supervised,
      current.trans (works.passes supervised).current.symm, whole,
      works.awaited supervised whole awaited⟩

/-- Whatever a supervision does by itself leaves what is spent of its generation. -/
theorem spent_onward (supervised : s.Supervised) (onward : ReflTransGen Works s s')
    (here : s.scheduler? s.current = some x) (spent : x.queue.Spent) :
    ∃ x', s'.scheduler? s'.current = some x' ∧ x'.queue.Spent := by
  have kept : s'.Supervised ∧ ∃ x', s'.scheduler? s'.current = some x' ∧ x'.queue.Spent := by
    induction onward with
    | refl => exact ⟨supervised, x, here, spent⟩
    | tail _ works ih =>
      obtain ⟨supervised, x', here', spent'⟩ := ih
      refine ⟨works.inward.supervised supervised, ?_⟩
      rw [(works.passes supervised).current]
      exact works.inward.spent supervised here' spent'
  exact kept.2

/-- Once nobody waits any more and the loop has been told to end, all has ended for good. -/
theorem AtWork.leaves (h : s.AtWork d) (served : s.isDraining s.current d.watcher = false)
    (ended : ReflTransGen Works (s.signal s.current .shutdown) s') :
    ∃ z, s'.current? = some z ∧
      (¬ z.scheduler.queue.Restless → z.scheduler.queue.Leaves s'.failedNames) := by
  obtain ⟨supervised, current, -, x, here, -, waits⟩ := h
  have gone : d ∉ s.drainers := by
    intro mem
    rw [isDraining, List.any_eq_false] at served
    exact served d mem (by simp [current])
  have spent := waits.resolve_left gone
  rw [current] at here
  have told : (s.signal s.current .shutdown).current = s.current :=
    congrArg (· - 1) (becomes_signal here .shutdown).count
  obtain ⟨x₁, here₁, spent₁⟩ := (Inward.shutdown s.current).spent supervised here spent
  obtain ⟨x', here', spent'⟩ := spent_onward (supervised.shutdown s.current) ended
    ((congrArg _ told).trans here₁) spent₁
  obtain ⟨z, there, rfl⟩ := scheduler?_eq_some.1 here'
  have there : s'.current? = some z := (current?_eq s').trans there
  refine ⟨z, there, fun rests => ?_⟩
  rw [failedNames_eq there]
  exact (Queue.settled_iff.2 ⟨rests, spent'⟩).leaves

/-- A supervision that has begun, with all that it was asked for, and is waited for. -/
theorem AtWork.begun (idle : s.generations = []) (tasks : s.tasks = []) (drainers : s.drainers = [])
    (store : Store) (names : List String) {s₁ : Supervision H}
    (begun : ((s.start store).request names).1 = s₁) (key : String) : ∃ z, s₁.current? = some z ∧
      (s₁.beginDrain s₁.current key none).AtWork
        ⟨key, s₁.current, z.scheduler.watchers.nextId, none⟩ := by
  have arises : s.Arises s.manifest := .idle rfl idle tasks drainers
  have asked := (arises.inward (.start store)).request names
  have passes := passes_request (s.start store) names
  rw [begun] at asked passes
  have first : (s.start store).generations[0]? = some ⟨.start s.manifest store.record, store⟩ := by
    rw [Supervision.start, idle]
    rfl
  have place : (s.start store).current = 0 := by
    rw [Supervision.current, Supervision.start, idle]
    rfl
  obtain ⟨z, here, isOpen⟩ := passes.keeps Serves.open first (Scheduler.open_start ..)
  rw [← place, ← passes.current] at here
  have here' : s₁.scheduler? s₁.current = some z.scheduler := scheduler?_eq_some.2 ⟨z, here, rfl⟩
  have becomes := becomes_beginDrain here' key none
  have count : (s₁.beginDrain s₁.current key none).generations.length = s₁.generations.length :=
    becomes.count
  refine ⟨z, (current?_eq s₁).trans here, asked.supervised.beginDrain .., ?_, rfl, ?_⟩
  · exact congrArg (· - 1) count.symm
  · have subscribed : z.scheduler.subscribe.1.Open := ⟨isOpen.works, isOpen.unbidden⟩
    refine ⟨_, becomes.here, subscribed.signal (fun same => by cases same), .inl ?_⟩
    rw [becomes.drainers]
    exact List.mem_append_right _ List.mem_cons_self

end Supervision

namespace Daemon

open Supervision

variable {disk : Disk} {directory root : Place} {args : CommandLine.Arguments} {m : Manifest}
  {store : Store} {d : Daemon}

theorem requested_known (validated : m.Validated)
    (known : ∀ name ∈ args.commands, (m.get? name).isSome = true) :
    ∀ name ∈ requested args m, (m.get? name).isSome = true := by
  intro name mem
  rw [requested] at mem
  split at mem
  · obtain ⟨command, found⟩ := validated.init_known (Option.mem_toList.1 mem)
    exact Option.isSome_iff_exists.2 ⟨command, found⟩
  · exact known name mem

theorem start_once (disk : Disk) (root : Place) (store : Store) (once : args.once = true)
    (known : ∀ name ∈ requested args m, (m.get? name).isSome = true) :
    ∃ d drainer, start disk root m store args = .ok d ∧ d.once = true ∧
      d.supervision.AtWork drainer ∧ drainer.watcher = d.watcher := by
  let idle : Supervision Workshop := { manifest := m, host := { disk, directory := root } }
  obtain ⟨z, here, atWork⟩ :=
    AtWork.begun (s := idle) rfl rfl rfl store (requested args m) rfl "drain"
  have granted : ((idle.start store).request (requested args m)).2 = .ok () :=
    request_known (List.append_ne_nil_of_right_ne_nil _ (List.cons_ne_nil _ _)) known
  unfold start
  dsimp only
  cases answer : (idle.start store).request (requested args m) with
  | mk s result =>
    rw [answer] at here atWork granted
    obtain rfl : result = .ok () := granted
    dsimp only at here atWork ⊢
    rw [here, once]
    exact ⟨_, _, rfl, rfl, atWork, rfl⟩

theorem serve_once (d : Daemon) (interrupt : Option Interrupt) :
    (d.serve interrupt).once = d.once := by
  cases interrupt with
  | none => rw [serve]
  | some i => rw [serve]

theorem boot_eq_start (loaded : Manifest.load disk directory args.manifest = .ok m)
    (wet : args.dryRun = false)
    (opened : openStore disk directory (rootOf disk directory args.manifest) m args = .ok store) :
    boot disk directory args = start disk (rootOf disk directory args.manifest) m store args := by
  unfold boot
  rw [loaded]
  simp only [Except.mapError, bind, Except.bind, wet, Bool.false_eq_true, if_false, opened]

theorem run_eq_finish (begun : boot disk directory args = .ok d) (interrupt : Option Interrupt) :
    run disk directory args interrupt = (d.serve interrupt).finish := by
  rw [run, begun]

end Daemon

theorem Queue.Leaves.tells {q : Queue} {failed : List String} (leaves : q.Leaves failed) :
    q.Tells (if failed ≠ [] then .error (.commandsFailed failed) else .ok ()) := by
  by_cases none : failed = []
  · rw [if_neg (not_not.2 none)]
    exact ⟨leaves.ended, iff_of_true rfl (leaves.none_failed.1 none), fun fault => absurd rfl fault⟩
  · rw [if_pos none]
    refine ⟨leaves.ended, iff_of_false (fun ok => by cases ok) fun done => ?_, fun _ => ?_⟩
    · exact none (leaves.none_failed.2 done)
    · exact ⟨failed, rfl, leaves.failed⟩

namespace Daemon

open Supervision

/-- **A daemon that works once tells how all has ended.** In whatever order the work loop, launches,
callers and those who wait take their turns, from any record: somebody who has waited for all of the
queue while the loop works and looks at it later finds every command ended, if nothing in it starts
again by itself and nobody has asked since. A supervision on any host, over any store, is never refused
known commands at its beginning, resumed, ended or repeated ones included. Once its drainer has left it
is told to end, and then, however long what it has begun goes on, `failedNames` lists the failed
commands and all others are done. So does the result of a daemon that is not interrupted. -/
theorem once_tells :
    (∀ (m : Manifest) (first : Record) (s₀ s₁ s₂ : Traffic) (watcher : Nat),
      Traffic.Reachable m first s₀ → ⟨watcher, none, .leaving⟩ ∉ s₀.waiters →
      ReflTransGen (Traffic.Inward m) s₀ s₁ → ⟨watcher, none, .leaving⟩ ∈ s₁.waiters →
      s₁.scheduler.loop ≠ .stopped → ReflTransGen (Traffic.Inward m) s₁ s₂ →
      ¬ s₂.scheduler.queue.Restless → s₂.scheduler.queue.Leaves
        (s₂.scheduler.queue.snapshot.filter fun _ status => status = .error).keys) ∧
    (∀ {H : Type} [Host H] (s : Supervision H) (store : Store) (names : List String),
      s.generations = [] → s.tasks = [] → s.drainers = [] →
      (∀ name ∈ names, (s.manifest.get? name).isSome = true) →
      ∃ s₁ watcher, (s.start store).request names = (s₁, .ok ()) ∧
        (s₁.beginDrain s₁.current "drain" none).isDraining s₁.current watcher = true ∧
        ∀ s₂ s₃, ReflTransGen Works (s₁.beginDrain s₁.current "drain" none) s₂ →
          s₂.isDraining s₂.current watcher = false →
          ReflTransGen Works (s₂.signal s₂.current .shutdown) s₃ → ∃ z, s₃.current? = some z ∧
            (¬ z.scheduler.queue.Restless → z.scheduler.queue.Leaves s₃.failedNames)) ∧
    ∀ (disk : Disk) (directory : Place) (args : CommandLine.Arguments) (m : Manifest) (store : Store),
      Manifest.load disk directory args.manifest = .ok m → args.once = true → args.dryRun = false →
      openStore disk directory (rootOf disk directory args.manifest) m args = .ok store →
      (∀ name ∈ args.commands, (m.get? name).isSome = true) →
      ∃ d, boot disk directory args = .ok d ∧ ∀ interrupt,
        d.isServed (d.serve interrupt).supervision = true →
        ∃ z, (d.serve interrupt).supervision.shutDown.current? = some z ∧
          (¬ z.scheduler.queue.Restless →
            z.scheduler.queue.Tells (run disk directory args interrupt).result) := by
  refine ⟨fun m first s₀ s₁ s₂ watcher h waits served left working onward rests => ?_,
    fun s store names idle tasks drainers known => ?_,
    fun disk directory args m store loaded once wet opened known => ?_⟩
  · exact h.leaves waits served left working onward rests
  · obtain ⟨z, here, atWork⟩ := AtWork.begun idle tasks drainers store names rfl "drain"
    have granted := request_known (s := s.start store)
      (List.append_ne_nil_of_right_ne_nil _ (List.cons_ne_nil _ _)) known
    refine ⟨_, z.scheduler.watchers.nextId, Prod.ext rfl granted, ?_, fun s₂ s₃ works served ended => ?_⟩
    · rw [current?_eq] at here
      exact isDraining_beginDrain here "drain" none
    · exact (atWork.onward works).leaves served ended
  · obtain ⟨draft, -, resolved⟩ := bind_eq_ok_iff.1 loaded
    have asked : ∀ name ∈ requested args m, (m.get? name).isSome = true :=
      requested_known ⟨draft, resolved⟩ known
    obtain ⟨d, drainer, begun, works, atWork, watcher⟩ :=
      start_once disk (rootOf disk directory args.manifest) store once asked
    rw [← boot_eq_start loaded wet opened] at begun
    refine ⟨d, begun, fun interrupt served => ?_⟩
    have there := atWork.onward (works_serve d interrupt)
    rw [isServed, works, Bool.true_and, Bool.not_eq_true', ← watcher] at served
    obtain ⟨z, here, leaves⟩ := there.leaves served (works_shutDown _)
    refine ⟨z, here, fun rests => ?_⟩
    have tells := (leaves rests).tells
    rw [run_eq_finish begun, finish]
    simpa only [serve_once d interrupt, works, true_and] using tells

/-! ## Chores -/

/-- A command that has nothing to do, and one that cannot be carried out. -/
def choresText : String :=
  "name = \"m\"\n[commands.rest]\n[commands.work]\nneeds = [\"rest\"]\nprocedures = [\x7bmode = \"guess\"\x7d]\n"

def choresDisk : Disk := ⟨.ofList [("scroll.toml", .file (.text choresText))]⟩

def choresDraft : Manifest.Draft :=
  ⟨"m", none, none, .ofList [("rest", ⟨.always, [], []⟩),
    ("work", ⟨.always, ["rest"], [⟨"guess", none, none, none, false⟩]⟩)]⟩

def chores : Manifest :=
  ⟨"m", none, none, .ofList [("rest", ⟨"rest", .always, [], []⟩),
    ("work", ⟨"work", .always, ["rest"], [⟨"work.0", .unsupported "guess", .empty, .unsaid, false⟩]⟩)]⟩

def choresOnce : CommandLine.Arguments := { once := true, noPersist := true, commands := ["work"] }

theorem chores_read : Manifest.loadDraft choresDisk [] "scroll.toml" = .ok choresDraft := by
  rw [Manifest.loadDraft]
  rfl

theorem chores_load : Manifest.load choresDisk [] "scroll.toml" = .ok chores := by
  have placed : choresDraft.needs.misplaced? = none :=
    Manifest.Needs.misplaced_none_of_rank ["rest", "work"].idxOf (by decide +kernel)
  have resolved : choresDraft.resolve = .ok chores := by
    rw [Manifest.Draft.resolve, placed]
    decide +kernel
  rw [Manifest.load, chores_read]
  exact resolved

/-- The daemon has asked for the work, and waits. -/
def choresBegun : Daemon where
  supervision :=
    (request (Supervision.start { manifest := chores, host := { disk := choresDisk, directory := [] } }
      (.inMemory chores.fingerprint)) ["work"]).1.beginDrain 0 "drain" none
  once := true
  watcher := 0

/-- It serves at once, and this is what it leaves. -/
theorem chores_served : choresBegun.isServed (choresBegun.serve none).supervision = true ∧
    ∃ z, (choresBegun.serve none).supervision.shutDown.current? = some z ∧
      ¬ z.scheduler.queue.Restless ∧ z.scheduler.queue.snapshot.get? "work" = some .error := by
  have serve : choresBegun.serve none =
      { choresBegun with supervision := Timed.settle choresBegun.supervision } := by
    rw [Daemon.serve, Timed.advance_of_enough (by decide +kernel)]
    rfl
  rw [serve]
  refine ⟨by decide +kernel, ?_⟩
  generalize served : Timed.settle choresBegun.supervision = s
  have shutDown : s.shutDown.current? = (Timed.settle (s.signal s.current .shutdown)).current? := by
    rw [Supervision.shutDown, Timed.advance_of_enough (by rw [← served]; decide +kernel)]
    rfl
  have last : (Timed.settle (s.signal s.current .shutdown)).current?.any (fun z =>
      !decide z.scheduler.queue.Restless &&
        decide (z.scheduler.queue.snapshot.get? "work" = some .error)) = true := by
    rw [← served]
    decide +kernel
  rw [← shutDown] at last
  obtain ⟨z, here, found⟩ := (Option.any_eq_true ..).1 last
  simp only [Bool.and_eq_true, Bool.not_eq_true', decide_eq_true_eq, decide_eq_false_iff_not] at found
  exact ⟨z, here, found⟩

/-- Somebody waits while the loop sleeps; the first command has been done, and he has been woken. -/
theorem reachable_rested : ∃ s, Traffic.Reachable chores {} s ∧
    s.waiters = [⟨0, none, .awake⟩] ∧ s.scheduler.loop = .idle ∧
      s.scheduler.queue = .ofList [("rest", ⟨.done, false, 1, ⟨"rest", .always, [], []⟩⟩)] := by
  have asked : Traffic.Reachable chores {} _ := .next .start (.caller (.enqueue "rest" false rfl))
  have begun := (asked.next (.caller (.signal [] rfl))).turned
  have ended := (begun.next (.run (.proceed [] rfl (.finish rfl)))).finished rfl
  have subscribed := ended.turned.next (.waiter (.subscribe none))
  have told := (subscribed.next (.waiter (.signal [] rfl))).turned
  exact ⟨_, told.next (.waiter (.wake [] rfl rfl)), rfl, rfl, rfl⟩

/-- Whoever has waited for the rest finds all done; the work fails, and the daemon says so. -/
theorem once_tells_chores :
    (∃ s₀ s₁ s₂ watcher, Traffic.Reachable chores {} s₀ ∧
      ReflTransGen (Traffic.Inward chores) s₀ s₁ ∧ ⟨watcher, none, .leaving⟩ ∈ s₁.waiters ∧
      ReflTransGen (Traffic.Inward chores) s₁ s₂ ∧ s₂.scheduler.queue.Leaves
        (s₂.scheduler.queue.snapshot.filter fun _ status => status = .error).keys) ∧
    ∃ d names, boot choresDisk [] choresOnce = .ok d ∧
      d.isServed (d.serve none).supervision = true ∧
      (run choresDisk [] choresOnce none).result = .error (.commandsFailed names) ∧
        "work" ∈ names := by
  obtain ⟨traffic, -, daemon⟩ := once_tells
  constructor
  · obtain ⟨s, reachable, waiters, loop, queue⟩ := reachable_rested
    have waits : ⟨0, none, .leaving⟩ ∉ s.waiters := by
      rw [waiters]
      exact fun mem => by cases List.mem_singleton.1 mem
    have rests : ¬ s.scheduler.queue.Restless := by
      rw [queue]
      decide
    have drained : Scheduler.isDrained s.scheduler.queue none = true := by
      rw [queue]
      decide
    have looks := Traffic.WaiterTurn.look [] waiters
    rw [if_pos drained] at looks
    have decides : Traffic.Inward chores s { s with waiters := [⟨0, none, .leaving⟩] } :=
      ⟨.waiter looks, fun name same => List.cons_ne_self _ _ same.symm⟩
    have goes : Traffic.Inward chores { s with waiters := [⟨0, none, .leaving⟩] } _ :=
      ⟨.waiter (.leave [] rfl), fun name same => List.cons_ne_self _ _ same.symm⟩
    refine ⟨s, _, _, 0, reachable, .single decides, List.mem_cons_self, .single goes, ?_⟩
    refine traffic chores {} s _ _ 0 reachable waits (.single decides) List.mem_cons_self ?_
      (.single goes) rests
    rw [loop]
    exact Loop.noConfusion
  · have opened : openStore choresDisk [] (rootOf choresDisk [] choresOnce.manifest) chores choresOnce =
        .ok (.inMemory chores.fingerprint) := rfl
    obtain ⟨d, begun, told⟩ := daemon choresDisk [] choresOnce chores (.inMemory chores.fingerprint)
      chores_load rfl rfl opened fun name mem => by
        obtain rfl := List.mem_singleton.1 mem
        rfl
    have booted := @boot_eq_start choresDisk [] choresOnce chores _ chores_load rfl opened
    rw [booted] at begun
    obtain rfl : choresBegun = d := Except.ok.inj begun
    obtain ⟨served, z, here, rests, failed⟩ := chores_served
    obtain ⟨z', here', tells⟩ := told none served
    obtain rfl := Option.some.inj (here.symm.trans here')
    have fault : (run choresDisk [] choresOnce none).result ≠ .ok () := by
      intro ok
      cases (tells rests).ok_iff.1 ok "work" _ failed
    obtain ⟨names, result, named⟩ := (tells rests).fault fault
    exact ⟨choresBegun, names, booted.trans begun, served, result, (named "work").2 failed⟩

end Daemon

end Supervisor
