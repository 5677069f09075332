import Supervisor.Proofs.Scheduler.Dispatch
import Supervisor.Proofs.Supervision.Course

/-!
# What is accepted is carried out

A supervision over a manifest that has been resolved, on any host: its tasks go through procedures of
the manifest, those sent aside included, whichever generation they belong to. So none of them comes to
a refusal that resolving the manifest is there to prevent.
-/

namespace Supervisor

open Executor (Move)

/-- The task carries out the procedure when its turn comes. -/
inductive Work.Performs : Work → Procedure → Prop
  | listed {procedures rest : List Procedure} {p : Procedure}
      (next : Move.next procedures = .await p rest) : Performs (.list procedures) p
  | delayed (due : Nat) (p : Procedure) : Performs (.delayed due p) p

namespace Supervision

open Traffic (Reachable)

variable {H : Type} {s s' : Supervision H} {m : Manifest} {g : Nat} {x y : Scheduler} {p : Procedure}

/-- The launch of a task that goes through a list is one of its generation's traffic. -/
theorem Supervised.run_of_task (supervised : s.Supervised) {t : Task Launched} (mem : t ∈ s.tasks)
    {now : Traffic.Progress} (begun : t.work.progress? = some now) :
    ∃ x first, s.scheduler? t.owner.generation = some x ∧
      Reachable s.manifest first (s.traffic t.owner.generation x) ∧
        ⟨t.owner.name, now⟩ ∈ (s.traffic t.owner.generation x).runs := by
  obtain ⟨x, here⟩ := scheduler?_of_lt (supervised.tasks t mem)
  obtain ⟨first, reachable⟩ := supervised.reachable _ x here
  exact ⟨x, first, here, reachable, List.mem_filterMap.2 ⟨t, mem, runOf?_eq_some begun⟩⟩

theorem Supervised.sends (supervised : s.Supervised) {t : Task Launched} (mem : t ∈ s.tasks)
    (sends : t.work.Sends p) : s.manifest.Holds p ∧ p.mode ≠ .command := by
  obtain ⟨procedures, rest, work, next⟩ := sends
  obtain ⟨x, first, -, reachable, run⟩ := supervised.run_of_task mem (by rw [work]; rfl)
  obtain ⟨rfl, mode, -⟩ := Move.next_eq_detach next
  exact ⟨reachable.holds run List.mem_cons_self, mode⟩

/-- The manifest is the same, and what is to be done later was so before or has been sent aside. -/
structure Continues (s s' : Supervision H) : Prop where
  manifest : s'.manifest = s.manifest
  delayed : ∀ t ∈ s'.tasks, ∀ due p, t.work = .delayed due p →
    t ∈ s.tasks ∨ ∃ t' ∈ s.tasks, t'.work.Sends p

theorem Continues.same (manifest : s'.manifest = s.manifest) (tasks : s'.tasks = s.tasks) :
    Continues s s' :=
  ⟨manifest, fun _ mem _ _ _ => .inl (tasks ▸ mem)⟩

theorem Continues.becomes {s₁ : Supervision H} (continues : Continues s s₁)
    (becomes : Becomes s₁ s' g y) : Continues s s' :=
  ⟨becomes.manifest.trans continues.manifest, fun t mem => continues.delayed t (becomes.tasks ▸ mem)⟩

/-- What holds of whatever may come: what is to be done later comes from the manifest, and does not
hand over. -/
structure Stocked (m : Manifest) (s : Supervision H) : Prop where
  manifest : s.manifest = m
  delayed : ∀ t ∈ s.tasks, ∀ due p, t.work = .delayed due p → m.Holds p ∧ p.mode ≠ .command

theorem Stocked.onward (stocked : s.Stocked m) (supervised : s.Supervised)
    (continues : Continues s s') : s'.Stocked m := by
  obtain ⟨rfl, delayed⟩ := stocked
  refine ⟨continues.manifest, fun t mem due p later => ?_⟩
  rcases continues.delayed t mem due p later with old | ⟨t', mem', sends⟩
  · exact delayed t old due p later
  · exact supervised.sends mem' sends

theorem continues_drainer {d : Drainer} {z : Generation} (taken : s.stepDrainer d z = some s') :
    Continues s s' := by
  cases drainerTurn taken with
  | waits | finds | closed => exact .same rfl rfl

variable [Host H]

theorem continues_turn (here : s.scheduler? g = some x) : Continues s (s.turn g x) := by
  let launched : List (Task Launched) :=
    (x.turn s.manifest).2.launches.map fun l => ⟨⟨g, l.name⟩, .list l.command.procedures⟩
  have more : Continues s { s with tasks := s.tasks ++ launched } := by
    refine ⟨rfl, fun t mem due p delayed => ?_⟩
    rcases List.mem_append.1 mem with old | new
    · exact .inl old
    · obtain ⟨l, -, rfl⟩ := List.mem_map.1 new
      cases delayed
  exact more.becomes (becomes_turn here)

theorem continues_task (taken : s.stepTask? = some s') (supervised : s.Supervised) :
    Continues s s' := by
  obtain ⟨stepped, first, turn⟩ := taskTurn taken supervised
  have moved : Continues s { s with host := stepped.host, tasks := stepped.tasks } :=
    ⟨rfl, fun t mem due p delayed => Task.sends_of_stepFirst first mem delayed⟩
  cases turn with
  | apart => exact moved
  | own _ _ becomes => exact moved.becomes becomes

theorem Inward.continues (inward : Inward s s') (supervised : s.Supervised) : Continues s s' := by
  cases inward with
  | turn here => exact continues_turn here
  | task taken => exact continues_task taken supervised
  | drainer _ _ taken => exact continues_drainer taken
  | host | evict | start => exact .same rfl rfl
  | beginDrain g key target =>
    cases here : s.scheduler? g with
    | none =>
      rw [(unasked_of_none here).2.2]
      exact .same rfl rfl
    | some x =>
      have more : Continues s
          { s with drainers := s.drainers ++ [⟨key, g, x.subscribe.2, target⟩] } := .same rfl rfl
      exact more.becomes (becomes_beginDrain here key target)
  | shutdown g =>
    cases here : s.scheduler? g with
    | none =>
      rw [(unasked_of_none here).1]
      exact .same rfl rfl
    | some x => exact Continues.becomes (.same rfl rfl) (becomes_signal here _)

theorem continues_enqueue (g : Nat) (name : String) (persist : Bool) :
    Continues s (s.enqueue g name persist).1 := by
  cases here : s.scheduler? g with
  | none =>
    rw [(unasked_of_none here).2.1]
    exact .same rfl rfl
  | some x =>
    cases granted : x.accept s.manifest name persist with
    | error fault =>
      rw [enqueue_refused here granted]
      exact .same rfl rfl
    | ok answer => exact Continues.becomes (.same rfl rfl) (enqueue_granted here granted).1

/-! ## Whatever may come -/

theorem Arises.stocked (h : s.Arises m) : s.Stocked m := by
  induction h with
  | idle manifest _ tasks =>
    refine ⟨manifest, fun t mem => ?_⟩
    rw [tasks] at mem
    cases mem
  | inward earlier inward ih =>
    exact ih.onward earlier.supervised (inward.continues earlier.supervised)
  | asked earlier g name persist ih =>
    exact ih.onward earlier.supervised (continues_enqueue g name persist)

/-- Whatever a task carries out, now or later, can be. -/
theorem Arises.dispatchable (h : s.Arises m) (validated : m.Validated) {t : Task Launched}
    (mem : t ∈ s.tasks) (performs : t.work.Performs p) : p.Dispatchable := by
  have supervised := h.supervised
  obtain ⟨rfl, delayed⟩ := h.stocked
  cases work : t.work with
  | list procedures =>
    rw [work] at performs
    cases performs with
    | listed next =>
      obtain ⟨x, first, -, reachable, run⟩ := supervised.run_of_task mem (by rw [work]; rfl)
      obtain ⟨rfl, mode, -⟩ := Move.next_eq_await next
      exact validated.dispatchable (reachable.holds run List.mem_cons_self) mode
  | delayed due q =>
    rw [work] at performs
    cases performs with
    | delayed =>
      obtain ⟨holds, mode⟩ := delayed t mem due p work
      exact validated.dispatchable holds mode
  | awaiting | aside =>
    rw [work] at performs
    cases performs

/-- A task that hands over asks for a command that is known. -/
theorem Arises.handsOver (h : s.Arises m) (validated : m.Validated) {t : Task Launched}
    (mem : t ∈ s.tasks) {procedures : List Procedure} (work : t.work = .list procedures)
    (next : Move.next procedures = .handOver p) :
    ∃ target, Executor.target p = .ok target ∧ ∀ (host : H) tasks fault,
      (enqueue { s with host, tasks } t.owner.generation target false).2 = .error fault →
        fault = .alreadyQueued target ∨ fault = .alreadyCompletedOnce target := by
  have supervised := h.supervised
  obtain ⟨rfl, -⟩ := h.stocked
  obtain ⟨x, first, here, reachable, run⟩ := supervised.run_of_task mem (by rw [work]; rfl)
  obtain ⟨target, aim, known⟩ := reachable.handsOver validated run next
  refine ⟨target, aim, fun host tasks fault refused => ?_⟩
  have here : { s with host, tasks }.scheduler? t.owner.generation = some x := here
  have granted := accept_refused here refused
  exact known fault granted

/-- **What is accepted can be carried out.** Of a manifest that has been resolved, every procedure is
`Dispatchable` or hands over to a command that is there. So in whatever order callers, launches, the work
loop, those who wait and the processes take their turns, from any record: what a launch comes to and what
it has sent aside are `Dispatchable`, no process is called for without a program, a launch that hands over
is not refused for asking for something unknown, and whatever need a scan finds missing it is granted. In
a supervision on any host, what tasks carry out is over with a fault at once only where the host says so
or the mode is not supported, and what tasks hand over to is not unknown either. -/
theorem accepted_is_dispatched {m : Manifest} (validated : m.Validated) :
    (∀ p, m.Holds p → (p.mode ≠ .command → p.Dispatchable) ∧ (p.mode = .command →
      ∃ target command, Executor.target p = .ok target ∧ m.get? target = some command)) ∧
    (∀ first s, Plant.Reachable m first s →
      (∀ p, s.Dispatches p → p.Dispatchable) ∧
      (∀ request s', Plant.Step m s (.called request) s' → request.argv ≠ []) ∧
      (∀ name procedures p, ⟨name, .working procedures⟩ ∈ s.traffic.runs →
        Move.next procedures = .handOver p → ∃ target, Executor.target p = .ok target ∧
          ∀ fault, s.traffic.scheduler.accept m target false = .error fault →
            fault = .alreadyQueued target ∨ fault = .alreadyCompletedOnce target) ∧
      ∀ now persist need, Queue.Looks m s.traffic.scheduler.queue now persist need →
        now.queue.get? need = none → ∃ answer, now.queue.enqueue m need persist = .ok answer) ∧
    ∀ {H : Type} [Host H] (s : Supervision H), s.Arises m → ∀ t ∈ s.tasks,
      (∀ p, t.work.Performs p → p.Dispatchable ∧ ∀ (host host' : H) now fault,
        Host.perform host now p = (host', .over (.error fault)) → Host.Blames host now p fault) ∧
      ∀ procedures p, t.work = .list procedures → Move.next procedures = .handOver p →
        ∃ target, Executor.target p = .ok target ∧ ∀ (host : H) tasks fault,
          (enqueue { s with host, tasks } t.owner.generation target false).2 = .error fault →
            fault = .alreadyQueued target ∨ fault = .alreadyCompletedOnce target := by
  refine ⟨fun p holds => ⟨validated.dispatchable holds, validated.target holds⟩,
    fun first s h => ⟨?_, ?_, ?_, ?_⟩, fun s h t mem => ⟨?_, ?_⟩⟩
  · exact fun p => h.dispatchable validated
  · exact fun request s' => h.given validated
  · exact fun name procedures p => h.traffic.handsOver validated
  · intro now persist need looks missing
    exact looks.granted validated.wellFormed h.traffic.sound missing
  · intro p performs
    have dispatchable := h.dispatchable validated mem performs
    exact ⟨dispatchable, fun host host' now fault => dispatchable.blames⟩
  · intro procedures p work next
    exact h.handsOver validated mem work next

/-! ## A tour -/

def bell : Procedure := ⟨"bell", .exec, .argv ["ring"], .delayed 5, false⟩
def onward : Procedure := ⟨"greet.1", .command, .command "walk", .unsaid, false⟩

def greet : Command := ⟨"greet", .always, [], [bell, onward]⟩
def walk : Command := ⟨"walk", .always, ["map"], []⟩

/-- A greeting rings a bell later and leads on to a walk, which needs a map. -/
def tour : Manifest :=
  ⟨"m", none, none, .ofList [("greet", greet), ("map", ⟨"map", .once, [], []⟩), ("walk", walk)]⟩

/-- What its file states. -/
def tourDraft : Manifest.Draft :=
  ⟨"m", none, none, .ofList [("greet", ⟨.always, [],
      [⟨"exec", some (.array [.text "ring"]), some (.integer 5), some "bell", false⟩,
        ⟨"command", some (.text "walk"), none, none, false⟩]⟩),
    ("map", ⟨.once, [], []⟩), ("walk", ⟨.always, ["map"], []⟩)]⟩

theorem tour_validated : tour.Validated := by
  have placed : tourDraft.needs.misplaced? = none :=
    Manifest.Needs.misplaced_none_of_rank ["map", "walk", "greet"].idxOf (by decide +kernel)
  refine ⟨tourDraft, ?_⟩
  rw [Manifest.Draft.resolve, placed]
  decide +kernel

/-- The greeting runs, and somebody has asked for the walk. -/
def toured : Queue :=
  .ofList [("greet", ⟨.running, false, 1, greet⟩), ("walk", ⟨.waiting, false, 0, walk⟩)]

/-- A scan comes to the map, which is missing. -/
theorem looks_toured : Queue.Looks tour toured ⟨toured, {}, true⟩ false "map" :=
  .visiting (s := ⟨toured, {}, true⟩) (e := ⟨.waiting, false, 0, walk⟩) ["greet"] [] rfl rfl rfl rfl rfl

/-- The greeting has sent the bell aside and is about to hand over. -/
theorem reachable_tour : ∃ s, Plant.Reachable tour {} s ∧ s.asides = [bell] ∧
    s.traffic.runs = [⟨"greet", .working [onward]⟩] ∧ s.traffic.scheduler.queue = toured := by
  have asked : Plant.Reachable tour {} _ := .next .start
    (.turn (.caller (.enqueue "greet" false rfl)) (Plant.apart_of_moved (.inr (by decide))))
  have told := asked.next (.turn (.caller (.signal [] rfl)) (Plant.apart_of_moved (.inr (by decide))))
  have taken := told.next (.turn (.loop .take) (Plant.apart_of_moved (.inl (by decide))))
  have begun := taken.next (.turn (.loop .scan) (Plant.apart_of_moved (.inl (by decide))))
  have sent := begun.next (.proceed [] rfl (.sendAside rfl) (.sendAside _))
  have wanted := sent.next
    (.turn (.caller (.enqueue "walk" false rfl)) (Plant.apart_of_moved (.inr (by decide))))
  exact ⟨_, wanted, rfl, rfl, rfl⟩

/-- As the plant, so the supervision: the bell is to ring later and the greeting is about to hand
over. -/
theorem arises_tour : ∃ (s : Supervision Workshop) (later : Task Launched), s.Arises tour ∧
    s.tasks = [⟨⟨0, "greet"⟩, .list [onward]⟩, later] ∧ later.work = .delayed 5000 bell := by
  let workshop : Workshop := { disk := .empty, directory := [] }
  have idle : Arises tour { manifest := tour, host := workshop } := .idle rfl rfl rfl rfl
  have asked := (idle.inward (.start (.memory {} none))).asked 0 "greet" false
  have begun := asked.inward (.turn (g := 0) rfl)
  exact ⟨_, _, begun.inward (.task rfl), rfl, rfl⟩

theorem accepted_is_dispatched_tour :
    (∃ s, Plant.Reachable tour {} s ∧ s.Dispatches bell ∧ bell.Dispatchable ∧
      (∃ target, Executor.target onward = .ok target) ∧ s.traffic.scheduler.queue = toured ∧
      ∃ answer, toured.enqueue tour "map" false = .ok answer) ∧
    ∃ (s : Supervision Workshop) (t : Task Launched), s.Arises tour ∧ t ∈ s.tasks ∧
      t.work.Performs bell ∧ ∀ (host host' : Workshop) now fault,
        Host.perform host now bell = (host', .over (.error fault)) →
          Host.Blames host now bell fault := by
  obtain ⟨-, plants, supervisions⟩ := accepted_is_dispatched tour_validated
  obtain ⟨s, reachable, asides, runs, queue⟩ := reachable_tour
  obtain ⟨dispatchable, -, targets, granted⟩ := plants _ s reachable
  obtain ⟨s', later, arises, tasks, work⟩ := arises_tour
  have rings : s.Dispatches bell := .aside (asides ▸ List.mem_cons_self)
  obtain ⟨target, aim, -⟩ := targets "greet" [onward] onward (runs ▸ List.mem_cons_self) rfl
  have mem : later ∈ s'.tasks := tasks ▸ List.mem_cons_of_mem _ List.mem_cons_self
  have performs : later.work.Performs bell := work ▸ .delayed 5000 bell
  refine ⟨⟨s, reachable, rings, dispatchable _ rings, ⟨target, aim⟩, queue, ?_⟩, ?_⟩
  · rw [queue] at granted
    exact granted _ false "map" looks_toured rfl
  · exact ⟨s', later, arises, mem, performs, ((supervisions s' arises later mem).1 bell performs).2⟩

end Supervision

end Supervisor
