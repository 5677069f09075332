import Supervisor.Daemon
import Supervisor.Proofs.Scheduler.Wakeup
import Supervisor.Proofs.Supervision.Drained

/-!
# The course of a supervision

What may come of a supervision over a manifest is always supervised: its generations and their callers
are where a scheduler may come to. So a command that runs has one list of procedures under way and no
other has any, and once the supervision rests, whatever could be launched has been. A daemon that boots
has resolved a manifest, and what it does from then on may come of a supervision over it.
-/

namespace Supervisor

namespace Timed

variable {S : Type} [Timed S] {P : S → Prop}

theorem settleWithin_keeps (step : ∀ {s s' : S}, step? s = some s' → P s → P s') (fuel : Nat) {s : S}
    (h : P s) : P (settleWithin fuel s) := by
  induction fuel generalizing s with
  | zero => exact h
  | succ fuel ih =>
    unfold settleWithin
    split
    · rename_i taken
      exact ih (step taken h)
    · exact h

/-- What each step and the passing of time keep, is kept however long time passes. -/
theorem advanceFrom_keeps (step : ∀ {s s' : S}, step? s = some s' → P s → P s')
    (time : ∀ {s : S} (moment : Nat), P s → P (withNow s moment)) (limit : Nat) (enough : S → Bool)
    (moment : Nat) {s : S} (h : P s) : P (advanceFrom limit enough moment s) := by
  have settled : ∀ moment {s : S}, P s → P (settle (withNow s moment)) := fun moment _ h =>
    settleWithin_keeps step _ (time moment h)
  fun_induction advanceFrom limit enough moment s with
  | case1 => exact settled _ h
  | case2 => exact time _ (settled _ h)
  | case3 moment s _ _ due _ _ ih => exact ih (settled _ h)
  | case4 => exact time _ (settled _ h)

theorem advance_keeps (step : ∀ {s s' : S}, step? s = some s' → P s → P s')
    (time : ∀ {s : S} (moment : Nat), P s → P (withNow s moment)) (limit : Nat) (enough : S → Bool)
    {s : S} (h : P s) : P (advance s limit enough) :=
  advanceFrom_keeps step time limit enough (now s) h

/-- Where enough has happened once all is settled, no time passes. -/
theorem advance_of_enough {s : S} {enough : S → Bool}
    (settled : enough (settle (withNow s (now s))) = true) (limit : Nat) :
    advance s limit enough = settle (withNow s (now s)) := by
  rw [advance, advanceFrom]
  exact if_pos settled

end Timed

namespace Supervision

open Relation (ReflTransGen)
open Traffic (Reachable)

variable {H : Type} {s s' : Supervision H} {m : Manifest} {g : Nat} {x : Scheduler}

/-- Of each command one list of procedures is under way if the command runs, and none otherwise. -/
theorem Supervised.one_list (supervised : Supervised s) (here : s.scheduler? g = some x)
    (name : String) :
    (s.tasks.countP fun t => t.owner = ⟨g, name⟩ && t.work.progress?.isSome) =
      if x.queue.statusOf name = some .running then 1 else 0 := by
  obtain ⟨first, reachable⟩ := supervised.reachable g x here
  have matched := reachable.matched name
  rw [Queue.runCount_get?, Traffic.underway, traffic, List.countP_filterMap] at matched
  rw [← matched]
  refine List.countP_congr fun t _ => ?_
  obtain ⟨⟨generation, command⟩, work⟩ := t
  by_cases own : generation = g
  · cases begun : work.progress? <;> simp [runOf?, own, begun]
  · simp [runOf?, own]

variable [Host H]

/-- What each request keeps, is kept by all of them, however many are granted. -/
theorem request_keeps {P : Supervision H → Prop}
    (asked : ∀ {s : Supervision H} (name : String), P s → P (s.enqueue s.current name true).1)
    (names : List String) (h : P s) : P (s.request names).1 := by
  induction names generalizing s with
  | nil => exact h
  | cons name names ih =>
    have first := asked name h
    unfold Supervision.request
    split <;> rename_i answer <;> rw [answer] at first
    · exact ih first
    · exact ih first
    · exact ih first
    · exact first

/-! ## Time passes -/

theorem works_settle (s : Supervision H) : ReflTransGen Works s (Timed.settle s) :=
  Timed.settleWithin_keeps (fun taken works => works.tail (works_of_step taken)) _ .refl

theorem works_advance (s : Supervision H) (limit : Nat) (enough : Supervision H → Bool) :
    ReflTransGen Works s (Timed.advance s limit enough) :=
  Timed.advance_keeps (fun taken works => works.tail (works_of_step taken))
    (fun {s} moment works => works.tail (.host s.host moment)) limit enough .refl

theorem works_shutDown (s : Supervision H) :
    ReflTransGen Works (s.signal s.current .shutdown) s.shutDown :=
  (works_advance _ _ _).tail (.host _ _)

/-! ## Whatever may come -/

/-- What may come of a supervision over a manifest, from before anything has been started. -/
inductive Arises (m : Manifest) : Supervision H → Prop
  | idle {s : Supervision H} (manifest : s.manifest = m) (generations : s.generations = [])
      (tasks : s.tasks = []) (drainers : s.drainers = []) : Arises m s
  | inward {s s' : Supervision H} (earlier : Arises m s) (inward : Inward s s') : Arises m s'
  | asked {s : Supervision H} (earlier : Arises m s) (g : Nat) (name : String) (persist : Bool) :
      Arises m (s.enqueue g name persist).1

theorem Arises.supervised (h : s.Arises m) : s.Supervised := by
  induction h with
  | idle _ generations tasks drainers => exact .idle generations tasks drainers
  | inward _ inward ih => exact inward.supervised ih
  | asked _ g name persist ih => exact ih.enqueue g name persist

theorem Arises.works (h : s.Arises m) (onward : ReflTransGen Works s s') : s'.Arises m := by
  induction onward with
  | refl => exact h
  | tail _ works ih => exact ih.inward works.inward

theorem Arises.request (h : s.Arises m) (names : List String) : (s.request names).1.Arises m :=
  request_keeps (fun name h => h.asked _ name true) names h

theorem Arises.shutDown (h : s.Arises m) : s.shutDown.Arises m :=
  (h.inward (.shutdown s.current)).works (works_shutDown s)

/-! ## At rest -/

theorem asleep_of_stepLoop? (rests : s.stepLoop? = none) (here : s.scheduler? g = some x) :
    x.isAwake = false := by
  obtain ⟨z, hz, rfl⟩ := scheduler?_eq_some.1 here
  cases found : s.generations.findIdx? fun z => z.scheduler.isAwake with
  | none => exact List.findIdx?_eq_none_iff.1 found z (List.mem_of_getElem? hz)
  | some i =>
    obtain ⟨lt, -⟩ := List.findIdx?_eq_some_iff_getElem.1 found
    rw [stepLoop?, found, Option.bind_some, List.getElem?_eq_getElem lt] at rests
    cases rests

theorem not_prompted_of_rest (rests : s.step? = none) (here : s.scheduler? g = some x)
    (isOpen : x.loop.isShut = false) : ¬ (s.traffic g x).Prompted := by
  have loops : s.stepLoop? = none := by
    unfold step? at rests
    split at rests
    · cases rests
    · cases loop : s.stepLoop? with
      | none => rfl
      | some s' =>
        rw [loop] at rests
        cases rests
  have asleep := asleep_of_stepLoop? loops here
  have idle : x.loop = .idle ∧ x.triggers = [] := by
    unfold Scheduler.isAwake at asleep
    split at asleep
    · rename_i stopped
      rw [stopped] at isOpen
      cases isOpen
    · exact ⟨‹_›, ‹_›⟩
    · cases asleep
  refine Traffic.not_prompted idle.2 rfl (fun r mem target due => ?_) fun woken => ?_
  · obtain ⟨t, -, run⟩ := List.mem_filterMap.1 mem
    unfold runOf? at run
    split at run
    · obtain ⟨now, begun, rfl⟩ := Option.map_eq_some_iff.1 run
      exact t.work.progress?_ne_announcing target (begun.trans (congrArg some due))
    · cases run
  · cases idle.1.symm.trans woken

/-- **A supervision rests when there is nothing left to launch.** Where no step can be taken, a
command in the queue of a working generation whose needs are done runs or is settled, and a `restart`
command runs. -/
theorem Supervised.launched (supervised : Supervised s) (here : s.scheduler? g = some x)
    (isOpen : x.loop.isShut = false) (rests : s.step? = none) {name : String} {e : Queue.Entry}
    (found : x.queue.get? name = some e)
    (done : ∀ need ∈ e.command.needs, x.queue.statusOf need = some .done) :
    (e.status = .running ∨ e.isSettled = true) ∧
      (e.command.policy = .restart → e.status = .running) := by
  obtain ⟨first, reachable⟩ := supervised.reachable g x here
  have quiet := not_prompted_of_rest rests here isOpen
  exact Queue.launched_of_none (fun work => quiet (reachable.attended isOpen work)) found done

end Supervision

namespace Daemon

open Supervision

variable {disk : Disk} {directory root : Place} {args : CommandLine.Arguments} {m : Manifest}
  {store : Store} {d : Daemon}

theorem start_arises (begun : start disk root m store args = .ok d) : d.supervision.Arises m := by
  let idle : Supervision Workshop := { manifest := m, host := { disk, directory := root } }
  have arises : idle.Arises m := .idle rfl rfl rfl rfl
  have asked := (arises.inward (.start store)).request (requested args m)
  unfold start at begun
  dsimp only at begun
  split at begun
  · cases begun
  · rename_i s granted
    rw [granted] at asked
    obtain rfl := Except.ok.inj begun
    by_cases once : args.once
    · simp only [once]
      exact asked.inward (.beginDrain s.current "drain" none)
    · simp only [once]
      exact asked

/-- Where there is something to serve, a daemon has begun on a manifest and a store. -/
theorem boot_eq_ok (begun : boot disk directory args = .ok d) : ∃ root m store,
    Manifest.load disk directory args.manifest = .ok m ∧ start disk root m store args = .ok d := by
  unfold boot at begun
  cases loaded : Manifest.load disk directory args.manifest with
  | error fault =>
    rw [loaded] at begun
    cases begun
  | ok m =>
    rw [loaded] at begun
    cases dry : args.dryRun with
    | true =>
      rw [dry] at begun
      cases begun
    | false =>
      rw [dry] at begun
      change ((openStore disk directory (rootOf disk directory args.manifest) m args).mapError _ >>=
        fun store => start disk (rootOf disk directory args.manifest) m store args) = .ok d at begun
      cases opened : openStore disk directory (rootOf disk directory args.manifest) m args with
      | error fault =>
        rw [opened] at begun
        cases begun
      | ok store =>
        rw [opened] at begun
        exact ⟨_, m, store, rfl, begun⟩

/-- What is served is what a supervision does by itself. -/
theorem works_serve (d : Daemon) (interrupt : Option Interrupt) :
    Relation.ReflTransGen Works d.supervision (d.serve interrupt).supervision := by
  unfold serve
  cases interrupt with
  | none => exact works_advance _ _ _
  | some i =>
    dsimp only
    split
    · exact works_advance _ _ _
    · exact (works_advance _ _ _).trans (works_advance _ _ _)

/-- A daemon has resolved its manifest, and all that it does may come of a supervision over it: when it
begins, while it serves and when it has shut down. -/
theorem arises (begun : boot disk directory args = .ok d) (interrupt : Option Interrupt) :
    ∃ m, m.Validated ∧ d.supervision.Arises m ∧ (d.serve interrupt).supervision.Arises m ∧
      (d.serve interrupt).supervision.shutDown.Arises m := by
  obtain ⟨root, m, store, loaded, begun⟩ := boot_eq_ok begun
  obtain ⟨draft, -, resolved⟩ := bind_eq_ok_iff.1 loaded
  have started := start_arises begun
  have served := started.works (works_serve d interrupt)
  exact ⟨m, ⟨draft, resolved⟩, started, served, served.shutDown⟩

/-- **A daemon is supervised throughout**: when it begins, while it serves and when it has shut
down. -/
theorem supervised (begun : boot disk directory args = .ok d) (interrupt : Option Interrupt) :
    d.supervision.Supervised ∧ (d.serve interrupt).supervision.Supervised ∧
      (d.serve interrupt).supervision.shutDown.Supervised := by
  obtain ⟨m, -, started, served, ended⟩ := arises begun interrupt
  exact ⟨started.supervised, served.supervised, ended.supervised⟩

end Daemon

end Supervisor
