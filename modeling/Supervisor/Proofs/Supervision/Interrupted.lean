import Supervisor.Proofs.Process.History
import Supervisor.Proofs.Supervision.Histories
import Supervisor.Workshop

/-!
# What a shutdown interrupts

A command that runs when the work loop has ended stays as it is until the end of its launch is noted,
and until then the record in the store brings it back. A process that is stopped answers its launch
with a fault, and a fault is noted as a failure like any other. So whether a command that a daemon cuts
off is taken up again depends on whether its launch comes to be noted before the daemon is gone.
-/

namespace Supervisor

open Relation (ReflTransGen)

/-- The record brings the command back, as one that waits. -/
def Record.Resumes (m : Manifest) (r : Record) (name : String) : Prop :=
  (Queue.restored m r).statusOf name = some .waiting

instance (m : Manifest) (r : Record) (name : String) : Decidable (r.Resumes m name) :=
  inferInstanceAs (Decidable ((Queue.restored m r).statusOf name = some .waiting))

/-- Where no task before it can take a step, a task takes the next one. -/
theorem Task.stepFirst?_middle {H ω : Type} [Host H] {h : H} {now : Nat} {before : List (Task ω)}
    {t : Task ω} {stepped : Stepped H ω} (taken : t.step? h now = some stepped)
    (stuck : ∀ t' ∈ before, t'.step? h now = none) (after : List (Task ω)) :
    stepFirst? h now (before ++ t :: after) =
      some { stepped with tasks := before ++ (stepped.tasks ++ after) } := by
  induction before with
  | nil =>
    rw [List.nil_append, stepFirst?, taken]
    rfl
  | cons t' before ih =>
    have others := ih fun t'' mem => stuck t'' (List.mem_cons_of_mem _ mem)
    rw [List.cons_append, stepFirst?, stuck t' List.mem_cons_self, others]
    rfl

/-- A process of a workshop that has been told to stop answers with a fault once it has its turn. -/
theorem Workshop.ended_of_told {w : Workshop} {i : Nat} {name : String} {machine : Shell.Machine}
    (here : w.table.stage? i = some (name, .inFlight)) (told : 0 < w.table.signals i)
    (program : w.machines[i]? = some machine) (now : Nat) :
    Host.ended? (w.turn now i) i = some (.error (.terminated name)) := by
  obtain ⟨r, there, -, phase⟩ := ProcessTable.stage?_eq_some.1 here
  have signals : r.signals ≠ 0 := by
    rw [ProcessTable.signals_eq there] at told
    omega
  have turn : w.turn now i = { w with table := (w.table.heed i).leave i } := by
    rw [Workshop.turn, there, program]
    simp only [phase, if_pos signals]
  have heeded : (w.table.heed i).stage? i = some (name, .over (.error (.terminated name))) := by
    rw [ProcessTable.stage?_heed here told, if_pos rfl]
  have left : ((w.table.heed i).leave i).stage? i =
      some (name, .left (.error (.terminated name))) := by
    rw [ProcessTable.stage?_leave heeded, if_pos rfl]
  obtain ⟨r', there', -, phase'⟩ := ProcessTable.stage?_eq_some.1 left
  show (w.turn now i).table.result? i = _
  rw [turn, ProcessTable.result?, there', Option.bind_some, phase']

namespace Supervision

variable {H : Type} {s s' : Supervision H} {m : Manifest} {lost : List String} {g : Nat}
  {z z' : Generation} {name : String} {e : Queue.Entry}

/-- On the way a turn notes the end of the command's launch. -/
inductive Noted (m : Manifest) (lost : List String) (name : String) (e : Queue.Entry)
    (z z' : Generation) : Prop
  | noted {z₁ z₂ : Generation} (outcome : Outcome) (before : ReflTransGen (Moves m lost) z z₁)
      (still : z₁.scheduler.queue.get? name = some e) (turn : Moves m lost z₁ z₂)
      (ended : z₂.scheduler.queue.get? name =
        some { e with status := Queue.endedStatus e.command outcome })
      (after : ReflTransGen (Moves m lost) z₂ z') : Noted m lost name e z z'

/-- A command that runs stays as it is until its end is noted. -/
theorem stays_or_noted (found : z.scheduler.queue.get? name = some e) (running : e.status = .running)
    (moves : ReflTransGen (Moves m lost) z z') :
    z'.scheduler.queue.get? name = some e ∨ Noted m lost name e z z' := by
  induction moves with
  | refl => exact .inl found
  | @tail z₁ z' before turn ih =>
    rcases ih with still | ⟨outcome, past, still, noting, ended, after⟩
    · rcases turn.acts with ⟨queue, -⟩ | ⟨act, step, -⟩
      · rw [queue]
        exact .inl still
      · rcases step.running_stays still running with stays | ⟨outcome, _, -, ended⟩
        · exact .inl stays
        · exact .inr (.noted outcome before still turn ended .refl)
    · exact .inr (.noted outcome past still noting ended (after.tail turn))

variable [Host H]

theorem Inward.unwritable (inward : Inward s s') (supervised : s.Supervised) :
    s'.unwritable = s.unwritable := by
  rcases inward.passes supervised with passes | ⟨store, rfl⟩
  · exact passes.unwritable
  · rfl

/-- Whatever goes on goes on in turns of each generation. -/
theorem Arises.onward (h : s.Arises m) (here : s.generations[g]? = some z)
    (onward : ReflTransGen Inward s s') : s'.Arises m ∧ s'.unwritable = s.unwritable ∧
      ∃ z', s'.generations[g]? = some z' ∧ ReflTransGen (Moves m s.unwritable) z z' := by
  induction onward with
  | refl => exact ⟨h, rfl, z, here, .refl⟩
  | tail _ inward ih =>
    obtain ⟨arises, unwritable, z₁, here₁, before⟩ := ih
    obtain ⟨z', here', moves⟩ := inward.moves arises.supervised here₁
    rw [arises.stocked.manifest, unwritable] at moves
    refine ⟨arises.inward inward, ?_, z', here', before.trans moves⟩
    rw [inward.unwritable arises.supervised, unwritable]

/-- A launch that ends with a fault leaves nothing to take up again. -/
theorem finish_failed {l : Launched} (here : s.generations[l.generation]? = some z)
    (faithful : Faithful s.manifest s.unwritable z) (writable : l.name ∉ s.unwritable)
    (found : z.scheduler.queue.get? l.name = some e) (running : e.status = .running) (fault : Fault) :
    ∃ z', (s.finish l (.error fault)).generations[l.generation]? = some z' ∧
      z'.scheduler.queue.statusOf l.name = some .error ∧
        ¬ z'.store.record.Resumes s.manifest l.name := by
  have runs := Queue.statusOf_eq_some.2 ⟨e, found, running⟩
  obtain ⟨z', goes, serves⟩ := goes_ended here runs (.error fault)
  have becomes := becomes_finish (scheduler?_eq_some.2 ⟨z, here, rfl⟩) (.error fault)
  obtain ⟨z'', there, scheduler⟩ := scheduler?_eq_some.1 becomes.here
  obtain rfl := Option.some.inj (goes.here.symm.trans there)
  have ended : z'.scheduler.queue.get? l.name = some { e with status := .error } := by
    rw [scheduler, Scheduler.signal_queue]
    show (z.scheduler.queue.complete l.name .failed).1.get? l.name = _
    rw [Queue.get?_complete found, if_pos rfl]
    rfl
  refine ⟨z', goes.here, Queue.statusOf_eq_some.2 ⟨_, ended, rfl⟩, fun resumes => ?_⟩
  have known := (faithful.sound l.name e found).known
  obtain ⟨e', found', -, pending⟩ :=
    ((Moves.serves serves).faithful faithful |>.resumes writable known).1 resumes
  obtain rfl := Option.some.inj (found'.symm.trans ended)
  rcases pending with waits | runs
  · cases waits
  · cases runs

/-- **What is cut off is taken up again until its end is noted.** On any host, whatever may have come
of a supervision, and however its loops are ended, its processes stopped and its launches go on: where
a command runs whose statuses are kept, the record in the store brings it back as waiting just while
the queue has it as kept and not ended; and it stays as it is until a turn notes the end of its launch.
A launch that waits for a process is at its end once the process has answered with a fault, as one that
was stopped does: a process of a workshop, at its next turn. When the task has a step to take it notes a
failure, and the record does not bring the command back. -/
theorem resumed_until_noted (h : s.Arises m) (here : s.generations[g]? = some z)
    (writable : name ∉ s.unwritable) (found : z.scheduler.queue.get? name = some e)
    (kept : e.persist = true) (running : e.status = .running) :
    z.store.record.Resumes m name ∧
    (∀ s', ReflTransGen Inward s s' → ∃ z', s'.generations[g]? = some z' ∧
      (z'.store.record.Resumes m name ↔ Queue.Unfinished z'.scheduler.queue name) ∧
      (z'.scheduler.queue.get? name = some e ∨ Noted m s.unwritable name e z z')) ∧
    (∀ (before after : List (Task Launched)) ticket p rest fault,
      s.tasks = before ++ ⟨⟨g, name⟩, .awaiting ticket p rest⟩ :: after →
      (∀ t ∈ before, t.step? s.host s.now = none) → Host.ended? s.host ticket = some (.error fault) →
      ∃ s' z', s.stepTask? = some s' ∧ s'.generations[g]? = some z' ∧
        z'.scheduler.queue.statusOf name = some .error ∧ ¬ z'.store.record.Resumes m name) ∧
    ∀ (w : Workshop) i process machine now, w.table.stage? i = some (process, .inFlight) →
      0 < w.table.signals i → w.machines[i]? = some machine →
      Host.ended? (w.turn now i) i = some (.error (.terminated process)) := by
  have faithful := h.faithful here
  have known := (faithful.sound name e found).known
  refine ⟨?_, fun s' onward => ?_, fun before after ticket p rest fault tasks stuck answered => ?_,
    fun w i process machine now here told program => Workshop.ended_of_told here told program now⟩
  · exact (faithful.resumes writable known).2 ⟨e, found, kept, .inr running⟩
  · obtain ⟨arises, unwritable, z', here', moves⟩ := h.onward here onward
    rw [← unwritable] at writable
    exact ⟨z', here', (arises.faithful here').resumes writable known,
      stays_or_noted found running moves⟩
  · have manifest := h.stocked.manifest
    let owner : Launched := ⟨g, name⟩
    have taken : Task.step? s.host s.now ⟨owner, .awaiting ticket p rest⟩ =
        some { host := s.host, request := some (.ended owner (.error fault)) } := by
      simp only [Task.step?, answered, Option.map_some, Task.resume, Executor.verdict]
    have stepped := Task.stepFirst?_middle taken stuck after
    subst manifest
    obtain ⟨z', here', failed, lost⟩ :=
      finish_failed (s := { s with host := s.host, tasks := before ++ ([] ++ after) })
        (l := ⟨g, name⟩) here faithful writable found running fault
    refine ⟨_, z', ?_, here', failed, lost⟩
    rw [stepTask?, tasks, stepped]
    rfl

/-! ## An errand -/

def sleep : Procedure := ⟨"job.0", .exec, .argv ["sleep", "5"], .unsaid, false⟩

/-- A manifest with a command that takes its time. -/
def errand : Manifest := ⟨"m", none, none, .ofList [("job", ⟨"job", .always, [], [sleep]⟩)]⟩

def errandDraft : Manifest.Draft :=
  ⟨"m", none, none, .ofList [("job", ⟨.always, [],
    [⟨"exec", some (.array [.text "sleep", .text "5"]), none, none, false⟩]⟩)]⟩

theorem errand_validated : errand.Validated := by
  have placed : errandDraft.needs.misplaced? = none :=
    Manifest.Needs.misplaced_none_of_rank ["job"].idxOf (by decide +kernel)
  refine ⟨errandDraft, ?_⟩
  rw [Manifest.Draft.resolve, placed]
  decide +kernel

/-- The job has been asked for and runs, and the loop has ended. -/
def errandShut : Supervision Workshop :=
  let idle : Supervision Workshop := { manifest := errand, host := { disk := .empty, directory := [] } }
  let asked := ((idle.start (.file [] "scroll-lock.json" {} errand.fingerprint)).enqueue 0 "job" true).1
  Timed.settle ((Timed.settle asked).signal 0 .shutdown)

/-- All processes have been told to stop. -/
def errandTold : Supervision Workshop :=
  { errandShut with host := (Host.stopAll errandShut.host errandShut.now).1 }

/-- They have stopped. -/
def errandOver : Supervision Workshop :=
  { errandTold with host := Host.elapse errandTold.host errandTold.now }

theorem arises_errand : errandShut.Arises errand ∧ errandOver.Arises errand := by
  have idle : Arises errand { manifest := errand, host := { disk := .empty, directory := [] : Workshop } } :=
    .idle rfl rfl rfl rfl
  have started := idle.inward (.start (.file [] "scroll-lock.json" {} errand.fingerprint))
  have asked := (started.asked 0 "job" true).works (works_settle _)
  have shut : errandShut.Arises errand := (asked.inward (.shutdown 0)).works (works_settle _)
  exact ⟨shut, (shut.inward (.host _ _)).inward (.host _ _)⟩

theorem resumed_until_noted_errand : ∃ (s : Supervision Workshop) (z : Generation), s.Arises errand ∧
    s.generations[0]? = some z ∧ z.store.record.Resumes errand "job" ∧
    (∀ s', ReflTransGen Inward s s' → ∃ z', s'.generations[0]? = some z' ∧
      (z'.store.record.Resumes errand "job" ↔ Queue.Unfinished z'.scheduler.queue "job")) ∧
    ∃ s' z', s.stepTask? = some s' ∧ s'.generations[0]? = some z' ∧
      z'.scheduler.queue.statusOf "job" = some .error ∧ ¬ z'.store.record.Resumes errand "job" := by
  have job : (errandOver.generations[0]?).any (fun z => z.scheduler.queue.get? "job" =
      some ⟨.running, true, 1, ⟨"job", .always, [], [sleep]⟩⟩) = true := by decide +kernel
  obtain ⟨z, here, found⟩ := (Option.any_eq_true ..).1 job
  have tasks : errandOver.tasks = [⟨⟨0, "job"⟩, .awaiting 0 sleep []⟩] := by decide +kernel
  have ended : Host.ended? errandOver.host 0 = some (.error (.terminated "job.0")) := by decide +kernel
  obtain ⟨resumes, onward, noted, -⟩ := resumed_until_noted arises_errand.2 here List.not_mem_nil
    (of_decide_eq_true found) rfl rfl
  refine ⟨errandOver, z, arises_errand.2, here, resumes, fun s' later => ?_, ?_⟩
  · obtain ⟨z', here', resumes, -⟩ := onward s' later
    exact ⟨z', here', resumes⟩
  · exact noted [] [] 0 sleep [] _ tasks (fun _ mem => by cases mem) ended

/-- The process of the job runs when the loop has ended and is stopped. Its launch notes a failure, and
the next daemon that opens the status file does not take the job up again. -/
theorem stopped_not_resumed : errand.Validated ∧ errandShut.Arises errand ∧
    errandShut.isStopped 0 = true ∧
    (∃ z, errandShut.generations[0]? = some z ∧ z.scheduler.queue.get? "job" =
      some ⟨.running, true, 1, ⟨"job", .always, [], [sleep]⟩⟩) ∧
    Host.running errandShut.host = ["job.0"] ∧ Host.ended? errandShut.host 0 = none ∧
    ∃ s, ReflTransGen Works errandTold s ∧
      Host.ended? s.host 0 = some (.error (.terminated "job.0")) ∧
      ∃ store, Store.openFile (Host.disk s.host) [] "scroll-lock.json" errand.fingerprint false =
        .ok store ∧ ¬ store.record.Resumes errand "job" := by
  have job : (errandShut.generations[0]?).any (fun z => z.scheduler.queue.get? "job" =
      some ⟨.running, true, 1, ⟨"job", .always, [], [sleep]⟩⟩) = true := by decide +kernel
  obtain ⟨z, here, found⟩ := (Option.any_eq_true ..).1 job
  have opened : (Store.openFile (Host.disk (Timed.settle errandTold).host) [] "scroll-lock.json"
      errand.fingerprint false).toOption.any (fun store => !decide (store.record.Resumes errand "job")) =
        true := by decide +kernel
  refine ⟨errand_validated, arises_errand.1, by decide +kernel, ⟨z, here, of_decide_eq_true found⟩,
    by decide +kernel, by decide +kernel, _, works_settle _, by decide +kernel, ?_⟩
  cases answer : Store.openFile (Host.disk (Timed.settle errandTold).host) [] "scroll-lock.json"
      errand.fingerprint false with
  | error fault =>
    rw [answer] at opened
    cases opened
  | ok store =>
    rw [answer] at opened
    refine ⟨store, rfl, ?_⟩
    simpa [Except.toOption] using opened

end Supervision

end Supervisor
