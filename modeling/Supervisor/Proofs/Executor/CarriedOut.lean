import Supervisor.Proofs.Executor.Course
import Supervisor.Rehearsal.Stage
import Supervisor.Supervision

/-!
# A list is carried out up to where it stops

What is seen of a list is the beginning of what is prescribed, and all of it once the list is over. Any
steps its task can take are seen so, and it leaves at each of them what the list has come to. What
becomes of a procedure that was sent aside has no say in it.
-/

namespace Supervisor.Executor

variable {procedures : List Procedure} {answers : Answers} {i : Nat} {p : Procedure}

/-! ## How far a list comes -/

/-- What is so of a list that has come to a stage, and of what was seen of it. -/
def Stage.Sound (procedures : List Procedure) (answers : Answers) (log : List Deed) : Stage → Prop
  | next i => i ≤ procedures.length ∧ Passed procedures answers i ∧ log = before procedures i
  | awaiting i _ => ∃ p, procedures[i]? = some p ∧ Awaited p ∧ Passed procedures answers i ∧
      log = before procedures i ++ [.begun i]
  | asking aim => ∃ i p, procedures[i]? = some p ∧ p.mode = .command ∧ p.data = .command aim ∧
      Passed procedures answers i ∧ log = before procedures (i + 1)
  | finished result => log = prescribed procedures answers ∧ result = outcome procedures answers

theorem relay_eq {aim : String} (data : p.data = .command aim) (answer : Except Fault Unit) :
    p.relay answer = handedOver answer := by
  unfold Procedure.relay
  rw [data]
  rfl

section Stopping

variable (passed : Passed procedures answers i) (place : procedures[i]? = some p)
include passed place

theorem prescribed_eq (here : stops answers i p = true) :
    prescribed procedures answers = before procedures (i + 1) := by
  rw [prescribed, passed.stop_eq place here]

theorem outcome_awaited (awaited : Awaited p) (fails : p.fails (answers.dispatch i) = true) :
    outcome procedures answers = p.failure (answers.dispatch i) := by
  have here := passed.stop_eq place ((stops_awaited awaited).trans fails)
  simp only [outcome, here, place, awaited.mode, if_false]

theorem outcome_command (mode : p.mode = .command) :
    outcome procedures answers = p.relay answers.request := by
  have here := passed.stop_eq place (stops_command mode)
  simp only [outcome, here, place, mode, if_true]

theorem sound_passes (awaited : Awaited p) (passes : p.fails (answers.dispatch i) = false) :
    (Stage.next (i + 1)).Sound procedures answers
      (before procedures i ++ [.begun i, .ended i]) := by
  obtain ⟨bound, -⟩ := List.getElem?_eq_some_iff.1 place
  refine ⟨bound, passed.succ place ((stops_awaited awaited).trans passes), ?_⟩
  rw [before_succ place, deeds_awaited awaited]

theorem sound_fails (awaited : Awaited p) (fails : p.fails (answers.dispatch i) = true) :
    (Stage.finished (p.failure (answers.dispatch i))).Sound procedures answers
      (before procedures i ++ [.begun i, .ended i]) := by
  have here := (stops_awaited awaited).trans fails
  refine ⟨?_, (outcome_awaited passed place awaited fails).symm⟩
  rw [prescribed_eq passed place here, before_succ place, deeds_awaited awaited]

theorem sound_handOver {aim : String} (mode : p.mode = .command) (data : p.data = .command aim) :
    (Stage.asking aim).Sound procedures answers (before procedures i ++ [.asked i aim]) := by
  refine ⟨i, p, place, mode, data, passed, ?_⟩
  rw [before_succ place, deeds, if_pos mode, data]

theorem sound_stray {fault : Fault} (mode : p.mode = .command) (aim : target p = .error fault) :
    (Stage.finished (.error fault)).Sound procedures answers (before procedures i) := by
  obtain ⟨relay, stray⟩ := target_eq_error aim
  have nothing : deeds i p = [] := by
    rw [deeds, if_pos mode]
    split
    · rename_i data
      exact absurd data (stray _)
    · rfl
  refine ⟨?_, ?_⟩
  · rw [prescribed_eq passed place (stops_command mode), before_succ place, nothing, List.append_nil]
  · rw [outcome_command passed place mode, relay]

theorem sound_reply {aim : String} (mode : p.mode = .command) (data : p.data = .command aim) :
    (Stage.finished (handedOver answers.request)).Sound procedures answers
      (before procedures (i + 1)) := by
  refine ⟨(prescribed_eq passed place (stops_command mode)).symm, ?_⟩
  rw [outcome_command passed place mode, relay_eq data]

end Stopping

theorem sound_finish (passed : Passed procedures answers i) (bound : i ≤ procedures.length)
    (none : procedures[i]? = none) :
    (Stage.finished (.ok ())).Sound procedures answers (before procedures i) := by
  obtain rfl := Nat.le_antisymm bound (List.getElem?_eq_none_iff.1 none)
  have all := passed.stop_eq_length
  refine ⟨?_, ?_⟩
  · rw [prescribed, all, before, before, List.take_of_length_le, List.take_of_length_le]
    · exact Nat.le_trans (Nat.le_of_eq List.length_zipIdx) (Nat.le_succ _)
    · exact Nat.le_of_eq List.length_zipIdx
  · rw [outcome, all, none]

theorem Course.sound {H ω : Type} [Host H] {owner : ω} {trace : List (Moment H ω)}
    {log : List Deed} {stage : Stage}
    (course : Course H owner procedures answers trace log stage) :
    stage.Sound procedures answers log := by
  induction course with
  | start => exact ⟨Nat.zero_le _, fun j _ lt => absurd lt (Nat.not_lt_zero j), rfl⟩
  | reply earlier ih =>
    obtain ⟨i, p, place, mode, data, passed, rfl⟩ := ih
    exact sound_reply passed place mode data
  | step earlier here taken seen ih =>
    cases seen with
    | finish none =>
      obtain ⟨bound, passed, rfl⟩ := ih
      rw [List.append_nil]
      exact sound_finish passed bound none
    | detach place aside =>
      obtain ⟨-, passed, rfl⟩ := ih
      obtain ⟨bound, -⟩ := List.getElem?_eq_some_iff.1 place
      refine ⟨bound, passed.succ place (stops_detached aside), ?_⟩
      rw [before_succ place, deeds_detached aside]
    | begin place awaited performed =>
      obtain ⟨-, passed, rfl⟩ := ih
      exact ⟨_, place, awaited, passed, rfl⟩
    | atOnce place awaited performed passes =>
      obtain ⟨-, passed, rfl⟩ := ih
      exact sound_passes passed place awaited passes
    | failAtOnce place awaited performed fails =>
      obtain ⟨-, passed, rfl⟩ := ih
      exact sound_fails passed place awaited fails
    -- The dispatch has been seen when the wait began; now comes the end, as if at once.
    | resume place awaited ended passes =>
      obtain ⟨p, -, -, passed, rfl⟩ := ih
      rw [List.append_assoc]
      exact sound_passes passed place awaited passes
    | abort place awaited ended fails =>
      obtain ⟨p, -, -, passed, rfl⟩ := ih
      rw [List.append_assoc]
      exact sound_fails passed place awaited fails
    | handOver place mode data =>
      obtain ⟨-, passed, rfl⟩ := ih
      exact sound_handOver passed place mode data
    | stray place mode aim =>
      obtain ⟨-, passed, rfl⟩ := ih
      rw [List.append_nil]
      exact sound_stray passed place mode aim

/-- What has been seen is the beginning of what is prescribed. -/
theorem Stage.Sound.within {log : List Deed} {stage : Stage}
    (sound : stage.Sound procedures answers log) : log <+: prescribed procedures answers := by
  cases stage with
  | finished => exact sound.1 ▸ List.prefix_rfl
  | next i =>
    obtain ⟨bound, passed, rfl⟩ := sound
    exact before_mono (Nat.le_succ_of_le (passed.le_stop bound))
  | awaiting i ticket =>
    obtain ⟨p, place, awaited, passed, rfl⟩ := sound
    obtain ⟨bound, -⟩ := List.getElem?_eq_some_iff.1 place
    have le := Nat.succ_le_succ (passed.le_stop (Nat.le_of_lt bound))
    refine List.IsPrefix.trans ?_ (before_mono le)
    rw [before_succ place, deeds_awaited awaited]
    exact (List.prefix_append_right_inj _).2 ⟨[.ended i], rfl⟩
  | asking aim =>
    obtain ⟨i, p, place, mode, -, passed, rfl⟩ := sound
    have whole := prescribed_eq passed place (stops_command mode)
    exact whole ▸ List.prefix_rfl

/-! ## Procedures aside -/

/-- What a step makes of what was sent aside: it is dispatched when its time has come, and nobody hears
of the answer. -/
inductive Apart {H ω : Type} [Host H] (h : H) (now : Nat) (owner : ω) : Work → Stepped H ω → Prop
  | begin {due ticket : Nat} {p : Procedure} {h' : H} (come : due ≤ now)
      (performed : Host.perform h now p = (h', .process ticket)) :
      Apart h now owner (.delayed due p) { host := h', tasks := [⟨owner, .aside ticket⟩] }
  | atOnce {due : Nat} {p : Procedure} {h' : H} {answer : Except Fault Int} (come : due ≤ now)
      (performed : Host.perform h now p = (h', .over answer)) :
      Apart h now owner (.delayed due p) { host := h' }
  | ended {ticket : Nat} {answer : Except Fault Int} (ended : Host.ended? h ticket = some answer) :
      Apart h now owner (.aside ticket) { host := h }

section Aside

variable {H ω : Type} [Host H] {h : H} {now : Nat} {t : Task ω} {stepped : Stepped H ω}

theorem Apart.taken {owner : ω} {work : Work} (apart : Apart h now owner work stepped) :
    Task.step? h now ⟨owner, work⟩ = some stepped := by
  cases apart with
  | begin come performed | atOnce come performed =>
    simp only [Task.step?, if_pos come, performed]
  | ended ended => simp only [Task.step?, ended, Option.map_some]

theorem apart_iff (aside : t.work.progress? = none) :
    t.step? h now = some stepped ↔ Apart h now t.owner t.work stepped := by
  refine ⟨fun taken => ?_, Apart.taken⟩
  obtain ⟨owner, work⟩ := t
  cases work with
  | list | awaiting => cases aside
  | delayed due p =>
    simp only [Task.step?] at taken
    split at taken
    · rename_i come
      rcases performed : Host.perform h now p with ⟨h', answer | ticket⟩ <;>
        rw [performed] at taken <;> obtain rfl := Option.some.inj taken
      · exact .atOnce come performed
      · exact .begin come performed
    · cases taken
  | aside ticket =>
    obtain ⟨answer, ended, rfl⟩ := Option.map_eq_some_iff.1 taken
    exact .ended ended

theorem Apart.silent {owner : ω} {work : Work} (apart : Apart h now owner work stepped) :
    stepped.request = none ∧ ∀ t' ∈ stepped.tasks, t'.work.progress? = none := by
  cases apart with
  | begin =>
    refine ⟨rfl, fun t' mem => ?_⟩
    obtain rfl := List.mem_singleton.1 mem
    rfl
  | atOnce | ended => exact ⟨rfl, List.forall_mem_nil _⟩

end Aside

/-! ## Carrying out a list -/

/-- What is so of a list after some steps. -/
structure Follows (H : Type) [Host H] {ω : Type} (owner : ω) (procedures : List Procedure)
    (answers : Answers) (trace : List (Moment H ω)) (log : List Deed) (stage : Stage) : Prop where
  within : log <+: prescribed procedures answers
  ends : ∀ result, stage = .finished result →
    log = prescribed procedures answers ∧ result = outcome procedures answers
  /-- Whatever the task does next is one more step, and leaves what the list has come to with it. -/
  seen : ∀ (h : H) (now : Nat) (work : Work) (stepped : Stepped H ω),
    stage.work? procedures = some work → Gives procedures answers h now stage →
      Task.step? h now ⟨owner, work⟩ = some stepped →
        ∃ done after, Turn owner procedures answers h now stage stepped done after ∧
          after.Leaves owner procedures stepped.tasks stepped.request
  /-- A list waits for nothing but a process. -/
  waits : ∀ (h : H) (now : Nat) (work : Work), stage.work? procedures = some work →
    Task.step? h now ⟨owner, work⟩ = none →
      ∃ i ticket, stage = .awaiting i ticket ∧ Host.ended? h ticket = none
  bounded : trace.length + stage.rank procedures.length ≤ 2 * procedures.length + 2

/-- What it is to carry out a list. -/
structure CarriedOut (H : Type) [Host H] {ω : Type} (owner : ω) (procedures : List Procedure) :
    Prop where
  follows : ∀ answers trace log stage, Course H owner procedures answers trace log stage →
    Follows H owner procedures answers trace log stage
  /-- Whatever steps its task takes, they are a course, and the task has left what the list has come
  to: the rest of it, or how it has ended. -/
  course : ∀ (trace : List (Moment H ω)) (tasks : List (Task ω)) (request : Option (Request ω)),
    Runs H owner procedures trace tasks request → ∀ reply, ∃ answers log stage,
      answers.request = reply ∧ Course H owner procedures answers trace log stage ∧
        stage.Leaves owner procedures tasks request
  /-- A supervision asks for the other command, and the list ends as the answer has it. -/
  replied : ∀ (s asked : Supervision H) (stepped : Stepped H Launched) (l : Launched) (p : Procedure)
    (aim : String) (answer : Except Fault Unit),
      Task.stepFirst? s.host s.now s.tasks = some stepped →
        stepped.request = some (.handOver l aim) → p.data = .command aim →
          Supervision.enqueue { s with host := stepped.host, tasks := stepped.tasks } l.generation aim
            false = (asked, answer) → s.stepTask? = some (asked.finish l (p.relay answer))
  /-- Others could have answered otherwise where the list does not wait. -/
  alike : ∀ answers other, Alike procedures answers other →
    prescribed procedures other = prescribed procedures answers ∧
      outcome procedures other = outcome procedures answers
  /-- What was sent aside is dispatched on its own. -/
  apart : ∀ (h : H) (now : Nat) (t : Task ω) (stepped : Stepped H ω), t.work.progress? = none →
    (t.step? h now = some stepped ↔ Apart h now t.owner t.work stepped)
  /-- A task that has been sent aside leaves no request, and no tasks but such. -/
  silent : ∀ (h : H) (now : Nat) (t : Task ω) (stepped : Stepped H ω), t.work.progress? = none →
    t.step? h now = some stepped →
      stepped.request = none ∧ ∀ t' ∈ stepped.tasks, t'.work.progress? = none

theorem Course.follows {H ω : Type} [Host H] {owner : ω} {trace : List (Moment H ω)}
    {log : List Deed} {stage : Stage}
    (course : Course H owner procedures answers trace log stage) :
    Follows H owner procedures answers trace log stage where
  within := course.sound.within
  ends result same := by
    subst same
    exact course.sound
  seen h now work stepped here gives taken := by
    obtain ⟨done, after, turn⟩ := exists_turn course.awaited here gives taken
    exact ⟨done, after, turn, turn.leaves⟩
  waits h now work here stuck := Executor.waits here stuck
  bounded := course.bounded

/-- **A list is carried out up to where it stops.** Whatever the hosts and the times of its steps are,
a list does what is prescribed, in order: it dispatches the procedures it waits for, one after the
other, sends the others aside at their places, and does nothing for those behind the one where it
stops. It comes to an end unless a process does not, and ends as the procedure where it stops has it.
What is sent aside has no say in that. -/
theorem carried_out (H : Type) [Host H] {ω : Type} (owner : ω) (procedures : List Procedure) :
    CarriedOut H owner procedures where
  follows _ _ _ _ course := course.follows
  course _ _ _ runs reply := runs.course reply
  replied s asked stepped l p aim answer taken asks data enqueued := by
    simp only [Supervision.stepTask?, taken, Option.map_some, asks, enqueued, relay_eq data]
  alike answers other alike := by
    rw [prescribed, prescribed, alike.stop, alike.outcome]
    exact ⟨rfl, rfl⟩
  apart _ _ _ _ aside := apart_iff aside
  silent _ _ _ _ aside taken := ((apart_iff aside).1 taken).silent

theorem Course.turn {H ω : Type} [Host H] {owner : ω} {h : H} {now : Nat}
    {trace : List (Moment H ω)} {log done : List Deed} {stage after : Stage} {stepped : Stepped H ω}
    (earlier : Course H owner procedures answers trace log stage)
    (turn : Turn owner procedures answers h now stage stepped done after) :
    Course H owner procedures answers (trace ++ [⟨h, now, stepped⟩]) (log ++ done) after :=
  let ⟨_, here, taken⟩ := turn.taken
  earlier.step here taken turn

/-- One process aside, one whose failure may be ignored, and a command to hand over to. -/
def errand (ignored : Bool) : List Procedure :=
  [⟨"warm", .exec, .argv ["warm"], .said false, false⟩,
    ⟨"check", .exec, .argv ["check"], .unsaid, ignored⟩,
    ⟨"next", .command, .command "almanac", .said false, false⟩,
    ⟨"never", .exec, .argv ["never"], .unsaid, false⟩]

/-- Every process fails, and the other command has been done once and for all. -/
def errandAnswers : Answers where
  dispatch _ := .ok 3
  request := .error (.alreadyCompletedOnce "almanac")

theorem errand_begun (ignored : Bool) : ∃ trace,
    Course Rehearsal.Stage () (errand ignored) errandAnswers trace [.aside 0, .begun 1]
      (.awaiting 1 0) := by
  let fresh : Rehearsal.Stage := { script := {} }
  have warms : Turn () (errand ignored) errandAnswers fresh 0 (.next 0) _ _ _ :=
    .detach rfl ⟨nofun, rfl⟩
  have checks : Turn () (errand ignored) errandAnswers fresh 0 (.next 1) _ _ (.awaiting 1 0) :=
    .begin rfl ⟨nofun, rfl⟩ rfl
  exact ⟨_, (Course.start.turn warms).turn checks⟩

/-- Where the failure of its process is ignored, the list hands over and is done, although the other
command is refused; where it is not, the list ends with it. -/
theorem carried_out_errand :
    (∃ trace log, Course Rehearsal.Stage () (errand true) errandAnswers trace log (.finished (.ok ())) ∧
      log = prescribed (errand true) errandAnswers ∧ .ok () = outcome (errand true) errandAnswers ∧
        log = [.aside 0, .begun 1, .ended 1, .asked 2 "almanac"]) ∧
    ∃ trace log, Course Rehearsal.Stage () (errand false) errandAnswers trace log
        (.finished (.error (.procedureFailed .exec 3))) ∧
      log = prescribed (errand false) errandAnswers ∧
        .error (.procedureFailed .exec 3) = outcome (errand false) errandAnswers ∧
          log = [.aside 0, .begun 1, .ended 1] := by
  let failed : Rehearsal.Stage := { script := {}, processes := [⟨"check", 1, 3, some (.ok 3)⟩] }
  constructor
  · obtain ⟨trace, begun⟩ := errand_begun true
    have goesOn : Turn () (errand true) errandAnswers failed 1 (.awaiting 1 0) _ _ (.next 2) :=
      .resume rfl ⟨nofun, rfl⟩ rfl rfl
    have hands : Turn () (errand true) errandAnswers failed 1 (.next 2) _ _ (.asking "almanac") :=
      .handOver rfl rfl rfl
    have course := ((begun.turn goesOn).turn hands).reply
    have whole := ((carried_out _ () (errand true)).follows _ _ _ _ course).ends _ rfl
    exact ⟨_, _, course, whole.1, whole.2, rfl⟩
  · obtain ⟨trace, begun⟩ := errand_begun false
    have aborts : Turn () (errand false) errandAnswers failed 1 (.awaiting 1 0) _ _ _ :=
      .abort rfl ⟨nofun, rfl⟩ rfl rfl
    have course := begun.turn aborts
    have whole := ((carried_out _ () (errand false)).follows _ _ _ _ course).ends _ rfl
    exact ⟨_, _, course, whole.1, whole.2, rfl⟩

end Supervisor.Executor
