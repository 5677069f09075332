import Supervisor.Proofs.Executor.Prescribed
import Supervisor.Proofs.Supervision.Tasks

/-!
# The course of a list

The steps of the task of a list, each on whatever host and at whatever time, as they are seen from
outside, for given answers of others: what becomes of the host, what the task leaves to be done and what
it asks for. They are the steps of the task and no others, any steps that a task can take are such a
course with the answers that the hosts have given, and no list takes more than two steps for a procedure.
-/

namespace Supervisor.Executor

variable {procedures : List Procedure} {answers : Answers} {i : Nat} {p : Procedure}

/-! ## What is seen of the steps of a list -/

/-- How far a list has come. -/
inductive Stage where
  /-- The procedure at the place is next. -/
  | next (i : Nat)
  | awaiting (i ticket : Nat)
  /-- Another command has been asked for. -/
  | asking (aim : String)
  | finished (result : Except Fault Unit)

namespace Stage

/-- What the list has to do, if it can go on by itself. -/
def work? (procedures : List Procedure) : Stage → Option Work
  | next i => some (.list (procedures.drop i))
  | awaiting i ticket =>
    (procedures[i]?).map fun p => .awaiting ticket p (procedures.drop (i + 1))
  | asking _ | finished _ => none

/-- No list of so many procedures takes more steps from here. -/
def rank (length : Nat) : Stage → Nat
  | next i => 2 * (length - i) + 2
  | awaiting i _ => 2 * (length - i) + 1
  | asking _ => 1
  | finished _ => 0

/-- What a list has left of its task at a stage: what it has to do, besides what is aside from it, or
what it asks for. -/
inductive Leaves {ω : Type} (owner : ω) (procedures : List Procedure) :
    Stage → List (Task ω) → Option (Request ω) → Prop
  | onward {stage : Stage} {work : Work} {asides : List (Task ω)}
      (here : stage.work? procedures = some work)
      (still : ∀ t ∈ asides, t.work.progress? = none) :
      Leaves owner procedures stage (⟨owner, work⟩ :: asides) none
  | asking {aim : String} : Leaves owner procedures (.asking aim) [] (some (.handOver owner aim))
  | finished {result : Except Fault Unit} :
      Leaves owner procedures (.finished result) [] (some (.ended owner result))

end Stage

/-- A step of a task: the host it finds, its time, and what it comes to. -/
structure Moment (H ω : Type) where
  host : H
  now : Nat
  stepped : Stepped H ω

section Steps

variable {H ω : Type} [Host H] (owner : ω) (procedures : List Procedure) (answers : Answers)

/-- What is seen of one step on a host that gives the answers: what becomes of the host and the task,
what the list does, and how far it has come. -/
inductive Turn (h : H) (now : Nat) : Stage → Stepped H ω → List Deed → Stage → Prop
  | finish {i : Nat} (none : procedures[i]? = none) :
      Turn h now (.next i) { host := h, request := some (.ended owner (.ok ())) } []
        (.finished (.ok ()))
  | detach {i : Nat} {p : Procedure} (place : procedures[i]? = some p) (aside : Detached p) :
      Turn h now (.next i)
        { host := h
          tasks := [⟨owner, .list (procedures.drop (i + 1))⟩,
            ⟨owner, .delayed (now + 1000 * p.wait.delay) p⟩] }
        [.aside i] (.next (i + 1))
  | begin {i ticket : Nat} {p : Procedure} {h' : H} (place : procedures[i]? = some p)
      (awaited : Awaited p) (performed : Host.perform h now p = (h', .process ticket)) :
      Turn h now (.next i)
        { host := h', tasks := [⟨owner, .awaiting ticket p (procedures.drop (i + 1))⟩] }
        [.begun i] (.awaiting i ticket)
  | atOnce {i : Nat} {p : Procedure} {h' : H} (place : procedures[i]? = some p)
      (awaited : Awaited p) (performed : Host.perform h now p = (h', .over (answers.dispatch i)))
      (passes : p.fails (answers.dispatch i) = false) :
      Turn h now (.next i)
        { host := h', tasks := [⟨owner, .list (procedures.drop (i + 1))⟩] }
        [.begun i, .ended i] (.next (i + 1))
  | failAtOnce {i : Nat} {p : Procedure} {h' : H} (place : procedures[i]? = some p)
      (awaited : Awaited p) (performed : Host.perform h now p = (h', .over (answers.dispatch i)))
      (fails : p.fails (answers.dispatch i) = true) :
      Turn h now (.next i)
        { host := h', request := some (.ended owner (p.failure (answers.dispatch i))) }
        [.begun i, .ended i] (.finished (p.failure (answers.dispatch i)))
  | resume {i ticket : Nat} {p : Procedure} (place : procedures[i]? = some p) (awaited : Awaited p)
      (ended : Host.ended? h ticket = some (answers.dispatch i))
      (passes : p.fails (answers.dispatch i) = false) :
      Turn h now (.awaiting i ticket)
        { host := h, tasks := [⟨owner, .list (procedures.drop (i + 1))⟩] }
        [.ended i] (.next (i + 1))
  | abort {i ticket : Nat} {p : Procedure} (place : procedures[i]? = some p) (awaited : Awaited p)
      (ended : Host.ended? h ticket = some (answers.dispatch i))
      (fails : p.fails (answers.dispatch i) = true) :
      Turn h now (.awaiting i ticket)
        { host := h, request := some (.ended owner (p.failure (answers.dispatch i))) }
        [.ended i] (.finished (p.failure (answers.dispatch i)))
  | handOver {i : Nat} {p : Procedure} {aim : String} (place : procedures[i]? = some p)
      (mode : p.mode = .command) (data : p.data = .command aim) :
      Turn h now (.next i) { host := h, request := some (.handOver owner aim) } [.asked i aim]
        (.asking aim)
  | stray {i : Nat} {p : Procedure} {fault : Fault} (place : procedures[i]? = some p)
      (mode : p.mode = .command) (aim : target p = .error fault) :
      Turn h now (.next i) { host := h, request := some (.ended owner (.error fault)) } []
        (.finished (.error fault))

/-- The host gives the answers, as far as they are asked for in a step. -/
def Gives (h : H) (now : Nat) : Stage → Prop
  | .next i => ∀ p answer, procedures[i]? = some p → Awaited p →
      (Host.perform h now p).2 = .over answer → answer = answers.dispatch i
  | .awaiting i ticket => ∀ answer, Host.ended? h ticket = some answer → answer = answers.dispatch i
  | .asking _ | .finished _ => True

/-- What a list is seen to do in some steps, each on a host and at a time of its own. A list that has
asked for another command ends with the answer to that. -/
inductive Course (H : Type) [Host H] {ω : Type} (owner : ω) (procedures : List Procedure)
    (answers : Answers) : List (Moment H ω) → List Deed → Stage → Prop
  | start : Course H owner procedures answers [] [] (.next 0)
  | step {h : H} {now : Nat} {work : Work} {stepped : Stepped H ω} {trace : List (Moment H ω)}
      {log done : List Deed} {stage after : Stage}
      (earlier : Course H owner procedures answers trace log stage)
      (here : stage.work? procedures = some work)
      (taken : Task.step? h now ⟨owner, work⟩ = some stepped)
      (seen : Turn owner procedures answers h now stage stepped done after) :
      Course H owner procedures answers (trace ++ [⟨h, now, stepped⟩]) (log ++ done) after
  | reply {trace : List (Moment H ω)} {log : List Deed} {aim : String}
      (earlier : Course H owner procedures answers trace log (.asking aim)) :
      Course H owner procedures answers trace log (.finished (handedOver answers.request))

/-- Some steps that the task of a list takes, and what it has left and asked for last. Each step takes
up the first task that the one before has left, whatever has become of the host meanwhile. -/
inductive Runs (H : Type) [Host H] {ω : Type} (owner : ω) (procedures : List Procedure) :
    List (Moment H ω) → List (Task ω) → Option (Request ω) → Prop
  | start : Runs H owner procedures [] [⟨owner, .list procedures⟩] none
  | step {h : H} {now : Nat} {t : Task ω} {stepped : Stepped H ω} {trace : List (Moment H ω)}
      {asides : List (Task ω)} {request : Option (Request ω)}
      (earlier : Runs H owner procedures trace (t :: asides) request)
      (taken : t.step? h now = some stepped) :
      Runs H owner procedures (trace ++ [⟨h, now, stepped⟩]) stepped.tasks stepped.request

end Steps

/-! ## Its steps are those of a task -/

theorem verdict_eq (p : Procedure) (answer : Except Fault Int) :
    verdict p answer = if p.fails answer then some (p.failure answer) else none := by
  cases answer with
  | error fault => rfl
  | ok exitCode =>
    by_cases zero : exitCode = 0
    · simp [verdict, Procedure.fails, zero]
    · cases ignored : p.ignoreFailure <;>
        simp [verdict, Procedure.fails, Procedure.failure, zero, ignored]

section Resume

variable {H ω : Type} {rest : List Procedure} {answer : Except Fault Int}

theorem resume_of_passes (h : H) (owner : ω) (passes : p.fails answer = false) :
    Task.resume h owner p rest answer = { host := h, tasks := [⟨owner, .list rest⟩] } := by
  rw [Task.resume, verdict_eq, passes]
  rfl

theorem resume_of_fails (h : H) (owner : ω) (fails : p.fails answer = true) :
    Task.resume h owner p rest answer =
      { host := h, request := some (.ended owner (p.failure answer)) } := by
  rw [Task.resume, verdict_eq, fails]
  rfl

end Resume

section Taken

variable {H ω : Type} [Host H] {h : H} {now : Nat} {owner : ω} {work : Work} {stepped : Stepped H ω}
  {stage after : Stage} {done : List Deed}

theorem drop_eq (place : procedures[i]? = some p) :
    procedures.drop i = p :: procedures.drop (i + 1) := by
  obtain ⟨bound, rfl⟩ := List.getElem?_eq_some_iff.1 place
  exact List.drop_eq_getElem_cons bound

/-- An answer that is there at once is the end of a wait that has not begun. -/
theorem step?_over {h' : H} {answer : Except Fault Int} (owner : ω)
    (place : procedures[i]? = some p) (awaited : Awaited p)
    (performed : Host.perform h now p = (h', .over answer)) :
    Task.step? h now ⟨owner, .list (procedures.drop i)⟩ =
      some (Task.resume h' owner p (procedures.drop (i + 1)) answer) := by
  rw [drop_eq place]
  simp [Task.step?, Task.advance, Move.next, awaited.mode, awaited.wait, performed]

/-- What is seen is what the task does. -/
theorem Turn.taken (turn : Turn owner procedures answers h now stage stepped done after) :
    ∃ work, stage.work? procedures = some work ∧ Task.step? h now ⟨owner, work⟩ = some stepped := by
  cases turn with
  | finish none =>
    refine ⟨_, rfl, ?_⟩
    rw [List.drop_eq_nil_of_le (List.getElem?_eq_none_iff.1 none)]
    rfl
  | detach place aside =>
    refine ⟨_, rfl, ?_⟩
    rw [drop_eq place]
    simp [Task.step?, Task.advance, Move.next, aside.mode, aside.wait]
  | begin place awaited performed =>
    refine ⟨_, rfl, ?_⟩
    rw [drop_eq place]
    simp [Task.step?, Task.advance, Move.next, awaited.mode, awaited.wait, performed]
  | atOnce place awaited performed passes =>
    refine ⟨_, rfl, ?_⟩
    rw [step?_over owner place awaited performed, resume_of_passes _ owner passes]
  | failAtOnce place awaited performed fails =>
    refine ⟨_, rfl, ?_⟩
    rw [step?_over owner place awaited performed, resume_of_fails _ owner fails]
  | resume place awaited ended passes =>
    refine ⟨_, by rw [Stage.work?, place, Option.map_some], ?_⟩
    simp only [Task.step?, ended, Option.map_some, resume_of_passes h owner passes]
  | abort place awaited ended fails =>
    refine ⟨_, by rw [Stage.work?, place, Option.map_some], ?_⟩
    simp only [Task.step?, ended, Option.map_some, resume_of_fails h owner fails]
  | handOver place mode data =>
    refine ⟨_, rfl, ?_⟩
    rw [drop_eq place]
    simp [Task.step?, Task.advance, Move.next, mode, target, data]
  | stray place mode aim =>
    refine ⟨_, rfl, ?_⟩
    rw [drop_eq place]
    simp [Task.step?, Task.advance, Move.next, mode, aim]

/-- A task does what is seen, and nothing else. -/
theorem Turn.only {other : Stepped H ω}
    (turn : Turn owner procedures answers h now stage other done after)
    (here : stage.work? procedures = some work)
    (taken : Task.step? h now ⟨owner, work⟩ = some stepped) : other = stepped := by
  obtain ⟨work', here', taken'⟩ := turn.taken
  obtain rfl := Option.some.inj (here.symm.trans here')
  exact Option.some.inj (taken'.symm.trans taken)

theorem target_eq_error {fault : Fault} (given : target p = .error fault) :
    (∀ answer, p.relay answer = .error fault) ∧ ∀ aim, p.data ≠ .command aim := by
  unfold target at given
  split at given
  · cases given
  · rename_i other
    obtain rfl := Except.error.inj given
    refine ⟨fun answer => ?_, other⟩
    unfold Procedure.relay
    split
    · rename_i data
      exact absurd data (other _)
    · rfl

theorem target_eq_ok {aim : String} (given : target p = .ok aim) : p.data = .command aim := by
  unfold target at given
  split at given
  · rename_i data
    rw [data, Except.ok.inj given]
  · cases given

/-- Some step of the list is seen at every procedure. -/
theorem exists_turn_next (owner : ω) (procedures : List Procedure)
    (gives : Gives procedures answers h now (.next i)) :
    ∃ (stepped : Stepped H ω) (done : List Deed) (after : Stage),
      Turn owner procedures answers h now (.next i) stepped done after := by
  cases place : procedures[i]? with
  | none => exact ⟨_, _, _, .finish place⟩
  | some p =>
    by_cases mode : p.mode = .command
    · cases aim : target p with
      | ok name => exact ⟨_, _, _, .handOver place mode (target_eq_ok aim)⟩
      | error fault => exact ⟨_, _, _, .stray place mode aim⟩
    · cases wait : p.wait.isBlocking with
      | false => exact ⟨_, _, _, .detach place ⟨mode, wait⟩⟩
      | true =>
        rcases performed : Host.perform h now p with ⟨h', answer | ticket⟩
        · obtain rfl := gives p answer place ⟨mode, wait⟩ (congrArg Prod.snd performed)
          cases fails : p.fails (answers.dispatch i) with
          | false => exact ⟨_, _, _, .atOnce place ⟨mode, wait⟩ performed fails⟩
          | true => exact ⟨_, _, _, .failAtOnce place ⟨mode, wait⟩ performed fails⟩
        · exact ⟨_, _, _, .begin place ⟨mode, wait⟩ performed⟩

/-- Whatever the task does is seen, on a host that gives the answers. -/
theorem exists_turn (awaited : ∀ i ticket p, stage = .awaiting i ticket →
      procedures[i]? = some p → Awaited p)
    (here : stage.work? procedures = some work) (gives : Gives procedures answers h now stage)
    (taken : Task.step? h now ⟨owner, work⟩ = some stepped) :
    ∃ done after, Turn owner procedures answers h now stage stepped done after := by
  cases stage with
  | asking | finished => cases here
  | awaiting i ticket =>
    obtain ⟨p, place, rfl⟩ := Option.map_eq_some_iff.1 here
    simp only [Task.step?, Option.map_eq_some_iff] at taken
    obtain ⟨answer, ended, rfl⟩ := taken
    obtain rfl := gives answer ended
    have awaited := awaited i ticket p rfl place
    cases fails : p.fails (answers.dispatch i) with
    | false =>
      rw [resume_of_passes h owner fails]
      exact ⟨_, _, .resume place awaited ended fails⟩
    | true =>
      rw [resume_of_fails h owner fails]
      exact ⟨_, _, .abort place awaited ended fails⟩
  | next i =>
    obtain ⟨_, done, after, turn⟩ := exists_turn_next owner procedures gives
    obtain rfl := turn.only here taken
    exact ⟨done, after, turn⟩

/-- A list that does not go on by itself waits for a process. -/
theorem waits (here : stage.work? procedures = some work)
    (stuck : Task.step? h now ⟨owner, work⟩ = none) :
    ∃ i ticket, stage = .awaiting i ticket ∧ Host.ended? h ticket = none := by
  cases stage with
  | asking | finished => cases here
  | next i =>
    obtain rfl := Option.some.inj here
    cases stuck
  | awaiting i ticket =>
    obtain ⟨p, place, rfl⟩ := Option.map_eq_some_iff.1 here
    exact ⟨i, ticket, rfl, Option.map_eq_none_iff.1 stuck⟩

end Taken

/-! ## Every way is a course -/

/-- A list waits only for what it has dispatched to wait for. -/
theorem Course.awaited {H ω : Type} [Host H] {owner : ω} {trace : List (Moment H ω)}
    {log : List Deed} {stage : Stage} (course : Course H owner procedures answers trace log stage)
    (i ticket : Nat) (p : Procedure) (same : stage = .awaiting i ticket)
    (place : procedures[i]? = some p) : Awaited p := by
  cases course with
  | start | reply => cases same
  | step earlier here taken seen =>
    cases seen with
    | finish | detach | atOnce | failAtOnce | resume | abort | handOver | stray => cases same
    | begin there awaited =>
      cases same
      rw [place] at there
      exact Option.some.inj there ▸ awaited

/-- The place of the procedure that the list has come to. -/
def Stage.place : Stage → Nat
  | next i | awaiting i _ => i
  | asking _ | finished _ => 0

section Leaving

variable {H ω : Type} [Host H] {owner : ω} {trace : List (Moment H ω)} {log : List Deed}
  {stage : Stage} {work : Work}

/-- A step asks for no answer but the one at its place, and for that only to pass it. -/
theorem Turn.congr {other : Answers} {h : H} {now : Nat} {stepped : Stepped H ω} {done : List Deed}
    {after : Stage} (turn : Turn owner procedures answers h now stage stepped done after)
    (here : after.work? procedures = some work)
    (agree : ∀ j, j < after.place → other.dispatch j = answers.dispatch j) :
    stage.place ≤ after.place ∧ Turn owner procedures other h now stage stepped done after := by
  cases turn with
  | finish | failAtOnce | abort | handOver | stray => cases here
  | detach place aside => exact ⟨Nat.le_succ _, .detach place aside⟩
  | begin place awaited performed => exact ⟨Nat.le_refl _, .begin place awaited performed⟩
  | atOnce place awaited performed passes =>
    rw [← agree _ (Nat.lt_succ_self _)] at performed passes
    exact ⟨Nat.le_succ _, .atOnce place awaited performed passes⟩
  | resume place awaited ended passes =>
    rw [← agree _ (Nat.lt_succ_self _)] at ended passes
    exact ⟨Nat.le_succ _, .resume place awaited ended passes⟩

/-- Answers that have not been asked for yet could be others. -/
theorem Course.congr {other : Answers} (course : Course H owner procedures answers trace log stage)
    (here : stage.work? procedures = some work)
    (agree : ∀ j, j < stage.place → other.dispatch j = answers.dispatch j) :
    Course H owner procedures other trace log stage := by
  induction course generalizing work with
  | start => exact .start
  | reply => cases here
  | step earlier started taken seen ih =>
    obtain ⟨le, seen⟩ := seen.congr here agree
    exact .step (ih started fun j lt => agree j (Nat.lt_of_lt_of_le lt le)) started taken seen

/-- Some answer to the procedure at its place suits what a host gives at a stage. -/
theorem exists_answer (procedures : List Procedure) (h : H) (now : Nat) (stage : Stage) :
    ∃ answer, ∀ answers : Answers, answers.dispatch stage.place = answer →
      Gives procedures answers h now stage := by
  cases stage with
  | asking | finished => exact ⟨.ok 0, fun _ _ => trivial⟩
  | awaiting i ticket =>
    refine ⟨(Host.ended? h ticket).getD (.ok 0), fun answers here answer ended => ?_⟩
    rw [ended] at here
    exact here.symm
  | next i =>
    cases place : procedures[i]? with
    | none =>
      refine ⟨.ok 0, fun answers here p answer there => ?_⟩
      rw [place] at there
      cases there
    | some p =>
      have only : ∀ q answer, procedures[i]? = some q → (Host.perform h now q).2 = .over answer →
          (Host.perform h now p).2 = .over answer := by
        intro q answer there performed
        rw [place] at there
        exact Option.some.inj there ▸ performed
      rcases performed : (Host.perform h now p).2 with given | ticket
      · refine ⟨given, fun answers here q answer there _ same => ?_⟩
        cases performed.symm.trans (only q answer there same)
        exact here.symm
      · refine ⟨.ok 0, fun answers here q answer there _ same => ?_⟩
        cases performed.symm.trans (only q answer there same)

/-- There are answers that a host gives at a stage, and they are as before for what came earlier. -/
theorem exists_gives (answers : Answers) (procedures : List Procedure) (h : H) (now : Nat)
    (stage : Stage) : ∃ other : Answers, other.request = answers.request ∧
      (∀ j, j < stage.place → other.dispatch j = answers.dispatch j) ∧
        Gives procedures other h now stage := by
  obtain ⟨answer, suits⟩ := exists_answer procedures h now stage
  exact ⟨{ answers with dispatch := fun j => if j = stage.place then answer else answers.dispatch j },
    rfl, fun j lt => if_neg (Nat.ne_of_lt lt), suits _ (if_pos rfl)⟩

/-- Whatever the task does next is seen, with answers that suit the host. -/
theorem Course.onward {h : H} {now : Nat} {stepped : Stepped H ω}
    (course : Course H owner procedures answers trace log stage)
    (here : stage.work? procedures = some work)
    (taken : Task.step? h now ⟨owner, work⟩ = some stepped) :
    ∃ (other : Answers) (done : List Deed) (after : Stage), other.request = answers.request ∧
      Course H owner procedures other trace log stage ∧
        Turn owner procedures other h now stage stepped done after := by
  -- What the host answers now has not been asked for before, so the course so far does not mind.
  obtain ⟨other, request, agree, gives⟩ := exists_gives answers procedures h now stage
  obtain ⟨done, after, turn⟩ := exists_turn course.awaited here gives taken
  exact ⟨other, done, after, request, course.congr here agree, turn⟩

theorem Turn.leaves {h : H} {now : Nat} {stepped : Stepped H ω} {done : List Deed} {after : Stage}
    (turn : Turn owner procedures answers h now stage stepped done after) :
    after.Leaves owner procedures stepped.tasks stepped.request := by
  cases turn with
  | finish | failAtOnce | abort | stray => exact .finished
  | handOver => exact .asking
  | detach =>
    refine .onward rfl fun t mem => ?_
    obtain rfl := List.mem_singleton.1 mem
    rfl
  | begin place => exact .onward (by rw [Stage.work?, place, Option.map_some]) (List.forall_mem_nil _)
  | atOnce | resume => exact .onward rfl (List.forall_mem_nil _)

/-- Whatever steps a task has taken, it was on a course, with answers that suit. -/
theorem Runs.course {tasks : List (Task ω)} {request : Option (Request ω)}
    (runs : Runs H owner procedures trace tasks request) (reply : Except Fault Unit) :
    ∃ (answers : Answers) (log : List Deed) (stage : Stage), answers.request = reply ∧
      Course H owner procedures answers trace log stage ∧
        stage.Leaves owner procedures tasks request := by
  induction runs with
  | start =>
    exact ⟨⟨fun _ => .ok 0, reply⟩, [], .next 0, rfl, .start, .onward rfl (List.forall_mem_nil _)⟩
  | step earlier taken ih =>
    obtain ⟨answers, log, stage, asked, course, leaves⟩ := ih
    cases leaves with
    | onward here still =>
      obtain ⟨other, done, after, same, course, turn⟩ := course.onward here taken
      exact ⟨other, log ++ done, after, same.trans asked, .step course here taken turn, turn.leaves⟩

end Leaving

/-! ## A list comes to an end -/

theorem Turn.rank_lt {H ω : Type} [Host H] {owner : ω} {h : H} {now : Nat} {stage after : Stage}
    {stepped : Stepped H ω} {done : List Deed}
    (turn : Turn owner procedures answers h now stage stepped done after) :
    after.rank procedures.length < stage.rank procedures.length := by
  cases turn with
  | finish | begin | failAtOnce | abort | handOver | stray => simp only [Stage.rank]; omega
  | detach place | atOnce place | resume place =>
    obtain ⟨bound, -⟩ := List.getElem?_eq_some_iff.1 place
    simp only [Stage.rank]
    omega

theorem Course.bounded {H ω : Type} [Host H] {owner : ω} {trace : List (Moment H ω)}
    {log : List Deed} {stage : Stage}
    (course : Course H owner procedures answers trace log stage) :
    trace.length + stage.rank procedures.length ≤ 2 * procedures.length + 2 := by
  induction course with
  | start => simp only [Stage.rank, List.length_nil]; omega
  | step earlier here taken seen ih =>
    have less := seen.rank_lt
    rw [List.length_append, List.length_singleton]
    omega
  | reply earlier ih =>
    simp only [Stage.rank] at ih ⊢
    omega

end Supervisor.Executor
