import Supervisor.Proofs.Queue.Soundness

/-!
# What a restart recovers

The record and the queue differ on purpose: a `restart` command that succeeded waits again while the
record still says that it runs, and an evicted command stays in the record. `Mirrored` is what they
always agree on: the status in which each command would come back from the record is the one its
entry asks for. Every act keeps it, so a restart brings back the kept unfinished commands and the
`once` commands that are done, and nothing else.
-/

namespace Supervisor.Queue

variable {m : Manifest} {q q' : Queue} {name : String} {act : Act} {first : Record}

/-- The status in which an entry's command should come back after a restart. -/
def Entry.survival (e : Entry) : Option Status :=
  match e.status with
  | .waiting | .running => if e.persist then some .waiting else none
  | .done => if e.command.policy = .once then some .done else none
  | .error => none

/-- The status in which a command comes back after a write about it, if there is one. -/
def recalled (command : Command) (before : Option Status) : Option Status → Option Status
  | some status => restoredStatus command status
  | none => before

@[simp] theorem recalled_some (command : Command) (before : Option Status) (status : Status) :
    recalled command before (some status) = restoredStatus command status := rfl

@[simp] theorem recalled_none (command : Command) (before : Option Status) :
    recalled command before none = before := rfl

/-- The record brings every command back as its entry asks. -/
def Mirrored (m : Manifest) (q : Queue) (r : Record) : Prop :=
  ∀ name command, m.get? name = some command →
    (r.statusOf name).bind (restoredStatus command) = (q.get? name).bind Entry.survival

theorem survival_cases (e : Entry) :
    e.survival = none ∨ e.survival = some .waiting ∨ e.survival = some .done := by
  cases hs : e.status with
  | waiting | running => cases hp : e.persist <;> simp [Entry.survival, hs, hp]
  | done => by_cases once : e.command.policy = .once <;> simp [Entry.survival, hs, once]
  | error => simp [Entry.survival, hs]

theorem survival_pending (e : Entry) (h : e.status.isTerminal = false) :
    e.survival = if e.persist then some .waiting else none := by
  cases hs : e.status with
  | waiting | running => simp [Entry.survival, hs]
  | done | error => rw [hs] at h; cases h

theorem survival_ended (e : Entry) (h : e.status.isTerminal = true)
    (again : e.status = .done → e.command.policy ≠ .once) : e.survival = none := by
  cases hs : e.status with
  | waiting | running => rw [hs] at h; cases h
  | done => simp [Entry.survival, hs, again hs]
  | error => simp [Entry.survival, hs]

theorem survival_unkept {e : Entry} (unkept : e.persist = false)
    (kept : e.command.policy = .once → e.persist = true) : e.survival = none := by
  have often : e.command.policy ≠ .once := fun once => by
    rw [kept once] at unkept
    cases unkept
  cases hs : e.status <;> simp [Entry.survival, hs, unkept, often]

theorem mirrored_restored (m : Manifest) (record : Record) :
    Mirrored m (restored m record) record := by
  intro name command known
  rw [get?_restored]
  cases record.statusOf name with
  | none => rfl
  | some recorded =>
    rw [Option.bind_some, Option.bind_some, restoredEntry, known, Option.bind_some]
    cases recorded with
    | waiting | running => rfl
    | error => rfl
    | done =>
      by_cases once : command.policy = .once <;>
        simp [restoredStatus, once, Entry.survival, Entry.fresh]

/-- What a turn writes is what the entry asks for afterwards; where it writes nothing, the entry asks
for the same as before. -/
theorem Turn.survival {command : Command} {after : Option Entry} {status : Option Status}
    (turn : Turn m q name act after status) (sound : Sound m q)
    (known : m.get? name = some command) :
    after.bind Entry.survival = recalled command ((q.get? name).bind Entry.survival) status := by
  have own : ∀ e, q.get? name = some e → e.command = command := fun e he =>
    sound.command_eq he known
  cases turn with
  | untouched => rfl
  | @accepted asked persist write granted =>
    obtain rfl := Option.some.inj (granted.known.symm.trans known)
    have before : (q.get? name).bind Entry.survival = none := by
      cases he : q.get? name with
      | none => rfl
      | some e =>
        have again := granted.again e he
        rw [← own e he] at again
        exact survival_ended e (granted.ended e he) again
    rw [before, Option.bind_some, survival_pending _ (by rw [askedEntry_status]; rfl),
      askedEntry_persist]
    cases keeps asked persist <;> rfl
  | @discovered found pass persist known' missing =>
    rw [missing, Option.bind_some, survival_pending _ rfl, Entry.fresh]
    cases keeps found persist <;> rfl
  | @launched e pass tracked active =>
    rw [tracked, Option.bind_some, Option.bind_some, survival_pending _ rfl, Entry.launched]
    cases hp : e.persist with
    | true => rfl
    | false => rw [survival_unkept hp (sound name e tracked).kept]; rfl
  | @ended e outcome write tracked running =>
    have pending : e.status.isTerminal = false := by rw [running]; rfl
    rw [tracked, Option.bind_some, Option.bind_some, ← own e tracked]
    cases hp : e.persist with
    | false =>
      have kept := (sound name e tracked).kept
      rw [survival_unkept hp kept, endedWrite, hp, if_neg (by simp), recalled_none]
      exact survival_unkept (e := ⟨_, false, _, e.command⟩) rfl (fun once => hp ▸ kept once)
    | true =>
      cases outcome with
      | failed => simp [endedWrite, hp, endedStatus, Entry.survival, restoredStatus]
      | succeeded =>
        -- A restart command waits again and nothing is written: it asks for the same as before.
        by_cases restart : e.command.policy = .restart
        · simp [endedWrite, endedStatus, restart, Entry.survival, running, hp]
        · simp [endedWrite, endedStatus, restart, Entry.survival, hp, restoredStatus]
  | @evicted e names tracked useless =>
    obtain ⟨ended, always, -⟩ := isEvictable_iff.1 useless
    rw [tracked, Option.bind_some, survival_ended e ended (by simp [always])]
    rfl

theorem Mirrored.step {r : Record} (mirrored : Mirrored m q r) (sound : Sound m q)
    (step : Step m q act q') : Mirrored m q' (r.keep act.writes) := by
  intro name command known
  obtain ⟨status, turn, writes⟩ := step.turn name
  rw [turn.survival sound known, writes]
  cases status with
  | none => rw [Option.none_or]; exact mirrored name command known
  | some status => rfl

theorem Steps.mirrored {acts : List Act} (h : Steps m (restored m first) acts q) :
    Mirrored m q (recordAfter first acts) := by
  induction h with
  | none => exact mirrored_restored m first
  | more earlier step ih => exact ih.step (earlier.sound (sound_restored m first)) step

/-! ## Bringing the record back -/

/-- The queue keeps the command's statuses and it has not ended. -/
def Unfinished (q : Queue) (name : String) : Prop :=
  ∃ e, q.get? name = some e ∧ e.persist = true ∧ (e.status = .waiting ∨ e.status = .running)

theorem survival_waiting (q : Queue) (name : String) :
    (q.get? name).bind Entry.survival = some .waiting ↔ Unfinished q name := by
  rw [Option.bind_eq_some_iff]
  refine exists_congr fun e => and_congr_right fun _ => ?_
  cases hs : e.status <;> simp [Entry.survival, hs]

theorem survival_done {command : Command} (sound : Sound m q) (known : m.get? name = some command) :
    (q.get? name).bind Entry.survival = some .done ↔
      command.policy = .once ∧ q.statusOf name = some .done := by
  cases he : q.get? name with
  | none => simp [statusOf, he]
  | some e =>
    have own := sound.command_eq he known
    cases hs : e.status <;> simp [Entry.survival, statusOf, he, hs, own]

theorem statusOf_restored {command : Command} {r : Record} (known : m.get? name = some command) :
    (restored m r).statusOf name = (r.statusOf name).bind (restoredStatus command) := by
  rw [statusOf, get?_restored, Option.map_bind]
  congr 1
  funext recorded
  rw [Function.comp, restoredEntry, known, Option.bind_some, Option.map_map]
  exact Option.map_id' ..

theorem mem_resumed_iff {command : Command} {r : Record} (known : m.get? name = some command) :
    name ∈ (restore .empty m r).2 ↔ (restored m r).statusOf name = some .waiting := by
  rw [mem_resumed, statusOf_restored known, Option.bind_eq_some_iff]
  refine exists_congr fun recorded => and_congr_right fun _ => ?_
  rw [known]
  cases recorded with
  | waiting | running => simp [restoredStatus, Status.isTerminal]
  | done => by_cases once : command.policy = .once <;> simp [restoredStatus, once, Status.isTerminal]
  | error => simp [restoredStatus, Status.isTerminal]

/-- **The record says what a crash has to recover.** After any history that began with a record,
bringing the kept record back into an empty queue resumes as waiting the commands whose statuses are
kept and which wait or run, brings back as done the `once` commands that are done, and leaves every
other command out. -/
theorem restore_recovers {command : Command} {acts : List Act}
    (h : Steps m (restored m first) acts q) (known : m.get? name = some command) :
    let r := recordAfter first acts
    (name ∈ (restore .empty m r).2 ↔ Unfinished q name) ∧
      ((restored m r).statusOf name = some .waiting ↔ Unfinished q name) ∧
      ((restored m r).statusOf name = some .done ↔
        command.policy = .once ∧ q.statusOf name = some .done) ∧
      (¬ Unfinished q name → ¬ (command.policy = .once ∧ q.statusOf name = some .done) →
        (restored m r).get? name = none) := by
  intro r
  have sound := h.sound (sound_restored m first)
  have same : (restored m r).statusOf name = (q.get? name).bind Entry.survival :=
    (statusOf_restored known).trans (h.mirrored name command known)
  have waiting := survival_waiting q name
  have done := survival_done sound known
  rw [← same] at waiting done
  refine ⟨(mem_resumed_iff known).trans waiting, waiting, done, fun finished undone => ?_⟩
  rw [← waiting] at finished
  rw [← done] at undone
  rw [same, Option.bind_eq_some_iff] at finished undone
  rw [← Option.map_eq_none_iff (f := Entry.status)]
  cases he : q.get? name with
  | none => rw [← statusOf, same, he, Option.bind_none]
  | some e =>
    rcases survival_cases e with none | waits | done
    · rw [← statusOf, same, he, Option.bind_some, none]
    · exact absurd ⟨e, he, waits⟩ finished
    · exact absurd ⟨e, he, done⟩ undone

/-- A manifest with one command, which starts again whenever it has succeeded. -/
def keeper : Manifest :=
  ⟨"m", none, none, .ofList [("server", ⟨"server", .restart, [], []⟩)]⟩

/-- A server that succeeded waits again while the record says that it runs; a crash then brings it
back. -/
theorem restore_recovers_server :
    ∃ acts q, Steps keeper (restored keeper {}) acts q ∧
      (recordAfter {} acts).statusOf "server" = some .running ∧
      q.statusOf "server" = some .waiting ∧
      "server" ∈ (restore .empty keeper (recordAfter {} acts)).2 := by
  have asked : Steps keeper (restored keeper {}) _ _ := .more .none (.accept "server" true rfl)
  have ended := (asked.more .scan).more (.complete "server" .succeeded rfl)
  refine ⟨_, _, ended, rfl, rfl, ?_⟩
  exact (restore_recovers ended rfl).1.2 ⟨_, rfl, rfl, .inl rfl⟩

end Supervisor.Queue
