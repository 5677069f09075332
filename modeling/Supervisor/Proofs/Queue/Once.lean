import Supervisor.Proofs.Queue.Soundness

/-!
# A command that has succeeded once

A `once` command that has succeeded, or that the record held as done when a supervisor began, is done
in the queue and in the record from then on, over any number of lives cut off between any two acts.
No scan launches it again and every request for it is refused.
-/

namespace Supervisor.Queue

variable {m : Manifest} {q q' : Queue} {name : String} {act : Act} {first : Record}

/-- The record held the command as done when one of the lives began. -/
def HeldDone (first : Record) (lives : List (List Act)) (name : String) : Prop :=
  ∃ later acts earlier, lives = later ++ acts :: earlier ∧
    (recordAfter first earlier.flatten).statusOf name = some .done

/-- The command has succeeded in one of the lives. -/
def HasSucceeded (lives : List (List Act)) (name : String) : Prop :=
  ∃ acts ∈ lives, ∃ write, .ended name .succeeded write ∈ acts

/-- The command is done, and the record says so. -/
structure DoneForGood (q : Queue) (r : Record) (name : String) : Prop where
  queue : q.statusOf name = some .done
  record : r.statusOf name = some .done

/-! ## One act -/

/-- A `once` command that is done is left as it is, and nothing is written about it. -/
theorem Turn.once_done {command : Command} {after : Option Entry} {status : Option Status}
    (turn : Turn m q name act after status) (sound : Sound m q) (known : m.get? name = some command)
    (once : command.policy = .once) (done : q.statusOf name = some .done) :
    after = q.get? name ∧ status = none := by
  obtain ⟨e, he, hd⟩ := statusOf_eq_some.1 done
  obtain rfl := sound.command_eq he known
  cases turn with
  | untouched => exact ⟨rfl, rfl⟩
  | accepted persist write granted =>
    have again := granted.again e he hd
    rw [← sound.command_eq he granted.known] at again
    exact absurd once again
  | discovered persist known' missing => rw [missing] at he; cases he
  | launched tracked active =>
    cases he.symm.trans tracked
    simp [Entry.isActive, Entry.isSettled, hd, once, Status.isTerminal] at active
  | ended outcome write tracked running =>
    cases he.symm.trans tracked
    rw [hd] at running
    cases running
  | evicted names tracked useless =>
    cases he.symm.trans tracked
    have always := (isEvictable_iff.1 useless).2.1
    rw [once] at always
    cases always

theorem DoneForGood.step {r : Record} {command : Command} (h : DoneForGood q r name)
    (sound : Sound m q) (known : m.get? name = some command) (once : command.policy = .once)
    (step : Step m q act q') : DoneForGood q' (r.keep act.writes) name := by
  obtain ⟨status, turn, writes⟩ := step.turn name
  obtain ⟨same, rfl⟩ := turn.once_done sound known once h.queue
  refine ⟨?_, ?_⟩
  · rw [statusOf, same]
    exact h.queue
  · rw [writes, Option.none_or]
    exact h.record

/-- Success makes a `once` command done for good: its statuses are always kept. -/
theorem done_of_succeeded {r : Record} {command : Command} {write : Option StatusWrite}
    (sound : Sound m q) (known : m.get? name = some command) (once : command.policy = .once)
    (step : Step m q (.ended name .succeeded write) q') :
    DoneForGood q' (r.keep (Act.ended name .succeeded write).writes) name := by
  obtain ⟨status, turn, writes⟩ := step.turn name
  generalize hq' : q'.get? name = after at turn
  cases turn with
  | untouched h => exact absurd List.mem_cons_self h
  | @ended e _ _ tracked running =>
    obtain rfl := sound.command_eq tracked known
    have lasting : e.command.policy ≠ .restart := by rw [once]; decide
    have kept := (sound name e tracked).kept once
    refine ⟨?_, ?_⟩
    · rw [statusOf, hq', Option.map_some, endedStatus, if_neg lasting]
    · have hw : endedWrite e .succeeded = some .done := by
        rw [endedWrite, if_pos ⟨kept, fun _ => lasting⟩, endedStatus, if_neg lasting]
      rw [writes, hw, Option.some_or]

/-! ## One life -/

/-- A command that a life begins with as done is done for good at its end. -/
theorem done_of_held {command : Command} {record : Record} {acts : List Act}
    (h : Steps m (restored m record) acts q) (known : m.get? name = some command)
    (once : command.policy = .once) (held : record.statusOf name = some .done) :
    DoneForGood q (recordAfter record acts) name := by
  induction h with
  | none =>
    refine ⟨?_, held⟩
    rw [statusOf, get?_restored, held]
    simp [restoredEntry, known, restoredStatus, once, Entry.fresh]
  | more earlier step ih => exact ih.step (earlier.sound (sound_restored m record)) known once step

/-- A command that succeeds in a life is done for good at its end. -/
theorem done_of_ended {command : Command} {record : Record} {acts : List Act}
    (h : Steps m (restored m record) acts q) (known : m.get? name = some command)
    (once : command.policy = .once) {write : Option StatusWrite}
    (ended : .ended name .succeeded write ∈ acts) : DoneForGood q (recordAfter record acts) name := by
  induction h with
  | none => cases ended
  | more earlier step ih =>
    have sound := earlier.sound (sound_restored m record)
    rcases List.mem_cons.1 ended with rfl | before
    · exact done_of_succeeded sound known once step
    · exact (ih before).step sound known once step

/-! ## Lives one after another -/

theorem recordAfter_lives (first : Record) (acts : List Act) (lives : List (List Act)) :
    recordAfter first (acts :: lives).flatten =
      recordAfter (recordAfter first lives.flatten) acts := by
  rw [List.flatten_cons, recordAfter_append]

theorem Lives.sound {lives : List (List Act)} (h : Lives m first lives q) : Sound m q := by
  cases h with
  | begin steps => exact steps.sound (sound_restored m _)
  | resume _ steps => exact steps.sound (sound_restored m _)

/-- Whatever a life is like, it ends with the command done for good if it began so or the command has
succeeded in it. -/
theorem Lives.doneForGood {command : Command} {lives : List (List Act)} (h : Lives m first lives q)
    (known : m.get? name = some command) (once : command.policy = .once)
    (settled : HeldDone first lives name ∨ HasSucceeded lives name) :
    DoneForGood q (recordAfter first lives.flatten) name := by
  induction h with
  | begin steps =>
    rw [List.flatten_cons, List.flatten_nil, List.append_nil]
    rcases settled with ⟨later, life, earlier, split, held⟩ | ⟨life, mem, write, ended⟩
    · cases later with
      | nil =>
        obtain ⟨-, rfl⟩ := List.cons.inj split
        exact done_of_held steps known once held
      | cons latest later => simp at split
    · rw [List.mem_singleton] at mem
      subst mem
      exact done_of_ended steps known once ended
  | resume earlier steps ih =>
    rw [recordAfter_lives]
    rcases settled with ⟨later, life, before, split, held⟩ | ⟨life, mem, write, ended⟩
    · cases later with
      | nil =>
        obtain ⟨-, rfl⟩ := List.cons.inj split
        exact done_of_held steps known once held
      | cons latest later =>
        obtain ⟨-, rfl⟩ := List.cons.inj split
        exact done_of_held steps known once (ih (.inl ⟨later, life, before, rfl, held⟩)).record
    · rcases List.mem_cons.1 mem with rfl | mem
      · exact done_of_ended steps known once ended
      · exact done_of_held steps known once (ih (.inr ⟨life, mem, write, ended⟩)).record

/-- **Once means once.** Over any lives of supervisors of one manifest, from any record: once a `once`
command has succeeded, or a life has begun with a record that held it as done, no scan launches it
and every request for it is refused because it has completed. -/
theorem once_never_repeated {command : Command} {lives : List (List Act)} (h : Lives m first lives q)
    (known : m.get? name = some command) (once : command.policy = .once)
    (settled : HeldDone first lives name ∨ HasSucceeded lives name) :
    (∀ l ∈ (q.scan m).2.launches, l.name ≠ name) ∧
      ∀ persist, q.enqueue m name persist = .error (.alreadyCompletedOnce name) := by
  obtain ⟨e, he, done⟩ := statusOf_eq_some.1 (h.doneForGood known once settled).queue
  refine ⟨?_, enqueue_once_done known once he done⟩
  rintro l hl rfl
  obtain ⟨e', he', active, -⟩ := mem_launches hl
  cases he.symm.trans he'
  obtain rfl := h.sound.command_eq he known
  simp [Entry.isActive, Entry.isSettled, done, once, Status.isTerminal] at active

/-- A manifest with one command, which runs once. -/
def installer : Manifest :=
  ⟨"m", none, none, .ofList [("install", ⟨"install", .once, [], []⟩)]⟩

/-- An installation that succeeds in one life is not repeated in the next. -/
theorem once_never_repeated_install :
    ∃ acts q, Lives installer {} [[], acts] q ∧ HasSucceeded [[], acts] "install" ∧
      (∀ l ∈ (q.scan installer).2.launches, l.name ≠ "install") ∧
      ∀ persist, q.enqueue installer "install" persist =
        .error (.alreadyCompletedOnce "install") := by
  have asked : Steps installer (restored installer {}) _ _ := .more .none (.accept "install" true rfl)
  have ended := (asked.more .scan).more (.complete "install" .succeeded rfl)
  have lives := (Lives.begin ended).resume .none
  refine ⟨_, _, lives, ⟨_, .tail _ (.head _), _, .head _⟩, ?_⟩
  exact once_never_repeated lives rfl rfl (.inr ⟨_, .tail _ (.head _), _, .head _⟩)

end Supervisor.Queue
