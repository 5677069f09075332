import Supervisor.Proofs.Queue.Turn

/-!
# Sound entries

What is true of every entry however the queue came about: it belongs to the manifest's command of
that name, the statuses of a `once` command are kept, and a `restart` command is never done. A queue
of sound entries stays one under every act, from any record.
-/

namespace Supervisor.Queue

variable {m : Manifest} {q q' : Queue} {name : String} {act : Act}

structure Entry.Sound (m : Manifest) (name : String) (e : Entry) : Prop where
  known : m.get? name = some e.command
  kept : e.command.policy = .once → e.persist = true
  endless : e.command.policy = .restart → e.status ≠ .done

def Sound (m : Manifest) (q : Queue) : Prop := ∀ name e, q.get? name = some e → e.Sound m name

/-- An entry belongs to the command that its name has in the manifest. -/
theorem Sound.command_eq (sound : Sound m q) {e : Entry} {command : Command}
    (he : q.get? name = some e) (known : m.get? name = some command) : e.command = command :=
  Option.some.inj ((sound name e he).known.symm.trans known)

theorem keeps_once {command : Command} (h : command.policy = .once) (persist : Bool) :
    keeps command persist = true := by simp [keeps, h]

theorem restoredStatus_done {command : Command} {recorded status : Status}
    (h : restoredStatus command recorded = some status) (done : status = .done) :
    command.policy = .once := by
  subst done
  cases recorded with
  | waiting | running | error => cases h
  | done => simpa [restoredStatus] using h

theorem restoredEntry_eq_some {recorded : Status} {e : Entry} :
    restoredEntry m name recorded = some e ↔ ∃ command status, m.get? name = some command ∧
      restoredStatus command recorded = some status ∧ e = Entry.fresh command status true := by
  simp only [restoredEntry, Option.bind_eq_some_iff, Option.map_eq_some_iff]
  constructor
  · rintro ⟨command, hc, status, hs, rfl⟩
    exact ⟨command, status, hc, hs, rfl⟩
  · rintro ⟨command, status, hc, hs, rfl⟩
    exact ⟨command, hc, status, hs, rfl⟩

/-- What the record of a command brings back. -/
theorem get?_restored_eq_some {record : Record} {e : Entry} :
    (restored m record).get? name = some e ↔ ∃ recorded command status,
      record.statusOf name = some recorded ∧ m.get? name = some command ∧
        restoredStatus command recorded = some status ∧ e = Entry.fresh command status true := by
  rw [get?_restored, Option.bind_eq_some_iff]
  simp only [restoredEntry_eq_some, exists_and_left]

theorem restoredEntry_sound {recorded : Status} {e : Entry}
    (he : restoredEntry m name recorded = some e) : e.Sound m name := by
  obtain ⟨command, status, hc, hs, rfl⟩ := restoredEntry_eq_some.1 he
  refine ⟨hc, fun _ => rfl, fun restart done => ?_⟩
  have once := restoredStatus_done hs done
  exact absurd (once.symm.trans restart) (by decide)

theorem sound_restored (m : Manifest) (record : Record) : Sound m (restored m record) := by
  intro name e he
  rw [get?_restored, Option.bind_eq_some_iff] at he
  obtain ⟨recorded, -, he⟩ := he
  exact restoredEntry_sound he

/-- The end of a launch leaves an entry sound, whatever its status was. -/
theorem Entry.Sound.ended {e : Entry} (old : e.Sound m name) (outcome : Outcome) :
    ({ e with status := endedStatus e.command outcome } : Entry).Sound m name := by
  refine ⟨old.known, old.kept, fun restart => ?_⟩
  cases outcome with
  | failed => exact fun h => by cases h
  | succeeded =>
    rw [endedStatus, if_pos restart]
    exact fun h => by cases h

theorem Sound.turn (sound : Sound m q) {after : Option Entry} {status : Option Status}
    (turn : Turn m q name act after status) {e : Entry} (he : after = some e) : e.Sound m name := by
  cases turn with
  | untouched => exact sound name e he
  | @accepted command persist write granted =>
    cases he
    cases hq : q.get? name with
    | none => exact ⟨granted.known, fun once => keeps_once once persist, fun _ h => by cases h⟩
    | some old =>
      obtain rfl := sound.command_eq hq granted.known
      exact ⟨granted.known, fun once => keeps_once once persist, fun _ h => by cases h⟩
  | discovered persist known =>
    cases he
    exact ⟨known, fun once => keeps_once once persist, fun _ h => by cases h⟩
  | launched tracked =>
    cases he
    have old := sound name _ tracked
    exact ⟨old.known, old.kept, fun _ h => by cases h⟩
  | ended outcome write tracked =>
    cases he
    exact (sound name _ tracked).ended outcome
  | evicted => cases he

theorem Sound.step (sound : Sound m q) (h : Step m q act q') : Sound m q' := by
  intro name e he
  obtain ⟨status, turn, -⟩ := h.turn name
  exact sound.turn turn he

theorem Steps.sound {q₀ : Queue} {acts : List Act} (h : Steps m q₀ acts q) (start : Sound m q₀) :
    Sound m q :=
  h.keeps (fun step sound => sound.step step) start

/-- A command that is done for good, or failed for good, is left alone by every scan. -/
theorem Sound.active_iff (sound : Sound m q) {e : Entry} (he : q.get? name = some e) :
    e.isActive = true ↔
      e.status = .waiting ∨ (e.status = .error ∧ e.command.policy = .restart) := by
  have endless := (sound name e he).endless
  cases hs : e.status with
  | waiting | running => simp [Entry.isActive, Entry.isSettled, hs, Status.isTerminal]
  | done =>
    have : e.command.policy ≠ .restart := fun h => endless h hs
    simp [Entry.isActive, Entry.isSettled, hs, Status.isTerminal, this]
  | error => simp [Entry.isActive, Entry.isSettled, hs, Status.isTerminal]

/-- A scan leaves done what is done. -/
theorem Sound.scan_done (sound : Sound m q) (done : q.statusOf name = some .done) :
    (q.scan m).1.statusOf name = some .done := by
  obtain ⟨e, he, hd⟩ := statusOf_eq_some.1 done
  obtain ⟨status, turn, -⟩ := course_scan m q name
  generalize ha : (q.scan m).1.get? name = after at turn
  rw [statusOf, ha]
  cases turn with
  | untouched =>
    rw [he, Option.map_some, hd]
  | discovered _ _ missing =>
    rw [missing] at he
    cases he
  | launched tracked active =>
    cases he.symm.trans tracked
    rcases (sound.active_iff he).1 active with waits | ⟨failed, -⟩
    · rw [waits] at hd
      cases hd
    · rw [failed] at hd
      cases hd

end Supervisor.Queue
