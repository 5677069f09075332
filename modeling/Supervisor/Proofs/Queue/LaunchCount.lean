import Mathlib.Data.List.TakeWhile
import Supervisor.Proofs.Queue.Balance

/-!
# What a launch count counts

An entry counts the launches of its command, and takes its count with it when it is evicted. So the
count of a command is the number of its launches since its entry was last evicted. Only what has ended
is evicted, and that has been launched; so every eviction forgets a launch, and a count is complete just
when its command was never evicted. `once` and `restart` commands never are.
-/

namespace Supervisor.Queue

variable {m : Manifest} {q q' : Queue} {name : String} {act : Act} {acts : List Act} {first : Record}
  {e : Entry}

/-- The act takes the entry of the command out of the queue. -/
def Act.evicts (name : String) : Act → Bool
  | evicted names => names.contains name
  | accepted .. | refused .. | scanned _ | ended .. => false

/-- The acts since the entry of the command was last evicted; all of them if it never was. -/
def sinceEvicted (name : String) (acts : List Act) : List Act :=
  acts.takeWhile fun act => !act.evicts name

/-! ## Counting on -/

/-- The launches that an entry counts. -/
def counted (entry : Option Entry) : Nat := (entry.map Entry.launches).getD 0

theorem Act.evicts_untouched (h : name ∉ act.touched) : act.evicts name = false := by
  cases act with
  | evicted names => exact Bool.eq_false_iff.2 fun gone => h (List.contains_iff_mem.1 gone)
  | accepted | refused | scanned | ended => rfl

theorem Step.evicts {names : List String} (step : Step m q (.evicted names) q')
    (he : q.get? name = some e) (useless : q.isEvictable name e = true) :
    (Act.evicted names).evicts name = true := by
  cases step with
  | evict => exact List.contains_iff_mem.2 (mem_evicted.2 ⟨e, he, useless⟩)

theorem Step.useless (step : Step m q act q') (gone : act.evicts name = true) :
    ∃ e, q.get? name = some e ∧ q.isEvictable name e = true := by
  cases step with
  | evict => exact mem_evicted.1 (List.contains_iff_mem.1 gone)
  | accept | refuse | scan | complete => cases gone

/-- An act adds its launches to the count, unless it takes the entry away. -/
theorem Step.counted_eq (step : Step m q act q') (name : String) : counted (q'.get? name) =
    if act.evicts name then 0 else counted (q.get? name) + act.starts name := by
  obtain ⟨status, turn, -⟩ := step.turn name
  generalize q'.get? name = after at turn ⊢
  cases turn with
  | untouched new =>
    rw [Act.evicts_untouched new, (Act.still_of_untouched new).1]
    rfl
  | accepted => cases q.get? name <;> rfl
  | discovered persist known missing once still =>
    rw [missing, Act.starts_scanned_eq_zero still]
    rfl
  | launched tracked active ready old once =>
    rw [tracked, Act.starts_scanned_eq_one once]
    rfl
  | ended outcome write tracked =>
    rw [tracked]
    rfl
  | evicted names tracked useless =>
    rw [if_pos (step.evicts tracked useless)]
    rfl

/-- A record brings back no count. -/
theorem counted_restored (m : Manifest) (first : Record) (name : String) :
    counted ((restored m first).get? name) = 0 := by
  cases he : (restored m first).get? name with
  | none => rfl
  | some e =>
    obtain ⟨recorded, command, status, -, -, -, rfl⟩ := get?_restored_eq_some.1 he
    rfl

theorem Steps.counted_eq (h : Steps m (restored m first) acts q) (name : String) :
    counted (q.get? name) = starts name (sinceEvicted name acts) := by
  induction h with
  | none => exact counted_restored m first name
  | @more past act q q' earlier step ih =>
    rw [step.counted_eq, sinceEvicted, List.takeWhile_cons]
    cases act.evicts name with
    | true => rfl
    | false =>
      show counted (q.get? name) + act.starts name =
        act.starts name + starts name (sinceEvicted name past)
      rw [ih, Nat.add_comm]

theorem starts_since_le (name : String) (acts : List Act) :
    starts name (sinceEvicted name acts) ≤ starts name acts := by
  have split : sinceEvicted name acts ++ acts.dropWhile (fun act => !act.evicts name) = acts :=
    List.takeWhile_append_dropWhile
  calc starts name (sinceEvicted name acts)
      ≤ starts name (sinceEvicted name acts) +
          starts name (acts.dropWhile fun act => !act.evicts name) := Nat.le_add_right ..
    _ = starts name acts := by rw [← starts_append, split]

/-! ## What is forgotten -/

/-- What runs or has ended was launched, unless it is a `once` command that was done before. -/
def Entry.Begun (e : Entry) : Prop :=
  e.status = .waiting ∨ e.status = .done ∧ e.command.policy = .once ∨ 0 < e.launches

def Begun (q : Queue) : Prop := ∀ name e, q.get? name = some e → e.Begun

theorem begun_restored (m : Manifest) (first : Record) : Begun (restored m first) := by
  intro name e he
  obtain ⟨recorded, command, status, -, -, restored, rfl⟩ := get?_restored_eq_some.1 he
  cases recorded with
  | waiting | running => exact .inl (Option.some.inj restored).symm
  | error => cases restored
  | done =>
    obtain ⟨once, done⟩ := Option.ite_none_right_eq_some.1 restored
    exact .inr (.inl ⟨(Option.some.inj done).symm, once⟩)

theorem Entry.Begun.of_running (begun : e.Begun) (running : e.status = .running) : 0 < e.launches := by
  rcases begun with waits | ⟨done, -⟩ | launched
  · cases running.symm.trans waits
  · cases running.symm.trans done
  · exact launched

theorem Step.begun (step : Step m q act q') (begun : Begun q) : Begun q' := by
  intro name e he
  obtain ⟨status, turn, -⟩ := step.turn name
  rw [he] at turn
  generalize after : some e = entry at turn
  cases turn with
  | untouched => exact begun name e after.symm
  | accepted =>
    cases after
    exact .inl (askedEntry_status ..)
  | discovered =>
    cases after
    exact .inl rfl
  | launched =>
    cases after
    exact .inr (.inr (Nat.succ_pos _))
  | ended outcome write tracked running =>
    cases after
    exact .inr (.inr ((begun name _ tracked).of_running running))
  | evicted => cases after

theorem Steps.begun (h : Steps m (restored m first) acts q) : Begun q :=
  h.keeps Step.begun (begun_restored m first)

/-- What is of no further use has been launched. -/
theorem Begun.counted_pos (begun : Begun q) (he : q.get? name = some e)
    (useless : q.isEvictable name e = true) : 0 < counted (q.get? name) := by
  obtain ⟨ended, always, -⟩ := isEvictable_iff.1 useless
  rw [he]
  rcases begun name e he with waits | ⟨-, once⟩ | launched
  · rw [waits] at ended
    cases ended
  · cases always.symm.trans once
  · exact launched

/-- With an eviction of the command in its past, a count falls short. -/
theorem Steps.counted_lt (h : Steps m (restored m first) acts q) {gone : Act} (mem : gone ∈ acts)
    (evicts : gone.evicts name = true) : counted (q.get? name) < starts name acts := by
  induction h with
  | none => cases mem
  | @more past act q q' earlier step ih =>
    have now := step.counted_eq name
    show counted (q'.get? name) < act.starts name + starts name past
    rcases List.mem_cons.1 mem with rfl | mem
    -- The count starts anew, and at least the launch by which the entry came to its end is lost.
    · obtain ⟨e, tracked, useless⟩ := step.useless evicts
      have launched := earlier.begun.counted_pos tracked useless
      have bounded := starts_since_le name past
      rw [← earlier.counted_eq] at bounded
      rw [if_pos evicts] at now
      omega
    · have short := ih mem
      split at now <;> omega

/-- Only commands that run each time they are asked for are evicted. -/
theorem Steps.kept (h : Steps m (restored m first) acts q)
    (lasting : ∀ command, m.get? name = some command → command.policy ≠ .always) :
    ∀ act ∈ acts, act.evicts name = false := by
  induction h with
  | none => exact fun _ mem => absurd mem List.not_mem_nil
  | @more past act q q' earlier step ih =>
    refine List.forall_mem_cons.2 ⟨Bool.eq_false_iff.2 fun gone => ?_, ih⟩
    obtain ⟨e, tracked, useless⟩ := step.useless gone
    have known := (earlier.sound (sound_restored m first) name e tracked).known
    exact lasting _ known (isEvictable_iff.1 useless).2.1

/-- **A launch count covers the time since the last eviction.** After any history that began with a
record, the count of a command is the number of its launches since its entry was last evicted. It is the
number of all its launches just when the entry never was evicted, as it never is where the command runs
once or starts again by itself. -/
theorem launches_since_evicted (h : Steps m (restored m first) acts q) (name : String) :
    q.launchCount name = starts name (sinceEvicted name acts) ∧
      (q.launchCount name = starts name acts ↔ ∀ act ∈ acts, act.evicts name = false) ∧
      ((∀ command, m.get? name = some command → command.policy ≠ .always) →
        q.launchCount name = starts name acts) := by
  have since : q.launchCount name = starts name (sinceEvicted name acts) := h.counted_eq name
  have complete : (∀ act ∈ acts, act.evicts name = false) → q.launchCount name = starts name acts := by
    intro kept
    have all : sinceEvicted name acts = acts :=
      List.takeWhile_eq_self_iff.2 fun act mem => congrArg not (kept act mem)
    rw [since, all]
  refine ⟨since, ⟨fun same act mem => Bool.eq_false_iff.2 fun gone => ?_, complete⟩, fun lasting => ?_⟩
  · have short : q.launchCount name < starts name acts := h.counted_lt mem gone
    exact Nat.ne_of_lt short same
  · exact complete (h.kept lasting)

/-- A screen that is shown all the time, and a ticket that is printed when asked for. -/
def kiosk : Manifest :=
  ⟨"m", none, none,
    .ofList [("screen", ⟨"screen", .restart, [], []⟩), ("ticket", ⟨"ticket", .always, [], []⟩)]⟩

/-- Two tickets are printed, and the entry of the first is evicted before the second is asked for, while
the screen comes and goes. -/
theorem launches_since_evicted_kiosk :
    ∃ acts q, Steps kiosk (restored kiosk {}) acts q ∧ starts "ticket" acts = 2 ∧
      starts "ticket" (sinceEvicted "ticket" acts) = 1 ∧ q.launchCount "ticket" = 1 ∧
      starts "screen" acts = 2 ∧ q.launchCount "screen" = 2 := by
  have asked : Steps kiosk (restored kiosk {}) _ _ :=
    (Steps.none.more (.accept "screen" false rfl)).more (.accept "ticket" false rfl)
  have printed := (asked.more .scan).more (.complete "ticket" .succeeded rfl)
  have gone := (printed.more (.complete "screen" .failed rfl)).more .evict
  have again := (gone.more (.accept "ticket" false rfl)).more .scan
  obtain ⟨ticket, -, -⟩ := launches_since_evicted again "ticket"
  obtain ⟨-, -, screen⟩ := launches_since_evicted again "screen"
  refine ⟨_, _, again, by decide, by decide, ticket.trans (by decide), by decide, ?_⟩
  exact (screen fun command known => by cases known; decide).trans (by decide)

/-- A ticket that has been printed twice, and runs, counts one launch. -/
theorem launches_forgotten :
    ∃ acts q, Steps kiosk (restored kiosk {}) acts q ∧ starts "ticket" acts = 2 ∧
      q.statusOf "ticket" = some .running ∧ q.launchCount "ticket" = 1 := by
  have asked : Steps kiosk (restored kiosk {}) _ _ := .more .none (.accept "ticket" false rfl)
  have printed := (asked.more .scan).more (.complete "ticket" .succeeded rfl)
  have again := ((printed.more .evict).more (.accept "ticket" false rfl)).more .scan
  exact ⟨_, _, again, by decide, rfl, rfl⟩

end Supervisor.Queue
