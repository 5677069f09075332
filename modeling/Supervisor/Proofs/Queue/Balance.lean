import Supervisor.Proofs.Queue.Soundness

/-!
# Launches and their ends

What a history has launched, less what has ended in it, is what runs. `Act.starts` and `Act.ends`
count for one command; each act keeps the balance, so a history does, and a command never runs more
than once at a time.
-/

namespace Supervisor.Queue

variable {m : Manifest} {q q' q₀ : Queue} {name : String} {act : Act} {acts : List Act}

/-- How often the act launches the command. -/
def Act.starts (name : String) (act : Act) : Nat := act.launches.countP fun l => l.name = name

/-- How often the act notes an end of the command. -/
def Act.ends (name : String) : Act → Nat
  | ended ending .. => if ending = name then 1 else 0
  | accepted .. | refused .. | scanned _ | evicted _ => 0

def starts (name : String) : List Act → Nat
  | [] => 0
  | act :: acts => act.starts name + starts name acts

def ends (name : String) : List Act → Nat
  | [] => 0
  | act :: acts => act.ends name + ends name acts

theorem starts_append (name : String) (acts past : List Act) :
    starts name (acts ++ past) = starts name acts + starts name past := by
  induction acts with
  | nil => rw [List.nil_append, starts, Nat.zero_add]
  | cons act acts ih => rw [List.cons_append, starts, starts, ih, Nat.add_assoc]

theorem ends_append (name : String) (acts past : List Act) :
    ends name (acts ++ past) = ends name acts + ends name past := by
  induction acts with
  | nil => rw [List.nil_append, ends, Nat.zero_add]
  | cons act acts ih => rw [List.cons_append, ends, ends, ih, Nat.add_assoc]

theorem Act.starts_scanned_eq_zero {pass : Pass} (still : name ∉ pass.launches.map Launch.name) :
    (Act.scanned pass).starts name = 0 := by
  rw [Act.starts, List.countP_eq_length_filter]
  exact congrArg List.length (launchesOf_eq_nil.2 still)

theorem Act.starts_scanned_eq_one {pass : Pass} {l : Launch}
    (once : (pass.launches.filter fun l => l.name = name) = [l]) :
    (Act.scanned pass).starts name = 1 := by
  rw [Act.starts, List.countP_eq_length_filter]
  exact congrArg List.length once

/-- How often an entry's command runs. -/
def runCount : Option Entry → Nat
  | some e => if e.status = .running then 1 else 0
  | none => 0

theorem runCount_get? (q : Queue) (name : String) :
    runCount (q.get? name) = if q.statusOf name = some .running then 1 else 0 := by
  cases he : q.get? name with
  | none => simp [runCount, statusOf, he]
  | some e => simp [runCount, statusOf, he]

theorem runCount_eq_zero {e : Entry} (h : e.status ≠ .running) : runCount (some e) = 0 := if_neg h

theorem runCount_terminal {e : Entry} (ended : e.status.isTerminal = true) :
    runCount (some e) = 0 := by
  refine runCount_eq_zero fun running => ?_
  rw [running] at ended
  cases ended

theorem Act.still_of_untouched (h : name ∉ act.touched) :
    act.starts name = 0 ∧ act.ends name = 0 := by
  cases act with
  | accepted | refused | evicted => exact ⟨rfl, rfl⟩
  | scanned pass =>
    have none := (not_mem_touched_scanned.1 h).2
    exact ⟨Act.starts_scanned_eq_zero (launchesOf_eq_nil.1 none), rfl⟩
  | ended ending =>
    have other : ending ≠ name := fun same => h (by simp [Act.touched, same])
    exact ⟨rfl, if_neg other⟩

theorem Turn.balance {after : Option Entry} {status : Option Status}
    (turn : Turn m q name act after status) :
    runCount after + act.ends name = runCount (q.get? name) + act.starts name := by
  cases turn with
  | untouched new =>
    obtain ⟨starts, ends⟩ := Act.still_of_untouched new
    rw [starts, ends]
  | accepted persist write granted =>
    have before : runCount (q.get? name) = 0 := by
      cases he : q.get? name with
      | none => rfl
      | some e => exact runCount_terminal (granted.ended e he)
    rw [before, runCount_eq_zero (by rw [askedEntry_status]; decide)]
    rfl
  | discovered persist known missing once still =>
    rw [missing, Act.starts_scanned_eq_zero still]
    rfl
  | @launched e pass tracked active ready old once =>
    have before : e.status ≠ .running := fun running => by simp [Entry.isActive, running] at active
    rw [tracked, Act.starts_scanned_eq_one once, runCount_eq_zero before]
    rfl
  | @ended e outcome write tracked running =>
    have after : endedStatus e.command outcome ≠ .running := by
      cases outcome with
      | failed => simp [endedStatus]
      | succeeded => by_cases restart : e.command.policy = .restart <;> simp [endedStatus, restart]
    have ends : (Act.ended name outcome write).ends name = 1 := if_pos rfl
    rw [tracked, ends, runCount_eq_zero after, runCount, if_pos running]
    rfl
  | evicted names tracked useless =>
    rw [tracked, runCount_terminal (isEvictable_iff.1 useless).1]
    rfl

theorem Step.balance (h : Step m q act q') (name : String) :
    runCount (q'.get? name) + act.ends name = runCount (q.get? name) + act.starts name := by
  obtain ⟨status, turn, -⟩ := h.turn name
  exact turn.balance

theorem Steps.balance (h : Steps m q₀ acts q) (name : String) :
    runCount (q.get? name) + ends name acts = runCount (q₀.get? name) + starts name acts := by
  induction h with
  | none => rfl
  | @more past act q q' earlier step ih =>
    have now := step.balance name
    rw [starts, ends]
    omega

/-- Nothing runs in a queue that has been brought back from a record. -/
theorem runCount_restored (m : Manifest) (record : Record) (name : String) :
    runCount ((restored m record).get? name) = 0 := by
  cases he : (restored m record).get? name with
  | none => rfl
  | some e =>
    obtain ⟨recorded, command, status, -, -, restored, rfl⟩ := get?_restored_eq_some.1 he
    refine runCount_eq_zero fun running => ?_
    obtain rfl : status = .running := running
    cases recorded with
    | waiting | running | error => cases restored
    | done => simp [restoredStatus] at restored

theorem Steps.append {past acts : List Act} (h₁ : Steps m q₀ past q) (h₂ : Steps m q acts q') :
    Steps m q₀ (acts ++ past) q' := by
  induction h₂ with
  | none => exact h₁
  | more _ step ih => exact .more ih step

end Supervisor.Queue
