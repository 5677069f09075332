import Supervisor.Proofs.Queue.Balance
import Supervisor.Proofs.Queue.Recovery

/-!
# Launches and what they answer

A command is taken up when a request for it is granted, when a scan discovers it, and when the record
brings it back as waiting. What has been taken up has been launched or still waits: each act keeps
that sum too. A `restart` command is the exception, since it waits again by its own success and a
failure does not keep it from being launched.
-/

namespace Supervisor.Queue

variable {m : Manifest} {q q' : Queue} {name : String} {act : Act} {acts : List Act} {first : Record}

/-- How often the act takes up the command. -/
def Act.takes (name : String) : Act → Nat
  | accepted asked _ => if asked = name then 1 else 0
  | scanned pass => pass.discovered.count name
  | refused .. | ended .. | evicted _ => 0

/-- How often the command has been taken up since the record was brought back. -/
def acceptances (m : Manifest) (first : Record) (name : String) : List Act → Nat
  | [] => if name ∈ (restore .empty m first).2 then 1 else 0
  | act :: acts => act.takes name + acceptances m first name acts

/-- How often an entry's command waits. -/
def waitCount : Option Entry → Nat
  | some e => if e.status = .waiting then 1 else 0
  | none => 0

theorem waitCount_eq_one {e : Entry} (h : e.status = .waiting) : waitCount (some e) = 1 := if_pos h

theorem waitCount_eq_zero {e : Entry} (h : e.status ≠ .waiting) : waitCount (some e) = 0 := if_neg h

theorem waitCount_get? (q : Queue) (name : String) :
    waitCount (q.get? name) = if q.statusOf name = some .waiting then 1 else 0 := by
  cases he : q.get? name with
  | none => simp [waitCount, statusOf, he]
  | some e => simp [waitCount, statusOf, he]

theorem waitCount_terminal {e : Entry} (ended : e.status.isTerminal = true) :
    waitCount (some e) = 0 := by
  apply waitCount_eq_zero
  intro waits
  rw [waits] at ended
  cases ended

theorem Granted.waitCount {command : Command} (granted : Granted m q name command) :
    waitCount (q.get? name) = 0 := by
  cases he : q.get? name with
  | none => rfl
  | some e => exact waitCount_terminal (granted.ended e he)

theorem Act.takes_untouched (h : name ∉ act.touched) : act.takes name = 0 := by
  cases act with
  | accepted asked =>
    have other : asked ≠ name := fun same => h (by simp [Act.touched, same])
    exact if_neg other
  | scanned pass => exact (not_mem_touched_scanned.1 h).1
  | refused | ended | evicted => rfl

/-- The command starts again only when somebody asks for it. -/
def Rests (m : Manifest) (name : String) : Prop :=
  ∀ command, m.get? name = some command → command.policy ≠ .restart

theorem Turn.answered {after : Option Entry} {status : Option Status}
    (turn : Turn m q name act after status) (sound : Sound m q) (rests : Rests m name) :
    waitCount after + act.starts name = waitCount (q.get? name) + act.takes name := by
  cases turn with
  | untouched new =>
    have starts := (Act.still_of_untouched new).1
    have takes := Act.takes_untouched new
    rw [starts, takes]
  | @accepted command persist write granted =>
    have takes : (Act.accepted name write).takes name = 1 := if_pos rfl
    rw [granted.waitCount, takes, waitCount_eq_one (askedEntry_status ..)]
    rfl
  | @discovered command pass persist known missing once still =>
    have takes : (Act.scanned pass).takes name = 1 := once
    rw [missing, Act.starts_scanned_eq_zero still, takes, waitCount_eq_one rfl]
    rfl
  | @launched e pass tracked active ready old once =>
    have takes : (Act.scanned pass).takes name = 0 := List.count_eq_zero.2 old
    -- Only a restart command is launched again after a failure.
    have waits : e.status = .waiting := by
      rcases (sound.active_iff tracked).1 active with waits | ⟨-, restart⟩
      · exact waits
      · exact absurd restart (rests _ (sound name e tracked).known)
    rw [tracked, Act.starts_scanned_eq_one once, takes, waitCount_eq_one waits]
    rfl
  | @ended e outcome write tracked running =>
    have before : e.status ≠ .waiting := by
      rw [running]
      decide
    have after : endedStatus e.command outcome ≠ .waiting := by
      have often := rests _ (sound name e tracked).known
      cases outcome with
      | failed =>
        rw [endedStatus]
        decide
      | succeeded =>
        rw [endedStatus, if_neg often]
        decide
    rw [tracked, waitCount_eq_zero before, waitCount_eq_zero after]
    rfl
  | evicted names tracked useless =>
    rw [tracked, waitCount_terminal (isEvictable_iff.1 useless).1]
    rfl

theorem Step.answered (h : Step m q act q') (sound : Sound m q) (rests : Rests m name) :
    waitCount (q'.get? name) + act.starts name = waitCount (q.get? name) + act.takes name := by
  obtain ⟨status, turn, -⟩ := h.turn name
  exact turn.answered sound rests

/-- A record brings back as waiting exactly the commands that it resumes. -/
theorem waitCount_restored (m : Manifest) (first : Record) (name : String) :
    waitCount ((restored m first).get? name) = acceptances m first name [] := by
  rw [waitCount_get?, acceptances]
  cases known : m.get? name with
  | none =>
    have unknown : name ∉ (restore .empty m first).2 := by
      intro resumed
      obtain ⟨_, -, -, found⟩ := mem_resumed.1 resumed
      rw [known] at found
      cases found
    have absent : (restored m first).statusOf name ≠ some .waiting := by
      intro waits
      obtain ⟨e, he, -⟩ := statusOf_eq_some.1 waits
      have found := (sound_restored m first name e he).known
      rw [known] at found
      cases found
    rw [if_neg absent, if_neg unknown]
  | some command => simp only [mem_resumed_iff known]

theorem Steps.answered (h : Steps m (restored m first) acts q) (rests : Rests m name) :
    acceptances m first name acts = starts name acts + waitCount (q.get? name) := by
  induction h with
  | none => rw [waitCount_restored, starts, Nat.zero_add]
  | @more past act q q' earlier step ih =>
    have now := step.answered (earlier.sound (sound_restored m first)) rests
    show act.takes name + acceptances m first name past =
      act.starts name + starts name past + waitCount (q'.get? name)
    omega

/-- **Every acceptance is answered by one launch, and every launch ends at most once.** After any
history that began with a record, a command that does not start again by itself has been launched as
often as it was taken up, by a request, a discovery or the record, unless it still waits for its next
launch. Every command, of whatever policy, has ended as often as it was launched, unless it still
runs. -/
theorem one_launch_each (h : Steps m (restored m first) acts q) :
    (∀ name, Rests m name → acceptances m first name acts =
        starts name acts + if q.statusOf name = some .waiting then 1 else 0) ∧
      ∀ name, starts name acts =
        ends name acts + if q.statusOf name = some .running then 1 else 0 := by
  refine ⟨fun name rests => ?_, fun name => ?_⟩
  · rw [← waitCount_get?]
    exact h.answered rests
  · have balance := h.balance name
    rw [runCount_restored, Nat.zero_add] at balance
    rw [← runCount_get?, Nat.add_comm]
    exact balance.symm

/-- A page that is built when asked for and needs a font, which is fetched when asked for. -/
def page : Manifest :=
  ⟨"m", none, none,
    .ofList [("font", ⟨"font", .always, [], []⟩), ("page", ⟨"page", .always, ["font"], []⟩)]⟩

/-- A record of the page's having been under way. -/
def page.begun : Record := { statuses := .ofList [("page", .running)] }

/-- The page is brought back from the record and its font is discovered; the page fails, is asked for
again, succeeds, and is evicted and then created once more. That makes three acceptances, two launches
and two ends, and a page that waits. -/
theorem one_launch_each_page :
    ∃ acts q, Steps page (restored page page.begun) acts q ∧
      acceptances page page.begun "page" acts = 3 ∧
      starts "page" acts = 2 ∧ ends "page" acts = 2 ∧ q.statusOf "page" = some .waiting ∧
      acceptances page page.begun "font" acts =
        starts "font" acts + if q.statusOf "font" = some .waiting then 1 else 0 := by
  have found : Steps page (restored page page.begun) _ _ :=
    .more .none .scan
  have fetched := (found.more .scan).more (.complete "font" .succeeded rfl)
  have failed := (fetched.more .scan).more (.complete "page" .failed rfl)
  have again := failed.more (.accept "page" true rfl)
  have built := (again.more .scan).more (.complete "page" .succeeded rfl)
  have anew := (built.more .evict).more (.accept "page" false rfl)
  have counted := (one_launch_each anew).1
  exact ⟨_, _, anew, by decide, by decide, by decide, by decide,
    counted "font" fun command known => by cases known; decide⟩

end Supervisor.Queue
