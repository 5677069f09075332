import Mathlib.Logic.Relation
import Supervisor.Proofs.Manifest.Validated
import Supervisor.Proofs.Queue.Soundness

/-!
# Nothing runs before what it needs

A command that runs has been launched in its history, and one that is done has been launched and has
succeeded there, unless the record brought it in as done. So each launch stands on earlier successes,
and following needs leads backwards in the history. This holds for every manifest, also one whose
needs have cycles or name unknown commands: what leads to a cycle, to an unknown name or to a
`restart` command is never launched.
-/

namespace Supervisor.Queue

open Relation (TransGen)

variable {m : Manifest} {q q' : Queue} {name need : String} {act : Act} {acts : List Act}
  {first : Record}

def LaunchedIn (acts : List Act) (name : String) : Prop :=
  ∃ act ∈ acts, ∃ l ∈ act.launches, l.name = name

/-- The command has been launched in the history and has succeeded after that. -/
def SucceededIn (acts : List Act) (name : String) : Prop :=
  ∃ later write earlier, acts = later ++ .ended name .succeeded write :: earlier ∧
    LaunchedIn earlier name

/-- The record brings the command back as done. -/
def RestoredDone (m : Manifest) (first : Record) (name : String) : Prop :=
  ∃ command, m.get? name = some command ∧ command.policy = .once ∧
    first.statusOf name = some .done

/-- A launch of the one command has to wait for a launch of the other. -/
def Relies (m : Manifest) (first : Record) (name need : String) : Prop :=
  m.Requires name need ∧ ¬ RestoredDone m first need

/-- Needs lead from the command to a `restart` command, an unknown name or a cycle. -/
def Hopeless (m : Manifest) (first : Record) (name : String) : Prop :=
  ∃ need, TransGen (Relies m first) name need ∧
    (m.get? need = none ∨ (∃ command, m.get? need = some command ∧ command.policy = .restart) ∨
      TransGen (Relies m first) need need)

/-! ## What the statuses say about the past -/

theorem LaunchedIn.more (h : LaunchedIn acts name) (act : Act) : LaunchedIn (act :: acts) name := by
  obtain ⟨act', mem, launched⟩ := h
  exact ⟨act', List.mem_cons_of_mem _ mem, launched⟩

theorem SucceededIn.more (h : SucceededIn acts name) (act : Act) : SucceededIn (act :: acts) name := by
  obtain ⟨later, write, earlier, rfl, launched⟩ := h
  exact ⟨act :: later, write, earlier, rfl, launched⟩

theorem SucceededIn.launched (h : SucceededIn acts name) :
    ∃ earlier, earlier.length < acts.length ∧ earlier <:+ acts ∧ LaunchedIn earlier name := by
  obtain ⟨later, write, earlier, rfl, launched⟩ := h
  refine ⟨earlier, ?_, ?_, launched⟩
  · rw [List.length_append, List.length_cons]
    omega
  · exact (List.suffix_cons _ _).trans (List.suffix_append _ _)

/-- What the history holds of an entry with such a status. -/
structure Entry.Backed (m : Manifest) (first : Record) (acts : List Act) (name : String) (e : Entry) :
    Prop where
  running : e.status = .running → LaunchedIn acts name
  done : e.status = .done → SucceededIn acts name ∨ RestoredDone m first name

theorem Entry.backed_waiting {e : Entry} (h : e.status = .waiting) : e.Backed m first acts name := by
  refine ⟨fun running => ?_, fun done => ?_⟩
  · rw [h] at running
    cases running
  · rw [h] at done
    cases done

def Backed (m : Manifest) (first : Record) (acts : List Act) (q : Queue) : Prop :=
  ∀ name e, q.get? name = some e → e.Backed m first acts name

theorem backed_restored (m : Manifest) (first : Record) : Backed m first [] (restored m first) := by
  intro name e he
  obtain ⟨recorded, command, status, held, known, restored, rfl⟩ := get?_restored_eq_some.1 he
  cases recorded with
  | waiting | running =>
    cases restored
    exact Entry.backed_waiting rfl
  | error => cases restored
  | done =>
    have once : command.policy = .once ∧ Status.done = status := by
      simpa [restoredStatus] using restored
    obtain ⟨once, rfl⟩ := once
    refine ⟨fun h => ?_, fun _ => .inr ⟨command, known, once, held⟩⟩
    cases h

theorem Backed.turn (backed : Backed m first acts q) {after : Option Entry} {status : Option Status}
    (turn : Turn m q name act after status) {e : Entry} (he : after = some e) :
    e.Backed m first (act :: acts) name := by
  cases turn with
  | untouched =>
    have old := backed name e he
    exact ⟨fun h => (old.running h).more act, fun h => (old.done h).imp_left (·.more act)⟩
  | accepted =>
    cases he
    exact Entry.backed_waiting (askedEntry_status ..)
  | discovered =>
    cases he
    exact Entry.backed_waiting rfl
  | @launched e pass tracked active ready old once =>
    cases he
    have mem : (⟨name, e.command⟩ : Launch) ∈ pass.launches.filter fun l => l.name = name := by
      rw [once]
      exact List.mem_cons_self
    refine ⟨fun _ => ?_, fun h => ?_⟩
    · exact ⟨_, List.mem_cons_self, _, (List.mem_filter.1 mem).1, rfl⟩
    · cases h
  | @ended e outcome write tracked running =>
    cases he
    have launched := (backed name e tracked).running running
    cases outcome with
    | failed => exact ⟨fun h => (by cases h), fun h => (by cases h)⟩
    | succeeded =>
      by_cases restart : e.command.policy = .restart
      · exact Entry.backed_waiting (if_pos restart)
      · refine ⟨fun h => ?_, fun _ => .inl ⟨[], write, acts, rfl, launched⟩⟩
        rw [endedStatus, if_neg restart] at h
        cases h
  | evicted => cases he

theorem Steps.backed (h : Steps m (restored m first) acts q) : Backed m first acts q := by
  induction h with
  | none => exact backed_restored m first
  | more earlier step ih =>
    intro name e he
    obtain ⟨status, turn, -⟩ := step.turn name
    exact ih.turn turn he

/-! ## Launches and the launches before them -/

/-- A command that is done is known and is no `restart` command. -/
theorem Sound.done_known (sound : Sound m q) (done : q.statusOf name = some .done) :
    ∃ command, m.get? name = some command ∧ command.policy ≠ .restart := by
  obtain ⟨e, he, hd⟩ := statusOf_eq_some.1 done
  have own := sound name e he
  exact ⟨e.command, own.known, fun restart => own.endless restart hd⟩

/-- A launch in a history was a scan's, of a queue that the history had come to before. -/
theorem LaunchedIn.scan {q₀ : Queue} (h : Steps m q₀ acts q) (launched : LaunchedIn acts name) :
    ∃ earlier q', earlier.length < acts.length ∧ Steps m q₀ earlier q' ∧
      ∃ l ∈ (q'.scan m).2.launches, l.name = name := by
  induction h with
  | none =>
    obtain ⟨act, mem, -⟩ := launched
    cases mem
  | @more past act q q' earlier step ih =>
    obtain ⟨act', mem, l, hl, named⟩ := launched
    rcases List.mem_cons.1 mem with rfl | mem
    · cases step with
      | scan => exact ⟨past, q, Nat.lt_succ_self _, earlier, l, hl, named⟩
      | accept | refuse | complete | evict => cases hl
    · obtain ⟨earlier, q', shorter, steps, found⟩ := ih ⟨act', mem, l, hl, named⟩
      exact ⟨earlier, q', Nat.lt_succ_of_lt shorter, steps, found⟩

/-- What a launch needs is done when it is launched, and is so for a reason. -/
theorem Steps.launch_needs (h : Steps m (restored m first) acts q) {l : Launch}
    (launched : l ∈ (q.scan m).2.launches) :
    m.get? l.name = some l.command ∧ ∀ need ∈ l.command.needs, q.statusOf need = some .done ∧
      (SucceededIn acts need ∨ RestoredDone m first need) := by
  obtain ⟨e, he, -, ready, same, -⟩ := mem_launches launched
  have sound := h.sound (sound_restored m first)
  refine ⟨same ▸ (sound _ e he).known, fun need mem => ?_⟩
  have done := isReady_iff.1 ready need (same ▸ mem)
  obtain ⟨d, hd, status⟩ := statusOf_eq_some.1 done
  exact ⟨done, (h.backed need d hd).done status⟩

/-- Following a need leads from a launch to one in a shorter history. -/
theorem LaunchedIn.relies (h : Steps m (restored m first) acts q) (launched : LaunchedIn acts name)
    (relies : Relies m first name need) :
    (∃ command, m.get? need = some command ∧ command.policy ≠ .restart) ∧
      ∃ earlier q', earlier.length < acts.length ∧ Steps m (restored m first) earlier q' ∧
        LaunchedIn earlier need := by
  obtain ⟨before, s, shorter, steps, l, hl, rfl⟩ := launched.scan h
  obtain ⟨⟨command, known, mem⟩, unrestored⟩ := relies
  obtain ⟨known', needs⟩ := steps.launch_needs hl
  obtain rfl := Option.some.inj (known.symm.trans known')
  obtain ⟨done, reason⟩ := needs need mem
  refine ⟨(steps.sound (sound_restored m first)).done_known done, ?_⟩
  -- The success is itself backed by a launch, which is still further back.
  obtain ⟨earlier, fewer, ⟨later, rfl⟩, launched'⟩ := (reason.resolve_right unrestored).launched
  obtain ⟨s', steps'⟩ := steps.before
  exact ⟨earlier, s', Nat.lt_trans fewer shorter, steps', launched'⟩

/-- The same for needs of needs. -/
theorem LaunchedIn.leads (h : Steps m (restored m first) acts q) (launched : LaunchedIn acts name)
    (leads : TransGen (Relies m first) name need) :
    (∃ command, m.get? need = some command ∧ command.policy ≠ .restart) ∧
      ∃ earlier q', earlier.length < acts.length ∧ Steps m (restored m first) earlier q' ∧
        LaunchedIn earlier need := by
  induction leads with
  | single relies => exact launched.relies h relies
  | tail _ relies ih =>
    obtain ⟨-, before, s, shorter, steps, launched'⟩ := ih
    obtain ⟨known, earlier, s', fewer, steps', launched''⟩ := launched'.relies steps relies
    exact ⟨known, earlier, s', Nat.lt_trans fewer shorter, steps', launched''⟩

/-- A launch on a cycle would have one in a shorter history before it, without end. -/
theorem not_launched_of_cycle {acts : List Act} {q : Queue}
    (cycle : TransGen (Relies m first) name name) (h : Steps m (restored m first) acts q) :
    ¬ LaunchedIn acts name := by
  intro launched
  obtain ⟨-, earlier, q', shorter, steps, launched'⟩ := launched.leads h cycle
  exact not_launched_of_cycle cycle steps launched'
termination_by acts.length

theorem Hopeless.not_launched (hopeless : Hopeless m first name)
    (h : Steps m (restored m first) acts q) : ¬ LaunchedIn acts name := by
  intro launched
  obtain ⟨need, leads, bad⟩ := hopeless
  obtain ⟨⟨command, known, lasting⟩, earlier, q', -, steps, launched'⟩ := launched.leads h leads
  rcases bad with unknown | ⟨command', known', restart⟩ | cycle
  · rw [unknown] at known
    cases known
  · obtain rfl := Option.some.inj (known.symm.trans known')
    exact lasting restart
  · exact not_launched_of_cycle cycle steps launched'

/-- **Dependencies come first.** In every history, whatever the manifest and the record it began with:
when a scan launches a command, each of its needs is done, is known and is no `restart` command, and
was launched and has succeeded before, unless the record brought it back as done. A `restart` command
is never done, and a command whose needs lead to one, to an unknown name or to a cycle is never
launched. -/
theorem dependencies_first (h : Steps m (restored m first) acts q) :
    (∀ l ∈ (q.scan m).2.launches, m.get? l.name = some l.command ∧
      ∀ need ∈ l.command.needs,
        q.statusOf need = some .done ∧ (q.scan m).1.statusOf need = some .done ∧
        (∃ command, m.get? need = some command ∧ command.policy ≠ .restart) ∧
        (SucceededIn acts need ∨ RestoredDone m first need)) ∧
      (∀ name command, m.get? name = some command → command.policy = .restart →
        q.statusOf name ≠ some .done) ∧
      ∀ name, Hopeless m first name → ¬ LaunchedIn acts name := by
  have sound := h.sound (sound_restored m first)
  refine ⟨fun l launched => ?_, fun name command known restart done => ?_, fun name hopeless =>
    hopeless.not_launched h⟩
  · obtain ⟨known, needs⟩ := h.launch_needs launched
    refine ⟨known, fun need mem => ?_⟩
    obtain ⟨done, reason⟩ := needs need mem
    exact ⟨done, sound.scan_done done, sound.done_known done, reason⟩
  · obtain ⟨command', known', lasting⟩ := sound.done_known done
    obtain rfl := Option.some.inj (known.symm.trans known')
    exact lasting restart

/-- A manifest with a service that needs a database, and a command that needs itself. -/
def site : Manifest :=
  ⟨"m", none, none, .ofList [("app", ⟨"app", .restart, ["db"], []⟩), ("db", ⟨"db", .always, [], []⟩),
    ("loop", ⟨"loop", .always, ["loop"], []⟩)]⟩

/-- The service is launched after the database, which the first scan discovered; the command that
needs itself never is. -/
theorem dependencies_first_site :
    ∃ acts q, Steps site (restored site {}) acts q ∧
      (q.scan site).2.launches.map Launch.name = ["app"] ∧
      q.statusOf "db" = some .done ∧ SucceededIn acts "db" ∧ ¬ LaunchedIn acts "loop" := by
  have asked : Steps site (restored site {}) _ _ := .more .none (.accept "app" true rfl)
  have looped := asked.more (.accept "loop" true rfl)
  have ended := ((looped.more .scan).more .scan).more (.complete "db" .succeeded rfl)
  obtain ⟨safe, -, never⟩ := dependencies_first ended
  obtain ⟨-, needs⟩ := safe ⟨"app", ⟨"app", .restart, ["db"], []⟩⟩ (.head _)
  obtain ⟨done, -, -, reason⟩ := needs "db" (.head _)
  have itself : Relies site {} "loop" "loop" :=
    ⟨⟨_, rfl, .head _⟩, fun ⟨_, _, _, held⟩ => by cases held⟩
  refine ⟨_, _, ended, rfl, done, reason.resolve_right ?_, ?_⟩
  · rintro ⟨_, _, _, held⟩
    cases held
  · exact never "loop" ⟨"loop", .single itself, .inr (.inr (.single itself))⟩

end Supervisor.Queue
