import Supervisor.Proofs.Process.History
import Supervisor.Workshop

/-!
# A name leads to its latest run

A name leads to the run that was entered under it last, and to none once that run has left. Runs that
have lost the name leave late and in any order, and the entry of their successor is not theirs to
touch: an entry is changed by who enters a run under the name, by who stops the name, and by the
leaving of the very run that it leads to. What is listed, told to stop and given input goes by the
entry.
-/

namespace Supervisor

namespace ProcessTable

variable {t t' : ProcessTable} {g i : Nat} {name : String} {act : Act} {acts : List Act}

/-- The run that was entered under the name last, unless it has left. -/
def current (name : String) (acts : List Act) : Option Nat :=
  (latest name acts).filter fun g => .left g ∉ acts

theorem current_eq_some : current name acts = some g ↔ latest name acts = some g ∧ .left g ∉ acts := by
  simp [current, Option.filter_eq_some_iff]

theorem mem_running : name ∈ t.running ↔ (t.leads name).isSome := by
  rw [running, NameMap.mem_keys_iff, NameMap.contains_iff, leads, Option.isSome_map,
    Option.isSome_iff_exists]

/-- A name leads only to a run that was entered under it. -/
def Housed (t : ProcessTable) : Prop := ∀ name g, t.leads name = some g → t.Entered name g

theorem Step.leads (h : Step t act t') (housed : t.Housed) (name : String) :
    t'.leads name = match act with
      | .entered g entered => if entered = name then some g else t.leads name
      | .left g => if t.leads name = some g then none else t.leads name
      | .reserved .. | .stopped .. | .ended _ => t.leads name := by
  cases h with
  | reserve | exit | heed => rfl
  | stop => exact leads_stop name
  | enter tty here => simp only [leads_enter here, eq_comm]
  | @leave g own answer here =>
    dsimp only
    rw [leads_leave here]
    by_cases same : name = own
    · simp [same]
    · have other : t.leads name ≠ some g := by
        intro there
        obtain ⟨_, stage, -⟩ := housed name g there
        rw [here] at stage
        cases stage
        exact same rfl
      rw [if_neg other, if_neg fun both => same both.1]

theorem Step.current (h : Step t act t') (log : ∀ name, t.leads name = current name acts)
    (housed : t.Housed) (earlier : Steps acts t) (name : String) :
    t'.leads name = ProcessTable.current name (act :: acts) := by
  rw [h.leads housed]
  apply Option.ext
  intro i
  rw [current_eq_some]
  have before : t.leads name = some i ↔ latest name acts = some i ∧ .left i ∉ acts := by
    rw [log, current_eq_some]
  cases act with
  | reserved | stopped | ended => simpa [latest] using before
  | entered g entered =>
    have new : .left g ∉ acts := by
      cases h with
      | enter tty here =>
        rw [earlier.left_iff, here]
        rintro ⟨_, _, ⟨⟩⟩
    by_cases same : entered = name
    · simp only [latest, if_pos same, Option.some.injEq, List.mem_cons, reduceCtorEq, false_or]
      exact ⟨fun this => ⟨this, this ▸ new⟩, And.left⟩
    · simpa [latest, same] using before
  | left g =>
    simp only [latest, List.mem_cons, Act.left.injEq, not_or]
    by_cases here : t.leads name = some g
    · have own := (current_eq_some.1 ((log name).symm.trans here)).1
      rw [if_pos here, own]
      constructor
      · intro none
        cases none
      · rintro ⟨last, other, -⟩
        exact absurd (Option.some.inj last).symm other
    · rw [if_neg here, before]
      constructor
      · rintro ⟨last, stays⟩
        exact ⟨last, fun same => here (same ▸ before.2 ⟨last, stays⟩), stays⟩
      · rintro ⟨last, -, stays⟩
        exact ⟨last, stays⟩

theorem housed_of_log (earlier : Steps acts t) (log : ∀ name, t.leads name = current name acts) :
    t.Housed := fun name _ here =>
  earlier.entered (current_eq_some.1 ((log name).symm.trans here)).1

theorem Steps.leads (h : Steps acts t) (name : String) : t.leads name = current name acts := by
  induction h generalizing name with
  | none => rfl
  | more earlier step ih => exact step.current ih (housed_of_log earlier ih) earlier name

theorem Steps.housed (h : Steps acts t) : t.Housed := housed_of_log h h.leads

/-! ## Who changes an entry -/

/-- What can become of the entry of one name in one act. -/
inductive SlotTurn (t : ProcessTable) (name : String) : Act → Option Slot → Prop
  | kept (act : Act) : SlotTurn t name act (t.slots.get? name)
  | entered (g : Nat) (tty : Bool) :
      SlotTurn t name (.entered g name) (some { generation := g, tty })
  | stopped {slot : Slot} (told : Bool) (here : t.slots.get? name = some slot) :
      SlotTurn t name (.stopped name told) (some { slot with armed := false })
  | left {g : Nat} (here : t.leads name = some g) : SlotTurn t name (.left g) none

theorem Step.slot (h : Step t act t') (name : String) :
    SlotTurn t name act (t'.slots.get? name) := by
  cases h with
  | reserve | exit | heed => exact .kept _
  | @enter g own tty here =>
    rw [slot_enter here]
    by_cases same : name = own
    · rw [if_pos same, same]
      exact .entered g tty
    · rw [if_neg same]
      exact .kept _
  | stop own =>
    rw [slot_stop]
    by_cases same : name = own
    · rw [if_pos same, same]
      cases here : t.slots.get? own with
      | none =>
        rw [Option.map_none, ← here]
        exact .kept _
      | some slot => exact .stopped _ here
    · rw [if_neg same]
      exact .kept _
  | @leave g own answer here =>
    rw [slot_leave here]
    by_cases goes : name = own ∧ t.leads own = some g
    · rw [if_pos goes, goes.1]
      exact .left goes.2
    · rw [if_neg goes]
      exact .kept _

theorem Step.signals_le (h : Step t act t') (i : Nat) : t.signals i ≤ t'.signals i := by
  cases h with
  | reserve => exact Nat.le_of_eq signals_reserve.symm
  | enter tty => exact signals_le_enter ..
  | stop => exact signals_le_stop ..
  | exit | heed => exact Nat.le_of_eq (signals_finish _).symm
  | leave here => exact Nat.le_of_eq (signals_leave here).symm

/-! ## Whom a stop tells -/

/-- The run of a slot has been told to stop if it cannot be told through the slot any more. -/
def Told (t : ProcessTable) : Prop :=
  ∀ name slot, t.slots.get? name = some slot → slot.armed = false → 0 < t.signals slot.generation

/-- A stop of a name comes to the run that the name leads to, and to no other. -/
structure Stops (t : ProcessTable) (name : String) (current : Option Nat) : Prop where
  own : ∀ g, current = some g → 0 < (t.stop name).1.signals g
  others : ∀ i, current ≠ some i → (t.stop name).1.signals i = t.signals i

theorem stop_told (told : t.Told) (housed : t.Housed) {slot : Slot}
    (here : t.slots.get? name = some slot) : 0 < (t.stop name).1.signals slot.generation := by
  cases armed : slot.armed with
  | false => exact Nat.lt_of_lt_of_le (told name slot here armed) (signals_le_stop ..)
  | true =>
    have leads : t.leads name = some slot.generation := by
      rw [ProcessTable.leads, here, Option.map_some]
    obtain ⟨_, stage, -⟩ := housed name _ leads
    rw [signals_stop_self here armed (lt_of_stage? stage)]
    exact Nat.succ_pos _

theorem Step.told (h : Step t act t') (housed : t.Housed) (told : t.Told) : t'.Told := by
  intro name slot here unarmed
  have turn := h.slot name
  generalize there : t'.slots.get? name = after at turn here
  cases turn with
  | kept => exact Nat.lt_of_lt_of_le (told name slot here unarmed) (h.signals_le _)
  | entered =>
    cases here
    cases unarmed
  | stopped _ old =>
    cases here
    cases h with
    | stop =>
      have now := stop_told told housed old
      exact now
  | left => cases here

theorem Steps.told (h : Steps acts t) : t.Told := by
  induction h with
  | none =>
    intro _ _ here
    cases here
  | more earlier step ih => exact step.told earlier.housed ih

theorem Steps.stops (h : Steps acts t) (name : String) : t.Stops name (t.leads name) := by
  refine ⟨fun g here => ?_, fun i other => signals_stop other⟩
  obtain ⟨slot, there, rfl⟩ := Option.map_eq_some_iff.1 here
  exact stop_told h.told h.housed there

end ProcessTable

/-! ## Whom input reaches -/

namespace Workshop

variable {w w' : Workshop} {name text : String}

/-- Input for a name comes to the program of the run that the name leads to, and to no other. -/
structure Delivers (w : Workshop) (name text : String) (current : Option Nat) : Prop where
  lost : (w.write name text).2 = .error (.processNotFound name) ↔ current = none
  own : ∀ g machine, current = some g → w.machines[g]? = some machine → machine.isOver = false →
    ∃ ending, (w.write name text).1.machines[g]? =
      some { machine with given := machine.given ++ (text.toList ++ ending) }
  others : ∀ i, current ≠ some i → (w.write name text).1.machines[i]? = w.machines[i]?

theorem write_lost (here : w.table.slots.get? name = none) :
    w.write name text = (w, .error (.processNotFound name)) := by
  simp only [write, here]

theorem write_broken {slot : Slot} (here : w.table.slots.get? name = some slot)
    (ended : (w.machines[slot.generation]?).any (·.isOver) = true) :
    w.write name text = (w, .error (.disk .brokenPipe)) := by
  simp only [write, here, ended, if_true]

theorem write_taken {slot : Slot} (here : w.table.slots.get? name = some slot)
    (alive : (w.machines[slot.generation]?).any (·.isOver) = false) :
    ∃ ending, w.write name text =
      ({ w with
          machines := w.machines.modify slot.generation fun m =>
            { m with given := m.given ++ (text.toList ++ ending) } }, .ok ()) := by
  simp only [write, here, alive, Bool.false_eq_true, if_false]
  exact ⟨_, rfl⟩

theorem delivers (w : Workshop) (name text : String) : w.Delivers name text (w.table.leads name) := by
  rw [ProcessTable.leads]
  cases here : w.table.slots.get? name with
  | none =>
    constructor
    · rw [write_lost here]
      exact iff_of_true rfl rfl
    · intro g machine lost
      cases lost
    · intro i _
      rw [write_lost here]
  | some slot =>
    cases ended : (w.machines[slot.generation]?).any (·.isOver) with
    | true =>
      constructor
      · rw [write_broken here ended]
        exact iff_of_false (fun h => by cases h) (fun h => by cases h)
      · rintro g machine ⟨⟩ there alive
        rw [there, Option.any_some, alive] at ended
        cases ended
      · intro i _
        rw [write_broken here ended]
    | false =>
      obtain ⟨ending, taken⟩ := @write_taken w name text slot here ended
      constructor
      · rw [taken]
        exact iff_of_false (fun h => by cases h) (fun h => by cases h)
      · rintro g machine ⟨⟩ there -
        refine ⟨ending, ?_⟩
        rw [taken, List.getElem?_modify_eq, there]
        rfl
      · intro i other
        rw [taken]
        have apart : slot.generation ≠ i := fun same => other (congrArg some same)
        exact List.getElem?_modify_ne _ _ apart

end Workshop

namespace ProcessTable

/-- **A name leads to its latest run.** After any history of a process table, a name leads to the run
that was entered under it last, and to none once that run has left; the names listed are those that
lead to a run. No other run changes the entry when it is over or leaves. Who stops the name tells that
run and no other, and input for the name comes to the program of that run and of no other. -/
theorem name_leads_to_latest {acts : List Act} {t : ProcessTable} (h : Steps acts t) (name : String) :
    t.leads name = current name acts ∧
      (name ∈ t.running ↔ (current name acts).isSome) ∧
      (∀ act t' g, Step t act t' → act = .ended g ∨ act = .left g → current name acts ≠ some g →
        t'.slots.get? name = t.slots.get? name) ∧
      t.Stops name (current name acts) ∧
      ∀ (w : Workshop) (text : String), w.table = t → w.Delivers name text (current name acts) := by
  have leads := h.leads name
  rw [mem_running, ← leads]
  refine ⟨rfl, Iff.rfl, fun act t' g step own other => ?_, h.stops name, fun w text same => ?_⟩
  · have turn := step.slot name
    generalize t'.slots.get? name = after at turn
    cases turn with
    | kept => rfl
    | entered | stopped => rcases own with own | own <;> cases own
    | left here =>
      rcases own with own | own
      · cases own
      · cases own
        exact absurd here other
  · rw [← same]
    exact w.delivers name text

/-- A run loses its name to a second one and leaves after it was entered; the name leads to the
second one until that one has left. -/
theorem name_leads_to_latest_replaced : ∃ acts t, Steps acts t ∧
    latest "web" acts = some 1 ∧ .left 0 ∈ acts ∧ t.leads "web" = some 1 ∧
      0 < (t.stop "web").1.signals 1 ∧ (t.stop "web").1.signals 0 = t.signals 0 := by
  have first := (Steps.none.more (.reserve "web")).more (@Step.enter _ 0 "web" false rfl)
  have second := (first.more (.reserve "web")).more (@Step.enter _ 1 "web" true rfl)
  have ended := second.more (@Step.heed _ 0 "web" rfl (by decide))
  have gone := ended.more (@Step.leave _ 0 "web" _ rfl)
  obtain ⟨leads, -, -, stops, -⟩ := name_leads_to_latest gone "web"
  exact ⟨_, _, gone, rfl, by decide, leads, stops.own 1 rfl, stops.others 0 (by decide)⟩

end ProcessTable

/-! ## Workshops -/

/-- Whatever a workshop does to its table keeps the property. -/
structure ProcessTable.Lasting (p : ProcessTable → Prop) : Prop where
  start : ∀ {t : ProcessTable} (name : String) (tty : Bool), p t →
    p ((t.reserve name).1.enter t.runs.length tty)
  stop : ∀ {t : ProcessTable} (name : String), p t → p (t.stop name).1
  heed : ∀ {t : ProcessTable} {g : Nat} {name : String}, t.stage? g = some (name, .inFlight) →
    0 < t.signals g → p t → p ((t.heed g).leave g)
  exit : ∀ {t : ProcessTable} {g : Nat} {name : String} (code : Int),
    t.stage? g = some (name, .inFlight) → p t → p ((t.exit g code).leave g)

/-- The table of a workshop is one that some history leads to. -/
theorem ProcessTable.lasting_steps : Lasting fun t => ∃ acts, Steps acts t where
  start := by
    rintro t name tty ⟨acts, steps⟩
    have here : (t.reserve name).1.stage? t.runs.length = some (name, .reserved) := by
      rw [stage?_reserve, if_pos rfl]
    exact ⟨_, (steps.more (.reserve name)).more (.enter tty here)⟩
  stop := fun name ⟨_, steps⟩ => ⟨_, steps.more (.stop name)⟩
  heed := by
    rintro t g name here told ⟨acts, steps⟩
    have gone := stage?_heed (i := g) here told
    rw [if_pos rfl] at gone
    exact ⟨_, (steps.more (.heed here told)).more (.leave gone)⟩
  exit := by
    rintro t g name code here ⟨acts, steps⟩
    have gone := stage?_exit (i := g) here (.ok code)
    rw [if_pos rfl] at gone
    exact ⟨_, (steps.more (.exit (.ok code) here)).more (.leave gone)⟩

namespace Workshop

variable {w w' : Workshop} {p : ProcessTable → Prop}

/-- What happens to a workshop. -/
inductive Turn (w : Workshop) : Workshop → Prop
  | start (request : ProcessRequest) : Turn w (w.start request).1
  | write (name text : String) : Turn w (w.write name text).1
  | stop (name : String) : Turn w (w.stop name).1
  | elapse (now : Nat) : Turn w (w.elapse now)

/-- The table of a workshop has the property, and every run has its program. -/
def Kept (p : ProcessTable → Prop) (w : Workshop) : Prop :=
  p w.table ∧ w.machines.length = w.table.runs.length

theorem Kept.start (lasting : ProcessTable.Lasting p) (kept : w.Kept p) (request : ProcessRequest) :
    (w.start request).1.Kept p := by
  obtain ⟨table, length⟩ := kept
  unfold Workshop.start
  split
  · exact ⟨table, length⟩
  · split
    · exact ⟨table, length⟩
    · refine ⟨lasting.start request.name request.tty table, ?_⟩
      show _ = ((w.table.reserve request.name).1.enter w.table.runs.length request.tty).runs.length
      rw [ProcessTable.length_enter, ProcessTable.reserve, List.length_append, length,
        List.length_append]
      rfl

theorem Kept.write (kept : w.Kept p) (name text : String) : (w.write name text).1.Kept p := by
  unfold Workshop.write
  split
  · exact kept
  · dsimp only
    split
    · exact kept
    · exact ⟨kept.1, (List.length_modify ..).trans kept.2⟩

theorem Kept.stop (lasting : ProcessTable.Lasting p) (kept : w.Kept p) (name : String) :
    (w.stop name).1.Kept p :=
  ⟨lasting.stop name kept.1, kept.2.trans (ProcessTable.length_stop ..).symm⟩

theorem Kept.turn (lasting : ProcessTable.Lasting p) (kept : w.Kept p) (now g : Nat) :
    (w.turn now g).Kept p := by
  obtain ⟨table, length⟩ := kept
  unfold Workshop.turn
  split
  · rename_i r m there own
    split
    · rename_i flies
      have here : w.table.stage? g = some (r.name, .inFlight) :=
        ProcessTable.stage?_eq_some.2 ⟨r, there, rfl, flies⟩
      split
      · rename_i signals
        have told : 0 < w.table.signals g := by
          rw [ProcessTable.signals_eq there]
          exact Nat.pos_of_ne_zero signals
        refine ⟨lasting.heed here told table, length.trans ?_⟩
        exact (ProcessTable.length_finish ..).symm.trans (ProcessTable.length_leave ..).symm
      · dsimp only
        have goesOn : Kept p { w with
            disk := (m.run turnLength now w.disk).2
            machines := w.machines.set g (m.run turnLength now w.disk).1 } :=
          ⟨table, List.length_set.trans length⟩
        split
        · refine ⟨lasting.exit _ here table, goesOn.2.trans ?_⟩
          exact (ProcessTable.length_finish ..).symm.trans (ProcessTable.length_leave ..).symm
        · exact goesOn
    · exact ⟨table, length⟩
  · exact ⟨table, length⟩

theorem Kept.elapse (lasting : ProcessTable.Lasting p) (kept : w.Kept p) (now : Nat) :
    (w.elapse now).Kept p := by
  unfold Workshop.elapse
  generalize List.range w.machines.length = numbers
  induction numbers generalizing w with
  | nil => exact kept
  | cons g numbers ih => exact ih (kept.turn lasting now g)

/-- Whatever happens to a workshop, what its operations keep is true of its table. -/
theorem Turn.kept (lasting : ProcessTable.Lasting p) (turn : w.Turn w') (kept : w.Kept p) :
    w'.Kept p := by
  cases turn with
  | start request => exact kept.start lasting request
  | write name text => exact kept.write name text
  | stop name => exact kept.stop lasting name
  | elapse now => exact kept.elapse lasting now

/-- Stopping every process is stopping one after the other. -/
theorem Kept.stopAll (lasting : ProcessTable.Lasting p) (kept : w.Kept p) (now : Nat) :
    (Host.stopAll w now).1.Kept p := by
  have each : ∀ (names : List String) (at_ : Workshop × Nat), at_.1.Kept p →
      (names.foldl (fun (w, n) name =>
        let (w, stopped) := Host.stop w now name
        (w, if stopped then n + 1 else n)) at_).1.Kept p := by
    intro names
    induction names with
    | nil => exact fun _ kept => kept
    | cons name names ih => exact fun at_ kept => ih _ (kept.stop lasting name)
  exact each _ (w, 0) kept

end Workshop

end Supervisor
