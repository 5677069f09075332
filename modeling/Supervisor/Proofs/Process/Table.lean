import Supervisor.ProcessTable

/-!
# What the operations of the process table do

Four things are seen of a table: how far each run has come, what a name leads to, whose token rests
under a name, and how often a run has been told to stop. Every operation comes with its effect on each
of them, so that nothing else has to look into the table. The two operations that tell a run come in
halves, since whoever has taken a token out of the table uses it only afterwards.
-/

namespace Supervisor.ProcessTable

variable {t : ProcessTable} {g i : Nat} {name : String} {phase : Phase}

/-- The name of a run, and how far it has come. -/
def stage? (t : ProcessTable) (g : Nat) : Option (String × Phase) :=
  (t.runs[g]?).map fun r => (r.name, r.phase)

/-- The run that a name leads to. -/
def leads (t : ProcessTable) (name : String) : Option Nat := (t.slots.get? name).map Slot.generation

def signals (t : ProcessTable) (g : Nat) : Nat := ((t.runs[g]?).map Run.signals).getD 0

theorem stage?_eq_some : t.stage? g = some (name, phase) ↔
    ∃ r, t.runs[g]? = some r ∧ r.name = name ∧ r.phase = phase := by
  simp [stage?]

theorem lt_of_stage? (here : t.stage? g = some (name, phase)) : g < t.runs.length := by
  obtain ⟨r, there, -⟩ := stage?_eq_some.1 here
  exact (List.getElem?_eq_some_iff.1 there).1

theorem stage?_length : t.stage? t.runs.length = none := by
  rw [stage?, List.getElem?_eq_none (Nat.le_refl _)]
  rfl

/-! ## Telling a run to stop -/

@[simp] theorem stage?_signal : (t.signal g).stage? i = t.stage? i := by
  simp only [stage?, signal, List.getElem?_modify]
  cases t.runs[i]? with
  | none => rfl
  | some r =>
    by_cases same : g = i
    · simp [same]
    · simp [same]

@[simp] theorem leads_signal : (t.signal g).leads name = t.leads name := rfl

theorem signals_signal (other : i ≠ g) : (t.signal g).signals i = t.signals i := by
  simp only [signals, signal, List.getElem?_modify, if_neg (Ne.symm other)]
  cases t.runs[i]? <;> rfl

theorem signals_signal_self (bound : g < t.runs.length) :
    (t.signal g).signals g = t.signals g + 1 := by
  simp [signals, signal, List.getElem?_eq_getElem bound]

theorem signals_le_signal (t : ProcessTable) (g i : Nat) : t.signals i ≤ (t.signal g).signals i := by
  by_cases same : i = g
  · subst same
    by_cases bound : i < t.runs.length
    · rw [signals_signal_self bound]
      exact Nat.le_succ _
    · have none : t.runs[i]? = none := List.getElem?_eq_none (Nat.le_of_not_lt bound)
      simp [signals, none]
  · exact Nat.le_of_eq (signals_signal same).symm

/-- The run whose token rests under a name, so that it can be told to stop by that name. -/
def rests (t : ProcessTable) (name : String) : Option Nat :=
  ((t.slots.get? name).filter Slot.armed).map Slot.generation

/-- Use a token. -/
def tell (t : ProcessTable) : Option Nat → ProcessTable
  | some g => t.signal g
  | none => t

theorem disarm_eq (slot : Option Slot) :
    t.disarm slot = t.tell ((slot.filter Slot.armed).map Slot.generation) := by
  cases slot with
  | none => rfl
  | some slot =>
    rw [disarm, Option.filter_some]
    split <;> rfl

@[simp] theorem stage?_tell (r : Option Nat) : (t.tell r).stage? i = t.stage? i := by
  cases r with
  | none => rfl
  | some g => exact stage?_signal

@[simp] theorem slots_tell (r : Option Nat) : (t.tell r).slots = t.slots := by
  cases r <;> rfl

theorem signals_le_tell (t : ProcessTable) (r : Option Nat) (i : Nat) :
    t.signals i ≤ (t.tell r).signals i := by
  cases r with
  | none => exact Nat.le_refl _
  | some g => exact signals_le_signal ..

theorem signals_tell {r : Option Nat} (other : r ≠ some i) :
    (t.tell r).signals i = t.signals i := by
  cases r with
  | none => rfl
  | some g => exact signals_signal fun same => other (congrArg some same.symm)

@[simp] theorem rests_signal : (t.signal g).rests name = t.rests name := rfl

theorem leads_of_rests (here : t.rests name = some g) : t.leads name = some g := by
  obtain ⟨slot, armed, rfl⟩ := Option.map_eq_some_iff.1 here
  rw [leads, (Option.filter_eq_some_iff.1 armed).1, Option.map_some]

/-! ## Beginning a run -/

theorem stage?_reserve : (t.reserve name).1.stage? i =
    if i = t.runs.length then some (name, .reserved) else t.stage? i := by
  rw [stage?, stage?, reserve, List.getElem?_append]
  by_cases old : i < t.runs.length
  · have other : i ≠ t.runs.length := by omega
    rw [if_pos old, if_neg other]
  · rw [if_neg old]
    by_cases new : i = t.runs.length
    · simp [new]
    · have beyond : i - t.runs.length ≠ 0 := by omega
      have none : t.runs[i]? = none := List.getElem?_eq_none (by omega)
      simp [new, none, beyond]

@[simp] theorem leads_reserve (other : String) : (t.reserve name).1.leads other = t.leads other := rfl

@[simp] theorem rests_reserve (other : String) : (t.reserve name).1.rests other = t.rests other := rfl

theorem signals_reserve : (t.reserve name).1.signals i = t.signals i := by
  rw [signals, signals, reserve, List.getElem?_append]
  split
  · rfl
  · rename_i new
    have none : t.runs[i]? = none := List.getElem?_eq_none (by omega)
    rw [none, List.getElem?_singleton]
    split <;> rfl

/-- A change of phase is no signal. -/
theorem signals_set {slots : NameMap Slot} {r : Run} (there : t.runs[g]? = some r) (phase : Phase) :
    ({ runs := t.runs.set g { r with phase }, slots } : ProcessTable).signals i = t.signals i := by
  simp only [signals, List.getElem?_set]
  by_cases same : g = i
  · subst same
    have bound : g < t.runs.length := (List.getElem?_eq_some_iff.1 there).1
    rw [if_pos rfl, if_pos bound, there]
    rfl
  · rw [if_neg same]

/-- The first half of `enter`: the run has the name, and the one that lost it has not been told. -/
def place (t : ProcessTable) (g : Nat) (tty : Bool) : ProcessTable :=
  match t.runs[g]? with
  | none => t
  | some r =>
    { runs := t.runs.set g { r with phase := .inFlight }
      slots := t.slots.insert r.name { generation := g, tty } }

section Entering

variable {tty : Bool}

theorem stage?_place (here : t.stage? g = some (name, phase)) :
    (t.place g tty).stage? i = if i = g then some (name, .inFlight) else t.stage? i := by
  obtain ⟨r, there, rfl, rfl⟩ := stage?_eq_some.1 here
  have bound : g < t.runs.length := (List.getElem?_eq_some_iff.1 there).1
  simp only [place, there, stage?, List.getElem?_set]
  by_cases same : i = g
  · simp [same, bound]
  · simp [same, Ne.symm same]

theorem slot_place (here : t.stage? g = some (name, phase)) (other : String) :
    (t.place g tty).slots.get? other =
      if other = name then some { generation := g, tty } else t.slots.get? other := by
  obtain ⟨r, there, rfl, rfl⟩ := stage?_eq_some.1 here
  simp only [place, there]
  exact NameMap.get?_insert ..

theorem leads_place (here : t.stage? g = some (name, phase)) (other : String) :
    (t.place g tty).leads other = if other = name then some g else t.leads other := by
  rw [leads, slot_place here]
  split <;> rfl

theorem rests_place (here : t.stage? g = some (name, phase)) (other : String) :
    (t.place g tty).rests other = if other = name then some g else t.rests other := by
  rw [rests, slot_place here]
  split <;> rfl

theorem signals_place (here : t.stage? g = some (name, phase)) :
    (t.place g tty).signals i = t.signals i := by
  obtain ⟨r, there, rfl, rfl⟩ := stage?_eq_some.1 here
  simp only [place, there]
  exact signals_set there _

theorem enter_eq (here : t.stage? g = some (name, phase)) :
    t.enter g tty = (t.place g tty).tell (t.rests name) := by
  obtain ⟨r, there, rfl, rfl⟩ := stage?_eq_some.1 here
  simp only [enter, place, there, disarm_eq, rests]

theorem stage?_enter (here : t.stage? g = some (name, phase)) :
    (t.enter g tty).stage? i = if i = g then some (name, .inFlight) else t.stage? i := by
  rw [enter_eq here, stage?_tell, stage?_place here]

theorem slot_enter (here : t.stage? g = some (name, phase)) (other : String) :
    (t.enter g tty).slots.get? other =
      if other = name then some { generation := g, tty } else t.slots.get? other := by
  rw [enter_eq here, slots_tell, slot_place here]

theorem leads_enter (here : t.stage? g = some (name, phase)) (other : String) :
    (t.enter g tty).leads other = if other = name then some g else t.leads other := by
  rw [leads, enter_eq here, slots_tell]
  exact leads_place here other

/-- A run that is entered stops the one that goes by its name, and no other. -/
theorem signals_enter (here : t.stage? g = some (name, phase)) (other : t.leads name ≠ some i) :
    (t.enter g tty).signals i = t.signals i := by
  rw [enter_eq here, signals_tell (mt leads_of_rests other), signals_place here]

theorem signals_le_enter (t : ProcessTable) (g : Nat) (tty : Bool) (i : Nat) :
    t.signals i ≤ (t.enter g tty).signals i := by
  cases there : t.runs[g]? with
  | none =>
    simp only [enter, there]
    exact Nat.le_refl _
  | some r =>
    have here : t.stage? g = some (r.name, r.phase) := stage?_eq_some.2 ⟨r, there, rfl, rfl⟩
    rw [enter_eq here, ← signals_place here]
    exact signals_le_tell ..

end Entering

/-! ## Stopping what goes by a name -/

/-- The first half of `stop`: the token is out of the table. -/
def take (t : ProcessTable) (name : String) : ProcessTable :=
  { t with slots := t.slots.modify name fun slot => { slot with armed := false } }

theorem stop_eq : t.stop name = ((t.take name).tell (t.rests name), (t.rests name).isSome) := by
  unfold stop
  cases here : t.slots.get? name with
  | none =>
    have same : t.take name = t := by
      refine congrArg (ProcessTable.mk t.runs) (NameMap.ext fun other => ?_)
      rw [NameMap.get?_modify]
      split
      · rename_i own
        rw [own, here, Option.map_none]
      · rfl
    simp only [rests, here, Option.filter_none, Option.map_none, Option.isSome_none, same]
    rfl
  | some slot =>
    have same : ({ t with slots := t.slots.insert name { slot with armed := false } } :
        ProcessTable) = t.take name := by
      refine congrArg (ProcessTable.mk t.runs) (NameMap.ext fun other => ?_)
      rw [NameMap.get?_modify, NameMap.get?_insert]
      split
      · rename_i own
        rw [own, here, Option.map_some]
      · rfl
    dsimp only
    rw [same, disarm_eq, rests, here, Option.filter_some]
    cases slot.armed <;> rfl

@[simp] theorem stage?_take : (t.take name).stage? i = t.stage? i := rfl

@[simp] theorem signals_take : (t.take name).signals i = t.signals i := rfl

theorem slot_take (other : String) : (t.take name).slots.get? other =
    if other = name then (t.slots.get? other).map fun slot => { slot with armed := false }
    else t.slots.get? other := NameMap.get?_modify ..

theorem leads_take (other : String) : (t.take name).leads other = t.leads other := by
  rw [leads, slot_take]
  split
  · rw [Option.map_map]
    rfl
  · rfl

theorem rests_take (other : String) :
    (t.take name).rests other = if other = name then none else t.rests other := by
  rw [rests, slot_take]
  split
  · cases t.slots.get? other <;> rfl
  · rfl

theorem stage?_stop : (t.stop name).1.stage? i = t.stage? i := by
  rw [stop_eq, stage?_tell, stage?_take]

theorem slot_stop (other : String) : (t.stop name).1.slots.get? other =
    if other = name then (t.slots.get? name).map fun slot => { slot with armed := false }
    else t.slots.get? other := by
  rw [stop_eq, slots_tell, slot_take]
  split
  · rename_i same
    rw [same]
  · rfl

theorem leads_stop (other : String) : (t.stop name).1.leads other = t.leads other := by
  rw [leads, stop_eq, slots_tell]
  exact leads_take other

theorem signals_le_stop (t : ProcessTable) (name : String) (i : Nat) :
    t.signals i ≤ (t.stop name).1.signals i := by
  rw [stop_eq]
  exact signals_le_tell (t.take name) _ i

theorem signals_stop (other : t.leads name ≠ some i) : (t.stop name).1.signals i = t.signals i := by
  rw [stop_eq, signals_tell (mt leads_of_rests other), signals_take]

/-- Whoever stops a name first tells the run that the name leads to. -/
theorem signals_stop_self {slot : Slot} (here : t.slots.get? name = some slot)
    (armed : slot.armed = true) (bound : slot.generation < t.runs.length) :
    (t.stop name).1.signals slot.generation = t.signals slot.generation + 1 := by
  have rests : t.rests name = some slot.generation := by
    rw [rests, here, Option.filter_some, if_pos armed, Option.map_some]
  rw [stop_eq, rests]
  exact signals_signal_self (t := t.take name) bound

/-! ## Ending a run -/

theorem stage?_finish (result : Run → Option (Except Fault Int)) :
    (t.finish g result).stage? i = t.stage? i ∨ i = g ∧ ∃ name answer,
      t.stage? i = some (name, .inFlight) ∧
        (t.finish g result).stage? i = some (name, .over answer) := by
  simp only [stage?, finish, List.getElem?_modify]
  cases t.runs[i]? with
  | none => exact .inl rfl
  | some r =>
    by_cases same : g = i
    · cases phase : r.phase with
      | inFlight =>
        cases given : result r with
        | none => simp [same, phase, given]
        | some answer => exact .inr ⟨same.symm, r.name, answer, by simp [phase], by simp [same, phase, given]⟩
      | _ => simp [same, phase]
    · simp [same]

@[simp] theorem leads_finish (result : Run → Option (Except Fault Int)) :
    (t.finish g result).leads name = t.leads name := rfl

@[simp] theorem rests_finish (result : Run → Option (Except Fault Int)) :
    (t.finish g result).rests name = t.rests name := rfl

theorem signals_finish (result : Run → Option (Except Fault Int)) :
    (t.finish g result).signals i = t.signals i := by
  simp only [signals, finish, List.getElem?_modify]
  cases t.runs[i]? with
  | none => rfl
  | some r =>
    by_cases same : g = i
    · simp only [same, if_true, Option.map_eq_map, Option.map_some]
      split <;> rfl
    · simp [same]

/-! ## Leaving -/

theorem leave_eq_self (waits : ∀ name answer, t.stage? g ≠ some (name, .over answer)) :
    t.leave g = t := by
  unfold leave
  split
  · rfl
  · rename_i r there
    split
    · rename_i answer gone
      exact absurd (stage?_eq_some.2 ⟨r, there, rfl, gone⟩) (waits r.name answer)
    · rfl

section Gone

variable {answer : Except Fault Int}

theorem stage?_leave (gone : t.stage? g = some (name, .over answer)) :
    (t.leave g).stage? i = if i = g then some (name, .left answer) else t.stage? i := by
  obtain ⟨r, there, rfl, phase⟩ := stage?_eq_some.1 gone
  have bound : g < t.runs.length := (List.getElem?_eq_some_iff.1 there).1
  simp only [leave, there, phase, stage?, List.getElem?_set]
  by_cases same : i = g
  · simp [same, bound]
  · simp [same, Ne.symm same]

theorem slot_leave (gone : t.stage? g = some (name, .over answer)) (other : String) :
    (t.leave g).slots.get? other =
      if other = name ∧ t.leads name = some g then none else t.slots.get? other := by
  obtain ⟨r, there, rfl, phase⟩ := stage?_eq_some.1 gone
  have goes : (t.slots.get? r.name).any (fun slot => slot.generation = g) = true ↔
      t.leads r.name = some g := by
    rw [leads]
    cases t.slots.get? r.name <;> simp
  simp only [leave, there, phase]
  by_cases here : t.leads r.name = some g
  · rw [if_pos (goes.2 here), NameMap.get?_erase]
    by_cases same : other = r.name
    · rw [if_pos same, if_pos ⟨same, here⟩]
    · rw [if_neg same, if_neg fun both => same both.1]
  · rw [if_neg (mt goes.1 here), if_neg fun both => here both.2]

theorem leads_leave (gone : t.stage? g = some (name, .over answer)) (other : String) :
    (t.leave g).leads other = if other = name ∧ t.leads name = some g then none else t.leads other := by
  rw [leads, slot_leave gone]
  split <;> rfl

theorem rests_leave (gone : t.stage? g = some (name, .over answer)) (other : String) :
    (t.leave g).rests other = if other = name ∧ t.leads name = some g then none else t.rests other := by
  rw [rests, slot_leave gone]
  split <;> rfl

theorem signals_leave (gone : t.stage? g = some (name, .over answer)) :
    (t.leave g).signals i = t.signals i := by
  obtain ⟨r, there, rfl, phase⟩ := stage?_eq_some.1 gone
  simp only [leave, there, phase]
  exact signals_set there _

end Gone

/-- A run that is over leaves, and nothing leads to it by its name any more. -/
theorem leave_cases : t.leave g = t ∨ ∃ name answer, t.stage? g = some (name, .over answer) ∧
    (∀ i, (t.leave g).stage? i = if i = g then some (name, .left answer) else t.stage? i) ∧
    (∀ other, (t.leave g).leads other =
      if other = name ∧ t.leads name = some g then none else t.leads other) ∧
    ∀ i, (t.leave g).signals i = t.signals i := by
  by_cases gone : ∃ name answer, t.stage? g = some (name, .over answer)
  · obtain ⟨name, answer, gone⟩ := gone
    exact .inr ⟨name, answer, gone, fun _ => stage?_leave gone, leads_leave gone,
      fun _ => signals_leave gone⟩
  · exact .inl (leave_eq_self fun name answer here => gone ⟨name, answer, here⟩)

/-! ## How many runs there are -/

theorem length_tell (t : ProcessTable) (r : Option Nat) :
    (t.tell r).runs.length = t.runs.length := by
  cases r with
  | none => rfl
  | some g => exact List.length_modify ..

theorem length_enter (t : ProcessTable) (g : Nat) (tty : Bool) :
    (t.enter g tty).runs.length = t.runs.length := by
  unfold enter
  split
  · rfl
  · rw [disarm_eq, length_tell]
    exact List.length_set

theorem length_stop (t : ProcessTable) (name : String) :
    (t.stop name).1.runs.length = t.runs.length := by
  rw [stop_eq]
  exact length_tell ..

theorem length_finish (t : ProcessTable) (g : Nat) (result : Run → Option (Except Fault Int)) :
    (t.finish g result).runs.length = t.runs.length := List.length_modify ..

theorem length_leave (t : ProcessTable) (g : Nat) : (t.leave g).runs.length = t.runs.length := by
  unfold leave
  split
  · rfl
  · split
    · exact List.length_set
    · rfl

end Supervisor.ProcessTable
