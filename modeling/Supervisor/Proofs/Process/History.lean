import Supervisor.Proofs.Process.Table

/-!
# Histories of a process table

What is done to a table, one act after another, the latest first. A run gets its number, is entered
under its name, is over, and leaves, and whatever others do may come between. It is over when its
process has ended, when waiting for the process has failed, or when it has done what it was told.
`Turn` lists what can become of one run in one act.
-/

namespace Supervisor.ProcessTable

inductive Act where
  | reserved (g : Nat) (name : String)
  | entered (g : Nat) (name : String)
  | stopped (name : String) (told : Bool)
  | ended (g : Nat)
  | left (g : Nat)
  deriving DecidableEq

/-- The act is one in the course of the run. -/
def Act.isOf (g : Nat) : Act → Bool
  | reserved i _ | entered i _ | ended i | left i => i = g
  | stopped .. => false

inductive Step (t : ProcessTable) : Act → ProcessTable → Prop
  | reserve (name : String) : Step t (.reserved (t.reserve name).2 name) (t.reserve name).1
  | enter {g : Nat} {name : String} (tty : Bool) (here : t.stage? g = some (name, .reserved)) :
      Step t (.entered g name) (t.enter g tty)
  | stop (name : String) : Step t (.stopped name (t.stop name).2) (t.stop name).1
  /-- The process has ended by itself, or nobody can wait for it. -/
  | exit {g : Nat} {name : String} (answer : Except Fault Int)
      (here : t.stage? g = some (name, .inFlight)) :
      Step t (.ended g) (t.finish g fun _ => some answer)
  | heed {g : Nat} {name : String} (here : t.stage? g = some (name, .inFlight))
      (told : 0 < t.signals g) : Step t (.ended g) (t.heed g)
  | leave {g : Nat} {name : String} {answer : Except Fault Int}
      (here : t.stage? g = some (name, .over answer)) : Step t (.left g) (t.leave g)

/-- What may be done to a table that nobody has used yet. -/
inductive Steps : List Act → ProcessTable → Prop
  | none : Steps [] {}
  | more {past : List Act} {act : Act} {t t' : ProcessTable} (earlier : Steps past t)
      (step : Step t act t') : Steps (act :: past) t'

variable {t t' : ProcessTable} {g i : Nat} {name : String} {act : Act} {acts : List Act}

/-- What can become of one run in one act: how far it has come afterwards. -/
inductive Turn (t : ProcessTable) (g : Nat) : Act → Option (String × Phase) → Prop
  | still {act : Act} (other : act.isOf g = false) : Turn t g act (t.stage? g)
  | reserved (name : String) (new : t.stage? g = none) :
      Turn t g (.reserved g name) (some (name, .reserved))
  | entered {name : String} (here : t.stage? g = some (name, .reserved)) :
      Turn t g (.entered g name) (some (name, .inFlight))
  | ended {name : String} (answer : Except Fault Int) (here : t.stage? g = some (name, .inFlight)) :
      Turn t g (.ended g) (some (name, .over answer))
  | left {name : String} {answer : Except Fault Int} (here : t.stage? g = some (name, .over answer)) :
      Turn t g (.left g) (some (name, .left answer))

theorem signals_eq {r : Run} (here : t.runs[g]? = some r) : t.signals g = r.signals := by
  rw [signals, here]
  rfl

theorem stage?_over {result : Run → Option (Except Fault Int)} {answer : Except Fault Int}
    (here : t.stage? g = some (name, .inFlight))
    (given : ∀ r, t.runs[g]? = some r → result r = some answer) :
    (t.finish g result).stage? i = if i = g then some (name, .over answer) else t.stage? i := by
  obtain ⟨r, there, rfl, phase⟩ := stage?_eq_some.1 here
  simp only [stage?, finish, List.getElem?_modify]
  by_cases same : i = g
  · simp [same, there, phase, given r there]
  · simp [same, Ne.symm same]

theorem stage?_exit (here : t.stage? g = some (name, .inFlight)) (answer : Except Fault Int) :
    (t.finish g fun _ => some answer).stage? i =
      if i = g then some (name, .over answer) else t.stage? i := stage?_over here fun _ _ => rfl

theorem stage?_terminated (here : t.stage? g = some (name, .inFlight)) :
    (t.finish g fun r => some (.error (.terminated r.name))).stage? i =
      if i = g then some (name, .over (.error (.terminated name))) else t.stage? i := by
  apply stage?_over here
  intro r there
  obtain ⟨r', there', rfl, -⟩ := stage?_eq_some.1 here
  obtain rfl := Option.some.inj (there'.symm.trans there)
  rfl

/-- A run that has been told does as it was told. -/
theorem heed_eq (told : 0 < t.signals g) :
    t.heed g = t.finish g fun r => some (.error (.terminated r.name)) := by
  refine congrArg (fun runs => ({ t with runs } : ProcessTable)) (List.ext_getElem? fun i => ?_)
  rw [List.getElem?_modify, List.getElem?_modify]
  cases there : t.runs[i]? with
  | none => rfl
  | some r =>
    by_cases same : g = i
    · subst same
      rw [signals_eq there] at told
      simp only [if_true, Option.map_eq_map, Option.map_some, if_neg (Nat.pos_iff_ne_zero.1 told)]
    · simp only [if_neg same]

theorem stage?_heed (here : t.stage? g = some (name, .inFlight)) (told : 0 < t.signals g) :
    (t.heed g).stage? i =
      if i = g then some (name, .over (.error (.terminated name))) else t.stage? i := by
  rw [heed_eq told, stage?_terminated here]

/-- An act in the course of one run, seen from every run. -/
theorem Turn.at {after : Option (String × Phase)} (turn : Turn t g act after)
    (others : ∀ i, i ≠ g → act.isOf i = false) (i : Nat) :
    Turn t i act (if i = g then after else t.stage? i) := by
  split
  · rename_i same
    exact same ▸ turn
  · rename_i other
    exact .still (others i other)

theorem Step.turn (h : Step t act t') (i : Nat) : Turn t i act (t'.stage? i) := by
  cases h with
  | reserve name =>
    rw [stage?_reserve]
    exact Turn.at (.reserved name stage?_length) (fun _ other => decide_eq_false (Ne.symm other)) i
  | enter tty here =>
    rw [stage?_enter here]
    exact Turn.at (.entered here) (fun _ other => decide_eq_false (Ne.symm other)) i
  | stop name =>
    rw [stage?_stop]
    exact .still rfl
  | exit answer here =>
    rw [stage?_exit here]
    exact Turn.at (.ended answer here) (fun _ other => decide_eq_false (Ne.symm other)) i
  | heed here told =>
    rw [stage?_heed here told]
    exact Turn.at (.ended _ here) (fun _ other => decide_eq_false (Ne.symm other)) i
  | leave here =>
    rw [stage?_leave here]
    exact Turn.at (.left here) (fun _ other => decide_eq_false (Ne.symm other)) i

/-! ## What a history knows of a run -/

/-- A run has left the table once the history says so. -/
theorem Steps.left_iff (h : Steps acts t) (g : Nat) :
    .left g ∈ acts ↔ ∃ name answer, t.stage? g = some (name, .left answer) := by
  induction h with
  | none => simp [stage?]
  | @more past act t t' earlier step ih =>
    have turn := step.turn g
    rw [List.mem_cons, ih]
    generalize t'.stage? g = after at turn
    cases turn with
    | still other =>
      have apart : Act.left g ≠ act := by
        rintro rfl
        simp [Act.isOf] at other
      simp [apart]
    | reserved name new => simp [new]
    | entered here | ended _ here => simp [here]
    | left here => simp

/-- The run that was entered under the name last. -/
def latest (name : String) : List Act → Option Nat
  | [] => none
  | .entered g entered :: acts => if entered = name then some g else latest name acts
  | .reserved .. :: acts | .stopped .. :: acts | .ended _ :: acts | .left _ :: acts => latest name acts

/-- The run is known by the name, and has been entered under it. -/
def Entered (t : ProcessTable) (name : String) (g : Nat) : Prop :=
  ∃ phase, t.stage? g = some (name, phase) ∧ phase ≠ .reserved

theorem Entered.turn (entered : t.Entered name g) (turn : Turn t g act (t'.stage? g)) :
    t'.Entered name g := by
  obtain ⟨phase, here, old⟩ := entered
  rw [Entered]
  generalize t'.stage? g = after at turn
  cases turn with
  | still => exact ⟨phase, here, old⟩
  | reserved _ new =>
    rw [new] at here
    cases here
  | entered now =>
    rw [now] at here
    cases here
    exact absurd rfl old
  | ended _ now | left now =>
    rw [now] at here
    cases here
    exact ⟨_, rfl, Phase.noConfusion⟩

theorem Step.entered (h : Step t act t') (entered : t.Entered name g) : t'.Entered name g :=
  entered.turn (h.turn g)

theorem Steps.entered (h : Steps acts t) (last : latest name acts = some g) : t.Entered name g := by
  induction h with
  | none => cases last
  | @more past act t t' earlier step ih =>
    have old : latest name past = some g → t'.Entered name g := fun last => step.entered (ih last)
    cases act with
    | reserved | stopped | ended | left => exact old last
    | entered i entered =>
      rw [latest] at last
      by_cases same : entered = name
      · rw [if_pos same] at last
        cases last
        cases step with
        | enter tty here =>
          refine ⟨.inFlight, ?_, Phase.noConfusion⟩
          rw [stage?_enter here, if_pos rfl, same]
      · rw [if_neg same] at last
        exact old last

end Supervisor.ProcessTable
