import Supervisor.Proofs.Process.Latest

/-!
# The token of a run

Every run has one token by which it is told to stop. The token comes into the table with the run and
rests under its name. Whoever stops the name takes the token out and uses it, in two acts, and so does
the entry of another run under the name; others may act in between. Counted over the table, the hands
of callers and the signals that have come, a run that has not left has one token, whatever the order
of the acts.
-/

namespace Supervisor

/-- Who takes a token out of the table. -/
inductive Taker where
  /-- A call that stops the name. -/
  | stop
  /-- The entry of another run under the name. -/
  | successor (g : Nat)
  deriving DecidableEq

/-- A token that has been taken from under a name. -/
structure Token where
  name : String
  generation : Nat
  taker : Taker
  deriving DecidableEq

/-- A process table, and the tokens in the hands of callers. -/
structure SharedTable where
  table : ProcessTable := {}
  held : List Token := []

namespace ProcessTable

/-- How a run has ended. -/
def answer? (t : ProcessTable) (g : Nat) : Option (Except Fault Int) :=
  (t.stage? g).bind fun stage =>
    match stage.2 with
    | .over answer | .left answer => some answer
    | .reserved | .inFlight => none

/-- How many tokens of a run are in the table. -/
def resting (t : ProcessTable) (g : Nat) : Nat :=
  match t.stage? g with
  | some (name, _) => if t.rests name = some g then 1 else 0
  | none => 0

/-- What is found under a name by who takes it. -/
def found (t : ProcessTable) (name : String) (taker : Taker) : List Token :=
  (t.rests name).toList.map fun g => { name, generation := g, taker }

variable {t : ProcessTable} {g i : Nat} {name : String} {phase : Phase} {taker : Taker}

theorem resting_eq (here : t.stage? g = some (name, phase)) :
    t.resting g = if t.rests name = some g then 1 else 0 := by
  rw [resting, here]

theorem resting_eq_zero (none : t.stage? g = none) : t.resting g = 0 := by
  rw [resting, none]

/-- The token of a run rests under the name of the run. -/
theorem Housed.own (housed : t.Housed) (rests : t.rests name = some g) :
    ∃ phase, t.stage? g = some (name, phase) ∧ phase ≠ .reserved :=
  housed name g (leads_of_rests rests)

theorem count_found : (t.found name taker).countP (fun token => token.generation = i) =
    if t.rests name = some i then 1 else 0 := by
  rw [found]
  cases t.rests name with
  | none => rfl
  | some g => simp

/-- What is found under a name is what the table loses. -/
theorem resting_take_found (housed : t.Housed) (name : String) (taker : Taker) (i : Nat) :
    (t.take name).resting i +
      (t.found name taker).countP (fun token => token.generation = i) = t.resting i := by
  rw [count_found]
  cases here : t.stage? i with
  | none =>
    have other : t.rests name ≠ some i := fun rests => by
      obtain ⟨_, stage, -⟩ := housed.own rests
      rw [here] at stage
      cases stage
    rw [if_neg other, ProcessTable.resting_eq_zero here]
    exact ProcessTable.resting_eq_zero (t := t.take name) here
  | some stage =>
    obtain ⟨own, phase⟩ := stage
    rw [resting_eq here, resting_eq (t := t.take name) here, rests_take]
    by_cases same : own = name
    · rw [if_pos same, same, if_neg nofun, Nat.zero_add]
    · have other : t.rests name ≠ some i := fun rests => by
        obtain ⟨_, stage, -⟩ := housed.own rests
        rw [here] at stage
        cases stage
        exact same rfl
      rw [if_neg same, if_neg other]
      rfl

@[simp] theorem resting_signal : (t.signal g).resting i = t.resting i := by
  rw [resting, resting, stage?_signal]
  rfl

theorem resting_reserve (housed : t.Housed) : (t.reserve name).1.resting i = t.resting i := by
  by_cases new : i = t.runs.length
  · have last : (t.reserve name).1.stage? i = some (name, .reserved) := by
      rw [stage?_reserve, if_pos new]
    have other : t.rests name ≠ some i := fun rests => by
      obtain ⟨_, stage, -⟩ := housed.own rests
      rw [new, stage?_length] at stage
      cases stage
    rw [resting_eq last, rests_reserve, if_neg other, new, resting_eq_zero stage?_length]
  · rw [resting, resting, stage?_reserve, if_neg new]
    rfl

theorem resting_finish (result : Run → Option (Except Fault Int)) :
    (t.finish g result).resting i = t.resting i := by
  rcases stage?_finish (t := t) (g := g) (i := i) result with same | ⟨-, name, answer, before, after⟩
  · rw [resting, resting, same]
    rfl
  · rw [resting_eq before, resting_eq after]
    rfl

section Entering

variable {tty : Bool}

theorem resting_place_self (here : t.stage? g = some (name, phase)) : (t.place g tty).resting g = 1 := by
  have placed : (t.place g tty).stage? g = some (name, .inFlight) := by
    rw [stage?_place here, if_pos rfl]
  rw [resting_eq placed, rests_place here, if_pos rfl, if_pos rfl]

/-- Other runs lose what a stop of the name would take. -/
theorem resting_place (here : t.stage? g = some (name, phase)) (other : i ≠ g) :
    (t.place g tty).resting i = (t.take name).resting i := by
  rw [resting, resting, stage?_place here, if_neg other, stage?_take]
  cases t.stage? i with
  | none => rfl
  | some stage =>
    dsimp only
    rw [rests_place here, rests_take]
    have apart : some g ≠ some i := fun same => other (Option.some.inj same).symm
    by_cases own : stage.1 = name
    · rw [if_pos own, if_pos own, if_neg apart, if_neg nofun]
    · rw [if_neg own, if_neg own]

end Entering

section Gone

variable {answer : Except Fault Int}

theorem resting_leave (gone : t.stage? g = some (name, .over answer)) (other : i ≠ g) :
    (t.leave g).resting i = t.resting i := by
  rw [resting, resting, stage?_leave gone, if_neg other]
  cases t.stage? i with
  | none => rfl
  | some stage =>
    dsimp only
    rw [rests_leave gone]
    by_cases goes : stage.1 = name ∧ t.leads name = some g
    · have apart : t.rests stage.1 ≠ some i := by
        intro rests
        have leads := leads_of_rests rests
        rw [goes.1, goes.2] at leads
        exact other (Option.some.inj leads).symm
      rw [if_pos goes, if_neg nofun, if_neg apart]
    · rw [if_neg goes]

theorem resting_leave_le (gone : t.stage? g = some (name, .over answer)) :
    (t.leave g).resting g ≤ t.resting g := by
  have left : (t.leave g).stage? g = some (name, .left answer) := by
    rw [stage?_leave gone, if_pos rfl]
  rw [resting_eq left, resting_eq gone, rests_leave gone]
  split
  · exact Nat.zero_le _
  · exact Nat.le_refl _

end Gone

end ProcessTable

namespace SharedTable

open ProcessTable (Entered Housed Turn stage?_eq_some)

inductive Act where
  | reserved (g : Nat) (name : String)
  | entered (g : Nat) (name : String)
  /-- A stop has come to a name, and may have found a token there. -/
  | asked (name : String) (found : Option Nat)
  | told (token : Token)
  /-- A token has come too late. -/
  | missed (token : Token)
  | ended (g : Nat)
  | left (g : Nat)
  deriving DecidableEq

namespace Act

/-- The run is told in the act. -/
def tells (g : Nat) : Act → Bool
  | told token => token.generation = g
  | reserved .. | entered .. | asked .. | missed _ | ended _ | left _ => false

/-- The answer of the stop that the act completes: whether somebody was told. -/
def answer? : Act → Option Bool
  | asked _ none | missed ⟨_, _, .stop⟩ => some false
  | told ⟨_, _, .stop⟩ => some true
  | _ => none

end Act

/-- How many tokens of a run are in the hands of callers. -/
def inHand (s : SharedTable) (g : Nat) : Nat := s.held.countP fun token => token.generation = g

/-- How many tokens of a run have not been used. -/
def unused (s : SharedTable) (g : Nat) : Nat := s.table.resting g + s.inHand g

/-- The first half of an entry: the run is in the table, and the token of the run that lost the name
is in the hand of the caller. -/
def enter (s : SharedTable) (g : Nat) (name : String) (tty : Bool) : SharedTable :=
  { table := s.table.place g tty, held := s.table.found name (.successor g) ++ s.held }

/-- The first half of a stop: the token, if there was one, is in the hand of the caller. -/
def ask (s : SharedTable) (name : String) : SharedTable :=
  { table := s.table.take name, held := s.table.found name .stop ++ s.held }

/-- The second half of both. -/
def tell (s : SharedTable) (token : Token) : SharedTable :=
  { table := s.table.signal token.generation, held := s.held.erase token }

@[simp] theorem table_enter (s : SharedTable) (g : Nat) (name : String) (tty : Bool) :
    (s.enter g name tty).table = s.table.place g tty := rfl

@[simp] theorem table_ask (s : SharedTable) (name : String) : (s.ask name).table = s.table.take name :=
  rfl

@[simp] theorem table_tell (s : SharedTable) (token : Token) :
    (s.tell token).table = s.table.signal token.generation := rfl

/-- The calls that stop a name or enter a run are cut in two, before the token is used. -/
inductive Step (s : SharedTable) : Act → SharedTable → Prop
  | reserve (name : String) : Step s (.reserved (s.table.reserve name).2 name)
      { s with table := (s.table.reserve name).1 }
  | enter {g : Nat} {name : String} (tty : Bool)
      (here : s.table.stage? g = some (name, .reserved)) :
      Step s (.entered g name) (s.enter g name tty)
  | ask (name : String) : Step s (.asked name (s.table.rests name)) (s.ask name)
  | tell {token : Token} (mine : token ∈ s.held) : Step s (.told token) (s.tell token)
  | miss {token : Token} {name : String} {answer : Except Fault Int} (mine : token ∈ s.held)
      (gone : s.table.stage? token.generation = some (name, .left answer)) :
      Step s (.missed token) { s with held := s.held.erase token }
  /-- The process has ended by itself, or nobody can wait for it. -/
  | exit {g : Nat} {name : String} {answer : Except Fault Int}
      (here : s.table.stage? g = some (name, .inFlight))
      (own : ∀ process, answer ≠ .error (.terminated process)) :
      Step s (.ended g) { s with table := s.table.finish g fun _ => some answer }
  /-- The run wakes up because it has been told, or because nobody can tell it any more. -/
  | heed {g : Nat} {name : String} (here : s.table.stage? g = some (name, .inFlight))
      (woken : 0 < s.table.signals g ∨ s.unused g = 0) :
      Step s (.ended g)
        { s with table := s.table.finish g fun r => some (.error (.terminated r.name)) }
  | leave {g : Nat} {name : String} {answer : Except Fault Int}
      (here : s.table.stage? g = some (name, .over answer)) :
      Step s (.left g) { s with table := s.table.leave g }

/-- What may be done to a table that nobody has used yet, the latest act first. -/
inductive Steps : List Act → SharedTable → Prop
  | none : Steps [] {}
  | more {past : List Act} {act : Act} {s s' : SharedTable} (earlier : Steps past s)
      (step : Step s act s') : Steps (act :: past) s'

variable {s s' : SharedTable} {g i : Nat} {name : String} {act : Act} {acts : List Act}
  {taker : Taker}

/-- Seen from one run, a half of a call is an act on the table, or no act at all. -/
theorem Step.turn (h : Step s act s') (i : Nat) : ∃ act, Turn s.table i act (s'.table.stage? i) := by
  cases h with
  | reserve name => exact ⟨_, ProcessTable.Step.turn (.reserve name) i⟩
  | @enter g name tty here =>
    refine ⟨.entered g name, ?_⟩
    rw [table_enter, ProcessTable.stage?_place here]
    exact Turn.at (.entered here) (fun _ other => decide_eq_false (Ne.symm other)) i
  | ask name => exact ⟨.stopped name true, .still rfl⟩
  | @tell token mine =>
    refine ⟨.stopped token.name true, ?_⟩
    rw [table_tell, ProcessTable.stage?_signal]
    exact .still rfl
  | @miss token => exact ⟨.stopped token.name false, .still rfl⟩
  | exit here own => exact ⟨_, ProcessTable.Step.turn (.exit _ here) i⟩
  | @heed g name here woken =>
    refine ⟨.ended g, ?_⟩
    rw [ProcessTable.stage?_terminated here]
    exact Turn.at (.ended _ here) (fun _ other => decide_eq_false (Ne.symm other)) i
  | leave here => exact ⟨_, ProcessTable.Step.turn (.leave here) i⟩

theorem Step.entered (h : Step s act s') (entered : s.table.Entered name g) :
    s'.table.Entered name g :=
  let ⟨_, turn⟩ := h.turn g
  entered.turn turn

theorem Step.leads (h : Step s act s') (name : String) (g : Nat)
    (leads : s'.table.leads name = some g) :
    act = .entered g name ∨ s.table.leads name = some g ∧ ∀ i, act ≠ .entered i name := by
  cases h with
  | reserve | tell | miss | exit | heed => exact .inr ⟨leads, fun _ => nofun⟩
  | ask => exact .inr ⟨(ProcessTable.leads_take _).symm.trans leads, fun _ => nofun⟩
  | @enter i own tty here =>
    rw [table_enter, ProcessTable.leads_place here] at leads
    split at leads
    · rename_i same
      exact .inl (by rw [same, Option.some.inj leads])
    · rename_i other
      refine .inr ⟨leads, ?_⟩
      rintro _ ⟨⟩
      exact other rfl
  | leave here =>
    rw [ProcessTable.leads_leave here] at leads
    split at leads
    · cases leads
    · exact .inr ⟨leads, fun _ => nofun⟩

/-! ## Where the token of a run is -/

/-- How many tokens there have been of a run, used ones included. -/
def tokens (s : SharedTable) (g : Nat) : Nat := s.unused g + s.table.signals g

/-- How many tokens there are of a run that has come so far. -/
def Balanced (tokens : Nat) : Option (String × Phase) → Prop
  | none | some (_, .reserved) => tokens = 0
  | some (_, .inFlight) | some (_, .over _) => tokens = 1
  | some (_, .left _) => tokens ≤ 1

theorem tokens_eq_zero (fresh : s.tokens g = 0) :
    s.table.resting g = 0 ∧ s.inHand g = 0 ∧ s.table.signals g = 0 := by
  rw [tokens, unused] at fresh
  omega

theorem inHand_pos {token : Token} (mine : token ∈ s.held) : 0 < s.inHand token.generation :=
  List.countP_pos_iff.2 ⟨token, mine, decide_eq_true rfl⟩

theorem inHand_append (table : ProcessTable) (tokens : List Token) :
    ({ table, held := tokens ++ s.held } : SharedTable).inHand i =
      tokens.countP (fun token => token.generation = i) + s.inHand i := List.countP_append

theorem inHand_erase {token : Token} (table : ProcessTable) (mine : token ∈ s.held) :
    ({ table, held := s.held.erase token } : SharedTable).inHand i +
      (if token.generation = i then 1 else 0) = s.inHand i := by
  rw [inHand, inHand, (List.perm_cons_erase mine).countP_eq, List.countP_cons]
  simp only [decide_eq_true_eq]

theorem tokens_reserve (housed : s.table.Housed) :
    ({ s with table := (s.table.reserve name).1 } : SharedTable).tokens i = s.tokens i := by
  show (s.table.reserve name).1.resting i + s.inHand i + (s.table.reserve name).1.signals i = _
  rw [ProcessTable.resting_reserve housed, ProcessTable.signals_reserve]
  rfl

/-- Who stops a name moves a token from the table into his hand. -/
theorem tokens_ask (housed : s.table.Housed) : (s.ask name).tokens i = s.tokens i := by
  have kept := ProcessTable.resting_take_found housed name .stop i
  show (s.table.take name).resting i + (s.ask name).inHand i + s.table.signals i = _
  rw [tokens, unused, ask, inHand_append]
  omega

section Entering

variable {tty : Bool} (housed : s.table.Housed) (here : s.table.stage? g = some (name, .reserved))
include housed here

/-- Who enters another run under the name does the same. -/
theorem tokens_enter (other : i ≠ g) : (s.enter g name tty).tokens i = s.tokens i := by
  have kept := ProcessTable.resting_take_found housed name (.successor g) i
  show (s.table.place g tty).resting i + (s.enter g name tty).inHand i +
    (s.table.place g tty).signals i = _
  rw [tokens, unused, enter, inHand_append, ProcessTable.signals_place here,
    ProcessTable.resting_place here other]
  omega

/-- A run that is entered brings its token. -/
theorem tokens_enter_self (fresh : s.tokens g = 0) : (s.enter g name tty).tokens g = 1 := by
  have kept := ProcessTable.resting_take_found housed name (.successor g) g
  obtain ⟨resting, inHand, signals⟩ := tokens_eq_zero fresh
  show (s.table.place g tty).resting g + (s.enter g name tty).inHand g +
    (s.table.place g tty).signals g = 1
  rw [enter, inHand_append, ProcessTable.signals_place here, ProcessTable.resting_place_self here]
  omega

end Entering

theorem tokens_tell {token : Token} (mine : token ∈ s.held)
    (bound : token.generation < s.table.runs.length) : (s.tell token).tokens i = s.tokens i := by
  have counted := inHand_erase (i := i) (s.table.signal token.generation) mine
  show (s.table.signal token.generation).resting i + (s.tell token).inHand i +
    (s.table.signal token.generation).signals i = _
  rw [tokens, unused, tell, ProcessTable.resting_signal]
  by_cases same : token.generation = i
  · subst same
    rw [if_pos rfl] at counted
    rw [ProcessTable.signals_signal_self bound]
    omega
  · rw [if_neg same] at counted
    rw [ProcessTable.signals_signal (Ne.symm same)]
    omega

theorem tokens_erase {token : Token} (mine : token ∈ s.held) :
    ({ s with held := s.held.erase token } : SharedTable).tokens i +
      (if token.generation = i then 1 else 0) = s.tokens i := by
  have counted := inHand_erase (i := i) s.table mine
  show s.table.resting i + _ + s.table.signals i + _ = _
  rw [tokens, unused]
  omega

theorem tokens_finish (result : Run → Option (Except Fault Int)) :
    ({ s with table := s.table.finish g result } : SharedTable).tokens i = s.tokens i := by
  show (s.table.finish g result).resting i + s.inHand i + (s.table.finish g result).signals i = _
  rw [ProcessTable.resting_finish, ProcessTable.signals_finish]
  rfl

section Gone

variable {answer : Except Fault Int} (gone : s.table.stage? g = some (name, .over answer))
include gone

theorem tokens_leave (other : i ≠ g) :
    ({ s with table := s.table.leave g } : SharedTable).tokens i = s.tokens i := by
  show (s.table.leave g).resting i + s.inHand i + (s.table.leave g).signals i = _
  rw [ProcessTable.resting_leave gone other, ProcessTable.signals_leave gone]
  rfl

/-- A run may take its token with it. -/
theorem tokens_leave_le : ({ s with table := s.table.leave g } : SharedTable).tokens g ≤ s.tokens g := by
  have fewer := ProcessTable.resting_leave_le gone
  show (s.table.leave g).resting g + s.inHand g + (s.table.leave g).signals g ≤ _
  rw [tokens, unused, ProcessTable.signals_leave gone]
  omega

end Gone

theorem Step.housed (h : Step s act s') (housed : s.table.Housed) : s'.table.Housed := by
  intro name g leads
  rcases h.leads name g leads with rfl | ⟨before, -⟩
  · cases h with
    | enter tty here =>
      refine ⟨.inFlight, ?_, nofun⟩
      rw [table_enter, ProcessTable.stage?_place here, if_pos rfl]
  · exact h.entered (housed name g before)

/-- A caller holds tokens only of runs there are. -/
theorem held_bound {token : Token} (balanced : ∀ i, Balanced (s.tokens i) (s.table.stage? i))
    (mine : token ∈ s.held) : token.generation < s.table.runs.length := by
  refine Decidable.byContradiction fun beyond => ?_
  have none : s.table.stage? token.generation = none := by
    rw [ProcessTable.stage?, List.getElem?_eq_none (Nat.le_of_not_lt beyond)]
    rfl
  have fresh := balanced token.generation
  rw [none] at fresh
  have inHand := inHand_pos mine
  rw [(tokens_eq_zero fresh).2.1] at inHand
  exact Nat.lt_irrefl 0 inHand

theorem Step.balanced (h : Step s act s') (housed : s.table.Housed)
    (balanced : ∀ i, Balanced (s.tokens i) (s.table.stage? i)) (i : Nat) :
    Balanced (s'.tokens i) (s'.table.stage? i) := by
  have before := balanced i
  cases h with
  | reserve name =>
    rw [tokens_reserve housed, ProcessTable.stage?_reserve]
    split
    · rename_i new
      rw [new, ProcessTable.stage?_length] at before
      exact new ▸ before
    · exact before
  | @enter g name tty here =>
    rw [table_enter, ProcessTable.stage?_place here]
    split
    · rename_i same
      subst same
      rw [here] at before
      exact tokens_enter_self housed here before
    · rename_i other
      rw [tokens_enter housed here other]
      exact before
  | ask name =>
    rw [tokens_ask housed]
    exact before
  | @tell token mine =>
    rw [tokens_tell mine (held_bound balanced mine), table_tell, ProcessTable.stage?_signal]
    exact before
  | @miss token own answer mine gone =>
    -- The token is lost with the run, which has left.
    have dropped := tokens_erase (i := i) mine
    by_cases same : token.generation = i
    · subst same
      rw [gone] at before ⊢
      exact Nat.le_trans (Nat.le.intro dropped) before
    · rw [if_neg same] at dropped
      rw [← dropped] at before
      exact before
  | @exit g name answer here own =>
    rw [tokens_finish, ProcessTable.stage?_exit here]
    split
    · rename_i same
      rw [same, here] at before
      exact same ▸ before
    · exact before
  | @heed g name here woken =>
    rw [tokens_finish, ProcessTable.stage?_terminated here]
    split
    · rename_i same
      rw [same, here] at before
      exact same ▸ before
    · exact before
  | @leave g name answer here =>
    rw [ProcessTable.stage?_leave here]
    split
    · rename_i same
      subst same
      rw [here] at before
      exact Nat.le_trans (tokens_leave_le here) (Nat.le_of_eq before)
    · rename_i other
      rw [tokens_leave here other]
      exact before

theorem Steps.housed (h : Steps acts s) : s.table.Housed := by
  induction h with
  | none =>
    intro _ _ leads
    cases leads
  | more earlier step ih => exact step.housed ih

theorem Steps.balanced (h : Steps acts s) (i : Nat) : Balanced (s.tokens i) (s.table.stage? i) := by
  induction h generalizing i with
  | none => rfl
  | more earlier step ih => exact step.balanced earlier.housed ih i

end SharedTable

end Supervisor
