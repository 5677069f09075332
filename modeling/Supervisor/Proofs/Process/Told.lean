import Supervisor.Proofs.Process.Tokens

/-!
# A run is told to stop at most once, and never without cause

A token comes into a hand in one of two ways, and the history tells in which: somebody has stopped the
name it rested under, or has entered another run there. Together with the count of tokens this says who
has told a run, and that no run in flight is beyond the reach of those who would tell it.
-/

namespace Supervisor.SharedTable

open ProcessTable (Entered Housed)

variable {s s' : SharedTable} {g i : Nat} {name : String} {act : Act} {acts : List Act}
  {taker : Taker}

/-! ## What a history knows of a token -/

/-- What takes a token out of the table. -/
def taking (token : Token) : Act :=
  match token.taker with
  | .stop => .asked token.name (some token.generation)
  | .successor g => .entered g token.name

/-- How a token comes into a hand, the latest act first. -/
def course (token : Token) : List Act := [taking token, .entered token.generation token.name]

/-- Another run has been entered under the name after this one. -/
def Replaced (acts : List Act) (name : String) (g : Nat) : Prop :=
  ∃ i, [.entered i name, .entered g name].Sublist acts

theorem Replaced.of_cons (replaced : Replaced (act :: acts) name g)
    (other : ∀ i, act ≠ .entered i name) : Replaced acts name g := by
  obtain ⟨i, later⟩ := replaced
  cases later with
  | cons _ old => exact ⟨i, old⟩
  | cons_cons _ first => exact absurd rfl (other i)

theorem mem_found {token : Token} {t : ProcessTable} (here : token ∈ t.found name taker) :
    token.name = name ∧ token.taker = taker ∧ t.rests name = some token.generation := by
  obtain ⟨g, rests, rfl⟩ := List.mem_map.1 here
  exact ⟨rfl, rfl, Option.mem_toList.1 rests⟩

theorem Step.signals (h : Step s act s') (bound : ∀ token ∈ s.held,
    token.generation < s.table.runs.length) (i : Nat) :
    s'.table.signals i = s.table.signals i + if act.tells i then 1 else 0 := by
  cases h with
  | reserve => exact ProcessTable.signals_reserve
  | enter tty here => exact ProcessTable.signals_place here
  | ask | miss => rfl
  | exit | heed => exact ProcessTable.signals_finish _
  | leave here => exact ProcessTable.signals_leave here
  | @tell token mine =>
    simp only [table_tell, Act.tells, decide_eq_true_eq]
    split
    · rename_i same
      rw [← same, ProcessTable.signals_signal_self (bound token mine)]
    · rename_i other
      exact ProcessTable.signals_signal (Ne.symm other)

/-- A run ends as one that was told to stop only if it has been told. -/
theorem Step.terminated (h : Step s act s')
    (balanced : ∀ i, Balanced (s.tokens i) (s.table.stage? i)) {process : String}
    (ended : s'.table.answer? i = some (.error (.terminated process))) :
    s.table.answer? i = some (.error (.terminated process)) ∨ 0 < s.table.signals i := by
  unfold ProcessTable.answer? at ended ⊢
  cases h with
  | ask | miss => exact .inl ended
  | tell =>
    rw [table_tell, ProcessTable.stage?_signal] at ended
    exact .inl ended
  | reserve name =>
    rw [ProcessTable.stage?_reserve] at ended
    split at ended
    · cases ended
    · exact .inl ended
  | enter tty here =>
    rw [table_enter, ProcessTable.stage?_place here] at ended
    split at ended
    · cases ended
    · exact .inl ended
  | exit here own =>
    rw [ProcessTable.stage?_exit here] at ended
    split at ended
    · exact absurd (Option.some.inj ended) (own process)
    · exact .inl ended
  | @heed g name here woken =>
    rw [ProcessTable.stage?_terminated here] at ended
    split at ended
    · rename_i same
      subst same
      have one := balanced i
      rw [here] at one
      have one : s.unused i + s.table.signals i = 1 := one
      -- A run that nobody can tell any more has been told: its one token is used.
      omega
    · exact .inl ended
  | leave here =>
    rw [ProcessTable.stage?_leave here] at ended
    split at ended
    · rename_i same
      rw [same, here]
      exact .inl ended
    · exact .inl ended

/-- What a history knows of the tokens of a table. -/
structure Accounted (acts : List Act) (s : SharedTable) : Prop where
  led : ∀ name g, s.table.leads name = some g →
    .entered g name ∈ acts ∧ ¬ Replaced acts name g
  entered : ∀ name g, .entered g name ∈ acts → s.table.Entered name g
  held : ∀ token ∈ s.held, (course token).Sublist acts
  told : ∀ token, .told token ∈ acts → (.told token :: course token).Sublist acts
  signals : ∀ g, s.table.signals g = acts.countP (Act.tells g)
  terminated : ∀ g process, s.table.answer? g = some (.error (.terminated process)) →
    0 < s.table.signals g

theorem Accounted.under (accounted : Accounted acts s) (rests : s.table.rests name = some g) :
    [.entered g name].Sublist acts :=
  List.singleton_sublist.2 (accounted.led name g (ProcessTable.leads_of_rests rests)).1

theorem Step.held (h : Step s act s') (accounted : Accounted acts s) (token : Token)
    (mine : token ∈ s'.held) : (course token).Sublist (act :: acts) := by
  have old : token ∈ s.held → (course token).Sublist (act :: acts) :=
    fun mine => (accounted.held token mine).cons act
  cases h with
  | reserve | exit | heed | leave => exact old mine
  | tell | miss => exact old (List.mem_of_mem_erase mine)
  | enter =>
    rcases List.mem_append.1 mine with new | mine
    · obtain ⟨name, taker, rests⟩ := mem_found new
      rw [course, taking, taker, name]
      exact (accounted.under rests).cons_cons _
    · exact old mine
  | ask =>
    rcases List.mem_append.1 mine with new | mine
    · obtain ⟨name, taker, rests⟩ := mem_found new
      rw [course, taking, taker, name, rests]
      exact (accounted.under rests).cons_cons _
    · exact old mine

theorem Step.told (h : Step s act s') (accounted : Accounted acts s) (token : Token)
    (told : .told token ∈ act :: acts) : (.told token :: course token).Sublist (act :: acts) := by
  rcases List.mem_cons.1 told with rfl | old
  · cases h with
    | tell mine => exact (accounted.held token mine).cons_cons _
  · exact (accounted.told token old).cons act

theorem Step.led (h : Step s act s') (accounted : Accounted acts s) (name : String) (g : Nat)
    (leads : s'.table.leads name = some g) :
    .entered g name ∈ act :: acts ∧ ¬ Replaced (act :: acts) name g := by
  rcases h.leads name g leads with rfl | ⟨before, other⟩
  · refine ⟨List.mem_cons_self, fun ⟨i, replaced⟩ => ?_⟩
    -- The run has only got its number, so nothing says that it was entered before.
    have new : .entered g name ∉ acts := fun old => by
      obtain ⟨_, stage, entered⟩ := accounted.entered name g old
      cases h with
      | enter tty here =>
        rw [here] at stage
        cases stage
        exact entered rfl
    cases replaced with
    | cons _ old => exact new (old.subset (List.mem_cons_of_mem _ List.mem_cons_self))
    | cons_cons _ first => exact new (List.singleton_sublist.1 first)
  · obtain ⟨old, last⟩ := accounted.led name g before
    exact ⟨List.mem_cons_of_mem _ old, fun replaced => last (replaced.of_cons other)⟩

theorem Step.accounted (h : Step s act s') (accounted : Accounted acts s)
    (balanced : ∀ i, Balanced (s.tokens i) (s.table.stage? i)) : Accounted (act :: acts) s' where
  led := h.led accounted
  held := h.held accounted
  told := h.told accounted
  entered name g old := by
    rcases List.mem_cons.1 old with rfl | old
    · cases h with
      | enter tty here =>
        refine ⟨.inFlight, ?_, nofun⟩
        rw [table_enter, ProcessTable.stage?_place here, if_pos rfl]
    · exact h.entered (accounted.entered name g old)
  signals g := by
    rw [h.signals (fun _ => held_bound balanced) g, accounted.signals, List.countP_cons]
  terminated g process ended := by
    rw [h.signals (fun _ => held_bound balanced) g]
    have told := (h.terminated balanced ended).elim (accounted.terminated g process) id
    exact Nat.lt_of_lt_of_le told (Nat.le_add_right ..)

theorem Steps.accounted (h : Steps acts s) : Accounted acts s := by
  induction h with
  | none => exact ⟨nofun, nofun, nofun, nofun, fun _ => rfl, nofun⟩
  | more earlier step ih => exact step.accounted ih earlier.balanced

/-! ## Whole calls -/

/-- Whoever has found a token uses it at once. -/
theorem Steps.use {table before : ProcessTable} {held : List Token}
    (h : Steps acts { table, held := before.found name taker ++ held }) :
    Steps ((before.found name taker).map .told ++ acts)
      { table := table.tell (before.rests name), held } := by
  cases rests : before.rests name with
  | none =>
    rw [ProcessTable.found, rests] at h ⊢
    exact h
  | some g =>
    rw [ProcessTable.found, rests] at h ⊢
    have mine : (⟨name, g, taker⟩ : Token) ∈ ⟨name, g, taker⟩ :: held := List.mem_cons_self
    have told := h.more (.tell mine)
    have empty : (⟨name, g, taker⟩ :: held).erase ⟨name, g, taker⟩ = held := List.erase_cons_head ..
    rw [← empty]
    exact told

/-- A call that stops a name is its two halves in a row. -/
theorem Steps.stop (h : Steps acts s) (name : String) :
    Steps ((s.table.found name .stop).map .told ++ .asked name (s.table.rests name) :: acts)
      { s with table := (s.table.stop name).1 } := by
  rw [ProcessTable.stop_eq]
  exact (h.more (.ask name)).use

/-- The call answers what its last half does. -/
theorem answer_stop (t : ProcessTable) (name : String) :
    ((t.found name .stop).map Act.told ++ [Act.asked name (t.rests name)]).head?.bind Act.answer? =
      some (t.stop name).2 := by
  rw [ProcessTable.stop_eq, ProcessTable.found]
  cases t.rests name <;> rfl

theorem answer_told {token : Token} (stopped : token.taker = .stop) :
    (Act.told token).answer? = some true := by
  obtain ⟨name, g, taker⟩ := token
  cases stopped
  rfl

/-- The entry of a run is its two halves in a row. -/
theorem Steps.enter (h : Steps acts s) (tty : Bool)
    (here : s.table.stage? g = some (name, .reserved)) :
    Steps ((s.table.found name (.successor g)).map .told ++ .entered g name :: acts)
      { s with table := s.table.enter g tty } := by
  rw [ProcessTable.enter_eq here]
  exact (h.more (.enter tty here)).use

/-- A run that has been told does as it was told. -/
theorem Steps.heed (h : Steps acts s) (here : s.table.stage? g = some (name, .inFlight))
    (told : 0 < s.table.signals g) :
    Steps (.ended g :: acts) { s with table := s.table.heed g } := by
  rw [ProcessTable.heed_eq told]
  exact h.more (.heed here (.inl told))

/-- The operations of a workshop are whole calls, so its table is one that a history leads to, and
nobody holds a token. -/
theorem lasting_steps : ProcessTable.Lasting fun t => ∃ acts, Steps acts { table := t } where
  start := by
    rintro t name tty ⟨acts, steps⟩
    have here : (t.reserve name).1.stage? t.runs.length = some (name, .reserved) := by
      rw [ProcessTable.stage?_reserve, if_pos rfl]
    exact ⟨_, (steps.more (.reserve name)).enter tty here⟩
  stop := fun name ⟨_, steps⟩ => ⟨_, steps.stop name⟩
  heed := by
    rintro t g name here told ⟨acts, steps⟩
    have gone := ProcessTable.stage?_heed (i := g) here told
    rw [if_pos rfl] at gone
    exact ⟨_, (steps.heed here told).more (.leave gone)⟩
  exit := by
    rintro t g name code here ⟨acts, steps⟩
    have gone := ProcessTable.stage?_exit (i := g) here (.ok code)
    rw [if_pos rfl] at gone
    have ended := steps.more (@Step.exit _ g name (.ok code) here nofun)
    exact ⟨_, ended.more (.leave gone)⟩

/-! ## The token of one run -/

/-- What is true of the token of a run after some acts. -/
structure ToldOnce (acts : List Act) (s : SharedTable) (g : Nat) : Prop where
  counted : s.table.signals g = acts.countP (Act.tells g)
  once : s.table.signals g ≤ 1
  /-- Whoever told the run had stopped the name it was entered under, and is answered so, or had
  entered another run under that name later. -/
  caused : ∀ token, .told token ∈ acts → token.generation = g →
    (.told token :: course token).Sublist acts ∧
      (token.taker = .stop → (Act.told token).answer? = some true)
  /-- The token of a run in flight is not lost. -/
  kept : ∀ name, s.table.stage? g = some (name, .inFlight) → s.table.signals g = 0 →
    s.table.rests name = some g ∨ ∃ token ∈ s.held, token.generation = g
  untold : s.table.signals g = 0 → ∀ process,
    s.table.answer? g ≠ some (.error (.terminated process))
  replaced : ∀ name, s.table.stage? g = some (name, .inFlight) → Replaced acts name g →
    s.table.signals g = 1 ∨ ∃ token ∈ s.held, token.generation = g
  /-- Nobody is in the middle of a call: a run in flight that has lost its name has been told, and
  any other can still be told by its name. -/
  settled : s.held = [] → ∀ name, s.table.stage? g = some (name, .inFlight) →
    (Replaced acts name g → s.table.signals g = 1) ∧
      (s.table.signals g = 0 →
        (s.table.stop name).2 = true ∧ (s.table.stop name).1.signals g = 1)

theorem Balanced.le_one {n : Nat} {stage : Option (String × Phase)} (balanced : Balanced n stage) :
    n ≤ 1 := by
  unfold Balanced at balanced
  split at balanced <;> omega

theorem exists_of_inHand (some : 0 < s.inHand g) : ∃ token ∈ s.held, token.generation = g := by
  obtain ⟨token, mine, same⟩ := List.countP_pos_iff.1 some
  exact ⟨token, mine, of_decide_eq_true same⟩

section InFlight

variable (h : Steps acts s) (here : s.table.stage? g = some (name, .inFlight))
include h here

/-- A run in flight has been told, or its token rests under its name or is in somebody's hand. -/
theorem Steps.whereabouts : s.table.signals g = 1 ∨ s.table.signals g = 0 ∧
    (s.table.rests name = some g ∨ ∃ token ∈ s.held, token.generation = g) := by
  have one := h.balanced g
  rw [here] at one
  have one : s.table.resting g + s.inHand g + s.table.signals g = 1 := one
  rw [ProcessTable.resting_eq here] at one
  split at one
  · rename_i rests
    exact .inr ⟨by omega, .inl rests⟩
  · by_cases told : s.table.signals g = 0
    · exact .inr ⟨told, .inr (exists_of_inHand (by omega))⟩
    · exact .inl (by omega)

theorem Steps.replaced (replaced : Replaced acts name g) :
    s.table.signals g = 1 ∨ ∃ token ∈ s.held, token.generation = g := by
  rcases h.whereabouts here with told | ⟨-, rests | held⟩
  · exact .inl told
  · have led := h.accounted.led name g (ProcessTable.leads_of_rests rests)
    exact absurd replaced led.2
  · exact .inr held

theorem Steps.stoppable (idle : s.held = []) (untold : s.table.signals g = 0) :
    (s.table.stop name).2 = true ∧ (s.table.stop name).1.signals g = 1 := by
  rcases h.whereabouts here with told | ⟨-, rests | ⟨token, mine, -⟩⟩
  · omega
  · rw [ProcessTable.stop_eq, rests]
    refine ⟨rfl, ?_⟩
    have bound := ProcessTable.lt_of_stage? here
    have told := ProcessTable.signals_signal_self (t := s.table.take name) bound
    rw [ProcessTable.signals_take, untold] at told
    exact told
  · rw [idle] at mine
    cases mine

end InFlight

/-- **A run is told to stop at most once, and never without cause.** Whatever is done to a process
table, in whatever order the halves of calls come, every run is told at most once: by a call that
stopped its name, which then answers so, or by the entry of a later run under its name. Its token is
not lost as long as it is in flight, so a run that nobody has told does not end as one that was told.
A run in flight that has lost its name to another has been told or is about to be, and once no call is
half done, it has been told. -/
theorem told_once (h : Steps acts s) (g : Nat) : ToldOnce acts s g where
  counted := h.accounted.signals g
  once := Nat.le_trans (Nat.le_add_left ..) (h.balanced g).le_one
  caused token told _ := ⟨h.accounted.told token told, answer_told⟩
  kept name here untold := by
    rcases h.whereabouts here with told | ⟨-, there⟩
    · omega
    · exact there
  untold untold process ended := by
    have told := h.accounted.terminated g process ended
    omega
  replaced name here := h.replaced here
  settled idle name here := by
    refine ⟨fun replaced => ?_, h.stoppable here idle⟩
    rcases h.replaced here replaced with told | ⟨token, mine, -⟩
    · exact told
    · rw [idle] at mine
      cases mine

/-- A call takes the token of a run, the run loses its name before the call has used the token, and
the entry of its successor finds none. -/
theorem told_once_race : ∃ acts s, Steps acts s ∧ s.held = [] ∧ Replaced acts "web" 0 ∧
    s.table.stage? 0 = some ("web", .inFlight) ∧ s.table.signals 0 = 1 ∧
      acts.countP (Act.tells 0) = 1 ∧ s.table.rests "web" = some 1 := by
  have first := (Steps.none.more (.reserve "web")).more (@Step.enter _ 0 "web" false rfl)
  have asked := first.more (.ask "web")
  have second := (asked.more (.reserve "web")).more (@Step.enter _ 1 "web" false rfl)
  have told : Steps [.told ⟨"web", 0, .stop⟩, .entered 1 "web", .reserved 1 "web",
    .asked "web" (some 0), .entered 0 "web", .reserved 0 "web"] _ := second.more (.tell (by decide))
  have once := told_once told 0
  have signals := (once.settled rfl "web" rfl).1 ⟨1, by decide⟩
  exact ⟨_, _, told, rfl, ⟨1, by decide⟩, rfl, signals, once.counted.symm.trans signals, rfl⟩

end Supervisor.SharedTable
