import Supervisor.Proofs.Scheduler.Plant
import Supervisor.Proofs.Scheduler.Runs

/-!
# A blocking process has no namesake

Names of processes are identifiers of procedures, which are unique over a resolved manifest, so two
calls under one name are calls for one procedure. A launch that waits for a procedure has one call
for it, a procedure that is waited for is never sent aside, and there is one launch of its command
at most. Nothing is entered in the table under the name of such a call but the run of the call
itself, so its run is told to stop only by who stops it by name.
-/

namespace Supervisor

namespace Traffic

variable {m : Manifest} {s s' : Traffic} {p : Procedure} {now next : Progress} {dealing : Dealing}

def Progress.awaits (p : Procedure) : Progress → Bool
  | .awaiting q _ => q = p
  | .working _ | .announcing _ | .over _ => false

def Dealing.takes (p : Procedure) : Dealing → Bool
  | .takeUp q => q = p
  | .none | .hear .. | .sendAside _ => false

def Dealing.hears (p : Procedure) : Dealing → Bool
  | .hear q _ => q = p
  | .none | .takeUp _ | .sendAside _ => false

/-- How many launches wait for the procedure. -/
def waiting (s : Traffic) (p : Procedure) : Nat := s.runs.countP fun r => r.progress.awaits p

theorem awaits_resumed (q : Procedure) (rest : List Procedure) (answer : Except Fault Int) :
    (Progress.resumed q rest answer).awaits p = false := by
  unfold Progress.resumed
  split <;> rfl

theorem Progress.Deals.balance (deals : now.Deals dealing next) (p : Procedure) :
    (if next.awaits p then 1 else 0) + (if dealing.hears p then 1 else 0) =
      (if now.awaits p then 1 else 0) + if dealing.takes p then 1 else 0 := by
  cases deals with
  | takeUp => exact Nat.add_comm ..
  | hear q rest answer =>
    rw [awaits_resumed]
    exact Nat.add_comm ..
  | sendAside | stray | finish => rfl

theorem Progress.Deals.waiting {before after : List Run} {name : String}
    (deals : now.Deals dealing next) (here : s.runs = before ++ ⟨name, now⟩ :: after) (p : Procedure) :
    (before ++ ⟨name, next⟩ :: after).countP (fun r => r.progress.awaits p) +
      (if dealing.hears p then 1 else 0) = s.waiting p + if dealing.takes p then 1 else 0 := by
  have balance := deals.balance p
  rw [Traffic.waiting, here, countP_middle, countP_middle]
  dsimp only
  omega

/-- Who takes a turn without going on by itself waits for what it waited for. -/
theorem Step.waiting (step : Step m s s') (apart : ¬ s.Proceeds s') (p : Procedure) :
    s'.waiting p = s.waiting p := by
  have replace : ∀ {before after : List Run} {name : String} {now next : Progress},
      s.runs = before ++ ⟨name, now⟩ :: after → now.awaits p = false → next.awaits p = false →
      (before ++ ⟨name, next⟩ :: after).countP (fun r => r.progress.awaits p) = s.waiting p := by
    intro before after name now next here idle idle'
    rw [Traffic.waiting, here, countP_middle, countP_middle, idle, idle']
  cases step with
  | caller turn => cases turn <;> rfl
  | waiter turn => rw [Traffic.waiting, turn.quiet.runs, Traffic.waiting]
  | loop turn =>
    cases turn with
    | take | read | report | close => rfl
    | scan =>
      have begun : ∀ launches : List Queue.Launch,
          (launches.map begin).countP (fun r => r.progress.awaits p) = 0 := by
        intro launches
        rw [List.countP_map]
        exact List.countP_eq_zero.2 fun _ _ => Bool.false_ne_true
      simp only [Traffic.waiting]
      rw [List.countP_append, begun, Nat.add_zero]
  | run turn =>
    cases turn with
    | proceed before here goes => exact absurd ⟨before, _, _, _, _, here, goes, rfl⟩ apart
    | handOver _ here | refused _ here | announce _ here => exact replace here rfl rfl
    | finish _ here =>
      rw [Traffic.waiting, Traffic.waiting, here, countP_middle]
      rfl

/-- Launches that wait for a procedure are launches of its command. -/
theorem waiting_le_underway (validated : m.Validated) (carries : ∀ r ∈ s.runs, Carries m r)
    {name : String} {command : Command} (known : m.get? name = some command)
    (mem : p ∈ command.procedures) : s.waiting p ≤ s.underway name := by
  refine List.countP_mono_left fun r inside awaits => ?_
  obtain ⟨other, known', left⟩ := carries r inside
  obtain ⟨name', progress⟩ := r
  cases progress with
  | awaiting q rest =>
    obtain rfl : q = p := of_decide_eq_true awaits
    have there : q ∈ other.procedures := left.subset List.mem_cons_self
    have same := (validated.unique known known' mem there rfl).1
    exact decide_eq_true same.symm
  | _ => cases awaits

end Traffic

namespace Plant

open Traffic (Dealing Progress mem_middle countP_middle)

variable {m : Manifest} {first : Record} {s s' : Plant} {p : Procedure} {event : Event}
  {dealing : Dealing}

/-! ## One call for each launch that waits -/

/-- How many calls are in flight for the procedure. -/
def callsFor (s : Plant) (p : Procedure) : Nat := s.calls.countP fun c => c.procedure = p

theorem Begins.callsFor {q : Procedure} (h : s.Begins q event s') {request : ProcessRequest}
    (runs : p.action = .run request) : s'.callsFor p = s.callsFor p + if q = p then 1 else 0 := by
  cases h with
  | call =>
    rw [Plant.callsFor, Plant.callsFor, List.countP_append, List.countP_singleton]
    simp only [decide_eq_true_eq]
  | other none =>
    have apart : q ≠ p := fun same => none request (same ▸ runs)
    rw [if_neg apart, Nat.add_zero]

theorem Handles.callsFor (h : s.Handles dealing event s') {request : ProcessRequest}
    (runs : p.action = .run request) :
    s'.callsFor p + (if dealing.hears p then 1 else 0) =
      s.callsFor p + if dealing.takes p then 1 else 0 := by
  cases h with
  | none | sendAside => rfl
  | takeUp begins =>
    rw [begins.callsFor runs]
    simp only [Dealing.hears, Dealing.takes, decide_eq_true_eq, Bool.false_eq_true, if_false,
      Nat.add_zero]
  | returned before due =>
    rw [Plant.callsFor, Plant.callsFor, due, countP_middle]
    rfl
  | @answered q answer answers =>
    have apart : (Dealing.hear q answer).hears p = false := by
      refine decide_eq_false ?_
      rintro rfl
      rw [Answers, runs] at answers
      exact answers
    rw [apart]
    rfl

/-- A launch that waits for a process has a call in flight for it. -/
def Paired (s : Plant) : Prop := ∀ p request, p.wait.isBlocking = true → p.action = .run request →
  s.callsFor p = s.traffic.waiting p

theorem Step.paired (h : Step m s event s') (origin : Origin m s.asides s.calls) (paired : s.Paired) :
    s'.Paired := by
  intro p request blocking runs
  have before := paired p request blocking runs
  cases h with
  | turn step apart => exact before.trans (step.waiting apart p).symm
  | @proceed _ _ _ _ _ dealing _ _ here deals handles =>
    have calls : s'.callsFor p + (if dealing.hears p then 1 else 0) =
        s.callsFor p + if dealing.takes p then 1 else 0 := handles.callsFor runs
    have waits := deals.waiting here p
    rw [handles.same.1, Traffic.waiting]
    dsimp only
    omega
  | @aside _ _ q _ _ due begins =>
    have loose := (origin.asides q (due ▸ mem_middle.2 (.inl rfl))).2.2
    have apart : q ≠ p := by
      rintro rfl
      rw [blocking] at loose
      cases loose
    have calls := begins.callsFor runs
    rw [if_neg apart] at calls
    rw [begins.same.1]
    exact calls.trans before
  | @forget _ _ c _ due loose =>
    have apart : c.procedure ≠ p := by
      rintro rfl
      rw [blocking] at loose
      cases loose
    rw [Plant.callsFor, due, countP_middle, decide_eq_false apart] at before
    exact before
  | table turn =>
    rw [turn.same.1, ← before]
    cases turn with
    | start _ due =>
      rw [Plant.callsFor, Plant.callsFor, due, countP_middle, countP_middle]
    | enter | exit | heed | leave | stop => rfl

theorem Reachable.paired (h : Reachable m first s) : s.Paired := by
  induction h with
  | start => exact fun _ _ _ _ => rfl
  | next earlier step ih => exact step.paired earlier.origin ih

/-! ## Names in the table -/

/-- The run is in the table: it is in flight, or over and has not left. -/
def Entered : Phase → Prop
  | .inFlight | .over _ => True
  | .reserved | .left _ => False

/-- Numbers belong to calls, and a name in the table leads to the run of a call under that name. -/
structure Housed (calls : List Call) (table : ProcessTable) : Prop where
  numbered : ∀ c ∈ calls, ∀ n, c.number = some n → ∃ phase, table.stage? n = some (c.procedure.id, phase)
  distinct : (calls.filterMap Call.number).Nodup
  led : ∀ name n, table.leads name = some n → (∃ c ∈ calls, c.number = some n) ∧
    ∃ phase, table.stage? n = some (name, phase) ∧ Entered phase

section

variable {calls before after : List Call} {c : Call} {table table' : ProcessTable} {name : String}
  {n : Nat}

theorem Housed.called (housed : Housed calls table) (p : Procedure) :
    Housed (calls ++ [⟨p, none⟩]) table := by
  refine ⟨fun c mem n number => ?_, ?_, fun name n leads => ?_⟩
  · rcases List.mem_append.1 mem with old | new
    · exact housed.numbered c old n number
    · obtain rfl := List.mem_singleton.1 new
      cases number
  · rw [List.filterMap_append]
    simpa using housed.distinct
  · obtain ⟨⟨c, mem, number⟩, entered⟩ := housed.led name n leads
    exact ⟨⟨c, List.mem_append_left _ mem, number⟩, entered⟩

/-- A call that comes back has nothing leading to its run. -/
theorem Housed.returned (housed : Housed (before ++ c :: after) table) {answer : Except Fault Int}
    (returns : c.Returns table answer) : Housed (before ++ after) table := by
  refine ⟨fun d mem => housed.numbered d (mem_middle.2 (.inr mem)), ?_, fun name n leads => ?_⟩
  · have fewer : (before ++ after).Sublist (before ++ c :: after) :=
      List.Sublist.append_left (List.sublist_cons_self ..) _
    exact housed.distinct.sublist (fewer.filterMap _)
  · obtain ⟨⟨d, mem, number⟩, phase, stage, entered⟩ := housed.led name n leads
    refine ⟨⟨d, ?_, number⟩, phase, stage, entered⟩
    rcases mem_middle.1 mem with rfl | mem
    · rw [Call.Returns, number] at returns
      obtain ⟨_, left⟩ := returns
      rw [stage] at left
      cases left
      cases entered
    · exact mem

/-- A run whose name or way into the table does not change keeps its place. -/
theorem Housed.onward (housed : Housed calls table)
    (names : ∀ n name phase, table.stage? n = some (name, phase) → ∃ phase',
      table'.stage? n = some (name, phase'))
    (led : ∀ name n, table'.leads name = some n → table.leads name = some n ∧
      ∀ phase, table.stage? n = some (name, phase) → Entered phase →
        ∃ phase', table'.stage? n = some (name, phase') ∧ Entered phase') :
    Housed calls table' := by
  refine ⟨fun c mem n number => ?_, housed.distinct, fun name n leads => ?_⟩
  · obtain ⟨phase, stage⟩ := housed.numbered c mem n number
    exact names n _ phase stage
  · obtain ⟨before, keeps⟩ := led name n leads
    obtain ⟨caller, phase, stage, entered⟩ := housed.led name n before
    exact ⟨caller, keeps phase stage entered⟩

theorem Housed.finish (housed : Housed calls table) (result : Run → Option (Except Fault Int)) :
    Housed calls (table.finish n result) := by
  have stages := fun i => ProcessTable.stage?_finish (t := table) (g := n) (i := i) result
  refine housed.onward (fun i name phase stage => ?_) fun name i leads => ⟨leads, fun phase stage entered => ?_⟩
  · rcases stages i with same | ⟨-, name', answer, was, now⟩
    · exact ⟨phase, same.trans stage⟩
    · rw [stage] at was
      cases was
      exact ⟨_, now⟩
  · rcases stages i with same | ⟨-, name', answer, was, now⟩
    · exact ⟨phase, same.trans stage, entered⟩
    · rw [stage] at was
      cases was
      exact ⟨_, now, trivial⟩

theorem Housed.leave (housed : Housed calls table) : Housed calls (table.leave n) := by
  rcases ProcessTable.leave_cases (t := table) (g := n) with same | ⟨own, answer, gone, stages, leads', -⟩
  · rw [same]
    exact housed
  · refine housed.onward (fun i name phase stage => ?_) fun name i leads => ?_
    · rw [stages]
      by_cases same : i = n
      · subst same
        rw [gone] at stage
        cases stage
        exact ⟨_, if_pos rfl⟩
      · exact ⟨phase, (if_neg same).trans stage⟩
    · rw [leads'] at leads
      split at leads
      · cases leads
      · rename_i stays
        refine ⟨leads, fun phase stage entered => ⟨phase, ?_, entered⟩⟩
        have other : i ≠ n := by
          rintro rfl
          rw [gone] at stage
          cases stage
          exact stays ⟨rfl, leads⟩
        rw [stages, if_neg other]
        exact stage

theorem Housed.stop (housed : Housed calls table) : Housed calls (table.stop name).1 := by
  refine housed.onward (fun i own phase stage => ?_) fun other i leads => ?_
  · exact ⟨phase, ProcessTable.stage?_stop.trans stage⟩
  · rw [ProcessTable.leads_stop] at leads
    exact ⟨leads, fun phase stage entered => ⟨phase, ProcessTable.stage?_stop.trans stage, entered⟩⟩

theorem Housed.enter {tty : Bool} (housed : Housed calls table) (mem : c ∈ calls)
    (number : c.number = some n) (reserved : table.stage? n = some (name, .reserved)) :
    Housed calls (table.enter n tty) := by
  refine ⟨fun d mem' i number' => ?_, housed.distinct, fun other i leads => ?_⟩
  · obtain ⟨phase, stage⟩ := housed.numbered d mem' i number'
    rw [ProcessTable.stage?_enter reserved]
    by_cases same : i = n
    · subst same
      rw [reserved] at stage
      cases stage
      exact ⟨_, if_pos rfl⟩
    · exact ⟨phase, (if_neg same).trans stage⟩
  · rw [ProcessTable.leads_enter reserved] at leads
    rw [ProcessTable.stage?_enter reserved]
    split at leads
    · rename_i same
      cases leads
      exact ⟨⟨c, mem, number⟩, .inFlight, by rw [if_pos rfl, same], trivial⟩
    · obtain ⟨caller, phase, stage, entered⟩ := housed.led other i leads
      have apart : i ≠ n := by
        rintro rfl
        rw [reserved] at stage
        cases stage
        cases entered
      exact ⟨caller, phase, (if_neg apart).trans stage, entered⟩

theorem Housed.start {p : Procedure} (housed : Housed (before ++ ⟨p, none⟩ :: after) table) :
    Housed (before ++ ⟨p, some (table.reserve p.id).2⟩ :: after) (table.reserve p.id).1 := by
  have old : ∀ {i name phase}, table.stage? i = some (name, phase) →
      (table.reserve p.id).1.stage? i = some (name, phase) := by
    intro i name phase stage
    have lt := ProcessTable.lt_of_stage? stage
    rw [ProcessTable.stage?_reserve, if_neg (Nat.ne_of_lt lt)]
    exact stage
  refine ⟨fun c mem n number => ?_, ?_, fun name n leads => ?_⟩
  · rcases mem_middle.1 mem with rfl | mem
    · cases number
      exact ⟨.reserved, by rw [ProcessTable.stage?_reserve, ProcessTable.reserve, if_pos rfl]⟩
    · obtain ⟨phase, stage⟩ := housed.numbered c (mem_middle.2 (.inr mem)) n number
      exact ⟨phase, old stage⟩
  · have distinct := housed.distinct
    rw [List.filterMap_append, List.filterMap_cons] at distinct ⊢
    refine List.nodup_middle.2 (List.nodup_cons.2 ⟨fun taken => ?_, distinct⟩)
    rw [← List.filterMap_append] at taken
    obtain ⟨c, mem, number⟩ := List.mem_filterMap.1 taken
    obtain ⟨phase, stage⟩ := housed.numbered c (mem_middle.2 (.inr mem)) _ number
    exact Nat.lt_irrefl _ (ProcessTable.lt_of_stage? stage)
  · obtain ⟨⟨c, mem, number⟩, phase, stage, entered⟩ := housed.led name n leads
    refine ⟨⟨c, ?_, number⟩, phase, old stage, entered⟩
    rcases mem_middle.1 mem with rfl | mem
    · cases number
    · exact mem_middle.2 (.inr mem)

end

theorem Begins.housed (h : s.Begins p event s') (housed : Housed s.calls s.table) :
    Housed s'.calls s'.table := by
  cases h with
  | call => exact housed.called p
  | other => exact housed

theorem Step.housed (h : Step m s event s') (housed : Housed s.calls s.table) :
    Housed s'.calls s'.table := by
  cases h with
  | turn => exact housed
  | aside _ _ begins => exact begins.housed housed
  | forget _ due _ returns =>
    rw [due] at housed
    exact housed.returned returns
  | proceed _ _ _ handles =>
    cases handles with
    | none | sendAside | answered => exact housed
    | takeUp begins => exact begins.housed housed
    | returned _ due returns =>
      rw [show s.calls = _ from due] at housed
      exact housed.returned returns
  | table turn =>
    cases turn with
    | start _ due =>
      rw [due] at housed
      exact housed.start
    | enter mem number reserved => exact housed.enter mem number reserved
    | exit | heed => exact housed.finish _
    | leave => exact housed.leave
    | stop => exact housed.stop

theorem Reachable.housed (h : Reachable m first s) : Housed s.calls s.table := by
  induction h with
  | start =>
    refine ⟨fun _ mem => ?_, List.nodup_nil, fun _ _ leads => ?_⟩
    · cases mem
    · cases leads
  | next _ step ih => exact step.housed ih

/-! ## The only call under its name -/

/-- A call that a launch waits for is the only one for its procedure, and under its name. -/
theorem Reachable.only_call (h : Reachable m first s) (validated : m.Validated) {c : Call}
    (mem : c ∈ s.calls) (blocking : c.procedure.wait.isBlocking = true) :
    s.calls.countP (fun d => d.procedure.id = c.procedure.id) = 1 := by
  obtain ⟨⟨name, command, known, held⟩, request, runs⟩ := h.origin.calls c mem
  have same : s.calls.countP (fun d => d.procedure.id = c.procedure.id) = s.callsFor c.procedure := by
    refine List.countP_congr fun d mem' => ?_
    obtain ⟨⟨name', command', known', held'⟩, -⟩ := h.origin.calls d mem'
    simp only [decide_eq_true_eq]
    constructor
    · exact fun ids => (validated.unique known' known held' held ids).2
    · exact fun procedures => congrArg Procedure.id procedures
  have waits := h.paired c.procedure request blocking runs
  have launches := Traffic.waiting_le_underway validated h.traffic.carries known held
  have some : 0 < s.callsFor c.procedure := List.countP_pos_iff.2 ⟨c, mem, decide_eq_true rfl⟩
  have most : s.traffic.underway name ≤ 1 := by
    rw [h.traffic.matched name, Queue.runCount_get?]
    split <;> omega
  omega

theorem name_of_run {request : ProcessRequest} (runs : p.action = .run request) :
    request.name = p.id := by
  unfold Procedure.action at runs
  split at runs <;> cases runs <;> rfl

/-- Whose run is told to stop in a step: one that somebody stops by name, or one whose name another
run takes. -/
theorem Step.signals (h : Step m s event s') (n : Nat) :
    s'.table.signals n = s.table.signals n ∨
    (∃ name, event = .stopped name ∧ s.table.leads name = some n) ∨
    ∃ c ∈ s.calls, ∃ number name, c.number = some number ∧
      s.table.stage? number = some (name, .reserved) ∧ s.table.leads name = some n := by
  cases h with
  | turn | forget => exact .inl rfl
  | aside _ _ begins => exact .inl (by rw [begins.same.2.2])
  | proceed _ _ _ handles => exact .inl (by rw [handles.same.2])
  | table turn =>
    cases turn with
    | start => exact .inl ProcessTable.signals_reserve
    | exit | heed => exact .inl (ProcessTable.signals_finish _)
    | leave number =>
      rcases ProcessTable.leave_cases (t := s.table) (g := number) with same | ⟨_, _, _, _, _, signals⟩
      · exact .inl (by rw [same])
      · exact .inl (signals n)
    | stop name =>
      by_cases leads : s.table.leads name = some n
      · exact .inr (.inl ⟨name, rfl, leads⟩)
      · exact .inl (ProcessTable.signals_stop leads)
    | @enter c number name _ mem numbered reserved =>
      by_cases leads : s.table.leads name = some n
      · exact .inr (.inr ⟨c, mem, number, name, numbered, reserved, leads⟩)
      · exact .inl (ProcessTable.signals_enter reserved leads)

theorem eq_of_countP_eq_one {α : Type} {P : α → Bool} {l : List α} (one : l.countP P = 1) {a b : α}
    (ha : a ∈ l) (hb : b ∈ l) (pa : P a = true) (pb : P b = true) : a = b := by
  rw [List.countP_eq_length_filter] at one
  obtain ⟨x, only⟩ := List.length_eq_one_iff.1 one
  have here : a ∈ l.filter P := List.mem_filter.2 ⟨ha, pa⟩
  have there : b ∈ l.filter P := List.mem_filter.2 ⟨hb, pb⟩
  rw [only, List.mem_singleton] at here there
  exact here.trans there.symm

/-- **A blocking process is never replaced by a namesake.** While a call that a launch waits for is in
flight, no other call is in flight under its name, none is made, and only who stops it by its name
makes its run stop. -/
theorem blocking_process_alone (validated : m.Validated) (h : Reachable m first s) {c : Call}
    (mem : c ∈ s.calls) (blocking : c.procedure.wait.isBlocking = true) :
    s.calls.countP (fun d => d.procedure.id = c.procedure.id) = 1 ∧
    ∀ event s', Step m s event s' →
      (∀ request, event = .called request → request.name ≠ c.procedure.id) ∧
      ∀ n, c.number = some n → s'.table.signals n ≠ s.table.signals n →
        event = .stopped c.procedure.id := by
  have alone := h.only_call validated mem blocking
  refine ⟨alone, fun event s' step => ⟨?_, ?_⟩⟩
  · rintro request rfl same
    obtain ⟨p, runs, calls⟩ := step.called
    have still : c ∈ s'.calls := calls ▸ List.mem_append_left _ mem
    have one := (h.next step).only_call validated still blocking
    have named : p.id = c.procedure.id := (name_of_run runs).symm.trans same
    rw [calls, List.countP_append, alone, List.countP_singleton, if_pos (decide_eq_true named)] at one
    cases one
  · intro n number told
    obtain ⟨phase, own⟩ := h.housed.numbered c mem n number
    rcases step.signals n with same | ⟨name, rfl, leads⟩ | ⟨d, mem', number', name, numbered, reserved, leads⟩
    · exact absurd same told
    · obtain ⟨-, phase', stage, -⟩ := h.housed.led name n leads
      rw [own] at stage
      cases stage
      rfl
    · obtain ⟨-, phase', stage, entered⟩ := h.housed.led name n leads
      obtain ⟨phase'', stage'⟩ := h.housed.numbered d mem' number' numbered
      -- the run that takes the name would be that of the call itself, which is in the table already
      have ids : d.procedure.id = c.procedure.id := by
        have entering := Prod.mk.inj (Option.some.inj (reserved.symm.trans stage'))
        have leading := Prod.mk.inj (Option.some.inj (own.symm.trans stage))
        exact entering.1.symm.trans leading.1.symm
      have same := eq_of_countP_eq_one alone mem' mem (decide_eq_true ids) (decide_eq_true rfl)
      subst same
      obtain rfl := Option.some.inj (numbered.symm.trans number)
      rw [reserved] at stage
      cases stage
      cases entered

/-! ## A server and its log -/

/-- Follows a log; nothing waits for it. -/
def tail : Procedure := ⟨"web.0", .exec, .argv ["tail", "log"], .said false, true⟩
def server : Procedure := ⟨"server", .execTty, .argv ["serve"], .unsaid, false⟩

/-- A server that starts again by itself, and tells what happens. -/
def web : Manifest := ⟨"m", none, none, .ofList [("web", ⟨"web", .restart, [], [tail, server]⟩)]⟩

def webDraft : Manifest.Draft := ⟨"m", none, none, .ofList [("web", ⟨.restart, [],
  [⟨"exec", some (.array [.text "tail", .text "log"]), some (.boolean false), none, true⟩,
    ⟨"exec-tty", some (.array [.text "serve"]), none, some "server", false⟩]⟩)]⟩

theorem web_validated : web.Validated := by
  have placed : webDraft.needs.misplaced? = none :=
    Manifest.Needs.misplaced_none_of_rank ["web"].idxOf (by decide +kernel)
  refine ⟨webDraft, ?_⟩
  rw [Manifest.Draft.resolve, placed]
  decide +kernel

theorem returns_of_left {p : Procedure} {n : Nat} {table : ProcessTable} {name : String}
    {answer : Except Fault Int} (left : table.stage? n = some (name, .left answer)) :
    Call.Returns ⟨p, some n⟩ table answer := ⟨name, left⟩

/-- The server has been launched twice and runs; what it sent aside the first time runs as well, and has
been sent aside again. -/
theorem reachable_web : ∃ s, Reachable web {} s ∧
    s.calls = [⟨tail, some 0⟩, ⟨server, some 2⟩, ⟨tail, some 3⟩] := by
  have asked : Reachable web {} _ :=
    .next .start (.turn (.caller (.enqueue "web" false rfl)) (apart_of_moved (.inr (by decide))))
  have told := asked.next (.turn (.caller (.signal [] rfl)) (apart_of_moved (.inr (by decide))))
  have taken := told.next (.turn (.loop .take) (apart_of_moved (.inl (by decide))))
  have begun := taken.next (.turn (.loop .scan) (apart_of_moved (.inl (by decide))))
  have sent := begun.next (.proceed [] rfl (.sendAside rfl) (.sendAside _))
  have tailed := sent.next (.aside [] rfl (.call rfl))
  have first := tailed.next (.table (.start [] rfl))
  have tailing := first.next (.table (.enter List.mem_cons_self rfl rfl rfl))
  have called := tailing.next (.proceed [] rfl (.takeUp rfl) (.takeUp (.call rfl)))
  have second := called.next (.table (.start [_] rfl))
  have serving := second.next (.table (.enter (List.mem_cons_of_mem _ List.mem_cons_self) rfl rfl rfl))
  have ended := serving.next (.table (.exit 1 0))
  have left := ended.next (.table (.leave 1))
  have heard := left.next (.proceed [] rfl (.hear server [] (.ok 0)) (.returned [_] rfl (returns_of_left rfl)))
  have finished := heard.next (.proceed [] rfl (.finish rfl) .none)
  have noted := finished.next (.turn (.run (.finish [] rfl)) (apart_of_moved (.inr (by decide))))
  have due := noted.next (.turn (.caller (.signal [] rfl)) (apart_of_moved (.inr (by decide))))
  have read := due.next (.turn (.loop .read) (apart_of_moved (.inl (by decide))))
  have idle := read.next (.turn (.loop .report) (apart_of_moved (.inl (by decide))))
  have retaken := idle.next (.turn (.loop .take) (apart_of_moved (.inl (by decide))))
  have again := retaken.next (.turn (.loop .scan) (apart_of_moved (.inl (by decide))))
  have resent := again.next (.proceed [] rfl (.sendAside rfl) (.sendAside _))
  have recalled := resent.next (.proceed [] rfl (.takeUp rfl) (.takeUp (.call rfl)))
  have third := recalled.next (.table (.start [_] rfl))
  have reserving := third.next
    (.table (.enter (List.mem_cons_of_mem _ List.mem_cons_self) rfl rfl rfl))
  have retailed := reserving.next (.aside [] rfl (.call rfl))
  have fourth := retailed.next (.table (.start [_, _] rfl))
  exact ⟨_, fourth, rfl⟩

/-- The log is followed twice under one name; the server has its name to itself. -/
theorem blocking_process_alone_web : ∃ s, Reachable web {} s ∧ ⟨server, some 2⟩ ∈ s.calls ∧
    s.calls.countP (fun d => d.procedure.id = "web.0") = 2 ∧
    s.calls.countP (fun d => d.procedure.id = "server") = 1 ∧
    ∀ event s', Step web s event s' → s'.table.signals 2 ≠ s.table.signals 2 →
      event = .stopped "server" := by
  obtain ⟨s, reachable, calls⟩ := reachable_web
  have mem : ⟨server, some 2⟩ ∈ s.calls := by simp [calls]
  obtain ⟨alone, steps⟩ := blocking_process_alone web_validated reachable mem rfl
  refine ⟨s, reachable, mem, ?_, alone, fun event s' step => (steps event s' step).2 2 rfl⟩
  rw [calls]
  decide

end Plant

end Supervisor
