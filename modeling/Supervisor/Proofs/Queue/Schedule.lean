import Mathlib.Algebra.Order.BigOperators.Group.Finset
import Mathlib.Data.Set.Card
import Supervisor.Proofs.Queue.Rest
import Supervisor.Queue.Drive

/-!
# Schedules

Commands are asked for in an empty queue; then scans and ends of launches follow in any order, where
it is known of each command whether it fails. `Underway` is what every such schedule keeps true, and
counting what is left to do of each command bounds the scans that find something to do and leads every
schedule to rest. Where it comes to rest is the business of the next module.
-/

namespace Supervisor.Queue

open Relation (ReflTransGen TransGen)

variable {m : Manifest} {fails : String → Bool} {roots : List (String × Bool)} {q q' q₀ : Queue}
  {name need : String} {e : Entry} {acts : List Act}

/-- Ask for commands, one after another. -/
def askAll (m : Manifest) (q : Queue) : List (String × Bool) → Except Fault Queue
  | [] => .ok q
  | root :: rest => (q.enqueue m root.1 root.2).bind fun answer => askAll m answer.1 rest

/-- Scans and ends of launches, the latest first. -/
inductive Schedule (m : Manifest) (fails : String → Bool) (q₀ : Queue) : List Act → Queue → Prop
  | none : Schedule m fails q₀ [] q₀
  | scan {past : List Act} {q : Queue} (earlier : Schedule m fails q₀ past q) :
      Schedule m fails q₀ (.scanned (q.scan m).2 :: past) (q.scan m).1
  | complete {past : List Act} {q : Queue} (earlier : Schedule m fails q₀ past q) (name : String)
      (running : q.statusOf name = some .running) :
      Schedule m fails q₀
        (.ended name (outcome fails name) (q.complete name (outcome fails name)).2 :: past)
        (q.complete name (outcome fails name)).1

/-- A scan that found something to do. -/
def Act.isBusy : Act → Bool
  | scanned pass => !pass.isIdle
  | _ => false

/-- The commands asked for and all that their needs lead to. -/
def Wanted (m : Manifest) (roots : List (String × Bool)) : Set String :=
  {name | ∃ root ∈ roots, ReflTransGen m.Requires root.1 name}

/-- Known commands are asked for, each once, and none that is wanted is a `restart` command. -/
structure Orderly (m : Manifest) (roots : List (String × Bool)) : Prop where
  distinct : (roots.map Prod.fst).Nodup
  known : ∀ root ∈ roots, ∃ command, m.get? root.1 = some command
  lasting : ∀ name ∈ Wanted m roots, ∀ command, m.get? name = some command →
    command.policy ≠ .restart

/-- What a schedule makes of an entry: it is launched at most once, after its needs are done, and ends
as it is known to. -/
structure Entry.Fair (q : Queue) (fails : String → Bool) (name : String) (e : Entry) : Prop where
  launches : e.launches = if e.status = .waiting then 0 else 1
  ready : e.status ≠ .waiting → q.isReady e = true
  done : e.status = .done → fails name = false
  error : e.status = .error → fails name = true

/-- What every schedule keeps true. -/
structure Underway (m : Manifest) (roots : List (String × Bool)) (fails : String → Bool)
    (q : Queue) : Prop where
  sound : Sound m q
  asked : ∀ root ∈ roots, ∃ e, q.get? root.1 = some e
  wanted : ∀ name e, q.get? name = some e → name ∈ Wanted m roots
  fair : ∀ name e, q.get? name = some e → e.Fair q fails name

theorem Entry.fair_waiting (waits : e.status = .waiting) (none : e.launches = 0) :
    e.Fair q fails name := by
  refine ⟨?_, fun began => absurd waits began, fun done => ?_, fun error => ?_⟩
  · rw [none, if_pos waits]
  · rw [waits] at done
    cases done
  · rw [waits] at error
    cases error

theorem isReady_mono (kept : ∀ name, q.statusOf name = some .done → q'.statusOf name = some .done)
    (ready : q.isReady e = true) : q'.isReady e = true :=
  isReady_iff.2 fun need mem => kept need (isReady_iff.1 ready need mem)

theorem Entry.Fair.mono (fair : e.Fair q fails name)
    (kept : ∀ name, q.statusOf name = some .done → q'.statusOf name = some .done) :
    e.Fair q' fails name :=
  ⟨fair.launches, fun began => isReady_mono kept (fair.ready began), fair.done, fair.error⟩

theorem Entry.Fair.launched (fair : e.Fair q fails name) (waits : e.status = .waiting)
    (ready : q.isReady e = true) : e.launched.Fair q fails name := by
  have none : e.launches = 0 := by rw [fair.launches, if_pos waits]
  refine ⟨?_, fun _ => ready, fun done => ?_, fun error => ?_⟩
  · rw [Entry.launched, none]
    rfl
  · cases done
  · cases error

theorem Entry.Fair.ended (fair : e.Fair q fails name) (running : e.status = .running)
    (lasting : e.command.policy ≠ .restart) :
    Entry.Fair q fails name { e with status := endedStatus e.command (outcome fails name) } := by
  have began : e.status ≠ .waiting := by rw [running]; decide
  have once : e.launches = 1 := by rw [fair.launches, if_neg began]
  have ready : q.isReady e = true := fair.ready began
  cases hf : fails name with
  | true =>
    have ended : endedStatus e.command (outcome fails name) = .error := by
      rw [outcome, hf]
      rfl
    rw [ended]
    exact ⟨once, fun _ => ready, fun done => (by cases done), fun _ => hf⟩
  | false =>
    have ended : endedStatus e.command (outcome fails name) = .done := by
      rw [outcome, hf]
      exact if_neg lasting
    rw [ended]
    exact ⟨once, fun _ => ready, fun _ => hf, fun error => (by cases error)⟩

theorem Schedule.append {past acts : List Act} (h₁ : Schedule m fails q₀ past q)
    (h₂ : Schedule m fails q acts q') : Schedule m fails q₀ (acts ++ past) q' := by
  induction h₂ with
  | none => exact h₁
  | scan _ ih => exact .scan ih
  | complete _ name running ih => exact .complete ih name running

/-- A schedule is a history of the queue. -/
theorem Schedule.steps (h : Schedule m fails q₀ acts q) : Steps m q₀ acts q := by
  induction h with
  | none => exact .none
  | scan _ ih => exact .more ih .scan
  | complete _ name running ih => exact .more ih (.complete name _ running)

/-! ## Asking -/

theorem get?_askAll (distinct : (roots.map Prod.fst).Nodup)
    (known : ∀ root ∈ roots, ∃ command, m.get? root.1 = some command)
    (new : ∀ root ∈ roots, q.get? root.1 = none) :
    ∃ q', askAll m q roots = .ok q' ∧ ∀ name, q'.get? name =
      ((NameMap.lookup name roots).bind fun persist => neededEntry m persist name).or
        (q.get? name) := by
  induction roots generalizing q with
  | nil => exact ⟨q, rfl, fun _ => rfl⟩
  | cons root rest ih =>
    rw [List.map_cons, List.nodup_cons] at distinct
    obtain ⟨command, hc⟩ := known root List.mem_cons_self
    have asked := enqueue_missing hc (new root List.mem_cons_self) root.2
    have left : ∀ r ∈ rest, r.1 ≠ root.1 := fun r hr same =>
      distinct.1 (same ▸ List.mem_map_of_mem hr)
    obtain ⟨q', all, entries⟩ :=
      ih (q := q.insert root.1 (Entry.fresh command .waiting (keeps command root.2))) distinct.2
        (fun r hr => known r (List.mem_cons_of_mem _ hr))
        (fun r hr => (NameMap.get?_insert_of_ne _ _ (left r hr)).trans
          (new r (List.mem_cons_of_mem _ hr)))
    refine ⟨q', ?_, fun name => ?_⟩
    · rw [askAll, asked]
      exact all
    · rw [entries, NameMap.lookup]
      by_cases hn : name = root.1
      · subst hn
        rw [NameMap.lookup_eq_none_iff.2 distinct.1, NameMap.get?_insert_self, if_pos rfl]
        simp [neededEntry, hc]
      · rw [NameMap.get?_insert_of_ne _ _ hn, if_neg hn]

theorem underway_asked (orderly : Orderly m roots) :
    ∃ q₀, askAll m .empty roots = .ok q₀ ∧ ∀ fails, Underway m roots fails q₀ := by
  obtain ⟨q₀, asked, entries⟩ :=
    get?_askAll (q := .empty) orderly.distinct orderly.known (fun _ _ => rfl)
  refine ⟨q₀, asked, fun fails => ?_⟩
  have origin : ∀ name e, q₀.get? name = some e → name ∈ roots.map Prod.fst ∧
      ∃ command persist, m.get? name = some command ∧
        e = Entry.fresh command .waiting (keeps command persist) := by
    intro name e he
    rw [entries, NameMap.get?_empty, Option.or_none, Option.bind_eq_some_iff] at he
    obtain ⟨persist, found, he⟩ := he
    obtain ⟨command, hc, rfl⟩ := neededEntry_eq_some.1 he
    refine ⟨?_, command, persist, hc, rfl⟩
    by_contra absent
    rw [NameMap.lookup_eq_none_iff.2 absent] at found
    cases found
  refine ⟨fun name e he => ?_, fun root hr => ?_, fun name e he => ?_, fun name e he => ?_⟩
  · obtain ⟨-, command, persist, hc, rfl⟩ := origin name e he
    exact ⟨hc, fun once => keeps_once once persist, fun _ done => by cases done⟩
  · rw [entries, NameMap.get?_empty, Option.or_none]
    obtain ⟨command, hc⟩ := orderly.known root hr
    cases found : NameMap.lookup root.1 roots with
    | none => exact absurd (List.mem_map_of_mem hr) (NameMap.lookup_eq_none_iff.1 found)
    | some persist =>
      rw [Option.bind_some, neededEntry, hc]
      exact ⟨_, rfl⟩
  · obtain ⟨mem, -⟩ := origin name e he
    obtain ⟨root, hr, rfl⟩ := List.mem_map.1 mem
    exact ⟨root, hr, .refl⟩
  · obtain ⟨-, command, persist, -, rfl⟩ := origin name e he
    exact Entry.fair_waiting rfl rfl

/-! ## One act -/

section Invariant

variable (orderly : Orderly m roots) (h : Underway m roots fails q)
include orderly h

theorem Underway.lasting (he : q.get? name = some e) : e.command.policy ≠ .restart :=
  orderly.lasting name (h.wanted name e he) e.command (h.sound name e he).known

theorem Underway.active_iff (he : q.get? name = some e) : e.isActive = true ↔ e.status = .waiting := by
  rw [h.sound.active_iff he]
  exact or_iff_left fun failed => h.lasting orderly he failed.2

/-- In a schedule a scan launches the commands that wait and whose needs are done. -/
theorem Underway.scan_tracked (he : q.get? name = some e) :
    (q.scan m).1.get? name =
      some (if e.status = .waiting ∧ q.isReady e = true then e.launched else e) := by
  rw [h.sound.scan_tracked he]
  simp only [Bool.and_eq_true, h.active_iff orderly he]

omit orderly in
/-- A command that a scan takes in is wanted, and waits. -/
theorem Underway.scan_missing (missing : q.get? name = none)
    (he : (q.scan m).1.get? name = some e) : name ∈ Wanted m roots ∧
      ∃ command persist, m.get? name = some command ∧
        e = Entry.fresh command .waiting (keeps command persist) := by
  rw [h.sound.scan_missing missing, Option.bind_eq_some_iff] at he
  obtain ⟨d, sought, he⟩ := he
  obtain ⟨command, hc, rfl⟩ := neededEntry_eq_some.1 he
  obtain ⟨seeker, hd, -, mem⟩ := seeker?_eq_some sought
  obtain ⟨root, hr, leads⟩ := h.wanted seeker d hd
  refine ⟨⟨root, hr, leads.tail ⟨d.command, (h.sound seeker d hd).known, mem⟩⟩, ?_⟩
  exact ⟨command, d.persist, hc, rfl⟩

theorem Underway.scan : Underway m roots fails (q.scan m).1 := by
  have kept : ∀ name, q.statusOf name = some .done → (q.scan m).1.statusOf name = some .done :=
    fun _ done => h.sound.scan_done done
  refine ⟨h.sound.step .scan, fun root hr => ?_, fun name e' he' => ?_, fun name e' he' => ?_⟩
  · obtain ⟨e, he⟩ := h.asked root hr
    exact ⟨_, h.scan_tracked orderly he⟩
  · cases he : q.get? name with
    | some e => exact h.wanted name e he
    | none => exact (h.scan_missing he he').1
  · cases he : q.get? name with
    | some e =>
      have fair := h.fair name e he
      rw [h.scan_tracked orderly he] at he'
      obtain rfl := Option.some.inj he'
      split
      · rename_i launch
        exact (fair.launched launch.1 launch.2).mono kept
      · exact fair.mono kept
    | none =>
      obtain ⟨-, command, persist, -, rfl⟩ := h.scan_missing he he'
      exact Entry.fair_waiting rfl rfl

theorem Underway.complete (running : q.statusOf name = some .running) :
    Underway m roots fails (q.complete name (outcome fails name)).1 := by
  obtain ⟨e, he, hs⟩ := statusOf_eq_some.1 running
  have after := get?_complete he (outcome fails name)
  have kept : ∀ other, q.statusOf other = some .done →
      (q.complete name (outcome fails name)).1.statusOf other = some .done := by
    intro other done
    have hn : other ≠ name := by
      rintro rfl
      rw [running] at done
      cases done
    rw [statusOf, after, if_neg hn]
    exact done
  refine ⟨h.sound.step (.complete name _ running), fun root hr => ?_, fun other e' he' => ?_,
    fun other e' he' => ?_⟩
  · rw [after]
    split
    · exact ⟨_, rfl⟩
    · exact h.asked root hr
  · rw [after] at he'
    split at he'
    · rename_i hn
      exact hn ▸ h.wanted name e he
    · exact h.wanted other e' he'
  · rw [after] at he'
    split at he'
    · rename_i hn
      subst hn
      obtain rfl := Option.some.inj he'
      exact ((h.fair other e he).ended hs (h.lasting orderly he)).mono kept
    · exact (h.fair other e' he').mono kept

end Invariant

theorem Schedule.underway (h : Schedule m fails q₀ acts q) (orderly : Orderly m roots)
    (start : Underway m roots fails q₀) : Underway m roots fails q := by
  induction h with
  | none => exact start
  | scan _ ih => exact ih.scan orderly
  | complete _ name running ih => exact ih.complete orderly running

/-! ## What is left to do -/

/-- How the status of a command may change in one act of a schedule. -/
inductive Advance : Option Status → Option Status → Prop
  | stay (status : Option Status) : Advance status status
  | discover : Advance none (some .waiting)
  | launch : Advance (some .waiting) (some .running)
  | finish {status : Status} (ended : status.isTerminal = true) : Advance (some .running) (some status)

/-- What scans have still to do for a command: discover and launch it. -/
def chores : Option Status → Nat
  | none => 2
  | some .waiting => 1
  | some .running | some .done | some .error => 0

/-- What is still to be done for a command, its end included. -/
def toil : Option Status → Nat
  | none => 3
  | some .waiting => 2
  | some .running => 1
  | some .done | some .error => 0

theorem Advance.chores_le {before after : Option Status} (h : Advance before after) :
    chores after ≤ chores before := by
  cases h with
  | stay => exact Nat.le_refl _
  | discover | launch => decide
  | @finish status ended => cases status <;> revert ended <;> decide

theorem Advance.toil_le {before after : Option Status} (h : Advance before after) :
    toil after ≤ toil before := by
  cases h with
  | stay => exact Nat.le_refl _
  | discover | launch => decide
  | @finish status ended => cases status <;> revert ended <;> decide

def remaining (weight : Option Status → Nat) (names : Finset String) (q : Queue) : Nat :=
  names.sum fun name => weight (q.statusOf name)

theorem remaining_le {weight : Option Status → Nat} (names : Finset String)
    (falls : ∀ name, weight (q'.statusOf name) ≤ weight (q.statusOf name)) :
    remaining weight names q' ≤ remaining weight names q :=
  Finset.sum_le_sum fun name _ => falls name

theorem remaining_lt {weight : Option Status → Nat} {names : Finset String}
    (falls : ∀ name, weight (q'.statusOf name) ≤ weight (q.statusOf name)) (mem : name ∈ names)
    (less : weight (q'.statusOf name) < weight (q.statusOf name)) :
    remaining weight names q' < remaining weight names q :=
  Finset.sum_lt_sum (fun name _ => falls name) ⟨name, mem, less⟩

theorem wanted_finite (wf : m.WellFormed) (orderly : Orderly m roots) : (Wanted m roots).Finite := by
  refine (m.commands.keys.toFinset.finite_toSet).subset ?_
  rintro name ⟨root, hr, leads⟩
  have known : ∃ command, m.get? name = some command := by
    cases leads with
    | refl => exact orderly.known root hr
    | tail _ requires => exact wf.known requires
  rw [List.coe_toFinset]
  exact (NameMap.mem_keys_iff _).2 ((NameMap.contains_iff _).2 known)

section Progress

variable (orderly : Orderly m roots) (h : Underway m roots fails q)
include orderly h

theorem Underway.scan_advances (name : String) :
    Advance (q.statusOf name) ((q.scan m).1.statusOf name) := by
  cases he : q.get? name with
  | some e =>
    rw [statusOf, statusOf, h.scan_tracked orderly he, he]
    split
    · rename_i launch
      rw [Option.map_some, launch.1]
      exact .launch
    · exact .stay _
  | none =>
    rw [statusOf, statusOf, he]
    cases he' : (q.scan m).1.get? name with
    | none => exact .stay _
    | some e =>
      obtain ⟨-, command, persist, -, rfl⟩ := h.scan_missing he he'
      exact .discover

theorem Underway.complete_ends (running : q.statusOf name = some .running) :
    ∃ status, (q.complete name (outcome fails name)).1.statusOf name = some status ∧
      status.isTerminal = true := by
  obtain ⟨e, he, hs⟩ := statusOf_eq_some.1 running
  refine ⟨endedStatus e.command (outcome fails name), ?_, ?_⟩
  · rw [statusOf, get?_complete he, if_pos rfl]
    rfl
  · cases outcome fails name with
    | failed => rfl
    | succeeded =>
      rw [endedStatus, if_neg (h.lasting orderly he)]
      rfl

theorem Underway.complete_advances (running : q.statusOf name = some .running) (other : String) :
    Advance (q.statusOf other) ((q.complete name (outcome fails name)).1.statusOf other) := by
  by_cases hn : other = name
  · obtain ⟨status, after, ended⟩ := h.complete_ends orderly running
    rw [hn, running, after]
    exact .finish ended
  · obtain ⟨e, he, -⟩ := statusOf_eq_some.1 running
    rw [statusOf, statusOf, get?_complete he, if_neg hn]
    exact .stay _

/-- The end of a launch leaves less to do. -/
theorem Underway.complete_toil (running : q.statusOf name = some .running) :
    toil ((q.complete name (outcome fails name)).1.statusOf name) < toil (q.statusOf name) := by
  obtain ⟨status, after, ended⟩ := h.complete_ends orderly running
  rw [running, after]
  cases status <;> revert ended <;> decide

/-- A scan that finds something to do does a chore of some wanted command. -/
theorem Underway.busy (busy : (q.scan m).2.isIdle = false) : ∃ name ∈ Wanted m roots,
    chores ((q.scan m).1.statusOf name) < chores (q.statusOf name) ∧
      toil ((q.scan m).1.statusOf name) < toil (q.statusOf name) := by
  rw [Pass.isIdle, Bool.and_eq_false_iff, List.isEmpty_eq_false_iff_exists_mem,
    List.isEmpty_eq_false_iff_exists_mem] at busy
  rcases busy with ⟨l, hl⟩ | ⟨name, hn⟩
  · obtain ⟨e, he, active, -, -, launched⟩ := mem_launches hl
    have waits := (h.active_iff orderly he).1 active
    have before : q.statusOf l.name = some .waiting := statusOf_eq_some.2 ⟨e, he, waits⟩
    have after : (q.scan m).1.statusOf l.name = some .running := statusOf_eq_some.2 ⟨_, launched, rfl⟩
    refine ⟨l.name, h.wanted _ e he, ?_⟩
    rw [before, after]
    decide
  · obtain ⟨missing, found⟩ := mem_discovered hn
    obtain ⟨e, he⟩ := Option.isSome_iff_exists.1 found
    obtain ⟨wanted, command, persist, -, rfl⟩ := h.scan_missing missing he
    have before : q.statusOf name = none := by rw [statusOf, missing, Option.map_none]
    have after : (q.scan m).1.statusOf name = some .waiting := statusOf_eq_some.2 ⟨_, he, rfl⟩
    refine ⟨name, wanted, ?_⟩
    rw [before, after]
    decide

end Progress

/-- Each scan that finds something to do is paid for by a chore. -/
theorem Schedule.busy_chores (h : Schedule m fails q₀ acts q) (orderly : Orderly m roots)
    (start : Underway m roots fails q₀) (names : Finset String) (all : Wanted m roots ⊆ ↑names) :
    acts.countP Act.isBusy + remaining chores names q ≤ remaining chores names q₀ := by
  induction h with
  | none => simp
  | @scan past q earlier ih =>
    have now := earlier.underway orderly start
    have falls := fun name => (now.scan_advances orderly name).chores_le
    rw [List.countP_cons]
    cases idle : (q.scan m).2.isIdle with
    | true =>
      have same : remaining chores names (q.scan m).1 ≤ remaining chores names q :=
        remaining_le names falls
      simp only [Act.isBusy, idle, Bool.not_true, Bool.false_eq_true, if_false]
      omega
    | false =>
      obtain ⟨name, wanted, less, -⟩ := now.busy orderly idle
      have fewer := remaining_lt falls (all wanted) less
      simp only [Act.isBusy, idle, Bool.not_false, if_true]
      omega
  | @complete past q earlier name running ih =>
    have now := earlier.underway orderly start
    have same := remaining_le names fun other =>
      (now.complete_advances orderly running other).chores_le
    rw [List.countP_cons]
    simp only [Act.isBusy, Bool.false_eq_true, if_false]
    omega

/-- In any schedule, at most twice as many scans find something to do as commands are wanted. -/
theorem Schedule.busy_le (h : Schedule m fails q₀ acts q) (wf : m.WellFormed)
    (orderly : Orderly m roots) (start : Underway m roots fails q₀) :
    acts.countP Act.isBusy ≤ 2 * (Wanted m roots).ncard := by
  have finite := wanted_finite wf orderly
  have paid := h.busy_chores orderly start finite.toFinset (by rw [finite.coe_toFinset])
  have most : ∀ status, chores status ≤ 2 := by
    intro status
    cases status with
    | none => decide
    | some status => cases status <;> decide
  have total : remaining chores finite.toFinset q₀ ≤ finite.toFinset.card * 2 :=
    calc remaining chores finite.toFinset q₀
      _ ≤ finite.toFinset.sum fun _ => 2 := Finset.sum_le_sum fun name _ => most _
      _ = finite.toFinset.card * 2 := Finset.sum_const_nat fun _ _ => rfl
  rw [Set.ncard_eq_toFinset_card _ finite]
  omega

/-- Every schedule can be carried on to rest: until then a launch can end or a scan finds something to
do, and what is left to do gets less. -/
theorem Underway.comes_to_rest (h : Underway m roots fails q) (wf : m.WellFormed)
    (orderly : Orderly m roots) : ∃ acts q', Schedule m fails q acts q' ∧ AtRest m q' := by
  have finite := wanted_finite wf orderly
  have mem : ∀ name ∈ Wanted m roots, name ∈ finite.toFinset := fun _ wanted =>
    finite.mem_toFinset.2 wanted
  induction hk : remaining toil finite.toFinset q using Nat.strongRecOn generalizing q with
  | _ k ih =>
    have onward : ∀ {act : Act} {q₁ : Queue}, Schedule m fails q [act] q₁ → Underway m roots fails q₁ →
        remaining toil finite.toFinset q₁ < remaining toil finite.toFinset q →
        ∃ acts q', Schedule m fails q acts q' ∧ AtRest m q' := by
      intro act q₁ first next less
      obtain ⟨acts, q', schedule, rest⟩ := ih _ (hk ▸ less) next rfl
      exact ⟨_, q', first.append schedule, rest⟩
    -- What runs is ended first; a scan is called for only when nothing runs.
    by_cases runs : ∃ name, q.statusOf name = some .running
    · obtain ⟨name, running⟩ := runs
      obtain ⟨e, he, hs⟩ := statusOf_eq_some.1 running
      refine onward (.complete .none name running) (h.complete orderly running) ?_
      exact remaining_lt (fun other => (h.complete_advances orderly running other).toil_le)
        (mem name (h.wanted name e he)) (h.complete_toil orderly running)
    · cases idle : (q.scan m).2.isIdle with
      | true => exact ⟨[], q, .none, fun name running => runs ⟨name, running⟩, idle⟩
      | false =>
        obtain ⟨name, wanted, -, less⟩ := h.busy orderly idle
        refine onward (.scan .none) (h.scan orderly) ?_
        exact remaining_lt (fun other => (h.scan_advances orderly other).toil_le) (mem name wanted) less

end Supervisor.Queue
