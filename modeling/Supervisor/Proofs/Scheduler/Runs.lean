import Supervisor.Proofs.Queue.Balance
import Supervisor.Proofs.Scheduler.Effects

/-!
# One run for each running command

However the turns are mixed, the queue of a scheduler goes through a history in which every end that
is noted is that of a command that runs, and the launches that have not ended are those of the history
less its ends. So there is one for each command that the queue has as running, and none for any other.
-/

namespace Supervisor.Traffic

open Queue (Act Steps starts ends runCount restored)

variable {m : Manifest} {s s' : Traffic} {first : Record}

/-- How many launches of the command have not ended. -/
def underway (s : Traffic) (name : String) : Nat := s.runs.countP fun r => r.name = name

/-- A turn in which the queue goes through acts, and launches begin and end as they say. -/
structure Follows (m : Manifest) (s s' : Traffic) (acts : List Act) : Prop where
  steps : Steps m s.scheduler.queue acts s'.scheduler.queue
  balance : ∀ name, s'.underway name + ends name acts = s.underway name + starts name acts

theorem Follows.quiet (queue : s'.scheduler.queue = s.scheduler.queue)
    (same : ∀ name, s'.underway name = s.underway name) : Follows m s s' [] :=
  ⟨queue ▸ .none, fun name => congrArg (· + 0) (same name)⟩

theorem countP_split (before after : List Run) (r : Run) (name : String) :
    (before ++ r :: after).countP (fun r => r.name = name) =
      (before ++ after).countP (fun r => r.name = name) + if r.name = name then 1 else 0 := by
  rw [countP_middle]
  simp only [decide_eq_true_eq]

/-- A launch that goes on is still one launch of its command. -/
theorem underway_replace {before after : List Run} {name : String} {now : Progress}
    (here : s.runs = before ++ ⟨name, now⟩ :: after) (next : Progress) (other : String) :
    (before ++ ⟨name, next⟩ :: after).countP (fun r => r.name = other) = s.underway other := by
  rw [underway, here, countP_split, countP_split]

theorem CallerTurn.follows (turn : CallerTurn m s s') : ∃ acts, Follows m s s' acts := by
  cases turn with
  | enqueue name persist granted =>
    obtain ⟨queue, asked, rfl⟩ := Scheduler.accept_eq_ok granted
    exact ⟨[.accepted name _], Steps.none.more (.accept name persist asked), fun _ => rfl⟩
  | evict => exact ⟨[.evicted _], Steps.none.more .evict, fun _ => rfl⟩
  | signal | shutdown => exact ⟨[], .quiet (Scheduler.signal_queue ..) fun _ => rfl⟩

theorem LoopTurn.follows (turn : LoopTurn m s s') : ∃ acts, Follows m s s' acts := by
  cases turn with
  | scan =>
    rcases s.scheduler.scan_cases m with ⟨-, queue, pass, -⟩ | ⟨-, same⟩
    · refine ⟨[.scanned (s.scheduler.queue.scan m).2], ?_, fun name => ?_⟩
      · rw [queue]
        exact Steps.none.more .scan
      · rw [underway, pass, List.countP_append, List.countP_map]
        rfl
    · refine ⟨[], .quiet ?_ fun name => ?_⟩
      · rw [same]
      · simp [underway, same]
  | take => exact ⟨[], .quiet (Scheduler.take_queue _) fun _ => rfl⟩
  | read => exact ⟨[], .quiet (Scheduler.read_queue _) fun _ => rfl⟩
  | report => exact ⟨[], .quiet (Scheduler.report_queue _) fun _ => rfl⟩
  | close => exact ⟨[], .quiet (Scheduler.close_queue _) fun _ => rfl⟩

/-- There is a launch for each time that a command runs. -/
def Matched (s : Traffic) : Prop := ∀ name, s.underway name = runCount (s.scheduler.queue.get? name)

theorem Matched.running (matched : s.Matched) {r : Run} (mem : r ∈ s.runs) :
    s.scheduler.queue.statusOf r.name = some .running := by
  have some : 0 < s.underway r.name := List.countP_pos_iff.2 ⟨r, mem, decide_eq_true rfl⟩
  rw [matched, Queue.runCount_get?] at some
  split at some
  · assumption
  · exact absurd some (Nat.lt_irrefl 0)

/-- Only a launch that ends needs the match: the end that it notes is that of a command that runs. -/
theorem RunTurn.follows (turn : RunTurn m s s') (matched : s.Matched) :
    ∃ acts, Follows m s s' acts := by
  cases turn with
  | proceed _ here => exact ⟨[], .quiet rfl fun other => underway_replace here _ other⟩
  | @handOver _ _ _ target _ _ _ write here next aim granted =>
    obtain ⟨queue, asked, rfl⟩ := Scheduler.accept_eq_ok granted
    refine ⟨[.accepted target write], Steps.none.more (.accept target false asked), fun name => ?_⟩
    exact congrArg (· + 0) (underway_replace here _ name)
  | refused _ here => exact ⟨[], .quiet rfl fun other => underway_replace here _ other⟩
  | announce _ here =>
    exact ⟨[], .quiet (Scheduler.signal_queue ..) fun other => underway_replace here _ other⟩
  | @finish before after name result here =>
    have running := matched.running (here ▸ mem_middle.2 (.inl rfl))
    refine ⟨_, Steps.none.more (.complete name (.ofResult result) running), fun other => ?_⟩
    have split : s.underway other =
        (before ++ after).countP (fun r => r.name = other) + if name = other then 1 else 0 := by
      rw [underway, here, countP_split]
    rw [split]
    rfl

theorem Step.follows (h : Step m s s') (matched : s.Matched) : ∃ acts, Follows m s s' acts := by
  cases h with
  | caller turn => exact turn.follows
  | loop turn => exact turn.follows
  | run turn => exact turn.follows matched
  | waiter turn =>
    have quiet := turn.quiet
    exact ⟨[], .quiet quiet.queue fun name => by rw [underway, quiet.runs]; rfl⟩

/-- What a turn does to the queue, and who is behind it. -/
inductive Effect (m : Manifest) (s s' : Traffic) : Prop
  | none (same : s'.scheduler.queue = s.scheduler.queue)
  /-- Somebody outside has asked for a command, or a launch has. -/
  | asked (name : String) (persist : Bool) {write : Option StatusWrite}
      (granted : s.scheduler.queue.enqueue m name persist = .ok (s'.scheduler.queue, write))
      (behind : s'.calls = .enqueue name :: s.calls ∨ s.runs ≠ [])
  | scanned (queue : s'.scheduler.queue = (s.scheduler.queue.scan m).1)
  | ended (name : String) (outcome : Outcome)
      (running : s.scheduler.queue.statusOf name = some .running)
      (queue : s'.scheduler.queue = (s.scheduler.queue.complete name outcome).1)
      (noted : s'.calls = .finish name :: s.calls)
  | evicted (queue : s'.scheduler.queue = s.scheduler.queue.evict.1)

theorem Step.effect (h : Step m s s') (matched : s.Matched) : Effect m s s' := by
  cases h with
  | waiter turn => exact .none turn.quiet.queue
  | caller turn =>
    cases turn with
    | enqueue name persist granted =>
      obtain ⟨queue, asked, rfl⟩ := Scheduler.accept_eq_ok granted
      exact .asked name persist asked (.inl rfl)
    | signal | shutdown => exact .none (Scheduler.signal_queue ..)
    | evict => exact .evicted rfl
  | loop turn =>
    cases turn with
    | take => exact .none (Scheduler.take_queue _)
    | scan =>
      rcases s.scheduler.scan_cases m with ⟨-, queue, -⟩ | ⟨-, same⟩
      · exact .scanned queue
      · exact .none (congrArg (fun answer => answer.1.queue) same)
    | read => exact .none (Scheduler.read_queue _)
    | report => exact .none (Scheduler.report_queue _)
    | close => exact .none (Scheduler.close_queue _)
  | run turn =>
    cases turn with
    | proceed | refused => exact .none rfl
    | announce => exact .none (Scheduler.signal_queue ..)
    | @handOver _ _ _ target _ _ _ _ here _ _ granted =>
      obtain ⟨queue, asked, rfl⟩ := Scheduler.accept_eq_ok granted
      have some : s.runs ≠ [] := List.ne_nil_of_mem (here ▸ mem_middle.2 (.inl rfl))
      exact .asked target false asked (.inr some)
    | @finish _ _ name result here =>
      have running := matched.running (here ▸ mem_middle.2 (.inl rfl))
      exact .ended name (.ofResult result) running rfl rfl

theorem matched_of_history {acts : List Act} (h : Steps m (restored m first) acts s.scheduler.queue)
    (balance : ∀ name, s.underway name + ends name acts = starts name acts) : s.Matched := by
  intro name
  have queue := h.balance name
  rw [Queue.runCount_restored] at queue
  have traffic := balance name
  omega

/-- Whatever may come of a scheduler, its queue has a history in which launches begin and end. -/
theorem Reachable.history (h : Reachable m first s) : ∃ acts,
    Steps m (restored m first) acts s.scheduler.queue ∧
      ∀ name, s.underway name + ends name acts = starts name acts := by
  induction h with
  | start => exact ⟨[], .none, fun _ => rfl⟩
  | next _ step ih =>
    obtain ⟨past, steps, balance⟩ := ih
    -- An end is noted of a command that runs only because the history so far balances.
    obtain ⟨acts, follows⟩ := step.follows (matched_of_history steps balance)
    refine ⟨acts ++ past, steps.append follows.steps, fun name => ?_⟩
    have now := follows.balance name
    have before := balance name
    rw [Queue.starts_append, Queue.ends_append]
    omega

theorem Reachable.matched (h : Reachable m first s) : s.Matched := by
  obtain ⟨acts, steps, balance⟩ := h.history
  exact matched_of_history steps balance

/-- **Never two launches of a running command.** In whatever order callers, launches, the work loop
and those who wait take their turns, from any record: of each command exactly one launch has not ended
if the queue has it as running, and none otherwise. So the end of a launch that is noted finds the
command in the queue, and running. -/
theorem one_run_if_running (h : Reachable m first s) :
    (∀ name, s.underway name =
      if s.scheduler.queue.statusOf name = some .running then 1 else 0) ∧
      ∀ r ∈ s.runs, ∃ e, s.scheduler.queue.get? r.name = some e ∧ e.status = .running := by
  refine ⟨fun name => ?_, fun r mem => ?_⟩
  · rw [h.matched name, Queue.runCount_get?]
  · exact Queue.statusOf_eq_some.1 (h.matched.running mem)

/-- A manifest with a command that only hands over to a worker, which starts again by itself. -/
def relay : Manifest :=
  ⟨"m", none, none, .ofList [
    ("start", ⟨"start", .always, [], [⟨"start.0", .command, .command "worker", .unsaid, false⟩]⟩),
    ("worker", ⟨"worker", .restart, [], []⟩)]⟩

/-- The first command hands over, ends and is evicted; the worker ends and is launched again. One
launch of it has not ended, and none of the first command. -/
theorem one_run_if_running_worker :
    ∃ s, Reachable relay {} s ∧ s.scheduler.queue.launchCount "worker" = 2 ∧
      s.scheduler.queue.get? "start" = none ∧ s.underway "worker" = 1 ∧ s.underway "start" = 0 := by
  have asked : Reachable relay {} _ := .next .start (.caller (.enqueue "start" true rfl))
  have begun := (asked.next (.caller (.signal [] rfl))).turned
  have answered := (begun.next (.run (.handOver [] rfl rfl rfl rfl))).next
    (.run (.announce [] rfl))
  have ended := (answered.next (.run (.finish [] rfl))).next (.caller .evict)
  have again := ended.turned.next (.run (.proceed [] rfl (.finish rfl)))
  have relaunched := (again.finished rfl).turned
  have counts := (one_run_if_running relaunched).1
  exact ⟨_, relaunched, rfl, rfl, counts "worker", counts "start"⟩

end Supervisor.Traffic
