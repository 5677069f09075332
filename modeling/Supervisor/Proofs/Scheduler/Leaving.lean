import Supervisor.Proofs.Scheduler.Sleepers

/-!
# Whoever leaves has looked

While the loop works, whoever waits for a queue leaves only after a look at the queue as it was then.
Who waits for all of it has found nothing pending. It may have found a command that starts again by
itself, between a failure and the next launch, or held back by a need that has failed since.
-/

namespace Supervisor

open Relation (ReflTransGen)

namespace Queue

variable {m : Manifest} {q : Queue} {name : String} {e : Entry}

/-- Where nothing is pending and there is no work, a `restart` command is held back by a need. -/
theorem Sound.held_back (sound : Sound m q) (nothing : q.pending = []) (idle : ¬ HasWork m q)
    (he : q.get? name = some e) (failed : e.status = .error) (restart : e.command.policy = .restart) :
    ∃ need ∈ e.command.needs, q.statusOf need = some .error ∨ m.get? need = none := by
  have active : e.isActive = true := (sound.active_iff he).2 (.inr ⟨failed, restart⟩)
  have unready : ¬ q.isReady e = true := fun ready => idle (.launch he active ready)
  rw [isReady_iff] at unready
  push Not at unready
  obtain ⟨need, mem, undone⟩ := unready
  refine ⟨need, mem, ?_⟩
  cases hd : q.get? need with
  | none =>
    refine .inr ?_
    rw [← Option.not_isSome_iff_eq_none]
    exact fun known => idle (.discover he active mem hd known)
  | some d =>
    refine .inl (statusOf_eq_some.2 ⟨d, hd, ?_⟩)
    rcases done_or_error nothing hd with done | error
    · exact absurd (statusOf_eq_some.2 ⟨d, hd, done⟩) undone
    · exact error

end Queue

namespace Traffic

open Scheduler (isDrained)

variable {m : Manifest} {s s' : Traffic} {first : Record} {watcher : Nat} {target : Option String}

/-- Somebody who has been woken looks at the queue and finds what it waits for. -/
inductive Decision (watcher : Nat) (target : Option String) (s : Traffic) : Traffic → Prop
  | look (before : List Waiter) {after : List Waiter}
      (here : s.waiters = before ++ ⟨watcher, target, .awake⟩ :: after)
      (drained : isDrained s.scheduler.queue target = true) :
      Decision watcher target s { s with waiters := before ++ ⟨watcher, target, .leaving⟩ :: after }

theorem Decision.step (decision : Decision watcher target s s') : Step m s s' := by
  cases decision with
  | look before here drained =>
    have looked := WaiterTurn.look before here
    rw [if_pos drained] at looked
    exact .waiter looked

/-- The loop does not work again once it has ended. -/
theorem LoopTurn.working (turn : LoopTurn m s s') (working : s'.scheduler.loop ≠ .stopped) :
    s.scheduler.loop ≠ .stopped := by
  intro stopped
  cases turn with
  | take => exact working ((Scheduler.take_stopped _).2 stopped)
  | scan => exact working ((Scheduler.scan_stopped ..).2 stopped)
  | read => exact working ((Scheduler.read_stopped _).2 stopped)
  | report => exact working ((Scheduler.report_stopped _).2 stopped)
  | close =>
    rcases s.scheduler.close_cases with ⟨closing, -⟩ | same
    · exact Loop.noConfusion (closing.symm.trans stopped)
    · exact working ((congrArg Scheduler.loop same).trans stopped)

theorem Step.working (h : Step m s s') (working : s'.scheduler.loop ≠ .stopped) :
    s.scheduler.loop ≠ .stopped := by
  cases h with
  | loop turn => exact turn.working working
  | waiter turn => exact turn.quiet.loop ▸ working
  | caller turn => exact turn.apart.loop ▸ working
  | run turn => exact turn.apart.loop ▸ working

theorem Step.waiters (h : Step m s s') : s'.waiters = s.waiters ∨ WaiterTurn s s' := by
  cases h with
  | waiter turn => exact .inr turn
  | loop turn => cases turn <;> exact .inl rfl
  | caller turn => exact .inl turn.apart.waiters
  | run turn => exact .inl turn.apart.waiters

/-- Who begins to leave has just decided so, or the loop has ended. -/
theorem WaiterTurn.decides (turn : WaiterTurn s s') (attached : s.Attached)
    (mem : ⟨watcher, target, .leaving⟩ ∈ s'.waiters) (working : s.scheduler.loop ≠ .stopped) :
    ⟨watcher, target, .leaving⟩ ∈ s.waiters ∨ Decision watcher target s s' := by
  have old : ∀ {before after : List Waiter} {w : Waiter}, s.waiters = before ++ w :: after →
      ⟨watcher, target, .leaving⟩ ∈ before ++ after → ⟨watcher, target, .leaving⟩ ∈ s.waiters := by
    intro before after w here mem
    rw [here]
    exact mem_middle.2 (.inr mem)
  cases turn with
  | subscribe =>
    rcases List.mem_append.1 mem with before | new
    · exact .inl before
    · cases List.mem_singleton.1 new
  | signal _ here | wake _ here =>
    rcases mem_middle.1 mem with new | mem
    · cases new
    · exact .inl (old here mem)
  | @closed before after _ _ _ _ here told =>
    obtain ⟨x, found, unregistered⟩ := Watchers.unregistered_of_closed told
    have waits : (⟨_, _, .asleep⟩ : Waiter) ∈ s.waiters := here ▸ mem_middle.2 (.inl rfl)
    obtain ⟨x', found', -, registered⟩ := attached.heard _ (List.mem_map_of_mem waits)
    obtain rfl := Option.some.inj (found.symm.trans found')
    rw [unregistered, eq_comm, Bool.not_eq_false'] at registered
    exact absurd (attached.closed.1 registered) working
  | look before here =>
    rcases mem_middle.1 mem with new | mem
    · split at new
      · rename_i drained
        cases new
        rw [if_pos drained]
        exact .inr (.look before here drained)
      · cases new
    · exact .inl (old here mem)
  | leave _ here | giveUp _ here => exact .inl (old here mem)

/-- Whoever leaves while the loop works has decided so in some turn before. -/
theorem Reachable.decided (h : Reachable m first s)
    (mem : ⟨watcher, target, .leaving⟩ ∈ s.waiters) (working : s.scheduler.loop ≠ .stopped) :
    ∃ s₀ s₁, Reachable m first s₀ ∧ Decision watcher target s₀ s₁ ∧ ReflTransGen (Step m) s₁ s := by
  induction h with
  | start => cases mem
  | @next s s' earlier step ih =>
    have before := step.working working
    have decides : ⟨watcher, target, .leaving⟩ ∈ s.waiters ∨ Decision watcher target s s' := by
      rcases step.waiters with same | turn
      · exact .inl (same ▸ mem)
      · exact turn.decides earlier.attached mem before
    rcases decides with old | decision
    · obtain ⟨s₀, s₁, reachable, decision, onward⟩ := ih old before
      exact ⟨s₀, s₁, reachable, decision, onward.tail step⟩
    · exact ⟨s, s', earlier, decision, .refl⟩

/-- **Whoever waits for all of a queue leaves when nothing is pending.** In whatever order callers,
launches, the work loop and those who wait take their turns, from any record, while the loop works:
who leaves has looked at the queue in a turn before, and no command waited or ran then. A `restart`
command that was in the queue had failed, and a trigger was there to launch it again, or it could not
be launched for one of its needs. -/
theorem leaves_when_none_pending (h : Reachable m first s)
    (mem : ⟨watcher, none, .leaving⟩ ∈ s.waiters) (working : s.scheduler.loop ≠ .stopped) :
    ∃ s₀ s₁, Reachable m first s₀ ∧ Decision watcher none s₀ s₁ ∧ ReflTransGen (Step m) s₁ s ∧
      ∀ name e, s₀.scheduler.queue.get? name = some e →
        e.status ≠ .waiting ∧ e.status ≠ .running ∧
          (e.command.policy = .restart → e.status = .error ∧
            (s₀.IsOpen → s₀.Prompted ∨ ∃ need ∈ e.command.needs,
              s₀.scheduler.queue.statusOf need = some .error ∨ m.get? need = none)) := by
  obtain ⟨s₀, s₁, reachable, decision, onward⟩ := h.decided mem working
  refine ⟨s₀, s₁, reachable, decision, onward, fun name e he => ?_⟩
  have nothing : s₀.scheduler.queue.pending = [] := by
    cases decision with
    | look _ _ drained => exact List.isEmpty_iff.1 drained
  have ended := Queue.done_or_error nothing he
  refine ⟨fun waits => ?_, fun runs => ?_, fun restart => ?_⟩
  · rcases ended with done | error
    · cases waits.symm.trans done
    · cases waits.symm.trans error
  · rcases ended with done | error
    · cases runs.symm.trans done
    · cases runs.symm.trans error
  · have failed := ended.resolve_left ((reachable.sound name e he).endless restart)
    refine ⟨failed, fun isOpen => Classical.or_iff_not_imp_left.2 fun quiet => ?_⟩
    have idle : ¬ Queue.HasWork m s₀.scheduler.queue := fun work =>
      quiet (reachable.attended isOpen work)
    exact reachable.sound.held_back nothing idle he failed restart

/-! ## A shop -/

/-- A server that starts again by itself and needs an application. -/
def shop : Manifest :=
  ⟨"m", none, none, .ofList [("app", ⟨"app", .always, [], [serve "app.0"]⟩),
    ("web", ⟨"web", .restart, ["app"], [serve "web.0"]⟩)]⟩

/-- What its file states. -/
def shopDraft : Manifest.Draft :=
  ⟨"m", none, none, .ofList [
    ("app", ⟨.always, [], [⟨"exec", some (.array [.text "serve"]), none, none, false⟩]⟩),
    ("web", ⟨.restart, ["app"], [⟨"exec", some (.array [.text "serve"]), none, none, false⟩]⟩)]⟩

theorem shop_validated : shop.Validated := by
  have placed : shopDraft.needs.misplaced? = none :=
    Manifest.Needs.misplaced_none_of_rank ["app", "web"].idxOf (by decide +kernel)
  refine ⟨shopDraft, ?_⟩
  rw [Manifest.Draft.resolve, placed]
  rfl

/-- Its queue, with how often each command was launched. -/
def tills (app : Status) (appLaunches : Nat) (web : Status) (webLaunches : Nat) : Queue :=
  .ofList [("app", ⟨app, false, appLaunches, ⟨"app", .always, [], [serve "app.0"]⟩⟩),
    ("web", ⟨web, false, webLaunches, ⟨"web", .restart, ["app"], [serve "web.0"]⟩⟩)]

/-- The application has been asked for again, and both have failed. Somebody who waits for all has
been woken. -/
def shut : Traffic where
  scheduler :=
    { queue := tills .error 2 .error 1
      watchers := { all := [⟨true, true, [], false⟩] } }
  waiters := [⟨0, none, .awake⟩]

theorem reachable_shut : Reachable shop {} shut := by
  have asked : Reachable shop {} _ := .next .start (.caller (.enqueue "web" false rfl))
  have begun : Reachable shop {}
      { scheduler := { queue := tills .running 1 .waiting 0 }, runs := [serving "app" "app.0"] } :=
    (asked.next (.caller (.signal [] rfl))).turned.turned
  have served : Reachable shop {}
      { scheduler := { queue := tills .done 1 .running 1 }, runs := [serving "web" "web.0"] } :=
    (begun.ended rfl (serve_succeeds _)).turned
  have again : Reachable shop {}
      { scheduler := { queue := tills .running 2 .running 1 }
        runs := [serving "web" "web.0", serving "app" "app.0"] } :=
    ((served.next (.caller (.enqueue "app" false rfl))).next (.caller (.signal [] rfl))).turned
  have failed : Reachable shop {} { scheduler := { queue := tills .error 2 .error 1 } } :=
    ((again.ended rfl (serve_fails _)).turned.ended rfl (serve_fails _)).turned
  have subscribed := failed.next (.waiter (.subscribe none))
  have told : Reachable shop {}
      { shut with
        scheduler := { shut.scheduler with watchers := { all := [⟨true, true, [], true⟩] } }
        waiters := [⟨0, none, .asleep⟩] } :=
    (subscribed.next (.waiter (.signal [] rfl))).turned
  exact told.next (.waiter (.wake [] rfl rfl))

/-- Whoever waits for the shop has looked and is about to leave. -/
theorem leaves_when_none_pending_shop :
    ∃ s watcher, Reachable shop {} s ∧ ⟨watcher, none, .leaving⟩ ∈ s.waiters ∧
      s.scheduler.loop ≠ .stopped ∧ ∃ s₀ s₁, Reachable shop {} s₀ ∧ Decision watcher none s₀ s₁ ∧
        ReflTransGen (Step shop) s₁ s ∧ ∀ name e, s₀.scheduler.queue.get? name = some e →
          e.status ≠ .waiting ∧ e.status ≠ .running := by
  have decision : Decision 0 none shut _ := .look [] rfl rfl
  have decided := reachable_shut.next decision.step
  have working : shut.scheduler.loop ≠ .stopped := fun stopped => by cases stopped
  obtain ⟨s₀, s₁, reachable, decision, onward, ended⟩ :=
    leaves_when_none_pending decided (.head _) working
  refine ⟨_, 0, decided, .head _, working, s₀, s₁, reachable, decision, onward, fun name e he => ?_⟩
  obtain ⟨waits, runs, -⟩ := ended name e he
  exact ⟨waits, runs⟩

/-- It leaves while the server, which starts again by itself, is in the queue. The loop sleeps, and
nothing is there to wake it. -/
theorem leaves_despite_restart :
    shop.Validated ∧ ∃ s₀ s₁ e, Reachable shop {} s₀ ∧ Decision 0 none s₀ s₁ ∧
      s₁.scheduler.loop = .idle ∧ ¬ s₁.Prompted ∧ s₀.scheduler.queue.get? "web" = some e ∧
      e.command.policy = .restart ∧ e.status = .error := by
  refine ⟨shop_validated, shut, _, _, reachable_shut, .look [] rfl rfl, rfl, ?_, rfl, rfl, rfl⟩
  exact not_prompted rfl rfl (fun r mem => by cases mem) fun woken => by cases woken

end Traffic

end Supervisor
