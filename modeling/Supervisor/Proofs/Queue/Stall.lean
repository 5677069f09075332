import Supervisor.Proofs.Queue.Dependency
import Supervisor.Proofs.Queue.Rest

/-!
# Stalled commands

At rest, what is pending is what `stalled` lists. Before that the list may hold a command that the
next scan launches: it looks through commands that are done, and what one of these needed may have
been asked for again since, and have failed. A command that waits and is held by a failure is listed
too, and stays so until something is asked for.
-/

namespace Supervisor.Queue

open Relation (TransGen)

variable {m : Manifest} {q q' : Queue} {name need : String} {e : Entry} {act : Act}
  {acts more : List Act} {first : Record}

/-! ## At rest -/

/-- **Every deadlock is explained.** Nothing runs and a scan finds nothing to do: then the pending
commands are the stalled ones. Each of them waits, and depends on another command that has failed and
does not start again by itself. -/
theorem pending_eq_stalled (validated : m.Validated) (h : Steps m (restored m first) acts q)
    (rest : AtRest m q) :
    q.pending = q.stalled ∧ ∀ name ∈ q.pending, q.statusOf name = some .waiting ∧
      ∃ need f, need ≠ name ∧ TransGen (Links q) name need ∧ q.get? need = some f ∧ f.isFailure := by
  have sound := h.sound (sound_restored m first)
  have wf := validated.wellFormed
  have same : q.pending = q.stalled := by
    rw [pending, stalled]
    congr 1
    refine NameMap.ext fun name => ?_
    rw [NameMap.get?_filter, NameMap.get?_filter]
    cases he : q.get? name with
    | none => rfl
    | some e =>
      have status : q.statusOf name = some e.status := statusOf_eq_some.2 ⟨e, he, rfl⟩
      cases hs : e.status with
      | waiting =>
        have blocked := (mem_stalled_iff.1 (rest.stalled sound wf (status.trans (by rw [hs])))).2
        simp [Option.filter, hs, Status.isTerminal, blocked]
      | running => exact absurd (status.trans (by rw [hs])) (rest.still name)
      | done | error => simp [Option.filter, hs, Status.isTerminal]
  refine ⟨same, fun name mem => ?_⟩
  have waits := (mem_stalled_iff.1 (same ▸ mem)).1
  obtain ⟨e, he, hs⟩ := statusOf_eq_some.1 waits
  obtain ⟨need, f, leads, hf, failed⟩ :=
    rest.blocked sound wf he ((sound.active_iff he).2 (.inl hs))
  have requires : Links q ≤ m.Requires := fun _ _ link => sound.links link
  exact ⟨waits, need, f, wf.other (TransGen.mono requires _ _ leads), leads, hf, failed⟩

/-- A page that a server shows, which starts again by itself and needs an application and its
database. -/
def portal : Manifest :=
  ⟨"m", none, none, .ofList [("app", ⟨"app", .always, ["db"], []⟩), ("db", ⟨"db", .always, [], []⟩),
    ("page", ⟨"page", .always, ["web"], []⟩), ("web", ⟨"web", .restart, ["app"], []⟩)]⟩

/-- What its file states. -/
def portalDraft : Manifest.Draft :=
  ⟨"m", none, none, .ofList [("app", ⟨.always, ["db"], []⟩), ("db", ⟨.always, [], []⟩),
    ("page", ⟨.always, ["web"], []⟩), ("web", ⟨.restart, ["app"], []⟩)]⟩

theorem portal_validated : portal.Validated := by
  have placed : portalDraft.needs.misplaced? = none :=
    Manifest.Needs.misplaced_none_of_rank ["db", "app", "web", "page"].idxOf (by decide +kernel)
  refine ⟨portalDraft, ?_⟩
  rw [Manifest.Draft.resolve, placed]
  rfl

/-- The server has failed after its application was asked for again and failed: the page waits for
the server, which would start again but for the application. -/
theorem pending_eq_stalled_page :
    ∃ acts q, Steps portal (restored portal {}) acts q ∧ AtRest portal q ∧
      q.statusOf "web" = some .error ∧ q.pending = ["page"] ∧ q.stalled = ["page"] ∧
      ∃ need f, need ≠ "page" ∧ TransGen (Links q) "page" need ∧ q.get? need = some f ∧
        f.isFailure := by
  have asked : Steps portal (restored portal {}) _ _ := .more .none (.accept "web" true rfl)
  have db := (((asked.more .scan).more .scan).more .scan).more (.complete "db" .succeeded rfl)
  have app := (db.more .scan).more (.complete "app" .succeeded rfl)
  have again := ((app.more .scan).more (.accept "app" true rfl)).more .scan
  have failed := (again.more (.complete "app" .failed rfl)).more (.complete "web" .failed rfl)
  have waiting := failed.more (.accept "page" true rfl)
  obtain ⟨acts, q, steps, rest, web, pending⟩ : ∃ acts q, Steps portal (restored portal {}) acts q ∧
      AtRest portal q ∧ q.statusOf "web" = some .error ∧ q.pending = ["page"] :=
    ⟨_, _, waiting, by decide +kernel, rfl, rfl⟩
  obtain ⟨same, explained⟩ := pending_eq_stalled portal_validated steps rest
  rw [pending] at same explained
  exact ⟨acts, q, steps, rest, web, pending, same.symm, (explained "page" (.head _)).2⟩

/-! ## Until something is asked for -/

def Unasked (acts : List Act) : Prop := ∀ name write, Act.accepted name write ∉ acts

/-- A failure that something needs stays one until it is asked for again. -/
theorem Turn.failure_stays {after : Option Entry} {status : Option Status}
    (turn : Turn m q name act after status) (he : q.get? name = some e) (failed : e.isFailure)
    (needed : q.isNeeded name = true) (unasked : Unasked [act]) : after = some e := by
  cases turn with
  | untouched => exact he
  | accepted persist write => exact absurd List.mem_cons_self (unasked name write)
  | discovered _ _ missing =>
    rw [he] at missing
    cases missing
  | launched tracked active =>
    cases he.symm.trans tracked
    simp [Entry.isActive, Entry.isSettled, failed.1, failed.2, Status.isTerminal] at active
  | ended _ _ tracked running =>
    cases he.symm.trans tracked
    rw [failed.1] at running
    cases running
  | evicted _ tracked useless =>
    have useful := (isEvictable_iff.1 useless).2.2
    rw [needed] at useful
    cases useful

/-- So does an entry that a scan would not leave alone but whose needs are not done. -/
theorem Turn.unready_stays {after : Option Entry} {status : Option Status}
    (turn : Turn m q name act after status) (he : q.get? name = some e) (active : e.isActive = true)
    (unready : ¬ q.isReady e = true) (unasked : Unasked [act]) : after = some e := by
  cases turn with
  | untouched => exact he
  | accepted persist write => exact absurd List.mem_cons_self (unasked name write)
  | discovered _ _ missing =>
    rw [he] at missing
    cases missing
  | launched tracked _ ready =>
    cases he.symm.trans tracked
    exact absurd ready unready
  | ended _ _ tracked running =>
    cases he.symm.trans tracked
    simp [Entry.isActive, running] at active
  | evicted _ tracked useless =>
    cases he.symm.trans tracked
    obtain ⟨ended, always, -⟩ := isEvictable_iff.1 useless
    simp [Entry.isActive, Entry.isSettled, ended, always] at active

theorem Held.undone (held : Held q name) (sound : Sound m q) : q.statusOf name ≠ some .done := by
  intro done
  obtain ⟨e, he, active⟩ := held.tracked
  obtain ⟨e', he', hd⟩ := statusOf_eq_some.1 done
  cases he.symm.trans he'
  rcases (sound.active_iff he).1 active with waits | ⟨failed, -⟩
  · rw [waits] at hd
    cases hd
  · rw [failed] at hd
    cases hd

/-- What is held stays as it is, and held, under every act but a request. -/
theorem Held.step (held : Held q name) (sound : Sound m q) (step : Step m q act q')
    (unasked : Unasked [act]) : q'.get? name = q.get? name ∧ Held q' name := by
  have stays : ∀ {name need : String} {e : Entry}, q.get? name = some e → e.isActive = true →
      need ∈ e.command.needs → q.statusOf need ≠ some .done → q'.get? name = some e := by
    intro name need e he active mem undone
    obtain ⟨status, turn, -⟩ := step.turn name
    exact turn.unready_stays he active (fun ready => undone (isReady_iff.1 ready need mem)) unasked
  -- By induction on what holds it: the failure stays because something needs it, and whatever needs
  -- what stays undone is not ready.
  induction held with
  | @failure name need e f tracked active mem found failed =>
    have undone : q.statusOf need ≠ some .done := by
      rw [statusOf, found, Option.map_some, failed.1]
      decide
    have here := stays tracked active mem undone
    obtain ⟨status, turn, -⟩ := step.turn need
    have there := turn.failure_stays found failed (isNeeded_of_mem tracked mem) unasked
    exact ⟨here.trans tracked.symm, .failure here active mem there failed⟩
  | behind tracked active mem held ih =>
    have here := stays tracked active mem (held.undone sound)
    exact ⟨here.trans tracked.symm, .behind here active mem ih.2⟩

/-- What is held is not launched. -/
theorem Held.unlaunched (held : Held q name) (sound : Sound m q) :
    ∀ l ∈ (q.scan m).2.launches, l.name ≠ name := by
  rintro l launched rfl
  obtain ⟨e, he, -, -, -, after⟩ := mem_launches launched
  have same := (held.step sound .scan (by simp [Unasked])).1
  rw [after, he] at same
  have launches := congrArg Entry.launches (Option.some.inj same)
  exact absurd launches (Nat.succ_ne_self _)

theorem Held.steps (held : Held q name) (sound : Sound m q) (onward : Steps m q more q')
    (unasked : Unasked more) :
    q'.get? name = q.get? name ∧ Held q' name ∧ ¬ LaunchedIn more name := by
  induction onward with
  | none => exact ⟨rfl, held, fun ⟨_, mem, _⟩ => by cases mem⟩
  | @more past act q₁ q₂ earlier step ih =>
    obtain ⟨same, held₁, unlaunched⟩ := ih fun asked write mem =>
      unasked asked write (List.mem_cons_of_mem _ mem)
    have sound₁ := earlier.sound sound
    obtain ⟨same₁, held₂⟩ := held₁.step sound₁ step fun asked write mem =>
      unasked asked write (List.mem_singleton.1 mem ▸ List.mem_cons_self)
    refine ⟨same₁.trans same, held₂, ?_⟩
    rintro ⟨act', mem, l, hl, named⟩
    rcases List.mem_cons.1 mem with rfl | mem
    · cases step with
      | scan => exact held₁.unlaunched sound₁ l hl named
      | accept | refuse | complete | evict => cases hl
    · exact unlaunched ⟨act', mem, l, hl, named⟩

/-- **What waits and is held is stalled for good.** It is listed as stalled, stays as it is and is not
launched, whatever happens, until something is asked for. At rest all that is listed is held. -/
theorem held_until_asked (validated : m.Validated) (h : Steps m (restored m first) acts q) :
    (∀ name, q.statusOf name = some .waiting → Held q name →
      ∀ more q', Steps m q more q' → Unasked more →
        name ∈ q'.stalled ∧ q'.get? name = q.get? name ∧ ¬ LaunchedIn more name) ∧
      (AtRest m q → ∀ name ∈ q.stalled, Held q name) := by
  have sound := h.sound (sound_restored m first)
  have wf := validated.wellFormed
  refine ⟨fun name waits held more q' onward unasked => ?_, fun rest name listed => ?_⟩
  · obtain ⟨same, held', unlaunched⟩ := held.steps sound onward unasked
    have waits' : q'.statusOf name = some .waiting := by
      rw [statusOf, same]
      exact waits
    exact ⟨held'.stalled (onward.sound sound) wf waits', same, unlaunched⟩
  · obtain ⟨e, he, hs⟩ := statusOf_eq_some.1 (mem_stalled_iff.1 listed).1
    exact rest.held sound wf he ((sound.active_iff he).2 (.inl hs))

/-- The application has failed, and the page waits for the server behind it. That the database, which
is asked for again, succeeds once more changes nothing for the page. -/
theorem held_until_asked_page :
    ∃ acts q more q', Steps portal (restored portal {}) acts q ∧ Steps portal q more q' ∧
      q.statusOf "db" = some .running ∧ q'.statusOf "db" = some .done ∧ "page" ∈ q'.stalled ∧
      q'.statusOf "page" = some .waiting ∧ ¬ LaunchedIn more "page" := by
  have asked : Steps portal (restored portal {}) _ _ := .more .none (.accept "page" true rfl)
  have found := ((asked.more .scan).more .scan).more .scan
  have db := (found.more .scan).more (.complete "db" .succeeded rfl)
  have app := (db.more .scan).more (.complete "app" .failed rfl)
  have again := (app.more (.accept "db" true rfl)).more .scan
  obtain ⟨stalled, same, unlaunched⟩ := (held_until_asked portal_validated again).1 "page" rfl
    (.behind rfl rfl (.head _) (.failure rfl rfl (.head _) rfl ⟨rfl, by decide⟩)) _ _
    ((Steps.none.more (.complete "db" .succeeded rfl)).more .scan) (by simp [Unasked])
  exact ⟨_, _, _, _, again, (Steps.none.more (.complete "db" .succeeded rfl)).more .scan, rfl, rfl,
    stalled, rfl, unlaunched⟩

/-- The server waits and is listed as stalled, for the database that its application needs has been
asked for again and has failed. But the application is done, so the next scan launches the server. -/
theorem stalled_yet_launched :
    portal.Validated ∧ ∃ acts q, Steps portal (restored portal {}) acts q ∧ "web" ∈ q.stalled ∧
      (q.scan portal).2.launches.map Launch.name = ["web"] ∧
      (q.scan portal).1.statusOf "web" = some .running := by
  have asked : Steps portal (restored portal {}) _ _ := .more .none (.accept "app" false rfl)
  have db := ((asked.more .scan).more .scan).more (.complete "db" .succeeded rfl)
  have app := (db.more .scan).more (.complete "app" .succeeded rfl)
  have again := ((app.more (.accept "db" false rfl)).more .scan).more (.complete "db" .failed rfl)
  have waiting := again.more (.accept "web" false rfl)
  refine ⟨portal_validated, _, _, waiting, mem_stalled_iff.2 ⟨rfl, isBlocked_iff.2 ⟨rfl, ?_⟩⟩, rfl, rfl⟩
  exact ⟨"db", _, by decide, .tail (.single (b := "app") ⟨.head _, rfl⟩) ⟨.head _, rfl⟩, rfl, rfl,
    by decide⟩

end Supervisor.Queue
