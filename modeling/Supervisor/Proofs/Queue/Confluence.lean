import Mathlib.Data.List.Find
import Supervisor.Proofs.Queue.Schedule

/-!
# Every schedule ends alike

Discovery goes by whole scans: a command that needs something unknown to the queue cannot have been
launched, so what the n-th scan takes in, and whose persistence it takes over, does not depend on
which launches have ended by then. Once at rest, how each command has ended up is a matter of which
commands fail and of nothing else. Together this leaves one queue for all schedules to end in.
-/

namespace Supervisor.Queue

open Relation (ReflTransGen TransGen)

variable {m : Manifest} {fails : String → Bool} {roots : List (String × Bool)} {q q' q₀ : Queue}
  {name need : String} {e : Entry} {acts acts' : List Act}

/-! ## What is in the queue -/

/-- The commands in the queue and whether their statuses are kept, however far they have got. -/
def shape (q : Queue) : NameMap (Command × Bool) := q.map fun _ e => (e.command, e.persist)

/-- What a scan makes of a shape at one name. -/
def grown (m : Manifest) (s : NameMap (Command × Bool)) (name : String) : Option (Command × Bool) :=
  (s.get? name).or
    ((s.values.find? fun d => d.1.needs.contains name).bind fun d =>
      (m.get? name).map fun command => (command, keeps command d.2))

/-- Scans alone, without any launch ending. -/
def scans (m : Manifest) : Nat → Queue → Queue
  | 0, q => q
  | k + 1, q => ((scans m k q).scan m).1

def Act.isScan : Act → Bool
  | scanned _ => true
  | _ => false

theorem get?_shape (q : Queue) (name : String) :
    (shape q).get? name = (q.get? name).map fun e => (e.command, e.persist) :=
  NameMap.get?_map ..

theorem values_shape (q : Queue) :
    (shape q).values = q.values.map fun e => (e.command, e.persist) := by
  rw [NameMap.values, NameMap.values, shape, NameMap.map, List.map_map, List.map_map]
  rfl

/-- What needs a command that is not in the queue waits, so being left alone plays no part. -/
theorem Underway.seeker?_eq (h : Underway m roots fails q) (orderly : Orderly m roots)
    (missing : q.get? name = none) :
    seeker? q.values name = q.values.find? fun e => e.command.needs.contains name := by
  refine List.find?_congr fun e mem => ?_
  obtain ⟨other, he⟩ := mem_values.1 mem
  cases needed : e.command.needs.contains name with
  | false => rw [Bool.and_false]
  | true =>
    rw [Bool.and_true, h.active_iff orderly he]
    by_contra began
    have done := isReady_iff.1 ((h.fair other e he).ready began) name (List.contains_iff_mem.1 needed)
    rw [statusOf, missing] at done
    cases done

theorem Underway.shape_scan (h : Underway m roots fails q) (orderly : Orderly m roots)
    (name : String) : (shape (q.scan m).1).get? name = grown m (shape q) name := by
  rw [get?_shape, grown, get?_shape]
  cases he : q.get? name with
  | some e =>
    rw [h.scan_tracked orderly he]
    split <;> rfl
  | none =>
    rw [h.sound.scan_missing he, h.seeker?_eq orderly he, values_shape, List.find?_map]
    rw [Option.map_none, Option.none_or, Option.map_bind, Option.bind_map]
    congr 1
    funext d
    simp only [Function.comp, neededEntry, Option.map_map]
    rfl

theorem shape_complete (running : q.statusOf name = some .running) :
    shape (q.complete name (outcome fails name)).1 = shape q := by
  obtain ⟨e, he, -⟩ := statusOf_eq_some.1 running
  refine NameMap.ext fun other => ?_
  rw [get?_shape, get?_shape, get?_complete he]
  by_cases hn : other = name
  · rw [if_pos hn, hn, he]
    rfl
  · rw [if_neg hn]

theorem Underway.shape_congr (h : Underway m roots fails q) (h' : Underway m roots fails q')
    (orderly : Orderly m roots) (same : shape q = shape q') :
    shape (q.scan m).1 = shape (q'.scan m).1 := by
  refine NameMap.ext fun name => ?_
  rw [h.shape_scan orderly, h'.shape_scan orderly, same]

theorem Underway.scans (h : Underway m roots fails q) (orderly : Orderly m roots) (k : Nat) :
    Underway m roots fails (scans m k q) := by
  induction k with
  | zero => exact h
  | succ k ih => exact ih.scan orderly

/-- The shape depends on the number of scans alone. -/
theorem Schedule.shape_eq (h : Schedule m fails q₀ acts q) (orderly : Orderly m roots)
    (start : Underway m roots fails q₀) :
    shape q = shape (scans m (acts.countP Act.isScan) q₀) := by
  induction h with
  | none => rfl
  | scan earlier ih =>
    rw [List.countP_cons_of_pos rfl]
    exact (earlier.underway orderly start).shape_congr (start.scans orderly _) orderly ih
  | complete earlier name running ih =>
    rw [List.countP_cons_of_neg (by simp [Act.isScan]), shape_complete running]
    exact ih

/-- Once at rest, further scans change nothing. -/
theorem AtRest.shape_stays (rest : AtRest m q) (h : Schedule m fails q₀ acts q)
    (orderly : Orderly m roots) (start : Underway m roots fails q₀) (more : Nat) :
    shape (scans m (acts.countP Act.isScan + more) q₀) = shape q := by
  induction more with
  | zero => exact (h.shape_eq orderly start).symm
  | succ more ih =>
    have next := (start.scans orderly _).shape_congr (h.underway orderly start) orderly ih
    rw [scan_idle rest.idle] at next
    exact next

theorem AtRest.shape_eq (rest : AtRest m q) (rest' : AtRest m q') (h : Schedule m fails q₀ acts q)
    (h' : Schedule m fails q₀ acts' q') (orderly : Orderly m roots)
    (start : Underway m roots fails q₀) : shape q = shape q' := by
  rcases Nat.le_total (acts.countP Act.isScan) (acts'.countP Act.isScan) with le | le
  · obtain ⟨more, hk⟩ := Nat.exists_eq_add_of_le le
    rw [h'.shape_eq orderly start, hk]
    exact (rest.shape_stays h orderly start more).symm
  · obtain ⟨more, hk⟩ := Nat.exists_eq_add_of_le le
    rw [h.shape_eq orderly start, hk]
    exact rest'.shape_stays h' orderly start more

/-! ## How commands end up -/

/-- How a command ends up, in terms of the commands that fail. -/
structure Verdict (m : Manifest) (fails : String → Bool) (q : Queue) (name : String) : Prop where
  done : q.statusOf name = some .done ↔ ∀ x, ReflTransGen m.Requires name x → fails x = false
  error : q.statusOf name = some .error ↔
    fails name = true ∧ ∀ x, TransGen m.Requires name x → fails x = false
  otherwise : q.statusOf name ≠ some .done → q.statusOf name ≠ some .error →
    q.statusOf name = some .waiting ∧ name ∈ q.stalled
  launches : q.launchCount name = if q.statusOf name = some .waiting then 0 else 1

theorem Underway.requires_done (h : Underway m roots fails q) (he : q.get? name = some e)
    (began : e.status ≠ .waiting) (requires : m.Requires name need) :
    q.statusOf need = some .done := by
  obtain ⟨command, hc, mem⟩ := requires
  obtain rfl := h.sound.command_eq he hc
  exact isReady_iff.1 ((h.fair name e he).ready began) need mem

/-- Where a command is done, so is all that it depends on, and none of it fails. -/
theorem Underway.done_below (h : Underway m roots fails q) (done : q.statusOf name = some .done)
    (leads : ReflTransGen m.Requires name need) : fails need = false := by
  have below : q.statusOf need = some .done := by
    induction leads with
    | refl => exact done
    | tail _ requires ih =>
      obtain ⟨e, he, hs⟩ := statusOf_eq_some.1 ih
      exact h.requires_done he (by rw [hs]; decide) requires
  obtain ⟨e, he, hs⟩ := statusOf_eq_some.1 below
  exact (h.fair need e he).done hs

/-- At rest everything wanted is in the queue. -/
theorem AtRest.wanted (rest : AtRest m q) (h : Underway m roots fails q) (wf : m.WellFormed)
    (wanted : name ∈ Wanted m roots) : ∃ e, q.get? name = some e := by
  obtain ⟨root, hr, leads⟩ := wanted
  induction leads with
  | refl => exact h.asked root hr
  | @tail before last _ requires ih =>
    obtain ⟨e, he⟩ := ih
    -- While it waits, a scan at rest would have taken the need in; once launched, the need is done.
    by_cases waits : e.status = .waiting
    · obtain ⟨command, hc, mem⟩ := id requires
      obtain rfl := h.sound.command_eq he hc
      have known := Option.isSome_iff_exists.2 (wf.known requires)
      exact rest.tracked h.sound he ((h.sound.active_iff he).2 (.inl waits)) mem known
    · obtain ⟨d, hd, -⟩ := statusOf_eq_some.1 (h.requires_done he waits requires)
      exact ⟨d, hd⟩

/-- At rest a command waits only if something it depends on fails. -/
theorem AtRest.waits (rest : AtRest m q) (h : Underway m roots fails q) (wf : m.WellFormed)
    (he : q.get? name = some e) (waits : e.status = .waiting) :
    ∃ x, TransGen m.Requires name x ∧ fails x = true := by
  obtain ⟨x, f, leads, hf, failed⟩ :=
    rest.blocked h.sound wf he ((h.sound.active_iff he).2 (.inl waits))
  have requires : Links q ≤ m.Requires := fun _ _ link => h.sound.links link
  exact ⟨x, TransGen.mono requires _ _ leads, (h.fair x f hf).error failed.1⟩

theorem verdict_waiting {x : String} (waits : q.statusOf name = some .waiting)
    (listed : name ∈ q.stalled) (launches : q.launchCount name = 0)
    (leads : TransGen m.Requires name x) (failing : fails x = true) : Verdict m fails q name := by
  refine ⟨⟨fun done => ?_, fun fine => ?_⟩, ⟨fun error => ?_, fun fine => ?_⟩,
    fun _ _ => ⟨waits, listed⟩, ?_⟩
  · rw [waits] at done
    cases done
  · rw [fine x leads.to_reflTransGen] at failing
    cases failing
  · rw [waits] at error
    cases error
  · rw [fine.2 x leads] at failing
    cases failing
  · rw [launches, if_pos waits]

theorem verdict_done (done : q.statusOf name = some .done) (launches : q.launchCount name = 1)
    (fine : ∀ x, ReflTransGen m.Requires name x → fails x = false) : Verdict m fails q name := by
  refine ⟨⟨fun _ => fine, fun _ => done⟩, ⟨fun error => ?_, fun failing => ?_⟩,
    fun undone => absurd done undone, ?_⟩
  · rw [done] at error
    cases error
  · rw [fine name .refl] at failing
    cases failing.1
  · rw [launches, done, if_neg (by decide)]

theorem verdict_error (error : q.statusOf name = some .error) (launches : q.launchCount name = 1)
    (failing : fails name = true) (fine : ∀ x, TransGen m.Requires name x → fails x = false) :
    Verdict m fails q name := by
  refine ⟨⟨fun done => ?_, fun sound => ?_⟩, ⟨fun _ => ⟨failing, fine⟩, fun _ => error⟩,
    fun _ other => absurd error other, ?_⟩
  · rw [error] at done
    cases done
  · rw [sound name .refl] at failing
    cases failing
  · rw [launches, error, if_neg (by decide)]

theorem AtRest.verdict (rest : AtRest m q) (h : Underway m roots fails q) (wf : m.WellFormed)
    (wanted : name ∈ Wanted m roots) : Verdict m fails q name := by
  obtain ⟨e, he⟩ := rest.wanted h wf wanted
  have here : q.statusOf name = some e.status := statusOf_eq_some.2 ⟨e, he, rfl⟩
  have launches : q.launchCount name = if e.status = .waiting then 0 else 1 := by
    rw [launchCount, he, Option.map_some, Option.getD_some, (h.fair name e he).launches]
  cases hs : e.status with
  | waiting =>
    rw [hs] at here launches
    obtain ⟨x, leads, failing⟩ := rest.waits h wf he hs
    exact verdict_waiting here (rest.stalled h.sound wf here) launches leads failing
  | running =>
    rw [hs] at here
    exact absurd here (rest.still name)
  | done =>
    rw [hs] at here launches
    exact verdict_done here launches fun x leads => h.done_below here leads
  | error =>
    rw [hs] at here launches
    refine verdict_error here launches ((h.fair name e he).error hs) fun x leads => ?_
    -- It was launched, so its own needs are done, and nothing below a done command fails.
    obtain ⟨next, requires, below⟩ := TransGen.head'_iff.1 leads
    exact h.done_below (h.requires_done he (by rw [hs]; decide) requires) below

/-- Two verdicts on a command agree, whatever the queues. -/
theorem Verdict.status_eq (v : Verdict m fails q name) (v' : Verdict m fails q' name) :
    q.statusOf name = q'.statusOf name := by
  by_cases done : q.statusOf name = some .done
  · rw [done, v'.done.2 (v.done.1 done)]
  · by_cases error : q.statusOf name = some .error
    · rw [error, v'.error.2 (v.error.1 error)]
    · have done' := fun h => done (v.done.2 (v'.done.1 h))
      have error' := fun h => error (v.error.2 (v'.error.1 h))
      rw [(v.otherwise done error).1, (v'.otherwise done' error').1]

theorem AtRest.unique (rest : AtRest m q) (rest' : AtRest m q') (h : Schedule m fails q₀ acts q)
    (h' : Schedule m fails q₀ acts' q') (wf : m.WellFormed) (orderly : Orderly m roots)
    (start : Underway m roots fails q₀) : q = q' := by
  have now := h.underway orderly start
  have now' := h'.underway orderly start
  refine NameMap.ext fun name => ?_
  have same := congrArg (fun s => s.get? name) (rest.shape_eq rest' h h' orderly start)
  simp only [get?_shape] at same
  cases he : q.get? name with
  | none =>
    rw [he] at same
    exact (Option.map_eq_none_iff.1 same.symm).symm
  | some e =>
    rw [he, Option.map_some] at same
    obtain ⟨e', he', alike⟩ := Option.map_eq_some_iff.1 same.symm
    have wanted := now.wanted name e he
    have status := (rest.verdict now wf wanted).status_eq (rest'.verdict now' wf wanted)
    rw [statusOf, statusOf, he, he', Option.map_some, Option.map_some, Option.some.injEq] at status
    have launches : e.launches = e'.launches := by
      rw [(now.fair name e he).launches, (now'.fair name e' he').launches, status]
    obtain ⟨command, persist⟩ := Prod.mk.inj alike
    rw [he']
    cases e
    cases e'
    simp_all only

/-- **Scheduling is confluent and comes to rest.** Commands of a validated manifest are asked for,
each once, none of which depends on a `restart` command, and it is known which commands fail. In every
schedule at most twice as many scans find something to do as commands are wanted; every schedule can
be carried on to the same final queue and, when it is at rest, has come to it. There exactly the
wanted commands are in the queue, and each has ended up as the failures among what it depends on have
it. -/
theorem schedules_confluent (validated : m.Validated) (orderly : Orderly m roots)
    (fails : String → Bool) :
    ∃ q₀ final, askAll m .empty roots = .ok q₀ ∧
      (∀ acts q, Schedule m fails q₀ acts q →
        acts.countP Act.isBusy ≤ 2 * (Wanted m roots).ncard ∧
        (AtRest m q → q = final) ∧ ∃ more, Schedule m fails q more final) ∧
      AtRest m final ∧
      (∀ name, final.contains name = true ↔ name ∈ Wanted m roots) ∧
      ∀ name ∈ Wanted m roots, Verdict m fails final name := by
  have wf := validated.wellFormed
  obtain ⟨q₀, asked, underway⟩ := underway_asked orderly
  have start := underway fails
  obtain ⟨past, final, ended, rest⟩ := start.comes_to_rest wf orderly
  have now := ended.underway orderly start
  refine ⟨q₀, final, asked, fun acts q h => ⟨?_, fun here => ?_, ?_⟩, rest, fun name => ⟨fun h => ?_,
    fun wanted => ?_⟩, fun name wanted => rest.verdict now wf wanted⟩
  · exact h.busy_le wf orderly start
  · exact here.unique rest h ended wf orderly start
  · obtain ⟨more, final', onward, rest'⟩ := (h.underway orderly start).comes_to_rest wf orderly
    have same := rest'.unique rest (h.append onward) ended wf orderly start
    exact ⟨more, same ▸ onward⟩
  · obtain ⟨e, he⟩ := (NameMap.contains_iff final).1 h
    exact now.wanted name e he
  · exact (NameMap.contains_iff final).2 (rest.wanted now wf wanted)

/-- A manifest with an application that needs a database. -/
def stack : Manifest :=
  ⟨"m", none, none, .ofList [("app", ⟨"app", .always, ["db"], []⟩), ("db", ⟨"db", .always, [], []⟩)]⟩

/-- What its file states. -/
def stackDraft : Manifest.Draft :=
  ⟨"m", none, none, .ofList [("app", ⟨.always, ["db"], []⟩), ("db", ⟨.always, [], []⟩)]⟩

theorem stack_validated : stack.Validated := by
  have placed : stackDraft.needs.misplaced? = none :=
    Manifest.Needs.misplaced_none_of_rank ["db", "app"].idxOf (by decide +kernel)
  refine ⟨stackDraft, ?_⟩
  rw [Manifest.Draft.resolve, placed]
  rfl

/-- When the database fails, every schedule ends with the application waiting for it. -/
theorem schedules_confluent_stack :
    ∃ q₀ final, askAll stack .empty [("app", true)] = .ok q₀ ∧ AtRest stack final ∧
      (∀ acts q, Schedule stack (· = "db") q₀ acts q → AtRest stack q → q = final) ∧
      final.statusOf "db" = some .error ∧ "app" ∈ final.stalled := by
  have needed : stack.Requires "app" "db" := ⟨_, rfl, .head _⟩
  have bare : ∀ need, ¬ stack.Requires "db" need := by
    rintro need ⟨command, known, mem⟩
    cases known
    cases mem
  have orderly : Orderly stack [("app", true)] := by
    refine ⟨by simp, fun root hr => ?_, fun name _ command known => ?_⟩
    · obtain rfl := List.mem_singleton.1 hr
      exact ⟨_, rfl⟩
    · have always : ∀ e ∈ stack.commands.toList, e.2.policy ≠ .restart := by decide
      exact always (name, command) ((NameMap.get?_eq_some_iff _).1 known)
  obtain ⟨q₀, final, asked, all, rest, -, verdict⟩ :=
    schedules_confluent stack_validated orderly (· = "db")
  have app := verdict "app" ⟨_, List.mem_singleton_self _, .refl⟩
  have db := verdict "db" ⟨_, List.mem_singleton_self _, .single needed⟩
  refine ⟨q₀, final, asked, rest, fun acts q h => (all acts q h).2.1, ?_, ?_⟩
  · refine db.error.2 ⟨rfl, fun x leads => ?_⟩
    obtain ⟨next, requires, -⟩ := TransGen.head'_iff.1 leads
    exact absurd requires (bare next)
  · refine (app.otherwise (fun done => ?_) fun error => ?_).2
    · have fine := app.done.1 done "db" (.single needed)
      cases fine
    · have failing := (app.error.1 error).1
      cases failing

end Supervisor.Queue
