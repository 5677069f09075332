import Supervisor.Proofs.Queue.Effects

/-!
# What an act does to one name

`Turn` lists everything that can become of one name in one act: its entry afterwards and the status
written for it. `Step.turn` shows that the list is complete, so an invariant of single entries, or of
entries and the record, is one case analysis over it. In a scan a name is discovered or launched at
most once, and what decides is the queue as it was before.
-/

namespace Supervisor.Queue

variable {m : Manifest} {q q' : Queue} {name other : String} {act : Act}

/-- The status of a write that is made for those entries only whose statuses are kept. -/
def written (persist : Bool) (status : Status) : Option Status := if persist then some status else none

inductive Turn (m : Manifest) (q : Queue) (name : String) : Act → Option Entry → Option Status → Prop
  | untouched {act : Act} (h : name ∉ act.touched) : Turn m q name act (q.get? name) none
  | accepted {command : Command} (persist : Bool) (write : Option StatusWrite)
      (granted : Granted m q name command) :
      Turn m q name (.accepted name write)
        (some (askedEntry command (keeps command persist) (q.get? name)))
        (written (keeps command persist) .waiting)
  | discovered {command : Command} {pass : Pass} (persist : Bool)
      (known : m.get? name = some command) (missing : q.get? name = none)
      (once : pass.discovered.count name = 1) (still : name ∉ pass.launches.map Launch.name) :
      Turn m q name (.scanned pass)
        (some (Entry.fresh command .waiting (keeps command persist)))
        (written (keeps command persist) .waiting)
  | launched {e : Entry} {pass : Pass} (tracked : q.get? name = some e) (active : e.isActive = true)
      (ready : q.isReady e = true) (old : name ∉ pass.discovered)
      (once : (pass.launches.filter fun l => l.name = name) = [⟨name, e.command⟩]) :
      Turn m q name (.scanned pass) (some e.launched) (written e.persist .running)
  | ended {e : Entry} (outcome : Outcome) (write : Option StatusWrite)
      (tracked : q.get? name = some e) (running : e.status = .running) :
      Turn m q name (.ended name outcome write)
        (some { e with status := endedStatus e.command outcome }) (endedWrite e outcome)
  | evicted {e : Entry} (names : List String) (tracked : q.get? name = some e)
      (useless : q.isEvictable name e = true) : Turn m q name (.evicted names) none none

/-! ## Writes for one name -/

/-- The writes leave the record with this status for the name, if they are about it. -/
def Writes (writes : List StatusWrite) (name : String) (status : Option Status) : Prop :=
  ∀ r : Record, (r.keep writes).statusOf name = status.or (r.statusOf name)

theorem writes_nil (name : String) : Writes [] name none := fun _ => rfl

theorem Writes.append {ws more : List StatusWrite} {status : Option Status}
    (h : Writes ws name status) (status' : Option Status) (h' : Writes more name status') :
    Writes (ws ++ more) name (status'.or status) := by
  intro r
  rw [Record.keep_append, h', h, Option.or_assoc]

theorem writes_toList (name other : String) (status : Option Status) :
    Writes (status.map (StatusWrite.mk name)).toList other
      (if other = name then status else none) := by
  intro r
  cases status with
  | none => simp [Record.keep]
  | some status =>
    have h := Record.statusOf_setStatus r name other status
    by_cases hn : other = name
    · simpa [Record.keep, hn] using h
    · simpa [Record.keep, hn] using h

theorem writes_self (name : String) (status : Option Status) :
    Writes (status.map (StatusWrite.mk name)).toList name status := by
  simpa using writes_toList name name status

theorem writes_other (h : other ≠ name) (status : Option Status) :
    Writes (status.map (StatusWrite.mk name)).toList other none := by
  simpa [h] using writes_toList name other status

theorem entry_write (e : Entry) (name : String) (status : Status) :
    e.write name status = (written e.persist status).map (StatusWrite.mk name) := by
  cases h : e.persist <;> simp [Entry.write, written, h]

theorem asked_write (name : String) (kept : Bool) :
    (if kept then some ⟨name, .waiting⟩ else none) =
      (written kept .waiting).map (StatusWrite.mk name) := by
  cases kept <;> rfl

/-! ## A scan in its course -/

/-- Where a scan has got to, seen from one name. -/
def Course (m : Manifest) (q s : Queue) (p : Pass) (name : String) : Prop :=
  ∃ status, Turn m q name (.scanned p) (s.get? name) status ∧ Writes p.writes name status

theorem course_start (m : Manifest) (q : Queue) (name : String) : Course m q q {} name :=
  ⟨none, .untouched (by simp [Act.touched]), writes_nil name⟩

theorem launchesOf_eq_nil {p : Pass} :
    (p.launches.filter fun l => l.name = name) = [] ↔ name ∉ p.launches.map Launch.name := by
  simp only [List.filter_eq_nil_iff, decide_eq_true_eq, List.mem_map, not_exists, not_and]

theorem not_mem_touched_scanned {p : Pass} :
    name ∉ (Act.scanned p).touched ↔
      p.discovered.count name = 0 ∧ (p.launches.filter fun l => l.name = name) = [] := by
  rw [launchesOf_eq_nil, List.count_eq_zero, Act.touched, List.mem_append, not_or]

/-- A turn of one name does not depend on what the scan does to others. -/
theorem Turn.scanned_congr {p p' : Pass} {after : Option Entry} {status : Option Status}
    (h : Turn m q name (.scanned p) after status)
    (discovered : p'.discovered.count name = p.discovered.count name)
    (launches : (p'.launches.filter fun l => l.name = name) =
      p.launches.filter fun l => l.name = name) :
    Turn m q name (.scanned p') after status := by
  cases h with
  | untouched h =>
    apply Turn.untouched
    rw [not_mem_touched_scanned] at h ⊢
    rwa [discovered, launches]
  | discovered persist known missing once still =>
    refine .discovered persist known missing (discovered.trans once) ?_
    rw [← launchesOf_eq_nil] at still ⊢
    rwa [launches]
  | launched tracked active ready old once =>
    refine .launched tracked active ready ?_ (launches.trans once)
    rw [← List.count_eq_zero] at old ⊢
    rwa [discovered]

/-- A need that is done in the course of a scan was done before it. -/
theorem Course.done {s : Queue} {p : Pass} (h : Course m q s p name)
    (done : s.statusOf name = some .done) : q.statusOf name = some .done := by
  obtain ⟨e, he, hd⟩ := statusOf_eq_some.1 done
  obtain ⟨status, turn, -⟩ := h
  generalize ha : s.get? name = after at turn
  generalize hp : Act.scanned p = act at turn
  cases turn with
  | untouched => rw [statusOf, ← ha, he]; simp [hd]
  | discovered => rw [ha] at he; cases he; cases hd
  | launched => rw [ha] at he; cases he; cases hd
  | accepted | ended | evicted => cases hp

theorem Course.discover {s s' : Queue} {p : Pass} {need : String} {persist : Bool}
    {write : Option StatusWrite} (h : ∀ name, Course m q s p name) (missing : s.get? need = none)
    (asked : s.enqueue m need persist = .ok (s', write)) (name : String) :
    Course m q s' (p.discover need write) name := by
  obtain ⟨command, granted, rfl, hw⟩ := enqueue_eq_ok asked
  rw [asked_write] at hw
  obtain ⟨status, turn, writes⟩ := h name
  by_cases hn : name = need
  · subst hn
    -- Missing in the course of the scan, it was missing before and has not been touched.
    rw [missing] at turn ⊢
    generalize ha : (none : Option Entry) = after at turn
    cases turn with
    | untouched new =>
      rw [not_mem_touched_scanned] at new
      have still := launchesOf_eq_nil.1 new.2
      refine ⟨written (keeps command persist) .waiting, ?_, ?_⟩
      · rw [NameMap.get?_insert_self, ← ha]
        refine .discovered persist granted.known ha.symm ?_ still
        rw [Pass.discover_discovered, List.count_append, new.1, List.count_singleton_self]
      · rw [Pass.discover_writes, hw]
        simpa using writes.append _ (writes_self name _)
    | discovered => cases ha
    | launched => cases ha
  · refine ⟨status, ?_, ?_⟩
    · rw [NameMap.get?_insert_of_ne _ _ hn]
      exact turn.scanned_congr (by simp [Ne.symm hn]) rfl
    · rw [Pass.discover_writes, hw]
      simpa using writes.append _ (writes_other hn _)

theorem Course.launch {s : Queue} {p : Pass} {launched : String} {e : Entry}
    (h : ∀ name, Course m q s p name) (tracked : (q.get? launched).isSome = true)
    (he : s.get? launched = some e) (active : e.isActive = true) (ready : s.isReady e = true)
    (name : String) : Course m q (s.insert launched e.launched) (p.launch launched e) name := by
  have before : q.isReady e = true :=
    isReady_iff.2 fun need hm => (h need).done (isReady_iff.1 ready need hm)
  obtain ⟨status, turn, writes⟩ := h name
  have hw := entry_write e launched .running
  by_cases hn : name = launched
  · subst hn
    rw [he] at turn
    generalize ha : some e = after at turn
    cases turn with
    | untouched new =>
      rw [not_mem_touched_scanned] at new
      refine ⟨written e.persist .running, ?_, ?_⟩
      · rw [NameMap.get?_insert_self]
        exact .launched ha.symm active before (List.count_eq_zero.1 new.1)
          (by simp [new.2])
      · rw [Pass.launch_writes, hw]
        simpa using writes.append _ (writes_self name _)
    | discovered _ _ missing => simp [missing] at tracked
    | launched => cases ha; simp [Entry.isActive, Entry.launched] at active
  · refine ⟨status, ?_, ?_⟩
    · rw [NameMap.get?_insert_of_ne _ _ hn]
      exact turn.scanned_congr rfl (by simp [Ne.symm hn])
    · rw [Pass.launch_writes, hw]
      simpa using writes.append _ (writes_other hn _)

theorem course_scan (m : Manifest) (q : Queue) (name : String) :
    Course m q (q.scan m).1 (q.scan m).2 name := by
  have keeps : ScanKeeps m q fun s p => ∀ name, Course m q s p name :=
    ⟨Course.discover, Course.launch⟩
  exact keeps.scan (course_start m q) name

/-- What a scan launches was not left alone, had its needs done before the scan, and runs after it. -/
theorem mem_launches {l : Launch} (h : l ∈ (q.scan m).2.launches) :
    ∃ e, q.get? l.name = some e ∧ e.isActive = true ∧ q.isReady e = true ∧
      l.command = e.command ∧ (q.scan m).1.get? l.name = some e.launched := by
  obtain ⟨status, turn, -⟩ := course_scan m q l.name
  have mem : l.name ∈ (q.scan m).2.launches.map Launch.name := List.mem_map_of_mem h
  generalize ha : (q.scan m).1.get? l.name = after at turn
  cases turn with
  | untouched new => exact absurd (List.mem_append_right _ mem) new
  | discovered _ _ _ _ still => exact absurd mem still
  | @launched e _ tracked active ready _ once =>
    have found : l ∈ (q.scan m).2.launches.filter fun l' => l'.name = l.name :=
      List.mem_filter.2 ⟨h, by simp⟩
    rw [once, List.mem_singleton] at found
    exact ⟨e, tracked, active, ready, by rw [found], rfl⟩

/-! ## All acts -/

/-- Whatever the act, each name takes one of the turns, and the writes leave the record with the
status that belongs to it. -/
theorem Step.turn (h : Step m q act q') (name : String) :
    ∃ status, Turn m q name act (q'.get? name) status ∧ Writes act.writes name status := by
  cases h with
  | @accept asked persist _ write h =>
    obtain ⟨command, granted, rfl, hw⟩ := enqueue_eq_ok h
    rw [asked_write] at hw
    by_cases hn : name = asked
    · subst hn
      rw [NameMap.get?_insert_self]
      refine ⟨_, .accepted persist write granted, ?_⟩
      rw [Act.writes, hw]
      exact writes_self name _
    · rw [NameMap.get?_insert_of_ne _ _ hn]
      refine ⟨none, .untouched (by simpa [Act.touched] using hn), ?_⟩
      rw [Act.writes, hw]
      exact writes_other hn _
  | refuse => exact ⟨none, .untouched (by simp [Act.touched]), writes_nil name⟩
  | scan => exact course_scan m q name
  | @complete ending outcome running =>
    obtain ⟨e, he, hs⟩ := statusOf_eq_some.1 running
    rw [complete_eq he]
    by_cases hn : name = ending
    · subst hn
      rw [NameMap.get?_insert_self]
      exact ⟨_, .ended outcome _ he hs, writes_self name _⟩
    · rw [NameMap.get?_insert_of_ne _ _ hn]
      exact ⟨none, .untouched (by simpa [Act.touched] using hn), writes_other hn _⟩
  | evict =>
    refine ⟨none, ?_, writes_nil name⟩
    rw [get?_evict]
    by_cases hn : name ∈ q.evict.2
    · obtain ⟨e, he, useless⟩ := mem_evicted.1 hn
      rw [he, Option.filter, useless]
      exact .evicted _ he useless
    · have kept : (q.get? name).filter (fun e => !q.isEvictable name e) = q.get? name := by
        cases he : q.get? name with
        | none => rfl
        | some e =>
          have useful : q.isEvictable name e = false :=
            Bool.eq_false_iff.2 fun useless => hn (mem_evicted.2 ⟨e, he, useless⟩)
          simp [Option.filter, useful]
      rw [kept]
      exact .untouched hn

/-- The entry of a command that runs is left alone by every act but the noting of its end. -/
theorem Step.running_stays {e : Entry} (step : Step m q act q') (he : q.get? name = some e)
    (running : e.status = .running) : q'.get? name = some e ∨
      ∃ outcome write, act = .ended name outcome write ∧
        q'.get? name = some { e with status := endedStatus e.command outcome } := by
  obtain ⟨status, turn, -⟩ := step.turn name
  generalize q'.get? name = after at turn ⊢
  cases turn with
  | untouched => exact .inl he
  | accepted _ _ granted =>
    have ended := granted.ended e he
    rw [running] at ended
    cases ended
  | discovered _ _ missing =>
    rw [he] at missing
    cases missing
  | launched tracked active =>
    obtain rfl := Option.some.inj (he.symm.trans tracked)
    simp [Entry.isActive, running] at active
  | ended outcome write tracked =>
    obtain rfl := Option.some.inj (he.symm.trans tracked)
    exact .inr ⟨outcome, write, rfl, rfl⟩
  | evicted _ tracked useless =>
    obtain rfl := Option.some.inj (he.symm.trans tracked)
    have ended := (isEvictable_iff.1 useless).1
    rw [running] at ended
    cases ended

/-- A command that starts again by itself does not leave the queue. -/
theorem Step.restart_stays {e : Entry} (step : Step m q act q') (he : q.get? name = some e)
    (restart : e.command.policy = .restart) :
    ∃ e', q'.get? name = some e' ∧ e'.command.policy = .restart := by
  obtain ⟨status, turn, -⟩ := step.turn name
  generalize q'.get? name = after at turn ⊢
  cases turn with
  | untouched => exact ⟨e, he, restart⟩
  | accepted =>
    rw [he]
    exact ⟨_, rfl, restart⟩
  | discovered _ _ missing =>
    rw [he] at missing
    cases missing
  | launched tracked | ended _ _ tracked =>
    obtain rfl := Option.some.inj (he.symm.trans tracked)
    exact ⟨_, rfl, restart⟩
  | evicted _ tracked useless =>
    obtain rfl := Option.some.inj (he.symm.trans tracked)
    have always := (isEvictable_iff.1 useless).2.1
    rw [restart] at always
    cases always

end Supervisor.Queue
