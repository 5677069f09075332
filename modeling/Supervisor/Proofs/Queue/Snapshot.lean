import Supervisor.Proofs.Queue.Work

/-!
# A scan of a snapshot

A scan changes the queue as it goes, and later visits read what earlier ones have written. All the
same its pass is told by the queue as it was: what is launched, what is discovered and in which order,
and what is written. A second scan acts only for those that the first has discovered.
-/

namespace Supervisor.Queue

variable {m : Manifest} {q q' : Queue} {name need : String} {persist : Bool} {e : Entry}

/-! ## What the queue calls for -/

/-- The launches that some entries call for: of those that are not left alone and whose needs are
done. -/
def launchesFor (q : Queue) (entries : List (String × Entry)) : List Launch :=
  (entries.filter fun d => d.2.isActive && q.isReady d.2).map fun d => ⟨d.1, d.2.command⟩

/-- The known needs of an entry that are not in the queue. -/
def lacking (m : Manifest) (q : Queue) (e : Entry) : List String :=
  e.command.needs.filter fun need => !q.contains need && (m.get? need).isSome

/-- What entries lack that are not left alone, as they stand and in the order of their needs. -/
def lackingAll (m : Manifest) (q : Queue) (entries : List (String × Entry)) : List String :=
  (entries.filter fun d => d.2.isActive).flatMap fun d => lacking m q d.2

theorem mem_lackingAll {entries : List (String × Entry)} : need ∈ lackingAll m q entries ↔
    ∃ d ∈ entries, d.2.isActive = true ∧ need ∈ d.2.command.needs ∧ q.get? need = none ∧
      (m.get? need).isSome = true := by
  simp [lackingAll, lacking, NameMap.contains, and_assoc]

/-! ## Looking at needs -/

theorem contains_need (s : Scan) (need other : String) :
    (s.need m persist need).queue.contains other =
      (s.queue.contains other || (other = need && (m.get? need).isSome)) := by
  rw [NameMap.contains, NameMap.contains, get?_need, neededEntry, Option.isSome_or]
  by_cases same : other = need
  · simp [same]
  · simp [same]

theorem pass_need (m : Manifest) (persist : Bool) (s : Scan) (need : String) :
    (s.need m persist need).pass.launches = s.pass.launches ∧
      (s.need m persist need).pass.discovered = s.pass.discovered ++
        if !s.queue.contains need && (m.get? need).isSome then [need] else [] := by
  unfold Scan.need
  cases he : s.queue.get? need with
  | some e =>
    have tracked : s.queue.contains need = true := (NameMap.contains_iff _).2 ⟨e, he⟩
    by_cases done : e.status = .done <;> simp [tracked, done]
  | none =>
    have missing : s.queue.contains need = false := by rw [NameMap.contains, he]; rfl
    cases hc : m.get? need with
    | none => simp [enqueue_unknown hc]
    | some command => simp [enqueue_missing hc he, missing]

theorem pass_foldl_need (m : Manifest) (persist : Bool) (needs : List String) (s : Scan) :
    (needs.foldl (Scan.need m persist) s).pass.launches = s.pass.launches ∧
      (needs.foldl (Scan.need m persist) s).pass.discovered = s.pass.discovered ++
        (needs.filter fun need => !s.queue.contains need && (m.get? need).isSome).eraseDups := by
  induction needs generalizing s with
  | nil => simp
  | cons need needs ih =>
    obtain ⟨launches, discovered⟩ := pass_need m persist s need
    obtain ⟨launchesAll, discoveredAll⟩ := ih (s.need m persist need)
    rw [List.foldl_cons, launchesAll, discoveredAll, launches, discovered]
    refine ⟨rfl, ?_⟩
    rw [List.append_assoc, List.filter_cons]
    congr 1
    by_cases lacks : (!s.queue.contains need && (m.get? need).isSome) = true
    · -- A need that has been asked for is in the queue when it comes again.
      rw [if_pos lacks, if_pos lacks, List.eraseDups_cons, List.filter_filter, List.singleton_append]
      congr 2
      refine List.filter_congr fun other _ => ?_
      rw [Bool.and_eq_true] at lacks
      by_cases same : other = need <;> simp [contains_need, same, lacks.2]
    · rw [if_neg lacks, if_neg lacks, List.nil_append]
      congr 1
      refine List.filter_congr fun other _ => ?_
      by_cases same : other = need
      · subst same
        cases known : (m.get? other).isSome with
        | false => simp
        | true =>
          rw [known, Bool.and_true, Bool.not_eq_true, Bool.not_eq_false'] at lacks
          simp [contains_need, lacks]
      · simp [contains_need, same]

/-! ## Visits -/

theorem pass_visit {s : Scan} (tracked : s.queue.get? name = some e) (active : e.isActive = true) :
    (s.visit m name).pass.launches = s.pass.launches ++
        (if s.queue.isReady e then [⟨name, e.command⟩] else []) ∧
      (s.visit m name).pass.discovered = s.pass.discovered ++ (lacking m s.queue e).eraseDups := by
  have idle : ¬ (e.status = .running || e.isSettled) = true := by
    simpa [Entry.isActive] using active
  have ready := ready_foldl_need (m := m) e.persist e.command.needs { s with ready := true }
  rw [Bool.true_and] at ready
  obtain ⟨launches, discovered⟩ :=
    pass_foldl_need m e.persist e.command.needs { s with ready := true }
  simp only [Scan.visit, tracked]
  rw [if_neg idle]
  by_cases hr : s.queue.isReady e = true
  · rw [if_pos (ready.trans hr), if_pos hr]
    exact ⟨congrArg (· ++ _) launches, discovered⟩
  · rw [if_neg fun h => hr (ready.symm.trans h), if_neg hr, List.append_nil]
    exact ⟨launches, discovered⟩

/-- A scan has visited these entries. -/
structure Visited (m : Manifest) (q : Queue) (seen : List (String × Entry)) (s : Scan) : Prop where
  entries : ∀ name, s.queue.get? name = visitedEntry m q seen name
  launches : s.pass.launches = launchesFor q seen
  discovered : s.pass.discovered = (lackingAll m q seen).eraseDups

/-- A known name is in the queue once somebody who lacks it has been visited. -/
theorem Visited.contains {seen : List (String × Entry)} {s : Scan} (h : Visited m q seen s)
    (known : (m.get? need).isSome = true) :
    s.queue.contains need = (q.contains need || (lackingAll m q seen).contains need) := by
  rw [NameMap.contains, h.entries, Bool.eq_iff_iff, Bool.or_eq_true, List.contains_iff_mem,
    mem_lackingAll]
  cases he : q.get? need with
  | some e =>
    rw [visited_tracked he, NameMap.contains, he]
    simp
  | none =>
    obtain ⟨command, hc⟩ := Option.isSome_iff_exists.1 known
    have asked : ∀ by' : Option Entry,
        (by'.bind fun e => neededEntry m e.persist need).isSome = by'.isSome := by
      intro by'
      cases by' <;> simp [neededEntry, hc]
    rw [visited_missing he, asked, seeker?, List.find?_map, Option.isSome_map, List.find?_isSome,
      NameMap.contains, he]
    simp [hc]

theorem Visited.lacking_eq {seen : List (String × Entry)} {s : Scan} (h : Visited m q seen s)
    (e : Entry) : lacking m s.queue e = (lacking m q e).removeAll (lackingAll m q seen) := by
  rw [lacking, lacking, List.removeAll, List.filter_filter]
  refine List.filter_congr fun need _ => ?_
  cases known : (m.get? need).isSome with
  | false => simp
  | true => simp [h.contains known, Bool.and_comm]

theorem Visited.visit {seen rest : List (String × Entry)} {s : Scan} (sound : Sound m q)
    (split : q.toList = seen ++ (name, e) :: rest) (h : Visited m q seen s) :
    Visited m q (seen ++ [(name, e)]) (s.visit m name) := by
  have now := (h.entries name).trans (visited_next split).2
  refine ⟨visited_visit sound split h.entries, ?_, ?_⟩
  · rw [launchesFor, List.filter_append, List.map_append, ← launchesFor, ← h.launches]
    cases active : e.isActive with
    | false => simp [visit_inactive now active, active]
    | true =>
      rw [(pass_visit now active).1, visited_isReady sound h.entries]
      by_cases ready : q.isReady e = true <;> simp [active, ready]
  · rw [lackingAll, List.filter_append, List.flatMap_append, ← lackingAll, List.eraseDups_append,
      ← h.discovered]
    cases active : e.isActive with
    | false => simp [visit_inactive now active, active, List.removeAll]
    | true =>
      rw [(pass_visit now active).2, h.lacking_eq]
      simp [active]

theorem visited_scan (sound : Sound m q) :
    Visited m q q.toList (q.keys.foldl (Scan.visit m) ⟨q, {}, true⟩) :=
  visits_keep ⟨visited_start m q, rfl, rfl⟩ fun split h => h.visit sound split

/-! ## Writes -/

/-- The writes are those of the discovered and of the launched whose statuses are kept, each once. -/
structure Writing (s : Queue) (p : Pass) : Prop where
  exactly : ∀ w, w ∈ p.writes ↔ ∃ e, s.get? w.name = some e ∧ e.persist = true ∧
    (w.name ∈ p.discovered ∧ w.status = .waiting ∨
      w.name ∈ p.launches.map Launch.name ∧ w.status = .running)
  once : (p.writes.map StatusWrite.name).Nodup

/-- A name that a scan has done nothing with has not been written. -/
theorem Writing.unwritten {s : Queue} {p : Pass} (h : Writing s p)
    (untouched : name ∉ (Act.scanned p).touched) : name ∉ p.writes.map StatusWrite.name := by
  intro mem
  obtain ⟨w, written, rfl⟩ := List.mem_map.1 mem
  obtain ⟨e, -, -, found⟩ := (h.exactly w).1 written
  exact untouched (List.mem_append.2 (found.imp And.left And.left))

/-- A missing name has not been touched. -/
theorem Course.untouched_of_missing {s : Queue} {p : Pass} (h : Course m q s p name)
    (missing : s.get? name = none) : name ∉ (Act.scanned p).touched := by
  obtain ⟨status, turn, -⟩ := h
  rw [missing] at turn
  generalize ha : (none : Option Entry) = after at turn
  generalize hp : Act.scanned p = act at turn ⊢
  cases turn with
  | untouched new => exact new
  | discovered | launched | accepted | ended => cases ha
  | evicted => cases hp

/-- Nor has one that was in the queue and is not left alone. -/
theorem Course.untouched_of_active {s : Queue} {p : Pass} (h : Course m q s p name)
    (tracked : (q.get? name).isSome = true) (he : s.get? name = some e) (active : e.isActive = true) :
    name ∉ (Act.scanned p).touched := by
  obtain ⟨status, turn, -⟩ := h
  rw [he] at turn
  generalize ha : some e = after at turn
  generalize hp : Act.scanned p = act at turn ⊢
  cases turn with
  | untouched new => exact new
  | discovered _ _ missing =>
    rw [missing] at tracked
    cases tracked
  | launched =>
    cases ha
    simp [Entry.isActive, Entry.launched] at active
  | accepted | ended | evicted => cases hp

/-- The name joins those touched, with an entry and the write that it calls for. -/
theorem Writing.touch {s : Queue} {p p' : Pass} {after : Entry} (h : Writing s p) (status : Status)
    (new : name ∉ (Act.scanned p).touched)
    (writes : p'.writes = p.writes ++ (after.write name status).toList)
    (own : ∀ st, (name ∈ p'.discovered ∧ st = .waiting ∨
      name ∈ p'.launches.map Launch.name ∧ st = .running) ↔ st = status)
    (others : ∀ other, other ≠ name → (other ∈ p'.discovered ↔ other ∈ p.discovered) ∧
      (other ∈ p'.launches.map Launch.name ↔ other ∈ p.launches.map Launch.name)) :
    Writing (s.insert name after) p' := by
  have unwritten := h.unwritten new
  have called : ∀ w, w ∈ (after.write name status).toList ↔
      after.persist = true ∧ w = ⟨name, status⟩ := by
    intro w
    cases kept : after.persist <;> simp [Entry.write, kept]
  constructor
  · rintro ⟨other, st⟩
    rw [writes, List.mem_append, h.exactly, called, NameMap.get?_insert]
    by_cases same : other = name
    · subst same
      rw [if_pos rfl]
      constructor
      · rintro (⟨e, -, -, found⟩ | ⟨kept, same⟩)
        · exact absurd (List.mem_append.2 (found.imp And.left And.left)) new
        · cases same
          exact ⟨after, rfl, kept, (own _).2 rfl⟩
      · rintro ⟨e, ⟨⟩, kept, found⟩
        exact .inr ⟨kept, by rw [(own st).1 found]⟩
    · obtain ⟨discovered, launched⟩ := others other same
      rw [if_neg same, discovered, launched]
      refine or_iff_left ?_
      rintro ⟨-, asked⟩
      cases asked
      exact same rfl
  · -- The name has not been written yet, so it is written once.
    rw [writes, List.map_append, List.nodup_append]
    refine ⟨h.once, ?_, fun other mem other' mem' same => ?_⟩
    · unfold Entry.write
      split <;> simp
    · obtain ⟨w, hw, rfl⟩ := List.mem_map.1 mem'
      obtain ⟨-, rfl⟩ := (called w).1 hw
      rw [same] at mem
      exact unwritten mem

theorem writing_scan (m : Manifest) (q : Queue) : Writing (q.scan m).1 (q.scan m).2 := by
  have keeps : ScanKeeps m q fun s p => (∀ name, Course m q s p name) ∧ Writing s p := by
    constructor
    · rintro s s' p need persist write ⟨course, writing⟩ missing asked
      refine ⟨Course.discover course missing asked, ?_⟩
      have new := (course need).untouched_of_missing missing
      obtain ⟨command, granted, rfl, hw⟩ := enqueue_eq_ok asked
      rw [missing]
      refine writing.touch .waiting new (by rw [Pass.discover_writes, hw]; rfl) ?_ ?_
      · intro st
        have still : need ∉ p.launches.map Launch.name := fun mem => new (List.mem_append_right _ mem)
        simp only [Pass.discover_discovered, Pass.discover_launches, List.mem_append,
          List.mem_singleton, or_true, true_and, still, false_and, or_false]
      · intro other ne
        simp [ne]
    · rintro s p name e ⟨course, writing⟩ tracked he active ready
      refine ⟨Course.launch course tracked he active ready, ?_⟩
      have new := (course name).untouched_of_active tracked he active
      refine writing.touch .running new rfl ?_ ?_
      · intro st
        have old : name ∉ p.discovered := fun mem => new (List.mem_append_left _ mem)
        simp [old]
      · intro other ne
        simp [ne]
  exact (keeps.scan ⟨course_start m q, fun w => by simp, by simp⟩).2

/-! ## The queues that there are -/

/-- Whatever is done to an empty queue over a manifest, in any order and whether it makes sense or not,
leaves a queue. -/
inductive Occurs (m : Manifest) : Queue → Prop
  | empty : Occurs m .empty
  | restore {q : Queue} (earlier : Occurs m q) (record : Record) : Occurs m (q.restore m record).1
  | enqueue {q q' : Queue} {write : Option StatusWrite} (earlier : Occurs m q) (name : String)
      (persist : Bool) (granted : q.enqueue m name persist = .ok (q', write)) : Occurs m q'
  | scan {q : Queue} (earlier : Occurs m q) : Occurs m (q.scan m).1
  | complete {q : Queue} (earlier : Occurs m q) (name : String) (outcome : Outcome) :
      Occurs m (q.complete name outcome).1
  | evict {q : Queue} (earlier : Occurs m q) : Occurs m q.evict.1

theorem Sound.restore (sound : Sound m q) (record : Record) : Sound m (q.restore m record).1 := by
  intro name e he
  rw [Queue.restore, get?_foldl_restoreEntry _ _ _ record.statuses.ordered, Option.or_eq_some_iff] at he
  rcases he with he | ⟨-, he⟩
  · obtain ⟨recorded, -, he⟩ := Option.bind_eq_some_iff.1 he
    exact restoredEntry_sound he
  · exact sound name e he

theorem Sound.complete (sound : Sound m q) (ending : String) (outcome : Outcome) :
    Sound m (q.complete ending outcome).1 := by
  intro name e he
  cases old : q.get? ending with
  | none =>
    simp only [Queue.complete, old] at he
    exact sound name e he
  | some e' =>
    rw [get?_complete old] at he
    split at he
    · rename_i same
      cases he
      exact same ▸ (sound ending e' old).ended outcome
    · exact sound name e he

theorem Occurs.sound (h : Occurs m q) : Sound m q := by
  induction h with
  | empty =>
    intro name e he
    cases he
  | restore _ record ih => exact ih.restore record
  | enqueue _ name persist granted ih => exact ih.step (.accept name persist granted)
  | scan _ ih => exact ih.step .scan
  | complete _ name outcome ih => exact ih.complete name outcome
  | evict _ ih => exact ih.step .evict

/-! ## What a scan does -/

/-- What a scan makes of a queue, told by the queue as it was. -/
structure Snapshot (m : Manifest) (q after : Queue) (pass : Pass) : Prop where
  launches : pass.launches = launchesFor q q.toList
  discovered : pass.discovered = (lackingAll m q q.toList).eraseDups
  each : pass.discovered.Nodup
  /-- Whoever needs a missing command and comes first decides whether its statuses are kept. -/
  joined : ∀ name ∈ pass.discovered, ∃ seeker command,
    (q.toList.find? fun d => d.2.isActive && d.2.command.needs.contains name) = some seeker ∧
      m.get? name = some command ∧ after.get? name =
        some ⟨.waiting, seeker.2.persist || command.policy = .once, 0, command⟩
  launched : ∀ l ∈ pass.launches, ∃ e, q.get? l.name = some e ∧
    after.get? l.name = some { e with status := .running, launches := e.launches + 1 }
  others : ∀ name, name ∉ pass.discovered → name ∉ pass.launches.map Launch.name →
    after.get? name = q.get? name
  writing : Writing after pass

/-- A scan does nothing with any other name. -/
theorem scan_others (new : name ∉ (q.scan m).2.discovered)
    (old : name ∉ (q.scan m).2.launches.map Launch.name) : (q.scan m).1.get? name = q.get? name := by
  obtain ⟨status, turn, -⟩ := course_scan m q name
  generalize (q.scan m).1.get? name = after at turn
  cases turn with
  | untouched => rfl
  | discovered _ _ _ once => exact absurd (List.count_pos_iff.1 (by rw [once]; exact Nat.one_pos)) new
  | launched _ _ _ _ once =>
    rw [← launchesOf_eq_nil, once] at old
    cases old

theorem discovered_nodup (m : Manifest) (q : Queue) : (q.scan m).2.discovered.Nodup := by
  refine List.nodup_iff_count.2 fun name => ?_
  obtain ⟨status, turn, -⟩ := course_scan m q name
  generalize (q.scan m).1.get? name = after at turn
  cases turn with
  | untouched new =>
    rw [(not_mem_touched_scanned.1 new).1]
    exact Nat.zero_le 1
  | discovered _ _ _ once => exact Nat.le_of_eq once
  | launched _ _ _ old =>
    rw [List.count_eq_zero.2 old]
    exact Nat.zero_le 1

theorem Sound.scan_joins (sound : Sound m q) (mem : name ∈ (q.scan m).2.discovered) :
    ∃ seeker command,
      (q.toList.find? fun d => d.2.isActive && d.2.command.needs.contains name) = some seeker ∧
        m.get? name = some command ∧ (q.scan m).1.get? name =
          some ⟨.waiting, seeker.2.persist || command.policy = .once, 0, command⟩ := by
  obtain ⟨missing, found⟩ := mem_discovered mem
  obtain ⟨e, he⟩ := Option.isSome_iff_exists.1 found
  have asked := (sound.scan_missing missing).symm.trans he
  rw [seeker?, NameMap.values, List.find?_map] at asked
  obtain ⟨by', found, needed⟩ := Option.bind_eq_some_iff.1 asked
  obtain ⟨seeker, first, rfl⟩ := Option.map_eq_some_iff.1 found
  obtain ⟨command, known, rfl⟩ := neededEntry_eq_some.1 needed
  exact ⟨seeker, command, first, known, he⟩

theorem Sound.snapshot (sound : Sound m q) : Snapshot m q (q.scan m).1 (q.scan m).2 := by
  obtain ⟨-, launches, discovered⟩ := visited_scan sound
  refine ⟨launches, discovered, discovered_nodup m q, fun name => sound.scan_joins, fun l mem => ?_,
    fun name => scan_others, writing_scan m q⟩
  obtain ⟨e, he, -, -, -, after⟩ := mem_launches mem
  exact ⟨e, he, after⟩

/-- Whoever is not left alone and lacks a name that a second scan discovers came in with the first. -/
structure Follows (m : Manifest) (first : Pass) (after : Queue) (second : Pass) : Prop where
  launches : ∀ l ∈ second.launches, l.name ∈ first.discovered
  discovered : ∀ need ∈ second.discovered,
    (∃ name e, after.get? name = some e ∧ e.isActive = true ∧ need ∈ e.command.needs) ∧
      ∀ name e, after.get? name = some e → e.isActive = true → need ∈ e.command.needs →
        name ∈ first.discovered

theorem Sound.follows (sound : Sound m q) :
    Follows m (q.scan m).2 (q.scan m).1 ((q.scan m).1.scan m).2 := by
  constructor
  · intro l launched
    obtain ⟨e, he, active, ready, -⟩ := mem_launches launched
    exact sound.scan_serves he active (.inl ready)
  · intro need found
    obtain ⟨seeker, command, first, known, -⟩ := (sound.step .scan).scan_joins found
    have seeks := List.find?_some first
    rw [Bool.and_eq_true, List.contains_iff_mem] at seeks
    refine ⟨⟨seeker.1, seeker.2, ?_, seeks⟩, fun name e he active mem => ?_⟩
    · exact (NameMap.get?_eq_some_iff _).2 (List.mem_of_find?_eq_some first)
    · obtain ⟨missing, -⟩ := mem_discovered found
      refine sound.scan_serves he active (.inr ⟨need, mem, missing, ?_⟩)
      rw [known]
      rfl

/-- **A scan that changes the queue as it goes does what a scan of a snapshot would do.** Whatever has
been done to a queue, a scan launches, in the order of names, the entries that were not left alone and
whose needs were done; it discovers, in the order of those who need them, the known names that were
missing, each once; it writes for these, each once, and leaves all others as they were. A scan right
after it launches only what the first one discovered, and discovers for nobody else. -/
theorem scan_of_snapshot (h : Occurs m q) :
    Snapshot m q (q.scan m).1 (q.scan m).2 ∧
      Follows m (q.scan m).2 (q.scan m).1 ((q.scan m).1.scan m).2 :=
  ⟨h.sound.snapshot, h.sound.follows⟩

/-- A page and an application that share a library; the page needs itself too, the application a
command that there is not, and a clock starts again by itself. -/
def almanac : Manifest :=
  ⟨"m", none, none, .ofList [("app", ⟨"app", .always, ["lib", "ghost", "lib"], []⟩),
    ("clock", ⟨"clock", .restart, [], []⟩), ("font", ⟨"font", .once, ["lib"], []⟩),
    ("lib", ⟨"lib", .always, [], []⟩), ("page", ⟨"page", .always, ["lib", "page", "font"], []⟩)]⟩

/-- The clock has failed. The application, whose statuses are not kept, decides for the library, though
the page needs it as well; those of the font are kept whoever asks. -/
theorem scan_of_snapshot_almanac :
    ∃ q, Occurs almanac q ∧ q.statusOf "clock" = some .error ∧
      (q.scan almanac).2.launches.map Launch.name = ["clock"] ∧
      (q.scan almanac).2.discovered = ["lib", "font"] ∧
      ⟨"font", .waiting⟩ ∈ (q.scan almanac).2.writes ∧ ⟨"lib", .waiting⟩ ∉ (q.scan almanac).2.writes ∧
      ((q.scan almanac).1.scan almanac).2.launches.map Launch.name = ["lib"] := by
  have app : Occurs almanac _ := .enqueue .empty "app" false rfl
  have page : Occurs almanac _ := .enqueue app "page" true rfl
  have clock : Occurs almanac _ := .enqueue page "clock" true rfl
  have failed := clock.complete "clock" .failed
  obtain ⟨first, second⟩ := scan_of_snapshot failed
  refine ⟨_, failed, rfl, ?_, first.discovered, ?_, ?_, rfl⟩
  · rw [first.launches]
    rfl
  · exact (first.writing.exactly _).2 ⟨_, rfl, rfl, .inl ⟨by rw [first.discovered]; decide, rfl⟩⟩
  · rw [first.writing.exactly]
    rintro ⟨e, he, kept, -⟩
    cases he
    cases kept

end Supervisor.Queue
