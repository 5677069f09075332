import Supervisor.Proofs.Queue.Scanning

/-!
# What a scan finds to do

There is work when an entry can be launched, or needs a known command that nobody has asked for. A
scan finds something to do exactly then. Once it has discovered nothing it leaves no work; evicting
makes none, and a record brings in work only with the commands that it resumes.
-/

namespace Supervisor.Queue

variable {m : Manifest} {q : Queue} {name need : String} {e : Entry}

inductive HasWork (m : Manifest) (q : Queue) : Prop
  | launch {name : String} {e : Entry} (tracked : q.get? name = some e) (active : e.isActive = true)
      (ready : q.isReady e = true)
  | discover {name need : String} {e : Entry} (tracked : q.get? name = some e)
      (active : e.isActive = true) (mem : need ∈ e.command.needs) (missing : q.get? need = none)
      (known : (m.get? need).isSome = true)

theorem isReady_congr {q' : Queue} (same : ∀ name, q'.statusOf name = some .done →
    q.statusOf name = some .done) (ready : q'.isReady e = true) : q.isReady e = true :=
  isReady_iff.2 fun need mem => same need (isReady_iff.1 ready need mem)

theorem isNeeded_of_mem (he : q.get? name = some e) (mem : need ∈ e.command.needs) :
    q.isNeeded need = true :=
  List.any_eq_true.2 ⟨e, mem_values.2 ⟨name, he⟩, List.contains_iff_mem.2 mem⟩

/-- What a scan takes in, it has discovered. -/
theorem discovered_of_new (missing : q.get? name = none) {e : Entry}
    (found : (q.scan m).1.get? name = some e) : name ∈ (q.scan m).2.discovered := by
  obtain ⟨status, turn, -⟩ := course_scan m q name
  rw [found] at turn
  generalize ha : some e = after at turn
  cases turn with
  | untouched =>
    rw [missing] at ha
    cases ha
  | discovered _ _ _ once => exact List.count_pos_iff.1 (by rw [once]; exact Nat.one_pos)
  | launched tracked =>
    rw [missing] at tracked
    cases tracked

/-- What an active entry needs is in the queue after the scan, if it is known. -/
theorem Sound.scan_takes_in (sound : Sound m q) (he : q.get? name = some e)
    (active : e.isActive = true) (mem : need ∈ e.command.needs)
    (known : (m.get? need).isSome = true) : ∃ d, (q.scan m).1.get? need = some d := by
  cases hd : q.get? need with
  | some d => exact ⟨_, sound.scan_tracked hd⟩
  | none =>
    rw [sound.scan_missing hd]
    obtain ⟨command, hc⟩ := Option.isSome_iff_exists.1 known
    have sought : (seeker? q.values need).isSome = true := by
      rw [seeker?, List.find?_isSome]
      refine ⟨e, mem_values.2 ⟨name, he⟩, ?_⟩
      rw [active, List.contains_iff_mem.2 mem]
      rfl
    obtain ⟨first, hf⟩ := Option.isSome_iff_exists.1 sought
    rw [hf, Option.bind_some, neededEntry, hc]
    exact ⟨_, rfl⟩

/-- **A scan finds something to do when there is work.** -/
theorem Sound.isIdle_iff (sound : Sound m q) : (q.scan m).2.isIdle = true ↔ ¬ HasWork m q := by
  constructor
  · intro idle work
    have same := scan_idle idle
    cases work with
    | launch tracked active ready =>
      have launched := sound.scan_tracked tracked
      rw [same, tracked, if_pos (by rw [active, ready]; rfl)] at launched
      have launches := congrArg Entry.launches (Option.some.inj launched)
      exact absurd launches (Nat.ne_of_lt (Nat.lt_succ_self _))
    | discover tracked active mem missing known =>
      obtain ⟨d, found⟩ := sound.scan_takes_in tracked active mem known
      rw [same, missing] at found
      cases found
  · intro none
    rw [Pass.isIdle, Bool.and_eq_true, List.isEmpty_iff, List.isEmpty_iff,
      List.eq_nil_iff_forall_not_mem, List.eq_nil_iff_forall_not_mem]
    refine ⟨fun l launched => ?_, fun name found => ?_⟩
    · obtain ⟨e, he, active, ready, -⟩ := mem_launches launched
      exact none (.launch he active ready)
    · obtain ⟨missing, found⟩ := mem_discovered found
      obtain ⟨d, hd⟩ := Option.isSome_iff_exists.1 found
      rw [sound.scan_missing missing, Option.bind_eq_some_iff] at hd
      obtain ⟨e, sought, needed⟩ := hd
      obtain ⟨seeker, he, active, mem⟩ := seeker?_eq_some sought
      obtain ⟨command, known, -⟩ := neededEntry_eq_some.1 needed
      exact none (.discover he active mem missing (Option.isSome_iff_exists.2 ⟨command, known⟩))

/-- Who is not left alone after a scan and has not been discovered by it was there before, and had to
wait. -/
theorem Sound.scan_still (sound : Sound m q) (old : name ∉ (q.scan m).2.discovered)
    (he : (q.scan m).1.get? name = some e) (active : e.isActive = true) :
    q.get? name = some e ∧ ¬ q.isReady e = true := by
  cases hq : q.get? name with
  | none => exact absurd (discovered_of_new hq he) old
  | some e' =>
    have after := (sound.scan_tracked hq).symm.trans he
    obtain rfl := Option.some.inj after
    split at active
    · simp [Entry.isActive, Entry.launched] at active
    · rename_i left
      rw [if_neg left]
      refine ⟨rfl, fun ready => left ?_⟩
      rw [active, ready]
      rfl

/-- Whoever a scan still has something to do for after a scan has been discovered by it: what the
first one launched runs, what it took in is there, and nothing became done. -/
theorem Sound.scan_serves (sound : Sound m q) (he : (q.scan m).1.get? name = some e)
    (active : e.isActive = true)
    (serves : (q.scan m).1.isReady e = true ∨ ∃ need ∈ e.command.needs,
      (q.scan m).1.get? need = none ∧ (m.get? need).isSome = true) :
    name ∈ (q.scan m).2.discovered := by
  refine Classical.byContradiction fun old => ?_
  obtain ⟨tracked, unready⟩ := sound.scan_still old he active
  rcases serves with ready | ⟨need, mem, missing, known⟩
  · exact unready (isReady_congr (fun name => (course_scan m q name).done) ready)
  · obtain ⟨d, found⟩ := sound.scan_takes_in tracked active mem known
    rw [missing] at found
    cases found

/-- A scan that has discovered nothing leaves no work. -/
theorem Sound.scan_leaves_none (sound : Sound m q) (nothing : (q.scan m).2.discovered = []) :
    ¬ HasWork m (q.scan m).1 := by
  have none : ∀ {name : String}, name ∉ (q.scan m).2.discovered := by
    intro name
    rw [nothing]
    exact List.not_mem_nil
  intro work
  cases work with
  | launch tracked active ready => exact none (sound.scan_serves tracked active (.inl ready))
  | discover tracked active mem missing known =>
    exact none (sound.scan_serves tracked active (.inr ⟨_, mem, missing, known⟩))

/-- Where there is no work, whatever could be launched runs or is settled, and a `restart` command
runs. -/
theorem launched_of_none (none : ¬ HasWork m q) (he : q.get? name = some e)
    (done : ∀ need ∈ e.command.needs, q.statusOf need = some .done) :
    (e.status = .running ∨ e.isSettled = true) ∧
      (e.command.policy = .restart → e.status = .running) := by
  have left : e.status = .running ∨ e.isSettled = true := by
    cases active : e.isActive with
    | true => exact absurd (.launch he active (isReady_iff.2 done)) none
    | false => simpa [Entry.isActive, Decidable.or_iff_not_imp_left] using active
  refine ⟨left, fun restart => left.resolve_right fun settled => ?_⟩
  simp [Entry.isSettled, restart] at settled

theorem get?_of_evict (he : q.evict.1.get? name = some e) : q.get? name = some e := by
  rw [get?_evict, Option.filter_eq_some_iff] at he
  exact he.1

/-- What something needs is not evicted. -/
theorem get?_evict_of_needed (he : q.get? name = some e) (mem : need ∈ e.command.needs) :
    q.evict.1.get? need = q.get? need := by
  rw [get?_evict]
  cases hd : q.get? need with
  | none => rfl
  | some d =>
    have useful : q.isEvictable need d = false := by
      rw [Bool.eq_false_iff, ne_eq, isEvictable_iff, isNeeded_of_mem he mem]
      exact fun useless => Bool.noConfusion useless.2.2
    rw [Option.filter, useful]
    rfl

/-- Evicting makes no work: what is evicted is needed by nothing. -/
theorem HasWork.of_evict (work : HasWork m q.evict.1) : HasWork m q := by
  cases work with
  | launch tracked active ready =>
    refine .launch (get?_of_evict tracked) active (isReady_congr (fun name done => ?_) ready)
    obtain ⟨d, hd, status⟩ := statusOf_eq_some.1 done
    exact statusOf_eq_some.2 ⟨d, get?_of_evict hd, status⟩
  | discover tracked active mem missing known =>
    have he := get?_of_evict tracked
    rw [get?_evict_of_needed he mem] at missing
    exact .discover he active mem missing known

/-- Where a record resumes nothing, it brings in no work. -/
theorem restored_none {record : Record} (nothing : (restore .empty m record).2 = []) :
    ¬ HasWork m (restored m record) := by
  have inactive : ∀ {name : String} {e : Entry}, (restored m record).get? name = some e →
      ¬ e.isActive = true := by
    intro name e he active
    obtain ⟨recorded, command, status, held, known, restored, rfl⟩ := get?_restored_eq_some.1 he
    have ended : recorded.isTerminal = true := by
      rw [← Bool.not_eq_false]
      intro pending
      have resumed := mem_resumed (q := .empty).2
        ⟨recorded, held, pending, Option.isSome_iff_exists.2 ⟨command, known⟩⟩
      rw [nothing] at resumed
      cases resumed
    cases recorded with
    | waiting | running => cases ended
    | error => cases restored
    | done =>
      have settled : command.policy = .once ∧ Status.done = status := by
        simpa [restoredStatus] using restored
      obtain ⟨once, rfl⟩ := settled
      simp [Entry.isActive, Entry.isSettled, Entry.fresh, once, Status.isTerminal] at active
  intro work
  cases work with
  | launch tracked active => exact inactive tracked active
  | discover tracked active => exact inactive tracked active

end Supervisor.Queue
