import Supervisor.Proofs.Queue.History

/-!
# What the operations do to an entry

One lemma for each operation that says where it leaves the entry of any name. A scan is opened here
in its two parts, looking at needs and visiting a command; `ScanKeeps` says what has to be shown for
something to hold after a scan.
-/

namespace Supervisor.Queue

variable {m : Manifest} {q q' : Queue} {name other : String}

/-! ## Asking -/

/-- The entry with which a command waits that has been asked for. -/
def askedEntry (command : Command) (persist : Bool) : Option Entry → Entry
  | none => Entry.fresh command .waiting persist
  | some e => { e with status := .waiting, persist }

@[simp] theorem askedEntry_status (command : Command) (persist : Bool) (old : Option Entry) :
    (askedEntry command persist old).status = .waiting := by cases old <;> rfl

@[simp] theorem askedEntry_persist (command : Command) (persist : Bool) (old : Option Entry) :
    (askedEntry command persist old).persist = persist := by cases old <;> rfl

/-- A request is granted to a known command that is not queued or has ended, unless it has ended for
good. -/
structure Granted (m : Manifest) (q : Queue) (name : String) (command : Command) : Prop where
  known : m.get? name = some command
  ended : ∀ e, q.get? name = some e → e.status.isTerminal = true
  again : ∀ e, q.get? name = some e → e.status = .done → command.policy ≠ .once

theorem enqueue_eq_ok {persist : Bool} {write : Option StatusWrite}
    (h : q.enqueue m name persist = .ok (q', write)) :
    ∃ command, Granted m q name command ∧
      q' = q.insert name (askedEntry command (keeps command persist) (q.get? name)) ∧
      write = if keeps command persist then some ⟨name, .waiting⟩ else none := by
  unfold enqueue Manifest.lookup at h
  cases hc : m.get? name with
  | none => rw [hc] at h; cases h
  | some command =>
    rw [hc] at h
    refine ⟨command, ?_⟩
    cases he : q.get? name with
    | none =>
      rw [he] at h
      cases h
      exact ⟨⟨hc, by simp [he], by simp [he]⟩, rfl, rfl⟩
    | some e =>
      rw [he] at h
      cases hs : e.status with
      | waiting | running => simp [hs, bind, Except.bind] at h
      | done =>
        by_cases ho : command.policy = .once
        · simp [hs, ho, bind, Except.bind] at h
        · simp only [hs, ho, bind, Except.bind, pure, Except.pure, if_false] at h
          cases h
          exact ⟨⟨hc, by simp [he, hs, Status.isTerminal], by simp [ho]⟩, rfl, rfl⟩
      | error =>
        simp only [hs, bind, Except.bind, pure, Except.pure] at h
        cases h
        exact ⟨⟨hc, by simp [he, hs, Status.isTerminal], by simp [he, hs]⟩, rfl, rfl⟩

/-- A command that nobody has asked for yet is granted if it is known. -/
theorem enqueue_missing {command : Command} (hc : m.get? name = some command)
    (he : q.get? name = none) (persist : Bool) :
    q.enqueue m name persist =
      .ok (q.insert name (Entry.fresh command .waiting (keeps command persist)),
        if keeps command persist then some ⟨name, .waiting⟩ else none) := by
  simp only [enqueue, Manifest.lookup, hc, he, bind, Except.bind, pure, Except.pure, Entry.write]
  rfl

theorem enqueue_unknown (hc : m.get? name = none) (persist : Bool) :
    q.enqueue m name persist = .error (.commandNotFound name) := by
  simp [enqueue, Manifest.lookup, hc, bind, Except.bind]

theorem enqueue_once_done {command : Command} {e : Entry} (hc : m.get? name = some command)
    (once : command.policy = .once) (he : q.get? name = some e) (done : e.status = .done)
    (persist : Bool) : q.enqueue m name persist = .error (.alreadyCompletedOnce name) := by
  simp [enqueue, Manifest.lookup, hc, once, he, done, bind, Except.bind]

/-- A request is refused to an unknown command, to one that is queued, and to one that has ended for
good. -/
theorem enqueue_eq_error {persist : Bool} {fault : Fault}
    (h : q.enqueue m name persist = .error fault) :
    m.get? name = none ∨ ∃ command e, m.get? name = some command ∧ q.get? name = some e ∧
      (e.status.isTerminal = false ∨ e.status = .done ∧ command.policy = .once) := by
  cases hc : m.get? name with
  | none => exact .inl rfl
  | some command =>
    refine .inr ?_
    unfold enqueue Manifest.lookup at h
    rw [hc] at h
    cases he : q.get? name with
    | none =>
      rw [he] at h
      cases h
    | some e =>
      refine ⟨command, e, rfl, rfl, ?_⟩
      rw [he] at h
      cases hs : e.status with
      | waiting | running => exact .inl rfl
      | done =>
        by_cases once : command.policy = .once
        · exact .inr ⟨rfl, once⟩
        · simp [hs, once, bind, Except.bind, pure, Except.pure] at h
      | error => simp [hs, bind, Except.bind, pure, Except.pure] at h

/-! ## The end of a launch -/

/-- The status in which the end of a launch leaves a command. -/
def endedStatus (command : Command) : Outcome → Status
  | .failed => .error
  | .succeeded => if command.policy = .restart then .waiting else .done

/-- The status written at the end of a launch: none for a `restart` command that succeeded. -/
def endedWrite (e : Entry) (outcome : Outcome) : Option Status :=
  if e.persist ∧ (outcome = .succeeded → e.command.policy ≠ .restart) then
    some (endedStatus e.command outcome)
  else none

theorem complete_eq {e : Entry} (he : q.get? name = some e) (outcome : Outcome) :
    q.complete name outcome =
      (q.insert name { e with status := endedStatus e.command outcome },
        (endedWrite e outcome).map (StatusWrite.mk name)) := by
  cases outcome with
  | failed =>
    cases hp : e.persist <;> simp [complete, he, endedStatus, endedWrite, Entry.write, hp]
  | succeeded =>
    by_cases hr : e.command.policy = .restart
    · simp [complete, he, endedStatus, endedWrite, hr]
    · cases hp : e.persist <;> simp [complete, he, endedStatus, endedWrite, Entry.write, hr, hp]

theorem get?_complete {e : Entry} (he : q.get? name = some e) (outcome : Outcome) (other : String) :
    (q.complete name outcome).1.get? other =
      if other = name then some { e with status := endedStatus e.command outcome }
      else q.get? other := by
  rw [complete_eq he, NameMap.get?_insert]

theorem statusOf_eq_some {status : Status} :
    q.statusOf name = some status ↔ ∃ e, q.get? name = some e ∧ e.status = status := by
  simp [statusOf]

theorem mem_pending :
    name ∈ q.pending ↔ ∃ e, q.get? name = some e ∧ e.status.isTerminal = false := by
  rw [pending, NameMap.mem_keys_iff, NameMap.contains_iff]
  simp [NameMap.get?_filter, Option.filter_eq_some_iff]

theorem pending_eq_nil_iff :
    q.pending = [] ↔ ∀ name e, q.get? name = some e → e.status.isTerminal = true := by
  simp only [List.eq_nil_iff_forall_not_mem, mem_pending, not_exists, not_and, Bool.not_eq_false]

theorem done_or_error {e : Entry} (nothing : q.pending = []) (he : q.get? name = some e) :
    e.status = .done ∨ e.status = .error :=
  Status.isTerminal_iff.1 (pending_eq_nil_iff.1 nothing name e he)

/-! ## Eviction -/

theorem get?_evict (q : Queue) (name : String) :
    q.evict.1.get? name = (q.get? name).filter fun e => !q.isEvictable name e :=
  NameMap.get?_filter q _ name

theorem mem_evicted : name ∈ q.evict.2 ↔ ∃ e, q.get? name = some e ∧ q.isEvictable name e := by
  rw [evict, NameMap.mem_keys_iff, NameMap.contains_iff]
  simp [NameMap.get?_filter, Option.filter_eq_some_iff]

theorem isEvictable_iff {e : Entry} : q.isEvictable name e = true ↔
    e.status.isTerminal = true ∧ e.command.policy = .always ∧ q.isNeeded name = false := by
  simp [isEvictable, and_assoc]

/-! ## Starting from a record -/

/-- The entry that a recorded status brings into the queue. -/
def restoredEntry (m : Manifest) (name : String) (recorded : Status) : Option Entry :=
  (m.get? name).bind fun command =>
    (restoredStatus command recorded).map fun status => Entry.fresh command status true

theorem get?_restoreEntry (q : Queue) (name other : String) (recorded : Status) :
    (restoreEntry m q name recorded).get? other =
      if other = name then (restoredEntry m name recorded).or (q.get? name) else q.get? other := by
  unfold restoreEntry restoredEntry
  cases hc : m.get? name with
  | none => by_cases h : other = name <;> simp [h]
  | some command =>
    cases hs : restoredStatus command recorded with
    | none => by_cases h : other = name <;> simp [h, hs]
    | some status => by_cases h : other = name <;> simp [h, hs, NameMap.get?_insert]

/-- Names come once in a record, so each is brought in by its own status. -/
theorem get?_foldl_restoreEntry (l : List (String × Status)) (q : Queue) (name : String)
    (ordered : l.Pairwise (fun a b => a.1 < b.1)) :
    (l.foldl (fun q e => restoreEntry m q e.1 e.2) q).get? name =
      ((NameMap.lookup name l).bind (restoredEntry m name)).or (q.get? name) := by
  induction l generalizing q with
  | nil => rfl
  | cons d l ih =>
    rw [List.pairwise_cons] at ordered
    rw [List.foldl_cons, ih _ ordered.2, get?_restoreEntry]
    by_cases h : name = d.1
    · subst h
      have absent : NameMap.lookup d.1 l = none := NameMap.lookup_eq_none_of_lt ordered.1
      simp [NameMap.lookup, absent]
    · simp [NameMap.lookup, h]

theorem get?_restored (m : Manifest) (record : Record) (name : String) :
    (restored m record).get? name = (record.statusOf name).bind (restoredEntry m name) := by
  have h := get?_foldl_restoreEntry (m := m) record.statuses.toList .empty name record.statuses.ordered
  rw [NameMap.get?_empty, Option.or_none] at h
  exact h

theorem mem_resumed {record : Record} : name ∈ (restore q m record).2 ↔
    ∃ status, record.statusOf name = some status ∧ status.isTerminal = false ∧
      (m.get? name).isSome := by
  rw [restore, NameMap.mem_keys_iff, NameMap.contains_iff]
  simp only [NameMap.get?_filter, Option.filter_eq_some_iff, isResumed, Record.statusOf,
    Bool.and_eq_true, Bool.not_eq_true']
  constructor
  · rintro ⟨status, hs, hk, ht⟩
    exact ⟨status, hs, ht, hk⟩
  · rintro ⟨status, hs, ht, hk⟩
    exact ⟨status, hs, hk, ht⟩

/-! ## Scanning -/

/-- A scan does not leave the entry alone. -/
def Entry.isActive (e : Entry) : Bool := e.status ≠ .running && !e.isSettled

/-- The entry once it has been set running. -/
def Entry.launched (e : Entry) : Entry := { e with status := .running, launches := e.launches + 1 }

/-- All needs of the entry are done. -/
def isReady (q : Queue) (e : Entry) : Bool :=
  e.command.needs.all fun need => q.statusOf need = some .done

theorem isReady_iff {e : Entry} :
    q.isReady e = true ↔ ∀ need ∈ e.command.needs, q.statusOf need = some .done := by
  simp [isReady]

/-- A pass that has also asked for a missing need. -/
def Pass.discover (p : Pass) (need : String) (write : Option StatusWrite) : Pass :=
  { p with discovered := p.discovered ++ [need], writes := p.writes ++ write.toList }

/-- A pass that has also launched a command. -/
def Pass.launch (p : Pass) (name : String) (e : Entry) : Pass :=
  { p with
    launches := p.launches ++ [⟨name, e.command⟩]
    writes := p.writes ++ (e.write name .running).toList }

@[simp] theorem Pass.discover_launches (p : Pass) (need : String) (write : Option StatusWrite) :
    (p.discover need write).launches = p.launches := rfl

@[simp] theorem Pass.discover_discovered (p : Pass) (need : String) (write : Option StatusWrite) :
    (p.discover need write).discovered = p.discovered ++ [need] := rfl

@[simp] theorem Pass.discover_writes (p : Pass) (need : String) (write : Option StatusWrite) :
    (p.discover need write).writes = p.writes ++ write.toList := rfl

@[simp] theorem Pass.launch_launches (p : Pass) (name : String) (e : Entry) :
    (p.launch name e).launches = p.launches ++ [⟨name, e.command⟩] := rfl

@[simp] theorem Pass.launch_discovered (p : Pass) (name : String) (e : Entry) :
    (p.launch name e).discovered = p.discovered := rfl

@[simp] theorem Pass.launch_writes (p : Pass) (name : String) (e : Entry) :
    (p.launch name e).writes = p.writes ++ (e.write name .running).toList := rfl

/-- What has to be shown of a scan in its course for it to hold at the end: it survives asking for a
missing need, and launching a command of the queue whose needs are done. -/
structure ScanKeeps (m : Manifest) (q : Queue) (P : Queue → Pass → Prop) : Prop where
  discover : ∀ {s s' : Queue} {p : Pass} {need : String} {persist : Bool}
    {write : Option StatusWrite}, P s p → s.get? need = none →
    s.enqueue m need persist = .ok (s', write) → P s' (p.discover need write)
  launch : ∀ {s : Queue} {p : Pass} {name : String} {e : Entry}, P s p →
    (q.get? name).isSome = true → s.get? name = some e → e.isActive = true →
    s.isReady e = true → P (s.insert name e.launched) (p.launch name e)

section Induction

variable {P : Queue → Pass → Prop}

theorem ScanKeeps.needs (h : ScanKeeps m q P) (persist : Bool) (needs : List String) (s : Scan)
    (hs : P s.queue s.pass) :
    P (needs.foldl (Scan.need m persist) s).queue (needs.foldl (Scan.need m persist) s).pass := by
  induction needs generalizing s with
  | nil => exact hs
  | cons need needs ih =>
    rw [List.foldl_cons]
    apply ih
    unfold Scan.need
    split
    · split <;> exact hs
    · rename_i missing
      split
      · exact hs
      · rename_i asked
        exact h.discover hs missing asked

/-- Where every need turned out to be done, looking at them has changed nothing. -/
theorem foldl_need_ready (persist : Bool) (needs : List String) (s : Scan)
    (h : (needs.foldl (Scan.need m persist) s).ready = true) :
    needs.foldl (Scan.need m persist) s = s ∧
      ∀ need ∈ needs, s.queue.statusOf need = some .done := by
  induction needs generalizing s with
  | nil => exact ⟨rfl, by simp⟩
  | cons need needs ih =>
    rw [List.foldl_cons] at h ⊢
    obtain ⟨same, done⟩ := ih _ h
    rw [same] at h ⊢
    unfold Scan.need at h done ⊢
    split at h
    · rename_i e he
      split at h
      · rename_i hd
        simp only [he, hd, if_true] at done ⊢
        refine ⟨trivial, fun d hm => ?_⟩
        rcases List.mem_cons.1 hm with rfl | hm
        · exact statusOf_eq_some.2 ⟨e, he, hd⟩
        · exact done d hm
      · cases h
    · split at h <;> cases h

theorem ScanKeeps.visit (h : ScanKeeps m q P) {s : Scan} (tracked : (q.get? name).isSome = true)
    (hs : P s.queue s.pass) : P (s.visit m name).queue (s.visit m name).pass := by
  unfold Scan.visit
  split
  · exact hs
  · rename_i e he
    split
    · exact hs
    · rename_i idle
      have active : e.isActive = true := by simpa [Entry.isActive] using idle
      have looked := h.needs e.persist e.command.needs { s with ready := true } hs
      simp only
      split
      · rename_i ready
        obtain ⟨same, done⟩ := foldl_need_ready _ _ _ ready
        rw [same]
        exact h.launch hs tracked he active (isReady_iff.2 done)
      · exact looked

theorem ScanKeeps.visits (h : ScanKeeps m q P) (names : List String) (s : Scan)
    (tracked : ∀ name ∈ names, (q.get? name).isSome = true) (hs : P s.queue s.pass) :
    P (names.foldl (Scan.visit m) s).queue (names.foldl (Scan.visit m) s).pass := by
  induction names generalizing s with
  | nil => exact hs
  | cons name names ih =>
    rw [List.foldl_cons]
    apply ih _ fun other hm => tracked other (List.mem_cons_of_mem _ hm)
    exact h.visit (tracked name List.mem_cons_self) hs

theorem ScanKeeps.scan (h : ScanKeeps m q P) (start : P q {}) : P (q.scan m).1 (q.scan m).2 :=
  h.visits q.keys ⟨q, {}, true⟩ (fun _ hm => (NameMap.mem_keys_iff q).1 hm) start

end Induction

end Supervisor.Queue
