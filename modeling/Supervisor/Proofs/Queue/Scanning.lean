import Supervisor.Proofs.Queue.Soundness

/-!
# A whole scan

Where a scan leaves every name, as a function of the queue it began with. An entry is launched if it
is not left alone and its needs were done before; a name that was not in the queue is asked for by the
first entry, in the order of names, that is not left alone and needs it. The order of the visits
matters to nothing else. The queue has to be sound: only then does no entry that is done start again
in the course of the scan.
-/

namespace Supervisor.Queue

variable {m : Manifest} {q : Queue} {name need other : String} {persist : Bool} {e : Entry}

/-- The entry with which a needed command comes into the queue. -/
def neededEntry (m : Manifest) (persist : Bool) (need : String) : Option Entry :=
  (m.get? need).map fun command => Entry.fresh command .waiting (keeps command persist)

/-- The first of the entries that is not left alone and needs the command. -/
def seeker? (entries : List Entry) (need : String) : Option Entry :=
  entries.find? fun e => e.isActive && e.command.needs.contains need

/-- Where a scan leaves a name. -/
def scannedEntry (m : Manifest) (q : Queue) (name : String) : Option Entry :=
  match q.get? name with
  | some e => some (if e.isActive && q.isReady e then e.launched else e)
  | none => (seeker? q.values name).bind fun e => neededEntry m e.persist name

theorem neededEntry_eq_some : neededEntry m persist need = some e ↔
    ∃ command, m.get? need = some command ∧
      e = Entry.fresh command .waiting (keeps command persist) := by
  rw [neededEntry, Option.map_eq_some_iff]
  exact exists_congr fun command => and_congr_right fun _ => eq_comm

theorem neededEntry_waiting (h : neededEntry m persist need = some e) : e.status = .waiting := by
  obtain ⟨command, -, rfl⟩ := neededEntry_eq_some.1 h
  rfl

/-! ## Looking at needs -/

theorem get?_need (s : Scan) (need name : String) :
    (s.need m persist need).queue.get? name =
      (s.queue.get? name).or (if name = need then neededEntry m persist need else none) := by
  unfold Scan.need
  cases he : s.queue.get? need with
  | some e =>
    have same : (if e.status = .done then s else { s with ready := false }).queue = s.queue := by
      split <;> rfl
    simp only [same]
    by_cases hn : name = need
    · rw [hn, he, Option.some_or]
    · rw [if_neg hn, Option.or_none]
  | none =>
    cases hc : m.get? need with
    | none =>
      rw [enqueue_unknown hc]
      simp [neededEntry, hc]
    | some command =>
      rw [enqueue_missing hc he]
      by_cases hn : name = need
      · simp [hn, he, neededEntry, hc]
      · simp [hn, NameMap.get?_insert_of_ne]

theorem ready_need (s : Scan) (need : String) :
    (s.need m persist need).ready = (s.ready && s.queue.statusOf need = some .done) := by
  unfold Scan.need
  cases he : s.queue.get? need with
  | some e =>
    by_cases hd : e.status = .done <;> simp [statusOf, he, hd]
  | none =>
    cases hq : s.queue.enqueue m need persist <;> simp [statusOf, he]

/-- Asking for needs makes none of them done. -/
theorem done_need (s : Scan) (need name : String) :
    (s.need m persist need).queue.statusOf name = some .done ↔
      s.queue.statusOf name = some .done := by
  rw [statusOf, statusOf, get?_need]
  cases he : s.queue.get? name with
  | some e => rw [Option.some_or]
  | none =>
    rw [Option.none_or, Option.map_none]
    refine ⟨fun done => ?_, fun h => by cases h⟩
    obtain ⟨e, asked, hd⟩ := Option.map_eq_some_iff.1 done
    split at asked
    · rw [neededEntry_waiting asked] at hd
      cases hd
    · cases asked

theorem get?_foldl_need (needs : List String) (s : Scan) (name : String) :
    (needs.foldl (Scan.need m persist) s).queue.get? name =
      (s.queue.get? name).or (if name ∈ needs then neededEntry m persist name else none) := by
  induction needs generalizing s with
  | nil => simp
  | cons need needs ih =>
    rw [List.foldl_cons, ih, get?_need, Option.or_assoc]
    congr 1
    by_cases hn : name = need
    · subst hn
      rw [if_pos rfl, if_pos List.mem_cons_self]
      by_cases hm : name ∈ needs
      · rw [if_pos hm, Option.or_self]
      · rw [if_neg hm, Option.or_none]
    · simp [hn]

theorem ready_foldl_need (persist : Bool) (needs : List String) (s : Scan) :
    (needs.foldl (Scan.need m persist) s).ready =
      (s.ready && needs.all fun need => s.queue.statusOf need = some .done) := by
  induction needs generalizing s with
  | nil => simp
  | cons need needs ih =>
    rw [List.foldl_cons, ih, ready_need, List.all_cons, Bool.and_assoc]
    simp only [done_need]

/-! ## Visits -/

theorem visit_inactive {s : Scan} (tracked : s.queue.get? name = some e)
    (inactive : e.isActive = false) : s.visit m name = s := by
  have left : (e.status = .running || e.isSettled) = true := by
    simpa [Entry.isActive, Decidable.or_iff_not_imp_left] using inactive
  simp only [Scan.visit, tracked]
  rw [if_pos left]

theorem get?_visit {s : Scan} (tracked : s.queue.get? name = some e) (active : e.isActive = true)
    (other : String) : (s.visit m name).queue.get? other =
      if s.queue.isReady e then
        if other = name then some e.launched else s.queue.get? other
      else (s.queue.get? other).or
        (if other ∈ e.command.needs then neededEntry m e.persist other else none) := by
  have idle : ¬ (e.status = .running || e.isSettled) = true := by
    simpa [Entry.isActive] using active
  have ready := ready_foldl_need (m := m) e.persist e.command.needs { s with ready := true }
  rw [Bool.true_and] at ready
  simp only [Scan.visit, tracked]
  rw [if_neg idle]
  by_cases hr : s.queue.isReady e = true
  · have found := ready.trans hr
    rw [if_pos found, if_pos hr, (foldl_need_ready _ _ _ found).1, Scan.launch, NameMap.get?_insert]
    rfl
  · have found := fun h => hr (ready.symm.trans h)
    rw [if_neg found, if_neg hr, get?_foldl_need]

/-! ## All visits -/

/-- Where visiting the first entries leaves a name. -/
def visitedEntry (m : Manifest) (q : Queue) (seen : List (String × Entry)) (name : String) :
    Option Entry :=
  match q.get? name with
  | some e => some (if name ∈ seen.map Prod.fst ∧ e.isActive ∧ q.isReady e then e.launched else e)
  | none => (seeker? (seen.map Prod.snd) name).bind fun e => neededEntry m e.persist name

theorem visited_tracked {seen : List (String × Entry)} (he : q.get? name = some e) :
    visitedEntry m q seen name =
      some (if name ∈ seen.map Prod.fst ∧ e.isActive ∧ q.isReady e then e.launched else e) := by
  simp only [visitedEntry, he]

theorem visited_missing {seen : List (String × Entry)} (he : q.get? name = none) :
    visitedEntry m q seen name =
      (seeker? (seen.map Prod.snd) name).bind fun e => neededEntry m e.persist name := by
  simp only [visitedEntry, he]

/-- No visit makes anything done or undoes it. -/
theorem visited_done (sound : Sound m q) {seen : List (String × Entry)} {s : Queue}
    (here : ∀ x, s.get? x = visitedEntry m q seen x) (name : String) :
    s.statusOf name = some .done ↔ q.statusOf name = some .done := by
  rw [statusOf, statusOf, here]
  cases he : q.get? name with
  | some e =>
    rw [visited_tracked he]
    split
    · rename_i launched
      have waits := (sound.active_iff he).1 launched.2.1
      rcases waits with waits | ⟨failed, -⟩
      · simp [Entry.launched, waits]
      · simp [Entry.launched, failed]
    · rfl
  | none =>
    rw [visited_missing he, Option.map_none]
    refine ⟨fun done => ?_, fun h => by cases h⟩
    obtain ⟨e, asked, hd⟩ := Option.map_eq_some_iff.1 done
    obtain ⟨by', -, asked⟩ := Option.bind_eq_some_iff.1 asked
    rw [neededEntry_waiting asked] at hd
    cases hd

theorem seeker?_append (seen : List Entry) (e : Entry) (need : String) :
    seeker? (seen ++ [e]) need = (seeker? seen need).or
      (if e.isActive && e.command.needs.contains need then some e else none) := by
  rw [seeker?, List.find?_append, List.find?_singleton, seeker?]

theorem mem_names_append {seen : List (String × Entry)} {x : String} :
    x ∈ (seen ++ [(name, e)]).map Prod.fst ↔ x ∈ seen.map Prod.fst ∨ x = name := by
  simp

/-- Where the visit of an entry that is left alone leaves a name. -/
theorem visited_inactive {seen : List (String × Entry)} (tracked : q.get? name = some e)
    (inactive : e.isActive = false) (x : String) :
    visitedEntry m q (seen ++ [(name, e)]) x = visitedEntry m q seen x := by
  cases hx : q.get? x with
  | some e' =>
    rw [visited_tracked hx, visited_tracked hx]
    by_cases hn : x = name
    · subst hn
      cases tracked.symm.trans hx
      simp [inactive]
    · simp only [mem_names_append, hn, or_false]
  | none =>
    rw [visited_missing hx, visited_missing hx, List.map_append]
    simp [seeker?_append, inactive]

/-- Where the visit of an entry whose needs are done leaves a name. -/
theorem visited_ready {seen : List (String × Entry)} (tracked : q.get? name = some e)
    (active : e.isActive = true) (ready : q.isReady e = true) (x : String) :
    visitedEntry m q (seen ++ [(name, e)]) x =
      if x = name then some e.launched else visitedEntry m q seen x := by
  cases hx : q.get? x with
  | some e' =>
    rw [visited_tracked hx, visited_tracked hx]
    by_cases hn : x = name
    · subst hn
      cases tracked.symm.trans hx
      simp only [mem_names_append, active, ready, or_true, and_self, if_true]
    · simp only [mem_names_append, hn, or_false, if_false]
  | none =>
    have other : x ≠ name := by
      rintro rfl
      rw [tracked] at hx
      cases hx
    have met : ¬ e.command.needs.contains x = true := by
      intro needed
      have done := isReady_iff.1 ready x (List.contains_iff_mem.1 needed)
      rw [statusOf, hx] at done
      cases done
    rw [visited_missing hx, visited_missing hx, List.map_append, if_neg other]
    simp only [List.map_cons, List.map_nil, seeker?_append, met, Bool.and_false, Bool.false_eq_true,
      if_false, Option.or_none]

/-- Where the visit of an entry that has to wait leaves a name. -/
theorem visited_unready {seen : List (String × Entry)} (tracked : q.get? name = some e)
    (active : e.isActive = true) (unready : ¬ q.isReady e = true) (x : String) :
    visitedEntry m q (seen ++ [(name, e)]) x = (visitedEntry m q seen x).or
      (if x ∈ e.command.needs then neededEntry m e.persist x else none) := by
  cases hx : q.get? x with
  | some e' =>
    rw [visited_tracked hx, visited_tracked hx, Option.some_or]
    by_cases hn : x = name
    · subst hn
      cases tracked.symm.trans hx
      simp [unready]
    · simp only [mem_names_append, hn, or_false]
  | none =>
    rw [visited_missing hx, visited_missing hx, List.map_append]
    simp only [List.map_cons, List.map_nil, seeker?_append, active, Bool.true_and,
      List.contains_iff_mem]
    cases seeker? (seen.map Prod.snd) x with
    | none => by_cases hm : x ∈ e.command.needs <;> simp [hm]
    | some first =>
      -- Whoever asks first decides; asking again finds the command known or unknown alike.
      rw [Option.some_or, Option.bind_some]
      cases hc : m.get? x <;> simp [neededEntry, hc]

/-- An entry that is to be visited has not been visited. -/
theorem next_unseen {seen rest : List (String × Entry)} (split : q.toList = seen ++ (name, e) :: rest) :
    q.get? name = some e ∧ name ∉ seen.map Prod.fst := by
  refine ⟨(NameMap.get?_eq_some_iff q).2 (split ▸ List.mem_append_right _ List.mem_cons_self), ?_⟩
  have nodup := q.keys_nodup
  rw [NameMap.keys, split, List.map_append, List.map_cons, List.nodup_append] at nodup
  exact fun mem => nodup.2.2 name mem name List.mem_cons_self rfl

/-- It is as it was. -/
theorem visited_next {seen rest : List (String × Entry)} (split : q.toList = seen ++ (name, e) :: rest) :
    q.get? name = some e ∧ visitedEntry m q seen name = some e := by
  obtain ⟨tracked, new⟩ := next_unseen split
  exact ⟨tracked, by rw [visited_tracked tracked, if_neg fun h => new h.1]⟩

/-- Its needs are done in the course of the scan if they were done before it. -/
theorem visited_isReady (sound : Sound m q) {seen : List (String × Entry)} {s : Queue}
    (here : ∀ x, s.get? x = visitedEntry m q seen x) (e : Entry) : s.isReady e = q.isReady e := by
  simp only [isReady, visited_done sound here]

theorem visited_visit (sound : Sound m q) {seen rest : List (String × Entry)} {s : Scan}
    (split : q.toList = seen ++ (name, e) :: rest)
    (here : ∀ x, s.queue.get? x = visitedEntry m q seen x) (x : String) :
    (s.visit m name).queue.get? x = visitedEntry m q (seen ++ [(name, e)]) x := by
  obtain ⟨tracked, next⟩ := visited_next (m := m) split
  have now := (here name).trans next
  cases active : e.isActive with
  | false => rw [visit_inactive now active, visited_inactive tracked active, here]
  | true =>
    rw [get?_visit now active, visited_isReady sound here, here]
    by_cases ready : q.isReady e = true
    · rw [if_pos ready, visited_ready tracked active ready]
    · rw [if_neg ready, visited_unready tracked active ready]

/-- What holds before the first visit, and after each visit if it held before it, holds after a scan. -/
theorem visits_keep {P : List (String × Entry) → Scan → Prop} (start : P [] ⟨q, {}, true⟩)
    (visit : ∀ {seen rest : List (String × Entry)} {name : String} {e : Entry} {s : Scan},
      q.toList = seen ++ (name, e) :: rest → P seen s → P (seen ++ [(name, e)]) (s.visit m name)) :
    P q.toList (q.keys.foldl (Scan.visit m) ⟨q, {}, true⟩) := by
  -- Both sides move on together: what the scan has left to visit joins what it has seen.
  have onward : ∀ {seen rest : List (String × Entry)} {s : Scan}, q.toList = seen ++ rest → P seen s →
      P q.toList ((rest.map Prod.fst).foldl (Scan.visit m) s) := by
    intro seen rest s split kept
    induction rest generalizing seen s with
    | nil =>
      rw [List.append_nil] at split
      rw [split]
      exact kept
    | cons d rest ih =>
      rw [List.map_cons, List.foldl_cons]
      exact ih (by rw [split, List.append_assoc, List.singleton_append]) (visit split kept)
  exact onward (List.nil_append _).symm start

theorem visited_start (m : Manifest) (q : Queue) (name : String) :
    q.get? name = visitedEntry m q [] name := by
  cases he : q.get? name with
  | some e => simp [visited_tracked he]
  | none => simp [visited_missing he, seeker?]

/-- **A scan is determined by the queue it begins with**, whatever the order of its visits. -/
theorem Sound.get?_scan (sound : Sound m q) (name : String) :
    (q.scan m).1.get? name = scannedEntry m q name := by
  have all := visits_keep (P := fun seen s => ∀ x, s.queue.get? x = visitedEntry m q seen x)
    (visited_start m q) fun split here => visited_visit sound split here
  refine (all name).trans ?_
  cases he : q.get? name with
  | some e =>
    have mem : name ∈ q.toList.map Prod.fst :=
      (NameMap.mem_keys_iff q).2 ((NameMap.contains_iff q).2 ⟨e, he⟩)
    simp [visited_tracked he, scannedEntry, he, mem]
  | none =>
    rw [visited_missing he]
    simp only [scannedEntry, he, NameMap.values]

theorem Sound.scan_tracked (sound : Sound m q) (he : q.get? name = some e) :
    (q.scan m).1.get? name = some (if e.isActive && q.isReady e then e.launched else e) := by
  rw [sound.get?_scan, scannedEntry, he]

theorem Sound.scan_missing (sound : Sound m q) (he : q.get? name = none) :
    (q.scan m).1.get? name =
      (seeker? q.values name).bind fun e => neededEntry m e.persist name := by
  rw [sound.get?_scan, scannedEntry, he]

theorem mem_values : e ∈ q.values ↔ ∃ name, q.get? name = some e := by
  simp only [NameMap.values, List.mem_map, NameMap.get?_eq_some_iff]
  constructor
  · rintro ⟨⟨name, e⟩, mem, rfl⟩
    exact ⟨name, mem⟩
  · rintro ⟨name, mem⟩
    exact ⟨(name, e), mem, rfl⟩

theorem seeker?_eq_some (h : seeker? q.values need = some e) :
    ∃ name, q.get? name = some e ∧ e.isActive = true ∧ need ∈ e.command.needs := by
  obtain ⟨name, he⟩ := mem_values.1 (List.mem_of_find?_eq_some h)
  have found := List.find?_some h
  rw [Bool.and_eq_true, List.contains_iff_mem] at found
  exact ⟨name, he, found⟩

/-- What a scan discovers was not in the queue before and is in it afterwards. -/
theorem mem_discovered (h : name ∈ (q.scan m).2.discovered) :
    q.get? name = none ∧ ((q.scan m).1.get? name).isSome = true := by
  obtain ⟨status, turn, -⟩ := course_scan m q name
  generalize ha : (q.scan m).1.get? name = after at turn
  cases turn with
  | untouched new => exact absurd (List.mem_append_left _ h) new
  | discovered _ _ missing => exact ⟨missing, rfl⟩
  | launched _ _ _ old => exact absurd h old

/-- A scan that finds nothing to do leaves the queue as it is. -/
theorem scan_idle (idle : (q.scan m).2.isIdle = true) : (q.scan m).1 = q := by
  rw [Pass.isIdle, Bool.and_eq_true, List.isEmpty_iff, List.isEmpty_iff] at idle
  refine NameMap.ext fun name => ?_
  obtain ⟨status, turn, -⟩ := course_scan m q name
  generalize (q.scan m).1.get? name = after at turn
  cases turn with
  | untouched => rfl
  | discovered _ _ _ once =>
    rw [idle.2] at once
    cases once
  | launched _ _ _ _ once =>
    rw [idle.1] at once
    cases once

end Supervisor.Queue
