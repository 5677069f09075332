import Supervisor.Proofs.Queue.Closure
import Supervisor.Proofs.Queue.Snapshot

/-!
# What eviction leaves

Nothing that is evicted is needed by anything in the queue, so no walk comes to it and no scan asks for
it again. A scan of what is left goes side by side with a scan of all, visit by visit; the visits of
evicted entries, which have ended, do nothing. A second scan may differ: what the first one discovers
may need what was evicted.
-/

namespace Supervisor.Queue

variable {m : Manifest} {q s t : Queue} {name need root : String} {e : Entry}

/-! ## What is evicted -/

theorem isNeeded_eq_false : q.isNeeded name = false ↔
    ∀ other e, q.get? other = some e → name ∉ e.command.needs := by
  rw [isNeeded, List.any_eq_false]
  simp only [List.contains_iff_mem]
  constructor
  · exact fun unneeded other e here => unneeded e (mem_values.2 ⟨other, here⟩)
  · intro unneeded e mem
    obtain ⟨other, here⟩ := mem_values.1 mem
    exact unneeded other e here

theorem mem_evicted_iff : name ∈ q.evict.2 ↔ ∃ e, q.get? name = some e ∧
    (e.status = .done ∨ e.status = .error) ∧ e.command.policy = .always ∧
      ∀ other e', q.get? other = some e' → name ∉ e'.command.needs := by
  rw [mem_evicted]
  simp only [isEvictable_iff, Status.isTerminal_iff, isNeeded_eq_false]

theorem isEvictable_iff_mem (here : q.get? name = some e) :
    q.isEvictable name e = true ↔ name ∈ q.evict.2 := by
  rw [mem_evicted, here]
  simp

theorem get?_evicted (name : String) :
    q.evict.1.get? name = if name ∈ q.evict.2 then none else q.get? name := by
  rw [get?_evict]
  cases here : q.get? name with
  | none => simp
  | some e =>
    by_cases gone : q.isEvictable name e = true
    · simp [← isEvictable_iff_mem here, gone]
    · simp [← isEvictable_iff_mem here, gone]

theorem kept_of_contains (there : q.evict.1.contains name = true) :
    q.contains name = true ∧ name ∉ q.evict.2 := by
  rw [NameMap.contains, get?_evicted] at there
  split at there
  · cases there
  · rename_i kept
    exact ⟨there, kept⟩

theorem evict_eq_self (keeps : ∀ name, q.contains name = true → q.evict.1.contains name = true) :
    q.evict.1 = q := by
  refine NameMap.ext fun name => ?_
  rw [get?_evicted]
  split
  · rename_i gone
    obtain ⟨e, here, -⟩ := mem_evicted.1 gone
    exact absurd gone (kept_of_contains (keeps name ((NameMap.contains_iff q).2 ⟨e, here⟩))).2
  · rfl

/-- What an entry needs stays. -/
theorem kept_of_needed {other : String} (here : q.get? other = some e)
    (needed : need ∈ e.command.needs) : need ∉ q.evict.2 := by
  intro gone
  obtain ⟨-, -, -, -, unneeded⟩ := mem_evicted_iff.1 gone
  exact unneeded other e here needed

/-- An evicted entry has ended for a scan, too. -/
theorem inactive_of_evicted (gone : q.isEvictable name e = true) : e.isActive = false := by
  obtain ⟨ended, always, -⟩ := isEvictable_iff.1 gone
  simp [Entry.isActive, Entry.isSettled, ended, always]

/-! ## Walks -/

theorem needsOf_evict (kept : name ∉ q.evict.2) : q.evict.1.needsOf name = q.needsOf name := by
  rw [needsOf, get?_evicted, if_neg kept, needsOf]

theorem walk_evict (q : Queue) (fresh stack : List String) (kept : ∀ x ∈ stack, x ∉ q.evict.2) :
    q.evict.1.walk (fresh.filter (· ∉ q.evict.2)) stack = q.walk fresh stack := by
  fun_induction q.walk fresh stack with
  | case1 => rw [walk]
  | case2 fresh top rest mem ih =>
    have stays := kept top List.mem_cons_self
    have passed : without top (fresh.filter (· ∉ q.evict.2)) =
        (without top fresh).filter (· ∉ q.evict.2) := by
      rw [without, without, List.filter_filter, List.filter_filter]
      simp only [Bool.and_comm]
    rw [walk, if_pos (List.mem_filter.2 ⟨mem, decide_eq_true stays⟩), passed, needsOf_evict stays]
    refine congrArg (top :: ·) (ih fun x there => ?_)
    rcases List.mem_append.1 there with needed | there
    · obtain ⟨e, here, needed⟩ := mem_needsOf.1 (List.mem_reverse.1 needed)
      exact kept_of_needed here needed
    · exact kept x (List.mem_cons_of_mem _ there)
  | case3 fresh top rest old ih =>
    rw [walk, if_neg fun mem => old (List.mem_filter.1 mem).1]
    exact ih fun x there => kept x (List.mem_cons_of_mem _ there)

theorem keys_evict (q : Queue) : q.evict.1.keys = q.keys.filter (· ∉ q.evict.2) := by
  rw [NameMap.keys, NameMap.keys, List.filter_map]
  refine congrArg (List.map Prod.fst) (List.filter_congr fun d mem => ?_)
  have here := (NameMap.get?_eq_some_iff q).2 mem
  rw [Bool.eq_iff_iff, Function.comp_apply, decide_eq_true_iff, ← isEvictable_iff_mem here,
    Bool.not_eq_true', Bool.not_eq_true]

theorem closure_evict (kept : root ∉ q.evict.2) : q.evict.1.closure root = q.closure root := by
  rw [closure, keys_evict, closure]
  exact walk_evict q q.keys [root] fun x here => List.mem_singleton.1 here ▸ kept

/-- What is found in a closure stays. -/
theorem kept_of_closure (kept : root ∉ q.evict.2) (found : name ∈ q.closure root) :
    name ∉ q.evict.2 := by
  obtain ⟨-, leads⟩ := mem_closure_iff.1 found
  cases leads with
  | refl => exact kept
  | tail _ last =>
    obtain ⟨e, here, needed⟩ := mem_needsOf.1 last.1
    exact kept_of_needed here needed

/-- What is asked of the entries in a closure is answered as before. -/
theorem any_closure_evict (kept : root ∉ q.evict.2) (p : String → Option Entry → Bool) :
    ((q.evict.1.closure root).any fun name => p name (q.evict.1.get? name)) =
      (q.closure root).any fun name => p name (q.get? name) := by
  rw [closure_evict kept, Bool.eq_iff_iff, List.any_eq_true, List.any_eq_true]
  refine exists_congr fun name => and_congr_right fun found => ?_
  rw [get?_evicted, if_neg (kept_of_closure kept found)]

theorem closurePending_evict (kept : root ∉ q.evict.2) :
    q.evict.1.closurePending root = q.closurePending root := by
  have unchanged := any_closure_evict kept fun _ found => found.any fun e => !e.status.isTerminal
  exact unchanged

theorem isBlocked_evict (kept : root ∉ q.evict.2) :
    q.evict.1.isBlocked root = q.isBlocked root := by
  have unchanged := any_closure_evict kept fun name found =>
    name ≠ root && found.any fun e => e.status = .error && e.command.policy ≠ .restart
  exact unchanged

/-- A choice of entries that have not ended is not affected by eviction. -/
theorem filter_evict {p p' : String → Entry → Bool}
    (same : ∀ name, name ∉ q.evict.2 → ∀ e, p' name e = p name e)
    (live : ∀ name e, p name e = true → e.status.isTerminal = false) :
    q.evict.1.filter p' = q.filter p := by
  refine NameMap.ext fun name => ?_
  rw [NameMap.get?_filter, NameMap.get?_filter, get?_evicted]
  by_cases gone : name ∈ q.evict.2
  · obtain ⟨e, here, evictable⟩ := mem_evicted.1 gone
    have ended := (isEvictable_iff.1 evictable).1
    have passed : ¬ p name e = true := by
      intro chosen
      rw [live name e chosen] at ended
      cases ended
    rw [if_pos gone, here, Option.filter_some, if_neg passed, Option.filter_none]
  · rw [if_neg gone]
    exact congrArg (Option.filter · (q.get? name)) (funext (same name gone))

theorem pending_evict (q : Queue) : q.evict.1.pending = q.pending := by
  rw [pending, pending, filter_evict (fun _ _ _ => rfl)]
  intro name e live
  exact Bool.not_eq_true' _ ▸ live

theorem stalled_evict (q : Queue) : q.evict.1.stalled = q.stalled := by
  rw [stalled, stalled, filter_evict]
  · intro name kept e
    rw [isBlocked_evict kept]
  · intro name e waits
    rw [Bool.and_eq_true, decide_eq_true_eq] at waits
    rw [waits.1]
    rfl

/-! ## Scans side by side -/

/-- The second queue is the first one without what was evicted from `q`. -/
structure Bereft (q s t : Queue) : Prop where
  gone : ∀ name ∈ q.evict.2, t.get? name = none ∧ s.get? name = q.get? name
  kept : ∀ name, name ∉ q.evict.2 → t.get? name = s.get? name

theorem bereft_evict (q : Queue) : Bereft q q q.evict.1 where
  gone name mem := ⟨by rw [get?_evicted, if_pos mem], rfl⟩
  kept name stays := by rw [get?_evicted, if_neg stays]

theorem Bereft.insert (h : Bereft q s t) (stays : name ∉ q.evict.2) (e : Entry) :
    Bereft q (s.insert name e) (t.insert name e) where
  gone other mem := by
    have apart : other ≠ name := fun same => stays (same ▸ mem)
    rw [NameMap.get?_insert_of_ne _ _ apart, NameMap.get?_insert_of_ne _ _ apart]
    exact h.gone other mem
  kept other still := by
    rw [NameMap.get?_insert, NameMap.get?_insert, h.kept other still]

/-- Two scans under way have done the same so far. -/
structure Abreast (q : Queue) (a b : Scan) : Prop where
  queue : Bereft q a.queue b.queue
  pass : b.pass = a.pass
  ready : b.ready = a.ready

variable {a b : Scan}

theorem Abreast.look (h : Abreast q a b) (persist : Bool) (stays : need ∉ q.evict.2) :
    Abreast q (a.need m persist need) (b.need m persist need) := by
  have here := h.queue.kept need stays
  unfold Scan.need
  rw [here]
  cases found : a.queue.get? need with
  | some e =>
    dsimp only
    split
    · exact h
    · exact ⟨h.queue, h.pass, rfl⟩
  | none =>
    rw [found] at here
    cases known : m.get? need with
    | none =>
      rw [enqueue_unknown known, enqueue_unknown known]
      exact ⟨h.queue, h.pass, rfl⟩
    | some command =>
      rw [enqueue_missing known here, enqueue_missing known found]
      refine ⟨h.queue.insert stays _, ?_, rfl⟩
      dsimp only
      rw [h.pass]

theorem Abreast.needs (h : Abreast q a b) (persist : Bool) (needs : List String)
    (stay : ∀ need ∈ needs, need ∉ q.evict.2) :
    Abreast q (needs.foldl (Scan.need m persist) a) (needs.foldl (Scan.need m persist) b) := by
  induction needs generalizing a b with
  | nil => exact h
  | cons need rest ih =>
    exact ih (h.look persist (stay need List.mem_cons_self))
      fun other mem => stay other (List.mem_cons_of_mem _ mem)

theorem Abreast.launch (h : Abreast q a b) (stays : name ∉ q.evict.2) (e : Entry) :
    Abreast q (a.launch name e) (b.launch name e) := by
  refine ⟨h.queue.insert stays _, ?_, h.ready⟩
  simp only [Scan.launch, h.pass]

/-- Both scans visit an entry that stays. -/
theorem Abreast.visit (h : Abreast q a b) (stays : name ∉ q.evict.2) (here : a.queue.get? name = some e)
    (stay : ∀ need ∈ e.command.needs, need ∉ q.evict.2) :
    Abreast q (a.visit m name) (b.visit m name) := by
  have there := (h.queue.kept name stays).trans here
  have begun : Abreast q { a with ready := true } { b with ready := true } := ⟨h.queue, h.pass, rfl⟩
  have looked := begun.needs (m := m) e.persist e.command.needs stay
  simp only [Scan.visit, here, there]
  split
  · exact h
  · rw [looked.ready]
    split
    · exact looked.launch stays e
    · exact looked

/-- A visit changes no other entry of the queue. -/
theorem get?_visit_of_ne {other : String} {e' : Entry} (here : a.queue.get? name = some e)
    (there : a.queue.get? other = some e') (apart : other ≠ name) :
    (a.visit m name).queue.get? other = some e' := by
  cases active : e.isActive with
  | false => rw [visit_inactive here active, there]
  | true =>
    rw [get?_visit here active, there, if_neg apart, Option.some_or]
    split <;> rfl

/-- The names of the entries that stay. -/
def staying (q : Queue) (seen : List (String × Entry)) : List String :=
  (seen.filter fun d => !q.isEvictable d.1 d.2).map Prod.fst

/-- How far two scans have come that have done the same: the first one has visited some entries, the
second one those of them that stay. -/
structure Marching (m : Manifest) (q : Queue) (seen : List (String × Entry)) (a : Scan) : Prop where
  abreast : Abreast q a ((staying q seen).foldl (Scan.visit m) ⟨q.evict.1, {}, true⟩)
  ahead : ∀ name e, q.get? name = some e → name ∉ seen.map Prod.fst → a.queue.get? name = some e

theorem Marching.visit {seen rest : List (String × Entry)} (h : Marching m q seen a)
    (split : q.toList = seen ++ (name, e) :: rest) :
    Marching m q (seen ++ [(name, e)]) (a.visit m name) := by
  obtain ⟨here, new⟩ := next_unseen split
  have now := h.ahead name e here new
  constructor
  · by_cases gone : q.isEvictable name e = true
    · have same : staying q (seen ++ [(name, e)]) = staying q seen := by simp [staying, gone]
      rw [same, visit_inactive now (inactive_of_evicted gone)]
      exact h.abreast
    · have more : staying q (seen ++ [(name, e)]) = staying q seen ++ [name] := by
        simp [staying, gone]
      rw [more, List.foldl_append]
      exact h.abreast.visit (fun mem => gone ((isEvictable_iff_mem here).2 mem)) now
        fun need => kept_of_needed here
  · intro other e' there unseen
    rw [List.map_append, List.mem_append, not_or] at unseen
    refine get?_visit_of_ne now (h.ahead other e' there unseen.1) ?_
    exact fun same => unseen.2 (same ▸ List.mem_singleton_self other)

theorem marching_scan (m : Manifest) (q : Queue) :
    Marching m q q.toList (q.keys.foldl (Scan.visit m) ⟨q, {}, true⟩) :=
  visits_keep ⟨⟨bereft_evict q, rfl, rfl⟩, fun _ _ here _ => here⟩ fun split h => h.visit split

theorem scan_evict (m : Manifest) (q : Queue) :
    Bereft q (q.scan m).1 (q.evict.1.scan m).1 ∧ (q.evict.1.scan m).2 = (q.scan m).2 := by
  have abreast := (marching_scan m q).abreast
  exact ⟨abreast.queue, abreast.pass⟩

/-- What remains after eviction does not notice it. -/
structure Unnoticed (m : Manifest) (q after : Queue) (gone : List String) : Prop where
  pending : after.pending = q.pending
  stalled : after.stalled = q.stalled
  closure : ∀ name, name ∉ gone → after.closure name = q.closure name
  closurePending : ∀ name, name ∉ gone → after.closurePending name = q.closurePending name
  pass : (after.scan m).2 = (q.scan m).2
  scanned : ∀ name, name ∉ gone → (after.scan m).1.get? name = (q.scan m).1.get? name

/-- **Eviction is not noticed by what remains.** Exactly those entries leave that have ended, may run
again when asked for, and that no entry of the queue needs, themselves included; all others stay as they
are. For these nothing changes: what is pending or stalled, what they depend on, and what the next scan
launches, discovers and writes. -/
theorem eviction_unnoticed (m : Manifest) (q : Queue) :
    (∀ name, name ∈ q.evict.2 ↔ ∃ e, q.get? name = some e ∧
      (e.status = .done ∨ e.status = .error) ∧ e.command.policy = .always ∧
        ∀ other e', q.get? other = some e' → name ∉ e'.command.needs) ∧
    (∀ name, q.evict.1.get? name = if name ∈ q.evict.2 then none else q.get? name) ∧
    Unnoticed m q q.evict.1 q.evict.2 := by
  obtain ⟨after, same⟩ := scan_evict m q
  exact ⟨fun _ => mem_evicted_iff, get?_evicted, pending_evict q, stalled_evict q,
    fun _ => closure_evict, fun _ => closurePending_evict, same, after.kept⟩

/-- Two commands that need each other, one that failed and one that waits for it, and one that nothing
needs; what the last one needs is not evicted together with it. -/
def attic : Queue :=
  .ofList [("app", ⟨.waiting, true, 0, ⟨"app", .always, ["db"], []⟩⟩),
    ("db", ⟨.error, true, 1, ⟨"db", .always, [], []⟩⟩),
    ("lib", ⟨.done, true, 1, ⟨"lib", .always, [], []⟩⟩),
    ("old", ⟨.done, true, 2, ⟨"old", .always, ["lib"], []⟩⟩),
    ("page", ⟨.waiting, false, 0, ⟨"page", .always, ["font", "lib"], []⟩⟩),
    ("ping", ⟨.done, false, 1, ⟨"ping", .always, ["pong"], []⟩⟩),
    ("pong", ⟨.done, false, 1, ⟨"pong", .always, ["ping"], []⟩⟩),
    ("web", ⟨.error, true, 3, ⟨"web", .restart, ["lib"], []⟩⟩)]

theorem eviction_unnoticed_attic :
    attic.evict.2 = ["old"] ∧ attic.evict.1.pending = ["app", "page"] ∧
    ∃ pass, (attic.evict.1.scan almanac).2 = pass ∧ pass.launches.map Launch.name = ["web"] ∧
      pass.discovered = ["font"] ∧ pass.writes = [⟨"font", .waiting⟩, ⟨"web", .running⟩] := by
  obtain ⟨-, -, unnoticed⟩ := eviction_unnoticed almanac attic
  exact ⟨rfl, unnoticed.pending.trans rfl, _, unnoticed.pass, by decide +kernel, by decide +kernel,
    by decide +kernel⟩

end Supervisor.Queue
