import Supervisor.Proofs.Scheduler.Effects

/-!
# Watchers as channels

What is done with the watchers, one act after another, the latest first, each with its answer. The acts
alone say what a subscriber finds on looking: the last list it was told while it was registered, if it
has not looked since; otherwise the end, once it has left or all was closed, or no change. Nothing is
said of subscribers that stop listening, and the numbers of subscribers are never used up.
-/

namespace Supervisor.Watchers

inductive Act where
  | subscribed (id : Nat)
  | unsubscribed (id : Nat)
  | told (names : List String)
  | closed
  | polled (id : Nat) (look : Look)
  deriving DecidableEq

inductive Step (w : Watchers) : Act → Watchers → Prop
  | subscribe : Step w (.subscribed w.nextId) w.subscribe
  | unsubscribe (id : Nat) : Step w (.unsubscribed id) (w.unsubscribe id)
  | broadcast (names : List String) : Step w (.told names) (w.broadcast names)
  | close : Step w .closed w.closeAll
  | poll (id : Nat) : Step w (.polled id (w.poll id).2) (w.poll id).1

/-- Any of these in any order, beginning with no subscriber. -/
inductive Steps : List Act → Watchers → Prop
  | none : Steps [] {}
  | more {past : List Act} {act : Act} {w w' : Watchers} (earlier : Steps past w)
      (step : Step w act w') : Steps (act :: past) w'

variable {w w' : Watchers} {acts : List Act} {act : Act} {id : Nat} {names : List String}
  {x : Watcher}

/-! ## What the acts say -/

def Act.arrival? : Act → Option Nat
  | subscribed id => some id
  | _ => none

/-- The subscribers that came, the latest first. -/
def arrivals (acts : List Act) : List Nat := acts.filterMap Act.arrival?

/-- The subscriber came and has left since. -/
def Departed (acts : List Act) (id : Nat) : Prop := [.unsubscribed id, .subscribed id].Sublist acts

structure Registered (acts : List Act) (id : Nat) : Prop where
  came : .subscribed id ∈ acts
  stayed : ¬ Departed acts id
  still : .closed ∉ acts

/-- The list is the last one told while the subscriber was registered, which has not looked since. -/
def Awaits (acts : List Act) (id : Nat) (names : List String) : Prop :=
  ∃ later earlier, acts = later ++ .told names :: earlier ∧ Registered earlier id ∧
    (∀ look, .polled id look ∉ later) ∧
    ∀ newer other older, later = newer ++ .told other :: older →
      ¬ Registered (older ++ .told names :: earlier) id

/-- The list that the act shows to the subscriber. -/
def Act.shown? (id : Nat) : Act → Option (List String)
  | polled i (.changed names) => if i = id then some names else none
  | _ => none

/-- The list that the subscriber saw last; a new one counts as having seen the empty list. -/
def lastSeen (acts : List Act) (id : Nat) : List String := (acts.findSome? (Act.shown? id)).getD []

/-- What the acts say of the watchers. -/
structure Logged (acts : List Act) (w : Watchers) : Prop where
  once : (arrivals acts).Nodup
  nobody : ∀ id, .subscribed id ∉ acts → (w.poll id).2 = .nobody
  changed : ∀ id, .subscribed id ∈ acts → ∀ names,
    ((w.poll id).2 = .changed names ↔ Awaits acts id names)
  closed : ∀ id, .subscribed id ∈ acts → ∀ names, ((w.poll id).2 = .closed names ↔
    (∀ news, ¬ Awaits acts id news) ∧ (Departed acts id ∨ .closed ∈ acts) ∧ names = lastSeen acts id)
  unchanged : ∀ id, .subscribed id ∈ acts → ∀ names, ((w.poll id).2 = .unchanged names ↔
    (∀ news, ¬ Awaits acts id news) ∧ ¬ (Departed acts id ∨ .closed ∈ acts) ∧
      names = lastSeen acts id)
  size : ∃ there : List Nat, there.Nodup ∧ (∀ id, id ∈ there ↔ Registered acts id) ∧
    w.size = there.length
  ended : .closed ∈ acts → w.size = 0

/-! ## One more act -/

theorem departed_cons : Departed (act :: acts) id ↔
    Departed acts id ∨ act = .unsubscribed id ∧ .subscribed id ∈ acts := by
  rw [Departed, List.sublist_cons_iff, Departed]
  simp only [List.cons.injEq]
  constructor
  · rintro (old | ⟨rest, ⟨rfl, rfl⟩, came⟩)
    · exact .inl old
    · exact .inr ⟨rfl, List.singleton_sublist.1 came⟩
  · rintro (old | ⟨rfl, came⟩)
    · exact .inl old
    · exact .inr ⟨_, ⟨rfl, rfl⟩, List.singleton_sublist.2 came⟩

/-- An act that is no arrival, no leaving and no end leaves those registered that were. -/
theorem registered_cons (came : act ≠ .subscribed id) (left : act ≠ .unsubscribed id)
    (ended : act ≠ .closed) : Registered (act :: acts) id ↔ Registered acts id := by
  have same : Departed (act :: acts) id ↔ Departed acts id := by
    rw [departed_cons]
    simp [left]
  constructor
  · rintro ⟨mem, stayed, still⟩
    exact ⟨(List.mem_cons.1 mem).resolve_left came.symm, fun h => stayed (same.2 h),
      fun h => still (List.mem_cons_of_mem _ h)⟩
  · rintro ⟨mem, stayed, still⟩
    refine ⟨List.mem_cons_of_mem _ mem, fun h => stayed (same.1 h), fun h => ?_⟩
    exact still ((List.mem_cons.1 h).resolve_left ended.symm)

theorem awaits_cons : Awaits (act :: acts) id names ↔
    (act = .told names ∧ Registered acts id) ∨
      (∀ look, act ≠ .polled id look) ∧ (∀ other, act = .told other → ¬ Registered acts id) ∧
        Awaits acts id names := by
  constructor
  · rintro ⟨later, earlier, split, registered, unseen, last⟩
    rcases List.cons_eq_append_iff.1 split with ⟨rfl, here⟩ | ⟨rest, rfl, rfl⟩
    · cases here
      exact .inl ⟨rfl, registered⟩
    · refine .inr ⟨fun look same => unseen look (same ▸ List.mem_cons_self), fun other same => ?_, ?_⟩
      · exact last [] other rest (by rw [same]; rfl)
      · refine ⟨rest, earlier, rfl, registered, fun look mem => ?_, fun newer other older split => ?_⟩
        · exact unseen look (List.mem_cons_of_mem _ mem)
        · exact last (act :: newer) other older (by rw [split]; rfl)
  · rintro (⟨rfl, registered⟩ | ⟨looks, tells, later, earlier, rfl, registered, unseen, last⟩)
    · exact ⟨[], acts, rfl, registered, fun _ => List.not_mem_nil, fun _ _ _ none => by simp at none⟩
    · refine ⟨act :: later, earlier, rfl, registered, fun look mem => ?_, fun newer other older split => ?_⟩
      · rcases List.mem_cons.1 mem with same | mem
        · exact looks look same.symm
        · exact unseen look mem
      · rcases List.cons_eq_append_iff.1 split with ⟨rfl, here⟩ | ⟨rest, rfl, split⟩
        · cases here
          exact tells other rfl
        · exact last rest other older (List.cons.inj split).2

/-- Acts other than telling and looking leave what is awaited. -/
theorem awaits_cons_of_ne (tells : ∀ other, act ≠ .told other) (looks : ∀ look, act ≠ .polled id look) :
    Awaits (act :: acts) id names ↔ Awaits acts id names := by
  rw [awaits_cons]
  simp [tells, looks]

theorem Awaits.came (awaits : Awaits acts id names) : .subscribed id ∈ acts := by
  obtain ⟨later, earlier, rfl, registered, -⟩ := awaits
  exact List.mem_append_right _ (List.mem_cons_of_mem _ registered.came)

theorem lastSeen_cons (act : Act) (acts : List Act) (id : Nat) :
    lastSeen (act :: acts) id = (act.shown? id).getD (lastSeen acts id) := by
  rw [lastSeen, List.findSome?_cons]
  cases act.shown? id <;> rfl

/-! ## Each subscriber -/

/-- A subscriber is as the acts say. -/
structure Reflects (acts : List Act) (id : Nat) (x : Watcher) : Prop where
  listening : x.listening = true
  registered : x.registered = true ↔ Registered acts id
  unseen : ∀ names, x.unseen = true ∧ x.latest = names ↔ Awaits acts id names
  seen : x.unseen = false → x.latest = lastSeen acts id

/-- The watchers are as the acts say. -/
structure Reflected (acts : List Act) (w : Watchers) : Prop where
  arrivals : arrivals acts = (List.range w.nextId).reverse
  closed : w.closed = true ↔ .closed ∈ acts
  each : ∀ id x, w.all[id]? = some x → Reflects acts id x
  unborn : ∀ id, w.nextId ≤ id → lastSeen acts id = []

theorem mem_arrivals : id ∈ Watchers.arrivals acts ↔ .subscribed id ∈ acts := by
  rw [Watchers.arrivals, List.mem_filterMap]
  constructor
  · rintro ⟨act, mem, came⟩
    cases act with
    | subscribed i =>
      cases came
      exact mem
    | unsubscribed | told | closed | polled => cases came
  · exact fun mem => ⟨_, mem, rfl⟩

theorem Reflected.came (h : Reflected acts w) : .subscribed id ∈ acts ↔ id < w.nextId := by
  rw [← mem_arrivals, h.arrivals, List.mem_reverse, List.mem_range]

theorem getElem?_eq_none (new : w.nextId ≤ id) : w.all[id]? = none := List.getElem?_eq_none new

theorem lt_of_getElem? (here : w.all[id]? = some x) : id < w.nextId :=
  (List.getElem?_eq_some_iff.1 here).1

/-- What a subscriber finds that listens. -/
def found (x : Watcher) : Look :=
  if x.unseen then .changed x.latest
  else if x.registered then .unchanged x.latest
  else .closed x.latest

theorem poll_found (here : w.all[id]? = some x) (listening : x.listening = true) :
    (w.poll id).2 = found x := by
  have heard : w.listener? id = some x := by simp [listener?, here, Option.filter, listening]
  rw [poll, heard, found]
  dsimp only
  split
  · rfl
  · split <;> rfl

theorem poll_nobody (new : w.nextId ≤ id) : w.poll id = (w, .nobody) := by
  rw [poll, listener?, getElem?_eq_none new]
  rfl

theorem nextId_poll_fst (w : Watchers) (id : Nat) : (w.poll id).1.nextId = w.nextId :=
  nextId_poll (Prod.eta _).symm

theorem closed_poll (w : Watchers) (id : Nat) : (w.poll id).1.closed = w.closed := by
  rcases poll_cases (Prod.eta (w.poll id)).symm with same | same
  · rw [same]
  · rw [same]
    rfl

/-- Having looked, a subscriber has seen what it was told last. -/
theorem getElem?_poll (here : w.all[id]? = some x) (listening : x.listening = true) (n : Nat) :
    (w.poll id).1.all[n]? =
      if n = id then some { x with unseen := false } else w.all[n]? := by
  have heard : w.listener? id = some x := by simp [listener?, here, Option.filter, listening]
  have kept (old : x.unseen = false) :
      w.all[n]? = if n = id then some { x with unseen := false } else w.all[n]? := by
    split
    · rename_i same
      rw [same, here, ← old]
    · rfl
  rw [poll, heard]
  dsimp only
  split
  · rw [getElem?_update]
    split
    · rename_i same
      rw [same, here, Option.map_some]
    · rfl
  · rename_i old
    have seen := kept (Bool.eq_false_iff.2 old)
    split <;> exact seen

/-- What an act leaves as it was, it leaves as the acts say. -/
theorem Reflects.still (h : Reflects acts id x)
    (registered : Registered (act :: acts) id ↔ Registered acts id)
    (awaits : ∀ names, Awaits (act :: acts) id names ↔ Awaits acts id names)
    (shown : act.shown? id = none) : Reflects (act :: acts) id x where
  listening := h.listening
  registered := h.registered.trans registered.symm
  unseen names := (h.unseen names).trans (awaits names).symm
  seen looked := by
    rw [lastSeen_cons, shown]
    exact h.seen looked

theorem Reflected.subscribe (h : Reflected acts w) :
    Reflected (.subscribed w.nextId :: acts) w.subscribe where
  arrivals := by
    have next : w.subscribe.nextId = w.nextId + 1 := List.length_append
    rw [next, List.range_succ, List.reverse_append, ← h.arrivals]
    rfl
  closed := by
    rw [List.mem_cons]
    exact h.closed.trans (or_iff_right Act.noConfusion).symm
  each id x here := by
    have awaits (names : List String) :
        Awaits (.subscribed w.nextId :: acts) id names ↔ Awaits acts id names :=
      awaits_cons_of_ne (fun _ => Act.noConfusion) fun _ => Act.noConfusion
    by_cases old : id < w.nextId
    · have other : Act.subscribed w.nextId ≠ .subscribed id := by
        rintro ⟨⟩
        exact Nat.lt_irrefl _ old
      rw [Watchers.subscribe, List.getElem?_append_left old] at here
      exact (h.each id x here).still (registered_cons other Act.noConfusion Act.noConfusion) awaits rfl
    · obtain rfl : id = w.nextId := by
        have next : w.subscribe.nextId = w.nextId + 1 := List.length_append
        have bound := lt_of_getElem? here
        omega
      have new : Act.subscribed w.nextId ∉ acts := fun came => old (h.came.1 came)
      rw [getElem?_subscribe_self] at here
      cases here
      refine ⟨rfl, ?_, fun names => ?_, fun _ => ?_⟩
      · rw [Bool.not_eq_true', ← Bool.not_eq_true, h.closed]
        refine ⟨fun still => ⟨List.mem_cons_self, fun departed => ?_, ?_⟩, fun registered closed => ?_⟩
        · have later := departed_cons.1 departed
          simp only [reduceCtorEq, false_and, or_false] at later
          exact new (later.subset (List.mem_cons_of_mem _ List.mem_cons_self))
        · simpa using still
        · exact registered.still (List.mem_cons_of_mem _ closed)
      · rw [awaits]
        exact iff_of_false (fun h => by cases h.1) fun h => new h.came
      · rw [lastSeen_cons]
        exact (h.unborn _ Nat.le.refl).symm
  unborn id new := by
    have next : w.subscribe.nextId = w.nextId + 1 := List.length_append
    rw [lastSeen_cons]
    exact h.unborn id (by omega)

theorem Reflected.unsubscribe (h : Reflected acts w) (i : Nat) :
    Reflected (.unsubscribed i :: acts) (w.unsubscribe i) where
  arrivals := by
    rw [Watchers.unsubscribe, nextId_update, ← h.arrivals]
    rfl
  closed := by
    rw [List.mem_cons]
    exact h.closed.trans (or_iff_right Act.noConfusion).symm
  each id x here := by
    have awaits (names : List String) :
        Awaits (.unsubscribed i :: acts) id names ↔ Awaits acts id names :=
      awaits_cons_of_ne (fun _ => Act.noConfusion) fun _ => Act.noConfusion
    rw [Watchers.unsubscribe, getElem?_update] at here
    split at here
    · rename_i same
      subst same
      obtain ⟨x, old, rfl⟩ := Option.map_eq_some_iff.1 here
      obtain ⟨listening, -, unseen, seen⟩ := h.each id x old
      have departed : Departed (.unsubscribed id :: acts) id :=
        departed_cons.2 (.inr ⟨rfl, h.came.2 (lt_of_getElem? old)⟩)
      refine ⟨listening, ?_, fun names => (unseen names).trans (awaits names).symm, fun looked => ?_⟩
      · exact iff_of_false Bool.noConfusion fun registered => registered.stayed departed
      · rw [lastSeen_cons]
        exact seen looked
    · rename_i other
      have left : Act.unsubscribed i ≠ .unsubscribed id := by
        rintro ⟨⟩
        exact other rfl
      exact (h.each id x here).still (registered_cons Act.noConfusion left Act.noConfusion) awaits rfl
  unborn id new := by
    rw [Watchers.unsubscribe, nextId_update] at new
    rw [lastSeen_cons]
    exact h.unborn id new

theorem Reflected.broadcast (h : Reflected acts w) (names : List String) :
    Reflected (.told names :: acts) (w.broadcast names) where
  arrivals := by
    have same : (w.broadcast names).nextId = w.nextId := List.length_map ..
    rw [same, ← h.arrivals]
    rfl
  closed := by
    rw [List.mem_cons]
    exact h.closed.trans (or_iff_right Act.noConfusion).symm
  each id x here := by
    rw [Watchers.broadcast, List.getElem?_map] at here
    obtain ⟨x, old, rfl⟩ := Option.map_eq_some_iff.1 here
    have reflects := h.each id x old
    have registered : Registered (.told names :: acts) id ↔ Registered acts id :=
      registered_cons Act.noConfusion Act.noConfusion Act.noConfusion
    split
    · rename_i told
      have here := reflects.registered.1 told
      refine ⟨reflects.listening, reflects.registered.trans registered.symm, fun other => ?_,
        fun looked => by cases looked⟩
      rw [awaits_cons]
      simp only [Act.told.injEq, here, and_true, not_true_eq_false, imp_false, forall_eq', false_and,
        and_false, or_false, true_and]
    · rename_i missed
      have gone : ¬ Registered acts id := fun here => missed (reflects.registered.2 here)
      refine reflects.still registered (fun other => ?_) rfl
      rw [awaits_cons]
      simp [gone]
  unborn id new := by
    have same : (w.broadcast names).nextId = w.nextId := List.length_map ..
    rw [lastSeen_cons]
    exact h.unborn id (same ▸ new)

theorem Reflected.closeAll (h : Reflected acts w) : Reflected (.closed :: acts) w.closeAll where
  arrivals := by
    have same : w.closeAll.nextId = w.nextId := List.length_map ..
    rw [same, ← h.arrivals]
    rfl
  closed := iff_of_true rfl List.mem_cons_self
  each id x here := by
    rw [Watchers.closeAll, List.getElem?_map] at here
    obtain ⟨x, old, rfl⟩ := Option.map_eq_some_iff.1 here
    obtain ⟨listening, -, unseen, seen⟩ := h.each id x old
    refine ⟨listening, ?_, fun names => ?_, fun looked => ?_⟩
    · exact iff_of_false Bool.noConfusion fun registered => registered.still List.mem_cons_self
    · rw [awaits_cons_of_ne (fun _ => Act.noConfusion) fun _ => Act.noConfusion]
      exact unseen names
    · rw [lastSeen_cons]
      exact seen looked
  unborn id new := by
    have same : w.closeAll.nextId = w.nextId := List.length_map ..
    rw [lastSeen_cons]
    exact h.unborn id (same ▸ new)

theorem shown?_polled_of_ne {i : Nat} (other : i ≠ id) (look : Look) :
    (Act.polled i look).shown? id = none := by
  cases look <;> simp [Act.shown?, other]

/-- Whoever looks changes nothing for the others. -/
theorem Reflects.polled {i : Nat} (h : Reflects acts id x) (other : i ≠ id) (look : Look) :
    Reflects (.polled i look :: acts) id x := by
  refine h.still (registered_cons Act.noConfusion Act.noConfusion Act.noConfusion) (fun names => ?_)
    (shown?_polled_of_ne other look)
  refine awaits_cons_of_ne (fun _ => Act.noConfusion) fun look => ?_
  rintro ⟨⟩
  exact other rfl

theorem Reflects.looked (h : Reflects acts id x) :
    Reflects (.polled id (found x) :: acts) id { x with unseen := false } := by
  refine ⟨h.listening, ?_, fun names => ?_, fun _ => ?_⟩
  · rw [registered_cons Act.noConfusion Act.noConfusion Act.noConfusion]
    exact h.registered
  · rw [awaits_cons]
    simp
  · rw [lastSeen_cons, found]
    split
    · simp [Act.shown?]
    · rename_i old
      have seen := h.seen (Bool.eq_false_iff.2 old)
      split <;> exact seen

theorem Reflected.poll (h : Reflected acts w) (i : Nat) :
    Reflected (.polled i (w.poll i).2 :: acts) (w.poll i).1 where
  arrivals := by
    rw [nextId_poll_fst, ← h.arrivals]
    rfl
  closed := by
    rw [closed_poll, List.mem_cons]
    exact h.closed.trans (or_iff_right Act.noConfusion).symm
  each id x here := by
    cases mine : w.all[i]? with
    | none =>
      have new := List.getElem?_eq_none_iff.1 mine
      rw [poll_nobody new] at here ⊢
      refine (h.each id x here).polled ?_ _
      rintro rfl
      exact absurd (lt_of_getElem? here) (Nat.not_lt.2 new)
    | some x' =>
      have reflects := h.each i x' mine
      rw [getElem?_poll mine reflects.listening] at here
      rw [poll_found mine reflects.listening]
      split at here
      · rename_i same
        cases here
        exact same ▸ reflects.looked
      · rename_i other
        exact (h.each id x here).polled (Ne.symm other) _
  unborn id new := by
    rw [nextId_poll_fst] at new
    have shown : (Act.polled i (w.poll i).2).shown? id = none := by
      by_cases same : i = id
      · rw [same, poll_nobody new]
        rfl
      · exact shown?_polled_of_ne same _
    rw [lastSeen_cons, shown]
    exact h.unborn id new

theorem Step.reflected (step : Step w act w') (h : Reflected acts w) : Reflected (act :: acts) w' := by
  cases step with
  | subscribe => exact h.subscribe
  | unsubscribe i => exact h.unsubscribe i
  | broadcast names => exact h.broadcast names
  | close => exact h.closeAll
  | poll i => exact h.poll i

theorem Steps.reflected (h : Steps acts w) : Reflected acts w := by
  induction h with
  | none =>
    refine ⟨rfl, iff_of_false Bool.noConfusion List.not_mem_nil, fun id x here => ?_, fun _ _ => rfl⟩
    cases here
  | more _ step ih => exact step.reflected ih

/-! ## What a subscriber finds -/

theorem Reflected.registered_iff (h : Reflected acts w) :
    Registered acts id ↔ ∃ x, w.all[id]? = some x ∧ x.registered = true := by
  constructor
  · intro registered
    have here := List.getElem?_eq_getElem (h.came.1 registered.came)
    exact ⟨_, here, (h.each id _ here).registered.2 registered⟩
  · rintro ⟨x, here, told⟩
    exact (h.each id x here).registered.1 told

/-- The subscribers that are told of changes, by their places. -/
def places (w : Watchers) : List Nat := (w.all.zipIdx.filter fun e => e.1.registered).map Prod.snd

theorem mem_places : id ∈ w.places ↔ ∃ x, w.all[id]? = some x ∧ x.registered = true := by
  simp [places, List.mem_zipIdx_iff_getElem?, and_comm]

theorem places_nodup (w : Watchers) : w.places.Nodup := by
  have all : (w.all.zipIdx.map Prod.snd).Nodup := by
    rw [List.zipIdx_map_snd]
    exact List.nodup_range'
  exact all.sublist (List.filter_sublist.map _)

theorem size_eq (w : Watchers) : w.size = w.places.length := by
  rw [places, List.length_map, ← List.countP_eq_length_filter]
  calc w.all.countP (·.registered)
    _ = (w.all.zipIdx.map Prod.fst).countP (·.registered) := by rw [List.zipIdx_map_fst]
    _ = w.all.zipIdx.countP fun e => e.1.registered := List.countP_map ..

theorem Reflected.size_eq_zero (h : Reflected acts w) (closed : .closed ∈ acts) : w.size = 0 := by
  refine List.countP_eq_zero.2 fun x mem told => ?_
  obtain ⟨id, here⟩ := List.mem_iff_getElem?.1 mem
  exact (h.registered_iff.2 ⟨x, here, told⟩).still closed

/-- Nothing is awaited once all has been seen. -/
theorem Reflects.quiet (h : Reflects acts id x) :
    x.unseen = false ↔ ∀ news, ¬ Awaits acts id news := by
  constructor
  · intro looked news awaits
    rw [((h.unseen news).2 awaits).1] at looked
    cases looked
  · intro none
    exact Bool.eq_false_iff.2 fun unseen => none x.latest ((h.unseen x.latest).1 ⟨unseen, rfl⟩)

theorem Reflects.gone (h : Reflects acts id x) (came : .subscribed id ∈ acts) :
    x.registered = false ↔ Departed acts id ∨ .closed ∈ acts := by
  rw [← Bool.not_eq_true, h.registered]
  constructor
  · intro missing
    refine Decidable.or_iff_not_imp_right.2 fun still => Classical.byContradiction fun stayed => ?_
    exact missing ⟨came, stayed, still⟩
  · rintro (departed | closed) registered
    · exact registered.stayed departed
    · exact registered.still closed

theorem Reflects.found_changed (h : Reflects acts id x) :
    found x = .changed names ↔ Awaits acts id names := by
  rw [← h.unseen, found]
  cases x.unseen <;> cases x.registered <;> simp

theorem Reflects.found_closed (h : Reflects acts id x) (came : .subscribed id ∈ acts) :
    found x = .closed names ↔ (∀ news, ¬ Awaits acts id news) ∧
      (Departed acts id ∨ .closed ∈ acts) ∧ names = lastSeen acts id := by
  rw [← h.quiet, ← h.gone came, found]
  cases unseen : x.unseen with
  | true => simp
  | false =>
    rw [← h.seen unseen]
    cases x.registered <;> simp [eq_comm]

theorem Reflects.found_unchanged (h : Reflects acts id x) (came : .subscribed id ∈ acts) :
    found x = .unchanged names ↔ (∀ news, ¬ Awaits acts id news) ∧
      ¬ (Departed acts id ∨ .closed ∈ acts) ∧ names = lastSeen acts id := by
  rw [← h.quiet, ← h.gone came, found]
  cases unseen : x.unseen with
  | true => simp
  | false =>
    rw [← h.seen unseen]
    cases x.registered <;> simp [eq_comm]

/-- **The acts alone say what every poll finds.** The latest list told to a subscriber while it was
registered, if it has not looked since; or else the list it saw last, together with the end if the
subscriber has left or all was closed, before it came or after. As many are told of changes as came and
have not left, and nobody ever after the end. No number is given twice. -/
theorem polls_as_told (h : Steps acts w) : Logged acts w := by
  have reflected := h.reflected
  have each id (came : .subscribed id ∈ acts) : ∃ x, Reflects acts id x ∧ (w.poll id).2 = found x := by
    have here := List.getElem?_eq_getElem (reflected.came.1 came)
    have reflects := reflected.each id _ here
    exact ⟨_, reflects, poll_found here reflects.listening⟩
  refine ⟨?_, fun id strange => ?_, fun id came names => ?_, fun id came names => ?_,
    fun id came names => ?_, ⟨w.places, places_nodup w, fun id => ?_, size_eq w⟩,
    reflected.size_eq_zero⟩
  · rw [reflected.arrivals]
    exact List.pairwise_reverse.2 (List.nodup_range.imp Ne.symm)
  · rw [poll_nobody (Nat.not_lt.1 fun old => strange (reflected.came.2 old))]
  · obtain ⟨x, reflects, look⟩ := each id came
    rw [look, reflects.found_changed]
  · obtain ⟨x, reflects, look⟩ := each id came
    rw [look, reflects.found_closed came]
  · obtain ⟨x, reflects, look⟩ := each id came
    rw [look, reflects.found_unchanged came]
  · exact mem_places.trans reflected.registered_iff.symm

/-- The first subscriber has not looked before all is closed, the second leaves before it has seen all
it was told, and the third comes after the end. -/
theorem polls_as_told_quay : ∃ acts w, Steps acts w ∧ .closed ∈ acts ∧
    (w.poll 0).2 = .changed ["web"] ∧ Awaits acts 0 ["web"] ∧
    (w.poll 1).2 = .changed ["db"] ∧ Awaits acts 1 ["db"] ∧
    (w.poll 2).2 = .closed [] ∧ lastSeen acts 2 = [] ∧ w.size = 0 := by
  have first : Steps _ _ := .more (.more .none .subscribe) .subscribe
  have looked : Steps _ _ := .more (.more first (.broadcast ["app"])) (.poll 1)
  have left : Steps _ _ := .more (.more looked (.broadcast ["db"])) (.unsubscribe 1)
  have closed : Steps _ _ := .more (.more left (.broadcast ["web"])) .close
  have late : Steps _ _ := .more (.more closed .subscribe) (.broadcast ["late"])
  have logged := polls_as_told late
  refine ⟨_, _, late, by simp, rfl, ?_, rfl, ?_, rfl, rfl, logged.ended (by simp)⟩
  · exact (logged.changed 0 (by simp [Watchers.nextId]) _).1 rfl
  · exact (logged.changed 1 (by decide) _).1 rfl

end Supervisor.Watchers
