import Mathlib.Logic.Relation
import Supervisor.Proofs.Queue.Effects
import Supervisor.Queue.Closure

/-!
# The walk finds what can be reached

The names of a closure are those that needs lead to inside the queue, so `closurePending` and
`isBlocked` speak of all that a command depends on, however deep. Of the order of the walk no more is
said than that it begins at its root and comes to no name twice.
-/

namespace Supervisor.Queue

open Relation (ReflTransGen TransGen)

variable {q : Queue} {name need root : String} {fresh stack : List String}

/-- The one command needs the other, which is in the queue. -/
def Links (q : Queue) (name need : String) : Prop := need ∈ q.needsOf name ∧ q.contains need = true

theorem mem_needsOf : need ∈ q.needsOf name ↔ ∃ e, q.get? name = some e ∧ need ∈ e.command.needs := by
  rw [needsOf]
  cases q.get? name <;> simp

/-! ## Everything found can be reached -/

theorem walk_sound (q : Queue) (fresh stack : List String)
    (inside : ∀ x ∈ fresh, q.contains x = true) (found : name ∈ q.walk fresh stack) :
    ∃ start ∈ stack, q.contains start = true ∧ ReflTransGen (Links q) start name := by
  fun_induction q.walk fresh stack with
  | case1 => cases found
  | case2 fresh top rest mem ih =>
    have here : q.contains top = true := inside top mem
    rcases List.mem_cons.1 found with rfl | found
    · exact ⟨name, List.mem_cons_self, here, .refl⟩
    · obtain ⟨start, hs, tracked, leads⟩ := ih (fun x hx => inside x (mem_without.1 hx).1) found
      rcases List.mem_append.1 hs with needed | hs
      · exact ⟨top, List.mem_cons_self, here, leads.head ⟨List.mem_reverse.1 needed, tracked⟩⟩
      · exact ⟨start, List.mem_cons_of_mem _ hs, tracked, leads⟩
  | case3 fresh top rest old ih =>
    obtain ⟨start, hs, tracked, leads⟩ := ih inside found
    exact ⟨start, List.mem_cons_of_mem _ hs, tracked, leads⟩

/-! ## Everything that can be reached is found -/

/-- The one command needs the other, which the walk has not come to. -/
def Ahead (q : Queue) (fresh : List String) (name need : String) : Prop :=
  need ∈ q.needsOf name ∧ need ∈ fresh

/-- A path ahead goes around a name, or it can be cut off at its last visit there. -/
theorem ahead_without {start : String} (leads : ReflTransGen (Ahead q fresh) start name)
    (passed : String) :
    (start ≠ passed ∧ ReflTransGen (Ahead q (without passed fresh)) start name) ∨ name = passed ∨
      ∃ need ∈ q.needsOf passed, need ∈ without passed fresh ∧
        ReflTransGen (Ahead q (without passed fresh)) need name := by
  -- Along the path: whichever of the three holds up to a name, it holds one step further.
  induction leads with
  | refl =>
    by_cases same : start = passed
    · exact .inr (.inl same)
    · exact .inl ⟨same, .refl⟩
  | @tail before last _ next ih =>
    by_cases same : last = passed
    · exact .inr (.inl same)
    · have left : last ∈ without passed fresh := mem_without.2 ⟨next.2, same⟩
      rcases ih with ⟨other, leads⟩ | rfl | ⟨need, needed, new, leads⟩
      · exact .inl ⟨other, leads.tail ⟨next.1, left⟩⟩
      · exact .inr (.inr ⟨last, next.1, left, .refl⟩)
      · exact .inr (.inr ⟨need, needed, new, leads.tail ⟨next.1, left⟩⟩)

theorem walk_complete (q : Queue) (fresh stack : List String) {start : String} (hs : start ∈ stack)
    (inside : start ∈ fresh) (leads : ReflTransGen (Ahead q fresh) start name) :
    name ∈ q.walk fresh stack := by
  fun_induction q.walk fresh stack generalizing start with
  | case1 => cases hs
  | case2 fresh top rest mem ih =>
    rcases ahead_without leads top with ⟨other, leads⟩ | rfl | ⟨need, needed, new, leads⟩
    · have hr : start ∈ rest := (List.mem_cons.1 hs).resolve_left other
      exact List.mem_cons_of_mem _
        (ih (List.mem_append_right _ hr) (mem_without.2 ⟨inside, other⟩) leads)
    · exact List.mem_cons_self
    · exact List.mem_cons_of_mem _
        (ih (List.mem_append_left _ (List.mem_reverse.2 needed)) new leads)
  | case3 fresh top rest old ih =>
    have other : start ≠ top := fun h => old (h ▸ inside)
    exact ih ((List.mem_cons.1 hs).resolve_left other) inside leads

/-- **A closure is what needs lead to inside the queue.** -/
theorem mem_closure_iff :
    name ∈ q.closure root ↔ q.contains root = true ∧ ReflTransGen (Links q) root name := by
  constructor
  · intro found
    obtain ⟨start, hs, tracked, leads⟩ :=
      walk_sound q q.keys [root] (fun x hx => (NameMap.mem_keys_iff q).1 hx) found
    rw [List.mem_singleton] at hs
    exact ⟨hs ▸ tracked, hs ▸ leads⟩
  · rintro ⟨tracked, leads⟩
    refine walk_complete q q.keys [root] List.mem_cons_self ((NameMap.mem_keys_iff q).2 tracked) ?_
    have ahead : Links q ≤ Ahead q q.keys := fun _ _ link =>
      ⟨link.1, (NameMap.mem_keys_iff q).2 link.2⟩
    exact ReflTransGen.mono ahead _ _ leads

/-- An entry has failed and does not start again by itself. -/
def Entry.isFailure (e : Entry) : Prop := e.status = .error ∧ e.command.policy ≠ .restart

theorem isBlocked_iff : q.isBlocked root = true ↔ q.contains root = true ∧
    ∃ name e, name ≠ root ∧ ReflTransGen (Links q) root name ∧ q.get? name = some e ∧ e.isFailure := by
  simp only [isBlocked, List.any_eq_true, mem_closure_iff, Bool.and_eq_true, Option.any_eq_true,
    decide_eq_true_eq, ne_eq]
  constructor
  · rintro ⟨name, ⟨tracked, leads⟩, other, e, he, failed⟩
    exact ⟨tracked, name, e, other, leads, he, failed⟩
  · rintro ⟨tracked, name, e, other, leads, he, failed⟩
    exact ⟨name, ⟨tracked, leads⟩, other, e, he, failed⟩

theorem mem_stalled_iff :
    name ∈ q.stalled ↔ q.statusOf name = some .waiting ∧ q.isBlocked name = true := by
  rw [stalled, NameMap.mem_keys_iff, NameMap.contains_iff, statusOf_eq_some]
  simp only [NameMap.get?_filter, Option.filter_eq_some_iff, Bool.and_eq_true, decide_eq_true_eq]
  constructor
  · rintro ⟨e, he, waits, blocked⟩
    exact ⟨⟨e, he, waits⟩, blocked⟩
  · rintro ⟨⟨e, he, waits⟩, blocked⟩
    exact ⟨e, he, waits, blocked⟩

theorem closurePending_iff : q.closurePending root = true ↔ q.contains root = true ∧
    ∃ name e, ReflTransGen (Links q) root name ∧ q.get? name = some e ∧ e.status.isTerminal = false := by
  simp only [closurePending, List.any_eq_true, mem_closure_iff, Option.any_eq_true,
    Bool.not_eq_true']
  constructor
  · rintro ⟨name, ⟨tracked, leads⟩, e, he, waits⟩
    exact ⟨tracked, name, e, leads, he, waits⟩
  · rintro ⟨tracked, name, e, leads, he, waits⟩
    exact ⟨name, ⟨tracked, leads⟩, e, he, waits⟩

/-! ## The list of names -/

theorem mem_fresh_of_walk (found : name ∈ q.walk fresh stack) : name ∈ fresh := by
  fun_induction q.walk fresh stack with
  | case1 => cases found
  | case2 fresh top rest mem ih =>
    rcases List.mem_cons.1 found with rfl | found
    · exact mem
    · exact (mem_without.1 (ih found)).1
  | case3 fresh top rest old ih => exact ih found

/-- A name that has been found is not fresh any more, so it is not found again. -/
theorem walk_nodup (q : Queue) (fresh stack : List String) : (q.walk fresh stack).Nodup := by
  fun_induction q.walk fresh stack with
  | case1 => exact List.nodup_nil
  | case2 fresh top rest mem ih =>
    exact List.nodup_cons.2 ⟨fun again => (mem_without.1 (mem_fresh_of_walk again)).2 rfl, ih⟩
  | case3 fresh top rest old ih => exact ih

theorem head?_closure (q : Queue) (root : String) :
    (q.closure root).head? = if q.contains root then some root else none := by
  rw [closure, walk]
  by_cases tracked : q.contains root = true
  · rw [if_pos ((NameMap.mem_keys_iff q).2 tracked), if_pos tracked]
    rfl
  · rw [if_neg fun mem => tracked ((NameMap.mem_keys_iff q).1 mem), if_neg tracked, walk]
    rfl

/-- The entries that a command depends on, itself included. -/
structure Reaches (q : Queue) (root name : String) (e : Entry) : Prop where
  tracked : q.contains root = true
  leads : ReflTransGen (Links q) root name
  here : q.get? name = some e

/-- **A closure decides what can be reached.** It begins with its root, has no name twice, and holds
those names of the queue that needs lead to through the queue, whatever cycles there are. So a command
is pending as long as one of these waits or runs, and it is blocked if another one of these has failed
and does not start again by itself. -/
theorem closure_reaches (q : Queue) (root : String) :
    (q.closure root).Nodup ∧
    (q.closure root).head? = (if q.contains root then some root else none) ∧
    (∀ name, name ∈ q.closure root ↔ ∃ e, Reaches q root name e) ∧
    (q.closurePending root = true ↔
      ∃ name e, Reaches q root name e ∧ (e.status = .waiting ∨ e.status = .running)) ∧
    (q.isBlocked root = true ↔ ∃ name e, Reaches q root name e ∧ name ≠ root ∧
      e.status = .error ∧ e.command.policy ≠ .restart) := by
  refine ⟨walk_nodup .., head?_closure q root, fun name => ?_, ?_, ?_⟩
  · rw [mem_closure_iff]
    constructor
    · rintro ⟨tracked, leads⟩
      have inside : q.contains name = true := by
        cases leads with
        | refl => exact tracked
        | tail _ last => exact last.2
      obtain ⟨e, here⟩ := (NameMap.contains_iff q).1 inside
      exact ⟨e, tracked, leads, here⟩
    · rintro ⟨e, tracked, leads, -⟩
      exact ⟨tracked, leads⟩
  · rw [closurePending_iff]
    simp only [Status.isTerminal_eq_false_iff]
    constructor
    · rintro ⟨tracked, name, e, leads, here, waits⟩
      exact ⟨name, e, ⟨tracked, leads, here⟩, waits⟩
    · rintro ⟨name, e, ⟨tracked, leads, here⟩, waits⟩
      exact ⟨tracked, name, e, leads, here, waits⟩
  · rw [isBlocked_iff]
    constructor
    · rintro ⟨tracked, name, e, other, leads, here, failed⟩
      exact ⟨name, e, ⟨tracked, leads, here⟩, other, failed⟩
    · rintro ⟨name, e, ⟨tracked, leads, here⟩, other, failed⟩
      exact ⟨tracked, name, e, other, leads, here, failed⟩

end Supervisor.Queue
