import Mathlib.Logic.Relation
import Supervisor.Proofs.Manifest.Order

/-!
# A misplaced need lies on a cycle

The search leaves a name after everything that depends on it, unless that was entered before the name
and is still open: then the name depends on it in turn. So a need that is left before a name that needs
it lies on a cycle, and where all needs are other names there is a misplaced one just when there is a
cycle.
-/

namespace Supervisor.Manifest.Needs

open Relation (ReflTransGen TransGen)

variable {g : Needs} {fresh rest left : List String} {top name need other : String}

/-- The one name needs the other. -/
def Requires (g : Needs) (name need : String) : Prop := name ∈ g.names ∧ need ∈ g.of name

theorem mem_dependents : name ∈ g.dependents need ↔ g.Requires name need := by
  rw [dependents, List.mem_filter, List.contains_iff_mem, Requires]

/-! ## The course of the search -/

/-- The search has entered a name and has not left it. -/
def IsOpen (fresh left : List String) (name : String) : Prop := name ∉ fresh ∧ name ∉ left

/-- The part of a stack above the uppermost place of a name. -/
def above (name : String) (stack : List String) : List String := stack.takeWhile (· ≠ name)

theorem above_self : above name (name :: rest) = [] := by simp [above]

theorem above_cons (h : top ≠ name) : above name (top :: rest) = top :: above name rest := by
  simp [above, h]

theorem above_append {new : List String} (h : name ∉ new) :
    above name (new ++ rest) = new ++ above name rest :=
  List.takeWhile_append_of_pos fun _ mem => decide_eq_true fun same => h (same ▸ mem)

/-- What the search keeps. -/
structure Searched (g : Needs) (fresh stack left : List String) : Prop where
  /-- All that stands above an open name depends on it, -/
  depends : ∀ name ∈ stack, IsOpen fresh left name → ∀ other ∈ above name stack,
    ReflTransGen g.Requires other name
  /-- and what needs it and has not been entered stands there. -/
  ahead : ∀ name ∈ stack, IsOpen fresh left name → ∀ other, g.Requires other name →
    other ∈ fresh → other ∈ above name stack
  kept : ∀ name ∈ g.names, IsOpen fresh left name → name ∈ stack
  /-- What needs a name that has been left was left before it, or is needed by it in turn. -/
  ordered : ∀ name ∈ left, ∀ other, g.Requires other name →
    (other ∈ left ∧ left.idxOf name < left.idxOf other) ∨ ReflTransGen g.Requires name other

theorem searched_start (g : Needs) : Searched g g.names g.names [] where
  depends name mem isOpen := absurd mem isOpen.1
  ahead name mem isOpen := absurd mem isOpen.1
  kept name mem isOpen := absurd mem isOpen.1
  ordered name mem := by cases mem

/-- A name is entered. -/
theorem Searched.enter (h : Searched g fresh (top :: rest) left) :
    Searched g (without top fresh)
      (((g.dependents top).filter (· ∈ without top fresh)).reverse ++ top :: rest) left := by
  have mem_new : ∀ {name}, name ∈ ((g.dependents top).filter (· ∈ without top fresh)).reverse ↔
      g.Requires name top ∧ name ∈ without top fresh := by
    intro name
    rw [List.mem_reverse, List.mem_filter, mem_dependents, decide_eq_true_eq]
  generalize ((g.dependents top).filter (· ∈ without top fresh)).reverse = new at mem_new ⊢
  have above_top : above top (new ++ top :: rest) = new := by
    rw [above_append fun mem => (mem_without.1 (mem_new.1 mem).2).2 rfl, above_self, List.append_nil]
  -- Any other open name stood on the stack before, with `top` above it.
  have old : ∀ {name}, name ∈ new ++ top :: rest → IsOpen (without top fresh) left name →
      name ≠ top → name ∈ top :: rest ∧ IsOpen fresh left name ∧ top ∈ above name (top :: rest) ∧
        above name (new ++ top :: rest) = new ++ above name (top :: rest) := by
    intro name mem isOpen ne
    have absent : name ∉ new := fun mem => isOpen.1 (mem_new.1 mem).2
    refine ⟨(List.mem_append.1 mem).resolve_left absent,
      ⟨fun isFresh => isOpen.1 (mem_without.2 ⟨isFresh, ne⟩), isOpen.2⟩, ?_, above_append absent⟩
    rw [above_cons ne.symm]
    exact List.mem_cons_self
  refine ⟨fun name mem isOpen other there => ?_, fun name mem isOpen other needs isFresh => ?_,
    fun name mem isOpen => ?_, h.ordered⟩
  · by_cases same : name = top
    · rw [same, above_top] at there
      rw [same]
      exact .single (mem_new.1 there).1
    · obtain ⟨mem, isOpen, below, split⟩ := old mem isOpen same
      rw [split, List.mem_append] at there
      rcases there with there | there
      · exact .head (mem_new.1 there).1 (h.depends name mem isOpen top below)
      · exact h.depends name mem isOpen other there
  · by_cases same : name = top
    · rw [same] at needs ⊢
      rw [above_top]
      exact mem_new.2 ⟨needs, isFresh⟩
    · obtain ⟨mem, isOpen, -, split⟩ := old mem isOpen same
      rw [split]
      exact List.mem_append_right _ (h.ahead name mem isOpen other needs (mem_without.1 isFresh).1)
  · by_cases same : name = top
    · exact List.mem_append_right _ (same ▸ List.mem_cons_self)
    · exact List.mem_append_right _
        (h.kept name mem ⟨fun isFresh => isOpen.1 (mem_without.2 ⟨isFresh, same⟩), isOpen.2⟩)

/-- What needs a name that is left for the first time has been left, or is needed by it in turn. -/
theorem Searched.left_after (h : Searched g fresh (top :: rest) left) (entered : top ∉ fresh)
    (first : top ∉ left) (needs : g.Requires other top) :
    other ∈ left ∨ ReflTransGen g.Requires top other := by
  by_cases gone : other ∈ left
  · exact .inl gone
  have passed : other ∉ fresh := by
    intro isFresh
    have waits := h.ahead top List.mem_cons_self ⟨entered, first⟩ other needs isFresh
    rw [above_self] at waits
    cases waits
  by_cases same : other = top
  · exact .inr (same ▸ .refl)
  · refine .inr (h.depends other (h.kept other needs.1 ⟨passed, gone⟩) ⟨passed, gone⟩ top ?_)
    rw [above_cons (Ne.symm same)]
    exact List.mem_cons_self

/-- A name that is left for the first time keeps the order. -/
theorem Searched.ordered_cons (h : Searched g fresh (top :: rest) left) (entered : top ∉ fresh)
    (first : top ∉ left) : ∀ name ∈ top :: left, ∀ other, g.Requires other name →
      (other ∈ top :: left ∧ (top :: left).idxOf name < (top :: left).idxOf other) ∨
        ReflTransGen g.Requires name other := by
  have later : ∀ {name}, name ∈ left → (top :: left).idxOf name = left.idxOf name + 1 := fun mem =>
    List.idxOf_cons_ne _ fun same => first (same ▸ mem)
  intro name mem other needs
  rcases List.mem_cons.1 mem with rfl | mem
  · refine (h.left_after entered first needs).imp_left fun gone => ⟨List.mem_cons_of_mem _ gone, ?_⟩
    rw [later gone, List.idxOf_cons_self]
    exact Nat.succ_pos _
  · refine (h.ordered name mem other needs).imp_left fun ⟨gone, before⟩ =>
      ⟨List.mem_cons_of_mem _ gone, ?_⟩
    rw [later mem, later gone]
    exact Nat.succ_lt_succ before

/-- A name is left, or was left before. -/
theorem Searched.leave (h : Searched g fresh (top :: rest) left) (entered : top ∉ fresh) :
    Searched g fresh rest (if top ∈ left then left else top :: left) := by
  have mem_left : ∀ {name}, name = top ∨ name ∈ left →
      name ∈ (if top ∈ left then left else top :: left) := by
    intro name mem
    split
    · rename_i again
      exact mem.elim (fun same => same ▸ again) id
    · exact List.mem_cons.2 mem
  have still : ∀ {name}, IsOpen fresh (if top ∈ left then left else top :: left) name →
      name ≠ top ∧ IsOpen fresh left name := fun isOpen =>
    ⟨fun same => isOpen.2 (mem_left (.inl same)), isOpen.1, fun mem => isOpen.2 (mem_left (.inr mem))⟩
  refine ⟨fun name mem isOpen other there => ?_, fun name mem isOpen other needs isFresh => ?_,
    fun name mem isOpen => ?_, ?_⟩
  · obtain ⟨ne, isOpen⟩ := still isOpen
    refine h.depends name (List.mem_cons_of_mem _ mem) isOpen other ?_
    rw [above_cons ne.symm]
    exact List.mem_cons_of_mem _ there
  · obtain ⟨ne, isOpen⟩ := still isOpen
    have there := h.ahead name (List.mem_cons_of_mem _ mem) isOpen other needs isFresh
    rw [above_cons ne.symm] at there
    exact (List.mem_cons.1 there).resolve_left fun same => entered (same ▸ isFresh)
  · obtain ⟨ne, isOpen⟩ := still isOpen
    exact (List.mem_cons.1 (h.kept name mem isOpen)).resolve_left ne
  · split
    · exact h.ordered
    · rename_i first
      exact h.ordered_cons entered first

theorem Searched.visit {stack : List String} (h : Searched g fresh stack left) :
    ∃ fresh', Searched g fresh' [] (g.visit fresh stack left) := by
  fun_induction Needs.visit g fresh stack left with
  | case1 => exact ⟨_, h⟩
  | case2 fresh left top rest mem fresh' ih => exact ih h.enter
  | case3 fresh left top rest old ih => exact ih (h.leave old)

/-- What needs a name stands after it in the arranged list, or is needed by it in turn. -/
theorem arranged_after (known : need ∈ g.names) (needs : g.Requires name need) :
    g.arranged.idxOf need < g.arranged.idxOf name ∨ ReflTransGen g.Requires need name := by
  obtain ⟨fresh, searched⟩ := (searched_start g).visit
  exact (searched.ordered need (mem_arranged known) name needs).imp_left And.right

/-! ## Misplaced needs -/

theorem misplacedFrom_some {later l : List String} (h : g.misplacedFrom later l = some need) :
    ∃ name ∈ later, need ∈ later ∧ need ∈ g.of name ∧ l.idxOf name ≤ l.idxOf need := by
  fun_induction Needs.misplacedFrom g later l with
  | case1 => cases h
  | case2 later top rest mem later' need' found =>
    obtain rfl := Option.some.inj h
    have here := List.mem_of_getLast? found
    rw [List.mem_filter, List.mem_eraseDups, decide_eq_true_eq] at here
    refine ⟨top, mem, (mem_without.1 here.2).1, here.1, ?_⟩
    rw [List.idxOf_cons_self]
    exact Nat.zero_le _
  | case3 later top rest mem later' none ih =>
    obtain ⟨name, hn, hd, needs, before⟩ := ih h
    obtain ⟨hn, nameNe⟩ := mem_without.1 hn
    obtain ⟨hd, needNe⟩ := mem_without.1 hd
    refine ⟨name, hn, hd, needs, ?_⟩
    rw [List.idxOf_cons_ne _ nameNe.symm, List.idxOf_cons_ne _ needNe.symm]
    exact Nat.succ_le_succ before
  | case4 later top rest gone ih =>
    obtain ⟨name, hn, hd, needs, before⟩ := ih h
    refine ⟨name, hn, hd, needs, ?_⟩
    have other : ∀ {x}, x ∈ later → top ≠ x := fun mem same => gone (same ▸ mem)
    rw [List.idxOf_cons_ne _ (other hn), List.idxOf_cons_ne _ (other hd)]
    exact Nat.succ_le_succ before

/-- **A misplaced need lies on a cycle.** -/
theorem misplaced_on_cycle (h : g.misplaced? = some need) : TransGen g.Requires need need := by
  obtain ⟨name, hn, hd, needs, before⟩ := misplacedFrom_some h
  rcases arranged_after hd ⟨hn, needs⟩ with after | back
  · exact absurd after (Nat.not_lt.2 before)
  · exact .tail' back ⟨hn, needs⟩

/-- A rank that falls from each name to what it needs falls along all needs. -/
theorem rank_falls {requires : String → String → Prop} (rank : String → Nat)
    (falls : ∀ {name need}, requires name need → rank need < rank name) {name need : String}
    (leads : TransGen requires name need) : rank need < rank name := by
  induction leads with
  | single needs => exact falls needs
  | tail _ needs ih => exact Nat.lt_trans (falls needs) ih

/-- Where all needs are other names, there is a misplaced one just when there is a cycle. -/
theorem misplaced_eq_none_iff
    (proper : ∀ {name need}, g.Requires name need → need ≠ name ∧ need ∈ g.names) :
    g.misplaced? = none ↔ ∀ name, ¬ TransGen g.Requires name name := by
  constructor
  · intro placed name cycle
    have falls : ∀ {name need}, g.Requires name need →
        g.arranged.idxOf need < g.arranged.idxOf name := fun needs =>
      arranged_rank placed needs.1 needs.2 (proper needs).2 (proper needs).1
    exact Nat.lt_irrefl _ (rank_falls g.arranged.idxOf falls cycle)
  · intro acyclic
    cases found : g.misplaced? with
    | none => rfl
    | some need => exact absurd (misplaced_on_cycle found) (acyclic need)

/-- Nothing is misplaced among needs that have a rank. -/
theorem misplaced_none_of_rank (rank : String → Nat)
    (falls : ∀ name ∈ g.names, ∀ need ∈ g.of name, rank need < rank name) : g.misplaced? = none := by
  cases found : g.misplaced? with
  | none => rfl
  | some need =>
    have cycle := misplaced_on_cycle found
    exact absurd (rank_falls rank (fun needs => falls _ needs.1 _ needs.2) cycle) (Nat.lt_irrefl _)

end Supervisor.Manifest.Needs
