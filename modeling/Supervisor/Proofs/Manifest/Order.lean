import Mathlib.Data.List.Basic
import Supervisor.Manifest.Order

/-!
# Names without a misplaced need

Where the search finds no misplaced need, the position of a name in the arranged list is a rank: each
need of it that is itself one of the names stands before it. Nothing is said here about the needs that
are found misplaced.
-/

namespace Supervisor.Manifest.Needs

variable {g : Needs}

/-- The search keeps the names it has left and leaves those on its stack. -/
theorem mem_visit (g : Needs) (fresh stack left : List String) (name : String)
    (h : name ∈ stack ∨ name ∈ left) : name ∈ g.visit fresh stack left := by
  fun_induction Needs.visit g fresh stack left with
  | case1 fresh left =>
    rcases h with h | h
    · cases h
    · exact h
  | case2 fresh left top rest mem fresh' ih =>
    apply ih
    rcases h with h | h
    · exact .inl (List.mem_append_right _ h)
    · exact .inr h
  | case3 fresh left top rest new ih =>
    apply ih
    rcases h with h | h
    · rcases List.mem_cons.1 h with rfl | h
      · right
        split
        · assumption
        · exact List.mem_cons_self
      · exact .inl h
    · right
      split
      · exact h
      · exact List.mem_cons_of_mem _ h

theorem mem_arranged {name : String} (h : name ∈ g.names) : name ∈ g.arranged :=
  mem_visit g g.names g.names [] name (.inl h)

theorem misplacedFrom_none {later l : List String} (h : g.misplacedFrom later l = none)
    {name need : String} (hl : name ∈ l) (hn : name ∈ later) (hd : need ∈ g.of name)
    (waits : need ∈ later) (other : need ≠ name) : l.idxOf need < l.idxOf name := by
  fun_induction Needs.misplacedFrom g later l with
  | case1 => cases hl
  | case2 later top rest mem later' need' found => cases h
  | case3 later top rest mem later' none ih =>
    have passed : ∀ d ∈ g.of top, d ∉ later' := by
      intro d hd hw
      rw [List.getLast?_eq_none_iff, List.filter_eq_nil_iff] at none
      exact none d (List.mem_eraseDups.2 hd) (by simpa using hw)
    by_cases hname : name = top
    · subst hname
      exact absurd (mem_without.2 ⟨waits, other⟩) (passed need hd)
    · have hr : name ∈ rest := (List.mem_cons.1 hl).resolve_left hname
      rw [List.idxOf_cons_ne _ (Ne.symm hname)]
      by_cases hneed : need = top
      · rw [hneed, List.idxOf_cons_self]
        exact Nat.succ_pos _
      · rw [List.idxOf_cons_ne _ (Ne.symm hneed)]
        exact Nat.succ_lt_succ
          (ih h hr (mem_without.2 ⟨hn, hname⟩) (mem_without.2 ⟨waits, hneed⟩))
  | case4 later top rest gone ih =>
    have hname : name ≠ top := fun e => gone (e ▸ hn)
    have hneed : need ≠ top := fun e => gone (e ▸ waits)
    rw [List.idxOf_cons_ne _ (Ne.symm hname), List.idxOf_cons_ne _ (Ne.symm hneed)]
    exact Nat.succ_lt_succ (ih h ((List.mem_cons.1 hl).resolve_left hname) hn waits)

/-- Without a misplaced need, the names that a name needs stand before it. -/
theorem arranged_rank (h : g.misplaced? = none) {name need : String} (hn : name ∈ g.names)
    (hd : need ∈ g.of name) (known : need ∈ g.names) (other : need ≠ name) :
    g.arranged.idxOf need < g.arranged.idxOf name :=
  misplacedFrom_none h (mem_arranged hn) hn hd known other

end Supervisor.Manifest.Needs
