import Mathlib.Data.List.Permutation
import Supervisor.Proofs.Manifest.Accepted

/-!
# What is reported of a cycle

The names have been arranged by a search along dependents. A second search goes along the needs, from
each name in turn as they are arranged, with a stack on which a name may stand more than once; the
second name that it comes to from one start is reported. Up to there every start has come to itself
alone, so what is reported is the misplaced need, and lies on a cycle.
-/

namespace Supervisor.Manifest

open Relation (TransGen)

namespace Needs

variable {g : Needs} {fresh : List String} {start : String}

/-- The second search, from what stands on its stack: the names that it comes to, in order, and those
that it does not come to. -/
def follow (g : Needs) (fresh stack : List String) : List String × List String :=
  match stack with
  | [] => ([], fresh)
  | name :: rest =>
    if name ∈ fresh then
      let fresh' := without name fresh
      let further := g.follow fresh' (((g.of name).eraseDups.filter (· ∈ fresh')).reverse ++ rest)
      (name :: further.1, further.2)
    else g.follow fresh rest
termination_by (fresh.length, stack.length)
decreasing_by
  · rename_i h
    exact Prod.Lex.left _ _ (length_without_lt h)
  · exact Prod.Lex.right _ (by simp)

/-- The second name that the search comes to from one start, of the first start with such a name. -/
def reportedFrom (g : Needs) (fresh : List String) : List String → Option String
  | [] => none
  | start :: starts =>
    match g.follow fresh [start] with
    | (_ :: second :: _, _) => some second
    | (_, fresh) => g.reportedFrom fresh starts

def reported? (g : Needs) : Option String := g.reportedFrom g.names g.arranged

theorem follow_nil : g.follow fresh [] = ([], fresh) := by rw [follow]

theorem follow_fresh {rest : List String} (isFresh : start ∈ fresh) :
    g.follow fresh (start :: rest) =
      (g.follow (without start fresh)
        (((g.of start).eraseDups.filter (· ∈ without start fresh)).reverse ++ rest)).map (start :: ·) id := by
  rw [follow, if_pos isFresh]
  rfl

theorem follow_passed (passed : start ∉ fresh) : g.follow fresh [start] = ([], fresh) := by
  rw [follow, if_neg passed, follow_nil]

/-- From a start whose needs have all been passed the search comes to nothing else. -/
theorem follow_alone (isFresh : start ∈ fresh)
    (none : (g.of start).eraseDups.filter (· ∈ without start fresh) = []) :
    g.follow fresh [start] = ([start], without start fresh) := by
  rw [follow_fresh isFresh, none, List.reverse_nil, List.nil_append, follow_nil]
  rfl

/-- From any other start it comes to the last of the needs that have not been passed. -/
theorem follow_further {need : String} (isFresh : start ∈ fresh)
    (last : ((g.of start).eraseDups.filter (· ∈ without start fresh)).getLast? = some need) :
    ∃ more left, g.follow fresh [start] = (start :: need :: more, left) := by
  have top := List.head?_reverse.trans last
  obtain ⟨others, stack⟩ := List.head?_eq_some_iff.1 top
  have waits : need ∈ without start fresh := by
    have mem := List.mem_of_getLast? last
    rw [List.mem_filter, decide_eq_true_eq] at mem
    exact mem.2
  rw [follow_fresh isFresh, List.append_nil, stack, follow_fresh waits]
  exact ⟨_, _, rfl⟩

theorem reportedFrom_eq (g : Needs) (fresh starts : List String) :
    g.reportedFrom fresh starts = g.misplacedFrom fresh starts := by
  induction starts generalizing fresh with
  | nil => rfl
  | cons start starts ih =>
    rw [reportedFrom, misplacedFrom]
    by_cases isFresh : start ∈ fresh
    · rw [if_pos isFresh]
      cases last : ((g.of start).eraseDups.filter (· ∈ without start fresh)).getLast? with
      | none => simp only [follow_alone isFresh (List.getLast?_eq_none_iff.1 last), last, ih]
      | some need =>
        -- The start is the first that does not come to itself alone: the need is on top of the stack.
        obtain ⟨more, left, found⟩ := follow_further isFresh last
        simp only [found, last]
    · rw [if_neg isFresh, follow_passed isFresh]
      exact ih fresh

/-- The misplaced need is what the second search reports. -/
theorem reported_eq_misplaced (g : Needs) : g.reported? = g.misplaced? := reportedFrom_eq ..

end Needs

/-- **The command that a cycle is reported with lies on a cycle.** Among needs that are other commands
of the draft, the name that the two searches report needs itself, through one need or more, however
many names only lead to a cycle or away from one; where there is a cycle, a name is reported, and a
draft that is refused for a cycle is refused with that name. -/
theorem reported_on_cycle (d : Draft)
    (proper : ∀ name need, d.Requires name need → need ≠ name ∧ d.known need = true) :
    d.needs.misplaced? = d.needs.reported? ∧
      (∀ name, d.needs.misplaced? = some name → TransGen d.Requires name name) ∧
      ((∃ name, TransGen d.Requires name name) → ∃ name, d.needs.misplaced? = some name) ∧
      ∀ name, d.resolve = .error (.cycle name) → d.needs.misplaced? = some name := by
  have same : d.needs.Requires = d.Requires := by
    funext name need
    exact propext Draft.requires_needs
  refine ⟨d.needs.reported_eq_misplaced.symm, fun name found => ?_, fun ⟨name, cycle⟩ => ?_,
    fun name refused => (Draft.resolve_eq_cycle_iff.1 refused).2⟩
  · rw [← same]
    exact Needs.misplaced_on_cycle found
  · refine Option.ne_none_iff_exists'.1 fun placed => ?_
    rw [← same] at cycle
    refine (Needs.misplaced_eq_none_iff fun {name need} needs => ?_).1 placed name cycle
    obtain ⟨other, known⟩ := proper name need (Draft.requires_needs.1 needs)
    exact ⟨other, Draft.mem_names.2 known⟩

/-- A draft with a cycle through two commands, one command that leads to it twice over and one that it
leads to. -/
def loopDraft : Draft :=
  ⟨"m", none, none, .ofList [("app", ⟨.always, ["db", "db"], []⟩), ("db", ⟨.always, ["log", "disk"], []⟩),
    ("disk", ⟨.always, [], []⟩), ("log", ⟨.always, ["db"], []⟩)]⟩

/-- The second search begins with the disk, which comes to nothing, and then comes from the database to
its log. -/
theorem reported_on_cycle_log :
    (∀ name need, loopDraft.Requires name need → need ≠ name ∧ loopDraft.known need = true) ∧
      loopDraft.needs.arranged = ["disk", "db", "log", "app"] ∧
      loopDraft.resolve = .error (.cycle "log") ∧ TransGen loopDraft.Requires "log" "log" := by
  have faultless : loopDraft.needsFault? = none := by decide +kernel
  have refused : loopDraft.resolve = .error (.cycle "log") := by cbv
  have proper := needsFault?_eq_none_iff.1 faultless
  obtain ⟨-, onCycle, -, named⟩ := reported_on_cycle loopDraft proper
  exact ⟨proper, by cbv, refused, onCycle "log" (named "log" refused)⟩

end Supervisor.Manifest
