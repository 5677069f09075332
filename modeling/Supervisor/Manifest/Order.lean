import Supervisor.NameMap

/-!
# The order of needs

A depth-first search arranges names so that, where the needs have no cycle, each name stands after
everything it needs. `misplaced?` looks for a name with a need that does not stand before it; if
there is one, such a need lies on a cycle.
-/

namespace Supervisor.Manifest

/-- Names with what each of them needs. -/
structure Needs where
  names : List String
  of : String → List String

namespace Needs

/-- The names that need the given one, in order. -/
def dependents (g : Needs) (name : String) : List String := g.names.filter fun c => (g.of c).contains name

/-- The names in the order in which the search leaves them, the last one first. `fresh` are those
that it has not entered; entering a name puts its fresh dependents on the stack, above it. -/
def visit (g : Needs) (fresh : List String) (stack : List String) (left : List String) : List String :=
  match stack with
  | [] => left
  | name :: rest =>
    if name ∈ fresh then
      let fresh' := without name fresh
      g.visit fresh' (((g.dependents name).filter (· ∈ fresh')).reverse ++ name :: rest) left
    else g.visit fresh rest (if name ∈ left then left else name :: left)
termination_by (fresh.length, stack.length)
decreasing_by
  · rename_i h
    exact Prod.Lex.left _ _ (length_without_lt h)
  · exact Prod.Lex.right _ (by simp)

/-- All names, each after what it needs unless it lies on a cycle or depends on one. -/
def arranged (g : Needs) : List String := g.visit g.names g.names []

/-- The last need, a repeated one counting where it stands first, that has not been passed when its
name is; of the first name with such a need. `later` are the names that have not been passed. -/
def misplacedFrom (g : Needs) (later : List String) : List String → Option String
  | [] => none
  | name :: rest =>
    if name ∈ later then
      let later' := without name later
      match ((g.of name).eraseDups.filter (· ∈ later')).getLast? with
      | some need => some need
      | none => g.misplacedFrom later' rest
    else g.misplacedFrom later rest

/-- A name on a cycle of needs, if there is one. -/
def misplaced? (g : Needs) : Option String := g.misplacedFrom g.names g.arranged

end Needs

end Supervisor.Manifest
