import Supervisor.Queue.Basic

/-!
# What a command depends on

The entries that can be reached from a command through needs, itself included, and what follows
from their statuses. Needs that are not in the queue are passed over.
-/

namespace Supervisor.Queue

/-- The needs of a command in the queue. -/
def needsOf (q : Queue) (name : String) : List String :=
  ((q.get? name).map fun e => e.command.needs).getD []

/-- The names of a depth-first walk that starts from a stack of names. `fresh` are those in the queue
that it has not come to; the last need of a name is walked first. -/
def walk (q : Queue) (fresh stack : List String) : List String :=
  match stack with
  | [] => []
  | name :: rest =>
    if name ∈ fresh then name :: q.walk (without name fresh) ((q.needsOf name).reverse ++ rest)
    else q.walk fresh rest
termination_by (fresh.length, stack.length)
decreasing_by
  · rename_i h
    exact Prod.Lex.left _ _ (length_without_lt h)
  · exact Prod.Lex.right _ (by simp)

/-- What can be reached from a command, itself first. -/
def closure (q : Queue) (root : String) : List String := q.walk q.keys [root]

/-- Something the command depends on, or the command, waits or runs. -/
def closurePending (q : Queue) (root : String) : Bool :=
  (q.closure root).any fun name => (q.get? name).any fun e => !e.status.isTerminal

/-- Something the command depends on has failed and does not start again by itself. -/
def isBlocked (q : Queue) (root : String) : Bool :=
  (q.closure root).any fun name =>
    name ≠ root && (q.get? name).any fun e => e.status = .error && e.command.policy ≠ .restart

/-- Commands that wait for something that has failed. -/
def stalled (q : Queue) : List String :=
  (q.filter fun name e => e.status = .waiting && q.isBlocked name).keys

end Supervisor.Queue
