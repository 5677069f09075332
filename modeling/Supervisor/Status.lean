/-!
# Command statuses
-/

namespace Supervisor

inductive Status where
  | waiting
  | running
  | done
  | error
  deriving DecidableEq, Repr, Inhabited

namespace Status

def word : Status → String
  | waiting => "waiting"
  | running => "running"
  | done => "done"
  | error => "error"

/-- The status of a word, letter for letter. -/
def ofWord? (s : String) : Option Status := [waiting, running, done, error].find? (·.word == s)

/-- The command has ended. -/
def isTerminal : Status → Bool
  | waiting | running => false
  | done | error => true

theorem isTerminal_iff {s : Status} : s.isTerminal = true ↔ s = .done ∨ s = .error := by
  cases s <;> decide

theorem isTerminal_eq_false_iff {s : Status} :
    s.isTerminal = false ↔ s = .waiting ∨ s = .running := by
  cases s <;> decide

@[simp] theorem ofWord?_word (s : Status) : ofWord? s.word = some s := by
  cases s <;> decide

end Status

end Supervisor
