import Supervisor.Text.Blank
import Supervisor.Text.Lowercase

/-!
# Run policies

What becomes of a command once it has finished.
-/

namespace Supervisor

inductive Policy where
  /-- Runs each time it is asked for. -/
  | always
  /-- Succeeds once in the life of its manifest and never runs again. -/
  | once
  /-- Runs again after every end. -/
  | restart
  deriving DecidableEq, Repr, Inhabited

namespace Policy

/-- The word a manifest uses. -/
def word : Policy → String
  | always => "always"
  | once => "once"
  | restart => "restart"

/-- The policy's name in a listing. -/
def title : Policy → String
  | always => "Always"
  | once => "Once"
  | restart => "Restart"

/-- The policy of a word, letter for letter. -/
def ofWord? (s : String) : Option Policy := [always, once, restart].find? (·.word == s)

/-- Read a policy whatever its letter case and the blanks around it; a text that names none is
returned as it was compared. -/
def read (s : String) : Except String Policy :=
  let compared := Text.lowercase (Text.trim s)
  match ofWord? compared with
  | some p => .ok p
  | none => .error compared

/-- What is said of a text that names no policy. -/
def unknownMessage (compared : String) : String :=
  "invalid run policy: " ++ compared ++ " (expected \"always\", \"once\" or \"restart\")"

@[simp] theorem ofWord?_word (p : Policy) : ofWord? p.word = some p := by
  cases p <;> decide

end Policy

end Supervisor
