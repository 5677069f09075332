import Supervisor.Text.Blank
import Supervisor.Text.Lowercase

/-!
# Log levels
-/

namespace Supervisor.Logging

inductive Level where
  | error
  | warn
  | info
  | debug
  | trace
  deriving DecidableEq, Repr, Inhabited

namespace Level

def all : List Level := [error, warn, info, debug, trace]

def word : Level → String
  | error => "error"
  | warn => "warn"
  | info => "info"
  | debug => "debug"
  | trace => "trace"

def title : Level → String
  | error => "ERROR"
  | warn => "WARN"
  | info => "INFO"
  | debug => "DEBUG"
  | trace => "TRACE"

/-- The level of a word, letter for letter. -/
def ofWord? (s : String) : Option Level := all.find? (·.word == s)

/-- Read a bare level: blanks around it and ASCII case do not matter, and `warning` is `warn`. -/
def read? (s : String) : Option Level :=
  let compared := Text.asciiLowercase (Text.trim s)
  if compared = "warning" then some warn else ofWord? compared

@[simp] theorem ofWord?_word (l : Level) : ofWord? l.word = some l := by
  cases l <;> decide

end Level

end Supervisor.Logging
