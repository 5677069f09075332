import Supervisor.Text.Blank
import Supervisor.Text.Spelling

/-!
# Procedures

One step of a command: how it is carried out (`Mode`), with what (`Data`), and whether the steps
after it wait for it (`Wait`). A mode is read from text by `Mode.read` and written by `Mode.text`.
-/

namespace Supervisor

inductive Mode where
  | exec
  | execTty
  | stdin
  | plugin (name : String)
  /-- Hands the rest of the command over to another command. -/
  | command
  /-- Any other text; it fails when its turn comes. -/
  | unsupported (text : String)
  deriving DecidableEq, Repr, Inhabited

namespace Mode

/-- What stands before a plugin's name. -/
def pluginMark : List Char := "plugin:".toList

/-- The plugin's name after the mark, if there is one and it is not empty. -/
def pluginName? (s : String) : Option String :=
  let cs := s.toList
  if pluginMark.isPrefixOf cs ∧ cs.drop pluginMark.length ≠ [] then
    some (String.ofList (cs.drop pluginMark.length))
  else none

/-- The mode of a text without blanks at its ends. -/
def ofTrimmed (s : String) : Mode :=
  if s = "exec" then exec
  else if s = "exec-tty" then execTty
  else if s = "stdin" then stdin
  else if s = "command" ∨ s = "sub-command" then command
  else match pluginName? s with
    | some name => plugin name
    | none => unsupported s

def read (s : String) : Mode := ofTrimmed (Text.trim s)

def text : Mode → String
  | exec => "exec"
  | execTty => "exec-tty"
  | stdin => "stdin"
  | plugin name => String.ofList (pluginMark ++ name.toList)
  | command => "command"
  | unsupported text => text

end Mode

inductive Wait where
  /-- The manifest says nothing. -/
  | unsaid
  /-- The manifest says whether to wait. -/
  | said (wait : Bool)
  /-- The procedure starts later, and nothing waits for it. -/
  | delayed (seconds : Nat)
  deriving DecidableEq, Repr, Inhabited

namespace Wait

/-- The next procedure starts only after this one has ended. -/
def isBlocking : Wait → Bool
  | unsaid | said true => true
  | said false | delayed _ => false

/-- How many seconds pass before a procedure that nothing waits for starts. -/
def delay : Wait → Nat
  | delayed seconds => seconds
  | unsaid | said _ => 0

end Wait

inductive Data where
  /-- A program and its arguments. -/
  | argv (words : List String)
  /-- A line for the standard input of a running process. -/
  | stdin (target input : String)
  | payload (text : String)
  /-- The command that takes over. -/
  | command (target : String)
  | empty
  deriving DecidableEq, Repr, Inhabited

namespace Data

/-- The data with its kind spelled out, as error messages show it. -/
def described : Data → String
  | argv words => "Argv(" ++ Text.quotedList words ++ ")"
  | stdin target input =>
    "Stdin \x7b target: " ++ Text.quoted target ++ ", input: " ++ Text.quoted input ++ " \x7d"
  | payload text => "Payload(" ++ Text.quoted text ++ ")"
  | command target => "Command(" ++ Text.quoted target ++ ")"
  | empty => "Empty"

/-- The data as a listing shows it. -/
def listed : Data → String
  | argv words => Text.quotedList words
  | stdin target input => target ++ " <- " ++ Text.quoted input
  | payload text => Text.quoted text
  | command target => target
  | empty => ""

end Data

structure Procedure where
  /-- The name of its process. -/
  id : String
  mode : Mode
  data : Data
  wait : Wait
  ignoreFailure : Bool
  deriving DecidableEq, Repr, Inhabited

/-- The name of a procedure that is given none: its command and its place there. -/
def Procedure.defaultId (command : String) (index : Nat) : String :=
  command ++ "." ++ Text.natural index

end Supervisor
