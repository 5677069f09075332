import Supervisor.Procedure

/-!
# Faults

What can go wrong, by cause, with one wording for each cause (`Fault.message`).
-/

namespace Supervisor

/-- Why a file could not be read or written. -/
inductive DiskFault where
  | notFound
  | notADirectory
  | isADirectory
  | alreadyExists
  /-- The bytes are not text. -/
  | invalidData
  /-- Nothing reads the other end. -/
  | brokenPipe
  deriving DecidableEq, Repr

namespace DiskFault

def message : DiskFault → String
  | notFound => "No such file or directory (os error 2)"
  | notADirectory => "Not a directory (os error 20)"
  | isADirectory => "Is a directory (os error 21)"
  | alreadyExists => "File exists (os error 17)"
  | invalidData => "stream did not contain valid UTF-8"
  | brokenPipe => "Broken pipe (os error 32)"

end DiskFault

/-- Why a manifest is refused, or one of its procedures cannot be carried out. -/
inductive ManifestFault where
  | noCommands
  | blankName
  | unknownInit (name : String)
  | needsItself (command : String)
  | unknownNeed (command need : String)
  | blankId (index : Nat) (command : String)
  | repeatedId (id : String)
  | unknownTarget (id target : String)
  | badWait (id value : String)
  | badData (id : String) (mode : Mode) (expected : String)
  | noTarget (id : String)
  | mismatch (id : String) (mode : Mode) (data : Data)
  | emptyArgv (process : String)
  deriving DecidableEq, Repr

namespace ManifestFault

def message : ManifestFault → String
  | noCommands => "manifest must contain at least one [commands.<name>] section"
  | blankName => "manifest `name` must not be empty"
  | unknownInit name => "`init` refers to unknown command '" ++ name ++ "'"
  | needsItself command => "command '" ++ command ++ "' cannot depend on itself in `needs`"
  | unknownNeed command need =>
    "command '" ++ command ++ "' has unknown dependency '" ++ need ++ "' in `needs`"
  | blankId index command =>
    "procedure " ++ Text.natural index ++ " of command '" ++ command ++
      "' has an empty `id`"
  | repeatedId id => "procedure id '" ++ id ++ "' is used more than once"
  | unknownTarget id target =>
    "procedure '" ++ id ++ "' delegates to unknown command '" ++ target ++ "'"
  | badWait id value =>
    "procedure '" ++ id ++ "': `wait` must be a bool or a non-negative number of seconds, got " ++
      value
  | badData id mode expected =>
    "procedure '" ++ id ++ "' (mode " ++ mode.text ++ "): `data` must be " ++ expected
  | noTarget id => "procedure '" ++ id ++ "' has no target command"
  | mismatch id mode data =>
    "procedure '" ++ id ++ "' cannot dispatch mode " ++ mode.text ++ " with data " ++ data.described
  | emptyArgv process => "process '" ++ process ++ "' has an empty argv"

end ManifestFault

inductive Fault where
  | manifest (cause : ManifestFault)
  /-- The command lies on a cycle of `needs`. -/
  | cycle (command : String)
  | disk (cause : DiskFault)
  /-- The manifest file is not the TOML document it should be. -/
  | toml
  /-- The status file is not the JSON document it should be. -/
  | json
  | commandNotFound (name : String)
  | alreadyQueued (name : String)
  | alreadyCompletedOnce (name : String)
  | processNotFound (name : String)
  | unsupportedMode (text : String)
  | procedureFailed (mode : Mode) (exitCode : Int)
  | terminated (process : String)
  /-- The status file belongs to another manifest. -/
  | manifestMismatch (recorded current : String)
  /-- The program could not be started. -/
  | spawn (process : String)
  | pluginRejected (plugin : String)
  | commandsFailed (names : List String)
  deriving DecidableEq, Repr

namespace Fault

def message : Fault → String
  | manifest cause => "Manifest error: " ++ cause.message
  | cycle command =>
    "Cycle detected in command graph: cycle detected in `needs` involving command '" ++ command ++ "'"
  | disk cause => "IO error: " ++ cause.message
  | toml => "TOML parsing error"
  | json => "JSON error"
  | commandNotFound name => "Command not found: " ++ name
  | alreadyQueued name => "Command already queued: " ++ name
  | alreadyCompletedOnce name => "Command already completed once: " ++ name
  | processNotFound name => "No running process named '" ++ name ++ "'"
  | unsupportedMode text => "Unsupported procedure mode: " ++ text
  | procedureFailed mode exitCode =>
    "Procedure '" ++ mode.text ++ "' failed with exit code " ++ Text.integer exitCode
  | terminated process => "Process '" ++ process ++ "' was terminated"
  | manifestMismatch recorded current =>
    "Status file belongs to manifest " ++ recorded ++ ", current manifest is " ++ current ++
      " (use --ignore-version to override)"
  | spawn process => "spawning process '" ++ process ++ "'"
  | pluginRejected plugin => "plugin '" ++ plugin ++ "' rejected payload"
  | commandsFailed names => "commands failed: " ++ Text.quotedList names

end Fault

/-- What goes on with a result succeeds just when the result is there and the rest succeeds. -/
theorem bind_eq_ok_iff {ε α β : Type} {result : Except ε α} {next : α → Except ε β} {b : β} :
    result >>= next = .ok b ↔ ∃ a, result = .ok a ∧ next a = .ok b := by
  cases result with
  | error cause => exact iff_of_false (fun h => by cases h) fun ⟨_, h, _⟩ => by cases h
  | ok a =>
    simp only [Except.ok.injEq, exists_eq_left']
    exact .rfl

/-- What goes on with a result fails when there is no result, or the rest fails. -/
theorem bind_eq_error_iff {ε α β : Type} {result : Except ε α} {next : α → Except ε β} {cause : ε} :
    result >>= next = .error cause ↔
      result = .error cause ∨ ∃ a, result = .ok a ∧ next a = .error cause := by
  cases result with
  | error cause' =>
    constructor
    · intro h
      cases h
      exact .inl rfl
    · rintro (h | ⟨_, h, _⟩)
      · cases h
        rfl
      · cases h
  | ok a => simp only [Except.ok.injEq, exists_eq_left', reduceCtorEq, false_or]; exact .rfl

theorem map_eq_error {ε α β : Type} {result : Except ε α} {f : α → β} {cause : ε}
    (h : result.map f = .error cause) : result = .error cause := by
  cases result with
  | error _ =>
    cases h
    rfl
  | ok _ => cases h

end Supervisor
