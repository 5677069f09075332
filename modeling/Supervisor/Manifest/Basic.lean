import Supervisor.Fault
import Supervisor.NameMap
import Supervisor.Policy

/-!
# Manifests

The commands a supervisor knows, by name, and the header that identifies the manifest a status file
was written for. A manifest is plain data here: whether it is well formed is decided where it is
resolved from a file.
-/

namespace Supervisor

structure Command where
  name : String
  policy : Policy
  /-- What has to be done before this command is launched. -/
  needs : List String
  procedures : List Procedure
  deriving DecidableEq, Repr, Inhabited

/-- Name and version of a manifest. -/
structure Fingerprint where
  name : String
  version : Option String
  deriving DecidableEq, Repr, Inhabited

def Fingerprint.text (f : Fingerprint) : String :=
  match f.version with
  | some version => "'" ++ f.name ++ "' version " ++ version
  | none => "'" ++ f.name ++ "' (unversioned)"

structure Manifest where
  name : String
  version : Option String
  /-- The command to begin with when none is asked for. -/
  init : Option String
  commands : NameMap Command
  deriving DecidableEq, Repr, Inhabited

namespace Manifest

def fingerprint (m : Manifest) : Fingerprint := ⟨m.name, m.version⟩

def get? (m : Manifest) (name : String) : Option Command := m.commands.get? name

def lookup (m : Manifest) (name : String) : Except Fault Command :=
  match m.get? name with
  | some command => .ok command
  | none => .error (.commandNotFound name)

/-- Every command goes by the name it is kept under. -/
def Named (m : Manifest) : Prop := ∀ name command, m.get? name = some command → command.name = name

end Manifest

end Supervisor
