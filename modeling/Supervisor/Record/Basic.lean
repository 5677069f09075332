import Supervisor.Manifest.Basic
import Supervisor.Status

/-!
# Status records

What is kept of a supervisor's work from one run to the next: the last status of each command, and
the manifest they belong to. A record without a manifest name belongs to none yet.
-/

namespace Supervisor

structure Record where
  statuses : NameMap Status := .empty
  manifestVersion : Option String := none
  manifestName : String := ""
  deriving DecidableEq, Repr, Inhabited

namespace Record

def isFingerprinted (r : Record) : Bool := r.manifestName ≠ ""

def fingerprint? (r : Record) : Option Fingerprint :=
  if r.isFingerprinted then some ⟨r.manifestName, r.manifestVersion⟩ else none

/-- Say which manifest the record belongs to, whatever it said before. -/
def overwrite (r : Record) (f : Fingerprint) : Record :=
  { r with manifestName := f.name, manifestVersion := f.version }

/-- Say which manifest the record belongs to, if it does not say so yet. -/
def capture (r : Record) (f : Fingerprint) : Record :=
  if r.isFingerprinted then r else r.overwrite f

/-- The record belongs to another manifest. -/
def check (r : Record) (current : Fingerprint) : Except Fault Unit :=
  match r.fingerprint? with
  | some recorded =>
    if recorded = current then .ok () else .error (.manifestMismatch recorded.text current.text)
  | none => .ok ()

def statusOf (r : Record) (name : String) : Option Status := r.statuses.get? name

def setStatus (r : Record) (name : String) (status : Status) : Record :=
  { r with statuses := r.statuses.insert name status }

theorem statusOf_setStatus (r : Record) (name other : String) (status : Status) :
    (r.setStatus name status).statusOf other =
      if other = name then some status else r.statusOf other :=
  NameMap.get?_insert r.statuses name other status

end Record

end Supervisor
