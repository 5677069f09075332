import Supervisor.Disk
import Supervisor.Record.Document

/-!
# Status stores

Where a record is kept while a supervisor works. A file store rewrites its file after every change
and keeps a change also when the file could not be written; a memory store writes nothing. A memory
store without a fingerprint leaves the record's manifest as it is.
-/

namespace Supervisor

/-- The name of the status file where none is given. -/
def statusFileName : String := "scroll-lock.json"

/-- The record in a file; a file that is not there holds an empty one. -/
def Record.load (disk : Disk) (directory : Place) (path : String) : Except Fault Record :=
  if disk.pathExists directory path then do
    let text ← (disk.readText directory path).mapError .disk
    Record.read text
  else .ok {}

inductive Store where
  | file (directory : Place) (path : String) (record : Record) (fingerprint : Fingerprint)
  | memory (record : Record) (fingerprint : Option Fingerprint)
  deriving DecidableEq, Repr

namespace Store

def record : Store → Record
  | file _ _ record _ => record
  | memory record _ => record

/-- The store with another record. -/
def withRecord (r : Record) : Store → Store
  | file directory path _ fingerprint => file directory path r fingerprint
  | memory _ fingerprint => memory r fingerprint

/-- Open a status file. One that belongs to another manifest is refused, unless that is to be
ignored: then its statuses are kept for this manifest. -/
def openFile (disk : Disk) (directory : Place) (path : String) (fingerprint : Fingerprint)
    (ignoreVersion : Bool) : Except Fault Store := do
  let record ← Record.load disk directory path
  match record.check fingerprint with
  | .ok () => return .file directory path record fingerprint
  | .error fault =>
    if ignoreVersion then return .file directory path (record.overwrite fingerprint) fingerprint
    else throw fault

/-- A memory store that begins with nothing. -/
def inMemory (fingerprint : Fingerprint) : Store := .memory {} (some fingerprint)

/-- The record says which manifest it belongs to, if the store knows. -/
def captured : Store → Store
  | file directory path record fingerprint =>
    file directory path (record.capture fingerprint) fingerprint
  | memory record (some fingerprint) => memory (record.capture fingerprint) (some fingerprint)
  | memory record none => memory record none

/-- Write the text of the record to the store's place on the disk, if it has one. -/
def save (disk : Disk) : Store → Except DiskFault Disk
  | file directory path record _ => do
    (← disk.makeParent directory path).writeText directory path record.text
  | memory .. => .ok disk

/-- What a write leaves behind: the store, the disk and whether it succeeded. -/
structure Written where
  store : Store
  disk : Disk
  result : Except Fault Unit

/-- Keep the record. -/
def write (s : Store) (disk : Disk) : Written :=
  let s := s.captured
  match s.save disk with
  | .ok disk => ⟨s, disk, .ok ()⟩
  | .error cause => ⟨s, disk, .error (.disk cause)⟩

/-- Change the status of a command, and keep the record. -/
def setStatus (s : Store) (disk : Disk) (name : String) (status : Status) : Written :=
  (s.withRecord (s.record.setStatus name status)).write disk

end Store

end Supervisor
