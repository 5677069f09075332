import Supervisor.Proofs.Store.Lifetimes

/-!
# File and memory stores agree

A file store and a memory store are called alike, while the disk of the file store may be changed by
others between any two calls, and may give out in any of them. The record is changed before the disk is
asked for anything, so the stores hold the same record after every call, and a call that succeeds also
writes what earlier ones could not. What a failed call leaves in the file is not said.
-/

namespace Supervisor.Store

/-! ## Disks that give out -/

/-- The operations of a disk that give out in the course of a call, each with its fault. -/
structure Outage where
  making : Option DiskFault := none
  writing : Option DiskFault := none
  deriving DecidableEq, Repr

/-- What comes of an operation, which may give out. -/
def struck {α : Type} (fault : Option DiskFault) (result : Except DiskFault α) : Except DiskFault α :=
  match fault with
  | some cause => .error cause
  | none => result

/-- Write the text of the record, as far as the disk allows. -/
def saveUnder (outage : Outage) (disk : Disk) : Store → Except DiskFault Disk
  | file directory path record _ => do
    let made ← struck outage.making (disk.makeParent directory path)
    struck outage.writing (made.writeText directory path record.text)
  | memory .. => .ok disk

/-- Keep the record, as far as the disk allows. -/
def writeUnder (outage : Outage) (s : Store) (disk : Disk) : Written :=
  let s := s.captured
  match s.saveUnder outage disk with
  | .ok disk => ⟨s, disk, .ok ()⟩
  | .error cause => ⟨s, disk, .error (.disk cause)⟩

def Deed.doneUnder (outage : Outage) (s : Store) (disk : Disk) : Deed → Written
  | set name status => (s.withRecord (s.record.setStatus name status)).writeUnder outage disk
  | write => s.writeUnder outage disk

variable {directory : Place} {path : String} {disk : Disk} {f : Fingerprint} {r : Record}
  {outage : Outage}

theorem saveUnder_none (s : Store) (disk : Disk) : s.saveUnder {} disk = s.save disk := by
  cases s <;> rfl

theorem writeUnder_none (s : Store) (disk : Disk) : s.writeUnder {} disk = s.write disk := by
  simp only [writeUnder, saveUnder_none]
  rfl

/-! ## Calls -/

/-- A call of a store: the disk is as others have left it. -/
structure Call where
  deed : Deed
  disk : Disk
  outage : Outage := {}

def Call.done (s : Store) (c : Call) : Written := c.deed.doneUnder c.outage s c.disk

/-- The store after the calls. -/
def afterCalls (s : Store) (calls : List Call) : Store := calls.foldl (fun s c => (c.done s).store) s

/-- The statuses that the calls set, in order. -/
def settingsOf (calls : List Call) : List (String × Status) :=
  (calls.map Call.deed).filterMap Deed.setting?

/-- What a call left of a file store and of a memory store, after the statuses that were set. -/
structure Agree (directory : Place) (path : String) (settings : List (String × Status))
    (file memory : Written) : Prop where
  record : file.store.record = memory.store.record
  statuses : ∀ name, file.store.record.statusOf name = settings.reverse.lookup name
  readBack : file.result = .ok () → Record.load file.disk directory path = .ok file.store.record

/-- Where nothing gives out, a call does the deed. -/
theorem done_calm (deed : Deed) (s : Store) (disk : Disk) :
    Call.done s ⟨deed, disk, {}⟩ = deed.done s disk := by
  cases deed with
  | set name status => exact writeUnder_none _ disk
  | write => exact writeUnder_none s disk

theorem store_writeUnder (outage : Outage) (s : Store) (disk : Disk) :
    (s.writeUnder outage disk).store = s.captured := by
  rw [writeUnder]
  split <;> rfl

/-- The record is changed whatever becomes of the disk. -/
theorem store_file (call : Call) : (call.done (.file directory path r f)).store =
    .file directory path ((call.deed.change r).capture f) f := by
  rw [Call.done]
  cases call.deed <;> exact store_writeUnder ..

theorem store_memory (call : Call) : (call.done (.memory r (some f))).store =
    .memory ((call.deed.change r).capture f) (some f) := by
  rw [Call.done]
  cases call.deed <;> exact store_writeUnder ..

theorem afterCalls_file (calls : List Call) : afterCalls (.file directory path r f) calls =
    .file directory path (recordAfter f r (calls.map Call.deed)) f := by
  induction calls generalizing r with
  | nil => rfl
  | cons call rest ih =>
    rw [afterCalls, List.foldl_cons, store_file]
    exact ih

theorem afterCalls_memory (calls : List Call) : afterCalls (.memory r (some f)) calls =
    .memory (recordAfter f r (calls.map Call.deed)) (some f) := by
  induction calls generalizing r with
  | nil => rfl
  | cons call rest ih =>
    rw [afterCalls, List.foldl_cons, store_memory]
    exact ih

/-- After one more call the stores are as if it had been among the earlier ones. -/
theorem store_done (s : Store) (calls : List Call) (call : Call) :
    (call.done (afterCalls s calls)).store = afterCalls s (calls ++ [call]) := by
  rw [afterCalls, afterCalls, List.foldl_append]
  rfl

theorem struck_eq_ok {α : Type} {fault : Option DiskFault} {result : Except DiskFault α} {a : α}
    (h : struck fault result = .ok a) : result = .ok a := by
  cases fault with
  | none => exact h
  | some cause => cases h

/-- What has been written without a fault is what is read, whatever the disk was. -/
theorem load_writeUnder (written : ((Store.file directory path r f).writeUnder outage disk).result =
    .ok ()) : Record.load ((Store.file directory path r f).writeUnder outage disk).disk directory path =
      .ok (r.capture f) := by
  rw [writeUnder] at written ⊢
  split at written
  · rename_i saved
    obtain ⟨made, _, wrote⟩ := bind_eq_ok_iff.1 saved
    exact load_written (struck_eq_ok wrote)
  · cases written

theorem load_done {call : Call} (written : (call.done (.file directory path r f)).result = .ok ()) :
    Record.load (call.done (.file directory path r f)).disk directory path =
      .ok ((call.deed.change r).capture f) := by
  obtain ⟨deed, disk, outage⟩ := call
  cases deed <;> exact load_writeUnder written

theorem openFile_absent (absent : disk.pathExists directory path = false) (ignoreVersion : Bool) :
    openFile disk directory path f ignoreVersion = .ok (.file directory path {} f) :=
  openFile_checked (holds_absent absent).load rfl

/-- **A file store that began with no file and a memory store of the same manifest agree after every
call**, whichever operations of the disk fail in whichever calls and whatever others do to the disk in
between. After a call that succeeds the file is read as the whole record, with every status set so far,
those included that could not be written when they were set. -/
theorem file_and_memory_agree (directory : Place) (path : String) (disk : Disk)
    (absent : disk.pathExists directory path = false) (f : Fingerprint) (ignoreVersion : Bool) :
    (∀ deed s disk, Call.done s ⟨deed, disk, {}⟩ = deed.done s disk) ∧
    ∃ s, openFile disk directory path f ignoreVersion = .ok s ∧ s.record = (inMemory f).record ∧
      ∀ (calls : List Call) (call : Call),
        Agree directory path (settingsOf (calls ++ [call])) (call.done (afterCalls s calls))
          (call.done (afterCalls (inMemory f) calls)) := by
  refine ⟨done_calm, _, openFile_absent absent ignoreVersion, rfl, fun calls call =>
    ⟨?_, fun name => ?_, ?_⟩⟩
  · rw [store_done, store_done, afterCalls_file, inMemory, afterCalls_memory]
    rfl
  · rw [store_done, afterCalls_file]
    exact (statusOf_recordAfter _ name).trans (Option.or_none ..)
  · intro written
    rw [afterCalls_file] at written ⊢
    rw [store_file]
    exact load_done written

/-- The disk gives out while the status is written. -/
def unwritten : Call := ⟨.set "serve" .running, Disk.fresh, { writing := some .brokenPipe }⟩

/-- There is a file where the directory should be. -/
def misplaced : Call := ⟨.set "stop" .done, Disk.fresh.put (workPlace ++ ["state"]) (.file .binary), {}⟩

/-- Neither status was written, and the next write brings both to the file. -/
theorem file_and_memory_agree_storms : ∃ s,
    openFile Disk.fresh workPlace "state/lock.json" ⟨"relay", some "2"⟩ false = .ok s ∧
    (unwritten.done s).result = .error (.disk .brokenPipe) ∧
    (misplaced.done (afterCalls s [unwritten])).result = .error (.disk .alreadyExists) ∧
    ∃ r, Record.load (Call.done (afterCalls s [unwritten, misplaced]) ⟨.write, Disk.fresh, {}⟩).disk
        workPlace "state/lock.json" = .ok r ∧
      r.statusOf "serve" = some .running ∧ r.statusOf "stop" = some .done := by
  have absent : Disk.fresh.pathExists workPlace "state/lock.json" = false := by decide +kernel
  obtain ⟨-, s, opened, -, agree⟩ :=
    file_and_memory_agree workPlace "state/lock.json" Disk.fresh absent ⟨"relay", some "2"⟩ false
  have agreed := agree [unwritten, misplaced] ⟨.write, Disk.fresh, {}⟩
  obtain rfl := Except.ok.inj (opened.symm.trans (openFile_absent absent false))
  have written := agreed.readBack (by decide +kernel)
  exact ⟨_, opened, by decide +kernel, by decide +kernel, _, written, agreed.statuses "serve",
    agreed.statuses "stop"⟩

end Supervisor.Store
