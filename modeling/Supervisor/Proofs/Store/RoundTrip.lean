import Supervisor.Proofs.Json.RoundTrip
import Supervisor.Store.Basic

/-!
# Records read back

A record's document gives the record, whatever the names and the version are, and a file that was
written holds the document. Writing puts a file at a place that is no directory, so every directory
on the way to it is still there when the path is followed again.
-/

namespace Supervisor

open Json (Value)

/-! ## Documents -/

namespace Record

theorem plain_statusesToJson (statuses : NameMap Status) : (statusesToJson statuses).Plain := by
  refine .object ?_ ?_
  · intro e mem
    obtain ⟨entry, _, rfl⟩ := List.mem_map.1 mem
    rfl
  · intro e mem
    obtain ⟨entry, _, rfl⟩ := List.mem_map.1 mem
    exact .text _

theorem plain_toJson (r : Record) : r.toJson.Plain := by
  have version : Value.Plain (r.manifestVersion.elim .null fun v => .text (some v)) := by
    cases r.manifestVersion with
    | none => exact .null
    | some v => exact .text v
  refine .object ?_ ?_
  · simp
  · intro e mem
    simp only [List.mem_cons, List.not_mem_nil, or_false] at mem
    rcases mem with rfl | rfl | rfl
    · exact plain_statusesToJson _
    · exact version
    · exact .text _

theorem ofJson?_status (s : Status) : Status.ofJson? s.toJson = some s := by
  cases s <;> decide

theorem statuses?_statusesToJson (statuses : NameMap Status) :
    statuses? (statusesToJson statuses) = some statuses := by
  have entries (l : List (String × Status)) : (l.map fun e => (some e.1, e.2.toJson)).mapM (fun e => do
      let name ← e.1
      let status ← Status.ofJson? e.2
      some (name, status)) = some l := by
    induction l with
    | nil => rfl
    | cons e l ih =>
      rw [List.map_cons, List.mapM_cons, ih]
      simp [ofJson?_status]
  rw [statusesToJson, statuses?, entries]
  exact congrArg some (NameMap.ofList_ordered statuses.ordered)

theorem version?_toJson (version : Option String) :
    version? (version.elim .null fun v => .text (some v)) = some version := by
  cases version <;> rfl

theorem ofJson?_toJson (r : Record) : ofJson? r.toJson = some r := by
  have members : ofJson? r.toJson = ofValues? (some (statusesToJson r.statuses))
      (some (r.manifestVersion.elim .null fun v => .text (some v)))
      (some (.text (some r.manifestName))) := by
    simp [toJson, ofJson?, member?]
  rw [members, ofValues?]
  simp [statuses?_statusesToJson, version?_toJson, name?]

theorem read_text (r : Record) : read r.text = .ok r := by
  rw [read, text, Json.read?_pretty r.plain_toJson, Option.bind_some, ofJson?_toJson]

end Record

/-! ## Files -/

namespace Disk

variable {d : Disk} {place : Place} {entry : DiskEntry}

theorem requireDirectory_eq_ok_iff : d.requireDirectory place = .ok () ↔ d.at? place = some .directory := by
  unfold requireDirectory
  split
  · rename_i there
    simp [there]
  · rename_i there
    simp [there]
  · rename_i there
    simp [there]

theorem at?_put_self (away : place ≠ []) : (d.put place entry).at? place = some entry := by
  rw [at?, if_neg away]
  exact NameMap.get?_insert_self ..

/-- A directory stays one when something is put where no directory was. -/
theorem directory_put (free : d.at? place ≠ some .directory) {other : Place}
    (there : d.at? other = some .directory) : (d.put place entry).at? other = some .directory := by
  by_cases root : other = []
  · rw [at?, if_pos root]
  · rw [at?, if_neg root] at there ⊢
    have away : place ≠ [] := fun same => free (by rw [at?, if_pos same])
    have apart : other.key ≠ place.key := by
      intro same
      rw [at?, if_neg away, ← same] at free
      exact free there
    rw [put, NameMap.get?_insert_of_ne _ _ apart]
    exact there

theorem follow_put (free : d.at? place ≠ some .directory) (parts : List String) {start found : Place}
    (followed : d.follow start parts = .ok found) :
    (d.put place entry).follow start parts = .ok found := by
  induction parts generalizing start with
  | nil => exact followed
  | cons part rest ih =>
    obtain ⟨_, there, onward⟩ := bind_eq_ok_iff.1 followed
    have still : (d.put place entry).requireDirectory start = .ok () :=
      requireDirectory_eq_ok_iff.2 (directory_put free (requireDirectory_eq_ok_iff.1 there))
    rw [follow, still]
    simp only [bind, Except.bind]
    split at onward
    · rename_i same
      rw [if_pos same]
      exact ih onward
    · rename_i other
      rw [if_neg other]
      split at onward
      · rename_i up
        rw [if_pos up]
        exact ih onward
      · rename_i down
        rw [if_neg down]
        exact ih onward

theorem locateFile_eq_ok {directory : Place} {path : String}
    (located : d.locateFile directory path = .ok place) :
    d.locate directory path = .ok place ∧ d.at? place ≠ some .directory := by
  obtain ⟨found, followed, located⟩ := bind_eq_ok_iff.1 located
  obtain ⟨_, _, located⟩ := bind_eq_ok_iff.1 located
  split at located
  · cases located
  · rename_i free
    cases located
    exact ⟨followed, free⟩

theorem locate_put (free : d.at? place ≠ some .directory) {directory found : Place} {path : String}
    (located : d.locate directory path = .ok found) :
    (d.put place entry).locate directory path = .ok found := by
  unfold locate at located ⊢
  split at located
  · cases located
  · rename_i named
    rw [if_neg named]
    exact follow_put free _ located

theorem reads_written {directory : Place} {path text : String} {written : Disk}
    (wrote : d.writeText directory path text = .ok written) :
    written.pathExists directory path = true ∧ written.readText directory path = .ok text := by
  obtain ⟨place, located, put⟩ := bind_eq_ok_iff.1 wrote
  cases put
  obtain ⟨followed, free⟩ := locateFile_eq_ok located
  have away : place ≠ [] := fun root => free (by rw [at?, if_pos root])
  have again : (d.put place (.file (.text text))).locate directory path = .ok place :=
    locate_put free followed
  have there : (d.put place (.file (.text text))).at? place = some (.file (.text text)) :=
    at?_put_self away
  constructor
  · rw [pathExists, again]
    simp [there]
  · simp [readText, contents, again, there, bind, Except.bind, pure, Except.pure]

end Disk

namespace Store

theorem load_written {directory : Place} {path : String} {disk written : Disk} {r : Record}
    (wrote : disk.writeText directory path r.text = .ok written) :
    Record.load written directory path = .ok r := by
  obtain ⟨there, text⟩ := Disk.reads_written wrote
  rw [Record.load, if_pos there, text]
  exact Record.read_text r

/-- What a file store has written is what is read from its file. -/
theorem load_write (directory : Place) (path : String) (r : Record) (f : Fingerprint) (disk : Disk)
    (written : ((Store.file directory path r f).write disk).result = .ok ()) :
    Record.load ((Store.file directory path r f).write disk).disk directory path =
      .ok (r.capture f) := by
  rw [write] at written ⊢
  split at written
  · rename_i saved
    obtain ⟨made, _, wrote⟩ := bind_eq_ok_iff.1 saved
    exact load_written wrote
  · cases written

/-- A record is read from its document, whatever its names are, and from its file. -/
theorem record_read_back (r : Record) : Record.read r.text = .ok r ∧
    ∀ (directory : Place) (path : String) (f : Fingerprint) (disk : Disk),
      ((Store.file directory path r f).write disk).result = .ok () →
      Record.load ((Store.file directory path r f).write disk).disk directory path =
        .ok ((Store.file directory path r f).write disk).store.record := by
  refine ⟨Record.read_text r, fun directory path f disk written => ?_⟩
  have kept : ((Store.file directory path r f).write disk).store.record = r.capture f := by
    rw [write]
    split <;> rfl
  rw [kept]
  exact load_write directory path r f disk written

/-- Names that need every kind of escape, an empty one, and one beyond the first plane. -/
def oddNames : Record where
  statuses := .ofList [("", .done), ("say \"hi\"", .error), ("a\\b/c", .waiting),
    ("\x00\x08\t\n\x0c\r\x1f\x7f", .running), ("φ𝄞", .done)]
  manifestVersion := none
  manifestName := "\\u0041"

theorem record_read_back_oddNames :
    ((Store.file workPlace "state/lock.json" oddNames ⟨"relay", none⟩).write Disk.fresh).result = .ok () ∧
    Record.load ((Store.file workPlace "state/lock.json" oddNames ⟨"relay", none⟩).write
      Disk.fresh).disk workPlace "state/lock.json" =
      .ok ((Store.file workPlace "state/lock.json" oddNames ⟨"relay", none⟩).write
        Disk.fresh).store.record := by
  have written : ((Store.file workPlace "state/lock.json" oddNames ⟨"relay", none⟩).write
      Disk.fresh).result = .ok () := by decide +kernel
  exact ⟨written, (record_read_back oddNames).2 _ _ _ _ written⟩

end Store

end Supervisor
