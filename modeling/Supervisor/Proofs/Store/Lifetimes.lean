import Supervisor.Proofs.Store.RoundTrip

/-!
# Lifetimes of a status file

Supervisors of various manifests open one status file, one after another. What matters of those
before is which manifest the last one wrote the file for and which statuses were set: a file keeps
both through any number of lifetimes, also through those that were refused, that wrote nothing, or
that took the file over from another manifest.
-/

namespace Supervisor.Store

/-- Something that is done with an open store. -/
inductive Deed where
  | set (name : String) (status : Status)
  | write
  deriving DecidableEq, Repr

namespace Deed

def done (s : Store) (disk : Disk) : Deed → Written
  | set name status => s.setStatus disk name status
  | write => s.write disk

def setting? : Deed → Option (String × Status)
  | set name status => some (name, status)
  | write => none

end Deed

/-- The disk after the deeds, and how each of them went. -/
def work (s : Store) (disk : Disk) : List Deed → Disk × List (Except Fault Unit)
  | [] => (disk, [])
  | deed :: rest =>
    let written := deed.done s disk
    let after := work written.store written.disk rest
    (after.1, written.result :: after.2)

/-- A supervisor's dealings with the file: it opens it for its manifest and does something. -/
structure Lifetime where
  fingerprint : Fingerprint
  ignoreVersion : Bool
  deeds : List Deed
  deriving DecidableEq, Repr

/-- A lifetime as it went: whether the file was opened, how the deeds went, and the disk it left. -/
structure Chapter where
  life : Lifetime
  opened : Except Fault Store
  results : List (Except Fault Unit)
  disk : Disk

variable {directory : Place} {path : String} {disk : Disk} {f : Fingerprint} {r : Record}

/-- What becomes of a lifetime: nothing is done with a file that is not opened. -/
def Lifetime.lived (directory : Place) (path : String) (disk : Disk) (life : Lifetime) : Chapter :=
  match openFile disk directory path life.fingerprint life.ignoreVersion with
  | .ok s => ⟨life, .ok s, (work s disk life.deeds).2, (work s disk life.deeds).1⟩
  | .error fault => ⟨life, .error fault, [], disk⟩

/-- Lifetimes one after another, the earliest first. -/
def chronicle (directory : Place) (path : String) (disk : Disk) : List Lifetime → List Chapter
  | [] => []
  | life :: rest =>
    let chapter := life.lived directory path disk
    chapter :: chronicle directory path chapter.disk rest

namespace Chapter

/-- What was done with the file. -/
def done (c : Chapter) : List Deed :=
  match c.opened with
  | .ok _ => c.life.deeds
  | .error _ => []

/-- All writing succeeded. -/
def Smooth (c : Chapter) : Prop := ∀ result ∈ c.results, result = .ok ()

end Chapter

/-- The statuses that were set, in order. -/
def settings (past : List Chapter) : List (String × Status) :=
  (past.flatMap Chapter.done).filterMap Deed.setting?

/-- The manifest that the file was last written for. -/
def lastWriter (past : List Chapter) : Option Fingerprint :=
  (past.reverse.find? fun c => c.done ≠ []).map (·.life.fingerprint)

/-- The disk at the end of the chapters. -/
def diskAfter (disk : Disk) (past : List Chapter) : Disk :=
  (past.getLast?.map Chapter.disk).getD disk

/-- What a chapter owes to those before it. -/
structure Chapter.Follows (disk : Disk) (past : List Chapter) (c : Chapter) : Prop where
  drift : c.life.ignoreVersion = false →
    ((∃ recorded current, c.opened = .error (.manifestMismatch recorded current)) ↔
      ∃ writer, lastWriter past = some writer ∧ writer ≠ c.life.fingerprint)
  ignored : c.life.ignoreVersion = true → ∃ s, c.opened = .ok s
  refused : ∀ fault, c.opened = .error fault → c.disk = diskAfter disk past ∧
    ∃ writer, lastWriter past = some writer ∧
      fault = .manifestMismatch writer.text c.life.fingerprint.text
  statuses : ∀ s, c.opened = .ok s → ∀ name,
    s.record.statusOf name = (settings past).reverse.lookup name

/-! ## Records -/

/-- The record belongs to no manifest yet, or to this one. -/
def Suits (f : Fingerprint) (r : Record) : Prop := ∀ recorded, r.fingerprint? = some recorded → recorded = f

theorem fingerprint?_overwrite (named : f.name ≠ "") : (r.overwrite f).fingerprint? = some f := by
  simp [Record.fingerprint?, Record.isFingerprinted, Record.overwrite, named]

theorem fingerprint?_capture (named : f.name ≠ "") (suits : Suits f r) :
    (r.capture f).fingerprint? = some f := by
  unfold Record.capture
  split
  · rename_i owned
    have recorded : r.fingerprint? = some ⟨r.manifestName, r.manifestVersion⟩ := if_pos owned
    rw [recorded, suits _ recorded]
  · exact fingerprint?_overwrite named

theorem statusOf_capture (name : String) : (r.capture f).statusOf name = r.statusOf name := by
  unfold Record.capture
  split <;> rfl

theorem check_eq_ok_iff : r.check f = .ok () ↔ Suits f r := by
  unfold Record.check Suits
  cases r.fingerprint? with
  | none => simp
  | some recorded => simp

theorem check_eq_error (mismatch : ¬ Suits f r) : ∃ recorded, r.fingerprint? = some recorded ∧
    recorded ≠ f ∧ r.check f = .error (.manifestMismatch recorded.text f.text) := by
  unfold Suits at mismatch
  push Not at mismatch
  obtain ⟨recorded, owned, other⟩ := mismatch
  refine ⟨recorded, owned, other, ?_⟩
  rw [Record.check, owned]
  exact if_neg other

/-! ## Deeds -/

/-- The record with a deed done to it. -/
def Deed.change (r : Record) : Deed → Record
  | set name status => r.setStatus name status
  | write => r

/-- The record that a file holds after the deeds of a store. -/
def recordAfter (f : Fingerprint) (r : Record) (deeds : List Deed) : Record :=
  deeds.foldl (fun r deed => (deed.change r).capture f) r

theorem done_eq (deed : Deed) : deed.done (.file directory path r f) disk =
    (Store.file directory path (deed.change r) f).write disk := by
  cases deed <;> rfl

theorem load_work (deed : Deed) (deeds : List Deed)
    (smooth : ∀ result ∈ (work (.file directory path r f) disk (deed :: deeds)).2, result = .ok ()) :
    Record.load (work (.file directory path r f) disk (deed :: deeds)).1 directory path =
      .ok (recordAfter f r (deed :: deeds)) := by
  induction deeds generalizing deed r disk with
  | nil =>
    rw [work, done_eq] at smooth ⊢
    exact load_write _ _ _ _ _ (smooth _ List.mem_cons_self)
  | cons next rest ih =>
    rw [work, done_eq] at smooth ⊢
    have first := smooth _ List.mem_cons_self
    have store : ((Store.file directory path (deed.change r) f).write disk).store =
        .file directory path ((deed.change r).capture f) f := by
      rw [write]
      split <;> rfl
    have others := fun result mem => smooth result (List.mem_cons_of_mem _ mem)
    rw [store] at others ⊢
    exact ih next others

theorem statusOf_change (deed : Deed) (name : String) : (deed.change r).statusOf name =
    (deed.setting?.toList.lookup name).or (r.statusOf name) := by
  cases deed with
  | set changed status =>
    rw [Deed.change, Record.statusOf_setStatus]
    by_cases same : name = changed
    · simp [same, Deed.setting?]
    · have apart : (name == changed) = false := by simpa using same
      simp [same, apart, Deed.setting?, List.lookup_cons]
  | write => rfl

theorem statusOf_recordAfter (deeds : List Deed) (name : String) :
    (recordAfter f r deeds).statusOf name =
      ((deeds.filterMap Deed.setting?).reverse.lookup name).or (r.statusOf name) := by
  induction deeds generalizing r with
  | nil => rfl
  | cons deed rest ih =>
    have first : (deed :: rest).filterMap Deed.setting? =
        deed.setting?.toList ++ rest.filterMap Deed.setting? := by
      cases deed <;> rfl
    have single : deed.setting?.toList.reverse = deed.setting?.toList := by
      cases deed <;> rfl
    have kept : ((deed.change r).capture f).statusOf name = (deed.change r).statusOf name :=
      statusOf_capture name
    rw [first, List.reverse_append, single, List.lookup_append, Option.or_assoc, ← statusOf_change,
      ← kept]
    exact ih

theorem suits_change (deed : Deed) (suits : Suits f r) : Suits f (deed.change r) := by
  cases deed <;> exact suits

theorem fingerprint?_recordAfter (named : f.name ≠ "") (suits : Suits f r) (deed : Deed)
    (deeds : List Deed) : (recordAfter f r (deed :: deeds)).fingerprint? = some f := by
  have owned := fingerprint?_capture named (suits_change deed suits)
  induction deeds generalizing deed r with
  | nil => exact owned
  | cons next rest ih =>
    have suits' : Suits f ((deed.change r).capture f) := by
      intro recorded same
      rw [owned] at same
      exact (Option.some.inj same).symm
    exact ih suits' next (fingerprint?_capture named (suits_change next suits'))

/-! ## Chapters -/

/-- What a file holds after some chapters: the statuses that were set, and who wrote it last. -/
structure Holds (directory : Place) (path : String) (disk : Disk) (past : List Chapter) (r : Record) :
    Prop where
  load : Record.load disk directory path = .ok r
  owner : r.fingerprint? = lastWriter past
  statuses : ∀ name, r.statusOf name = (settings past).reverse.lookup name

theorem holds_absent (absent : disk.pathExists directory path = false) :
    Holds directory path disk [] {} where
  load := by simp [Record.load, absent]
  owner := rfl
  statuses _ := rfl

theorem lastWriter_append (past : List Chapter) (c : Chapter) : lastWriter (past ++ [c]) =
    if c.done = [] then lastWriter past else some c.life.fingerprint := by
  rw [lastWriter, List.reverse_append, List.reverse_singleton, List.singleton_append, List.find?_cons]
  by_cases idle : c.done = []
  · simp [idle, lastWriter]
  · simp [idle]

theorem settings_append (past : List Chapter) (c : Chapter) :
    settings (past ++ [c]) = settings past ++ c.done.filterMap Deed.setting? := by
  simp [settings]

theorem diskAfter_append (past : List Chapter) (c : Chapter) : diskAfter disk (past ++ [c]) = c.disk := by
  simp [diskAfter]

theorem Holds.idle {past : List Chapter} {c : Chapter} (holds : Holds directory path disk past r)
    (same : c.disk = disk) (idle : c.done = []) : Holds directory path c.disk (past ++ [c]) r where
  load := same ▸ holds.load
  owner := by rw [lastWriter_append, if_pos idle, holds.owner]
  statuses name := by
    rw [settings_append, idle, List.filterMap_nil, List.append_nil]
    exact holds.statuses name

theorem suits_overwrite (r : Record) : Suits f (r.overwrite f) := by
  intro recorded owned
  by_cases named : f.name = ""
  · simp [Record.fingerprint?, Record.isFingerprinted, Record.overwrite, named] at owned
  · rw [fingerprint?_overwrite named] at owned
    exact (Option.some.inj owned).symm

theorem openFile_checked {ignoreVersion : Bool} (load : Record.load disk directory path = .ok r)
    (checked : r.check f = .ok ()) :
    openFile disk directory path f ignoreVersion = .ok (.file directory path r f) := by
  simp only [openFile, load, checked, bind, Except.bind]
  rfl

theorem openFile_refused {ignoreVersion : Bool} {fault : Fault}
    (load : Record.load disk directory path = .ok r) (refused : r.check f = .error fault) :
    openFile disk directory path f ignoreVersion =
      if ignoreVersion then .ok (.file directory path (r.overwrite f) f) else .error fault := by
  simp only [openFile, load, refused, bind, Except.bind]
  rfl

/-- A file is opened with the statuses that it holds, or belongs to another manifest. -/
theorem openFile_cases {ignoreVersion : Bool} (load : Record.load disk directory path = .ok r) :
    (∃ r', openFile disk directory path f ignoreVersion = .ok (.file directory path r' f) ∧
      r'.statuses = r.statuses ∧ Suits f r' ∧ (Suits f r ∨ ignoreVersion = true)) ∨
    ∃ recorded, openFile disk directory path f ignoreVersion =
        .error (.manifestMismatch recorded.text f.text) ∧
      r.fingerprint? = some recorded ∧ recorded ≠ f ∧ ignoreVersion = false := by
  by_cases suits : Suits f r
  · exact .inl ⟨r, openFile_checked load (check_eq_ok_iff.2 suits), rfl, suits, .inl suits⟩
  · obtain ⟨recorded, owned, differs, mismatch⟩ := check_eq_error suits
    cases ignoreVersion with
    | true =>
      exact .inl ⟨r.overwrite f, openFile_refused load mismatch, rfl, suits_overwrite r, .inr rfl⟩
    | false => exact .inr ⟨recorded, openFile_refused load mismatch, owned, differs, rfl⟩

section

variable {past : List Chapter} {life : Lifetime}

theorem life_lived (directory : Place) (path : String) (disk : Disk) (life : Lifetime) :
    (life.lived directory path disk).life = life := by
  unfold Lifetime.lived
  split <;> rfl

/-- A file that is opened is the file of this manifest from its first deed on. -/
theorem Holds.opened (holds : Holds directory path disk past r) (named : life.fingerprint.name ≠ "")
    {r' : Record} (same : r'.statuses = r.statuses) (suits : Suits life.fingerprint r')
    (opened : openFile disk directory path life.fingerprint life.ignoreVersion =
      .ok (.file directory path r' life.fingerprint))
    (smooth : (life.lived directory path disk).Smooth) :
    ∃ after, Holds directory path (life.lived directory path disk).disk
      (past ++ [life.lived directory path disk]) after := by
  have lived : life.lived directory path disk = ⟨life, .ok (.file directory path r' life.fingerprint),
      (work (.file directory path r' life.fingerprint) disk life.deeds).2,
      (work (.file directory path r' life.fingerprint) disk life.deeds).1⟩ := by
    rw [Lifetime.lived, opened]
  have done : (life.lived directory path disk).done = life.deeds := by
    rw [lived]
    rfl
  cases deeds : life.deeds with
  | nil =>
    refine ⟨r, holds.idle ?_ (done.trans deeds)⟩
    rw [lived, deeds]
    rfl
  | cons deed rest =>
    have all : ∀ result ∈ (work (.file directory path r' life.fingerprint) disk (deed :: rest)).2,
        result = .ok () := by
      intro result mem
      refine smooth result ?_
      rw [lived, deeds]
      exact mem
    have busy : (life.lived directory path disk).done ≠ [] := by simp [done, deeds]
    refine ⟨recordAfter life.fingerprint r' (deed :: rest), ?_, ?_, ?_⟩
    · rw [lived, deeds]
      exact load_work deed rest all
    · rw [lastWriter_append, if_neg busy, fingerprint?_recordAfter named suits, lived]
    · intro name
      have kept : r'.statusOf name = r.statusOf name := by rw [Record.statusOf, same]; rfl
      rw [settings_append, done, deeds, List.reverse_append, List.lookup_append,
        statusOf_recordAfter, kept, holds.statuses name]

theorem Holds.lived (holds : Holds directory path disk past r) (named : life.fingerprint.name ≠ "")
    (smooth : (life.lived directory path disk).Smooth) :
    ∃ after, Holds directory path (life.lived directory path disk).disk
      (past ++ [life.lived directory path disk]) after := by
  rcases openFile_cases holds.load with ⟨r', opened, same, suits, _⟩ | ⟨recorded, refused, _⟩
  · exact holds.opened named same suits opened smooth
  · refine ⟨r, holds.idle ?_ ?_⟩
    · rw [Lifetime.lived, refused]
    · rw [Lifetime.lived, refused]
      rfl

theorem opened_lived (directory : Place) (path : String) (disk : Disk) (life : Lifetime) :
    (life.lived directory path disk).opened =
      openFile disk directory path life.fingerprint life.ignoreVersion := by
  unfold Lifetime.lived
  split <;> simp [*]

theorem Holds.follows_opened {first : Disk} (holds : Holds directory path disk past r) {r' : Record}
    (opened : openFile disk directory path life.fingerprint life.ignoreVersion =
      .ok (.file directory path r' life.fingerprint)) (kept : r'.statuses = r.statuses)
    (allowed : Suits life.fingerprint r ∨ life.ignoreVersion = true) :
    (life.lived directory path disk).Follows first past := by
  have same := life_lived directory path disk life
  have outcome := (opened_lived directory path disk life).trans opened
  constructor
  · intro strict
    rw [same] at strict ⊢
    rw [outcome]
    refine iff_of_false ?_ ?_
    · rintro ⟨_, _, mismatch⟩
      cases mismatch
    · rintro ⟨writer, last, differs⟩
      rw [← holds.owner] at last
      rcases allowed with suits | ignoring
      · exact differs (suits writer last)
      · rw [strict] at ignoring
        cases ignoring
  · intro _
    exact ⟨_, outcome⟩
  · intro fault failed
    rw [outcome] at failed
    cases failed
  · intro s success name
    rw [outcome] at success
    cases success
    rw [← holds.statuses name, record, Record.statusOf, kept]
    rfl

theorem Holds.follows_refused {first : Disk} (holds : Holds directory path disk past r)
    (here : diskAfter first past = disk) {recorded : Fingerprint}
    (refused : openFile disk directory path life.fingerprint life.ignoreVersion =
      .error (.manifestMismatch recorded.text life.fingerprint.text))
    (owned : r.fingerprint? = some recorded) (differs : recorded ≠ life.fingerprint)
    (strict : life.ignoreVersion = false) : (life.lived directory path disk).Follows first past := by
  have same := life_lived directory path disk life
  have outcome := (opened_lived directory path disk life).trans refused
  have last : lastWriter past = some recorded := holds.owner ▸ owned
  constructor
  · intro _
    rw [same, outcome]
    exact iff_of_true ⟨_, _, rfl⟩ ⟨recorded, last, differs⟩
  · intro ignoring
    rw [same, strict] at ignoring
    cases ignoring
  · intro fault failed
    rw [outcome] at failed
    cases failed
    constructor
    · rw [here, Lifetime.lived, refused]
    · exact ⟨recorded, last, by rw [same]⟩
  · intro s success
    rw [outcome] at success
    cases success

/-- A chapter owes to those before it what the file that it finds tells. -/
theorem Holds.follows {first : Disk} (holds : Holds directory path disk past r)
    (here : diskAfter first past = disk) : (life.lived directory path disk).Follows first past := by
  rcases openFile_cases holds.load with ⟨r', opened, kept, _, allowed⟩ |
    ⟨recorded, refused, owned, differs, strict⟩
  · exact holds.follows_opened opened kept allowed
  · exact holds.follows_refused here refused owned differs strict

end

theorem diskAfter_cons (c : Chapter) (past : List Chapter) :
    diskAfter disk (c :: past) = diskAfter c.disk past := by
  cases last : past.getLast? <;> simp [diskAfter, List.getLast?_cons, last]

theorem chronicle_append (directory : Place) (path : String) (disk : Disk) (lives more : List Lifetime) :
    chronicle directory path disk (lives ++ more) = chronicle directory path disk lives ++
      chronicle directory path (diskAfter disk (chronicle directory path disk lives)) more := by
  induction lives generalizing disk with
  | nil => rfl
  | cons life rest ih =>
    rw [List.cons_append, chronicle, ih, chronicle, List.cons_append, diskAfter_cons]

theorem chronicle_follows {first : Disk} {before : List Chapter} {lives : List Lifetime}
    (holds : Holds directory path disk before r) (here : diskAfter first before = disk)
    (named : ∀ life ∈ lives, life.fingerprint.name ≠ "") (past : List Chapter) (c : Chapter)
    (later : List Chapter) (split : chronicle directory path disk lives = past ++ c :: later)
    (smooth : ∀ p ∈ past, p.Smooth) : c.Follows first (before ++ past) := by
  induction lives generalizing disk before r past with
  | nil => simp [chronicle] at split
  | cons life rest ih =>
    rw [chronicle] at split
    cases past with
    | nil =>
      obtain ⟨rfl, _⟩ := List.cons.inj split
      rw [List.append_nil]
      exact holds.follows here
    | cons p past =>
      obtain ⟨rfl, onward⟩ := List.cons.inj split
      obtain ⟨after, holds'⟩ := holds.lived (named life List.mem_cons_self)
        (smooth _ List.mem_cons_self)
      have rest' := ih holds' (diskAfter_append ..)
        (fun life' mem => named life' (List.mem_cons_of_mem _ mem)) past onward
        (fun p' mem => smooth p' (List.mem_cons_of_mem _ mem))
      rw [List.append_assoc] at rest'
      exact rest'

/-- Over any lifetimes of a file that was not there, drift is found and statuses survive. -/
theorem drift_found_statuses_kept (directory : Place) (path : String) (disk : Disk)
    (absent : disk.pathExists directory path = false) (lives : List Lifetime)
    (named : ∀ life ∈ lives, life.fingerprint.name ≠ "") (past : List Chapter) (c : Chapter)
    (later : List Chapter) (split : chronicle directory path disk lives = past ++ c :: later)
    (smooth : ∀ p ∈ past, p.Smooth) : c.Follows disk past := by
  have start : diskAfter disk [] = disk := rfl
  exact chronicle_follows (holds_absent absent) start named past c later split smooth

/-- Two versions of a manifest: the second is refused, then looks in and does nothing, is refused
still, then takes the file over, and after that the first is refused. -/
def releases : List Lifetime :=
  let first : Fingerprint := ⟨"relay", some "1"⟩
  let second : Fingerprint := ⟨"relay", some "2"⟩
  [⟨first, false, [.set "fetch" .running, .set "fetch" .done, .set "serve" .waiting]⟩,
    ⟨second, false, [.set "fetch" .error]⟩, ⟨second, true, []⟩, ⟨second, false, [.write]⟩,
    ⟨second, true, [.set "serve" .error]⟩, ⟨first, false, [.write]⟩]

theorem drift_found_statuses_kept_releases : ∃ past c,
    chronicle workPlace "lock.json" Disk.fresh releases = past ++ [c] ∧
    lastWriter past = some ⟨"relay", some "2"⟩ ∧
    (settings past).reverse.lookup "fetch" = some .done ∧
    (∃ recorded current, c.opened = .error (.manifestMismatch recorded current)) ∧
    c.Follows Disk.fresh past := by
  have absent : Disk.fresh.pathExists workPlace "lock.json" = false := by decide +kernel
  have named : ∀ life ∈ releases, life.fingerprint.name ≠ "" := by decide
  have first := chronicle_append workPlace "lock.json" Disk.fresh (releases.take 5) (releases.drop 5)
  generalize before : chronicle workPlace "lock.json" Disk.fresh (releases.take 5) = past at first
  have went : (∀ p ∈ past, ∀ result ∈ p.results, result = .ok ()) ∧
      lastWriter past = some ⟨"relay", some "2"⟩ ∧
      (settings past).reverse.lookup "fetch" = some .done := by
    subst before
    decide +kernel
  obtain ⟨smooth, last, fetch⟩ := went
  have follows := drift_found_statuses_kept workPlace "lock.json" Disk.fresh absent releases named
    past _ [] first smooth
  refine ⟨past, _, first, last, fetch, ?_, follows⟩
  exact (follows.drift (by rw [life_lived])).2 ⟨⟨"relay", some "2"⟩, last, by rw [life_lived]; decide⟩

end Supervisor.Store
