import Supervisor.Proofs.Manifest.Accepted

/-!
# Default identifiers

The default identifier of a procedure ends in a dot and a number, and nothing in a number is a dot. So it
can be taken apart at its last dot, whatever the name of the command, and no two procedures of a draft
share one. An identifier is reported as repeated only where it does come twice, so never in a draft that
gives none.
-/

namespace Supervisor

namespace Text

theorem dot_not_mem_natural (n : Nat) : '.' ∉ (natural n).toList := by
  rw [natural, String.toList_ofList]
  intro mem
  exact absurd (Nat.isDigit_of_mem_toDigits (by decide) (by decide) mem) (by decide)

theorem natural_injective : Function.Injective natural := by
  intro n n' same
  have digits : Nat.toDigits 10 n = Nat.toDigits 10 n' := String.ofList_injective same
  calc n = Nat.ofDigitChars 10 (Nat.toDigits 10 n) 0 := Nat.ofDigitChars_ten_toDigits.symm
    _ = Nat.ofDigitChars 10 (Nat.toDigits 10 n') 0 := by rw [digits]
    _ = n' := Nat.ofDigitChars_ten_toDigits

end Text

section Apart

variable {α : Type} {front front' back back' between : List α} {a : α}

theorem eq_nil_of_not_mem (last : a ∉ back) (same : a :: back = between ++ a :: back') :
    between = [] ∧ back = back' := by
  cases between with
  | nil => exact ⟨rfl, (List.cons.inj same).2⟩
  | cons b between =>
    have again : back = between ++ a :: back' := (List.cons.inj same).2
    exact absurd (again ▸ List.mem_append_right _ List.mem_cons_self) last

/-- A list is taken apart in one way only at the last place where something stands. -/
theorem append_cons_inj_of_not_mem (last : a ∉ back) (last' : a ∉ back')
    (same : front ++ a :: back = front' ++ a :: back') : front = front' ∧ back = back' := by
  rcases List.append_eq_append_iff.1 same with ⟨between, longer, rest⟩ | ⟨between, longer, rest⟩
  · obtain ⟨rfl, backs⟩ := eq_nil_of_not_mem last rest
    exact ⟨(longer.trans (List.append_nil _)).symm, backs⟩
  · obtain ⟨rfl, backs⟩ := eq_nil_of_not_mem last' rest
    exact ⟨longer.trans (List.append_nil _), backs.symm⟩

end Apart

theorem Procedure.defaultId_inj {command command' : String} {index index' : Nat} :
    defaultId command index = defaultId command' index' ↔ command = command' ∧ index = index' := by
  constructor
  · intro same
    have letters : command.toList ++ '.' :: (Text.natural index).toList =
        command'.toList ++ '.' :: (Text.natural index').toList := by
      simpa [defaultId] using congrArg String.toList same
    obtain ⟨names, numbers⟩ := append_cons_inj_of_not_mem (Text.dot_not_mem_natural index)
      (Text.dot_not_mem_natural index') letters
    exact ⟨String.toList_inj.1 names, Text.natural_injective (String.toList_inj.1 numbers)⟩
  · rintro ⟨rfl, rfl⟩
    rfl

namespace Manifest

variable {known : String → Bool} {name id : String} {index : Nat} {cause : ManifestFault}

/-! ## Which faults are reported -/

namespace ProcedureDraft

variable {p : ProcedureDraft}

/-- What can be wrong with a procedure by itself; the fault says which procedure it is. -/
inductive Flawed (p : ProcedureDraft) (name : String) (index : Nat) : ManifestFault → Prop
  | id : Flawed p name index (.blankId index name)
  | wait (value : String) : Flawed p name index (.badWait (p.idAt name index) value)
  | data (mode : Mode) (expected : String) :
      Flawed p name index (.badData (p.idAt name index) mode expected)
  | target (target : String) : Flawed p name index (.unknownTarget (p.idAt name index) target)

theorem resolveId_eq_error (h : p.resolveId name index = .error cause) :
    cause = .blankId index name := by
  unfold resolveId at h
  cases given : p.id with
  | none =>
    rw [given] at h
    cases h
  | some own =>
    rw [given] at h
    dsimp only at h
    split at h <;> cases h
    rfl

theorem resolveWait_eq_error {value : Option Toml.Value} (h : resolveWait id value = .error cause) :
    ∃ text, cause = .badWait id text := by
  unfold resolveWait at h
  split at h
  · cases h
  · cases h
  · split at h <;> cases h
    exact ⟨_, rfl⟩
  · cases h
    exact ⟨_, rfl⟩

theorem resolveData_eq_error {mode : Mode} {value : Option Toml.Value}
    (h : resolveData id mode value = .error cause) : ∃ expected, cause = .badData id mode expected := by
  unfold resolveData at h
  cases mode with
  | exec | execTty | stdin | command =>
    dsimp only at h
    split at h <;> cases h
    exact ⟨_, rfl⟩
  | plugin | unsupported => cases h

theorem checkTarget_eq_error {data : Data} (h : checkTarget known id data = .error cause) :
    ∃ target, cause = .unknownTarget id target := by
  unfold checkTarget at h
  split at h
  · split at h <;> cases h
    exact ⟨_, rfl⟩
  · cases h

theorem resolve_eq_error (h : p.resolve known name index = .error cause) :
    p.Flawed name index cause := by
  rcases bind_eq_error_iff.1 h with blank | ⟨id, given, h⟩
  · exact resolveId_eq_error blank ▸ .id
  -- The later checks blame the procedure by the identifier it has got.
  obtain rfl := (resolveId_eq_ok_iff.1 given).2
  rcases bind_eq_error_iff.1 h with bad | ⟨wait, -, h⟩
  · obtain ⟨text, rfl⟩ := resolveWait_eq_error bad
    exact .wait text
  rcases bind_eq_error_iff.1 h with bad | ⟨data, -, h⟩
  · obtain ⟨expected, rfl⟩ := resolveData_eq_error bad
    exact .data _ expected
  rcases bind_eq_error_iff.1 h with unknown | ⟨_, -, h⟩
  · obtain ⟨target, rfl⟩ := checkTarget_eq_error unknown
    exact .target target
  · cases h

end ProcedureDraft

/-- A command is refused for one of its procedures. -/
def CommandDraft.Flawed (c : CommandDraft) (name : String) (cause : ManifestFault) : Prop :=
  ∃ e ∈ c.procedures.zipIdx, e.1.Flawed name e.2 cause

theorem resolveProcedures_eq_error {drafts : List ProcedureDraft}
    (h : resolveProcedures known name index drafts = .error cause) :
    ∃ e ∈ drafts.zipIdx index, e.1.Flawed name e.2 cause := by
  induction drafts generalizing index with
  | nil => cases h
  | cons p rest ih =>
    rw [List.zipIdx_cons]
    rcases bind_eq_error_iff.1 h with here | ⟨procedure, -, h⟩
    · exact ⟨_, List.mem_cons_self, ProcedureDraft.resolve_eq_error here⟩
    rcases bind_eq_error_iff.1 h with there | ⟨procedures, -, h⟩
    · obtain ⟨e, mem, flawed⟩ := ih there
      exact ⟨e, List.mem_cons_of_mem _ mem, flawed⟩
    · cases h

theorem CommandDraft.resolve_eq_error {c : CommandDraft} (h : c.resolve known name = .error cause) :
    c.Flawed name cause := by
  rcases bind_eq_error_iff.1 h with flawed | ⟨procedures, -, h⟩
  · exact resolveProcedures_eq_error flawed
  · cases h

/-- An identifier that does not join the others stands twice among them and those seen before. -/
theorem joinIds_eq_error {seen : List String} {procedures : List Procedure}
    (h : joinIds seen procedures = .error cause) : ∃ id, cause = .repeatedId id ∧
      1 < seen.count id + (procedures.map Procedure.id).count id := by
  induction procedures generalizing seen with
  | nil => cases h
  | cons p rest ih =>
    unfold joinIds at h
    split at h
    · rename_i old
      cases h
      have before : 0 < seen.count p.id := List.count_pos_iff.2 old
      refine ⟨p.id, rfl, ?_⟩
      rw [List.map_cons, List.count_cons_self]
      omega
    · obtain ⟨id, rfl, twice⟩ := ih h
      refine ⟨id, rfl, ?_⟩
      rw [List.count_cons] at twice
      rw [List.map_cons, List.count_cons]
      omega

/-- Commands are refused for what is wrong with one of them, or for an identifier that stands twice. -/
theorem resolveCommands_eq_error {seen : List String} {l : List (String × CommandDraft)}
    (h : resolveCommands known seen l = .error cause) :
    (∃ e ∈ l, e.2.Flawed e.1 cause) ∨ ∃ id, cause = .repeatedId id ∧
      1 < seen.count id + (l.flatMap fun e => e.2.ids e.1).count id := by
  induction l generalizing seen with
  | nil => cases h
  | cons e rest ih =>
    obtain ⟨name, draft⟩ := e
    rw [List.flatMap_cons]
    simp only [List.count_append]
    rcases bind_eq_error_iff.1 h with flawed | ⟨command, resolved, h⟩
    · exact .inl ⟨_, List.mem_cons_self, CommandDraft.resolve_eq_error flawed⟩
    have ids := (CommandDraft.resolve_eq_ok_iff.1 resolved).ids
    rcases bind_eq_error_iff.1 h with repeated | ⟨seen', joined, h⟩
    · obtain ⟨id, rfl, twice⟩ := joinIds_eq_error repeated
      rw [ids] at twice
      exact .inr ⟨id, rfl, by omega⟩
    -- The identifiers that have joined count as seen for the rest.
    obtain ⟨rfl, -⟩ := joinIds_eq_ok_iff.1 joined
    rcases bind_eq_error_iff.1 h with later | ⟨commands, -, h⟩
    · rcases ih later with ⟨e, mem, flawed⟩ | ⟨id, rfl, twice⟩
      · exact .inl ⟨e, List.mem_cons_of_mem _ mem, flawed⟩
      · rw [ids, List.count_append, List.count_reverse] at twice
        exact .inr ⟨id, rfl, by omega⟩
    · cases h

namespace Draft

variable {d : Draft}

theorem checkHeader_ne_repeatedId (d : Draft) : d.checkHeader ≠ .error (.repeatedId id) := by
  intro h
  unfold checkHeader at h
  split at h
  · cases h
  · split at h
    · cases h
    · split at h
      · split at h <;> cases h
      · cases h

theorem needsFault?_ne_repeatedId (d : Draft) : d.needsFault? ≠ some (.repeatedId id) := by
  intro h
  obtain ⟨e, -, h⟩ := List.exists_of_findSome?_eq_some h
  obtain ⟨need, -, h⟩ := List.exists_of_findSome?_eq_some h
  unfold needFault? at h
  split at h
  · cases h
  · split at h <;> cases h

/-- A draft that is refused, and not for a cycle, is so by one of three checks. -/
theorem resolve_eq_error (h : d.resolve = .error (.manifest cause)) :
    d.checkHeader = .error cause ∨ d.needsFault? = some cause ∨
      resolveCommands d.known [] d.commands.toList = .error cause := by
  unfold resolve at h
  cases header : d.checkHeader with
  | error _ =>
    rw [header] at h
    cases h
    exact .inl rfl
  | ok =>
    rw [header] at h
    cases needs : d.needsFault? with
    | some _ =>
      rw [needs] at h
      cases h
      exact .inr (.inl rfl)
    | none =>
      rw [needs] at h
      cases placed : d.needs.misplaced? with
      | some _ =>
        rw [placed] at h
        cases h
      | none =>
        rw [placed] at h
        cases resolved : resolveCommands d.known [] d.commands.toList with
        | error _ =>
          rw [resolved] at h
          cases h
          exact .inr (.inr rfl)
        | ok _ =>
          rw [resolved] at h
          cases h

/-- An identifier that is reported as repeated stands twice in the draft. -/
theorem repeated_of_resolve (h : d.resolve = .error (.manifest (.repeatedId id))) :
    1 < d.ids.count id := by
  rcases resolve_eq_error h with header | needs | resolved
  · exact absurd header (checkHeader_ne_repeatedId d)
  · exact absurd needs (needsFault?_ne_repeatedId d)
  · rcases resolveCommands_eq_error resolved with ⟨_, -, _, -, flawed⟩ | ⟨id', same, twice⟩
    · cases flawed
    · cases same
      rwa [List.count_nil, Nat.zero_add] at twice

end Draft

/-! ## Drafts that give no identifiers -/

/-- No procedure is given an identifier. -/
def Draft.Unnamed (d : Draft) : Prop :=
  ∀ name c, d.commands.get? name = some c → ∀ p ∈ c.procedures, p.id = none

/-- Without identifiers of their own, the procedures of a command are numbered. -/
theorem CommandDraft.ids_of_unnamed {c : CommandDraft} (unnamed : ∀ p ∈ c.procedures, p.id = none)
    (name : String) : c.ids name = (List.range c.procedures.length).map (Procedure.defaultId name) := by
  have own : ∀ e ∈ c.procedures.zipIdx, e.1.idAt name e.2 = Procedure.defaultId name e.2 := by
    intro e mem
    rw [ProcedureDraft.idAt, unnamed e.1 (List.fst_mem_of_mem_zipIdx mem), Option.getD_none]
  rw [ids, List.map_congr_left own, List.range_eq_range', ← List.zipIdx_map_snd 0, List.map_map]
  rfl

theorem Draft.Unnamed.ids_nodup {d : Draft} (unnamed : d.Unnamed) : d.ids.Nodup := by
  have numbered : ∀ e ∈ d.commands.toList, e.2.ids e.1 =
      (List.range e.2.procedures.length).map (Procedure.defaultId e.1) := fun e mem =>
    CommandDraft.ids_of_unnamed (unnamed e.1 e.2 ((NameMap.get?_eq_some_iff _).2 mem)) e.1
  rw [ids, List.nodup_flatMap]
  constructor
  · intro e mem
    rw [numbered e mem]
    exact List.nodup_range.map fun index index' same => (Procedure.defaultId_inj.1 same).2
  · refine d.commands.ordered.imp_of_mem fun {e e'} mem mem' before => ?_
    show List.Disjoint (e.2.ids e.1) (e'.2.ids e'.1)
    rw [numbered e mem, numbered e' mem', List.disjoint_left]
    intro id here there
    obtain ⟨index, -, rfl⟩ := List.mem_map.1 here
    obtain ⟨index', -, same⟩ := List.mem_map.1 there
    have names : e'.1 = e.1 := (Procedure.defaultId_inj.1 same).1
    exact absurd before (names ▸ String.lt_irrefl _)

/-- **Default identifiers never collide.** They are equal only for one command and one place. So the
identifiers of a draft that gives none all differ, and it is never refused for one that is repeated. -/
theorem default_ids_apart :
    (∀ name name' index index', Procedure.defaultId name index = Procedure.defaultId name' index' ↔
      name = name' ∧ index = index') ∧
    ∀ d : Draft, d.Unnamed →
      d.ids.Nodup ∧ ∀ id, d.resolve ≠ .error (.manifest (.repeatedId id)) := by
  refine ⟨fun _ _ _ _ => Procedure.defaultId_inj, fun d unnamed => ⟨unnamed.ids_nodup, fun id h => ?_⟩⟩
  have once := List.nodup_iff_count_le_one.1 unnamed.ids_nodup id
  exact absurd (Draft.repeated_of_resolve h) (Nat.not_lt.2 once)

/-- A procedure without an identifier. -/
def unnamed : ProcedureDraft := ⟨"later", none, none, none, false⟩

/-- Commands whose names look like identifiers, among them the empty name. -/
def lookalikes : Draft :=
  ⟨"m", none, none,
    .ofList [("", ⟨.always, [], [unnamed]⟩), ("a", ⟨.always, [], [unnamed, unnamed]⟩),
      ("a.", ⟨.always, [], [unnamed]⟩), ("a.1", ⟨.always, [], [unnamed]⟩)]⟩

theorem default_ids_apart_lookalikes :
    lookalikes.Unnamed ∧ lookalikes.ids = [".0", "a.0", "a.1", "a..0", "a.1.0"] ∧
      (∀ id, lookalikes.resolve ≠ .error (.manifest (.repeatedId id))) ∧
      ∃ m, lookalikes.resolve = .ok m := by
  have bare : ∀ e ∈ lookalikes.commands.toList, ∀ p ∈ e.2.procedures, p.id = none := by decide +kernel
  have unnamed : lookalikes.Unnamed := fun name c here =>
    bare (name, c) ((NameMap.get?_eq_some_iff _).1 here)
  have placed : lookalikes.needs.misplaced? = none :=
    Needs.misplaced_none_of_rank (fun _ => 0) (by decide +kernel)
  refine ⟨unnamed, by decide +kernel, (default_ids_apart.2 lookalikes unnamed).2, ?_⟩
  rw [Draft.resolve, placed]
  exact ⟨_, rfl⟩

end Manifest

end Supervisor
