import Mathlib.Data.List.Forall2
import Supervisor.Manifest.Resolve

/-!
# Drafts of procedures and commands

Which waits and which data a draft may give for a mode, and what they become. A draft of a procedure
is resolved just when all it gives makes sense, and then to the one procedure that it describes.
Commands keep the number and order of their procedures, and are resolved together just when the
identifiers of all procedures differ.
-/

namespace Supervisor.Manifest

variable {known : String → Bool} {command : String} {index : Nat}

namespace ProcedureDraft

/-- A wait may be left out, said, or given as a number of seconds. -/
inductive Waits : Option Toml.Value → Wait → Prop
  | unsaid : Waits none .unsaid
  | said (b : Bool) : Waits (some (.boolean b)) (.said b)
  | delayed (seconds : Nat) : Waits (some (.integer seconds)) (.delayed seconds)

/-- A program is started from a line for the shell, or from its words. -/
inductive Starts : Option Toml.Value → List String → Prop
  | line {line : String} (inked : Text.allBlank line = false) :
      Starts (some (.text line)) ["sh", "-c", line]
  | argv {words : List String} (given : words ≠ []) : Starts (some (.array (words.map .text))) words

/-- The value suits the mode and becomes the data. -/
def Suits (known : String → Bool) (value : Option Toml.Value) (data : Data) : Mode → Prop
  | .exec | .execTty => ∃ words, Starts value words ∧ data = .argv words
  | .stdin => ∃ target input, value = some (.array [.text target, .text input]) ∧
      data = .stdin target input
  | .plugin _ => data = .payload (payload value)
  | .command => ∃ target, value = some (.text target) ∧ known target = true ∧ data = .command target
  | .unsupported _ => data = .empty

/-- The identifier that is given, or the default one. -/
def idAt (p : ProcedureDraft) (command : String) (index : Nat) : String :=
  p.id.getD (Procedure.defaultId command index)

/-- The procedure that a draft of it describes, at its place in a command. -/
structure Resolves (known : String → Bool) (command : String) (index : Nat) (p : ProcedureDraft)
    (procedure : Procedure) : Prop where
  inked : ∀ id, p.id = some id → Text.allBlank id = false
  id_eq : procedure.id = p.idAt command index
  mode_eq : procedure.mode = Mode.read p.mode
  waits : Waits p.wait procedure.wait
  suits : Suits known p.data procedure.data (Mode.read p.mode)
  ignoreFailure_eq : procedure.ignoreFailure = p.ignoreFailure

/-- All that the draft gives makes sense. -/
structure Sensible (known : String → Bool) (p : ProcedureDraft) : Prop where
  inked : ∀ id, p.id = some id → Text.allBlank id = false
  wait : ∃ wait, Waits p.wait wait
  data : ∃ data, Suits known p.data data (Mode.read p.mode)

variable {p : ProcedureDraft}

theorem resolveId_eq_ok_iff {id : String} : p.resolveId command index = .ok id ↔
    (∀ id, p.id = some id → Text.allBlank id = false) ∧ p.idAt command index = id := by
  unfold resolveId idAt
  cases p.id with
  | none => simp
  | some own => cases blank : Text.allBlank own <;> simp [blank]

theorem resolveWait_eq_ok_iff {id : String} {value : Option Toml.Value} {wait : Wait} :
    resolveWait id value = .ok wait ↔ Waits value wait := by
  constructor
  · intro h
    unfold resolveWait at h
    split at h
    · cases h
      exact .unsaid
    · cases h
      exact .said _
    · rename_i i
      split at h
      · rename_i positive
        cases h
        obtain ⟨n, rfl⟩ := Int.eq_ofNat_of_zero_le positive
        exact .delayed n
      · cases h
    · cases h
  · intro h
    cases h with
    | unsaid | said => rfl
    | delayed seconds => simp [resolveWait]

theorem textList?_cons (item : Toml.Value) (items : List Toml.Value) :
    textList? (.array (item :: items)) =
      match item with
      | .text s => (textList? (.array items)).map (s :: ·)
      | _ => none := by
  cases item with
  | text s =>
    simp only [textList?, List.mapM_cons]
    exact Option.map_eq_bind.symm
  | _ => rfl

theorem textList?_eq_some_iff {value : Toml.Value} {words : List String} :
    textList? value = some words ↔ value = .array (words.map .text) := by
  cases value with
  | array items =>
    rw [Toml.Value.array.injEq]
    induction items generalizing words with
    | nil => cases words <;> simp [textList?]
    | cons item items ih =>
      rw [textList?_cons]
      cases item with
      | text s =>
        rw [Option.map_eq_some_iff]
        cases words with
        | nil => simp
        | cons word words =>
          simp only [ih, List.cons.injEq, List.map_cons, Toml.Value.text.injEq]
          exact ⟨fun ⟨_, listed, head, tail⟩ => ⟨head, tail ▸ listed⟩,
            fun ⟨head, listed⟩ => ⟨words, listed, head, rfl⟩⟩
      | _ => cases words <;> simp
  | _ => simp [textList?]

theorem argv?_eq_some_iff {value : Option Toml.Value} {words : List String} :
    value.bind argv? = some words ↔ Starts value words := by
  rw [Option.bind_eq_some_iff]
  constructor
  · rintro ⟨v, rfl, read⟩
    unfold argv? at read
    split at read
    · split at read
      · cases read
      · rename_i inked
        cases read
        exact .line (Bool.not_eq_true _ ▸ inked)
    · obtain ⟨words', listed, read⟩ := Option.bind_eq_some_iff.1 read
      split at read
      · cases read
      · rename_i given
        cases read
        rw [textList?_eq_some_iff.1 listed]
        exact .argv given
  · intro starts
    cases starts with
    | line inked => exact ⟨_, rfl, by simp [argv?, inked]⟩
    | argv given => exact ⟨_, rfl, by simp [argv?, textList?_eq_some_iff.2 rfl, given]⟩

theorem checkTarget_command {id target : String} :
    checkTarget known id (.command target) = .ok () ↔ known target = true := by
  cases h : known target <;> simp [checkTarget, h]

/-- Data are found for the values that suit the mode, and a target among the known commands. -/
theorem resolveData_eq_ok_iff {id : String} {mode : Mode} {value : Option Toml.Value} {data : Data} :
    resolveData id mode value = .ok data ∧ checkTarget known id data = .ok () ↔
      Suits known value data mode := by
  unfold resolveData
  cases mode with
  | exec | execTty =>
    simp only [Suits, ← argv?_eq_some_iff]
    cases value.bind argv? with
    | none => simp
    | some words =>
      simp only [Except.ok.injEq, Option.some.injEq, exists_eq_left']
      exact ⟨fun h => h.1.symm, fun h => ⟨h.symm, h ▸ rfl⟩⟩
  | stdin =>
    constructor
    · rintro ⟨h, -⟩
      dsimp only at h
      split at h
      · rename_i target input read
        cases h
        obtain ⟨v, rfl, listed⟩ := Option.bind_eq_some_iff.1 read
        rw [textList?_eq_some_iff.1 listed]
        exact ⟨target, input, rfl, rfl⟩
      · cases h
    · rintro ⟨target, input, rfl, rfl⟩
      exact ⟨rfl, rfl⟩
  | plugin name =>
    exact ⟨fun h => (Except.ok.inj h.1).symm, fun h => ⟨congrArg _ h.symm, h ▸ rfl⟩⟩
  | command =>
    constructor
    · rintro ⟨h, there⟩
      dsimp only at h
      split at h
      · rename_i target
        cases h
        exact ⟨target, rfl, checkTarget_command.1 there, rfl⟩
      · cases h
    · rintro ⟨target, rfl, there, rfl⟩
      exact ⟨rfl, checkTarget_command.2 there⟩
  | unsupported text =>
    exact ⟨fun h => (Except.ok.inj h.1).symm, fun h => ⟨congrArg _ h.symm, h ▸ rfl⟩⟩

/-- **A draft of a procedure becomes the procedure that it describes.** -/
theorem resolve_eq_ok_iff {procedure : Procedure} :
    p.resolve known command index = .ok procedure ↔ p.Resolves known command index procedure := by
  simp only [resolve, bind_eq_ok_iff, pure, Except.pure, Except.ok.injEq]
  constructor
  · rintro ⟨id, hid, wait, hw, data, hd, _, ht, rfl⟩
    obtain ⟨inked, same⟩ := resolveId_eq_ok_iff.1 hid
    exact ⟨inked, same.symm, rfl, resolveWait_eq_ok_iff.1 hw, resolveData_eq_ok_iff.1 ⟨hd, ht⟩, rfl⟩
  · intro h
    have hid := resolveId_eq_ok_iff.2 ⟨h.inked, h.id_eq.symm⟩
    have hw : resolveWait procedure.id p.wait = .ok procedure.wait := resolveWait_eq_ok_iff.2 h.waits
    have data : resolveData procedure.id (Mode.read p.mode) p.data = .ok procedure.data ∧
      checkTarget known procedure.id procedure.data = .ok () := resolveData_eq_ok_iff.2 h.suits
    obtain ⟨hd, ht⟩ := data
    refine ⟨_, hid, _, hw, _, hd, (), ht, ?_⟩
    rw [← h.mode_eq, ← h.ignoreFailure_eq]

theorem exists_resolves_iff : (∃ procedure, p.Resolves known command index procedure) ↔
    p.Sensible known := by
  constructor
  · rintro ⟨procedure, h⟩
    exact ⟨h.inked, ⟨_, h.waits⟩, ⟨_, h.suits⟩⟩
  · rintro ⟨inked, ⟨wait, waits⟩, data, suits⟩
    exact ⟨⟨_, _, data, wait, _⟩, inked, rfl, rfl, waits, suits, rfl⟩

end ProcedureDraft

/-! ## Procedures of a command -/

/-- Each procedure is the one that its draft describes, in its place. -/
def Procedures (known : String → Bool) (command : String) (index : Nat)
    (drafts : List ProcedureDraft) (procedures : List Procedure) : Prop :=
  List.Forall₂ (fun e procedure => e.1.Resolves known command e.2 procedure) (drafts.zipIdx index)
    procedures

variable {drafts : List ProcedureDraft} {procedures : List Procedure}

theorem resolveProcedures_eq_ok_iff :
    resolveProcedures known command index drafts = .ok procedures ↔
      Procedures known command index drafts procedures := by
  induction drafts generalizing index procedures with
  | nil =>
    rw [resolveProcedures, Procedures, List.zipIdx_nil, List.forall₂_nil_left_iff, Except.ok.injEq,
      eq_comm]
  | cons p rest ih =>
    rw [Procedures, List.zipIdx_cons, List.forall₂_cons_left_iff]
    simp only [resolveProcedures, bind_eq_ok_iff, pure, Except.pure, Except.ok.injEq]
    constructor
    · rintro ⟨procedure, hp, rest', hr, rfl⟩
      exact ⟨_, _, ProcedureDraft.resolve_eq_ok_iff.1 hp, ih.1 hr, rfl⟩
    · rintro ⟨procedure, rest', hp, hr, rfl⟩
      exact ⟨_, ProcedureDraft.resolve_eq_ok_iff.2 hp, _, ih.2 hr, rfl⟩

theorem exists_procedures_iff : (∃ procedures, Procedures known command index drafts procedures) ↔
    ∀ p ∈ drafts, p.Sensible known := by
  induction drafts generalizing index with
  | nil => exact ⟨fun _ _ mem => absurd mem List.not_mem_nil, fun _ => ⟨[], .nil⟩⟩
  | cons p rest ih =>
    have here : (∃ procedure, p.Resolves known command index procedure) ↔ p.Sensible known :=
      ProcedureDraft.exists_resolves_iff
    have there : (∃ procedures, Procedures known command (index + 1) rest procedures) ↔
      ∀ p ∈ rest, p.Sensible known := ih
    rw [List.forall_mem_cons, ← here, ← there]
    constructor
    · rintro ⟨procedures, h⟩
      obtain ⟨procedure, rest', hp, hr, -⟩ := List.forall₂_cons_left_iff.1 h
      exact ⟨⟨_, hp⟩, _, hr⟩
    · rintro ⟨⟨procedure, hp⟩, rest', hr⟩
      exact ⟨_, .cons hp hr⟩

namespace CommandDraft

/-- The identifiers of the procedures, in order. -/
def ids (c : CommandDraft) (name : String) : List String :=
  c.procedures.zipIdx.map fun e => e.1.idAt name e.2

/-- The command that a draft of it describes. -/
structure Resolves (known : String → Bool) (name : String) (c : CommandDraft) (command : Command) :
    Prop where
  name_eq : command.name = name
  policy_eq : command.policy = c.policy
  needs_eq : command.needs = c.needs
  procedures : Procedures known name 0 c.procedures command.procedures

variable {c : CommandDraft} {name : String} {cmd : Command}

theorem resolve_eq_ok_iff : c.resolve known name = .ok cmd ↔ c.Resolves known name cmd := by
  simp only [resolve, bind_eq_ok_iff, pure, Except.pure, Except.ok.injEq]
  constructor
  · rintro ⟨procedures, hp, rfl⟩
    exact ⟨rfl, rfl, rfl, resolveProcedures_eq_ok_iff.1 hp⟩
  · rintro ⟨rfl, policy, needs, procedures⟩
    refine ⟨_, resolveProcedures_eq_ok_iff.2 procedures, ?_⟩
    rw [← policy, ← needs]

theorem exists_resolves_iff : (∃ cmd, c.Resolves known name cmd) ↔
    ∀ p ∈ c.procedures, p.Sensible known := by
  have inside : (∃ procedures, Procedures known name 0 c.procedures procedures) ↔
    ∀ p ∈ c.procedures, p.Sensible known := exists_procedures_iff
  rw [← inside]
  exact ⟨fun ⟨_, h⟩ => ⟨_, h.procedures⟩, fun ⟨_, h⟩ => ⟨⟨_, _, _, _⟩, rfl, rfl, rfl, h⟩⟩

theorem Resolves.ids (h : c.Resolves known name cmd) :
    cmd.procedures.map Procedure.id = c.ids name := by
  have same : List.Forall₂ (fun e procedure => e = procedure) (c.ids name)
      (cmd.procedures.map Procedure.id) := by
    rw [CommandDraft.ids, List.forall₂_map_left_iff, List.forall₂_map_right_iff]
    exact h.procedures.imp fun _ _ resolves => resolves.id_eq.symm
  exact (List.forall₂_eq_eq_eq ▸ same : _ = _).symm

end CommandDraft

/-! ## Commands of a manifest -/

/-- Identifiers that differ from each other and from those seen before. -/
def Fresh (seen ids : List String) : Prop := ids.Nodup ∧ ∀ id ∈ ids, id ∉ seen

theorem fresh_append {seen ids more : List String} :
    Fresh seen (ids ++ more) ↔ Fresh seen ids ∧ Fresh (ids.reverse ++ seen) more := by
  simp only [Fresh, List.nodup_append, List.mem_append, List.mem_reverse]
  constructor
  · rintro ⟨⟨here, there, apart⟩, new⟩
    exact ⟨⟨here, fun id mem => new id (.inl mem)⟩, there, fun id mem old =>
      old.elim (fun before => apart id before id mem rfl) (new id (.inr mem))⟩
  · rintro ⟨⟨here, new⟩, there, later⟩
    refine ⟨⟨here, there, fun id before id' mem same => later id' mem (.inl (same ▸ before))⟩, ?_⟩
    exact fun id mem => mem.elim (new id) fun mem old => later id mem (.inr old)

theorem joinIds_eq_ok_iff {seen seen' : List String} : joinIds seen procedures = .ok seen' ↔
    seen' = (procedures.map Procedure.id).reverse ++ seen ∧
      Fresh seen (procedures.map Procedure.id) := by
  induction procedures generalizing seen with
  | nil => simp [joinIds, Fresh, eq_comm]
  | cons p rest ih =>
    unfold joinIds
    split
    · rename_i old
      constructor
      · intro h
        cases h
      · intro h
        exact absurd old (h.2.2 p.id List.mem_cons_self)
    · rename_i new
      have head : Fresh seen [p.id] := by simpa [Fresh] using new
      have split : Fresh seen ([p.id] ++ rest.map Procedure.id) ↔
        Fresh seen [p.id] ∧ Fresh ([p.id].reverse ++ seen) (rest.map Procedure.id) := fresh_append
      rw [ih, List.map_cons, List.reverse_cons, List.append_assoc]
      exact and_congr_right fun _ => ⟨fun later => split.2 ⟨head, later⟩, fun all => (split.1 all).2⟩

/-- **Commands are resolved together just when each of them is and all identifiers differ.** -/
theorem resolveCommands_eq_ok_iff {seen : List String} {l : List (String × CommandDraft)}
    {commands : List (String × Command)} :
    resolveCommands known seen l = .ok commands ↔
      List.Forall₂ (fun e e' => e'.1 = e.1 ∧ e.2.Resolves known e.1 e'.2) l commands ∧
        Fresh seen (l.flatMap fun e => e.2.ids e.1) := by
  induction l generalizing seen commands with
  | nil =>
    rw [resolveCommands, List.forall₂_nil_left_iff, Except.ok.injEq, eq_comm]
    exact ⟨fun same => ⟨same, List.nodup_nil, fun _ mem => absurd mem List.not_mem_nil⟩, And.left⟩
  | cons e rest ih =>
    obtain ⟨name, draft⟩ := e
    rw [List.forall₂_cons_left_iff, List.flatMap_cons, fresh_append]
    simp only [resolveCommands, bind_eq_ok_iff, pure, Except.pure, Except.ok.injEq]
    constructor
    · rintro ⟨cmd, hc, seen', hj, rest', hr, rfl⟩
      have resolves := CommandDraft.resolve_eq_ok_iff.1 hc
      obtain ⟨rfl, fresh⟩ := joinIds_eq_ok_iff.1 hj
      obtain ⟨others, later⟩ := ih.1 hr
      rw [resolves.ids] at fresh later
      exact ⟨⟨_, _, ⟨rfl, resolves⟩, others, rfl⟩, fresh, later⟩
    · rintro ⟨⟨⟨name', cmd⟩, rest', ⟨rfl, resolves⟩, others, rfl⟩, fresh, later⟩
      rw [← resolves.ids] at fresh later
      exact ⟨_, CommandDraft.resolve_eq_ok_iff.2 resolves, _, joinIds_eq_ok_iff.2 ⟨rfl, fresh⟩, _,
        ih.2 ⟨others, later⟩, rfl⟩

end Supervisor.Manifest
