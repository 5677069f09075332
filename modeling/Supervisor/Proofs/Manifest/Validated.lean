import Mathlib.Data.List.Nodup
import Mathlib.Data.List.Pairwise
import Mathlib.Logic.Relation
import Supervisor.Proofs.Manifest.Cycle
import Supervisor.Proofs.Manifest.Drafts

/-!
# Manifests that come from drafts

What the queue may rely on once a draft has been resolved: its commands go by their names, what they
need is known, and needs have no cycle, shown by a rank that falls from each command to what it needs.
-/

namespace Supervisor.Manifest

/-- The one command needs the other. -/
def Requires (m : Manifest) (name need : String) : Prop :=
  ∃ command, m.get? name = some command ∧ need ∈ command.needs

/-- The manifest has been resolved from a draft. -/
def Validated (m : Manifest) : Prop := ∃ d : Draft, d.resolve = .ok m

structure WellFormed (m : Manifest) : Prop where
  named : m.Named
  known : ∀ {name need}, m.Requires name need → ∃ command, m.get? need = some command
  ranked : ∃ rank : String → Nat, ∀ {name need}, m.Requires name need → rank need < rank name

/-- What needs lead to, at whatever distance, is another command. -/
theorem WellFormed.other {m : Manifest} (wf : m.WellFormed) {name need : String}
    (h : Relation.TransGen m.Requires name need) : need ≠ name := by
  obtain ⟨rank, falls⟩ := wf.ranked
  have lower := Needs.rank_falls rank falls h
  rintro rfl
  exact Nat.lt_irrefl _ lower

/-! ## Resolving, read backwards -/

/-- A draft is resolved when none of the checks of the whole finds a fault and its commands are
resolved together. -/
theorem Draft.resolve_eq_ok_iff {d : Draft} {m : Manifest} : d.resolve = .ok m ↔
    d.checkHeader = .ok () ∧ d.needsFault? = none ∧ d.needs.misplaced? = none ∧
      ∃ commands, resolveCommands d.known [] d.commands.toList = .ok commands ∧
        m = ⟨d.name, d.version, d.init, .ofList commands⟩ := by
  have checked : ∀ {α : Type} {result : Except ManifestFault α} {a : α},
      result.mapError Fault.manifest = .ok a ↔ result = .ok a := by
    intro α result a
    cases result <;> simp [Except.mapError]
  have thrown : ∀ {α : Type} {cause : Fault} {next : α → Except Fault Manifest},
      (throw cause : Except Fault α) >>= next ≠ .ok m := fun h => by cases h
  unfold Draft.resolve
  cases d.needsFault? with
  | some cause => simp [bind_eq_ok_iff, thrown]
  | none =>
    cases d.needs.misplaced? with
    | some name => simp [bind_eq_ok_iff, thrown]
    | none =>
      simp only [bind_eq_ok_iff, checked, pure, Except.pure, Except.ok.injEq, true_and]
      constructor
      · rintro ⟨_, header, commands, resolved, rfl⟩
        exact ⟨header, commands, resolved, rfl⟩
      · rintro ⟨header, commands, resolved, rfl⟩
        exact ⟨(), header, commands, resolved, rfl⟩

/-! ## Commands and their drafts -/

section Commands

variable {known : String → Bool} {l : List (String × CommandDraft)}
  {commands : List (String × Command)}

theorem map_fst_of_resolves
    (h : List.Forall₂ (fun e e' => e'.1 = e.1 ∧ e.2.Resolves known e.1 e'.2) l commands) :
    commands.map Prod.fst = l.map Prod.fst := by
  induction h with
  | nil => rfl
  | cons head _ ih => rw [List.map_cons, List.map_cons, head.1, ih]

theorem ordered_of_resolves
    (h : List.Forall₂ (fun e e' => e'.1 = e.1 ∧ e.2.Resolves known e.1 e'.2) l commands)
    (ordered : l.Pairwise (fun a b => a.1 < b.1)) : commands.Pairwise (fun a b => a.1 < b.1) := by
  have keys := List.pairwise_map.2 ordered
  rw [← map_fst_of_resolves h] at keys
  exact List.pairwise_map.1 keys

theorem ids_of_resolves
    (h : List.Forall₂ (fun e e' => e'.1 = e.1 ∧ e.2.Resolves known e.1 e'.2) l commands) :
    commands.flatMap (fun e => e.2.procedures.map Procedure.id) = l.flatMap fun e => e.2.ids e.1 := by
  induction h with
  | nil => rfl
  | cons head _ ih => rw [List.flatMap_cons, List.flatMap_cons, ih, head.2.ids]

/-- A command is looked up where its draft is. -/
theorem lookup_of_resolves
    (h : List.Forall₂ (fun e e' => e'.1 = e.1 ∧ e.2.Resolves known e.1 e'.2) l commands)
    (name : String) :
    Option.Rel (fun c command => c.Resolves known name command) (NameMap.lookup name l)
      (NameMap.lookup name commands) := by
  induction h with
  | nil => exact .none
  | @cons e e' _ _ head _ ih =>
    by_cases hn : name = e.1
    · subst hn
      simp only [NameMap.lookup, head.1, if_true]
      exact .some head.2
    · simp only [NameMap.lookup, head.1, hn, if_false]
      exact ih

end Commands

/-- The commands of a manifest are those that its draft describes. -/
theorem get?_of_resolve {d : Draft} {m : Manifest} (h : d.resolve = .ok m) (name : String) :
    Option.Rel (fun c command => c.Resolves d.known name command) (d.commands.get? name)
      (m.get? name) := by
  obtain ⟨-, -, -, commands, resolved, rfl⟩ := Draft.resolve_eq_ok_iff.1 h
  have resolves := (resolveCommands_eq_ok_iff.1 resolved).1
  rw [get?, NameMap.ofList_ordered (ordered_of_resolves resolves d.commands.ordered)]
  exact lookup_of_resolves resolves name

/-- What a command has, its draft has, and the other way round. -/
theorem resolves_of_get? {d : Draft} {m : Manifest} (h : d.resolve = .ok m) {name : String}
    {command : Command} (hc : m.get? name = some command) :
    ∃ c, d.commands.get? name = some c ∧ c.Resolves d.known name command := by
  have rel := get?_of_resolve h name
  rw [hc] at rel
  cases hd : d.commands.get? name with
  | none => rw [hd] at rel; cases rel
  | some c =>
    rw [hd] at rel
    cases rel with
    | some resolves => exact ⟨c, rfl, resolves⟩

theorem get?_of_known {d : Draft} {m : Manifest} (h : d.resolve = .ok m) {name : String}
    (known : d.known name = true) : ∃ command, m.get? name = some command := by
  obtain ⟨c, hc⟩ := (NameMap.contains_iff _).1 known
  have rel := get?_of_resolve h name
  rw [hc] at rel
  cases hm : m.get? name with
  | none => rw [hm] at rel; cases rel
  | some command => exact ⟨command, rfl⟩

/-! ## Needs -/

/-- The draft of the one command needs the other. -/
def Draft.Requires (d : Draft) (name need : String) : Prop :=
  ∃ c, d.commands.get? name = some c ∧ need ∈ c.needs

theorem Draft.mem_names {d : Draft} {name : String} : name ∈ d.needs.names ↔ d.known name = true :=
  NameMap.mem_keys_iff _

theorem Draft.requires_needs {d : Draft} {name need : String} :
    d.needs.Requires name need ↔ d.Requires name need := by
  rw [Needs.Requires, Draft.mem_names, Draft.known, NameMap.contains_iff, Draft.needs]
  cases hc : d.commands.get? name with
  | none => simp [Draft.Requires, hc]
  | some c => simp [Draft.Requires, hc]

theorem needFault?_eq_none_iff {d : Draft} {command need : String} :
    d.needFault? command need = none ↔ need ≠ command ∧ d.known need = true := by
  unfold Draft.needFault?
  by_cases same : need = command
  · simp [same]
  · cases d.known need <;> simp [same]

/-- No need is at fault when all needs are other commands. -/
theorem needsFault?_eq_none_iff {d : Draft} : d.needsFault? = none ↔
    ∀ name need, d.Requires name need → need ≠ name ∧ d.known need = true := by
  simp only [Draft.needsFault?, List.findSome?_eq_none_iff, needFault?_eq_none_iff]
  constructor
  · rintro h name need ⟨c, hc, mem⟩
    exact h (name, c) ((NameMap.get?_eq_some_iff _).1 hc) need mem
  · rintro h ⟨name, c⟩ hc need mem
    exact h name need ⟨c, (NameMap.get?_eq_some_iff _).2 hc, mem⟩

theorem Validated.wellFormed {m : Manifest} (h : m.Validated) : m.WellFormed := by
  obtain ⟨d, resolved⟩ := h
  obtain ⟨-, faultless, placed, -⟩ := Draft.resolve_eq_ok_iff.1 resolved
  have proper := needsFault?_eq_none_iff.1 faultless
  have drafted : ∀ {name need}, m.Requires name need → d.Requires name need := by
    rintro name need ⟨command, hc, hn⟩
    obtain ⟨c, hd, resolves⟩ := resolves_of_get? resolved hc
    exact ⟨c, hd, resolves.needs_eq ▸ hn⟩
  refine ⟨fun name command hc => ?_, fun h => ?_, d.needs.arranged.idxOf, fun h => ?_⟩
  · obtain ⟨c, -, resolves⟩ := resolves_of_get? resolved hc
    exact resolves.name_eq
  · exact get?_of_known resolved (proper _ _ (drafted h)).2
  · have needs := Draft.requires_needs.2 (drafted h)
    obtain ⟨other, known⟩ := proper _ _ (drafted h)
    exact Needs.arranged_rank placed needs.1 needs.2 (Draft.mem_names.2 known) other

/-! ## Procedures -/

theorem Procedures.suits {known : String → Bool} {command : String} {index : Nat}
    {drafts : List ProcedureDraft} {procedures : List Procedure}
    (h : Procedures known command index drafts procedures) {p : Procedure} (mem : p ∈ procedures) :
    ∃ value, ProcedureDraft.Suits known value p.data p.mode := by
  obtain ⟨i, lt, rfl⟩ := List.mem_iff_getElem.1 mem
  have resolves := List.forall₂_iff_get.1 h
  have here := resolves.2 i (resolves.1 ▸ lt) lt
  rw [List.get_eq_getElem, List.get_eq_getElem] at here
  have suits := here.suits
  rw [← here.mode_eq] at suits
  exact ⟨_, suits⟩

/-- The data of a procedure suit its mode, and a command that it hands over to is known. -/
theorem Validated.suits {m : Manifest} (h : m.Validated) {name : String} {command : Command}
    (hc : m.get? name = some command) {p : Procedure} (mem : p ∈ command.procedures) :
    ∃ value, ProcedureDraft.Suits (fun target => (m.get? target).isSome) value p.data p.mode := by
  obtain ⟨d, resolved⟩ := h
  obtain ⟨c, -, resolves⟩ := resolves_of_get? resolved hc
  obtain ⟨value, suits⟩ := resolves.procedures.suits mem
  refine ⟨value, ?_⟩
  cases mode : p.mode with
  | command =>
    rw [mode] at suits
    obtain ⟨target, given, known, data⟩ := suits
    exact ⟨target, given, Option.isSome_iff_exists.2 (get?_of_known resolved known), data⟩
  | exec | execTty | stdin | plugin | unsupported =>
    rw [mode] at suits
    exact suits

/-! ## Identifiers -/

/-- The procedure is one of the manifest's. -/
def Holds (m : Manifest) (p : Procedure) : Prop :=
  ∃ name command, m.get? name = some command ∧ p ∈ command.procedures

/-- The identifiers of all procedures, command by command. -/
def ids (m : Manifest) : List String :=
  m.commands.toList.flatMap fun e => e.2.procedures.map Procedure.id

/-- Identifiers are unique over all commands, whether they were given or not. -/
theorem Validated.ids_nodup {m : Manifest} (h : m.Validated) : m.ids.Nodup := by
  obtain ⟨d, resolved⟩ := h
  obtain ⟨-, -, -, commands, together, rfl⟩ := Draft.resolve_eq_ok_iff.1 resolved
  obtain ⟨resolves, fresh⟩ := resolveCommands_eq_ok_iff.1 together
  rw [ids, NameMap.ofList_ordered (ordered_of_resolves resolves d.commands.ordered)]
  exact ids_of_resolves resolves ▸ fresh.1

/-- A procedure is found by its identifier, and so is its command. -/
theorem Validated.unique {m : Manifest} (h : m.Validated) {name name' : String}
    {command command' : Command} (hc : m.get? name = some command) (hc' : m.get? name' = some command')
    {p p' : Procedure} (mem : p ∈ command.procedures) (mem' : p' ∈ command'.procedures)
    (same : p.id = p'.id) : name = name' ∧ p = p' := by
  obtain ⟨within, across⟩ := List.nodup_flatMap.1 h.ids_nodup
  have here : (name, command) ∈ m.commands.toList := (NameMap.get?_eq_some_iff _).1 hc
  have there : (name', command') ∈ m.commands.toList := (NameMap.get?_eq_some_iff _).1 hc'
  by_cases names : name = name'
  · subst names
    obtain rfl := Option.some.inj (hc.symm.trans hc')
    exact ⟨rfl, List.inj_on_of_nodup_map (within _ here) mem mem' same⟩
  · have symmetric : Std.Symm (Function.onFun List.Disjoint
        fun e : String × Command => e.2.procedures.map Procedure.id) :=
      ⟨fun _ _ apart => List.disjoint_symm apart⟩
    have disjoint := across.forall here there fun entries => names (congrArg Prod.fst entries)
    have shared : p.id ∈ command'.procedures.map Procedure.id :=
      same ▸ List.mem_map_of_mem mem'
    exact absurd shared (disjoint (List.mem_map_of_mem mem))

end Supervisor.Manifest
