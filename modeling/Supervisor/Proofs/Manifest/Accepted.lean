import Supervisor.Proofs.Manifest.Validated

/-!
# Which drafts are accepted

A draft is resolved just when it has commands and a name, refers to its own commands only, has no cycle
among its needs, and every procedure makes sense and has an identifier of its own. It becomes the one
manifest that it describes. A cycle is reported where all that is checked before it is in order.
-/

namespace Supervisor.Manifest

open Relation (TransGen)

namespace Draft

variable {d : Draft} {m m' : Manifest} {name : String}

/-- What is checked before the needs are arranged: there is a command, the name is not blank, the first
command is there, and all needs are other commands. -/
structure Proper (d : Draft) : Prop where
  nonempty : ∃ name, d.known name = true
  inked : Text.allBlank d.name = false
  init : ∀ init, d.init = some init → d.known init = true
  needs : ∀ name need, d.Requires name need → need ≠ name ∧ d.known need = true

/-- The identifiers of all procedures, command by command. -/
def ids (d : Draft) : List String := d.commands.toList.flatMap fun e => e.2.ids e.1

structure Acceptable (d : Draft) : Prop where
  proper : d.Proper
  acyclic : ∀ name, ¬ TransGen d.Requires name name
  sensible : ∀ name c, d.commands.get? name = some c → ∀ p ∈ c.procedures, p.Sensible d.known
  ids : d.ids.Nodup

/-- The manifest has the draft's name, version and first command, and each command that the draft
describes. -/
structure Describes (d : Draft) (m : Manifest) : Prop where
  name_eq : m.name = d.name
  version_eq : m.version = d.version
  init_eq : m.init = d.init
  commands : ∀ name, Option.Rel (fun c command => c.Resolves d.known name command)
    (d.commands.get? name) (m.commands.get? name)

/-! ## The checks of the whole -/

theorem isEmpty_eq_false_iff : d.commands.isEmpty = false ↔ ∃ name, d.known name = true := by
  have mem : ∀ name, d.known name = true ↔ name ∈ d.commands.keys := fun name =>
    (NameMap.mem_keys_iff _).symm
  simp only [mem, NameMap.keys, NameMap.isEmpty]
  cases d.commands.toList with
  | nil => simp
  | cons e rest => exact ⟨fun _ => ⟨e.1, List.mem_cons_self⟩, fun _ => rfl⟩

theorem proper_iff : d.Proper ↔ d.checkHeader = .ok () ∧ d.needsFault? = none := by
  have header : d.checkHeader = .ok () ↔ d.commands.isEmpty = false ∧ Text.allBlank d.name = false ∧
      ∀ init, d.init = some init → d.known init = true := by
    unfold checkHeader
    cases d.commands.isEmpty with
    | true => simp
    | false =>
      cases Text.allBlank d.name with
      | true => simp
      | false =>
        cases d.init with
        | none => simp
        | some init => cases there : d.known init <;> simp [there]
  rw [header, isEmpty_eq_false_iff, needsFault?_eq_none_iff]
  constructor
  · intro h
    exact ⟨⟨h.nonempty, h.inked, h.init⟩, h.needs⟩
  · rintro ⟨⟨nonempty, inked, init⟩, needs⟩
    exact ⟨nonempty, inked, init, needs⟩

theorem Proper.misplaced_eq_none_iff (proper : d.Proper) :
    d.needs.misplaced? = none ↔ ∀ name, ¬ TransGen d.Requires name name := by
  have same : d.needs.Requires = d.Requires := by
    funext name need
    exact propext requires_needs
  rw [← same]
  refine Needs.misplaced_eq_none_iff fun {name need} needs => ?_
  obtain ⟨other, known⟩ := proper.needs name need (requires_needs.1 needs)
  exact ⟨other, mem_names.2 known⟩

/-! ## The outcome -/

theorem exists_commands {known : String → Bool} {l : List (String × CommandDraft)}
    (h : ∀ e ∈ l, ∃ command, e.2.Resolves known e.1 command) :
    ∃ commands : List (String × Command),
      List.Forall₂ (fun e e' => e'.1 = e.1 ∧ e.2.Resolves known e.1 e'.2) l commands := by
  induction l with
  | nil => exact ⟨[], .nil⟩
  | cons e rest ih =>
    obtain ⟨command, resolves⟩ := h e List.mem_cons_self
    obtain ⟨commands, others⟩ := ih fun e' mem => h e' (List.mem_cons_of_mem _ mem)
    exact ⟨(e.1, command) :: commands, .cons ⟨rfl, resolves⟩ others⟩

theorem Acceptable.resolves (h : d.Acceptable) : ∃ m, d.resolve = .ok m := by
  have each : ∀ e ∈ d.commands.toList, ∃ command, e.2.Resolves d.known e.1 command := by
    intro e mem
    refine CommandDraft.exists_resolves_iff.2 (h.sensible e.1 e.2 ?_)
    exact (NameMap.get?_eq_some_iff _).2 mem
  obtain ⟨commands, resolves⟩ := exists_commands each
  have fresh : Fresh [] d.ids := ⟨h.ids, fun _ _ => List.not_mem_nil⟩
  obtain ⟨header, faultless⟩ := proper_iff.1 h.proper
  exact ⟨_, resolve_eq_ok_iff.2 ⟨header, faultless, h.proper.misplaced_eq_none_iff.2 h.acyclic, commands,
    resolveCommands_eq_ok_iff.2 ⟨resolves, fresh⟩, rfl⟩⟩

theorem acceptable_of_resolve (h : d.resolve = .ok m) : d.Acceptable := by
  obtain ⟨header, faultless, placed, commands, resolved, -⟩ := resolve_eq_ok_iff.1 h
  have proper := proper_iff.2 ⟨header, faultless⟩
  refine ⟨proper, proper.misplaced_eq_none_iff.1 placed, fun name c hc => ?_,
    (resolveCommands_eq_ok_iff.1 resolved).2.1⟩
  obtain ⟨command, hm⟩ := get?_of_known h ((NameMap.contains_iff _).2 ⟨c, hc⟩)
  obtain ⟨c', hc', resolves⟩ := resolves_of_get? h hm
  obtain rfl := Option.some.inj (hc'.symm.trans hc)
  exact CommandDraft.exists_resolves_iff.1 ⟨command, resolves⟩

theorem describes_of_resolve (h : d.resolve = .ok m) : d.Describes m := by
  have commands := get?_of_resolve h
  obtain ⟨-, -, -, _, -, rfl⟩ := resolve_eq_ok_iff.1 h
  exact ⟨rfl, rfl, rfl, commands⟩

/-- A draft describes one manifest only. -/
theorem Describes.unique (h : d.Describes m) (h' : d.Describes m') : m = m' := by
  have commands : m.commands = m'.commands := by
    refine NameMap.ext fun name => ?_
    have rel := h.commands name
    have rel' := h'.commands name
    generalize d.commands.get? name = c at rel rel'
    generalize m.commands.get? name = command at rel ⊢
    generalize m'.commands.get? name = command' at rel' ⊢
    cases rel with
    | none =>
      cases rel'
      rfl
    | some resolves =>
      cases rel' with
      | some resolves' =>
        have same := (CommandDraft.resolve_eq_ok_iff.2 resolves).symm.trans
          (CommandDraft.resolve_eq_ok_iff.2 resolves')
        rw [Except.ok.inj same]
  rw [Manifest.mk.injEq]
  exact ⟨h.name_eq.trans h'.name_eq.symm, h.version_eq.trans h'.version_eq.symm,
    h.init_eq.trans h'.init_eq.symm, commands⟩

/-- A cycle is reported where all that is checked before is in order. -/
theorem resolve_eq_cycle_iff :
    d.resolve = .error (.cycle name) ↔ d.Proper ∧ d.needs.misplaced? = some name := by
  rw [proper_iff]
  unfold resolve
  cases d.checkHeader with
  | error cause => simp [bind, Except.bind, Except.mapError]
  | ok =>
    cases d.needsFault? with
    | some cause => simp [bind, Except.bind, Except.mapError, throw, throwThe, MonadExceptOf.throw]
    | none =>
      cases d.needs.misplaced? with
      | some found => simp [bind, Except.bind, Except.mapError, throw, throwThe, MonadExceptOf.throw]
      | none =>
        cases resolveCommands d.known [] d.commands.toList with
        | error cause => simp [bind, Except.bind, Except.mapError]
        | ok commands => simp [bind, Except.bind, Except.mapError, pure, Except.pure]

end Draft

/-- The command that a manifest begins with is there. -/
theorem Validated.init_known {m : Manifest} {name : String} (h : m.Validated)
    (first : m.init = some name) : ∃ command, m.get? name = some command := by
  obtain ⟨d, resolved⟩ := h
  have describes := Draft.describes_of_resolve resolved
  have acceptable := Draft.acceptable_of_resolve resolved
  rw [describes.init_eq] at first
  exact get?_of_known resolved (acceptable.proper.init name first)

end Supervisor.Manifest
