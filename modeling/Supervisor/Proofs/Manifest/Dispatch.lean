import Supervisor.Host
import Supervisor.Proofs.Manifest.Validated

/-!
# Procedures that can be carried out

The data that a draft may give for a mode are the data with which a procedure of that mode is carried
out. So a procedure of a resolved manifest that is carried out at all comes to a program with
arguments, an input, a call or an unsupported mode, and to no other refusal; where it is over with a
fault as soon as it begins, the fault is the host's or tells of the mode.
-/

namespace Supervisor

/-- What the procedure comes to is what its mode says, and a program that it runs has a name. -/
def Procedure.Dispatchable (p : Procedure) : Prop :=
  match p.action with
  | .run request => request.name = p.id ∧ request.argv ≠ []
  | .write .. => p.mode = .stdin
  | .plugin name _ => p.mode = .plugin name
  | .refuse fault => ∃ text, p.mode = .unsupported text ∧ fault = .unsupportedMode text

/-! ## Data that suit a mode -/

namespace Manifest

variable {known : String → Bool} {value : Option Toml.Value} {p : Procedure}

theorem ProcedureDraft.Starts.given {words : List String} (starts : Starts value words) :
    words ≠ [] := by
  cases starts with
  | line => exact List.cons_ne_nil _ _
  | argv given => exact given

theorem ProcedureDraft.dispatchable_of_suits (suits : Suits known value p.data p.mode)
    (mode : p.mode ≠ .command) : p.Dispatchable := by
  obtain ⟨id, kind, data, wait, ignored⟩ := p
  cases kind with
  | exec | execTty =>
    obtain ⟨words, starts, rfl⟩ := suits
    exact ⟨rfl, starts.given⟩
  | stdin =>
    obtain ⟨target, input, -, rfl⟩ := suits
    exact rfl
  | plugin name =>
    obtain rfl : data = _ := suits
    exact rfl
  | command => exact absurd rfl mode
  | unsupported text => exact ⟨text, rfl, rfl⟩

variable {m : Manifest}

theorem Validated.dispatchable (validated : m.Validated) (holds : m.Holds p)
    (mode : p.mode ≠ .command) : p.Dispatchable := by
  obtain ⟨name, command, known, mem⟩ := holds
  obtain ⟨value, suits⟩ := validated.suits known mem
  exact ProcedureDraft.dispatchable_of_suits suits mode

/-- A procedure that hands over has a command to hand over to. -/
theorem Validated.target (validated : m.Validated) (holds : m.Holds p) (mode : p.mode = .command) :
    ∃ target command, Executor.target p = .ok target ∧ m.get? target = some command := by
  obtain ⟨name, command, known, mem⟩ := holds
  obtain ⟨value, suits⟩ := validated.suits known mem
  rw [mode] at suits
  obtain ⟨target, -, found, data⟩ := suits
  obtain ⟨next, there⟩ := Option.isSome_iff_exists.1 found
  refine ⟨target, next, ?_, there⟩
  rw [Executor.target, data]

end Manifest

/-! ## On a host -/

/-- Why a procedure is over with a fault as soon as it begins. -/
inductive Host.Blames {H : Type} [Host H] (h : H) (now : Nat) (p : Procedure) : Fault → Prop
  /-- The host has been given a program, and has not started it. -/
  | start {request : ProcessRequest} {fault : Fault} (runs : p.action = .run request)
      (given : request.argv ≠ []) (answer : (Host.start h now request).2 = .error fault) :
      Blames h now p fault
  | write {target input : String} {fault : Fault} (writes : p.action = .write target input)
      (answer : (Host.write h now target input).2 = .error fault) : Blames h now p fault
  | plugin {name payload : String} {fault : Fault} (calls : p.action = .plugin name payload)
      (answer : (Host.plugin h now name payload).2 = some (.error fault)) : Blames h now p fault
  /-- There is no such plugin. -/
  | absent {name payload : String} (calls : p.action = .plugin name payload)
      (answer : (Host.plugin h now name payload).2 = none) :
      Blames h now p (.unsupportedMode p.mode.text)
  | unsupported {text : String} (mode : p.mode = .unsupported text) :
      Blames h now p (.unsupportedMode text)

theorem Procedure.Dispatchable.blames {H : Type} [Host H] {h h' : H} {now : Nat} {p : Procedure}
    {fault : Fault} (dispatchable : p.Dispatchable)
    (begun : Host.perform h now p = (h', .over (.error fault))) : Host.Blames h now p fault := by
  have result := congrArg Prod.snd begun
  unfold Host.perform at result
  unfold Dispatchable at dispatchable
  cases action : p.action with
  | run request =>
    rw [action] at result dispatchable
    dsimp only at result
    split at result
    · cases result
    · rename_i answer
      cases result
      exact .start action dispatchable.2 (congrArg Prod.snd answer)
  | write target input =>
    rw [action] at result
    exact .write action (map_eq_error (Host.Begun.over.inj result))
  | plugin name payload =>
    rw [action] at result
    dsimp only at result
    split at result
    · rename_i answer
      refine .plugin action ((congrArg Prod.snd answer).trans ?_)
      exact congrArg some (map_eq_error (Host.Begun.over.inj result))
    · rename_i answer
      cases result
      exact .absent action (congrArg Prod.snd answer)
  | refuse cause =>
    rw [action] at result dispatchable
    obtain ⟨text, mode, rfl⟩ := dispatchable
    cases result
    exact .unsupported mode

end Supervisor
