import Supervisor.Disk
import Supervisor.Manifest.Draft
import Supervisor.Manifest.Order
import Supervisor.Toml.Printer

/-!
# Resolving a draft

A draft becomes a manifest when its names refer to commands, its needs have no cycle, and every
procedure has data that fits its mode, a wait that makes sense and an identifier of its own. The
first fault found is reported; the checks of the whole come before those of the procedures.
-/

namespace Supervisor.Manifest

/-- The texts of an array that holds nothing else. -/
def textList? : Toml.Value → Option (List String)
  | .array items => items.mapM fun
    | .text s => some s
    | _ => none
  | _ => none

namespace ProcedureDraft

/-- The given identifier, which must not be blank, or the default one. -/
def resolveId (p : ProcedureDraft) (command : String) (index : Nat) : Except ManifestFault String :=
  match p.id with
  | none => .ok (Procedure.defaultId command index)
  | some id => if Text.allBlank id then .error (.blankId index command) else .ok id

def resolveWait (id : String) : Option Toml.Value → Except ManifestFault Wait
  | none => .ok .unsaid
  | some (.boolean b) => .ok (.said b)
  | some (.integer i) =>
    if 0 ≤ i then .ok (.delayed i.toNat) else .error (.badWait id (Toml.Value.integer i).display)
  | some v => .error (.badWait id v.display)

/-- A line for the shell, or a program with its arguments. -/
def argv? : Toml.Value → Option (List String)
  | .text line => if Text.allBlank line then none else some ["sh", "-c", line]
  | v => (textList? v).bind fun words => if words = [] then none else some words

def payload : Option Toml.Value → String
  | none => ""
  | some (.text s) => s
  | some v => v.display

def resolveData (id : String) (mode : Mode) (value : Option Toml.Value) : Except ManifestFault Data :=
  match mode with
  | .exec | .execTty =>
    match value.bind argv? with
    | some words => .ok (.argv words)
    | none => .error (.badData id mode "a non-empty argv list or a shell string")
  | .stdin =>
    match value.bind textList? with
    | some [target, input] => .ok (.stdin target input)
    | _ => .error (.badData id mode "a [process_id, input] pair")
  | .plugin _ => .ok (.payload (payload value))
  | .command =>
    match value with
    | some (.text target) => .ok (.command target)
    | _ => .error (.badData id mode "the name of a command")
  | .unsupported _ => .ok .empty

/-- A command that takes over has to be known. -/
def checkTarget (known : String → Bool) (id : String) : Data → Except ManifestFault Unit
  | .command target => if known target then .ok () else .error (.unknownTarget id target)
  | _ => .ok ()

def resolve (p : ProcedureDraft) (known : String → Bool) (command : String) (index : Nat) :
    Except ManifestFault Procedure := do
  let id ← p.resolveId command index
  let mode := Mode.read p.mode
  let wait ← resolveWait id p.wait
  let data ← resolveData id mode p.data
  checkTarget known id data
  return { id, mode, data, wait, ignoreFailure := p.ignoreFailure }

end ProcedureDraft

/-- The procedures of a command, numbered from `index`. -/
def resolveProcedures (known : String → Bool) (command : String) :
    Nat → List ProcedureDraft → Except ManifestFault (List Procedure)
  | _, [] => .ok []
  | index, p :: rest => do
    let procedure ← p.resolve known command index
    let procedures ← resolveProcedures known command (index + 1) rest
    return procedure :: procedures

def CommandDraft.resolve (c : CommandDraft) (known : String → Bool) (name : String) :
    Except ManifestFault Command := do
  let procedures ← resolveProcedures known name 0 c.procedures
  return { name, policy := c.policy, needs := c.needs, procedures }

/-- Identifiers join those seen before, each of them once. -/
def joinIds : List String → List Procedure → Except ManifestFault (List String)
  | seen, [] => .ok seen
  | seen, p :: rest =>
    if p.id ∈ seen then .error (.repeatedId p.id) else joinIds (p.id :: seen) rest

/-- Resolve commands in order; the identifiers of their procedures differ over all of them. -/
def resolveCommands (known : String → Bool) :
    List String → List (String × CommandDraft) → Except ManifestFault (List (String × Command))
  | _, [] => .ok []
  | seen, (name, draft) :: rest => do
    let command ← draft.resolve known name
    let seen ← joinIds seen command.procedures
    let commands ← resolveCommands known seen rest
    return (name, command) :: commands

namespace Draft

def known (d : Draft) (name : String) : Bool := d.commands.contains name

def checkHeader (d : Draft) : Except ManifestFault Unit :=
  if d.commands.isEmpty then .error .noCommands
  else if Text.allBlank d.name then .error .blankName
  else match d.init with
    | some init => if d.known init then .ok () else .error (.unknownInit init)
    | none => .ok ()

/-- What is wrong with one need of a command. -/
def needFault? (d : Draft) (command need : String) : Option ManifestFault :=
  if need = command then some (.needsItself command)
  else if d.known need then none
  else some (.unknownNeed command need)

/-- The first fault among the needs of all commands. -/
def needsFault? (d : Draft) : Option ManifestFault :=
  d.commands.toList.findSome? fun e => e.2.needs.findSome? (d.needFault? e.1)

def needs (d : Draft) : Needs :=
  ⟨d.commands.keys, fun name => ((d.commands.get? name).map CommandDraft.needs).getD []⟩

/-- Make a manifest of a draft, or say why it is none. -/
def resolve (d : Draft) : Except Fault Manifest := do
  d.checkHeader.mapError .manifest
  match d.needsFault? with
  | some cause => throw (.manifest cause)
  | none => pure ()
  match d.needs.misplaced? with
  | some command => throw (.cycle command)
  | none => pure ()
  let commands ← (resolveCommands d.known [] d.commands.toList).mapError .manifest
  return { name := d.name, version := d.version, init := d.init, commands := .ofList commands }

end Draft

/-- The draft in a file. -/
def loadDraft (disk : Disk) (directory : Place) (path : String) : Except Fault Draft := do
  let text ← (disk.readText directory path).mapError .disk
  Draft.read text

/-- The manifest in a file. -/
def load (disk : Disk) (directory : Place) (path : String) : Except Fault Manifest := do
  (← loadDraft disk directory path).resolve

end Supervisor.Manifest
