import Supervisor.Manifest.Basic
import Supervisor.Toml.Reader
import Supervisor.Toml.Value

/-!
# Manifest drafts

A manifest as its file states it: the document has the right shape and types, and nothing more is
known of it. A record of the file is a table with its fields by name or an array with them in order;
fields at its end may be left out where they have defaults, and what is no field is passed over.
-/

namespace Supervisor.Manifest

structure ProcedureDraft where
  mode : String
  data : Option Toml.Value
  wait : Option Toml.Value
  id : Option String
  ignoreFailure : Bool

structure CommandDraft where
  policy : Policy
  needs : List String
  procedures : List ProcedureDraft

structure Draft where
  name : String
  version : Option String
  init : Option String
  commands : NameMap CommandDraft

namespace Draft

open Toml (Node)

/-- The fields of a record by name. A date counts as a record with none of them. -/
def fields? (names : List String) : Node → Option (String → Option Node)
  | .table _ entries =>
    if entries.all fun e => names.contains e.1 || e.2.isReadable then
      some fun name => NameMap.lookup name entries
    else none
  | .array _ items => some fun name => (names.findIdx? (· = name)).bind fun i => items[i]?
  | .scalar (.dateTime _) => some fun _ => none
  | _ => none

def text? : Node → Option String
  | .text s => some s
  | _ => none

def flag? : Node → Option Bool
  | .scalar (.boolean b) => some b
  | _ => none

def list? (item? : Node → Option α) : Node → Option (List α)
  | .array _ items => items.mapM item?
  | _ => none

/-- A field that may be left out. -/
def optional? (read? : Node → Option α) : Option Node → Option (Option α)
  | none => some none
  | some node => (read? node).map some

/-- A table or an array without anything in it. -/
def isHollow : Node → Bool
  | .table _ [] => true
  | .array _ [] => true
  | _ => false

/-- A policy is its word, or a table with the word as its only key and nothing under it. -/
def policy? : Node → Option Policy
  | .text s => Policy.ofWord? s
  | .table _ [(key, inside)] => if isHollow inside then Policy.ofWord? key else none
  | _ => none

def procedure? (node : Node) : Option ProcedureDraft := do
  let field ← fields? ["mode", "data", "wait", "id", "ignore_failure"] node
  let mode ← (field "mode").bind text?
  let data ← optional? Node.value? (field "data")
  let wait ← optional? Node.value? (field "wait")
  let id ← optional? text? (field "id")
  let ignoreFailure ← optional? flag? (field "ignore_failure")
  some { mode, data, wait, id, ignoreFailure := ignoreFailure.getD false }

def command? (node : Node) : Option CommandDraft := do
  let field ← fields? ["run", "needs", "procedures"] node
  let policy ← optional? policy? (field "run")
  let needs ← optional? (list? text?) (field "needs")
  let procedures ← optional? (list? procedure?) (field "procedures")
  some { policy := policy.getD .always, needs := needs.getD [], procedures := procedures.getD [] }

def commands? : Node → Option (NameMap CommandDraft)
  | .table _ entries => do
    let commands ← entries.mapM fun e => (command? e.2).map fun c => (e.1, c)
    some (NameMap.ofList commands)
  | _ => none

/-- The draft that a document states. -/
def ofDocument? (entries : Toml.Entries) : Option Draft := do
  let field ← fields? ["name", "version", "init", "commands"] (.table .header entries)
  let name ← (field "name").bind text?
  let version ← optional? text? (field "version")
  let init ← optional? text? (field "init")
  let commands ← optional? commands? (field "commands")
  some { name, version, init, commands := commands.getD .empty }

/-- Read the text of a manifest file. -/
def read (s : String) : Except Fault Draft :=
  match (Toml.Document.read? s).bind ofDocument? with
  | some draft => .ok draft
  | none => .error .toml

end Draft

end Supervisor.Manifest
