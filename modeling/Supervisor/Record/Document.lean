import Supervisor.Json.Printer
import Supervisor.Json.Reader
import Supervisor.Record.Basic

/-!
# Status records as documents

The JSON form of a record. A record is written as an object with all its members; it may be read
from an object, where unknown members are passed over and missing ones have defaults, or from an
array with the members' values in order.
-/

namespace Supervisor

open Json (Value)

/-- The status of a document: its word, or an object with the word as its only key and `null`. -/
def Status.ofJson? : Value → Option Status
  | .text (some s) => ofWord? s
  | .object [(some s, .null)] => ofWord? s
  | _ => none

def Status.toJson (s : Status) : Value := .text (some s.word)

namespace Record

def statusesToJson (statuses : NameMap Status) : Value :=
  .object (statuses.toList.map fun e => (some e.1, e.2.toJson))

def toJson (r : Record) : Value :=
  .object [(some "statuses", statusesToJson r.statuses),
    (some "scroll_version", r.manifestVersion.elim .null fun v => .text (some v)),
    (some "scroll_name", .text (some r.manifestName))]

/-- The text of a record's document. -/
def text (r : Record) : String := r.toJson.pretty

/-- Statuses by name; a later one of the same name counts. -/
def statuses? : Value → Option (NameMap Status)
  | .object members => do
    let entries ← members.mapM fun e => do
      let name ← e.1
      let status ← Status.ofJson? e.2
      some (name, status)
    some (NameMap.ofList entries)
  | _ => none

def version? : Value → Option (Option String)
  | .null => some none
  | .text (some s) => some (some s)
  | _ => none

def name? : Value → Option String
  | .text (some s) => some s
  | _ => none

/-- A record from the values of its members, where they are given. -/
def ofValues? (statuses version name : Option Value) : Option Record := do
  let statuses ← statuses.elim (some .empty) statuses?
  let manifestVersion ← version.elim (some none) version?
  let manifestName ← name.elim (some "") name?
  some { statuses, manifestVersion, manifestName }

/-- The value of a member that is given at most once. -/
def member? (members : List (Option String × Value)) (key : String) : Option (Option Value) :=
  match members.filter fun e => e.1 = some key with
  | [] => some none
  | [e] => some (some e.2)
  | _ => none

def ofJson? : Value → Option Record
  | .object members =>
    if members.any fun e => e.1 = none then none
    else do
      let statuses ← member? members "statuses"
      let version ← member? members "scroll_version"
      let name ← member? members "scroll_name"
      ofValues? statuses version name
  | .array values =>
    if 3 < values.length then none else ofValues? values[0]? values[1]? values[2]?
  | _ => none

/-- Read the text of a record's document. -/
def read (s : String) : Except Fault Record :=
  match (Json.read? s).bind ofJson? with
  | some r => .ok r
  | none => .error .json

end Record

/-- Read the text of a document with one status. -/
def Status.read (s : String) : Except Fault Status :=
  match (Json.read? s).bind Status.ofJson? with
  | some status => .ok status
  | none => .error .json

end Supervisor
