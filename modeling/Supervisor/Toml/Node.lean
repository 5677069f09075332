import Supervisor.NameMap
import Supervisor.Toml.Scalar

/-!
# Document trees

What a TOML document says, with how each table came about, which decides what may still be added to
it: a table with a header is written once, one that only a longer header implies may get its own
header later, one that dotted keys made grows by dotted keys only, and one in braces is complete.
-/

namespace Supervisor.Toml

inductive TableKind where
  | header
  | implied
  | dotted
  | braces
  deriving DecidableEq, Repr

/-- No header and no braces of its own. -/
def TableKind.isImplicit : TableKind → Bool
  | implied | dotted => true
  | header | braces => false

inductive Node where
  | scalar (s : Scalar)
  | text (s : String)
  /-- Elements in brackets or, when `repeated`, tables under one repeated header. -/
  | array (repeated : Bool) (items : List Node)
  /-- Entries in the order of their keys. -/
  | table (kind : TableKind) (entries : List (String × Node))

abbrev Entries := List (String × Node)

namespace Entries

/-- The table that a further part of a key leads into: itself, or the last of an array of tables.
Dotted keys do not lead into a table that has a header or braces. -/
def inner? (dotted : Bool) : Node → Option (TableKind × Entries)
  | .table kind entries =>
    if kind = .braces ∨ (dotted = true ∧ kind.isImplicit = false) then none else some (kind, entries)
  | .array true items =>
    match items.getLast? with
    | some (.table kind entries) => some (kind, entries)
    | _ => none
  | _ => none

/-- The node with the table inside it replaced. -/
def replaceInner (entries : Entries) : Node → Node
  | .table kind _ => .table kind entries
  | .array repeated items =>
    match items.getLast? with
    | some (.table kind _) => .array repeated (items.dropLast ++ [.table kind entries])
    | _ => .array repeated items
  | node => node

/-- Change the table at the end of a path; tables on the way that are not there yet are made. -/
def edit (dotted : Bool) (change : TableKind → Entries → Option Entries) :
    List String → TableKind → Entries → Option Entries
  | [], kind, entries => change kind entries
  | key :: path, _, entries =>
    match NameMap.lookup key entries with
    | none => do
      let kind := if dotted then TableKind.dotted else .implied
      let made ← edit dotted change path kind []
      some (NameMap.insertEntry key (.table kind made) entries)
    | some node => do
      let (kind, inside) ← inner? dotted node
      let changed ← edit dotted change path kind inside
      some (NameMap.insertEntry key (replaceInner changed node) entries)

/-- Add a key that is not there yet. A key of one part goes into any table but one made by dotted
keys, and a dotted key into such a table only. -/
def assign (path : List String) (key : String) (value : Node) (kind : TableKind) (entries : Entries) :
    Option Entries :=
  edit (!path.isEmpty) (fun kind entries =>
    if (kind == .dotted) ≠ !path.isEmpty then none
    else match NameMap.lookup key entries with
      | some _ => none
      | none => some (NameMap.insertEntry key value entries)) path kind entries

/-- Open the table of a header: a new one, or one that was only implied so far. -/
def openTable (key : String) (_ : TableKind) (entries : Entries) : Option Entries :=
  match NameMap.lookup key entries with
  | none => some (NameMap.insertEntry key (.table .header []) entries)
  | some (.table .implied inside) => some (NameMap.insertEntry key (.table .header inside) entries)
  | some _ => none

/-- Open one more table of a repeated header. -/
def openRepeated (key : String) (_ : TableKind) (entries : Entries) : Option Entries :=
  match NameMap.lookup key entries with
  | none => some (NameMap.insertEntry key (.array true [.table .header []]) entries)
  | some (.array true items) =>
    some (NameMap.insertEntry key (.array true (items ++ [.table .header []])) entries)
  | some _ => none

end Entries

end Supervisor.Toml
