import Supervisor.Number.Shortest
import Supervisor.Toml.Node

/-!
# Values

What a document tree means, without the way it was written. Integers have 64 bits and other numbers
are finite or spelled `inf`; a tree with any other number has no value. A part of a document whose
value nobody asks for may hold longer integers (`Node.isReadable`).
-/

namespace Supervisor.Toml

inductive Value where
  | text (s : String)
  | integer (i : Int)
  | float (x : Number.Binary64)
  | boolean (b : Bool)
  | dateTime (d : DateTime)
  | array (items : List Value)
  /-- Entries in the order of their keys. -/
  | table (entries : List (String × Value))

/-- The integer has a sign and so many bits, or no sign and so many bits. -/
def isWithin (below above : Nat) (i : Int) : Bool :=
  -Int.ofNat (Nat.pow 2 below) ≤ i && i < Int.ofNat (Nat.pow 2 above)

/-- Integers of 64 bits with sign. -/
def isWord (i : Int) : Bool := isWithin 63 63 i

/-- Integers of 128 bits, with or without sign. -/
def isLongWord (i : Int) : Bool := isWithin 127 128 i

def Scalar.value? : Scalar → Option Value
  | .boolean b => some (.boolean b)
  | .integer i => if isWord i then some (.integer i) else none
  | .float x => x.map .float
  | .dateTime d => some (.dateTime d)

def Scalar.isReadable : Scalar → Bool
  | .integer i => isLongWord i
  | .float x => x.isSome
  | .boolean _ | .dateTime _ => true

mutual

def Node.value? : Node → Option Value
  | .scalar s => s.value?
  | .text s => some (.text s)
  | .array _ items => (itemsValue? items).map .array
  | .table _ entries => (entriesValue? entries).map .table

def itemsValue? : List Node → Option (List Value)
  | [] => some []
  | x :: xs => do
    let v ← x.value?
    let vs ← itemsValue? xs
    some (v :: vs)

def entriesValue? : List (String × Node) → Option (List (String × Value))
  | [] => some []
  | (key, x) :: rest => do
    let v ← x.value?
    let vs ← entriesValue? rest
    some ((key, v) :: vs)

end

mutual

/-- A part that is passed over has no number out of all bounds. -/
def Node.isReadable : Node → Bool
  | .scalar s => s.isReadable
  | .text _ => true
  | .array _ items => itemsReadable items
  | .table _ entries => entriesReadable entries

def itemsReadable : List Node → Bool
  | [] => true
  | x :: xs => x.isReadable && itemsReadable xs

def entriesReadable : List (String × Node) → Bool
  | [] => true
  | (_, x) :: rest => x.isReadable && entriesReadable rest

end

end Supervisor.Toml
