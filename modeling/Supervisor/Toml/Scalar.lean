import Supervisor.Number.Binary64
import Supervisor.Toml.DateTime

/-!
# Scalars

Numbers, truth values and dates of a TOML document, read from the unbroken run of characters that
spells them.
-/

namespace Supervisor.Toml

inductive Scalar where
  | boolean (b : Bool)
  /-- An integer of any size. -/
  | integer (i : Int)
  /-- A number with a point or an exponent; nothing where it is too large to be finite. -/
  | float (x : Option Number.Binary64)
  | dateTime (d : DateTime)
  deriving DecidableEq, Repr

namespace Scalar

/-- The value of a digit in any base up to sixteen. -/
def digitValue (c : Char) : Nat :=
  if c.isDigit then c.toNat - '0'.toNat
  else if 'a' ≤ c ∧ c ≤ 'f' then c.toNat - 'a'.toNat + 10
  else if 'A' ≤ c ∧ c ≤ 'F' then c.toNat - 'A'.toNat + 10
  else 16

/-- Digits of a base, where single underscores may stand between two digits. -/
def grouped (base : Nat) : List Char → Bool
  | [] => false
  | [c] => digitValue c < base
  | c :: '_' :: rest => digitValue c < base && grouped base rest
  | c :: rest => digitValue c < base && grouped base rest

/-- The value of digits, underscores left out. -/
def digitsValue (base : Nat) (cs : List Char) : Nat :=
  (cs.filter (· ≠ '_')).foldl (fun n c => base * n + digitValue c) 0

/-- The digits of a base, if the characters are nothing else. -/
def inBase? (base : Nat) (cs : List Char) : Option Nat :=
  if grouped base cs then some (digitsValue base cs) else none

/-- The sign in front, and the rest. -/
def splitSign : List Char → Bool × List Char
  | '+' :: cs => (false, cs)
  | '-' :: cs => (true, cs)
  | cs => (false, cs)

/-- A whole number in base ten has no zero in front. -/
def isWhole (cs : List Char) : Bool :=
  grouped 10 cs && (cs.head? ≠ some '0' || cs = ['0'])

def signed (negative : Bool) (n : Nat) : Int := if negative then -(n : Int) else n

/-- The exponent after its letter. -/
def exponent? (cs : List Char) : Option Int :=
  let (negative, ds) := splitSign cs
  (inBase? 10 ds).map (signed negative)

def isExponentMark (c : Char) : Bool := c = 'e' || c = 'E'

/-- A decimal number without its sign: whole part, fraction after a point, power of ten. -/
def decimal? (negative : Bool) (cs : List Char) : Option Scalar := do
  let whole := cs.takeWhile fun c => c ≠ '.' && !isExponentMark c
  let rest := cs.drop whole.length
  if !isWhole whole then none
  else
    let (fraction, rest) ← match rest with
      | '.' :: rest =>
        let fraction := rest.takeWhile fun c => !isExponentMark c
        if grouped 10 fraction then some (fraction, rest.drop fraction.length) else none
      | _ => some ([], rest)
    let power ← match rest with
      | [] => some 0
      | _ :: ds => exponent? ds
    if fraction = [] ∧ rest = [] then some (.integer (signed negative (digitsValue 10 whole)))
    else
      let places := (fraction.filter (· ≠ '_')).length
      some (.float (Number.Binary64.ofDecimal negative (digitsValue 10 (whole ++ fraction))
        (power - places)))

/-- Read a number. -/
def number? (cs : List Char) : Option Scalar :=
  match cs with
  | '0' :: 'x' :: ds => (inBase? 16 ds).map fun n => .integer n
  | '0' :: 'o' :: ds => (inBase? 8 ds).map fun n => .integer n
  | '0' :: 'b' :: ds => (inBase? 2 ds).map fun n => .integer n
  | _ =>
    let (negative, rest) := splitSign cs
    if rest = ['i', 'n', 'f'] then some (.float (some (.infinite negative)))
    else if rest = ['n', 'a', 'n'] then some (.float (some .notANumber))
    else decimal? negative rest

/-- A character of a number, a truth value or a date. -/
def isScalarChar (c : Char) : Bool :=
  c.isAlphanum || c = '_' || c = '+' || c = '-' || c = '.' || c = ':'

/-- The run of characters that spells a scalar: a time may follow its date after one space. -/
def run (cs : List Char) : List Char × List Char :=
  let word := cs.takeWhile isScalarChar
  match Date.read? word, cs.drop word.length with
  | some (_, []), ' ' :: c :: rest =>
    if c.isDigit then
      let time := (c :: rest).takeWhile isScalarChar
      (word ++ ' ' :: time, (c :: rest).drop time.length)
    else (word, ' ' :: c :: rest)
  | _, rest => (word, rest)

/-- Read a scalar at the front. -/
def read? (cs : List Char) : Option (Scalar × List Char) :=
  let (word, rest) := run cs
  let value :=
    if word = ['t', 'r', 'u', 'e'] then some (.boolean true)
    else if word = ['f', 'a', 'l', 's', 'e'] then some (.boolean false)
    else match DateTime.read? word with
      | some d => some (.dateTime d)
      | none => number? word
  value.map fun v => (v, rest)

end Scalar

end Supervisor.Toml
