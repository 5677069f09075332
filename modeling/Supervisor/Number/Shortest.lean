import Supervisor.Number.Binary64

/-!
# The shortest decimal of a double

Of the decimals that round to a number, one with the fewest digits, and of those the nearest. The
search walks the grids of 1, 2, … 17 significant digits; on each only the two neighbours of the
number can round to it if any point does.
-/

namespace Supervisor.Number

/-- `digits * 10 ^ exponent`. -/
structure Decimal where
  digits : Nat
  exponent : Int
  deriving DecidableEq, Repr

namespace Shortest

/-- A positive number and the bounds of what rounds to it, over one denominator. -/
structure Interval where
  value : Nat
  low : Nat
  high : Nat
  den : Nat
  closed : Bool

/-- The numbers that round to `mantissa * 2 ^ exponent`: half a unit to both sides, a quarter below
a power of two, the bounds included when the mantissa is even. -/
def interval (mantissa : Nat) (exponent : Int) : Interval :=
  let e := exponent - 2
  let below := if mantissa = Nat.pow 2 52 ∧ Binary64.minExponent < exponent then 1 else 2
  let scale := if 0 ≤ e then Nat.pow 2 e.toNat else 1
  { value := 4 * mantissa * scale
    low := (4 * mantissa - below) * scale
    high := (4 * mantissa + 2) * scale
    den := if 0 ≤ e then 1 else Nat.pow 2 (-e).toNat
    closed := mantissa % 2 = 0 }

/-- `a * 10 ^ g` lies in the interval. -/
def Interval.has (i : Interval) (a : Nat) (g : Int) : Bool :=
  let (x, d) := if 0 ≤ g then (a * Nat.pow 10 g.toNat, 1) else (a, Nat.pow 10 (-g).toNat)
  let p := x * i.den
  if i.closed then i.low * d ≤ p && p ≤ i.high * d else i.low * d < p && p < i.high * d

/-- The exponent of the leading decimal digit of `num / den`. -/
def leadingExponent (num den : Nat) : Int :=
  if den ≤ num then (Binary64.digitCount (num / den) : Int) - 1
  else -(Binary64.digitCount ((den + num - 1) / num - 1) : Int)

/-- The point of the grid `10 ^ g` nearest to the value among those in the interval. -/
def Interval.onGrid (i : Interval) (g : Int) : Option Nat :=
  let (n, d) := if 0 ≤ g then (i.value, i.den * Nat.pow 10 g.toNat) else (i.value * Nat.pow 10 (-g).toNat, i.den)
  let a := n / d
  let nearestFirst := if 2 * (n % d) ≤ d then [a, a + 1] else [a + 1, a]
  nearestFirst.find? fun x => i.has x g

/-- The first grid with a point, from `count` digits on; a point that is a power of ten is written
with one digit. Seventeen digits always suffice, so the integer part at the end is never reached. -/
def Interval.search (i : Interval) (lead : Int) : Nat → Nat → Decimal
  | 0, _ => ⟨i.value / i.den, 0⟩
  | left + 1, count =>
    let g := lead - count + 1
    match i.onGrid g with
    | some a => if a = Nat.pow 10 count then ⟨1, g + count⟩ else ⟨a, g⟩
    | none => i.search lead left (count + 1)

/-- The shortest decimal that rounds to a positive `mantissa * 2 ^ exponent`. -/
def decimal (mantissa : Nat) (exponent : Int) : Decimal :=
  let i := interval mantissa exponent
  i.search (leadingExponent i.value i.den) 17 1

end Shortest

/-- A decimal without exponent notation, and with a point also where it is whole. -/
def Decimal.positional (d : Decimal) : String :=
  let ds := Nat.toDigits 10 d.digits
  if 0 ≤ d.exponent then
    String.ofList (ds ++ List.replicate d.exponent.toNat '0' ++ ['.', '0'])
  else
    let places := (-d.exponent).toNat
    let padded := List.replicate (places + 1 - ds.length) '0' ++ ds
    String.ofList (padded.take (padded.length - places) ++ '.' :: padded.drop (padded.length - places))

/-- The text of a number: its shortest decimal written out in full. -/
def Binary64.text : Binary64 → String
  | .notANumber => "nan"
  | .infinite negative => if negative then "-inf" else "inf"
  | .finite negative mantissa exponent =>
    (if negative then "-" else "") ++
      if mantissa = 0 then "0.0" else (Shortest.decimal mantissa exponent).positional

end Supervisor.Number
