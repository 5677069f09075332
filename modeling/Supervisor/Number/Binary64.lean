/-!
# Double-precision numbers

Numbers of the IEEE 754 format binary64 as exact integers: a mantissa below `2 ^ 53` times a power
of two. `round` and `ofDecimal` give the nearest one, with a tie going to the even mantissa. No
machine arithmetic on floating-point words takes part.
-/

namespace Supervisor.Number

/-- A number of the format; a finite one is `± mantissa * 2 ^ exponent`. -/
inductive Binary64 where
  | notANumber
  | infinite (negative : Bool)
  | finite (negative : Bool) (mantissa : Nat) (exponent : Int)
  deriving DecidableEq, Repr

namespace Binary64

/-- The exponent of the least positive number. -/
def minExponent : Int := -1074

/-- The greatest exponent of a finite number. -/
def maxExponent : Int := 971

def zero (negative : Bool) : Binary64 := .finite negative 0 minExponent

/-- `num / den` in units of `2 ^ e`, as a quotient of integers. -/
def inUnits (num den : Nat) (e : Int) : Nat × Nat :=
  if e < 0 then (num * Nat.pow 2 (-e).toNat, den) else (num, den * Nat.pow 2 e.toNat)

/-- The integer nearest to `n / d`, a tie going to the even one. -/
def roundHalfEven (n d : Nat) : Nat :=
  let q := n / d
  let r := n % d
  if 2 * r < d then q
  else if d < 2 * r then q + 1
  else if q % 2 = 0 then q else q + 1

/-- The exponent at which the integer part of `num / den` has 53 bits, or the least exponent. -/
def unitExponent (num den : Nat) : Int :=
  let guess := max ((Nat.log2 num : Int) - (Nat.log2 den : Int) - 53) minExponent
  let whole := fun e : Int => (inUnits num den e).1 / (inUnits num den e).2
  if whole guess < Nat.pow 2 53 then guess
  else if whole (guess + 1) < Nat.pow 2 53 then guess + 1
  else guess + 2

/-- The number nearest to `num / den`, or nothing where that is too large to be finite. -/
def round (negative : Bool) (num den : Nat) : Option Binary64 :=
  if num = 0 then some (zero negative)
  else
    let e := unitExponent num den
    let m := roundHalfEven (inUnits num den e).1 (inUnits num den e).2
    let (m, e) := if m = Nat.pow 2 53 then (Nat.pow 2 52, e + 1) else (m, e)
    if maxExponent < e then none else some (.finite negative m e)

/-- How many decimal digits a positive number has. -/
def digitCount (n : Nat) : Nat := (Nat.toDigits 10 n).length

/-- The number nearest to `digits * 10 ^ exponent`, or nothing where that is too large. Exponents far
outside the format are decided by size alone. -/
def ofDecimal (negative : Bool) (digits : Nat) (exponent : Int) : Option Binary64 :=
  if digits = 0 then some (zero negative)
  else
    let size := (digitCount digits : Int) + exponent
    if 310 < size then none
    else if size < -330 then some (zero negative)
    else if exponent < 0 then round negative digits (Nat.pow 10 (-exponent).toNat)
    else round negative (digits * Nat.pow 10 exponent.toNat) 1

end Binary64

end Supervisor.Number
