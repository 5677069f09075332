/-!
# Dates and times

Calendar dates, times of day and offsets as a TOML document writes them, and their text: digits
padded, a `T` between date and time, and a fraction without trailing zeros.
-/

namespace Supervisor.Toml

structure Date where
  year : Nat
  month : Nat
  day : Nat
  deriving DecidableEq, Repr

structure Time where
  hour : Nat
  minute : Nat
  second : Nat
  nanosecond : Nat
  deriving DecidableEq, Repr

inductive Offset where
  | utc
  | minutes (east : Int)
  deriving DecidableEq, Repr

inductive DateTime where
  | date (d : Date)
  | time (t : Time)
  /-- A date and a time, with or without an offset. -/
  | moment (d : Date) (t : Time) (offset : Option Offset)
  deriving DecidableEq, Repr

/-! ## Text -/

/-- Decimal digits with zeros in front up to a width. -/
def padded (width n : Nat) : List Char :=
  let ds := Nat.toDigits 10 n
  List.replicate (width - ds.length) '0' ++ ds

def Date.chars (d : Date) : List Char :=
  padded 4 d.year ++ '-' :: padded 2 d.month ++ '-' :: padded 2 d.day

/-- The digits after the point, without zeros at their end, and the point if any are left. -/
def fractionChars (nanosecond : Nat) : List Char :=
  if nanosecond = 0 then []
  else '.' :: ((padded 9 nanosecond).reverse.dropWhile (· = '0')).reverse

def Time.chars (t : Time) : List Char :=
  padded 2 t.hour ++ ':' :: padded 2 t.minute ++ ':' :: padded 2 t.second ++ fractionChars t.nanosecond

def Offset.chars : Offset → List Char
  | .utc => ['Z']
  | .minutes east =>
    (if east < 0 then '-' else '+') ::
      padded 2 (east.natAbs / 60) ++ ':' :: padded 2 (east.natAbs % 60)

def DateTime.chars : DateTime → List Char
  | .date d => d.chars
  | .time t => t.chars
  | .moment d t offset => d.chars ++ 'T' :: t.chars ++ (offset.map Offset.chars).getD []

def DateTime.text (d : DateTime) : String := String.ofList d.chars

/-! ## Reading -/

/-- Exactly `width` decimal digits, and the rest. -/
def digits? : Nat → List Char → Option (Nat × List Char)
  | width, cs =>
    let ds := cs.take width
    if ds.length = width ∧ ds.all Char.isDigit then
      some (ds.foldl (fun n c => 10 * n + (c.toNat - '0'.toNat)) 0, cs.drop width)
    else none

/-- One given character. -/
def char? (c : Char) : List Char → Option (List Char)
  | d :: rest => if d = c then some rest else none
  | [] => none

def isLeapYear (year : Nat) : Bool := year % 4 = 0 && (year % 100 ≠ 0 || year % 400 = 0)

def daysInMonth (year month : Nat) : Nat :=
  if month = 2 then (if isLeapYear year then 29 else 28)
  else if month = 4 ∨ month = 6 ∨ month = 9 ∨ month = 11 then 30
  else 31

def Date.read? (cs : List Char) : Option (Date × List Char) := do
  let (year, cs) ← digits? 4 cs
  let cs ← char? '-' cs
  let (month, cs) ← digits? 2 cs
  let cs ← char? '-' cs
  let (day, cs) ← digits? 2 cs
  if 1 ≤ month ∧ month ≤ 12 ∧ 1 ≤ day ∧ day ≤ daysInMonth year month then
    some (⟨year, month, day⟩, cs)
  else none

/-- Nanoseconds from the digits after the point; digits beyond the ninth do not count. -/
def fraction (ds : List Char) : Nat :=
  ((ds ++ List.replicate 9 '0').take 9).foldl (fun n c => 10 * n + (c.toNat - '0'.toNat)) 0

/-- The fraction of a second, if one follows. -/
def fraction? : List Char → Option (Nat × List Char)
  | '.' :: cs =>
    let ds := cs.takeWhile Char.isDigit
    if ds = [] then none else some (fraction ds, cs.dropWhile Char.isDigit)
  | cs => some (0, cs)

/-- The seconds, if they are there. -/
def seconds? : List Char → Option ((Nat × Nat) × List Char)
  | ':' :: cs => do
    let (second, cs) ← digits? 2 cs
    let (nanosecond, cs) ← fraction? cs
    if second ≤ 60 then some ((second, nanosecond), cs) else none
  | cs => some ((0, 0), cs)

def Time.read? (cs : List Char) : Option (Time × List Char) := do
  let (hour, cs) ← digits? 2 cs
  let cs ← char? ':' cs
  let (minute, cs) ← digits? 2 cs
  let ((second, nanosecond), cs) ← seconds? cs
  if hour ≤ 23 ∧ minute ≤ 59 then some (⟨hour, minute, second, nanosecond⟩, cs) else none

def Offset.read? : List Char → Option Offset
  | ['Z'] | ['z'] => some .utc
  | sign :: cs => do
    let (hour, cs) ← digits? 2 cs
    let cs ← char? ':' cs
    let (minute, cs) ← digits? 2 cs
    let size : Int := 60 * hour + minute
    if cs = [] ∧ hour ≤ 23 ∧ minute ≤ 59 then
      if sign = '+' then some (.minutes size) else if sign = '-' then some (.minutes (-size)) else none
    else none
  | [] => none

/-- A character that stands between a date and its time. -/
def isDateTimeMark (c : Char) : Bool := c = 'T' || c = 't' || c = ' '

/-- Read a date, a time or both from all of the characters. -/
def DateTime.read? (cs : List Char) : Option DateTime :=
  match Date.read? cs with
  | some (d, []) => some (.date d)
  | some (d, mark :: cs) =>
    if isDateTimeMark mark then do
      let (t, cs) ← Time.read? cs
      match cs with
      | [] => some (.moment d t none)
      | _ => (Offset.read? cs).map fun o => .moment d t (some o)
    else none
  | none =>
    match Time.read? cs with
    | some (t, []) => some (.time t)
    | _ => none

end Supervisor.Toml
