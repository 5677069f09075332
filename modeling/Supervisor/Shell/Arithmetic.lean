import Supervisor.Shell.Script

/-!
# Expressions over integers

What stands between the double brackets of a script: numerals, parameters and the operators on
them. Numbers have 64 bits and wrap around.
-/

namespace Supervisor.Shell.Arithmetic

/-- An integer of 64 bits. -/
def wrap (n : Int) : Int := n.bmod (Nat.pow 2 64)

/-- The digit that a character is, below a base. -/
def digit? (base : Nat) (c : Char) : Option Nat :=
  let value :=
    if c.isDigit then c.toNat - '0'.toNat
    else if c.isLower then c.toNat - 'a'.toNat + 10
    else if c.isUpper then c.toNat - 'A'.toNat + 10
    else base
  if value < base then some value else none

def ofDigits? (base : Nat) (cs : List Char) : Option Nat :=
  if cs = [] then none
  else cs.foldlM (fun n c => (digit? base c).map fun d => base * n + d) 0

/-- A numeral without a sign: decimal, with `0x` hexadecimal, with another `0` octal. -/
def unsigned? : List Char → Option Nat
  | ['0'] => some 0
  | '0' :: 'x' :: cs | '0' :: 'X' :: cs => ofDigits? 16 cs
  | '0' :: cs => ofDigits? 8 cs
  | cs => ofDigits? 10 cs

def isSpace (c : Char) : Bool := c == ' ' || c == '\t' || c == '\n'

def withoutSpace (cs : List Char) : List Char :=
  ((cs.dropWhile isSpace).reverse.dropWhile isSpace).reverse

/-- A numeral with or without a sign. -/
def signed? (unsigned? : List Char → Option Nat) : List Char → Option Int
  | '-' :: cs => (unsigned? cs).map fun n => -(n : Int)
  | '+' :: cs => (unsigned? cs).map Int.ofNat
  | cs => (unsigned? cs).map Int.ofNat

/-- A decimal numeral with blanks around it. -/
def decimal? (s : String) : Option Int := signed? (ofDigits? 10) (withoutSpace s.toList)

/-- The number in a parameter; nothing counts as zero. -/
def valueOf? (s : String) : Option Int :=
  match withoutSpace s.toList with
  | [] => some 0
  | cs => signed? unsigned? cs

inductive Token where
  | number (n : Int)
  | sign (s : String)
  deriving DecidableEq, Repr

/-- Signs of two characters. -/
def longSigns : List String := ["<=", ">=", "==", "!=", "&&", "||", "<<", ">>"]

/-- Cut an expression into numbers and signs; a parameter stands for the number in it. -/
def scan (lookup : String → String) : Nat → List Char → Option (List Token)
  | 0, _ => none
  | _, [] => some []
  | fuel + 1, c :: rest =>
    if isSpace c ∨ c = '$' ∨ c = '\x7b' ∨ c = '\x7d' then scan lookup fuel rest
    else if c.isDigit then do
      let n ← unsigned? ((c :: rest).takeWhile Char.isAlphanum)
      let tokens ← scan lookup fuel (rest.dropWhile Char.isAlphanum)
      return .number n :: tokens
    else if isNameChar c then do
      let n ← valueOf? (lookup (String.ofList ((c :: rest).takeWhile isNameChar)))
      let tokens ← scan lookup fuel (rest.dropWhile isNameChar)
      return .number n :: tokens
    else
      let two := String.ofList ((c :: rest).take 2)
      if longSigns.contains two then (scan lookup fuel (rest.drop 1)).map (.sign two :: ·)
      else (scan lookup fuel rest).map (.sign (String.ofList [c]) :: ·)

def truth (b : Bool) : Int := if b then 1 else 0

/-- The operators between two numbers, those that bind least first. -/
def levels : List (List String) :=
  [["||"], ["&&"], ["==", "!="], ["<", "<=", ">", ">="], ["<<", ">>"], ["+", "-"], ["*", "/", "%"]]

/-- An operator between two numbers. Nothing is divided by zero. -/
def combine? (sign : String) (a b : Int) : Option Int :=
  match sign with
  | "||" => some (truth (a ≠ 0 || b ≠ 0))
  | "&&" => some (truth (a ≠ 0 && b ≠ 0))
  | "==" => some (truth (a = b))
  | "!=" => some (truth (a ≠ b))
  | "<" => some (truth (a < b))
  | "<=" => some (truth (a ≤ b))
  | ">" => some (truth (b < a))
  | ">=" => some (truth (b ≤ a))
  | "<<" => some (wrap (a * Int.ofNat (Nat.pow 2 (b % 64).toNat)))
  | ">>" => some (Int.fdiv a (Int.ofNat (Nat.pow 2 (b % 64).toNat)))
  | "+" => some (wrap (a + b))
  | "-" => some (wrap (a - b))
  | "*" => some (wrap (a * b))
  | "/" => if b = 0 then none else some (wrap (Int.tdiv a b))
  | "%" => if b = 0 then none else some (Int.tmod a b)
  | _ => none

mutual

/-- A number, a sign before one, or an expression in brackets. -/
def readOperand : Nat → List Token → Option (Int × List Token)
  | 0, _ => none
  | fuel + 1, ts =>
    match ts with
    | .number n :: ts => some (wrap n, ts)
    | .sign "-" :: ts => (readOperand fuel ts).map fun r => (wrap (-r.1), r.2)
    | .sign "+" :: ts => readOperand fuel ts
    | .sign "!" :: ts => (readOperand fuel ts).map fun r => (truth (r.1 = 0), r.2)
    | .sign "~" :: ts => (readOperand fuel ts).map fun r => (-r.1 - 1, r.2)
    | .sign "(" :: ts =>
      match readLevel fuel levels ts with
      | some (n, .sign ")" :: ts) => some (n, ts)
      | _ => none
    | _ => none

/-- An expression with the operators of these levels. -/
def readLevel : Nat → List (List String) → List Token → Option (Int × List Token)
  | 0, _, _ => none
  | fuel + 1, [], ts => readOperand fuel ts
  | fuel + 1, level :: tighter, ts => do
    let (n, ts) ← readLevel fuel tighter ts
    readOperators fuel level tighter n ts

/-- Operators of one level, from left to right. -/
def readOperators : Nat → List String → List (List String) → Int → List Token →
    Option (Int × List Token)
  | 0, _, _, _, _ => none
  | fuel + 1, level, tighter, n, .sign s :: ts =>
    if level.contains s then do
      let (m, ts) ← readLevel fuel tighter ts
      readOperators fuel level tighter (← combine? s n m) ts
    else some (n, .sign s :: ts)
  | _, _, _, n, ts => some (n, ts)

end

/-- The value of an expression, where it has one. -/
def evaluate? (lookup : String → String) (expression : String) : Option Int := do
  let cs := expression.toList
  let ts ← scan lookup (cs.length + 1) cs
  if ts = [] then return 0
  let (n, rest) ← readLevel (16 * ts.length + 16) levels ts
  if rest = [] then return n else none

end Supervisor.Shell.Arithmetic
