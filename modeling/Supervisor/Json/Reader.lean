/-!
# Reading JSON

A document is one value with blanks around it. Values nest without limit; the number of characters
left bounds every loop. A string may hold a lone half of a surrogate pair, in which case it spells no
text; such strings and keys are `none`. Numbers keep their spelling.
-/

namespace Supervisor.Json

inductive Value where
  | null
  | boolean (b : Bool)
  | number (literal : List Char)
  | text (s : Option String)
  | array (items : List Value)
  /-- Members in the order in which they are written; keys may repeat. -/
  | object (members : List (Option String × Value))

def isBlank (c : Char) : Bool := c = ' ' || c = '\t' || c = '\n' || c = '\r'

def skipBlank (cs : List Char) : List Char := cs.dropWhile isBlank

/-! ## Strings -/

/-- A part of a string: a character, or a unit of UTF-16 given by its number. -/
inductive Piece where
  | char (c : Char)
  | unit (n : Nat)
  deriving DecidableEq, Repr

def hexValue? (c : Char) : Option Nat :=
  if c.isDigit then some (c.toNat - '0'.toNat)
  else if 'a' ≤ c ∧ c ≤ 'f' then some (c.toNat - 'a'.toNat + 10)
  else if 'A' ≤ c ∧ c ≤ 'F' then some (c.toNat - 'A'.toNat + 10)
  else none

/-- The number that four hexadecimal digits spell. -/
def unit? (a b c d : Char) : Option Nat := do
  some (((← hexValue? a) * 16 + (← hexValue? b)) * 256 + (← hexValue? c) * 16 + (← hexValue? d))

/-- The character of a one-letter escape. -/
def letterEscape? : Char → Option Char
  | '"' => some '"'
  | '\\' => some '\\'
  | '/' => some '/'
  | 'b' => some '\x08'
  | 'f' => some '\x0c'
  | 'n' => some '\n'
  | 'r' => some '\r'
  | 't' => some '\t'
  | _ => none

/-- The pieces of a string after its opening quote. -/
def pieces? : List Char → Option (List Piece × List Char)
  | [] => none
  | '"' :: rest => some ([], rest)
  | '\\' :: 'u' :: a :: b :: c :: d :: rest => do
    let n ← unit? a b c d
    let (ps, rest) ← pieces? rest
    some (.unit n :: ps, rest)
  | '\\' :: c :: rest => do
    let d ← letterEscape? c
    let (ps, rest) ← pieces? rest
    some (.char d :: ps, rest)
  | c :: rest =>
    if c.toNat < 0x20 ∨ c = '\\' then none
    else do
      let (ps, rest) ← pieces? rest
      some (.char c :: ps, rest)

def isHighSurrogate (n : Nat) : Bool := 0xD800 ≤ n && n ≤ 0xDBFF
def isLowSurrogate (n : Nat) : Bool := 0xDC00 ≤ n && n ≤ 0xDFFF

/-- The characters of the pieces, where two halves of a surrogate pair make one character and a half
alone makes none. -/
def characters? : List Piece → Option (List Char)
  | [] => some []
  | .char c :: rest => (characters? rest).map (c :: ·)
  | .unit n :: .unit m :: rest =>
    if isHighSurrogate n then
      if isLowSurrogate m then
        (characters? rest).map (Char.ofNat (0x10000 + (n - 0xD800) * 0x400 + (m - 0xDC00)) :: ·)
      else none
    else if isLowSurrogate n then none
    else (characters? (.unit m :: rest)).map (Char.ofNat n :: ·)
  | .unit n :: rest =>
    if isHighSurrogate n ∨ isLowSurrogate n then none
    else (characters? rest).map (Char.ofNat n :: ·)

/-- A string at its opening quote. -/
def string? : List Char → Option (Option String × List Char)
  | '"' :: rest => (pieces? rest).map fun r => ((characters? r.1).map String.ofList, r.2)
  | _ => none

/-! ## Numbers -/

/-- One digit or more, and the rest. -/
def digits? (cs : List Char) : Option (List Char × List Char) :=
  let ds := cs.takeWhile Char.isDigit
  if ds = [] then none else some (ds, cs.dropWhile Char.isDigit)

/-- The whole part: a zero stands alone. -/
def whole? : List Char → Option (List Char × List Char)
  | '0' :: rest =>
    match rest with
    | c :: _ => if c.isDigit then none else some (['0'], rest)
    | [] => some (['0'], [])
  | cs => digits? cs

def fraction? : List Char → Option (List Char × List Char)
  | '.' :: rest => (digits? rest).map fun r => ('.' :: r.1, r.2)
  | cs => some ([], cs)

def power? : List Char → Option (List Char × List Char)
  | c :: rest =>
    if c = 'e' ∨ c = 'E' then
      match rest with
      | s :: rest' =>
        if s = '+' ∨ s = '-' then (digits? rest').map fun r => (c :: s :: r.1, r.2)
        else (digits? rest).map fun r => (c :: r.1, r.2)
      | [] => none
    else some ([], c :: rest)
  | [] => some ([], [])

def number? (cs : List Char) : Option (List Char × List Char) := do
  let (sign, cs) := match cs with
    | '-' :: rest => (['-'], rest)
    | _ => ([], cs)
  let (whole, cs) ← whole? cs
  let (fraction, cs) ← fraction? cs
  let (power, cs) ← power? cs
  some (sign ++ whole ++ fraction ++ power, cs)

/-! ## Values -/

/-- A given word at the front. -/
def word? (word : List Char) (cs : List Char) : Option (List Char) :=
  if word.isPrefixOf cs then some (cs.drop word.length) else none

mutual

def value? : Nat → List Char → Option (Value × List Char)
  | 0, _ => none
  | fuel + 1, cs =>
    match skipBlank cs with
    | '\x7b' :: rest =>
      match skipBlank rest with
      | '\x7d' :: rest => some (.object [], rest)
      | rest => (members? fuel rest).map fun r => (.object r.1, r.2)
    | '[' :: rest =>
      match skipBlank rest with
      | ']' :: rest => some (.array [], rest)
      | rest => (items? fuel rest).map fun r => (.array r.1, r.2)
    | '"' :: rest => (string? ('"' :: rest)).map fun r => (.text r.1, r.2)
    | 't' :: rest => (word? ['r', 'u', 'e'] rest).map fun r => (.boolean true, r)
    | 'f' :: rest => (word? ['a', 'l', 's', 'e'] rest).map fun r => (.boolean false, r)
    | 'n' :: rest => (word? ['u', 'l', 'l'] rest).map fun r => (.null, r)
    | cs => (number? cs).map fun r => (.number r.1, r.2)

/-- Elements up to the closing bracket. -/
def items? : Nat → List Char → Option (List Value × List Char)
  | 0, _ => none
  | fuel + 1, cs => do
    let (x, cs) ← value? fuel cs
    match skipBlank cs with
    | ',' :: rest =>
      let (xs, rest) ← items? fuel rest
      some (x :: xs, rest)
    | ']' :: rest => some ([x], rest)
    | _ => none

/-- Members up to the closing brace. -/
def members? : Nat → List Char → Option (List (Option String × Value) × List Char)
  | 0, _ => none
  | fuel + 1, cs => do
    let (key, cs) ← string? (skipBlank cs)
    match skipBlank cs with
    | ':' :: rest =>
      let (x, cs) ← value? fuel rest
      match skipBlank cs with
      | ',' :: rest =>
        let (es, rest) ← members? fuel rest
        some ((key, x) :: es, rest)
      | '\x7d' :: rest => some ([(key, x)], rest)
      | _ => none
    | _ => none

end

/-- Read a document. -/
def read? (s : String) : Option Value :=
  match value? (s.toList.length + 1) s.toList with
  | some (v, rest) => if skipBlank rest = [] then some v else none
  | none => none

end Supervisor.Json
