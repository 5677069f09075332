import Supervisor.Toml.Scalar

/-!
# Quoted strings

The four kinds of strings of a TOML document: between double quotes with escapes or between single
quotes without, each on one line or, between threefold quotes, on several.
-/

namespace Supervisor.Toml.Quotation

/-- A character that no string and no comment holds as it stands. -/
def isControl (c : Char) : Bool := (c.toNat < 0x20 && c ≠ '\t') || c.toNat = 0x7F

/-- The character of a code point given by hexadecimal digits; surrogates are none. -/
def codePoint? (ds : List Char) : Option Char :=
  if ds.all fun c => Scalar.digitValue c < 16 then
    let n := Scalar.digitsValue 16 ds
    if h : n.isValidChar then some ⟨n.toUInt32, by
      have hn : n < UInt32.size := by
        rcases h with h | h <;> simp only [UInt32.size] <;> omega
      simpa [UInt32.isValidChar, Nat.mod_eq_of_lt hn] using h⟩
    else none
  else none

/-- The character of a one-letter escape. -/
def letterEscape? : Char → Option Char
  | 'b' => some '\x08'
  | 't' => some '\t'
  | 'n' => some '\n'
  | 'f' => some '\x0c'
  | 'r' => some '\r'
  | 'e' => some '\x1b'
  | '"' => some '"'
  | '\\' => some '\\'
  | _ => none

/-- How many hexadecimal digits follow the letter of an escape. -/
def escapeWidth : Char → Nat
  | 'x' => 2
  | 'u' => 4
  | 'U' => 8
  | _ => 0

/-- The character of an escape, after its backslash, and the number of characters it takes. -/
def escape? : List Char → Option (Char × Nat)
  | [] => none
  | c :: rest =>
    match letterEscape? c with
    | some d => some (d, 1)
    | none =>
      let width := escapeWidth c
      if width = 0 ∨ (rest.take width).length ≠ width then none
      else (codePoint? (rest.take width)).map fun d => (d, width + 1)

/-- The rest of a one-line string with escapes; `skip` characters have been taken already. -/
def basic : Nat → List Char → Option (List Char × List Char)
  | _, [] => none
  | skip + 1, _ :: rest => basic skip rest
  | 0, c :: rest =>
    if c = '"' then some ([], rest)
    else if c = '\\' then do
      let (d, width) ← escape? rest
      let (s, rest) ← basic width rest
      some (d :: s, rest)
    else if isControl c then none
    else do
      let (s, rest) ← basic 0 rest
      some (c :: s, rest)

/-- The rest of a one-line string without escapes. -/
def literal : List Char → Option (List Char × List Char)
  | [] => none
  | c :: rest =>
    if c = '\'' then some ([], rest)
    else if isControl c then none
    else do
      let (s, rest) ← literal rest
      some (c :: s, rest)

/-- The characters begin with a line break, which has the length given. -/
def lineBreak? : List Char → Option Nat
  | '\n' :: _ => some 1
  | '\r' :: '\n' :: _ => some 2
  | _ => none

/-- How many of the characters at the front are blanks and line breaks. -/
def blankLength : List Char → Nat
  | '\r' :: '\n' :: rest => blankLength rest + 2
  | c :: rest => if c = ' ' ∨ c = '\t' ∨ c = '\n' then blankLength rest + 1 else 0
  | [] => 0

/-- A backslash at the end of a line takes the blanks and breaks up to the next other character; how
many characters that is, counted after the backslash. -/
def continuation? (cs : List Char) : Option Nat :=
  let blanks := (cs.takeWhile fun c => c = ' ' || c = '\t').length
  match lineBreak? (cs.drop blanks) with
  | some _ => some (blankLength cs)
  | none => none

/-- The closing of a string between threefold quotes: up to two more quotes belong to the string. -/
def closing? (quote : Char) : List Char → Option (List Char × List Char)
  | a :: b :: c :: rest =>
    if a = quote ∧ b = quote ∧ c = quote then
      match rest with
      | d :: e :: rest' =>
        if d = quote ∧ e = quote then some ([quote, quote], rest')
        else if d = quote then some ([quote], e :: rest')
        else some ([], rest)
      | [d] => if d = quote then some ([quote], []) else some ([], [d])
      | [] => some ([], [])
    else none
  | _ => none

/-- The rest of a string of several lines with escapes. -/
def longBasic : Nat → List Char → Option (List Char × List Char)
  | _, [] => none
  | skip + 1, _ :: rest => longBasic skip rest
  | 0, c :: rest =>
    match closing? '"' (c :: rest) with
    | some closed => some closed
    | none =>
      if c = '\\' then
        match continuation? rest with
        | some width => longBasic width rest
        | none => do
          let (d, width) ← escape? rest
          let (s, rest) ← longBasic width rest
          some (d :: s, rest)
      else if isControl c && (lineBreak? (c :: rest)).isNone then none
      else do
        let (s, rest) ← longBasic 0 rest
        some (c :: s, rest)

/-- The rest of a string of several lines without escapes. -/
def longLiteral : List Char → Option (List Char × List Char)
  | [] => none
  | c :: rest =>
    match closing? '\'' (c :: rest) with
    | some closed => some closed
    | none =>
      if isControl c && (lineBreak? (c :: rest)).isNone then none
      else do
        let (s, rest) ← longLiteral rest
        some (c :: s, rest)

/-- The characters without a line break at the front. -/
def dropLineBreak (cs : List Char) : List Char := cs.drop ((lineBreak? cs).getD 0)

/-- A string on one line, at its opening quote. -/
def readLine? : List Char → Option (List Char × List Char)
  | '"' :: rest => basic 0 rest
  | '\'' :: rest => literal rest
  | _ => none

/-- A string of any kind, at its opening quote. -/
def read? : List Char → Option (List Char × List Char)
  | '"' :: '"' :: '"' :: rest => longBasic 0 (dropLineBreak rest)
  | '\'' :: '\'' :: '\'' :: rest => longLiteral (dropLineBreak rest)
  | cs => readLine? cs

end Supervisor.Toml.Quotation
