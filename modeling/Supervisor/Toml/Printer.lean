import Supervisor.Text.Spelling
import Supervisor.Toml.Value

/-!
# Writing a value

The text of a value on one line, as an inline document part. Of the ways to quote a string the first
one is taken that needs no escape; texts with line breaks go between threefold quotes.
-/

namespace Supervisor.Toml

namespace Quotes

/-- What a string holds, as far as the choice of quotes depends on it. -/
structure Traits where
  /-- A control character other than tab and line feed. -/
  control : Bool
  lineFeed : Bool
  backslash : Bool
  /-- The longest runs of double and of single quotes. -/
  doubles : Nat
  singles : Nat

/-- The longest run of a character. -/
def longestRun (quote : Char) (current longest : Nat) : List Char → Nat
  | [] => max current longest
  | c :: rest =>
    if c = quote then longestRun quote (current + 1) longest rest
    else longestRun quote 0 (max current longest) rest

def isEscaped (c : Char) : Bool :=
  (c.toNat < 0x20 && c ≠ '\t' && c ≠ '\n') || c.toNat = 0x7F

def traits (cs : List Char) : Traits :=
  { control := cs.any isEscaped
    lineFeed := cs.contains '\n'
    backslash := cs.contains '\\'
    doubles := longestRun '"' 0 0 cs
    singles := longestRun '\'' 0 0 cs }

inductive Style where
  | basic
  | literal
  | longBasic
  | longLiteral
  deriving DecidableEq, Repr

/-- Quotes for a value. -/
def Traits.style (t : Traits) : Style :=
  if !t.control && !t.backslash && t.doubles = 0 && !t.lineFeed then .basic
  else if !t.control && t.singles = 0 && !t.lineFeed then .literal
  else if !t.control && !t.backslash && t.doubles ≤ 2 then .longBasic
  else if !t.control && t.singles ≤ 2 then .longLiteral
  else if t.lineFeed then .longBasic
  else .basic

/-- Quotes for a key, which stays on one line. -/
def Traits.keyStyle (t : Traits) : Style :=
  if !t.control && !t.lineFeed && !t.backslash && t.doubles = 0 then .basic
  else if !t.control && !t.lineFeed && t.singles = 0 then .literal
  else .basic

/-- A control character by its code point. -/
def controlEscape (c : Char) : List Char :=
  let ds := (Nat.toDigits 16 c.toNat).map Char.toUpper
  '\\' :: 'u' :: List.replicate (4 - ds.length) '0' ++ ds

/-- A character other than the quote between double quotes. -/
def escaped (long : Bool) (c : Char) : List Char :=
  if c = '\x08' then ['\\', 'b']
  else if c = '\t' then ['\\', 't']
  else if c = '\x0c' then ['\\', 'f']
  else if c = '\r' then ['\\', 'r']
  else if c = '\\' then ['\\', '\\']
  else if c = '\n' then (if long then [c] else ['\\', 'n'])
  else if isEscaped c then controlEscape c
  else [c]

/-- The characters between double quotes. At most `allowed` quotes in a row stay bare, and `run` of
them stand before this place. -/
def basicBody (long : Bool) (allowed run : Nat) : List Char → List Char
  | [] => []
  | c :: rest =>
    if c = '"' then
      if run < allowed then c :: basicBody long allowed (run + 1) rest
      else '\\' :: c :: basicBody long allowed 0 rest
    else escaped long c ++ basicBody long allowed 0 rest

/-- A string in quotes of one style; a text with line breaks begins on a line of its own. -/
def write (style : Style) (cs : List Char) : List Char :=
  let first := if cs.contains '\n' then ['\n'] else []
  match style with
  | .basic => '"' :: basicBody false 0 0 cs ++ ['"']
  | .literal => '\'' :: cs ++ ['\'']
  | .longBasic => ['"', '"', '"'] ++ first ++ basicBody true 2 0 cs ++ ['"', '"', '"']
  | .longLiteral => ['\'', '\'', '\''] ++ first ++ cs ++ ['\'', '\'', '\'']

def value (s : String) : List Char := write (traits s.toList).style s.toList

def isBareKeyChar (c : Char) : Bool := c.isAlphanum || c = '_' || c = '-'

def key (s : String) : List Char :=
  let cs := s.toList
  if cs ≠ [] ∧ cs.all isBareKeyChar then cs else write (traits cs).keyStyle cs

end Quotes

mutual

def Value.chars : Value → List Char
  | .text s => Quotes.value s
  | .integer i => (Text.integer i).toList
  | .float x => x.text.toList
  | .boolean b => (if b then "true" else "false").toList
  | .dateTime d => d.chars
  | .array items => '[' :: itemsChars items ++ [']']
  | .table [] => ['\x7b', '\x7d']
  | .table (e :: entries) => '\x7b' :: ' ' :: entriesChars (e :: entries) ++ [' ', '\x7d']

def itemsChars : List Value → List Char
  | [] => []
  | [x] => x.chars
  | x :: xs => x.chars ++ ',' :: ' ' :: itemsChars xs

def entriesChars : List (String × Value) → List Char
  | [] => []
  | [(key, x)] => Quotes.key key ++ ' ' :: '=' :: ' ' :: x.chars
  | (key, x) :: rest => Quotes.key key ++ ' ' :: '=' :: ' ' :: x.chars ++ ',' :: ' ' :: entriesChars rest

end

def Value.display (v : Value) : String := String.ofList v.chars

end Supervisor.Toml
