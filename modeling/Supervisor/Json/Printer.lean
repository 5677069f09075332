import Supervisor.Json.Reader

/-!
# Writing JSON

Members and elements stand on lines of their own, indented by two blanks for each level. Of the
characters of a string only quotes, backslashes and controls are escaped.
-/

namespace Supervisor.Json

/-- The code point of a control character in four hexadecimal digits. -/
def unitEscape (n : Nat) : List Char :=
  let ds := Nat.toDigits 16 n
  '\\' :: 'u' :: List.replicate (4 - ds.length) '0' ++ ds

/-- A character as a string holds it. -/
def escaped (c : Char) : List Char :=
  if c = '"' then ['\\', '"']
  else if c = '\\' then ['\\', '\\']
  else if c = '\x08' then ['\\', 'b']
  else if c = '\x0c' then ['\\', 'f']
  else if c = '\n' then ['\\', 'n']
  else if c = '\r' then ['\\', 'r']
  else if c = '\t' then ['\\', 't']
  else if c.toNat < 0x20 then unitEscape c.toNat
  else [c]

/-- A string; what spells no text is written as a lone surrogate. -/
def stringChars : Option String → List Char
  | some s => '"' :: s.toList.flatMap escaped ++ ['"']
  | none => '"' :: unitEscape 0xD800 ++ ['"']

/-- The beginning of a line. -/
def newLine (indent : Nat) : List Char := '\n' :: List.replicate (2 * indent) ' '

mutual

def Value.chars (indent : Nat) : Value → List Char
  | .null => ['n', 'u', 'l', 'l']
  | .boolean true => ['t', 'r', 'u', 'e']
  | .boolean false => ['f', 'a', 'l', 's', 'e']
  | .number literal => literal
  | .text s => stringChars s
  | .array [] => ['[', ']']
  | .array (x :: xs) => '[' :: itemsChars (indent + 1) (x :: xs) ++ newLine indent ++ [']']
  | .object [] => ['\x7b', '\x7d']
  | .object (e :: es) => '\x7b' :: membersChars (indent + 1) (e :: es) ++ newLine indent ++ ['\x7d']

def itemsChars (indent : Nat) : List Value → List Char
  | [] => []
  | [x] => newLine indent ++ x.chars indent
  | x :: xs => newLine indent ++ x.chars indent ++ ',' :: itemsChars indent xs

def membersChars (indent : Nat) : List (Option String × Value) → List Char
  | [] => []
  | [(key, x)] => newLine indent ++ stringChars key ++ ':' :: ' ' :: x.chars indent
  | (key, x) :: rest =>
    newLine indent ++ stringChars key ++ ':' :: ' ' :: x.chars indent ++
      ',' :: membersChars indent rest

end

/-- The text of a document with one value. -/
def Value.pretty (v : Value) : String := String.ofList (v.chars 0)

end Supervisor.Json
