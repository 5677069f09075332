import Supervisor.Text.Classes

/-!
# Numbers and texts as they are written

Numbers in decimal digits; a text between double quotes with escapes for the quote, the backslash and
every character that would not show, and lists of such texts in square brackets. An apostrophe stands
as it is.
-/

namespace Supervisor.Text

/-! ## Numerals -/

/-- A natural number in decimal digits. -/
def natural (n : Nat) : String := String.ofList (Nat.toDigits 10 n)

/-- An integer in decimal digits, with a minus sign where it is negative. -/
def integer : Int → String
  | .ofNat n => natural n
  | .negSucc n => "-" ++ natural (n + 1)

/-! ## Quoted text -/

/-- A code point as `\u` and its digits in base sixteen between braces. -/
def codePointEscape (c : Char) : List Char :=
  '\\' :: 'u' :: '\x7b' :: Nat.toDigits 16 c.toNat ++ ['\x7d']

/-- A character as it stands inside quoted text. -/
def quotedChar (c : Char) : List Char :=
  if c = '\n' then ['\\', 'n']
  else if c = '\r' then ['\\', 'r']
  else if c = '\t' then ['\\', 't']
  else if c.toNat = 0 then ['\\', '0']
  else if c = '"' then ['\\', '"']
  else if c = '\\' then ['\\', '\\']
  else if unprinted.has c then codePointEscape c
  else [c]

def quoted (s : String) : String :=
  String.ofList ('"' :: s.toList.flatMap quotedChar ++ ['"'])

/-- Quoted texts between square brackets, separated by commas. -/
def quotedList (xs : List String) : String :=
  "[" ++ ", ".intercalate (xs.map quoted) ++ "]"

end Supervisor.Text
