import Supervisor.Shell.Script

/-!
# Tokens of scripts

A script is cut into words, signs and redirections. Blanks separate words unless they are quoted; a
number sign at the start of a word begins a comment. What stands between the brackets of a nested
script or of an expression is kept as text.
-/

namespace Supervisor.Shell

inductive Token where
  | word (w : Word)
  /-- A sign between commands; the end of a line is one. -/
  | sign (s : String)
  /-- A redirection whose target is the next word. -/
  | readFrom
  | writeTo (channel : Channel) (append : Bool)
  /-- A redirection of a channel to wherever another one goes. -/
  | join (channel target : Channel)
  deriving DecidableEq, Repr

namespace Token

/-- The sign at the end of a line. -/
def line : Token := .sign "\n"

def isBlank (c : Char) : Bool := c == ' ' || c == '\t'

/-- An unquoted character that ends a word. -/
def endsWord (c : Char) : Bool := isBlank c || ['\n', ';', '&', '|', '(', ')', '<', '>'].contains c

/-- What comes before the bracket that closes the brackets open so far, and what follows it. A
bracket in quotes counts for nothing. -/
def enclosed (depth : Nat) (quote : Option Char) : List Char → Option (List Char × List Char)
  | [] => none
  | c :: rest =>
    let go := fun depth quote => (enclosed depth quote rest).map fun r => (c :: r.1, r.2)
    match quote with
    | some q => go depth (if c = q then none else some q)
    | none =>
      if c = '\'' ∨ c = '"' then go depth (some c)
      else if c = '(' then go (depth + 1) none
      else if c = ')' then if depth = 0 then some ([], rest) else go (depth - 1) none
      else go depth none

/-- What comes before a character and what follows it, if it is there. -/
def before (mark : Char) (cs : List Char) : Option (List Char × List Char) :=
  match cs.dropWhile (· ≠ mark) with
  | [] => none
  | _ :: rest => some (cs.takeWhile (· ≠ mark), rest)

/-- What stands after a dollar sign, as a piece. -/
def dollar (quoted : Bool) (cs : List Char) : Option (Piece × List Char) :=
  match cs with
  | '(' :: '(' :: rest => do
    let (inner, rest) ← enclosed 0 none rest
    let ')' :: rest := rest | none
    return (.arithmetic (String.ofList inner) quoted, rest)
  | '(' :: rest => (enclosed 0 none rest).map fun r => (.output (String.ofList r.1) quoted, r.2)
  | '\x7b' :: rest =>
    (before '\x7d' rest).map fun r => (.parameter (String.ofList r.1) quoted, r.2)
  | c :: rest =>
    if c.isDigit ∨ ['?', '$', '#', '@', '*', '!', '-'].contains c then
      some (.parameter (String.ofList [c]) quoted, rest)
    else if isNameChar c then
      some (.parameter (String.ofList (cs.takeWhile isNameChar)) quoted, cs.dropWhile isNameChar)
    else some (.text "$" quoted, cs)
  | [] => some (.text "$" quoted, [])

/-- A backslash between double quotes keeps its meaning only before these characters. -/
def isEscapable (c : Char) : Bool := ['$', '"', '\\', '\x60'].contains c

/-- The pieces up to the closing double quote, and what follows it. -/
def quotedPieces : Nat → List Char → Option (Word × List Char)
  | 0, _ | _, [] => none
  | fuel + 1, c :: rest =>
    if c = '"' then some ([], rest)
    else if c = '$' then do
      let (piece, rest) ← dollar true rest
      let (w, rest) ← quotedPieces fuel rest
      return (piece :: w, rest)
    else if c = '\x60' then do
      let (script, rest) ← before '\x60' rest
      let (w, rest) ← quotedPieces fuel rest
      return (.output (String.ofList script) true :: w, rest)
    else match c, rest with
      | '\\', '\n' :: rest => quotedPieces fuel rest
      | '\\', e :: rest' =>
        if isEscapable e then (quotedPieces fuel rest').map fun r => (r.1.cons e true, r.2)
        else (quotedPieces fuel rest).map fun r => (r.1.cons c true, r.2)
      | _, _ => (quotedPieces fuel rest).map fun r => (r.1.cons c true, r.2)

/-- The pieces of a word, and what follows it. -/
def pieces : Nat → List Char → Option (Word × List Char)
  | 0, _ => none
  | _, [] => some ([], [])
  | fuel + 1, c :: rest =>
    if endsWord c then some ([], c :: rest)
    else if c = '\'' then do
      let (inner, rest) ← before '\'' rest
      let (w, rest) ← pieces fuel rest
      return (.text (String.ofList inner) true :: w, rest)
    else if c = '"' then do
      let (inner, rest) ← quotedPieces (fuel + 1) rest
      let (w, rest) ← pieces fuel rest
      return ((if inner = [] then [.text "" true] else inner) ++ w, rest)
    else if c = '$' then do
      let (piece, rest) ← dollar false rest
      let (w, rest) ← pieces fuel rest
      return (piece :: w, rest)
    else if c = '\x60' then do
      let (script, rest) ← before '\x60' rest
      let (w, rest) ← pieces fuel rest
      return (.output (String.ofList script) false :: w, rest)
    else match c, rest with
      | '\\', '\n' :: rest => pieces fuel rest
      | '\\', e :: rest => (pieces fuel rest).map fun r => (r.1.cons e true, r.2)
      | _, _ => (pieces fuel rest).map fun r => (r.1.cons c false, r.2)

/-- A sign or a redirection without a number before it. -/
def mark? : List Char → Option (Token × List Char)
  | '\n' :: rest => some (line, rest)
  | ';' :: ';' :: rest => some (.sign ";;", rest)
  | ';' :: rest => some (.sign ";", rest)
  | '&' :: '&' :: rest => some (.sign "&&", rest)
  | '&' :: rest => some (.sign "&", rest)
  | '|' :: '|' :: rest => some (.sign "||", rest)
  | '|' :: rest => some (.sign "|", rest)
  | '(' :: rest => some (.sign "(", rest)
  | ')' :: rest => some (.sign ")", rest)
  | '>' :: '>' :: rest => some (.writeTo .output true, rest)
  | '>' :: '&' :: '2' :: rest => some (.join .output .errors, rest)
  | '>' :: '&' :: '1' :: rest => some (.join .output .output, rest)
  | '>' :: '|' :: rest | '>' :: rest => some (.writeTo .output false, rest)
  | '<' :: rest => some (.readFrom, rest)
  | _ => none

/-- A redirection with the number of its stream. -/
def numbered? : List Char → Option (Token × List Char)
  | '0' :: '<' :: rest => some (.readFrom, rest)
  | '1' :: '>' :: rest => mark? ('>' :: rest)
  | '2' :: '>' :: '>' :: rest => some (.writeTo .errors true, rest)
  | '2' :: '>' :: '&' :: '1' :: rest => some (.join .errors .output, rest)
  | '2' :: '>' :: '&' :: '2' :: rest => some (.join .errors .errors, rest)
  | '2' :: '>' :: '|' :: rest | '2' :: '>' :: rest => some (.writeTo .errors false, rest)
  | _ => none

/-- The tokens of a text, if its quotes and brackets are closed. The number bounds the tokens and
the blanks between them. -/
def scan : Nat → List Char → Option (List Token)
  | 0, _ => none
  | _, [] => some []
  | fuel + 1, c :: rest =>
    if isBlank c then scan fuel rest
    else if c = '#' then scan fuel (rest.dropWhile (· ≠ '\n'))
    else match (mark? (c :: rest)).orElse fun _ => numbered? (c :: rest) with
      | some (token, rest) => (scan fuel rest).map (token :: ·)
      | none =>
        match c, rest with
        | '\\', '\n' :: rest => scan fuel rest
        | _, _ => do
          let (w, rest) ← pieces (fuel + 1) (c :: rest)
          let tokens ← scan fuel rest
          return .word w :: tokens

/-- The tokens of a script. -/
def ofText? (script : String) : Option (List Token) :=
  scan (script.length + 1) script.toList

end Token

end Supervisor.Shell
