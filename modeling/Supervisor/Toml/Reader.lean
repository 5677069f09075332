import Supervisor.Toml.Node
import Supervisor.Toml.Quotation

/-!
# Reading a document

A document is a list of statements: headers, and keys with their values. `Statement.readAll?` splits
the text into statements and `Document.read?` carries them out one after the other. Values nest to
`maxNesting`; the bound on every loop is the number of characters left.
-/

namespace Supervisor.Toml

/-- How deep arrays and tables in braces may nest. -/
def maxNesting : Nat := 80

/-! ## Spaces -/

def isSpace (c : Char) : Bool := c = ' ' || c = '\t'

def skipSpaces (cs : List Char) : List Char := cs.dropWhile isSpace

/-- Past a comment, up to the end of its line. -/
def skipComment : List Char → Option (List Char)
  | [] => some []
  | '\r' :: '\n' :: rest => some ('\r' :: '\n' :: rest)
  | c :: rest =>
    if c = '\n' then some (c :: rest)
    else if Quotation.isControl c then none
    else skipComment rest

/-- Past the end of a line, with a comment before it if there is one. -/
def endLine? (cs : List Char) : Option (List Char) := do
  let cs := skipSpaces cs
  let cs ← match cs with
    | '#' :: rest => skipComment rest
    | _ => some cs
  match cs with
  | [] => some []
  | _ => (Quotation.lineBreak? cs).map cs.drop

/-- Past spaces, line breaks and comments; `inComment` tells whether a comment has begun. -/
def skipBlank (inComment : Bool) : List Char → Option (List Char)
  | [] => some []
  | '\r' :: '\n' :: rest => skipBlank false rest
  | c :: rest =>
    if c = '\n' then skipBlank false rest
    else if inComment then if Quotation.isControl c then none else skipBlank true rest
    else if isSpace c then skipBlank false rest
    else if c = '#' then skipBlank true rest
    else some (c :: rest)

/-! ## Keys -/

def isBareChar (c : Char) : Bool := c.isAlphanum || c = '_' || c = '-'

/-- One part of a key. -/
def keyPart? (cs : List Char) : Option (String × List Char) :=
  match cs with
  | '"' :: _ | '\'' :: _ => (Quotation.readLine? cs).map fun r => (String.ofList r.1, r.2)
  | _ =>
    let bare := cs.takeWhile isBareChar
    if bare = [] then none else some (String.ofList bare, cs.dropWhile isBareChar)

/-- The parts of a key between dots, the last one apart. -/
def key? : Nat → List Char → Option (List String × String × List Char)
  | 0, _ => none
  | fuel + 1, cs => do
    let (part, cs) ← keyPart? (skipSpaces cs)
    match skipSpaces cs with
    | '.' :: rest =>
      let (path, last, rest) ← key? fuel rest
      some (part :: path, last, rest)
    | rest => some ([], part, rest)

/-! ## Values -/

/-- The elements of an array, after its opening bracket. -/
def items? (item : List Char → Option (Node × List Char)) :
    Nat → List Char → Option (List Node × List Char)
  | 0, _ => none
  | fuel + 1, cs => do
    match ← skipBlank false cs with
    | ']' :: rest => some ([], rest)
    | cs =>
      let (x, cs) ← item cs
      match ← skipBlank false cs with
      | ',' :: rest =>
        let (xs, rest) ← items? item fuel rest
        some (x :: xs, rest)
      | ']' :: rest => some ([x], rest)
      | _ => none

/-- The entries of a table in braces, after its opening brace. -/
def members? (item : List Char → Option (Node × List Char)) :
    Nat → Entries → List Char → Option (Entries × List Char)
  | 0, _, _ => none
  | fuel + 1, entries, cs => do
    match ← skipBlank false cs with
    | '\x7d' :: rest => some (entries, rest)
    | cs =>
      let (path, key, cs) ← key? (cs.length + 1) cs
      let cs ← char? '=' cs
      let (value, cs) ← item (skipSpaces cs)
      let entries ← entries.assign path key value .header
      match ← skipBlank false cs with
      | ',' :: rest => members? item fuel entries rest
      | '\x7d' :: rest => some (entries, rest)
      | _ => none

/-- A value whose arrays and tables in braces nest no deeper than given. -/
def value? : Nat → List Char → Option (Node × List Char)
  | depth, '[' :: rest =>
    match depth with
    | 0 => none
    | depth + 1 => do
      let (xs, rest) ← items? (value? depth) (rest.length + 1) rest
      some (.array false xs, rest)
  | depth, '\x7b' :: rest =>
    match depth with
    | 0 => none
    | depth + 1 => do
      let (entries, rest) ← members? (value? depth) (rest.length + 1) [] rest
      some (.table .braces entries, rest)
  | _, cs =>
    match cs with
    | '"' :: _ | '\'' :: _ => (Quotation.read? cs).map fun r => (.text (String.ofList r.1), r.2)
    | _ => (Scalar.read? cs).map fun r => (.scalar r.1, r.2)

/-! ## Statements -/

inductive Statement where
  /-- A header, single or repeated. -/
  | header (repeated : Bool) (path : List String) (key : String)
  | assign (path : List String) (key : String) (value : Node)

namespace Statement

/-- One statement, up to the end of its line. -/
def read? (cs : List Char) : Option (Statement × List Char) :=
  match cs with
  | '[' :: '[' :: rest => do
    let (path, key, rest) ← key? (rest.length + 1) rest
    match rest with
    | ']' :: ']' :: rest => some (.header true path key, ← endLine? rest)
    | _ => none
  | '[' :: rest => do
    let (path, key, rest) ← key? (rest.length + 1) rest
    let rest ← char? ']' rest
    some (.header false path key, ← endLine? rest)
  | _ => do
    let (path, key, rest) ← key? (cs.length + 1) cs
    let rest ← char? '=' rest
    let (value, rest) ← value? maxNesting (skipSpaces rest)
    some (.assign path key value, ← endLine? rest)

/-- All statements. -/
def readAll? : Nat → List Char → Option (List Statement)
  | 0, _ => none
  | fuel + 1, cs => do
    match ← skipBlank false cs with
    | [] => some []
    | cs =>
      let (statement, rest) ← read? cs
      let statements ← readAll? fuel rest
      some (statement :: statements)

end Statement

/-- The entries of a document so far, and the path of the header that keys belong to. -/
structure Document where
  entries : Entries
  current : List String

namespace Document

def empty : Document := ⟨[], []⟩

/-- Carry out one statement. -/
def run (d : Document) : Statement → Option Document
  | .header repeated path key => do
    let change := if repeated then Entries.openRepeated key else Entries.openTable key
    let entries ← Entries.edit false change path .header d.entries
    some ⟨entries, path ++ [key]⟩
  | .assign path key value => do
    let entries ← Entries.edit false (fun kind inside => Entries.assign path key value kind inside)
      d.current .header d.entries
    some ⟨entries, d.current⟩

/-- Read a document; a byte order mark at its front does not count. -/
def read? (s : String) : Option Entries := do
  let cs := s.toList
  let cs := if cs.head? = some '\ufeff' then cs.drop 1 else cs
  let statements ← Statement.readAll? (cs.length + 1) cs
  let d ← statements.foldlM run empty
  some d.entries

end Document

end Supervisor.Toml
