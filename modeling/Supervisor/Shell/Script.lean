/-!
# Scripts

The command language in which a procedure may say what it does: words with parameters in them, and
commands built from programs by sequence, choice, repetition and redirection.
-/

namespace Supervisor.Shell

/-- A piece of a word. What an unquoted piece stands for is split into fields at its blanks. -/
inductive Piece where
  | text (s : String) (quoted : Bool)
  | parameter (name : String) (quoted : Bool)
  /-- The value of an expression over integers. -/
  | arithmetic (expression : String) (quoted : Bool)
  /-- What a script prints. -/
  | output (script : String) (quoted : Bool)
  deriving DecidableEq, Repr

abbrev Word := List Piece

/-- The two streams a program writes to. -/
inductive Channel where
  | output
  | errors
  deriving DecidableEq, Repr

inductive Redirection where
  | readFrom (path : Word)
  | writeTo (channel : Channel) (append : Bool) (path : Word)
  /-- The channel goes wherever the other one goes. -/
  | join (channel target : Channel)
  deriving DecidableEq, Repr

/-- A program with its arguments. -/
structure Invocation where
  assignments : List (String × Word) := []
  words : List Word := []
  redirections : List Redirection := []
  deriving DecidableEq, Repr

inductive Command where
  | nothing
  | invoke (i : Invocation)
  | sequence (first second : Command)
  /-- The second command only if the first one has succeeded, or only if it has failed. -/
  | guarded (first : Command) (success : Bool) (second : Command)
  | negation (c : Command)
  | pipeline (first second : Command)
  | branch (condition success failure : Command)
  /-- The body for as long as the condition succeeds, or for as long as it fails. -/
  | loop (success : Bool) (condition body : Command)
  | each (name : String) (items : List Word) (body : Command)
  /-- The first arm with a pattern that the subject matches. -/
  | choice (subject : Word) (arms : List (List Word × Command))
  | subshell (body : Command)
  /-- Nothing waits for the body. -/
  | background (body : Command)
  | redirected (body : Command) (redirections : List Redirection)

/-- The word is this text, all of it unquoted. -/
def Word.spells (w : Word) (s : String) : Bool := w == [.text s false]

/-- A word with one character before it. -/
def Word.cons (c : Char) (quoted : Bool) : Word → Word
  | .text s q :: rest =>
    if q = quoted then .text (String.ofList (c :: s.toList)) q :: rest
    else .text (String.ofList [c]) quoted :: .text s q :: rest
  | w => .text (String.ofList [c]) quoted :: w

/-- The scripts whose output a word needs, from left to right. -/
def Word.scripts (w : Word) : List String :=
  w.filterMap fun
    | .output script _ => some script
    | _ => none

/-- A character that may stand in the name of a parameter. -/
def isNameChar (c : Char) : Bool := c.isAlphanum || c == '_'

/-- The name of a parameter that can be assigned to. -/
def isName (cs : List Char) : Bool :=
  !cs.isEmpty && cs.all isNameChar && !(cs.head?.any Char.isDigit)

end Supervisor.Shell
