import Supervisor.Logging.Level
import Supervisor.Text.Spelling

/-!
# Log filters

Which messages are shown: a list of directives, each a threshold for one target or for all. A filter
is chosen from the command line's level or else from a text, which is a bare level or a list of
directives separated by commas; a text that is neither counts as `info`.
-/

namespace Supervisor.Logging

/-- Show nothing, or what is at least as severe as a level. -/
abbrev Threshold := Option Level

namespace Threshold

def text : Threshold → String
  | none => "off"
  | some level => level.word

/-- The thresholds by number, from nothing to everything. -/
def numbered : List Threshold := none :: Level.all.map some

/-- A number in decimal digits, with or without a plus sign. -/
def number? (cs : List Char) : Option Nat :=
  let digits := if cs.head? = some '+' then cs.drop 1 else cs
  if digits ≠ [] ∧ digits.all Char.isDigit then
    some (digits.foldl (fun n c => 10 * n + (c.toNat - '0'.toNat)) 0)
  else none

/-- A threshold as its number or as its word in any ASCII case. -/
def read? (cs : List Char) : Option Threshold :=
  match number? cs with
  | some n => numbered[n]?
  | none => numbered.find? fun t => t.text == Text.asciiLowercase (String.ofList cs)

end Threshold

structure Directive where
  target : Option String
  threshold : Threshold
  deriving DecidableEq, Repr

namespace Directive

def text (d : Directive) : String :=
  match d.target with
  | some target => target ++ "=" ++ d.threshold.text
  | none => d.threshold.text

/-- A directive can begin with the character. -/
def canBegin (c : Char) : Bool := c = '-' || c = ':' || c = '_' || Text.alphanumeric.has c

/-- Read `level`, `target` or `target=level`; an absent level is `trace`. Places are counted after
the blanks at the front and then taken from the text with them. -/
def read? (cs : List Char) : Option Directive :=
  let trimmed := Text.trimChars cs
  match trimmed with
  | [] => none
  | first :: _ =>
    if !canBegin first || trimmed.contains '[' then none
    else match trimmed.findIdx? (· = '=') with
      | none =>
        match Threshold.read? cs with
        | some threshold => some ⟨none, threshold⟩
        | none => some ⟨some (String.ofList cs), some .trace⟩
      | some place =>
        let level := cs.drop (place + 1)
        let threshold := if level = [] then some (some .trace) else Threshold.read? level
        threshold.map fun t => ⟨some (String.ofList (cs.take place)), t⟩

/-- The more special directive stands first: the longer target, then the greater one. -/
def before (a b : Directive) : Bool :=
  match a.target, b.target with
  | some x, some y => y.utf8ByteSize < x.utf8ByteSize || (x.utf8ByteSize = y.utf8ByteSize && y < x)
  | some _, none => true
  | none, _ => false

end Directive

/-- Directives for different targets, the more special ones first. -/
structure Filter where
  directives : List Directive
  deriving DecidableEq, Repr

namespace Filter

def ofLevel (level : Level) : Filter := ⟨[⟨none, some level⟩]⟩

/-- Put a directive at its place, instead of one for the same target. -/
def insertDirective (d : Directive) : List Directive → List Directive
  | [] => [d]
  | e :: rest =>
    if d.target = e.target then d :: rest
    else if d.before e then d :: e :: rest
    else e :: insertDirective d rest

/-- The parts of a text between commas, without the empty ones. -/
def parts (cs : List Char) : List (List Char) := (cs.splitOn ',').filter (· ≠ [])

/-- Read a list of directives; a list without any shows errors only. -/
def ofText? (s : String) : Option Filter :=
  match (parts s.toList).mapM Directive.read? with
  | none => none
  | some [] => some (ofLevel .error)
  | some directives => some ⟨directives.foldl (fun l d => insertDirective d l) []⟩

/-- The filter of a level and a text, either of which may be absent. -/
def choose (level : Option Level) (text : Option String) : Filter :=
  match level, text with
  | some level, _ => ofLevel level
  | none, none => ofLevel .info
  | none, some text =>
    match Level.read? text with
    | some level => ofLevel level
    | none => (ofText? (Text.trim text)).getD (ofLevel .info)

def text (f : Filter) : String := ",".intercalate (f.directives.map Directive.text)

end Filter

end Supervisor.Logging
