import Supervisor.Shell.Arithmetic
import Supervisor.Text.Spelling

/-!
# Expansion of words

From words to the texts they stand for. The output of nested scripts is given; everything else is
looked up. An invocation takes the fields of its words, an assignment a word as a whole.
-/

namespace Supervisor.Shell

/-- What a piece of a word has become. -/
structure Expanded where
  text : String
  quoted : Bool
  /-- It is cut into fields at its blanks. -/
  splits : Bool

namespace Expanded

/-- What the pieces of a word stand for, and the outputs that are left for other words. -/
def ofWord? (lookup : String → String) : Word → List String → Option (List Expanded × List String)
  | [], outputs => some ([], outputs)
  | .text s quoted :: rest, outputs =>
    (ofWord? lookup rest outputs).map fun r => (⟨s, quoted, false⟩ :: r.1, r.2)
  | .parameter name quoted :: rest, outputs =>
    (ofWord? lookup rest outputs).map fun r => (⟨lookup name, quoted, !quoted⟩ :: r.1, r.2)
  | .arithmetic expression quoted :: rest, outputs => do
    let n ← Arithmetic.evaluate? lookup expression
    let (expanded, outputs) ← ofWord? lookup rest outputs
    return (⟨Text.integer n, quoted, !quoted⟩ :: expanded, outputs)
  | .output _ quoted :: rest, output :: outputs =>
    (ofWord? lookup rest outputs).map fun r => (⟨output, quoted, !quoted⟩ :: r.1, r.2)
  | .output _ quoted :: rest, [] =>
    (ofWord? lookup rest []).map fun r => (⟨"", quoted, !quoted⟩ :: r.1, r.2)

/-- The text as one, whatever blanks are in it. -/
def whole (es : List Expanded) : String := String.join (es.map (·.text))

/-- Cut a text at its blanks; the field begun before it goes on, and the last one stays open. -/
def cut (fields : List String) (current : Option (List Char)) :
    List Char → List String × Option (List Char)
  | [] => (fields, current)
  | c :: rest =>
    if Arithmetic.isSpace c then
      cut (fields ++ (current.map fun cs => String.ofList cs.reverse).toList) none rest
    else cut fields (some (c :: current.getD [])) rest

/-- The fields of a word. Quoting makes a field even of nothing. -/
def fields (es : List Expanded) : List String :=
  let step := fun (r : List String × Option (List Char)) (e : Expanded) =>
    if e.splits then cut r.1 r.2 e.text.toList
    else if e.text = "" ∧ !e.quoted then r
    else (r.1, some (e.text.toList.reverse ++ r.2.getD []))
  let (done, current) := es.foldl step ([], none)
  done ++ (current.map fun cs => String.ofList cs.reverse).toList

end Expanded

/-- The fields of words, one after the other. -/
def fieldsOf? (lookup : String → String) : List Word → List String →
    Option (List String × List String)
  | [], outputs => some ([], outputs)
  | w :: ws, outputs => do
    let (expanded, outputs) ← Expanded.ofWord? lookup w outputs
    let (rest, outputs) ← fieldsOf? lookup ws outputs
    return (Expanded.fields expanded ++ rest, outputs)

/-! ## Patterns -/

inductive PatternItem where
  | char (c : Char)
  | anyChar
  | anyText
  deriving DecidableEq, Repr

/-- The pattern that expanded pieces make; what is quoted matches only itself. -/
def patternOf (es : List Expanded) : List PatternItem :=
  es.flatMap fun e => e.text.toList.map fun c =>
    if e.quoted then .char c else if c = '*' then .anyText else if c = '?' then .anyChar else .char c

/-- The whole text matches the pattern. -/
def matchesPattern : List PatternItem → List Char → Bool
  | [], cs => cs.isEmpty
  | .char c :: ps, cs =>
    match cs with
    | [] => false
    | d :: ds => c == d && matchesPattern ps ds
  | .anyChar :: ps, cs =>
    match cs with
    | [] => false
    | _ :: ds => matchesPattern ps ds
  | .anyText :: ps, cs =>
    matchesPattern ps cs ||
      match cs with
      | [] => false
      | _ :: ds => matchesPattern (.anyText :: ps) ds
termination_by ps cs => ps.length + cs.length

end Supervisor.Shell
