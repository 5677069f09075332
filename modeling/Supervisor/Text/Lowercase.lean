import Supervisor.Text.Case

/-!
# Lower case

The lower-case form of a text by the rules of Unicode: letter by letter, but a dotted capital I
becomes two characters, and a capital sigma that ends a word becomes a final sigma.
-/

namespace Supervisor.Text

def CaseRun.covers (r : CaseRun) (n : Nat) : Bool :=
  r.first ≤ n && n ≤ r.last && (n - r.first) % r.step = 0

/-- The lower-case form of a letter where it does not depend on the letters around it. -/
def lowerChar (c : Char) : List Char :=
  if c.toNat = 0x130 then ['i', Char.ofNat 0x307]
  else
    match lowerRuns.find? fun r => r.covers c.toNat with
    | some r => [Char.ofNat (c.toNat + r.shift).toNat]
    | none => [c]

/-- Behind the case-ignorable characters comes a cased one. -/
def meetsCased (cs : List Char) : Bool :=
  match cs.dropWhile caseIgnorable.has with
  | c :: _ => cased.has c
  | [] => false

/-- Lower case of what follows `before`, which holds the characters already passed, last one first. -/
def lowerAfter (before : List Char) : List Char → List Char
  | [] => []
  | c :: rest =>
    let low :=
      if c = 'Σ' then
        if meetsCased before && !meetsCased rest then ['ς'] else ['σ']
      else lowerChar c
    low ++ lowerAfter (c :: before) rest

def lowercase (s : String) : String := String.ofList (lowerAfter [] s.toList)

/-- Lower case of the letters `A` to `Z` only. -/
def asciiLowercase (s : String) : String := String.ofList (s.toList.map Char.toLower)

end Supervisor.Text
