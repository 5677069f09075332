/-!
# Blank characters

The characters of the Unicode property White_Space, and trimming them from both ends of a text.
Control characters outside the property and the zero-width spaces are not blank.
-/

namespace Supervisor.Text

/-- The Unicode property White_Space. -/
def isBlank (c : Char) : Bool :=
  let n := c.toNat
  (9 ≤ n && n ≤ 13) || n = 0x20 || n = 0x85 || n = 0xA0 || n = 0x1680 ||
    (0x2000 ≤ n && n ≤ 0x200A) || n = 0x2028 || n = 0x2029 || n = 0x202F || n = 0x205F || n = 0x3000

/-- The characters without the blank ones at both ends. -/
def trimChars (cs : List Char) : List Char :=
  ((cs.dropWhile isBlank).reverse.dropWhile isBlank).reverse

/-- The text without the blank characters at both ends. -/
def trim (s : String) : String := String.ofList (trimChars s.toList)

/-- The text has no character that is not blank. -/
def allBlank (s : String) : Bool := s.toList.all isBlank

@[simp] theorem toList_trim (s : String) : (trim s).toList = trimChars s.toList :=
  String.toList_ofList

theorem dropWhile_isBlank_eq_nil_iff (cs : List Char) :
    cs.dropWhile isBlank = [] ↔ ∀ c ∈ cs, isBlank c = true := by
  induction cs with
  | nil => simp
  | cons c cs ih => by_cases h : isBlank c = true <;> simp [h, ih]

theorem isBlank_of_all_dropWhile {cs : List Char} (h : ∀ c ∈ cs.dropWhile isBlank, isBlank c = true) :
    ∀ c ∈ cs, isBlank c = true := by
  induction cs with
  | nil => simp
  | cons c cs ih => by_cases hc : isBlank c = true <;> simp_all

/-- Trimming leaves nothing exactly when every character is blank. -/
theorem trimChars_eq_nil_iff (cs : List Char) : trimChars cs = [] ↔ ∀ c ∈ cs, isBlank c = true := by
  rw [trimChars, List.reverse_eq_nil_iff, dropWhile_isBlank_eq_nil_iff]
  constructor
  · exact fun h => isBlank_of_all_dropWhile fun c hc => h c (List.mem_reverse.2 hc)
  · intro h
    rw [(dropWhile_isBlank_eq_nil_iff cs).2 h]
    simp

end Supervisor.Text
