import Mathlib.Data.List.DropRight
import Mathlib.Data.List.Forall2
import Supervisor.Json.Printer
import Supervisor.Json.Reader

/-!
# JSON read back

What is written is read back, for every value without numbers whose strings are texts. A string is
taken in by its characters: an escape gives the character that it stands for, so no case on a whole
string is needed. A value is read wherever it is written, at any depth and with anything behind it;
the text that is left bounds the steps, and the beginning of a line pays for the step that is spent
on an element or a member.
-/

namespace Supervisor.Json

/-! ## Strings -/

/-- The part of a string stands for the character. -/
def Piece.Shows (p : Piece) (c : Char) : Prop :=
  p = .char c ∨ ∃ n < 0x20, p = .unit n ∧ Char.ofNat n = c

theorem characters?_unit {n : Nat} {ps : List Piece} {cs : List Char} (control : n < 0x20)
    (read : characters? ps = some cs) : characters? (.unit n :: ps) = some (Char.ofNat n :: cs) := by
  have high : isHighSurrogate n = false := by
    simp only [isHighSurrogate, Bool.and_eq_false_iff, decide_eq_false_iff_not]
    omega
  have low : isLowSurrogate n = false := by
    simp only [isLowSurrogate, Bool.and_eq_false_iff, decide_eq_false_iff_not]
    omega
  unfold characters?
  split
  · rename_i h; cases h
  · rename_i h; cases h
  · rename_i h
    cases h
    simp [high, low, read]
  · rename_i h
    cases h
    simp [high, low, read]

theorem characters?_of_shows {cs : List Char} {ps : List Piece}
    (shows : List.Forall₂ (fun c p => p.Shows c) cs ps) : characters? ps = some cs := by
  induction shows with
  | nil => rfl
  | cons head _ ih =>
    rcases head with rfl | ⟨n, control, rfl, rfl⟩
    · rw [characters?, ih]
      rfl
    · exact characters?_unit control ih

theorem unitEscape_control : ∀ n < 0x20,
    unitEscape n = ['\\', 'u', '0', '0', (n / 16).digitChar, (n % 16).digitChar] ∧
      unit? '0' '0' (n / 16).digitChar (n % 16).digitChar = some n := by
  decide

theorem pieces?_shown {c : Char} (quote : c ≠ '"') (backslash : c ≠ '\\') (shown : ¬ c.toNat < 0x20)
    (cs : List Char) : pieces? (c :: cs) = (pieces? cs).map fun r => (.char c :: r.1, r.2) := by
  have legal : ¬ (c.toNat < 0x20 ∨ c = '\\') := not_or.2 ⟨shown, backslash⟩
  rw [pieces?]
  · rw [if_neg legal]
    cases pieces? cs <;> rfl
  · exact quote
  · intro _ _ _ _ _ same
    exact absurd same backslash
  · intro _ _ same
    exact absurd same backslash

theorem pieces?_letter {c d : Char} (unit : c ≠ 'u') (letter : letterEscape? c = some d)
    (cs : List Char) :
    pieces? ('\\' :: c :: cs) = (pieces? cs).map fun r => (.char d :: r.1, r.2) := by
  rw [pieces?]
  · rw [letter]
    cases pieces? cs <;> rfl
  · intro _ _ _ _ _ same
    exact absurd same unit

theorem pieces?_unit {n : Nat} (control : n < 0x20) (cs : List Char) :
    pieces? (unitEscape n ++ cs) = (pieces? cs).map fun r => (.unit n :: r.1, r.2) := by
  obtain ⟨spelled, read⟩ := unitEscape_control n control
  rw [spelled]
  show pieces? ('\\' :: 'u' :: '0' :: '0' :: (n / 16).digitChar :: (n % 16).digitChar :: cs) = _
  rw [pieces?, read]
  cases pieces? cs <;> rfl

theorem escaped_cases (c : Char) :
    (∃ letter, letter ≠ 'u' ∧ letterEscape? letter = some c ∧ escaped c = ['\\', letter]) ∨
    (c.toNat < 0x20 ∧ escaped c = unitEscape c.toNat) ∨
    (c ≠ '"' ∧ c ≠ '\\' ∧ ¬ c.toNat < 0x20 ∧ escaped c = [c]) := by
  unfold escaped
  iterate 7
    split
    · rename_i same
      subst same
      exact .inl ⟨_, by decide, rfl, rfl⟩
  split
  · rename_i control
    exact .inr (.inl ⟨control, rfl⟩)
  · rename_i quote backslash _ _ _ _ _ shown
    exact .inr (.inr ⟨quote, backslash, shown, rfl⟩)

theorem pieces?_escaped (c : Char) : ∃ p, p.Shows c ∧ ∀ cs,
    pieces? (escaped c ++ cs) = (pieces? cs).map fun r => (p :: r.1, r.2) := by
  rcases escaped_cases c with ⟨letter, unit, read, same⟩ | ⟨control, same⟩ |
    ⟨quote, backslash, shown, same⟩
  · exact ⟨.char c, .inl rfl, same ▸ pieces?_letter unit read⟩
  · exact ⟨.unit c.toNat, .inr ⟨_, control, rfl, Char.ofNat_toNat c⟩, same ▸ pieces?_unit control⟩
  · exact ⟨.char c, .inl rfl, same ▸ pieces?_shown quote backslash shown⟩

theorem pieces?_flatMap_escaped (cs rest : List Char) : ∃ ps,
    List.Forall₂ (fun c p => p.Shows c) cs ps ∧
    pieces? (cs.flatMap escaped ++ '"' :: rest) = some (ps, rest) := by
  induction cs with
  | nil => exact ⟨[], .nil, by simp [pieces?]⟩
  | cons c cs ih =>
    obtain ⟨ps, shows, read⟩ := ih
    obtain ⟨p, here, first⟩ := pieces?_escaped c
    refine ⟨p :: ps, .cons here shows, ?_⟩
    rw [List.flatMap_cons, List.append_assoc, first, read]
    rfl

theorem string?_stringChars (s : String) (rest : List Char) :
    string? (stringChars (some s) ++ rest) = some (some s, rest) := by
  obtain ⟨ps, shows, read⟩ := pieces?_flatMap_escaped s.toList rest
  have split : stringChars (some s) ++ rest = '"' :: (s.toList.flatMap escaped ++ '"' :: rest) := by
    simp [stringChars]
  rw [split, string?, read, Option.map_some, characters?_of_shows shows, Option.map_some,
    String.ofList_toList]

/-! ## Values -/

theorem skipBlank_cons {c : Char} (shown : isBlank c = false) (cs : List Char) :
    skipBlank (c :: cs) = c :: cs := by
  simp [skipBlank, shown]

theorem skipBlank_append {blanks : List Char} (blank : ∀ c ∈ blanks, isBlank c = true)
    (cs : List Char) : skipBlank (blanks ++ cs) = skipBlank cs :=
  List.dropWhile_append_of_pos blank

theorem isBlank_newLine (indent : Nat) : ∀ c ∈ newLine indent, isBlank c = true := by
  intro c mem
  rcases List.mem_cons.1 mem with rfl | mem
  · rfl
  · obtain rfl := List.eq_of_mem_replicate mem
    rfl

theorem value?_congr {cs cs' : List Char} (same : skipBlank cs = skipBlank cs') (fuel : Nat) :
    value? fuel cs = value? fuel cs' := by
  cases fuel with
  | zero => simp [value?]
  | succ fuel => rw [value?, value?, same]

/-- A value that can be written and read: nothing in it is a number, and every string is a text. -/
inductive Value.Plain : Value → Prop
  | null : Plain .null
  | boolean (b : Bool) : Plain (.boolean b)
  | text (s : String) : Plain (.text (some s))
  | array {items : List Value} (plain : ∀ x ∈ items, Plain x) : Plain (.array items)
  | object {members : List (Option String × Value)} (keys : ∀ e ∈ members, e.1.isSome = true)
      (plain : ∀ e ∈ members, Plain e.2) : Plain (.object members)

/-- Wherever the value is written, reading takes it in and leaves the rest. -/
def Value.Reads (v : Value) : Prop := ∀ fuel indent rest,
  (v.chars indent ++ rest).length < fuel → value? fuel (v.chars indent ++ rest) = some (v, rest)

theorem Value.Reads.behind {v : Value} (reads : v.Reads) {blanks rest : List Char}
    (blank : ∀ c ∈ blanks, isBlank c = true) {fuel indent : Nat}
    (enough : (v.chars indent ++ rest).length < fuel) :
    value? fuel (blanks ++ (v.chars indent ++ rest)) = some (v, rest) := by
  rw [value?_congr (skipBlank_append blank _)]
  exact reads fuel indent rest enough

/-! ## Elements and members -/

section

variable {fuel : Nat} {key : Option String} {x : Value} {cs cs' cs'' rest rest' : List Char}

theorem items?_last (first : value? fuel cs = some (x, cs')) (close : skipBlank cs' = ']' :: rest) :
    items? (fuel + 1) cs = some ([x], rest) := by
  rw [items?, first]
  simp only [bind, Option.bind]
  rw [close]
  rfl

theorem items?_comma {xs : List Value} (first : value? fuel cs = some (x, cs'))
    (comma : skipBlank cs' = ',' :: rest) (others : items? fuel rest = some (xs, rest')) :
    items? (fuel + 1) cs = some (x :: xs, rest') := by
  rw [items?, first]
  simp only [bind, Option.bind]
  rw [comma]
  simp only [others]

theorem members?_last (named : string? (skipBlank cs) = some (key, cs'))
    (colon : skipBlank cs' = ':' :: rest) (first : value? fuel rest = some (x, cs''))
    (close : skipBlank cs'' = '\x7d' :: rest') :
    members? (fuel + 1) cs = some ([(key, x)], rest') := by
  rw [members?, named]
  simp only [bind, Option.bind]
  rw [colon]
  simp only [first]
  rw [close]
  rfl

theorem members?_comma {es : List (Option String × Value)} {left : List Char}
    (named : string? (skipBlank cs) = some (key, cs')) (colon : skipBlank cs' = ':' :: rest)
    (first : value? fuel rest = some (x, cs'')) (comma : skipBlank cs'' = ',' :: rest')
    (others : members? fuel rest' = some (es, left)) :
    members? (fuel + 1) cs = some ((key, x) :: es, left) := by
  rw [members?, named]
  simp only [bind, Option.bind]
  rw [colon]
  simp only [first]
  rw [comma]
  simp only [others]

end

theorem items?_itemsChars (x : Value) (xs : List Value) (reads : ∀ y ∈ x :: xs, y.Reads)
    (fuel indent outer : Nat) (rest : List Char)
    (enough : (itemsChars indent (x :: xs) ++ (newLine outer ++ ']' :: rest)).length < fuel) :
    items? fuel (itemsChars indent (x :: xs) ++ (newLine outer ++ ']' :: rest)) =
      some (x :: xs, rest) := by
  obtain ⟨fuel, rfl⟩ : ∃ n, fuel = n + 1 := ⟨fuel - 1, by omega⟩
  have here := reads x List.mem_cons_self
  -- the beginning of a line makes up for the step that is spent on the element
  induction xs generalizing x fuel with
  | nil =>
    simp only [itemsChars, List.append_assoc] at enough ⊢
    have less : (x.chars indent ++ (newLine outer ++ ']' :: rest)).length < fuel := by
      rw [List.length_append, newLine, List.length_cons] at enough
      omega
    have close : skipBlank (newLine outer ++ ']' :: rest) = ']' :: rest := by
      rw [skipBlank_append (isBlank_newLine outer), skipBlank_cons rfl]
    exact items?_last (here.behind (isBlank_newLine indent) less) close
  | cons y ys ih =>
    simp only [itemsChars, List.append_assoc, List.cons_append] at enough ⊢
    rw [List.length_append, newLine, List.length_cons] at enough
    have less : (x.chars indent ++ ',' :: (itemsChars indent (y :: ys) ++
        (newLine outer ++ ']' :: rest))).length < fuel := by omega
    obtain ⟨fuel, rfl⟩ : ∃ n, fuel = n + 1 := ⟨fuel - 1, by omega⟩
    have others := ih y (fun z mem => reads z (List.mem_cons_of_mem _ mem)) fuel (by
      rw [List.length_append, List.length_cons] at less
      omega) (reads y (List.mem_cons_of_mem _ List.mem_cons_self))
    exact items?_comma (here.behind (isBlank_newLine indent) less) (skipBlank_cons rfl _) others

theorem string?_newLine_stringChars (indent : Nat) (key : String) (rest : List Char) :
    string? (skipBlank (newLine indent ++ (stringChars (some key) ++ rest))) =
      some (some key, rest) := by
  have quote : stringChars (some key) ++ rest =
      '"' :: (key.toList.flatMap escaped ++ ['"'] ++ rest) := rfl
  rw [skipBlank_append (isBlank_newLine indent), quote, skipBlank_cons rfl, ← quote,
    string?_stringChars]

theorem members?_membersChars (e : Option String × Value) (es : List (Option String × Value))
    (keys : ∀ y ∈ e :: es, y.1.isSome = true) (reads : ∀ y ∈ e :: es, y.2.Reads)
    (fuel indent outer : Nat) (rest : List Char)
    (enough : (membersChars indent (e :: es) ++ (newLine outer ++ '\x7d' :: rest)).length < fuel) :
    members? fuel (membersChars indent (e :: es) ++ (newLine outer ++ '\x7d' :: rest)) =
      some (e :: es, rest) := by
  obtain ⟨fuel, rfl⟩ : ∃ n, fuel = n + 1 := ⟨fuel - 1, by omega⟩
  have blank : ∀ c ∈ [' '], isBlank c = true := by
    intro c mem
    obtain rfl := List.mem_singleton.1 mem
    rfl
  induction es generalizing e fuel with
  | nil =>
    obtain ⟨key, x⟩ := e
    obtain ⟨key, rfl⟩ := Option.isSome_iff_exists.1 (keys _ List.mem_cons_self)
    have here : x.Reads := reads _ List.mem_cons_self
    simp only [membersChars, List.append_assoc, List.cons_append] at enough ⊢
    have less : (x.chars indent ++ (newLine outer ++ '\x7d' :: rest)).length < fuel := by
      simp only [newLine, List.length_append, List.length_cons] at enough ⊢
      omega
    have close : skipBlank (newLine outer ++ '\x7d' :: rest) = '\x7d' :: rest := by
      rw [skipBlank_append (isBlank_newLine outer), skipBlank_cons rfl]
    exact members?_last (string?_newLine_stringChars ..) (skipBlank_cons rfl _)
      (here.behind blank less) close
  | cons y ys ih =>
    obtain ⟨key, x⟩ := e
    obtain ⟨key, rfl⟩ := Option.isSome_iff_exists.1 (keys _ List.mem_cons_self)
    have here : x.Reads := reads _ List.mem_cons_self
    simp only [membersChars, List.append_assoc, List.cons_append] at enough ⊢
    have less : (x.chars indent ++ ',' :: (membersChars indent (y :: ys) ++
        (newLine outer ++ '\x7d' :: rest))).length < fuel := by
      simp only [newLine, List.length_append, List.length_cons] at enough ⊢
      omega
    obtain ⟨fuel, rfl⟩ : ∃ n, fuel = n + 1 := ⟨fuel - 1, by omega⟩
    have others := ih y (fun z mem => keys z (List.mem_cons_of_mem _ mem))
      (fun z mem => reads z (List.mem_cons_of_mem _ mem)) fuel (by
      rw [List.length_append, List.length_cons] at less
      omega)
    exact members?_comma (string?_newLine_stringChars ..) (skipBlank_cons rfl _)
      (here.behind blank less) (skipBlank_cons rfl _) others

/-! ## Documents -/

theorem reads_null : Value.null.Reads := by
  intro fuel indent rest enough
  obtain ⟨fuel, rfl⟩ : ∃ n, fuel = n + 1 := ⟨fuel - 1, by omega⟩
  rfl

theorem reads_boolean (b : Bool) : (Value.boolean b).Reads := by
  intro fuel indent rest enough
  obtain ⟨fuel, rfl⟩ : ∃ n, fuel = n + 1 := ⟨fuel - 1, by omega⟩
  cases b <;> rfl

theorem reads_text (s : String) : (Value.text (some s)).Reads := by
  intro fuel indent rest enough
  obtain ⟨fuel, rfl⟩ : ∃ n, fuel = n + 1 := ⟨fuel - 1, by omega⟩
  have quote : stringChars (some s) ++ rest =
      '"' :: (s.toList.flatMap escaped ++ ['"'] ++ rest) := rfl
  rw [Value.chars, value?, quote, skipBlank_cons rfl]
  show (string? ('"' :: (s.toList.flatMap escaped ++ ['"'] ++ rest))).map _ = _
  rw [← quote, string?_stringChars]
  rfl

theorem skipBlank_skipBlank (cs : List Char) : skipBlank (skipBlank cs) = skipBlank cs :=
  List.dropWhile_idempotent ..

/-- No element begins with the bracket that closes. -/
theorem items?_close (fuel : Nat) (rest : List Char) : items? fuel (']' :: rest) = none := by
  match fuel with
  | 0 | 1 => rfl
  | fuel + 2 =>
    have none : value? (fuel + 1) (']' :: rest) = none := by
      rw [value?, skipBlank_cons rfl]
      rfl
    rw [items?, none]
    rfl

theorem items?_skipBlank (fuel : Nat) (cs : List Char) :
    items? fuel (skipBlank cs) = items? fuel cs := by
  cases fuel with
  | zero => rfl
  | succ fuel => rw [items?, items?, value?_congr (skipBlank_skipBlank cs)]

theorem value?_array {fuel : Nat} {cs rest : List Char} {xs : List Value}
    (read : items? fuel cs = some (xs, rest)) :
    value? (fuel + 1) ('[' :: cs) = some (.array xs, rest) := by
  rw [value?, skipBlank_cons rfl]
  simp only
  split
  · rename_i closed
    rw [← items?_skipBlank, closed, items?_close] at read
    cases read
  · rw [items?_skipBlank, read]
    rfl

theorem reads_array {items : List Value} (reads : ∀ x ∈ items, x.Reads) :
    (Value.array items).Reads := by
  intro fuel indent rest enough
  obtain ⟨fuel, rfl⟩ : ∃ n, fuel = n + 1 := ⟨fuel - 1, by omega⟩
  cases items with
  | nil => rfl
  | cons x xs =>
    have first : Value.chars indent (.array (x :: xs)) ++ rest =
        '[' :: (itemsChars (indent + 1) (x :: xs) ++ (newLine indent ++ ']' :: rest)) := by
      simp [Value.chars]
    rw [first] at enough ⊢
    rw [List.length_cons] at enough
    exact value?_array (items?_itemsChars x xs reads fuel _ _ rest (by omega))

theorem members?_close (fuel : Nat) (rest : List Char) : members? fuel ('\x7d' :: rest) = none := by
  cases fuel with
  | zero => rfl
  | succ fuel =>
    rw [members?, skipBlank_cons rfl]
    rfl

theorem members?_skipBlank (fuel : Nat) (cs : List Char) :
    members? fuel (skipBlank cs) = members? fuel cs := by
  cases fuel with
  | zero => rfl
  | succ fuel => rw [members?, members?, skipBlank_skipBlank]

theorem value?_object {fuel : Nat} {cs rest : List Char} {es : List (Option String × Value)}
    (read : members? fuel cs = some (es, rest)) :
    value? (fuel + 1) ('\x7b' :: cs) = some (.object es, rest) := by
  rw [value?, skipBlank_cons rfl]
  simp only
  split
  · rename_i closed
    rw [← members?_skipBlank, closed, members?_close] at read
    cases read
  · rw [members?_skipBlank, read]
    rfl

theorem reads_object {members : List (Option String × Value)}
    (keys : ∀ e ∈ members, e.1.isSome = true) (reads : ∀ e ∈ members, e.2.Reads) :
    (Value.object members).Reads := by
  intro fuel indent rest enough
  obtain ⟨fuel, rfl⟩ : ∃ n, fuel = n + 1 := ⟨fuel - 1, by omega⟩
  cases members with
  | nil => rfl
  | cons e es =>
    have first : Value.chars indent (.object (e :: es)) ++ rest =
        '\x7b' :: (membersChars (indent + 1) (e :: es) ++ (newLine indent ++ '\x7d' :: rest)) := by
      simp [Value.chars]
    rw [first] at enough ⊢
    rw [List.length_cons] at enough
    exact value?_object (members?_membersChars e es keys reads fuel _ _ rest (by omega))

theorem Value.Plain.reads {v : Value} (plain : v.Plain) : v.Reads := by
  induction plain with
  | null => exact reads_null
  | boolean b => exact reads_boolean b
  | text s => exact reads_text s
  | array _ ih => exact reads_array ih
  | object keys _ ih => exact reads_object keys ih

theorem read?_pretty {v : Value} (plain : v.Plain) : read? v.pretty = some v := by
  have enough : (v.chars 0 ++ []).length < (v.chars 0).length + 1 := by
    rw [List.append_nil]
    exact Nat.lt_succ_self _
  have read := plain.reads _ _ _ enough
  rw [List.append_nil] at read
  rw [read?, Value.pretty, String.toList_ofList, read]
  rfl

end Supervisor.Json
