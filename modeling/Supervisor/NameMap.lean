/-!
# Maps keyed by names

A finite map from names to values, held as its entries in strictly increasing order of names
(by code point). The order is part of the type, so listing, folding and printing need no sorting
and two maps with the same lookups are equal (`ext`). Every operation comes with its effect on
`get?`. At the end come lists of names.
-/

namespace Supervisor

/-- Entries in strictly increasing order of their names. -/
structure NameMap (α : Type) where
  toList : List (String × α)
  ordered : toList.Pairwise (fun a b => a.1 < b.1)
  deriving DecidableEq

namespace NameMap

variable {α β : Type}

instance [Repr α] : Repr (NameMap α) := ⟨fun m n => reprPrec m.toList n⟩

/-! ## Entries in order -/

/-- Put an entry at its place, replacing one of the same name. -/
def insertEntry (k : String) (v : α) : List (String × α) → List (String × α)
  | [] => [(k, v)]
  | e :: rest =>
    if k < e.1 then (k, v) :: e :: rest
    else if k = e.1 then (k, v) :: rest
    else e :: insertEntry k v rest

/-- The value of the first entry with the name. -/
def lookup (k : String) : List (String × α) → Option α
  | [] => none
  | e :: rest => if k = e.1 then some e.2 else lookup k rest

theorem mem_insertEntry {k : String} {v : α} {e : String × α} {l : List (String × α)}
    (h : e ∈ insertEntry k v l) : e = (k, v) ∨ e ∈ l := by
  induction l with
  | nil => simpa [insertEntry] using h
  | cons d rest ih =>
    rw [insertEntry] at h
    split at h
    · simpa using h
    · split at h
      · rcases List.mem_cons.1 h with h | h
        · exact .inl h
        · exact .inr (List.mem_cons_of_mem _ h)
      · rcases List.mem_cons.1 h with h | h
        · exact .inr (h ▸ List.mem_cons_self)
        · rcases ih h with h | h
          · exact .inl h
          · exact .inr (List.mem_cons_of_mem _ h)

theorem insertEntry_ordered (k : String) (v : α) {l : List (String × α)}
    (h : l.Pairwise (fun a b => a.1 < b.1)) :
    (insertEntry k v l).Pairwise (fun a b => a.1 < b.1) := by
  induction l with
  | nil => simp [insertEntry]
  | cons d rest ih =>
    rw [List.pairwise_cons] at h
    rw [insertEntry]
    split
    · rename_i hk
      refine List.pairwise_cons.2 ⟨fun e he => ?_, List.pairwise_cons.2 h⟩
      rcases List.mem_cons.1 he with he | he
      · exact he ▸ hk
      · exact String.lt_trans hk (h.1 e he)
    · split
      · rename_i hk
        exact List.pairwise_cons.2 ⟨fun e he => by simpa [hk] using h.1 e he, h.2⟩
      · rename_i hlt hne
        have hd : d.1 < k := Std.lt_of_le_of_ne (String.not_lt.1 hlt) (Ne.symm hne)
        refine List.pairwise_cons.2 ⟨fun e he => ?_, ih h.2⟩
        rcases mem_insertEntry he with he | he
        · exact he ▸ hd
        · exact h.1 e he

theorem lookup_insertEntry (k j : String) (v : α) (l : List (String × α)) :
    lookup j (insertEntry k v l) = if j = k then some v else lookup j l := by
  induction l with
  | nil => simp [insertEntry, lookup]
  | cons d rest ih =>
    rw [insertEntry]
    split
    · simp [lookup]
    · split
      · rename_i hk
        simp only [lookup]
        split <;> simp_all
      · rename_i hne
        simp only [lookup, ih]
        by_cases hj : j = d.1
        · have : ¬ d.1 = k := fun h => hne h.symm
          simp [hj, this]
        · simp [hj]

theorem lookup_eq_none_of_lt {k : String} {l : List (String × α)}
    (h : ∀ e ∈ l, k < e.1) : lookup k l = none := by
  induction l with
  | nil => rfl
  | cons d rest ih =>
    have hd : k ≠ d.1 := fun hk => String.lt_irrefl d.1 (hk ▸ h d List.mem_cons_self)
    simp [lookup, hd, ih fun e he => h e (List.mem_cons_of_mem _ he)]

theorem lookup_eq_none_iff {k : String} {l : List (String × α)} :
    lookup k l = none ↔ k ∉ l.map (·.1) := by
  induction l with
  | nil => simp [lookup]
  | cons d rest ih =>
    by_cases hk : k = d.1
    · simp [lookup, hk]
    · rw [lookup, if_neg hk, ih, List.map_cons, List.mem_cons, not_or]
      exact (and_iff_right hk).symm

theorem lookup_eq_some_iff {k : String} {v : α} {l : List (String × α)}
    (h : l.Pairwise (fun a b => a.1 < b.1)) : lookup k l = some v ↔ (k, v) ∈ l := by
  induction l with
  | nil => simp [lookup]
  | cons d rest ih =>
    rw [List.pairwise_cons] at h
    by_cases hk : k = d.1
    · subst hk
      have hn : ∀ w, (d.1, w) ∉ rest := fun w hw => String.lt_irrefl d.1 (h.1 (d.1, w) hw)
      simp only [lookup, if_true, Option.some.injEq, List.mem_cons, hn v, or_false]
      constructor
      · rintro rfl; rfl
      · intro he; rw [← he]
    · have he : (k, v) ≠ d := fun he => hk (by rw [← he])
      simp [lookup, hk, ih h.2, he]

theorem lookup_filter (p : String × α → Bool) (k : String) {l : List (String × α)}
    (h : l.Pairwise (fun a b => a.1 < b.1)) :
    lookup k (l.filter p) = (lookup k l).filter (fun v => p (k, v)) := by
  induction l with
  | nil => rfl
  | cons d rest ih =>
    rw [List.pairwise_cons] at h
    by_cases hp : p d
    · by_cases hk : k = d.1
      · subst hk; simp [hp, lookup, Option.filter]
      · simp [hp, lookup, hk, ih h.2]
    · by_cases hk : k = d.1
      · subst hk
        have hn : lookup d.1 rest = none := lookup_eq_none_of_lt h.1
        simp [hp, lookup, ih h.2, hn, Option.filter]
      · simp [hp, lookup, hk, ih h.2]

theorem lookup_map (f : String → α → β) (k : String) (l : List (String × α)) :
    lookup k (l.map fun e => (e.1, f e.1 e.2)) = (lookup k l).map (f k) := by
  induction l with
  | nil => rfl
  | cons d rest ih =>
    by_cases hk : k = d.1
    · subst hk; simp [lookup]
    · simp [lookup, hk, ih]

/-! ## The map -/

def empty : NameMap α := ⟨[], .nil⟩

instance : EmptyCollection (NameMap α) := ⟨empty⟩
instance : Inhabited (NameMap α) := ⟨empty⟩

def get? (m : NameMap α) (k : String) : Option α := lookup k m.toList

def contains (m : NameMap α) (k : String) : Bool := (m.get? k).isSome

def insert (m : NameMap α) (k : String) (v : α) : NameMap α :=
  ⟨insertEntry k v m.toList, insertEntry_ordered k v m.ordered⟩

/-- Keep the entries that pass. -/
def filter (m : NameMap α) (p : String → α → Bool) : NameMap α :=
  ⟨m.toList.filter fun e => p e.1 e.2, m.ordered.filter _⟩

def erase (m : NameMap α) (k : String) : NameMap α := m.filter fun j _ => j ≠ k

/-- Change every value, knowing its name. -/
def map (m : NameMap α) (f : String → α → β) : NameMap β :=
  ⟨m.toList.map fun e => (e.1, f e.1 e.2), List.pairwise_map.2 m.ordered⟩

/-- Change the value of one name, if it has one. -/
def modify (m : NameMap α) (k : String) (f : α → α) : NameMap α :=
  m.map fun j v => if j = k then f v else v

/-- Later entries replace earlier ones of the same name. -/
def ofList (l : List (String × α)) : NameMap α := l.foldl (fun m e => m.insert e.1 e.2) empty

def keys (m : NameMap α) : List String := m.toList.map (·.1)
def values (m : NameMap α) : List α := m.toList.map (·.2)
def size (m : NameMap α) : Nat := m.toList.length
def isEmpty (m : NameMap α) : Bool := m.toList.isEmpty

/-! ## Lookups -/

@[simp] theorem get?_empty (k : String) : (empty : NameMap α).get? k = none := rfl

theorem get?_insert (m : NameMap α) (k j : String) (v : α) :
    (m.insert k v).get? j = if j = k then some v else m.get? j :=
  lookup_insertEntry k j v m.toList

@[simp] theorem get?_insert_self (m : NameMap α) (k : String) (v : α) :
    (m.insert k v).get? k = some v := by simp [get?_insert]

theorem get?_insert_of_ne (m : NameMap α) {k j : String} (v : α) (h : j ≠ k) :
    (m.insert k v).get? j = m.get? j := by simp [get?_insert, h]

theorem get?_filter (m : NameMap α) (p : String → α → Bool) (k : String) :
    (m.filter p).get? k = (m.get? k).filter (p k) :=
  lookup_filter (fun e => p e.1 e.2) k m.ordered

theorem get?_erase (m : NameMap α) (k j : String) :
    (m.erase k).get? j = if j = k then none else m.get? j := by
  rw [erase, get?_filter]
  by_cases h : j = k
  · subst h; cases m.get? j <;> simp [Option.filter]
  · cases m.get? j <;> simp [Option.filter, h]

theorem get?_map (m : NameMap α) (f : String → α → β) (k : String) :
    (m.map f).get? k = (m.get? k).map (f k) :=
  lookup_map f k m.toList

theorem get?_modify (m : NameMap α) (k j : String) (f : α → α) :
    (m.modify k f).get? j = if j = k then (m.get? j).map f else m.get? j := by
  rw [modify, get?_map]
  by_cases h : j = k
  · simp [h]
  · cases m.get? j <;> simp [h]

theorem get?_eq_some_iff (m : NameMap α) {k : String} {v : α} :
    m.get? k = some v ↔ (k, v) ∈ m.toList :=
  lookup_eq_some_iff m.ordered

theorem contains_iff (m : NameMap α) {k : String} :
    m.contains k = true ↔ ∃ v, m.get? k = some v := by
  simp [contains, Option.isSome_iff_exists]

theorem mem_keys_iff (m : NameMap α) {k : String} : k ∈ m.keys ↔ m.contains k = true := by
  simp only [keys, List.mem_map, contains_iff, get?_eq_some_iff]
  constructor
  · rintro ⟨⟨j, v⟩, h, rfl⟩; exact ⟨v, h⟩
  · rintro ⟨v, h⟩; exact ⟨(k, v), h, rfl⟩

theorem keys_ordered (m : NameMap α) : m.keys.Pairwise (· < ·) := List.pairwise_map.2 m.ordered

theorem keys_nodup (m : NameMap α) : m.keys.Nodup :=
  List.Pairwise.imp (fun h he => by subst he; exact String.lt_irrefl _ h) m.keys_ordered

@[simp] theorem keys_map (m : NameMap α) (f : String → α → β) : (m.map f).keys = m.keys := by
  simp [keys, map, Function.comp_def]

@[simp] theorem keys_modify (m : NameMap α) (k : String) (f : α → α) :
    (m.modify k f).keys = m.keys := keys_map m _

/-- Two lists of entries in order with the same lookups are the same list. -/
theorem entries_ext {l r : List (String × α)}
    (hl : l.Pairwise (fun a b => a.1 < b.1)) (hr : r.Pairwise (fun a b => a.1 < b.1))
    (h : ∀ k, lookup k l = lookup k r) : l = r := by
  induction l generalizing r with
  | nil =>
    cases r with
    | nil => rfl
    | cons e r => exact absurd (h e.1) (by simp [lookup])
  | cons d l ih =>
    cases r with
    | nil => exact absurd (h d.1) (by simp [lookup])
    | cons e r =>
      rw [List.pairwise_cons] at hl hr
      have hk : d.1 = e.1 := by
        rcases Std.lt_trichotomy d.1 e.1 with hlt | heq | hgt
        · have hn : lookup d.1 (e :: r) = none := lookup_eq_none_of_lt fun x hx => by
            rcases List.mem_cons.1 hx with hx | hx
            · exact hx ▸ hlt
            · exact String.lt_trans hlt (hr.1 x hx)
          exact absurd ((h d.1).trans hn) (by simp [lookup])
        · exact heq
        · have hn : lookup e.1 (d :: l) = none := lookup_eq_none_of_lt fun x hx => by
            rcases List.mem_cons.1 hx with hx | hx
            · exact hx ▸ hgt
            · exact String.lt_trans hgt (hl.1 x hx)
          exact absurd ((h e.1).symm.trans hn) (by simp [lookup])
      have hv : d.2 = e.2 := by simpa [lookup, hk] using h d.1
      have hde : d = e := Prod.ext hk hv
      subst hde
      refine congrArg (d :: ·) (ih hl.2 hr.2 fun k => ?_)
      by_cases hkd : k = d.1
      · subst hkd
        rw [lookup_eq_none_of_lt hl.1, lookup_eq_none_of_lt hr.1]
      · simpa [lookup, hkd] using h k

/-- Maps are determined by their lookups. -/
theorem ext {m n : NameMap α} (h : ∀ k, m.get? k = n.get? k) : m = n := by
  cases m; cases n
  exact (mk.injEq ..).mpr (entries_ext ‹_› ‹_› h)

theorem get?_foldl_insert (l : List (String × α)) (m : NameMap α) (k : String)
    (h : l.Pairwise (fun a b => a.1 < b.1)) :
    (l.foldl (fun m e => m.insert e.1 e.2) m).get? k = (lookup k l).or (m.get? k) := by
  induction l generalizing m with
  | nil => rfl
  | cons d rest ih =>
    rw [List.pairwise_cons] at h
    rw [List.foldl_cons, ih _ h.2, get?_insert]
    by_cases hk : k = d.1
    · subst hk
      have hn : lookup d.1 rest = none := lookup_eq_none_of_lt h.1
      simp [lookup, hn]
    · simp [lookup, hk]

/-- Entries that are in order already are the map's entries. -/
theorem ofList_ordered {l : List (String × α)} (h : l.Pairwise (fun a b => a.1 < b.1)) :
    ofList l = ⟨l, h⟩ := by
  refine ext fun k => ?_
  rw [ofList, get?_foldl_insert l empty k h, get?_empty, Option.or_none]
  rfl

end NameMap

/-! ## Lists of names -/

/-- The names other than the given one. -/
def without (name : String) (names : List String) : List String := names.filter (· ≠ name)

theorem mem_without {name other : String} {names : List String} :
    other ∈ without name names ↔ other ∈ names ∧ other ≠ name := by
  simp [without]

theorem length_without_lt {name : String} {names : List String} (h : name ∈ names) :
    (without name names).length < names.length :=
  List.length_filter_lt_length_iff_exists.2 ⟨name, h, by simp⟩

end Supervisor
