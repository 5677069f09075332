import Mathlib.Data.List.DropRight
import Supervisor.Procedure

/-!
# Modes and their texts

A mode keeps the text it was read from, but for the blanks at its ends and for the one word that has two
spellings. So the text of a mode reads back as that mode, and modes that were read are told apart by
their texts: an unsupported one never shows as one that is supported.
-/

namespace Supervisor

namespace Text

variable {s t : String} {cs blanks : List Char} {c : Char}

/-- The second text is what is left of the first without the blanks at its ends. -/
structure Trims (s t : String) : Prop where
  cut : ∃ before after, s.toList = before ++ t.toList ++ after ∧
    (∀ c ∈ before, isBlank c = true) ∧ ∀ c ∈ after, isBlank c = true
  first : ∀ c, t.toList.head? = some c → isBlank c = false
  last : ∀ c, t.toList.getLast? = some c → isBlank c = false

theorem isBlank_of_dropWhile (h : (cs.dropWhile isBlank).head? = some c) : isBlank c = false := by
  have first := List.head?_dropWhile_not isBlank cs
  rw [h] at first
  exact first

theorem dropWhile_isBlank_append (blank : ∀ c ∈ blanks, isBlank c = true)
    (first : ∀ c, cs.head? = some c → isBlank c = false) :
    (blanks ++ cs).dropWhile isBlank = cs := by
  rw [List.dropWhile_append_of_pos blank]
  cases cs with
  | nil => rfl
  | cons c cs => exact List.dropWhile_cons_of_neg (Bool.eq_false_iff.1 (first c rfl))

theorem trims_trim (s : String) : Trims s (trim s) := by
  have inner : trimChars s.toList ++ (s.toList.dropWhile isBlank).rtakeWhile isBlank =
      s.toList.dropWhile isBlank := List.rdropWhile_append_rtakeWhile
  refine ⟨⟨s.toList.takeWhile isBlank, (s.toList.dropWhile isBlank).rtakeWhile isBlank, ?_,
    fun c => List.mem_takeWhile_imp, fun c => List.mem_rtakeWhile_imp⟩, fun c first => ?_,
    fun c last => ?_⟩
  · rw [toList_trim, List.append_assoc, inner, List.takeWhile_append_dropWhile]
  · rw [toList_trim] at first
    have front : (s.toList.dropWhile isBlank).head? = some c := by
      rw [← inner, List.head?_append, first, Option.some_or]
    exact isBlank_of_dropWhile front
  · rw [toList_trim, trimChars, List.getLast?_reverse] at last
    exact isBlank_of_dropWhile last

/-- Nothing else is left. -/
theorem Trims.trim_eq (h : Trims s t) : trim s = t := by
  obtain ⟨before, after, whole, blankBefore, blankAfter⟩ := h.cut
  rw [← String.toList_inj, toList_trim, whole]
  cases letters : t.toList with
  -- Where nothing is left, the front is trimmed to its end, past the cut.
  | nil =>
    rw [trimChars_eq_nil_iff, List.append_nil]
    exact fun c mem => (List.mem_append.1 mem).elim (blankBefore c) (blankAfter c)
  | cons c cs =>
    have front : (before ++ ((c :: cs) ++ after)).dropWhile isBlank = (c :: cs) ++ after :=
      dropWhile_isBlank_append blankBefore fun c' here => h.first c' (letters ▸ here)
    have back : (after.reverse ++ (c :: cs).reverse).dropWhile isBlank = (c :: cs).reverse := by
      refine dropWhile_isBlank_append (fun c' mem => blankAfter c' (List.mem_reverse.1 mem)) ?_
      rw [List.head?_reverse, ← letters]
      exact h.last
    rw [trimChars, List.append_assoc, front, List.reverse_append, back, List.reverse_reverse]

theorem trim_trim (s : String) : trim (trim s) = trim s :=
  have trims := trims_trim s
  Trims.trim_eq ⟨⟨[], [], by simp, by simp, by simp⟩, trims.first, trims.last⟩

end Text

namespace Mode

variable {s name : String}

theorem text_plugin (h : pluginName? s = some name) : (plugin name).text = s := by
  obtain ⟨⟨marked, -⟩, found⟩ := Option.ite_none_right_eq_some.1 h
  have whole : pluginMark ++ s.toList.drop pluginMark.length = s.toList :=
    List.prefix_iff_eq_append.1 (List.isPrefixOf_iff_prefix.1 marked)
  rw [← Option.some.inj found, text, String.toList_ofList, whole, String.ofList_toList]

/-- A mode shows as the text that names it, unless that is the second spelling of handing over. -/
theorem text_ofTrimmed (s : String) :
    (ofTrimmed s).text = if s = "sub-command" then "command" else s := by
  unfold ofTrimmed
  iterate 3
    split
    · rename_i same
      rw [same]
      rfl
  split
  · rename_i either
    rcases either with rfl | rfl <;> rfl
  · rename_i neither
    rw [if_neg fun same => neither (.inr same)]
    cases named : pluginName? s with
    | none => rfl
    | some name => exact text_plugin named

theorem text_read (s : String) :
    (read s).text = if Text.trim s = "sub-command" then "command" else Text.trim s :=
  text_ofTrimmed (Text.trim s)

theorem read_text_read (s : String) : read (read s).text = read s := by
  rw [text_read]
  split
  -- The second spelling shows as the first, which reads as the same mode.
  · rename_i other
    rw [read, read, other]
    decide +kernel
  · rw [read, Text.trim_trim, ← read]

/-- **A mode and its text are in step.** The text of a mode that was read is the text it was read from
without the blanks at its ends, or `command` where that is `sub-command`. It reads back as the mode, and
belongs to no other mode that can be read. -/
theorem text_in_step (s s' : String) :
    read (read s).text = read s ∧
      (∃ t, Text.Trims s t ∧ (read s).text = if t = "sub-command" then "command" else t) ∧
      ((read s).text = (read s').text ↔ read s = read s') := by
  refine ⟨read_text_read s, ⟨_, Text.trims_trim s, text_read s⟩, fun same => ?_, congrArg text⟩
  calc read s = read (read s).text := (read_text_read s).symm
    _ = read (read s').text := by rw [same]
    _ = read s' := read_text_read s'

example : read " plugin:  chat\n" = plugin "  chat" ∧ read "plugin: " = unsupported "plugin:" := by
  decide +kernel

end Mode

end Supervisor
