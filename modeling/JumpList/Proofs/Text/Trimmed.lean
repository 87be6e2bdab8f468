/-
# JumpList.Proofs.Text.Trimmed — texts without the blanks at their ends.

What a text is trimmed to is a part of it that has only blanks around it and neither starts nor ends
with one (`Trimmed`).  Every text has exactly one such part, and trimming finds it (`trimmed_iff`).  It
is empty for a text of blanks and for no other (`trimChars_eq_nil_iff`).
-/
import JumpList.Text.Blank
import Mathlib.Data.List.DropRight

namespace JumpList.Text

/-- `core` is what is left of `cs` without the blanks at both ends. -/
structure Trimmed (cs core : List Char) : Prop where
  /-- It is a part of the text, and only blanks stand in front of it and behind it. -/
  around : ∃ front back, cs = front ++ core ++ back ∧
    (∀ c ∈ front, isBlank c) ∧ ∀ c ∈ back, isBlank c
  /-- It does not start with a blank. -/
  head : ∀ c ∈ core.head?, isBlank c = false
  /-- It does not end with a blank. -/
  last : ∀ c ∈ core.getLast?, isBlank c = false

variable {cs core : List Char}

/-- Trimming goes to work at the front and then at the end. -/
theorem trimChars_eq (cs : List Char) :
    trimChars cs = (cs.dropWhile isBlank).rdropWhile isBlank := rfl

theorem trimChars_eq_nil_iff : trimChars cs = [] ↔ ∀ c ∈ cs, isBlank c := by
  rw [trimChars_eq, List.rdropWhile_eq_nil_iff]
  constructor
  · intro h c hc
    rw [← List.takeWhile_append_dropWhile (p := isBlank) (l := cs)] at hc
    rcases List.mem_append.mp hc with hc | hc
    · exact List.mem_takeWhile_imp hc
    · exact h c hc
  · intro h c hc
    exact h c ((List.dropWhile_suffix isBlank).mem hc)

theorem trimmed_trimChars (cs : List Char) : Trimmed cs (trimChars cs) := by
  rw [trimChars_eq]
  refine ⟨⟨cs.takeWhile isBlank, (cs.dropWhile isBlank).rtakeWhile isBlank, ?_, ?_, ?_⟩, ?_, ?_⟩
  · rw [List.append_assoc, List.rdropWhile_append_rtakeWhile, List.takeWhile_append_dropWhile]
  · intro c hc
    exact List.mem_takeWhile_imp hc
  · intro c hc
    exact List.mem_rtakeWhile_imp hc
  · -- The end that is taken off leaves the first character alone.
    intro c hc
    obtain ⟨rest, hrest⟩ := List.head?_eq_some_iff.mp hc
    obtain ⟨back, hback⟩ := List.rdropWhile_prefix isBlank (cs.dropWhile isBlank)
    have hhead := List.head?_dropWhile_not isBlank cs
    rw [← hback, hrest] at hhead
    exact hhead
  · intro c hc
    obtain ⟨hne, rfl⟩ := List.mem_getLast?_eq_getLast hc
    exact eq_false_of_ne_true (List.rdropWhile_last_not isBlank _ hne)

/-- There is only one way to be trimmed. -/
theorem Trimmed.eq_trimChars (h : Trimmed cs core) : core = trimChars cs := by
  obtain ⟨front, back, rfl, hfront, hback⟩ := h.around
  have hkept : core.rdropWhile isBlank = core := by
    apply List.rdropWhile_eq_self_iff.mpr
    intro hne
    exact ne_true_of_eq_false (h.last _ (List.getLast_mem_getLast? hne))
  have hend : (core ++ back).rdropWhile isBlank = core.rdropWhile isBlank := by
    rw [List.rdropWhile, List.reverse_append, List.dropWhile_append_of_pos, List.rdropWhile]
    intro c hc
    exact hback c (List.mem_reverse.mp hc)
  rw [trimChars_eq, List.append_assoc, List.dropWhile_append_of_pos hfront]
  cases core with
  | nil =>
    have hall : back.dropWhile isBlank = [] := List.dropWhile_eq_nil_iff.mpr hback
    rw [List.nil_append, hall, List.rdropWhile_nil]
  | cons c rest =>
    have hc : isBlank c = false := h.head c rfl
    rw [List.cons_append, List.dropWhile_cons_of_neg (ne_true_of_eq_false hc), ← List.cons_append,
      hend, hkept]

theorem trimmed_iff : Trimmed cs core ↔ core = trimChars cs := by
  constructor
  · exact Trimmed.eq_trimChars
  · rintro rfl
    exact trimmed_trimChars cs

/-- A text that is trimmed to something has, where that starts, a character that is no blank. -/
theorem Trimmed.exists_not_blank (h : Trimmed cs core) (hne : core ≠ []) :
    ∃ c ∈ core, isBlank c = false :=
  ⟨core.head hne, List.head_mem hne, h.head _ (List.head?_eq_some_head hne)⟩

end JumpList.Text
