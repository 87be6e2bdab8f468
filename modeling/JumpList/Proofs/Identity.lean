/-
# JumpList.Proofs.Identity — every application has an identity, and a name has one of its own.

A template with one place for the name is filled by putting the name there as it is, whatever it looks
like (`fill_of_single`), so what is made from a name tells the name (`ofName_injective`).  An identity
that was given counts if there is a character in it that is no blank, and then it loses the blanks at
its ends; otherwise the identity is made from the name.  Either way it is not blank
(`resolve_not_blank`), and applications that have only their names are told apart by them
(`resolve_keeps_apart`).
-/
import JumpList.Proofs.Text.Trimmed
import JumpList.Settings.Basic

namespace JumpList.AppId

open Text (isBlank Trimmed)

/-! ## Filling a template -/

section Filling

variable (name : List Char)

theorem fill_cons_of_ne {c : Char} (h : c ≠ '$') (rest : List Char) :
    fill name (c :: rest) = c :: fill name rest := by
  rw [fill]
  intro _ hc
  exact absurd hc h

/-- What stands in front of the first `$` is kept. -/
theorem fill_append_of_not_mem {front : List Char} (h : '$' ∉ front) (rest : List Char) :
    fill name (front ++ rest) = front ++ fill name rest := by
  induction front with
  | nil => rfl
  | cons c front ih =>
    have hc : c ≠ '$' := (List.ne_of_not_mem_cons h).symm
    have hfront : '$' ∉ front := List.not_mem_of_not_mem_cons h
    rw [List.cons_append, fill_cons_of_ne name hc, ih hfront, List.cons_append]

/-- The name is put into its place as it is, even if there is a `$1` in it. -/
theorem fill_of_single {front back : List Char} (hfront : '$' ∉ front) (hback : '$' ∉ back) :
    fill name (front ++ '$' :: '1' :: back) = front ++ (name ++ back) := by
  have hrest : fill name back = back := by
    have h := fill_append_of_not_mem name hback []
    rw [List.append_nil] at h
    exact h.trans (List.append_nil back)
  rw [fill_append_of_not_mem name hfront, fill, hrest]

end Filling

/-- The identity made from a name has the name at its end. -/
theorem text_ofName (name : String) : (ofName name).text = "jumplist.app." ++ name := by
  have htemplate : template.toList = "jumplist.app.".toList ++ '$' :: '1' :: [] := rfl
  have hfront : '$' ∉ "jumplist.app.".toList := by decide
  show String.ofList (fill name.toList template.toList) = _
  rw [htemplate, fill_of_single name.toList hfront List.not_mem_nil, List.append_nil,
    String.ofList_append, String.ofList_toList, String.ofList_toList]

/-- A place for a name in a name is not filled. -/
example : (ofName "$1 of $$1").text = "jumplist.app.$1 of $$1" := by decide

theorem ofName_injective : Function.Injective ofName := by
  intro a b h
  have htext := congrArg AppId.text h
  rw [text_ofName, text_ofName] at htext
  exact (String.append_right_inj _).mp htext

/-! ## Given or made -/

/-- There is no identity to take: none was given, or there are only blanks in it. -/
def Lacking (given : Option String) : Prop :=
  ∀ text, given = some text → ∀ c ∈ text.toList, isBlank c

variable {given : Option String} {text : String} (name : String)

theorem resolve_of_lacking (h : Lacking given) : resolve given name = ofName name := by
  cases given with
  | none => rfl
  | some text =>
    have hblank : Text.isBlankText text = true := List.all_eq_true.mpr (h text rfl)
    rw [resolve, if_pos hblank]

theorem resolve_of_not_blank (h : ∃ c ∈ text.toList, isBlank c = false) :
    resolve (some text) name = ⟨Text.trim text⟩ := by
  have hblank : Text.isBlankText text = false := List.all_eq_false.mpr (by simpa using h)
  simp [resolve, hblank]

/-- A given identity that counts is the given text without the blanks at its ends. -/
theorem trimmed_resolve (h : ∃ c ∈ text.toList, isBlank c = false) :
    Trimmed text.toList (resolve (some text) name).text.toList := by
  rw [resolve_of_not_blank name h]
  show Trimmed text.toList (String.ofList (Text.trimChars text.toList)).toList
  rw [String.toList_ofList]
  exact Text.trimmed_iff.mpr rfl

/-- Every identity has a character that is no blank. -/
theorem resolve_not_blank (given : Option String) :
    ∃ c ∈ (resolve given name).text.toList, isBlank c = false := by
  by_cases h : Lacking given
  · rw [resolve_of_lacking name h, text_ofName, String.toList_append]
    exact ⟨'j', List.mem_append_left _ (by decide), by decide⟩
  · -- A text was given, and not only blanks are in it.
    simp only [Lacking, not_forall] at h
    obtain ⟨text, rfl, c, hc, hblank⟩ := h
    have hsome : ∃ c ∈ text.toList, isBlank c = false := ⟨c, hc, eq_false_of_ne_true hblank⟩
    have htrimmed := trimmed_resolve name hsome
    refine htrimmed.exists_not_blank ?_
    intro hnil
    rw [Text.trimmed_iff.mp htrimmed, Text.trimChars_eq_nil_iff] at hnil
    exact hblank (hnil c hc)

/-- A given text that is not blank is the identity, without the blanks at its ends; otherwise the
identity is made from the name, which stands in it as it is.  No identity is blank, and names, as well
as settings that have nothing but their names, are told apart by theirs. -/
theorem resolve_keeps_apart (given : Option String) (name : String) :
    (∀ text, given = some text → (∃ c ∈ text.toList, isBlank c = false) →
        Trimmed text.toList (resolve given name).text.toList) ∧
      (Lacking given → resolve given name = ofName name) ∧
      (ofName name).text = "jumplist.app." ++ name ∧
      (∃ c ∈ (resolve given name).text.toList, isBlank c = false) ∧
      Function.Injective ofName ∧
      ∀ s t : Settings, Lacking s.givenId → Lacking t.givenId →
        (s.id = t.id ↔ s.appName = t.appName) := by
  refine ⟨?_, resolve_of_lacking name, text_ofName name, resolve_not_blank name given,
    ofName_injective, ?_⟩
  · rintro text rfl h
    exact trimmed_resolve name h
  · intro s t hs ht
    rw [Settings.id, Settings.id, resolve_of_lacking _ hs, resolve_of_lacking _ ht]
    exact ofName_injective.eq_iff

end JumpList.AppId
