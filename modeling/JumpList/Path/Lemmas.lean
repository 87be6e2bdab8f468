/-
# JumpList.Path.Lemmas — paths and their texts.

A path that spells a text is read as that text (`lossy_ofString`), and only the path without bytes is
read as no text at all (`lossy_eq_empty_iff`).  Joining two paths appends the names of the second
(`names_join`).
-/
import JumpList.Path
import JumpList.Text.Utf8.Lemmas

namespace JumpList.Path

open Text

@[simp] theorem isEmpty_iff {p : Path} : p.isEmpty = true ↔ p = empty := by
  cases p
  simp [isEmpty, empty]

/-- The text of a path that spells a text is that text. -/
@[simp] theorem lossy_ofString (s : String) : (ofString s).lossy = s := by
  simp [lossy, ofString]

/-- A path with bytes has a text that is not empty. -/
theorem lossy_eq_empty_iff {p : Path} : p.lossy = "" ↔ p = empty := by
  cases p
  simp [lossy, empty, ← String.toList_inj, Text.Utf8.lossy_eq_nil_iff]

/-! ## Joining -/

/-- A relative path is joined behind the bytes of the directory. -/
theorem join_bytes {p q : Path} (hq : q.isAbsolute = false) :
    ∃ more, (p.join q).bytes = p.bytes ++ more := by
  unfold join
  rw [hq]
  simp only [Bool.false_eq_true, ↓reduceIte]
  split
  · exact ⟨_, rfl⟩
  · exact ⟨_, rfl⟩

/-- A path is joined with bytes if either part has some. -/
theorem join_ne_empty {p q : Path} (h : p ≠ empty ∨ q ≠ empty) : p.join q ≠ empty := by
  intro hjoin
  rw [empty, join] at hjoin
  obtain ⟨ps⟩ := p
  obtain ⟨qs⟩ := q
  split at hjoin
  · next hq => simp_all [isAbsolute]
  · split at hjoin <;> simp_all [empty]

/-- A path with bytes starts at the root if and only if what is joined to it does. -/
theorem isAbsolute_join {p q : Path} (hp : p ≠ empty) (hq : q.isAbsolute = false) :
    (p.join q).isAbsolute = p.isAbsolute := by
  obtain ⟨more, hmore⟩ := join_bytes (p := p) hq
  obtain ⟨bytes⟩ := p
  cases bytes with
  | nil => exact absurd rfl hp
  | cons b bs => simp [isAbsolute, hmore]

/-- A slash stands between the names in front of it and those behind. -/
theorem names_append_slash (as bs : List UInt8) :
    names ⟨as ++ slash :: bs⟩ = names ⟨as⟩ ++ names ⟨bs⟩ :=
  @runs_append_cons _ (· == slash) slash (beq_self_eq_true slash) as bs

/-- The names of a relative path follow those of the directory. -/
theorem names_join {p q : Path} (hq : q.isAbsolute = false) :
    (p.join q).names = p.names ++ q.names := by
  obtain ⟨bytes⟩ := p
  unfold join
  rw [hq]
  simp only [Bool.false_eq_true, ↓reduceIte, Bool.or_eq_true]
  split
  · next h =>
    rcases h with hempty | hends
    · have hbytes : bytes = [] := by simpa [empty] using isEmpty_iff.1 hempty
      subst hbytes
      rfl
    · have hlast : bytes.getLast? = some slash := by simpa [endsInSlash] using hends
      obtain ⟨front, rfl⟩ := List.getLast?_eq_some_iff.1 hlast
      have hnil : names ⟨[]⟩ = [] := rfl
      rw [List.append_assoc, List.singleton_append, names_append_slash, names_append_slash, hnil,
        List.append_nil]
  · exact names_append_slash bytes q.bytes

end JumpList.Path
