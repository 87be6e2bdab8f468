/-
# JumpList.Proofs.Format.Reader — reading element by element.

An array is read as a whole or not at all.  It is read exactly if every element is
(`readEach_eq_ok_iff`), and otherwise the error is that of the first element that is not, wrapped in
the position of that element (`readEach_eq_error_iff`).
-/
import JumpList.Format.Reader
import Mathlib.Data.List.Forall2

namespace JumpList.Format

variable {α : Type} (place : Nat → Error → Error) (read : Json → Except Error α)

/-- An element that is read leaves the decision to the rest. -/
theorem readEach_cons_of_ok {j : Json} {a : α} (h : read j = .ok a) (index : Nat) (js : List Json) :
    readEach place read index (j :: js) =
      (readEach place read (index + 1) js).map (a :: ·) := by
  rw [readEach, h]
  cases readEach place read (index + 1) js <;> rfl

/-- The first element that is not read decides. -/
theorem readEach_cons_of_error {j : Json} {e : Error} (h : read j = .error e) (index : Nat)
    (js : List Json) : readEach place read index (j :: js) = .error (place index e) := by
  rw [readEach, h]
  rfl

/-- Elements are read exactly if each of them is. -/
theorem readEach_eq_ok_iff {index : Nat} {js : List Json} {as : List α} :
    readEach place read index js = .ok as ↔ List.Forall₂ (fun j a => read j = .ok a) js as := by
  -- Positions only show in errors, so the induction is for all of them.
  induction js generalizing index as with
  | nil =>
    rw [readEach, List.forall₂_nil_left_iff, Except.ok.injEq]
    exact eq_comm
  | cons j js ih =>
    rw [List.forall₂_cons_left_iff]
    cases h : read j with
    | error e =>
      rw [readEach_cons_of_error place read h]
      constructor
      · exact nofun
      · rintro ⟨a, as', hj, -⟩
        cases hj
    | ok a =>
      rw [readEach_cons_of_ok place read h]
      constructor
      · intro heq
        cases hrest : readEach place read (index + 1) js with
        | error e =>
          rw [hrest] at heq
          cases heq
        | ok as' =>
          rw [hrest] at heq
          obtain rfl : a :: as' = as := Except.ok.inj heq
          exact ⟨a, as', rfl, ih.mp hrest, rfl⟩
      · rintro ⟨a', as', ha, hrest, rfl⟩
        obtain rfl : a = a' := Except.ok.inj ha
        rw [ih.mpr hrest]
        rfl

/-- An error is that of the first element that is not read, with the position of that element. -/
theorem readEach_eq_error_iff {index : Nat} {js : List Json} {e : Error} :
    readEach place read index js = .error e ↔
      ∃ before j after cause, js = before ++ j :: after ∧
        (∀ b ∈ before, ∃ a, read b = .ok a) ∧ read j = .error cause ∧
        e = place (index + before.length) cause := by
  induction js generalizing index with
  | nil =>
    constructor
    · exact nofun
    · rintro ⟨before, j, after, cause, hjs, -⟩
      simp at hjs
  | cons j js ih =>
    cases h : read j with
    | error cause =>
      rw [readEach_cons_of_error place read h, Except.error.injEq]
      constructor
      · rintro rfl
        exact ⟨[], j, js, cause, rfl, by simp, h, rfl⟩
      · rintro ⟨before, j', after, cause', hjs, hbefore, hj', rfl⟩
        -- The first element is not read, so there is none before the one that decides.
        cases before with
        | nil =>
          obtain ⟨rfl, -⟩ := List.cons.inj hjs
          rw [h] at hj'
          rw [Except.error.inj hj']
          rfl
        | cons b before =>
          obtain ⟨rfl, -⟩ := List.cons.inj hjs
          obtain ⟨a, ha⟩ := hbefore j List.mem_cons_self
          rw [h] at ha
          cases ha
    | ok a =>
      have hrest : readEach place read index (j :: js) = .error e ↔
          readEach place read (index + 1) js = .error e := by
        rw [readEach_cons_of_ok place read h]
        cases readEach place read (index + 1) js <;> simp [Except.map]
      rw [hrest, ih]
      constructor
      · rintro ⟨before, j', after, cause, rfl, hbefore, hj', rfl⟩
        refine ⟨j :: before, j', after, cause, rfl, ?_, hj', ?_⟩
        · exact List.forall_mem_cons.mpr ⟨⟨a, h⟩, hbefore⟩
        · rw [List.length_cons, Nat.add_assoc, Nat.add_comm 1]
      · rintro ⟨before, j', after, cause, hjs, hbefore, hj', rfl⟩
        cases before with
        | nil =>
          obtain ⟨rfl, -⟩ := List.cons.inj hjs
          rw [h] at hj'
          cases hj'
        | cons b before =>
          obtain ⟨rfl, rfl⟩ := List.cons.inj hjs
          refine ⟨before, j', after, cause, rfl, fun b hb => hbefore b (List.mem_cons_of_mem _ hb),
            hj', ?_⟩
          rw [List.length_cons, Nat.add_assoc, Nat.add_comm 1]

end JumpList.Format
