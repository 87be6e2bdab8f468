/-
# JumpList.Text.Utf8.Lemmas — what was written reads back.

The bytes of one character read back as that character whatever follows them, so the bytes of a text
read back as the text, strictly and leniently.  Reading loses no byte: only no bytes read as nothing.
-/
import JumpList.Text.Utf8

namespace JumpList.Text.Utf8

/-! ## Bytes of characters -/

theorem toNat_ofNat_lt {n : Nat} (h : n < 256) : (UInt8.ofNat n).toNat = n := by
  simp [Nat.mod_eq_of_lt h]

/-- The size of a character in terms of its first byte as a number. -/
theorem size_eq (a : UInt8) : size a =
    if a.toNat < 0x80 then 1 else if a.toNat < 0xC2 then 0 else if a.toNat < 0xE0 then 2
    else if a.toNat < 0xF0 then 3 else if a.toNat < 0xF5 then 4 else 0 := by
  simp only [size, UInt8.lt_iff_toNat_lt]
  rfl

theorem isTail_iff {b : UInt8} : isTail b = true ↔ 0x80 ≤ b.toNat ∧ b.toNat ≤ 0xBF := by
  simp [isTail, UInt8.le_iff_toNat_le]

theorem isSecond_iff {a b : UInt8} : isSecond a b = true ↔
    (0x80 ≤ b.toNat ∧ b.toNat ≤ 0xBF) ∧ (a.toNat = 0xE0 → 0xA0 ≤ b.toNat) ∧
      (a.toNat = 0xED → b.toNat ≤ 0x9F) ∧ (a.toNat = 0xF0 → 0x90 ≤ b.toNat) ∧
      (a.toNat = 0xF4 → b.toNat ≤ 0x8F) := by
  simp only [isSecond, Bool.and_eq_true, Bool.or_eq_true, isTail_iff, decide_eq_true_eq, ne_eq,
    ← UInt8.toNat_inj, UInt8.le_iff_toNat_le, and_assoc, Decidable.imp_iff_not_or]
  rfl

/-! ## Steps -/

theorem step_lead {a : UInt8} (h : 2 ≤ size a) : step [] a = ([], [a]) := by
  obtain ⟨m, hm⟩ : ∃ m, size a = m + 2 := ⟨size a - 2, by omega⟩
  simp [step, enter, continues, strayOf, hm]

theorem step_last {a b : UInt8} {more : List UInt8} (h : continues (a :: more) b = true)
    (hs : more.length + 2 = size a) :
    step (a :: more) b = ([.char (assemble (a :: more ++ [b]))], []) := by
  simp [step, h, hs]

theorem step_tail {a b : UInt8} {more : List UInt8} (h : continues (a :: more) b = true)
    (hs : more.length + 2 < size a) :
    step (a :: more) b = ([], a :: more ++ [b]) := by
  have : ¬more.length + 2 = size a := by omega
  simp [step, h, this]

/-- One character reads back, whatever follows it. -/
theorem chunks_encodeChar_append (c : Char) (rest : List UInt8) :
    chunks (encodeChar c ++ rest) = .char c :: chunks rest := by
  have hvalid : c.toNat < 0xD800 ∨ 0xDFFF < c.toNat ∧ c.toNat < 0x110000 := c.valid
  have hofNat : Char.ofNat c.toNat = c := Char.ofNat_toNat c
  unfold encodeChar
  generalize c.toNat = n at hvalid hofNat ⊢
  subst hofNat
  have tail (m : Nat) : (UInt8.ofNat (0x80 + m % 0x40)).toNat = 0x80 + m % 0x40 :=
    toNat_ofNat_lt (by omega)
  have tail' (m : Nat) : isTail (UInt8.ofNat (0x80 + m % 0x40)) = true := by
    rw [isTail_iff, tail]; omega
  simp only [chunks]
  split
  · next h =>
    have h0 := toNat_ofNat_lt (n := n) (by omega)
    generalize UInt8.ofNat n = a at h0 ⊢
    have hs : size a = 1 := by rw [size_eq, h0]; simp [h]
    simp [chunksFrom, step, enter, continues, strayOf, hs, assemble, leadBits, h0]
  split
  · next h1 h2 =>
    have h0 := toNat_ofNat_lt (n := 0xC0 + n / 0x40) (by omega)
    have ht := tail n
    have ht' := tail' n
    generalize UInt8.ofNat (0xC0 + n / 0x40) = a at h0 ⊢
    generalize UInt8.ofNat (0x80 + n % 0x40) = b at ht ht' ⊢
    have hs : size a = 2 := by
      rw [size_eq, h0]; repeat' split
      all_goals omega
    have hb : continues [a] b = true := by
      rw [continues, isSecond_iff]; omega
    simp only [List.cons_append, List.nil_append, chunksFrom, step_lead (a := a) (by omega),
      step_last hb (by simp [hs])]
    have hn : (a.toNat - 0xC0) * 0x40 + (b.toNat - 0x80) = n := by omega
    simp only [assemble, leadBits, hs, List.foldl, hn]
  split
  · next h1 h2 h3 =>
    have h0 := toNat_ofNat_lt (n := 0xE0 + n / 0x1000) (by omega)
    have ht := tail n
    have ht' := tail' n
    have hu := tail (n / 0x40)
    generalize UInt8.ofNat (0xE0 + n / 0x1000) = a at h0 ⊢
    generalize UInt8.ofNat (0x80 + n % 0x40) = c at ht ht' ⊢
    generalize UInt8.ofNat (0x80 + n / 0x40 % 0x40) = b at hu ⊢
    have hs : size a = 3 := by
      rw [size_eq, h0]; repeat' split
      all_goals omega
    have hb : continues [a] b = true := by
      rw [continues, isSecond_iff]; omega
    have hc : continues [a, b] c = true := ht'
    simp only [List.cons_append, List.nil_append, chunksFrom, step_lead (a := a) (by omega),
      step_tail hb (by simp [hs]), step_last hc (by simp [hs])]
    have hn : ((a.toNat - 0xE0) * 0x40 + (b.toNat - 0x80)) * 0x40 + (c.toNat - 0x80) = n := by omega
    simp only [assemble, leadBits, hs, List.foldl, hn]
  · next h1 h2 h3 =>
    have h0 := toNat_ofNat_lt (n := 0xF0 + n / 0x40000) (by omega)
    have ht := tail n
    have ht' := tail' n
    have hu := tail (n / 0x40)
    have hu' := tail' (n / 0x40)
    have hv := tail (n / 0x1000)
    generalize UInt8.ofNat (0xF0 + n / 0x40000) = a at h0 ⊢
    generalize UInt8.ofNat (0x80 + n % 0x40) = d at ht ht' ⊢
    generalize UInt8.ofNat (0x80 + n / 0x40 % 0x40) = c at hu hu' ⊢
    generalize UInt8.ofNat (0x80 + n / 0x1000 % 0x40) = b at hv ⊢
    have hs : size a = 4 := by
      rw [size_eq, h0]; repeat' split
      all_goals omega
    have hb : continues [a] b = true := by
      rw [continues, isSecond_iff]; omega
    have hc : continues [a, b] c = true := hu'
    have hd : continues [a, b, c] d = true := ht'
    simp only [List.cons_append, List.nil_append, chunksFrom, step_lead (a := a) (by omega),
      step_tail hb (by simp [hs]), step_tail hc (by simp [hs]), step_last hd (by simp [hs])]
    have hn : (((a.toNat - 0xF0) * 0x40 + (b.toNat - 0x80)) * 0x40 + (c.toNat - 0x80)) * 0x40 +
        (d.toNat - 0x80) = n := by omega
    simp only [assemble, leadBits, hs, List.foldl, hn]

/-- A text reads back character by character. -/
theorem chunks_encode (cs : List Char) : chunks (encode cs) = cs.map .char := by
  induction cs with
  | nil => rfl
  | cons c cs ih =>
    rw [encode, List.flatMap_cons, chunks_encodeChar_append]
    exact congrArg _ ih

@[simp] theorem lossy_encode (cs : List Char) : lossy (encode cs) = cs := by
  simp [lossy, chunks_encode, Function.comp_def, Chunk.replaced]

@[simp] theorem decode?_encode (cs : List Char) : decode? (encode cs) = some cs := by
  rw [decode?, chunks_encode]
  induction cs with
  | nil => rfl
  | cons c cs ih => simp [List.mapM_cons, Chunk.char?, ih]

/-! ## Nothing is lost -/

/-- A byte either finishes something or is under way. -/
theorem step_ne_nil (pending : List UInt8) (b : UInt8) :
    (step pending b).1 ≠ [] ∨ (step pending b).2 ≠ [] := by
  unfold step
  split
  · dsimp only
    split <;> simp
  · simp only [enter]
    split <;> simp

theorem chunksFrom_eq_nil_iff {pending bytes : List UInt8} :
    chunksFrom pending bytes = [] ↔ pending = [] ∧ bytes = [] := by
  induction bytes generalizing pending with
  | nil => cases pending <;> simp [chunksFrom, strayOf]
  | cons b bytes ih =>
    have h := step_ne_nil pending b
    simp only [chunksFrom, List.append_eq_nil_iff, ih, reduceCtorEq, and_false, iff_false]
    rintro ⟨h1, h2, _⟩
    exact h.elim (· h1) (· h2)

/-- Only no bytes read as no text. -/
theorem lossy_eq_nil_iff {bytes : List UInt8} : lossy bytes = [] ↔ bytes = [] := by
  simp [lossy, chunks, chunksFrom_eq_nil_iff]

end JumpList.Text.Utf8
