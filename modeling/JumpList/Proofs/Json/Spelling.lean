/-
# JumpList.Proofs.Json.Spelling — the texts of an object.

A JSON text leaves its writer free: gaps may stand between tokens, and a character of a string
literal may stand for itself, or be escaped by a letter, by its code unit, or by the pair of its
code units.  `SpellsObject` says which texts spell an object of nulls, truth values and texts,
without a word about how texts are read.

Whatever the spelling, the object is what is read (`Document.ofText?_of_spells`), and what is printed
in lines is one of the spellings (`spellsObject_pretty`).
-/
import JumpList.Json.Document
import JumpList.Json.Printer
import Mathlib.Data.List.DropRight

namespace JumpList.Json

/-! ## Spellings -/

/-- How a string literal may spell a character. -/
inductive SpellsChar : Char → List Char → Prop
  /-- As itself, unless it is a control character, the quote or the backslash. -/
  | itself {c : Char} (hctl : 0x20 ≤ c.toNat) (hq : c ≠ '"') (hb : c ≠ '\\') : SpellsChar c [c]
  /-- By the letter that stands for it. -/
  | letter {c e : Char} (h : escaped? e = some c) : SpellsChar c ['\\', e]
  /-- By the digits of its code unit. -/
  | unit {c w x y z : Char} (h : unit? w x y z = some c.toNat) :
      SpellsChar c ['\\', 'u', w, x, y, z]
  /-- By the digits of its two code units. -/
  | pair {c w x y z w' x' y' z' : Char} {u v : Nat} (hu : unit? w x y z = some u)
      (hv : unit? w' x' y' z' = some v) (hl : isLeading u = true) (ht : isTrailing v = true)
      (hc : c.toNat = 0x10000 + (u - 0xD800) * 0x400 + (v - 0xDC00)) :
      SpellsChar c ['\\', 'u', w, x, y, z, '\\', 'u', w', x', y', z']

/-- How a string literal may spell a text, between its quotes. -/
inductive SpellsText : List Char → List Char → Prop
  | nil : SpellsText [] []
  | cons {c : Char} {cs w ws : List Char} (h : SpellsChar c w) (hs : SpellsText cs ws) :
      SpellsText (c :: cs) (w ++ ws)

/-- A gap between tokens. -/
def IsGap (cs : List Char) : Prop := ∀ c ∈ cs, isGap c = true

/-- How a null, a truth value or a text may be spelled. -/
inductive SpellsScalar : Json → List Char → Prop
  | null : SpellsScalar .null "null".toList
  | yes : SpellsScalar (.bool true) "true".toList
  | no : SpellsScalar (.bool false) "false".toList
  | string {s : String} {w : List Char} (h : SpellsText s.toList w) :
      SpellsScalar (.string s) ('"' :: (w ++ ['"']))

/-- How a member may be spelled. -/
inductive SpellsMember : String × Json → List Char → Prop
  | mk {key : String} {value : Json} {k v g₁ g₂ g₃ g₄ : List Char}
      (hk : SpellsText key.toList k) (hv : SpellsScalar value v)
      (h₁ : IsGap g₁) (h₂ : IsGap g₂) (h₃ : IsGap g₃) (h₄ : IsGap g₄) :
      SpellsMember (key, value) (g₁ ++ '"' :: (k ++ '"' :: (g₂ ++ ':' :: (g₃ ++ (v ++ g₄)))))

/-- How members may be spelled, commas between them. -/
inductive SpellsMembers : Members → List Char → Prop
  | one {m : String × Json} {w : List Char} (h : SpellsMember m w) : SpellsMembers [m] w
  | more {m : String × Json} {ms : Members} {w ws : List Char} (h : SpellsMember m w)
      (hs : SpellsMembers ms ws) : SpellsMembers (m :: ms) (w ++ ',' :: ws)

/-- How an object may be spelled. -/
inductive SpellsObject : Members → List Char → Prop
  | empty {g₁ g₂ g₃ : List Char} (h₁ : IsGap g₁) (h₂ : IsGap g₂) (h₃ : IsGap g₃) :
      SpellsObject [] (g₁ ++ '{' :: (g₂ ++ '}' :: g₃))
  | members {ms : Members} {g₁ w g₂ : List Char} (h₁ : IsGap g₁) (h : SpellsMembers ms w)
      (h₂ : IsGap g₂) : SpellsObject ms (g₁ ++ '{' :: (w ++ '}' :: g₂))

/-! ## Reading string literals -/

/-- Four digits spell the number that they were written for. -/
theorem unit?_hexFixed {n : Nat} (h : n < 0x10000) :
    ∃ a b c d, Text.hexFixed .lower 4 n = [a, b, c, d] ∧ unit? a b c d = some n := by
  refine ⟨_, _, _, _, rfl, ?_⟩
  simp only [unit?, Text.hexValue?_hexDigit, bind, Option.bind, pure]
  congr 1
  omega

/-- An escape of one letter is one piece. -/
theorem pieces_letter {e c : Char} (h : escaped? e = some c) (rest : List Char) :
    pieces ('\\' :: e :: rest) = (pieces rest).map fun (ps, rest) => (.char c :: ps, rest) := by
  have hu : e ≠ 'u' := by
    rintro rfl
    simp [escaped?] at h
  cases hp : pieces rest <;> simp [pieces, hu, h, hp]

/-- A numeric escape is one piece. -/
theorem pieces_unit {w x y z : Char} {u : Nat} (h : unit? w x y z = some u) (rest : List Char) :
    pieces ('\\' :: 'u' :: w :: x :: y :: z :: rest) =
      (pieces rest).map fun (ps, rest) => (.unit u :: ps, rest) := by
  cases hp : pieces rest <;> simp [pieces, h, hp]

/-- No character is a unit of a pair. -/
theorem not_isLeading_not_isTrailing (c : Char) :
    isLeading c.toNat = false ∧ isTrailing c.toNat = false := by
  have hvalid : c.toNat.isValidChar := c.valid
  simp only [Nat.isValidChar] at hvalid
  constructor
  · simp only [isLeading, Bool.and_eq_false_iff, decide_eq_false_iff_not]
    omega
  · simp only [isTrailing, Bool.and_eq_false_iff, decide_eq_false_iff_not]
    omega

/-- A unit that is a character denotes it. -/
theorem denoted_unit (c : Char) (more : List Piece) :
    denoted (.unit c.toNat :: more) = (denoted more).map (c :: ·) := by
  obtain ⟨hl, ht⟩ := not_isLeading_not_isTrailing c
  rw [denoted.eq_def]
  simp [hl, ht]

/-- A spelled character is read as pieces that denote it, whatever stands behind. -/
theorem SpellsChar.pieces {c : Char} {w : List Char} (h : SpellsChar c w) :
    ∃ ps : List Piece,
      (∀ rest, Json.pieces (w ++ rest) = (Json.pieces rest).map fun r => (ps ++ r.1, r.2)) ∧
        ∀ more, denoted (ps ++ more) = (denoted more).map (c :: ·) := by
  cases h with
  | itself hctl hq hb =>
    refine ⟨[.char c], fun rest => ?_, fun _ => rfl⟩
    have hn : ¬ c.toNat < 0x20 := Nat.not_lt.2 hctl
    cases hp : Json.pieces rest <;> simp [Json.pieces, hb, hn, hp]
  | letter he => exact ⟨[.char c], pieces_letter he, fun _ => rfl⟩
  | unit hu => exact ⟨[.unit c.toNat], pieces_unit hu, denoted_unit c⟩
  | @pair _ _ _ _ _ _ _ _ u v hu hv hl ht hc =>
    refine ⟨[.unit u, .unit v], fun rest => ?_, fun more => ?_⟩
    · simp only [List.cons_append, List.nil_append]
      rw [pieces_unit hu, pieces_unit hv, Option.map_map]
      rfl
    · simp [denoted, hl, ht, ← hc]

/-- A spelled text is read as that text. -/
theorem SpellsText.stringLiteral {cs w : List Char} (h : SpellsText cs w) (rest : List Char) :
    Json.stringLiteral (w ++ '"' :: rest) = some (some (String.ofList cs), rest) := by
  have hread : ∃ ps, Json.pieces (w ++ '"' :: rest) = some (ps, rest) ∧ denoted ps = some cs := by
    induction h with
    | nil => exact ⟨[], by simp [Json.pieces], rfl⟩
    | @cons c cs w ws hc _ ih =>
      obtain ⟨ps, hps, hcs⟩ := ih
      obtain ⟨front, hfront, hchar⟩ := hc.pieces
      refine ⟨front ++ ps, ?_, ?_⟩
      · rw [List.append_assoc, hfront, hps]
        rfl
      · rw [hchar, hcs]
        rfl
  obtain ⟨ps, hps, hcs⟩ := hread
  simp [Json.stringLiteral, hps, hcs]

/-! ## Reading members -/

/-- The document that a value is written as: one without holes. -/
def Document.ofValue : Json → Document
  | .null => .null
  | .bool b => .bool b
  | .number n => .number (some n)
  | .string s => .string (some s)
  | .array es => .array (es.map Document.ofValue)
  | .object ms => .object (ms.map fun m => (some m.1, Document.ofValue m.2))
decreasing_by
  · next he =>
    have hlt := List.sizeOf_lt_of_mem he
    simp only [Json.array.sizeOf_spec]
    omega
  · next hm =>
    have hlt := List.sizeOf_lt_of_mem hm
    obtain ⟨key, value⟩ := m
    simp only [Json.object.sizeOf_spec, Prod.mk.sizeOf_spec] at hlt ⊢
    omega

/-- A member as a document has it. -/
def Document.ofMember (m : String × Json) : Option String × Document :=
  (some m.1, Document.ofValue m.2)

theorem isGap_nil : IsGap [] := by simp [IsGap]

theorem skipGap_append {g : List Char} (h : IsGap g) (rest : List Char) :
    skipGap (g ++ rest) = skipGap rest :=
  List.dropWhile_append_of_pos h

theorem skipGap_token {g : List Char} (hg : IsGap g) (c : Char) (hc : isGap c = false)
    (rest : List Char) : skipGap (g ++ c :: rest) = c :: rest := by
  rw [skipGap_append hg]
  simp [skipGap, hc]

/-- A gap in front changes nothing of what is read. -/
theorem readMembers_skipGap (fuel : Nat) (cs : List Char) :
    readMembers fuel (skipGap cs) = readMembers fuel cs := by
  cases fuel with
  | zero => rfl
  | succ fuel => simp only [readMembers, skipGap, List.dropWhile_idempotent]

/-- A spelled scalar is read as it, whatever the gap in front and whatever stands behind. -/
theorem SpellsScalar.readValue {j : Json} {w : List Char} (h : SpellsScalar j w) {g : List Char}
    (hg : IsGap g) (fuel : Nat) (rest : List Char) :
    Json.readValue (fuel + 1) (g ++ (w ++ rest)) = some (.ofValue j, rest) := by
  unfold Json.readValue
  rw [skipGap_append hg]
  cases h with
  | null => simp [skipGap, isGap, Document.ofValue]
  | yes => simp [skipGap, isGap, Document.ofValue]
  | no => simp [skipGap, isGap, Document.ofValue]
  | @string s w hs =>
    simp [skipGap, isGap, Document.ofValue, hs.stringLiteral]

/-- A spelled member is read as it, and what stands behind says whether there are more. -/
theorem SpellsMember.readMembers {m : String × Json} {w : List Char} (h : SpellsMember m w)
    (fuel : Nat) (rest : List Char) :
    Json.readMembers (fuel + 2) (w ++ ',' :: rest) =
        (Json.readMembers (fuel + 1) rest).map (fun r => (Document.ofMember m :: r.1, r.2)) ∧
      Json.readMembers (fuel + 2) (w ++ '}' :: rest) = some ([Document.ofMember m], rest) := by
  obtain ⟨hk, hv, h₁, h₂, h₃, h₄⟩ := h
  constructor
  · rw [Json.readMembers]
    simp only [List.append_assoc, List.cons_append, skipGap_token h₁ '"' rfl, hk.stringLiteral,
      skipGap_token h₂ ':' rfl, hv.readValue h₃, skipGap_token h₄ ',' rfl, bind, Option.bind, pure,
      Document.ofMember, String.ofList_toList]
    cases Json.readMembers (fuel + 1) rest <;> rfl
  · rw [Json.readMembers]
    simp only [List.append_assoc, List.cons_append, skipGap_token h₁ '"' rfl, hk.stringLiteral,
      skipGap_token h₂ ':' rfl, hv.readValue h₃, skipGap_token h₄ '}' rfl, bind, Option.bind, pure,
      Document.ofMember, String.ofList_toList]

/-- Members up to the closing brace are read as they were spelled, within a step for each. -/
theorem SpellsMembers.readMembers {ms : Members} {w : List Char} (h : SpellsMembers ms w)
    {fuel : Nat} (hf : ms.length < fuel) (rest : List Char) :
    Json.readMembers fuel (w ++ '}' :: rest) = some (ms.map Document.ofMember, rest) := by
  induction h generalizing fuel with
  | one hm =>
    obtain ⟨fuel, rfl⟩ : ∃ n, fuel = n + 2 := ⟨fuel - 2, by simp at hf; omega⟩
    exact (hm.readMembers fuel rest).2
  | more hm _ ih =>
    obtain ⟨fuel, rfl⟩ : ∃ n, fuel = n + 2 := ⟨fuel - 2, by simp at hf; omega⟩
    have hlater := @ih (fuel + 1) (by simpa using hf)
    rw [List.append_assoc, List.cons_append, (hm.readMembers fuel _).1, hlater]
    rfl

/-! ## Reading objects -/

/-- The first character of members behind a gap is the quote of a key. -/
theorem SpellsMembers.skipGap {ms : Members} {w : List Char} (h : SpellsMembers ms w)
    (rest : List Char) : ∃ more, Json.skipGap (w ++ rest) = '"' :: more := by
  have hmember {m : String × Json} {w : List Char} (hm : SpellsMember m w) (rest : List Char) :
      ∃ more, Json.skipGap (w ++ rest) = '"' :: more := by
    obtain ⟨_, _, h₁, _, _, _⟩ := hm
    rw [List.append_assoc, List.cons_append, skipGap_token h₁ '"' rfl]
    exact ⟨_, rfl⟩
  cases h with
  | one hm => exact hmember hm rest
  | more hm _ =>
    rw [List.append_assoc]
    exact hmember hm _

/-- Members take at least one character each. -/
theorem SpellsMembers.length_le {ms : Members} {w : List Char} (h : SpellsMembers ms w) :
    ms.length ≤ w.length := by
  have hmember {m : String × Json} {w : List Char} (hm : SpellsMember m w) : 0 < w.length := by
    obtain ⟨_, _, _, _, _, _⟩ := hm
    simp only [List.length_append, List.length_cons]
    omega
  induction h with
  | one hm => exact hmember hm
  | more hm _ ih =>
    have hpos := hmember hm
    simp only [List.length_append, List.length_cons]
    omega

/-- A spelled object is read as the members that were spelled, in their order. -/
theorem Document.ofText?_of_spells {ms : Members} {text : String}
    (h : SpellsObject ms text.toList) :
    Document.ofText? text = some (.object (ms.map Document.ofMember)) := by
  have hread : ∃ g, IsGap g ∧ readValue (fuelFor text.toList) text.toList =
      some (.object (ms.map Document.ofMember), g) := by
    generalize text.toList = cs at h
    cases h with
    | @empty g₁ g₂ g₃ h₁ h₂ h₃ =>
      refine ⟨g₃, h₃, ?_⟩
      rw [fuelFor, readValue]
      simp only [skipGap_token h₁ '{' rfl, skipGap_token h₂ '}' rfl, List.map_nil]
    | @members _ g₁ w g₂ h₁ hms h₂ =>
      refine ⟨g₂, h₂, ?_⟩
      obtain ⟨more, hmore⟩ := hms.skipGap ('}' :: g₂)
      have hfuel : ms.length < 2 * (g₁ ++ '{' :: (w ++ '}' :: g₂)).length + 1 := by
        have hlen := hms.length_le
        simp only [List.length_append, List.length_cons]
        omega
      have hmembers := hms.readMembers hfuel g₂
      rw [← readMembers_skipGap, hmore] at hmembers
      rw [fuelFor, readValue]
      simp only [skipGap_token h₁ '{' rfl, hmore]
      show (Json.readMembers _ ('"' :: more)).map (fun r => (Document.object r.1, r.2)) = _
      rw [hmembers]
      rfl
  obtain ⟨g, hg, hread⟩ := hread
  have hend : skipGap g = [] := List.dropWhile_eq_nil_iff.2 hg
  simp [Document.ofText?, hread, hend]

/-! ## Printing -/

/-- What is printed for a character is a spelling of it. -/
theorem spellsChar_escapeChar (c : Char) : SpellsChar c (escapeChar c) := by
  have hchar {n : Nat} (h : c.toNat = n) : c = Char.ofNat n := by rw [← h, Char.ofNat_toNat]
  unfold escapeChar
  split
  · next h =>
    subst h
    exact .letter rfl
  · next hq =>
    split
    · next h =>
      subst h
      exact .letter rfl
    · next hb =>
      split
      · next h => exact .letter (hchar h ▸ rfl)
      · split
        · next h => exact .letter (h ▸ rfl)
        · split
          · next h => exact .letter (h ▸ rfl)
          · split
            · next h => exact .letter (hchar h ▸ rfl)
            · split
              · next h => exact .letter (h ▸ rfl)
              · split
                · next hc =>
                  obtain ⟨w, x, y, z, hd, hu⟩ := unit?_hexFixed (n := c.toNat) (by omega)
                  rw [hd]
                  exact .unit hu
                · next hc => exact .itself (Nat.not_lt.1 hc) hq hb

/-- What is printed for the characters of a text is a spelling of it. -/
theorem spellsText_escapeChar (cs : List Char) : SpellsText cs (cs.flatMap escapeChar) := by
  induction cs with
  | nil => exact .nil
  | cons c cs ih => exact .cons (spellsChar_escapeChar c) ih

/-- The literal of a text is a spelling of it. -/
theorem spellsScalar_literal (s : String) : SpellsScalar (.string s) (literal s) :=
  .string (spellsText_escapeChar s.toList)

theorem isGap_lineBreak (depth : Nat) : IsGap (lineBreak depth) := by
  intro c hc
  rcases List.mem_cons.mp hc with rfl | hc
  · rfl
  · rw [List.eq_of_mem_replicate hc]
    rfl

/-- A gap may stand behind the last member. -/
theorem SpellsMembers.append_gap {ms : Members} {w : List Char} (h : SpellsMembers ms w)
    {g : List Char} (hg : IsGap g) : SpellsMembers ms (w ++ g) := by
  have hmember {m : String × Json} {w : List Char} (hm : SpellsMember m w) :
      SpellsMember m (w ++ g) := by
    obtain ⟨hk, hv, h₁, h₂, h₃, h₄⟩ := hm
    have h₄' := fun c hc => (List.mem_append.mp hc).elim (h₄ c) (hg c)
    simpa using SpellsMember.mk hk hv h₁ h₂ h₃ h₄'
  induction h with
  | one hm => exact .one (hmember hm)
  | more hm _ ih =>
    rw [List.append_assoc, List.cons_append]
    exact .more hm ih

/-- A member printed on its line. -/
theorem spellsMember_line {m : String × Json} {v : List Char} (h : SpellsScalar m.2 v)
    (depth : Nat) : SpellsMember m (lineBreak depth ++ (literal m.1 ++ [':', ' '] ++ v)) := by
  have hspace : IsGap [' '] := by simp [IsGap, isGap]
  simpa [literal] using SpellsMember.mk (spellsText_escapeChar m.1.toList) h (isGap_lineBreak depth)
    isGap_nil hspace isGap_nil

/-- Members printed in lines, commas between them. -/
theorem spellsMembers_lines {m : String × Json} {ms : Members} {depth : Nat}
    (h : ∀ m' ∈ m :: ms, SpellsScalar m'.2 (prettyChars depth m'.2)) :
    SpellsMembers (m :: ms)
      (((prettyMembers depth (m :: ms)).map (lineBreak depth ++ ·)).intersperse [',']).flatten := by
  induction ms generalizing m with
  | nil =>
    have hone := spellsMember_line (h m List.mem_cons_self) depth
    simpa [prettyMembers] using SpellsMembers.one hone
  | cons m' ms ih =>
    have hone := spellsMember_line (h m List.mem_cons_self) depth
    have hlater := ih (m := m') fun x hx => h x (List.mem_cons_of_mem _ hx)
    simpa [prettyMembers] using SpellsMembers.more hone hlater

/-- An object of nulls, truth values and texts printed in lines is a spelling of it. -/
theorem spellsObject_pretty {ms : Members} (h : ∀ m ∈ ms, SpellsScalar m.2 (prettyChars 1 m.2)) :
    SpellsObject ms (pretty (.object ms)).toList := by
  cases ms with
  | nil => exact .empty isGap_nil isGap_nil isGap_nil
  | cons m ms =>
    have hlines := (spellsMembers_lines h).append_gap (isGap_lineBreak 0)
    have hobject := SpellsObject.members isGap_nil hlines isGap_nil
    simpa [pretty, prettyChars, bracketed, prettyMembers] using hobject

end JumpList.Json
