/-
# JumpList.Proofs.Append.Composition — categories do not interfere.

Appending categories is appending the first of them and then, from where that left the shell, the others:
the calls are those of the one and then those of the other, and the outcomes are merged
(`appendCategories_append`).  So a category that fails neither suppresses a later one nor changes how it is
dealt with, unless through the shell.

A shell without a memory answers by the call alone.  Then every category makes the calls that it makes
alone, wherever it stands, and in another order the categories make the same blocks of calls in that order
(`events_appendCategories_of_memoryless`).  Which specific cause is reported may change with the order, for
the first one counts; whether one is reported, or only that something was lost, or success, does not
(`Outcome.weight`).
-/
import JumpList.Proofs.Append.Course
import JumpList.Proofs.Outcome
import JumpList.Shell.Configured

namespace JumpList

open Native
open Dialogue (Memoryless Run)

/-- The run `r` consists of the run `first` and the run `later`, one after the other, and its outcome of
theirs. -/
structure InTurn {σ : Type} (r first later : Run Call Call.Reply σ Outcome) : Prop where
  events : r.events = first.events ++ later.events
  state : r.state = later.state
  value : r.value = first.value.merge later.value

variable {σ : Type} (answer : Shell σ)

/-- Appending categories is appending the first of them and then the others. -/
theorem appendCategories_append (xs ys : List Category) (s : σ) :
    let first := (appendCategories xs).run answer s
    InTurn ((appendCategories (xs ++ ys)).run answer s) first
      ((appendCategories ys).run answer first.state) := by
  intro first
  obtain ⟨he, hs, hv⟩ := run_appendCategories answer (xs ++ ys) s
  obtain ⟨hex, hsx, hvx⟩ := run_appendCategories answer xs s
  obtain ⟨hey, hsy, hvy⟩ := run_appendCategories answer ys first.state
  rw [hsx] at hey hsy hvy
  rw [List.mapM_append] at he hs hv
  simp only [Dialogue.run_bind, Dialogue.run_pure, List.append_nil] at he hs hv
  refine ⟨?_, ?_, ?_⟩
  · rw [he, hex, hsx, hey]
  · rw [hs, hsx, hsy]
  · rw [hv, hvx, hsx, hvy, Outcome.mergeAll_append]

/-- A shell without a memory makes each category's calls the same wherever it stands: the calls that the
category makes alone. -/
theorem events_appendCategories_of_memoryless {answer : Shell σ} (h : Memoryless answer)
    (cs : List Category) (s : σ) :
    ((appendCategories cs).run answer s).events =
      cs.flatMap fun c => ((appendCategories [c]).run answer s).events := by
  rw [(run_appendCategories answer cs s).1, (h.run_mapM Category.place cs s).1]
  exact List.flatMap_congr fun c _ => (run_appendCategories_singleton answer c s).2.symm

/-- With a shell without a memory the outcome says as much in any order. -/
theorem weight_appendCategories_of_memoryless {answer : Shell σ} (h : Memoryless answer)
    {cs cs' : List Category} (hperm : cs.Perm cs') (s : σ) :
    ((appendCategories cs).run answer s).value.weight =
      ((appendCategories cs').run answer s).value.weight := by
  rw [appendCategories_value, appendCategories_value, (h.run_mapM Category.place cs s).2,
    (h.run_mapM Category.place cs' s).2]
  exact Outcome.weight_mergeAll_perm (hperm.map _) _

/-- Appending categories is compositional, and a category that stands between others is dealt with as it
is alone, from where those before it left the shell, whatever became of them.  With a shell without a
memory the calls are the blocks that the categories make alone; in another order of the categories they
are the same blocks in that order, and the outcome says as much. -/
theorem appendCategories_composes :
    (∀ xs ys s,
      let first := (appendCategories xs).run answer s
      InTurn ((appendCategories (xs ++ ys)).run answer s) first
        ((appendCategories ys).run answer first.state)) ∧
    (∀ before c after s,
      let first := (appendCategories before).run answer s
      let own := (appendCategories [c]).run answer first.state
      let later := (appendCategories after).run answer own.state
      let r := (appendCategories (before ++ c :: after)).run answer s
      r.events = first.events ++ (own.events ++ later.events) ∧ r.state = later.state ∧
        r.value = first.value.merge (own.value.merge later.value)) ∧
    (Memoryless answer → ∀ s,
      let block := fun c => ((appendCategories [c]).run answer s).events
      (∀ cs, ((appendCategories cs).run answer s).events = (cs.map block).flatten) ∧
      ∀ cs cs' : List Category, cs.Perm cs' →
        let r := (appendCategories cs).run answer s
        let r' := (appendCategories cs').run answer s
        r.events = (cs.map block).flatten ∧ r'.events = (cs'.map block).flatten ∧
          (cs.map block).Perm (cs'.map block) ∧ r.value.weight = r'.value.weight) := by
  refine ⟨appendCategories_append answer, ?_, ?_⟩
  · intro before c after s first own later r
    have hr := appendCategories_append answer before (c :: after) s
    have hrest := appendCategories_append answer [c] after first.state
    exact ⟨by rw [← hrest.events]; exact hr.events, hr.state.trans hrest.state,
      by rw [← hrest.value]; exact hr.value⟩
  · intro h s block
    have hblocks (cs : List Category) :
        ((appendCategories cs).run answer s).events = (cs.map block).flatten := by
      rw [events_appendCategories_of_memoryless h, List.flatMap_def]
    refine ⟨hblocks, ?_⟩
    intro cs cs' hperm r r'
    have hweight := weight_appendCategories_of_memoryless h hperm s
    exact ⟨hblocks cs, hblocks cs', hperm.map block, hweight⟩

open JumpList.Shell (Configuration) in
/-- A shell that counts what it is asked and answers by the call alone.  A line that is out of place and
a refusal are two causes, and the first one is reported: the order of the categories decides which it is,
and nothing else but the order of the calls. -/
theorem appendCategories_composes_reordered :
    let cfg : Configuration :=
      { Configuration.faultless with appendCategoryErrors := [("Files", Status.accessDenied)] }
    let answer : Shell Nat := fun call asked => (cfg.reply call, asked + 1)
    let lines := Category.custom "Lines" [.separator]
    let files := Category.custom "Files" [.file (Path.ofString "notes")]
    let block := fun c => ((appendCategories [c]).run answer 0).events
    let r := (appendCategories [lines, files]).run answer 0
    let r' := (appendCategories [files, lines]).run answer 0
    Memoryless answer ∧ [lines, files].Perm [files, lines] ∧
      r.events = block lines ++ block files ∧ r'.events = block files ++ block lines ∧
      (block lines).length = 1 ∧ (block files).length = 4 ∧
      r.value = .separatorError ∧ r'.value = .categoryDenied ∧ r.value.weight = r'.value.weight := by
  intro cfg answer lines files block r r'
  have hmemoryless : Memoryless answer := fun _ _ _ => rfl
  have hperm : [lines, files].Perm [files, lines] := .swap files lines []
  obtain ⟨-, -, hinOrder⟩ := appendCategories_composes answer
  obtain ⟨-, hreordered⟩ := hinOrder hmemoryless 0
  obtain ⟨hevents, hevents', -, hweight⟩ := hreordered [lines, files] [files, lines] hperm
  refine ⟨hmemoryless, hperm, ?_, ?_, by decide, by decide, by decide, by decide, hweight⟩
  · simpa using hevents
  · simpa using hevents'

end JumpList
