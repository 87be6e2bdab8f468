/-
# JumpList.Proofs.Dialogue — what every run of a dialogue has in common.

Some general facts about dialogues are used throughout.  What the responder remembers at the end of a
run depends on the events alone (`state_run`), so dialogues that ask the same leave the same state, and
dialogues that differ in their records alone go the same way (`run_of_unheard_eq`).  What a dialogue may
ask is a property of the dialogue alone (`AsksOnly`), so whatever answers it, the events of a run are
about such questions (`AsksOnly.forall_events`).  And a dialogue that goes through a list is, in a run,
the sequence of the runs for the elements, each from the state that the one before left (`run_mapM`).  If
what answers has no memory, then it makes no difference what was asked before (`Memoryless.run_eq`), and a
dialogue that goes through a list goes the same way for each element wherever it stands
(`Memoryless.run_mapM`).
-/
import JumpList.Dialogue
import Mathlib.Data.List.Forall2

namespace JumpList.Dialogue

variable {Call : Type} {Reply : Call → Type} {α β ι σ : Type}

@[simp] theorem run_map (answer : Responder Call Reply σ) (f : α → β) (d : Dialogue Call Reply α)
    (s : σ) : (f <$> d).run answer s =
      ⟨f (d.run answer s).value, (d.run answer s).state, (d.run answer s).events,
        (d.run answer s).records⟩ := by
  rw [← bind_pure_comp, run_bind]
  simp

/-- What the responder remembers follows from what it was asked, whatever was asked it by. -/
theorem state_run (answer : Responder Call Reply σ) (d : Dialogue Call Reply α) (s : σ) :
    (d.run answer s).state = (d.run answer s).events.foldl (fun s e => (answer e.1 s).2) s := by
  induction d generalizing s with
  | done _ => rfl
  | note record next ih => exact ih s
  | ask call next ih => exact ih _ (answer call s).2

/-- Dialogues that ask the same leave the responder in the same state. -/
theorem state_eq_of_events_eq {answer : Responder Call Reply σ} {d : Dialogue Call Reply α}
    {d' : Dialogue Call Reply β} {s : σ} (h : (d.run answer s).events = (d'.run answer s).events) :
    (d.run answer s).state = (d'.run answer s).state := by
  rw [state_run, state_run, h]

/-! ## Leaving the records out -/

@[simp] theorem unheard_pure (a : α) :
    (Pure.pure a : Dialogue Call Reply α).unheard = Pure.pure a := rfl

@[simp] theorem unheard_say (record : Log.Record) :
    (Dialogue.say record : Dialogue Call Reply Unit).unheard = Pure.pure () := rfl

@[simp] theorem unheard_question (call : Call) :
    (Dialogue.question call : Dialogue Call Reply (Reply call)).unheard =
      Dialogue.question call := rfl

@[simp] theorem unheard_bind (d : Dialogue Call Reply α) (f : α → Dialogue Call Reply β) :
    (d >>= f).unheard = d.unheard >>= fun a => (f a).unheard := by
  simp only [bind_eq]
  induction d with
  | done _ => rfl
  | note record next ih => exact ih
  | ask call next ih => exact congrArg (Dialogue.ask call) (funext ih)

/-- Dialogues that are the same but for their records go the same way, whatever answers them. -/
theorem run_of_unheard_eq {d d' : Dialogue Call Reply α} (h : d.unheard = d'.unheard)
    (answer : Responder Call Reply σ) (s : σ) :
    (d.run answer s).events = (d'.run answer s).events ∧
      (d.run answer s).state = (d'.run answer s).state ∧
      (d.run answer s).value = (d'.run answer s).value := by
  have hrun : ({ d.run answer s with records := [] } : Run Call Reply σ α) =
      { d'.run answer s with records := [] } := by
    rw [← run_unheard, h, run_unheard]
  obtain ⟨hvalue, hstate, hevents, -⟩ := Run.mk.inj hrun
  exact ⟨hevents, hstate, hvalue⟩

/-! ## What a dialogue may ask -/

/-- Every question that the dialogue can come to ask, however it is answered, satisfies `P`. -/
def AsksOnly (P : Call → Prop) : Dialogue Call Reply α → Prop
  | .done _ => True
  | .note _ next => next.AsksOnly P
  | .ask call next => P call ∧ ∀ reply, (next reply).AsksOnly P

namespace AsksOnly

variable {P : Call → Prop}

theorem pure (a : α) : (Pure.pure a : Dialogue Call Reply α).AsksOnly P := trivial

theorem say (record : Log.Record) : (Dialogue.say record : Dialogue Call Reply Unit).AsksOnly P :=
  trivial

theorem question {call : Call} (h : P call) :
    (Dialogue.question call : Dialogue Call Reply (Reply call)).AsksOnly P :=
  ⟨h, fun _ => trivial⟩

theorem bind {d : Dialogue Call Reply α} {f : α → Dialogue Call Reply β} (hd : d.AsksOnly P)
    (hf : ∀ a, (f a).AsksOnly P) : (d >>= f).AsksOnly P := by
  rw [bind_eq]
  induction d with
  | done a => exact hf a
  | note record next ih => exact ih hd
  | ask call next ih => exact ⟨hd.1, fun reply => ih reply (hd.2 reply)⟩

/-- The events of a run are about the questions that the dialogue may ask. -/
theorem forall_events {d : Dialogue Call Reply α} (h : d.AsksOnly P)
    (answer : Responder Call Reply σ) (s : σ) : ∀ e ∈ (d.run answer s).events, P e.1 := by
  induction d generalizing s with
  | done _ => simp [run]
  | note record next ih =>
    intro e he
    exact ih h s e he
  | ask call next ih =>
    intro e he
    rcases List.mem_cons.mp he with rfl | he
    · exact h.1
    · exact ih _ (h.2 _) _ e he

end AsksOnly

/-! ## One dialogue for each element of a list -/

/-- The elements of a list, each with the state in which its dialogue starts when the dialogues are
run one after the other. -/
def starts (answer : Responder Call Reply σ) (f : ι → Dialogue Call Reply α) :
    List ι → σ → List (ι × σ)
  | [], _ => []
  | i :: is, s => (i, s) :: starts answer f is ((f i).run answer s).state

variable (answer : Responder Call Reply σ) (f : ι → Dialogue Call Reply α)

@[simp] theorem map_fst_starts (is : List ι) (s : σ) : (starts answer f is s).map Prod.fst = is := by
  induction is generalizing s with
  | nil => rfl
  | cons i is ih => simp [starts, ih]

/-- A dialogue that goes through a list runs the dialogues of the elements one after the other. -/
theorem run_mapM (is : List ι) (s : σ) :
    ((is.mapM f).run answer s).value =
        (starts answer f is s).map (fun p => ((f p.1).run answer p.2).value) ∧
      ((is.mapM f).run answer s).events =
        (starts answer f is s).flatMap (fun p => ((f p.1).run answer p.2).events) ∧
      ((is.mapM f).run answer s).records =
        (starts answer f is s).flatMap (fun p => ((f p.1).run answer p.2).records) := by
  induction is generalizing s with
  | nil => simp [starts]
  | cons i is ih =>
    obtain ⟨hv, he, hr⟩ := ih ((f i).run answer s).state
    simp [List.mapM_cons, starts, run_bind, hv, he, hr]

/-- If every run of `f i` is one of those that `R i` allows, then a dialogue that goes through a list
consists of allowed parts, one for each element. -/
theorem exists_parts_of_mapM {R : ι → List (Event Call Reply) → α → Prop}
    (h : ∀ i s, R i ((f i).run answer s).events ((f i).run answer s).value) (is : List ι) (s : σ) :
    ∃ parts : List (List (Event Call Reply) × α),
      List.Forall₂ (fun i part => R i part.1 part.2) is parts ∧
        ((is.mapM f).run answer s).events = parts.flatMap Prod.fst ∧
        ((is.mapM f).run answer s).value = parts.map Prod.snd := by
  induction is generalizing s with
  | nil => exact ⟨[], .nil, rfl, rfl⟩
  | cons i is ih =>
    obtain ⟨parts, hparts, he, hv⟩ := ih ((f i).run answer s).state
    refine ⟨(((f i).run answer s).events, ((f i).run answer s).value) :: parts,
      .cons (h i s) hparts, ?_, ?_⟩
    · simp [List.mapM_cons, run_bind, he]
    · simp [List.mapM_cons, run_bind, hv]

/-- Every part belongs to an element. -/
theorem exists_of_mem_parts {R : ι → β → Prop} {is : List ι} {parts : List β}
    (h : List.Forall₂ R is parts) {part : β} (hpart : part ∈ parts) : ∃ i ∈ is, R i part := by
  induction h with
  | nil => cases hpart
  | cons hR _ ih =>
    rcases List.mem_cons.mp hpart with rfl | hpart
    · exact ⟨_, List.mem_cons_self, hR⟩
    · obtain ⟨i, hi, hR⟩ := ih hpart
      exact ⟨i, List.mem_cons_of_mem _ hi, hR⟩

/-! ## Responders without a memory -/

/-- What is answered depends on the question alone. -/
def Memoryless (answer : Responder Call Reply σ) : Prop :=
  ∀ call s s', (answer call s).1 = (answer call s').1

namespace Memoryless

variable {answer : Responder Call Reply σ}

/-- A dialogue goes the same way from any state. -/
theorem run_eq (h : Memoryless answer) (d : Dialogue Call Reply α) (s s' : σ) :
    (d.run answer s).events = (d.run answer s').events ∧
      (d.run answer s).value = (d.run answer s').value := by
  induction d generalizing s s' with
  | done _ => exact ⟨rfl, rfl⟩
  | note record next ih => exact ih s s'
  | ask call next ih =>
    have hreply := h call s s'
    obtain ⟨hevents, hvalue⟩ := ih (answer call s').1 (answer call s).2 (answer call s').2
    constructor
    · show _ :: ((next (answer call s).1).run answer (answer call s).2).events = _
      rw [hreply, hevents]
      rfl
    · show ((next (answer call s).1).run answer (answer call s).2).value = _
      rw [hreply, hvalue]
      rfl

/-- Each element of a list is dealt with as it would be alone. -/
theorem run_mapM (h : Memoryless answer) (f : ι → Dialogue Call Reply α) (is : List ι) (s : σ) :
    ((is.mapM f).run answer s).events = is.flatMap (fun i => ((f i).run answer s).events) ∧
      ((is.mapM f).run answer s).value = is.map (fun i => ((f i).run answer s).value) := by
  obtain ⟨hvalue, hevents, -⟩ := Dialogue.run_mapM answer f is s
  have hfst := map_fst_starts answer f is s
  constructor
  · rw [hevents]
    conv_rhs => rw [← hfst, List.flatMap_map]
    exact List.flatMap_congr fun p _ => (h.run_eq (f p.1) p.2 s).1
  · rw [hvalue]
    conv_rhs => rw [← hfst, List.map_map]
    exact List.map_congr_left fun p _ => (h.run_eq (f p.1) p.2 s).2

end Memoryless

end JumpList.Dialogue
