/-
# JumpList.Dialogue — programs that ask, and what happens when they are answered.

A dialogue is a program that asks questions of its surroundings, goes on with each answer, notes
records on the way, and ends with a value.  The surroundings are not part of it: they are anything
that answers every question, and may keep a state between the answers.

A run against such a responder is a value: the result, the state left behind, the questions with
their answers and the records, all in order.  The main statement is `run_bind`: the run of two
dialogues one after the other is the one run and then the other.
-/
import JumpList.Log

namespace JumpList

/-- A program that asks questions of type `Call`, each with its own type of answers. -/
inductive Dialogue (Call : Type) (Reply : Call → Type) (α : Type) where
  | done (value : α)
  | note (record : Log.Record) (next : Dialogue Call Reply α)
  | ask (call : Call) (next : Reply call → Dialogue Call Reply α)

namespace Dialogue

variable {Call : Type} {Reply : Call → Type} {α β σ : Type}

/-! ## One after the other -/

/-- Goes on with `f` where `d` ends. -/
protected def bind (d : Dialogue Call Reply α) (f : α → Dialogue Call Reply β) :
    Dialogue Call Reply β :=
  match d with
  | .done value => f value
  | .note record next => .note record (next.bind f)
  | .ask call next => .ask call fun reply => (next reply).bind f

instance : Monad (Dialogue Call Reply) where
  pure := .done
  bind := Dialogue.bind

theorem bind_eq (d : Dialogue Call Reply α) (f : α → Dialogue Call Reply β) :
    d >>= f = d.bind f := rfl

theorem bind_done (d : Dialogue Call Reply α) : d.bind .done = d := by
  induction d with
  | done _ => rfl
  | note record _ ih => exact congrArg (Dialogue.note record) ih
  | ask call _ ih => exact congrArg (Dialogue.ask call) (funext ih)

theorem bind_bind {γ : Type} (d : Dialogue Call Reply α) (f : α → Dialogue Call Reply β)
    (g : β → Dialogue Call Reply γ) : (d.bind f).bind g = d.bind fun a => (f a).bind g := by
  induction d with
  | done _ => rfl
  | note record _ ih => exact congrArg (Dialogue.note record) ih
  | ask call _ ih => exact congrArg (Dialogue.ask call) (funext ih)

instance : LawfulMonad (Dialogue Call Reply) := LawfulMonad.mk' _
  (fun d => bind_done d) (fun _ _ => rfl) (fun d f g => bind_bind d f g)

/-- The dialogue that notes one record. -/
def say (record : Log.Record) : Dialogue Call Reply Unit := .note record (.done ())

/-- The dialogue that asks one question and ends with the answer. -/
def question (call : Call) : Dialogue Call Reply (Reply call) := .ask call .done

/-! ## Runs -/

/-- What answers every question, given what it remembers. -/
abbrev Responder (Call : Type) (Reply : Call → Type) (σ : Type) :=
  (call : Call) → σ → Reply call × σ

/-- A question with its answer. -/
abbrev Event (Call : Type) (Reply : Call → Type) := (call : Call) × Reply call

/-- What happened in a run. -/
structure Run (Call : Type) (Reply : Call → Type) (σ α : Type) where
  value : α
  /-- What the responder remembers at the end. -/
  state : σ
  events : List (Event Call Reply)
  records : List Log.Record

/-- The run of a dialogue against a responder. -/
def run (answer : Responder Call Reply σ) : Dialogue Call Reply α → σ → Run Call Reply σ α
  | .done value, s => ⟨value, s, [], []⟩
  | .note record next, s =>
    let r := next.run answer s
    { r with records := record :: r.records }
  | .ask call next, s =>
    let (reply, s) := answer call s
    let r := (next reply).run answer s
    { r with events := ⟨call, reply⟩ :: r.events }

variable (answer : Responder Call Reply σ)

@[simp] theorem run_pure (a : α) (s : σ) :
    (pure a : Dialogue Call Reply α).run answer s = ⟨a, s, [], []⟩ := rfl

@[simp] theorem run_say (record : Log.Record) (s : σ) :
    (say record : Dialogue Call Reply Unit).run answer s = ⟨(), s, [], [record]⟩ := rfl

@[simp] theorem run_question (call : Call) (s : σ) :
    (question call : Dialogue Call Reply (Reply call)).run answer s =
      ⟨(answer call s).1, (answer call s).2, [⟨call, (answer call s).1⟩], []⟩ := rfl

/-- A run of two dialogues is the run of the first and, from where it ends, of the second. -/
theorem run_bind (d : Dialogue Call Reply α) (f : α → Dialogue Call Reply β) (s : σ) :
    (d >>= f).run answer s =
      let r := d.run answer s
      let r' := (f r.value).run answer r.state
      ⟨r'.value, r'.state, r.events ++ r'.events, r.records ++ r'.records⟩ := by
  induction d generalizing s with
  | done _ => rfl
  | note record next ih =>
    have h := ih s
    simp only [bind_eq, Dialogue.bind, run] at h ⊢
    rw [h]
    rfl
  | ask call next ih =>
    have h := ih (answer call s).1 (answer call s).2
    simp only [bind_eq, Dialogue.bind, run] at h ⊢
    rw [h]
    rfl

/-! ## Other surroundings -/

/-- The dialogue carried out in a monad: questions are answered there, and records are told. -/
def perform {m : Type → Type} [Monad m] (answer : (call : Call) → m (Reply call))
    (tell : Log.Record → m Unit) : Dialogue Call Reply α → m α
  | .done value => pure value
  | .note record next => do
    tell record
    next.perform answer tell
  | .ask call next => do
    let reply ← answer call
    (next reply).perform answer tell

/-- The dialogue without its records. -/
def unheard : Dialogue Call Reply α → Dialogue Call Reply α
  | .done value => .done value
  | .note _ next => next.unheard
  | .ask call next => .ask call fun reply => (next reply).unheard

/-- Leaving the records out changes nothing else. -/
theorem run_unheard (d : Dialogue Call Reply α) (s : σ) :
    d.unheard.run answer s = { d.run answer s with records := [] } := by
  induction d generalizing s with
  | done _ => rfl
  | note record next ih =>
    simp only [unheard, run]
    exact ih s
  | ask call next ih =>
    simp only [unheard, run]
    rw [ih]

end Dialogue

end JumpList
