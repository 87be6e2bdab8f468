/-
# JumpList.Proofs.Transaction.Safety — no order of operations misuses the list.

A transaction can be told to do anything at any time, and the shell can fail at any call.  The calls
it makes from its start to its end still follow the protocol of the list: a list is filled, committed
and aborted only after it was opened, an opened list is committed or aborted once and nothing comes
after that, and a list is opened only right after its identity was set (`lifetime_protocol`).

Two facts carry this, both by induction on the history.  How often a list was opened and ended is known
from the phase (`History.counts`), and every event was permitted by the events before it
(`History.permitted`).
-/
import JumpList.Proofs.Transaction.History

namespace JumpList

open Native

/-- Whether the list was opened in a transaction that is in this phase. -/
def Phase.isOpened : Phase → Bool
  | .began | .committed | .aborted => true
  | .idle | .deleted => false

namespace Transaction

/-- A transaction from its start to its end. -/
def lifetime (id : AppId) (ops : List Operation) : Talk (List Answer) := do
  let (answers, t) ← (fresh id).performAll ops
  t.close
  return answers

variable {id : AppId} {phase : Phase} {es : List Event}

/-! ## How often -/

/-- The phase tells how often the list was opened, committed, aborted and deleted. -/
theorem History.counts (h : History id phase es) :
    es.countP Event.opens = (if phase.isOpened then 1 else 0) ∧
      es.countP Event.commits = (if phase = .committed then 1 else 0) ∧
      es.countP Event.aborts = (if phase = .aborted then 1 else 0) ∧
      es.countP Event.deletes = (if phase = .deleted then 1 else 0) := by
  induction h with
  | fresh => exact ⟨rfl, rfl, rfl, rfl⟩
  | idRefused f _ ih => simpa [Event.opens, Event.commits, Event.aborts, Event.deletes] using ih
  | beginRefused f _ ih => simpa [Event.opens, Event.commits, Event.aborts, Event.deletes] using ih
  | began opening _ ih =>
    simpa [Event.opens, Event.commits, Event.aborts, Event.deletes, Phase.isOpened] using ih
  | @filled es block _ hb ih =>
    -- What fills a list is counted by none of the four.
    have none {p : Event → Bool} (hp : ∀ e ∈ block, p e = false) : block.countP p = 0 :=
      List.countP_eq_zero.mpr fun e he => by simp [hp e he]
    have plain (e : Event) (he : e ∈ block) := Event.plain_of_fills (hb e he)
    simpa [none fun e he => (plain e he).1, none fun e he => (plain e he).2.1,
      none fun e he => (plain e he).2.2.1, none fun e he => (plain e he).2.2.2] using ih
  | commitRefused f _ ih => simpa [Event.opens, Event.commits, Event.aborts, Event.deletes] using ih
  | committed _ ih =>
    simpa [Event.opens, Event.commits, Event.aborts, Event.deletes, Phase.isOpened] using ih
  | aborted reply _ ih =>
    simpa [Event.opens, Event.commits, Event.aborts, Event.deletes, Phase.isOpened] using ih
  | deleted reply _ ih =>
    simpa [Event.opens, Event.commits, Event.aborts, Event.deletes, Phase.isOpened] using ih

/-- Before its end nothing that ends a transaction happened. -/
theorem History.not_ended (h : History id phase es) (hp : phase = .idle ∨ phase = .began) :
    ∀ e ∈ es, e.ends = false := by
  obtain ⟨-, hc, ha, hd⟩ := h.counts
  have hne : phase ≠ .committed ∧ phase ≠ .aborted ∧ phase ≠ .deleted := by
    rcases hp with rfl | rfl <;> decide
  rw [if_neg hne.1, List.countP_eq_zero] at hc
  rw [if_neg hne.2.1, List.countP_eq_zero] at ha
  rw [if_neg hne.2.2, List.countP_eq_zero] at hd
  intro e he
  simp [Event.ends, hc e he, ha e he, hd e he]

/-- An open list was opened. -/
theorem History.exists_opens (h : History id .began es) : ∃ e ∈ es, e.opens := by
  refine List.countP_pos_iff.mp ?_
  rw [h.counts.1]
  decide

/-! ## Every event in its place -/

/-- What a transaction on the list of `id` may do after the events `past`. -/
structure Permitted (id : AppId) (past : List Event) (e : Event) : Prop where
  /-- An open list is used only after it was opened. -/
  opened : e.1.needsOpenList → ∃ o ∈ past, o.opens
  /-- Nothing happens after a commit, an abort or a deletion. -/
  unended : ∀ o ∈ past, o.ends = false
  /-- A list is opened right after its identity was set. -/
  identified : e.1 = .beginList → ∃ earlier, past = earlier ++ [⟨.setAppId id.text, .ok ()⟩]
  /-- No identity is named but the transaction's own. -/
  own : ∀ text, e.1.identity? = some text → text = id.text

/-- Every event stands in the relation `R` to the events before it. -/
def Ordered (R : List Event → Event → Prop) (es : List Event) : Prop :=
  ∀ past e rest, es = past ++ e :: rest → R past e

theorem Ordered.append {R : List Event → Event → Prop} {block : List Event} (h : Ordered R es)
    (hb : Ordered (fun past e => R (es ++ past) e) block) : Ordered R (es ++ block) := by
  intro past e rest heq
  -- The place where `es` ends is after `e`, or right before it, or somewhere in `past`.
  rcases List.append_eq_append_iff.mp heq with ⟨between, rfl, hblock⟩ | ⟨between, hes, hrest⟩
  · exact hb between e rest hblock
  · cases between with
    | nil =>
      have hblock : block = [] ++ e :: rest := by simpa using hrest.symm
      have hpast : es = past := by simpa using hes
      simpa [hpast] using hb [] e rest hblock
    | cons e' between =>
      obtain ⟨rfl, -⟩ := List.cons.inj hrest
      exact h past e between hes

theorem Ordered.concat {R : List Event → Event → Prop} {e : Event} (h : Ordered R es)
    (he : R es e) : Ordered R (es ++ [e]) := by
  refine h.append fun past e' rest heq => ?_
  obtain ⟨rfl, rfl, -⟩ : past = [] ∧ e = e' ∧ rest = [] := by
    cases past <;> simp_all
  simpa using he

/-- On an open list everything is permitted but naming an identity and opening a list. -/
theorem History.permitted_of_began (h : History id .began es) {e : Event}
    (hid : e.1.identity? = none) (hbegin : e.1 ≠ .beginList) : Permitted id es e where
  opened := fun _ => h.exists_opens
  unended := h.not_ended (.inr rfl)
  identified := fun he => absurd he hbegin
  own := fun text he => by
    rw [hid] at he
    cases he

/-- Every event of a transaction was permitted when it happened. -/
theorem History.permitted (h : History id phase es) : Ordered (Permitted id) es := by
  -- A refused and a successful opening start alike: the identity is set first.
  have identify {es : List Event} (h : History id .idle es) (ih : Ordered (Permitted id) es)
      (reply : Call.Reply (.setAppId id.text)) :
      Ordered (Permitted id) (es ++ [⟨.setAppId id.text, reply⟩]) :=
    ih.concat ⟨nofun, h.not_ended (.inl rfl), nofun, by simp [Call.identity?]⟩
  have openAfter {es : List Event} (h : History id .idle es) (ih : Ordered (Permitted id) es)
      (reply : Call.Reply .beginList) :
      Ordered (Permitted id) (es ++ [⟨.setAppId id.text, .ok ()⟩, ⟨.beginList, reply⟩]) := by
    rw [List.append_cons]
    refine (identify h ih _).concat ⟨nofun, ?_, fun _ => ⟨es, rfl⟩, nofun⟩
    intro e he
    rcases List.mem_append.mp he with he | he
    · exact h.not_ended (.inl rfl) e he
    · rw [List.mem_singleton.mp he]
      rfl
  induction h with
  | fresh =>
    intro past e rest heq
    simp at heq
  | idRefused f h ih => exact identify h ih _
  | beginRefused f h ih => exact openAfter h ih _
  | began opening h ih => exact openAfter h ih _
  | @filled es block h hb ih =>
    apply ih.append
    intro past e rest heq
    subst heq
    -- The list was filled with `past` before, so it is as open then as it was at first.
    have hpast : History id .began (es ++ past) := h.filled fun o ho => hb o (by simp [ho])
    obtain ⟨hid, hbegin⟩ := Event.anonymous_of_fills (hb e (by simp))
    exact hpast.permitted_of_began hid hbegin
  | commitRefused f h ih => exact ih.concat (h.permitted_of_began rfl nofun)
  | committed h ih => exact ih.concat (h.permitted_of_began rfl nofun)
  | aborted reply h ih => exact ih.concat (h.permitted_of_began rfl nofun)
  | deleted reply h ih =>
    exact ih.concat ⟨nofun, h.not_ended (.inl rfl), nofun, by simp [Call.identity?]⟩

/-! ## From start to end -/

/-- Closing a transaction brings its history to an end: no list is left open. -/
theorem close_history {σ : Type} (answer : Shell σ) {t : Transaction} (h : History t.id t.phase es)
    (s : σ) : ∃ phase, phase ≠ .began ∧ History t.id phase (es ++ (t.close.run answer s).events) := by
  by_cases hp : t.phase = .began
  · refine ⟨.aborted, by decide, ?_⟩
    rw [hp] at h
    obtain ⟨records, hr⟩ := run_close_of_began hp answer s
    rw [hr]
    exact h.aborted _
  · refine ⟨t.phase, hp, ?_⟩
    rw [run_close_of_ne hp, List.append_nil]
    exact h

theorem lifetime_history {σ : Type} (answer : Shell σ) (s : σ) (id : AppId) (ops : List Operation) :
    ∃ phase, phase ≠ .began ∧ History id phase ((lifetime id ops).run answer s).events := by
  obtain ⟨hid, h⟩ := performAll_history answer (fresh id) ops s .fresh
  rw [← hid] at h
  obtain ⟨phase, hp, hclosed⟩ := close_history answer h
    ((((fresh id).performAll ops).run answer s).state)
  rw [hid] at hclosed
  exact ⟨phase, hp, by simpa [lifetime, Dialogue.run_bind, fresh] using hclosed⟩

/-- An opened list that is not open any more was committed or aborted at last, and not before. -/
theorem History.last_of_opened (h : History id phase es) (hopened : phase.isOpened)
    (hp : phase ≠ .began) : ∃ past last, es = past ++ [last] ∧ (last.commits || last.aborts) ∧
      ∀ e ∈ past, (e.commits || e.aborts) = false := by
  have none {es : List Event} (h : History id .began es) :
      ∀ e ∈ es, (e.commits || e.aborts) = false := by
    intro e he
    have := h.not_ended (.inr rfl) e he
    simp_all [Event.ends]
  cases h with
  | committed h => exact ⟨_, _, rfl, rfl, none h⟩
  | aborted reply h => exact ⟨_, _, rfl, rfl, none h⟩
  | _ => first | exact absurd rfl hp | exact absurd hopened Bool.false_ne_true

/-- Whatever a transaction is told to do, in whatever order, and whatever the shell answers: every
call was permitted by the calls before it; the list is opened, committed, aborted and deleted at most
once each; and a list that was opened is never deleted, and ends with its only commit or abort. -/
theorem lifetime_protocol {σ : Type} (answer : Shell σ) (s : σ) (id : AppId)
    (ops : List Operation) :
    let es : List Event := ((lifetime id ops).run answer s).events
    (∀ past e rest, es = past ++ e :: rest → Permitted id past e) ∧
      es.countP Event.opens ≤ 1 ∧ es.countP Event.commits ≤ 1 ∧ es.countP Event.aborts ≤ 1 ∧
      es.countP Event.deletes ≤ 1 ∧
      ((∃ e ∈ es, e.opens) → (∀ e ∈ es, e.deletes = false) ∧
        ∃ past last, es = past ++ [last] ∧ (last.commits || last.aborts) ∧
          ∀ e ∈ past, (e.commits || e.aborts) = false) := by
  intro es
  obtain ⟨phase, hp, h⟩ := lifetime_history answer s id ops
  obtain ⟨ho, hc, ha, hd⟩ := h.counts
  have once {n : Nat} {p : Prop} [Decidable p] (hn : n = if p then 1 else 0) : n ≤ 1 := by
    rw [hn]
    split <;> decide
  refine ⟨h.permitted, once ho, once hc, once ha, once hd, ?_⟩
  rintro ⟨e, he, hopens⟩
  -- The phase at the end knows that the list was opened, and that is all that is needed.
  have hopened : phase.isOpened := by
    by_cases hopened : phase.isOpened
    · exact hopened
    · rw [if_neg hopened] at ho
      exact absurd hopens (List.countP_eq_zero.mp ho e he)
  refine ⟨?_, h.last_of_opened hopened hp⟩
  have hne : phase ≠ .deleted := by
    rintro rfl
    exact absurd hopened Bool.false_ne_true
  rw [if_neg hne] at hd
  intro e he
  simpa using List.countP_eq_zero.mp hd e he

end Transaction

end JumpList
