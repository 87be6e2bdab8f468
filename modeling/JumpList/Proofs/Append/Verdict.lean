/-
# JumpList.Proofs.Append.Verdict — the outcome of a category, from what became of its items.

The outcome is gathered on the way: it is overwritten by a separator out of place, worsened by a loss, and
settled by what the shell says of the collection.  Here it is told from the end, by which items were built
and what the shell said.  `Category.verdict` decides by the first of these that applies: a refusal of a
custom category with one of two codes, a separator in a custom category, and the loss of anything.

`Category.append_verdict` says that this is the outcome of appending, for every category and every shell,
and which calls are made: none for a category that has no items or belongs to the shell, one if there is no
collection, and otherwise those that try the items one after the other, whatever became of the ones before,
and then one that hands the collection over if there is something in it.
-/
import JumpList.Proofs.Append.Outcome

namespace JumpList

open Native

/-- Whether a call failed. -/
def Native.failed {α : Type} : Except Failure α → Bool
  | .ok _ => false
  | .error _ => true

/-- Whether a call failed with the given code. -/
def Native.failedWith {α : Type} (code : UInt32) : Except Failure α → Bool
  | .ok _ => false
  | .error f => f.status.code == code

namespace Category

/-! ## Verdicts -/

/-- Whether a separator stands in a custom category. -/
def hasMisplaced (c : Category) : Bool :=
  c.kind == .custom && c.items.any fun item => item.kind == .separator

/-- The items that may be tried: in a custom category all but the separators, in the tasks all. -/
def eligible (c : Category) : List Item :=
  if c.kind = .custom then c.items.filter fun item => item.kind ≠ .separator else c.items

/-- Those of the items that were built, in order, given what came of trying each. -/
def builtOf (items : List Item) (tries : List Item.Try) : List Item :=
  ((items.zip tries).filter fun p => !failed p.2.2).map Prod.fst

/-- The items of a category that were built, given what came of trying the eligible ones. -/
def built (c : Category) (tries : List Item.Try) : List Item := builtOf c.eligible tries

/-- What a category comes to if these items of it were built and the shell says this of them. -/
def verdict (c : Category) (built : List Item) {α : Type} (reply : Except Failure α) : Outcome :=
  if c.kind = .custom ∧ failedWith 0x80040F03 reply then .unregisteredFileType
  else if c.kind = .custom ∧ failedWith 0x80070005 reply then .categoryDenied
  else if c.hasMisplaced then .separatorError
  else if built ≠ c.items ∨ failed reply then .genericError
  else .success

/-- What is left to do after the items of a category were tried, if these items were built: nothing if
there are none, and otherwise the one call that hands their objects over. -/
inductive Settles (c : Category) (built : List Item) : List Event → Outcome → Prop
  | unbuilt : built = [] → Settles c built [] (if c.hasMisplaced then .separatorError else .genericError)
  | tasks (reply : Call.Reply (.addUserTasks (built.map Item.object))) :
      c.kind = .tasks → built ≠ [] →
      Settles c built [⟨.addUserTasks (built.map Item.object), reply⟩] (c.verdict built reply)
  | custom (reply : Call.Reply (.appendCategory c.nameOrEmpty (built.map Item.object))) :
      c.kind = .custom → built ≠ [] →
      Settles c built [⟨.appendCategory c.nameOrEmpty (built.map Item.object), reply⟩]
        (c.verdict built reply)

variable {c : Category} {tries : List Item.Try}

/-! ## Items -/

/-- An item is refused exactly if it is a separator in a custom category. -/
theorem refuses_eq (hk : c.kind.known? = none) (item : Item) :
    c.refuses item = (c.kind == .custom && item.kind == .separator) := by
  unfold refuses
  cases h : c.kind with
  | frequent => simp [h, Kind.known?] at hk
  | recent => simp [h, Kind.known?] at hk
  | tasks => simp [Kind.admitsSeparators]
  | custom => simp [Kind.admitsSeparators]

theorem attempted_eq_eligible (hk : c.kind.known? = none) : c.attempted = c.eligible := by
  unfold attempted eligible
  split
  · next hcustom =>
    refine List.filter_congr fun item _ => ?_
    rw [refuses_eq hk, hcustom]
    cases item.kind <;> rfl
  · next hcustom =>
    refine List.filter_eq_self.mpr fun item _ => ?_
    simp [refuses_eq hk, hcustom]

theorem any_refuses_eq (hk : c.kind.known? = none) : c.items.any c.refuses = c.hasMisplaced := by
  have hrefuses : c.refuses = fun item => c.kind == .custom && item.kind == .separator :=
    funext (refuses_eq hk)
  rw [hrefuses, hasMisplaced]
  cases c.kind == .custom
  · simp
  · simp

theorem builtOf_cons (item : Item) (items : List Item) (tried : Item.Try) (tries : List Item.Try) :
    builtOf (item :: items) (tried :: tries) =
      if failed tried.2 then builtOf items tries else item :: builtOf items tries := by
  by_cases h : failed tried.2
  · simp [builtOf, h]
  · simp [builtOf, h]

theorem builtOf_sublist (items : List Item) (tries : List Item.Try) :
    (builtOf items tries).Sublist items := by
  induction items generalizing tries with
  | nil => exact List.Sublist.refl _
  | cons item items ih =>
    cases tries with
    | nil => exact List.nil_sublist _
    | cons tried tries =>
      rw [builtOf_cons]
      split
      · exact (ih tries).cons item
      · exact (ih tries).cons_cons item

theorem built_sublist (c : Category) (tries : List Item.Try) : (c.built tries).Sublist c.items := by
  have heligible : c.eligible.Sublist c.items := by
    unfold eligible
    split
    · exact List.filter_sublist
    · exact List.Sublist.refl _
  exact (builtOf_sublist c.eligible tries).trans heligible

/-- There are as many built items as items only if every item was built. -/
theorem built_length_lt_iff (c : Category) (tries : List Item.Try) :
    (c.built tries).length < c.items.length ↔ c.built tries ≠ c.items := by
  have hsub := c.built_sublist tries
  have hle := hsub.length_le
  constructor
  · intro hlt heq
    rw [heq] at hlt
    omega
  · intro hne
    by_contra hlt
    exact hne (hsub.eq_of_length (by omega))

/-- What items add to a collection are the objects of those that were built. -/
theorem realizedAll_eq (items : List Item) (tries : List Item.Try) :
    realizedAll items tries = (builtOf items tries).map Item.object := by
  induction items generalizing tries with
  | nil => rfl
  | cons item items ih =>
    cases tries with
    | nil => rfl
    | cons tried tries =>
      rw [realizedAll_cons, ih, builtOf_cons]
      rcases tried.2 with f | ⟨⟩
      · rfl
      · rfl

theorem objects_eq (hk : c.kind.known? = none) (tries : List Item.Try) :
    c.objects tries = (c.built tries).map Item.object := by
  rw [objects, realizedAll_eq, attempted_eq_eligible hk]
  rfl

/-! ## Outcomes -/

/-- Gathering decides on everything but what the shell says. -/
theorem gathered_eq (hk : c.kind.known? = none) (tries : List Item.Try) :
    c.gathered (c.objects tries) =
      if c.hasMisplaced then .separatorError
      else if c.built tries ≠ c.items then .genericError
      else .success := by
  have hlength : (c.objects tries).length = (c.built tries).length := by
    rw [objects_eq hk, List.length_map]
  unfold gathered Gathering.outcome Gathering.holding
  dsimp only
  rw [any_refuses_eq hk, hlength]
  simp only [built_length_lt_iff]

/-- After a loss the outcome is no success any more. -/
theorem spoiled_gathered (hk : c.kind.known? = none) (tries : List Item.Try) :
    (c.gathered (c.objects tries)).spoiled =
      if c.hasMisplaced then .separatorError else .genericError := by
  rw [gathered_eq hk]
  split
  · rfl
  · split <;> rfl

/-- If the shell takes what it is handed, gathering has decided. -/
theorem verdict_of_ok (hk : c.kind.known? = none) (tries : List Item.Try) {α : Type} (a : α) :
    c.verdict (c.built tries) (.ok a : Except Failure α) = c.gathered (c.objects tries) := by
  rw [gathered_eq hk]
  simp [verdict, failedWith, failed]

/-- A failure that names no cause is a loss. -/
theorem verdict_of_error (hk : c.kind.known? = none) (tries : List Item.Try) {α : Type} {f : Failure}
    (hassoc : ¬ (c.kind = .custom ∧ f.status.code = 0x80040F03))
    (hdenied : ¬ (c.kind = .custom ∧ f.status.code = 0x80070005)) :
    c.verdict (c.built tries) (.error f : Except Failure α) =
      (c.gathered (c.objects tries)).spoiled := by
  have hlost : c.built tries ≠ c.items ∨ failed (.error f : Except Failure α) := .inr rfl
  rw [spoiled_gathered hk, verdict, if_neg (by simpa [failedWith] using hassoc),
    if_neg (by simpa [failedWith] using hdenied), if_pos hlost]

/-- Tasks are spoiled if the shell does not take them. -/
theorem merge_ofReply_eq_verdict (hk : c.kind = .tasks) (tries : List Item.Try) {α : Type}
    (reply : Except Failure α) :
    (c.gathered (c.objects tries)).merge (.ofReply reply) = c.verdict (c.built tries) reply := by
  have hnone : c.kind.known? = none := by rw [hk]; rfl
  rcases reply with f | a
  · rw [verdict_of_error hnone tries (by simp [hk]) (by simp [hk])]
    rfl
  · rw [verdict_of_ok hnone]
    exact Outcome.merge_success _

/-- The two codes of a refusal that name a cause, and all others. -/
theorem ofRefusal_eq (status : Status) :
    Outcome.ofRefusal status =
      if status.code = 0x80040F03 then .unregisteredFileType
      else if status.code = 0x80070005 then .categoryDenied
      else .genericError := by
  obtain ⟨code⟩ := status
  simp only [Outcome.ofRefusal, Status.noAssociation, Status.accessDenied, Status.mk.injEq]

/-- A custom category is settled by what the shell says of it. -/
theorem settled_eq_verdict (hk : c.kind = .custom) (tries : List Item.Try) {α : Type}
    (reply : Except Failure α) :
    (c.gathered (c.objects tries)).settled reply = c.verdict (c.built tries) reply := by
  have hnone : c.kind.known? = none := by rw [hk]; rfl
  rcases reply with f | a
  · show (if (Outcome.ofRefusal f.status).isSpecific then Outcome.ofRefusal f.status else _) = _
    rw [ofRefusal_eq]
    by_cases hassoc : f.status.code = 0x80040F03
    · simp [verdict, hk, failedWith, hassoc, Outcome.isSpecific]
    by_cases hdenied : f.status.code = 0x80070005
    · simp [verdict, hk, failedWith, hdenied, Outcome.isSpecific]
    · rw [verdict_of_error hnone tries (fun h => hassoc h.2) (fun h => hdenied h.2), if_neg hassoc,
        if_neg hdenied]
      rfl
  · rw [verdict_of_ok hnone]
    rfl

variable {σ : Type} (answer : Shell σ)

/-- After the items were tried, what was built is handed over, and the outcome is the verdict. -/
theorem handOver_settles (hk : c.kind.known? = none) (hi : c.items ≠ []) (tries : List Item.Try)
    (s : σ) :
    let r := (c.handOver (.holding (c.objects tries) (c.items.any c.refuses))).run answer s
    c.Settles (c.built tries) r.events r.value := by
  intro r
  have hobjects := objects_eq hk tries
  have hg := Gathering.counted_holding (c.objects tries) (c.items.any c.refuses)
  by_cases hb : c.built tries = []
  · have ho : c.objects tries = [] := by rw [hobjects, hb]; rfl
    have hne : c.built tries ≠ c.items := by rw [hb]; exact hi.symm
    rw [show r = _ from run_handOver_of_nil answer hg ho s]
    have hvalue : c.gathered (c.objects tries) =
        if c.hasMisplaced then .separatorError else .genericError := by
      rw [gathered_eq hk, if_pos hne]
    show c.Settles (c.built tries) [] (c.gathered (c.objects tries))
    rw [hvalue]
    exact .unbuilt hb
  have ho : c.objects tries ≠ [] := by simpa [hobjects] using hb
  cases hkind : c.kind with
  | frequent => simp [hkind, Kind.known?] at hk
  | recent => simp [hkind, Kind.known?] at hk
  | tasks =>
    rw [show r = _ from run_handOver_of_tasks answer hkind hg ho s]
    show c.Settles (c.built tries) [⟨.addUserTasks (c.objects tries), _⟩]
      ((c.gathered (c.objects tries)).merge (.ofReply _))
    rw [merge_ofReply_eq_verdict hkind, hobjects]
    exact .tasks _ hkind hb
  | custom =>
    rw [show r = _ from run_handOver_of_custom answer hkind hg ho s]
    show c.Settles (c.built tries) [⟨.appendCategory c.nameOrEmpty (c.objects tries), _⟩]
      ((c.gathered (c.objects tries)).settled _)
    rw [settled_eq_verdict hkind, hobjects]
    exact .custom _ hkind hb

/-- The outcome of appending a category is told by which of its items were built and by what the shell
said of them.  A category without items, or one that the shell fills, is a success without a call.  For
any other, if there is no collection, that was the only call, and something was lost.  Otherwise every
eligible item is tried, in order, whatever became of the others, and what was built is handed over in one
call, or in none if nothing was. -/
theorem append_verdict (c : Category) (s : σ) :
    let r := c.append.run answer s
    (c.items = [] ∨ c.kind = .frequent ∨ c.kind = .recent → r.events = [] ∧ r.value = .success) ∧
    (c.kind = .tasks ∨ c.kind = .custom → c.items ≠ [] →
      (∀ f, (answer .createObjectCollection s).1 = .error f →
        r.events = [⟨.createObjectCollection, .error f⟩] ∧ r.value = .genericError) ∧
      ((answer .createObjectCollection s).1 = .ok () →
        ∃ tries final, Item.TriesAll c.eligible tries ∧
          r.events = ⟨.createObjectCollection, .ok ()⟩ :: (tries.flatMap Prod.fst ++ final) ∧
          c.Settles (c.built tries) final r.value)) := by
  intro r
  constructor
  · intro h
    by_cases hi : c.items = []
    · simp [r, append, hi]
    · rcases h with hnone | hk | hk
      · exact absurd hnone hi
      · simp [r, append, hi, hk]
      · simp [r, append, hi, hk]
  · intro hkind hi
    have hk : c.kind.known? = none := by rcases hkind with h | h <;> rw [h] <;> rfl
    have hr : r = _ := congrArg (Dialogue.run answer · s) (append_eq hk hi)
    rcases hcreate : answer .createObjectCollection s with ⟨f | ⟨⟨⟩⟩, s₁⟩
    · constructor
      · intro f' hf
        obtain rfl : f = f' := Except.error.inj hf
        rw [hr]
        simp [Dialogue.run_bind, hcreate]
      · intro hok
        cases hok
    · constructor
      · intro f hf
        cases hf
      · intro _
        obtain ⟨tries, htries, hevents, hgathered⟩ := c.gather_items answer s₁
        rw [attempted_eq_eligible hk] at htries
        rw [hr]
        simp only [Dialogue.run_bind, run_call, hcreate, hevents, hgathered]
        exact ⟨tries, _, htries, rfl, handOver_settles answer hk hi tries _⟩

end Category

end JumpList
