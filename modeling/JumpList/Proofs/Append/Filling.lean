/-
# JumpList.Proofs.Append.Filling — appending only fills the list.

Whatever categories or user tasks are appended and however the shell answers, appending asks for
nothing but building objects and putting them on the list.  It never opens, commits, aborts or deletes
one, which is for the transaction around it.
-/
import JumpList.Append
import JumpList.Proofs.Build

namespace JumpList

open Native
open Dialogue (AsksOnly)

/-- The dialogue asks for nothing but filling the list. -/
abbrev OnlyFills {α : Type} (d : Talk α) : Prop := d.AsksOnly fun c => c.fills = true

/-- A call that fills the list, and what is done when it was granted and when it failed. -/
theorem onlyFills_call {α : Type} {c : Call} (hc : c.fills) {next : c.Reply → Talk α}
    (granted : ∀ a, OnlyFills (next (.ok a))) (failed : ∀ f, OnlyFills (next (.error f))) :
    OnlyFills (call c >>= next) := by
  refine .bind (.question hc) ?_
  intro reply
  cases reply with
  | ok a => exact granted a
  | error f => exact failed f

/-- Leaving a record on the way out asks for nothing. -/
theorem onlyFills_noted {α : Type} (record : Log.Record) (a : α) :
    OnlyFills (note record >>= fun _ => return a) :=
  .bind (.say record) fun _ => .pure a

theorem Native.Collection.add_onlyFills (collection : Collection) (item : Item) :
    OnlyFills (collection.add item) := by
  rw [Collection.add_eq, map_eq_pure_bind]
  exact .bind (requireAll_asksOnly item.script_fills) fun _ => .pure _

namespace Category

theorem gather_onlyFills (c : Category) (items : List Item) (g : Gathering) :
    OnlyFills (c.gather items g) := by
  induction items generalizing g with
  | nil => exact .pure _
  | cons item items ih =>
    unfold gather
    split
    · exact .bind (.say _) fun _ => ih _
    · apply AsksOnly.bind (Collection.add_onlyFills _ _)
      rintro ⟨f | ⟨⟨⟩⟩, collection⟩
      · exact .bind (.say _) fun _ => ih _
      · exact ih _

theorem handOver_onlyFills (c : Category) (g : Gathering) : OnlyFills (c.handOver g) := by
  unfold handOver
  dsimp only
  split
  · exact .pure _
  · apply AsksOnly.bind (.say _)
    intro _
    split
    · exact onlyFills_call rfl (fun _ => .pure _) fun _ => onlyFills_noted _ _
    · exact onlyFills_call rfl (fun _ => .pure _) fun _ => onlyFills_noted _ _

theorem append_onlyFills (c : Category) : OnlyFills c.append := by
  unfold append
  split
  · exact .pure _
  · split
    · exact onlyFills_noted _ _
    · exact onlyFills_noted _ _
    all_goals
      apply onlyFills_call rfl
      · intro _
        exact .bind (c.gather_onlyFills _ _) fun g => c.handOver_onlyFills g
      · intro _
        exact onlyFills_noted _ _

theorem place_onlyFills (c : Category) : OnlyFills c.place := by
  have known (k : KnownCategory) : OnlyFills (appendKnown k) :=
    onlyFills_call rfl (fun _ => .pure _) fun _ => onlyFills_noted _ _
  unfold place
  split
  · exact c.append_onlyFills
  · exact c.append_onlyFills
  · exact known _
  · exact known _

end Category

theorem placeAll_onlyFills (outcome : Outcome) (cs : List Category) :
    OnlyFills (placeAll outcome cs) := by
  induction cs generalizing outcome with
  | nil => exact .pure _
  | cons c cs ih => exact .bind c.place_onlyFills fun _ => ih _

theorem appendCategories_onlyFills (cs : List Category) : OnlyFills (appendCategories cs) :=
  .bind (placeAll_onlyFills _ cs) fun _ => onlyFills_noted _ _

theorem gatherTasks_onlyFills (items : List Item) (collection : Collection) :
    OnlyFills (gatherTasks items collection) := by
  induction items generalizing collection with
  | nil => exact .pure _
  | cons item items ih =>
    unfold gatherTasks
    split
    · exact onlyFills_noted _ _
    · apply AsksOnly.bind (Collection.add_onlyFills _ _)
      rintro ⟨result, collection⟩
      rcases result with f | ⟨⟩
      · exact onlyFills_noted _ _
      · exact ih _

theorem appendUserTasks_onlyFills (items : List Item) : OnlyFills (appendUserTasks items) := by
  apply onlyFills_call rfl
  · intro _
    apply AsksOnly.bind (gatherTasks_onlyFills _ _)
    intro gathered
    cases gathered with
    | none => exact .pure _
    | some collection =>
      exact onlyFills_call rfl (fun _ => .pure _) fun _ => onlyFills_noted _ _
  · intro _
    exact onlyFills_noted _ _

end JumpList
