/-
# JumpList.Proofs.Removed — removed objects, turned into items.

Turning removed objects into items asks nothing of the shell: its run is known outright
(`run_convertRemoved`).  Each object is judged by itself, so that the items of a part of the objects are
a part of the items (`removedItems_append`).
-/
import JumpList.Proofs.Dialogue
import JumpList.Removed

namespace JumpList

open Native (RemovedObject Shell)

variable {σ : Type} (answer : Shell σ)

@[simp] theorem run_noteAll (records : List Log.Record) (s : σ) :
    (noteAll records).run answer s = ⟨(), s, [], records⟩ := by
  induction records with
  | nil => rfl
  | cons record records ih =>
    show (Native.note record >>= fun _ => noteAll records).run answer s = _
    simp [Dialogue.run_bind, ih]

/-- Turning removed objects into items asks for nothing. -/
@[simp] theorem run_convertRemoved (objects : List RemovedObject) (s : σ) :
    (convertRemoved objects).run answer s =
      ⟨removedItems objects, s, [], removedRecords objects ++
        [Notice.removedConverted (removedItems objects).length objects.length]⟩ := by
  simp [convertRemoved, Dialogue.run_bind]

/-! ## Items -/

theorem removedItems_append (xs ys : List RemovedObject) :
    removedItems (xs ++ ys) = removedItems xs ++ removedItems ys := by
  simp [removedItems]

theorem removedItems_cons_of_ok {o : RemovedObject} {item : Item} (h : o.judge = .ok item)
    (objects : List RemovedObject) : removedItems (o :: objects) = item :: removedItems objects := by
  simp [removedItems, h, Except.toOption]

/-- Every item comes from an object. -/
theorem exists_judge_of_mem_removedItems {objects : List RemovedObject} {item : Item}
    (h : item ∈ removedItems objects) : ∃ o ∈ objects, o.judge = .ok item := by
  obtain ⟨o, ho, hitem⟩ := List.mem_filterMap.mp h
  refine ⟨o, ho, ?_⟩
  cases hj : o.judge with
  | error record => simp [hj, Except.toOption] at hitem
  | ok item' => simpa [hj, Except.toOption] using hitem

namespace Native.LinkProperties

/-- The icon of a link, if it can be had and has a path. -/
def icon? (properties : LinkProperties) : Option (Path × Int32) :=
  match properties.icon with
  | .ok (icon, index) => if icon.isEmpty then none else some (icon, index)
  | .error _ => none

/-- The task of a link, field by field. -/
theorem task_eq (properties : LinkProperties) (path : Path) :
    properties.task path =
      { kind := .task
        path
        arguments := (propertyOr none properties.arguments).getD ""
        title := (propertyOr none properties.title).getD ""
        description := propertyOr "" properties.description
        iconPath := properties.icon?.map Prod.fst
        iconIndex := (properties.icon?.map Prod.snd).getD 0 } := by
  unfold task icon?
  rcases properties.icon with f | ⟨icon, index⟩
  · rfl
  · dsimp only
    split <;> rfl

end Native.LinkProperties

end JumpList
