/-
# JumpList.Proofs.Removed.Path — removed objects that become items without a path.

An item that launches or opens something should have a path.  A removed file without one is left out,
but a removed link is an item as soon as its path can be had, even if it is empty.
`convertRemoved_pathless` says that such links, and nothing else, become items without a path.
-/
import JumpList.Path.Lemmas
import JumpList.Proofs.Removed

namespace JumpList

open Native (RemovedObject Shell)

variable {σ : Type} (answer : Shell σ)

namespace Native.RemovedObject

/-- The task of a link whose path can be had and is empty. -/
def pathless? : RemovedObject → Option Item
  | .link properties =>
    match properties.path with
    | .ok path => if path.isEmpty then some (properties.task path) else none
    | .error _ => none
  | .file _ | .unrecognized => none

/-- The item of an object, kept only if it has no path. -/
theorem filter_toOption_judge (o : RemovedObject) :
    o.judge.toOption.filter (fun item => item.path.isEmpty) = o.pathless? := by
  cases o with
  | unrecognized => rfl
  | file path =>
    rcases path with f | path
    · rfl
    · by_cases hpath : path = Path.empty
      · simp [judge, pathless?, hpath, Except.toOption]
      · simp [judge, pathless?, hpath, Except.toOption, Item.file]
  | link properties =>
    rcases hpath : properties.path with f | path
    · simp [judge, pathless?, hpath, Except.toOption]
    · -- A task has the path of its link.
      have htask : (properties.task path).path = path := by rw [LinkProperties.task_eq]
      simp [judge, pathless?, hpath, Except.toOption, Option.filter, htask]

theorem pathless?_eq_none_iff {o : RemovedObject} :
    o.pathless? = none ↔ ∀ properties, o = .link properties → properties.path ≠ .ok Path.empty := by
  cases o with
  | unrecognized => simp [pathless?]
  | file path => simp [pathless?]
  | link properties =>
    simp only [pathless?, RemovedObject.link.injEq, forall_eq']
    rcases properties.path with f | path
    · simp
    · simp

end Native.RemovedObject

/-- The items without a path are the tasks of the links whose path is empty, in order. -/
theorem filter_isEmpty_removedItems (objects : List RemovedObject) :
    (removedItems objects).filter (fun item => item.path.isEmpty) =
      objects.filterMap RemovedObject.pathless? := by
  rw [removedItems, List.filter_filterMap]
  exact congrArg objects.filterMap (funext RemovedObject.filter_toOption_judge)

/-- Whatever the shell is, the items without a path are the tasks of the links whose path can be had and
is empty.  So every item has a path exactly if there is no such link. -/
theorem convertRemoved_pathless (objects : List RemovedObject) (s : σ) :
    let items := ((convertRemoved objects).run answer s).value
    items.filter (fun item => item.path.isEmpty) = objects.filterMap RemovedObject.pathless? ∧
      ((∀ item ∈ items, item.path ≠ Path.empty) ↔
        ∀ properties, RemovedObject.link properties ∈ objects →
          properties.path ≠ .ok Path.empty) := by
  intro items
  have hitems : items = removedItems objects := by simp [items]
  have hfilter := filter_isEmpty_removedItems objects
  rw [hitems]
  refine ⟨hfilter, ?_⟩
  calc (∀ item ∈ removedItems objects, item.path ≠ Path.empty)
      ↔ (removedItems objects).filter (fun item => item.path.isEmpty) = [] := by
        simp [List.filter_eq_nil_iff]
    _ ↔ ∀ o ∈ objects, o.pathless? = none := by
        rw [hfilter, List.filterMap_eq_nil_iff]
    _ ↔ ∀ properties, RemovedObject.link properties ∈ objects →
          properties.path ≠ .ok Path.empty := by
        simp only [RemovedObject.pathless?_eq_none_iff]
        constructor
        · intro h properties hmem
          exact h _ hmem properties rfl
        · rintro h o hmem properties rfl
          exact h properties hmem

/-- A link with a title and an empty path is an item without a path; a file with an empty path is no
item. -/
theorem removedItems_of_blank_paths :
    let link : Native.LinkProperties :=
      { path := .ok Path.empty
        arguments := .ok none
        title := .ok (some "only")
        icon := .error ⟨"GetIconLocation", .unspecified⟩
        description := .error ⟨"GetDescription", .unspecified⟩ }
    removedItems [.link link] = [Item.task Path.empty "only"] ∧
      ¬ (∀ item ∈ removedItems [.link link], item.path ≠ Path.empty) ∧
      removedItems [.file (.ok Path.empty)] = [] := by
  intro link
  have hitems : removedItems [.link link] = [Item.task Path.empty "only"] := rfl
  refine ⟨hitems, fun h => ?_, rfl⟩
  rw [hitems] at h
  exact h _ List.mem_cons_self rfl

end JumpList
