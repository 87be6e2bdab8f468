/-
# JumpList.Proofs.Removed.Item — which item a removed object is.

What a removed object stands for (`StandsFor`) is a matter of what asking it for its properties gives.
Its path decides whether it is an item at all (`exists_standsFor_iff`): any other property of a link may
be missing or fail, and then the item has nothing in its place.

Removed objects are turned into the items that they stand for, each by itself and in their order
(`convertRemoved_piecewise`).
-/
import JumpList.Path.Lemmas
import JumpList.Proofs.Removed
import Mathlib.Data.List.Basic

namespace JumpList

open Native (Failure LinkProperties RemovedObject Shell)

namespace Native

/-! ## Properties -/

/-- A property that need not be there gives this text. -/
inductive GivesText : Except Failure (Option String) → String → Prop
  | present (text : String) : GivesText (.ok (some text)) text
  | missing : GivesText (.ok none) ""
  | failed (f : Failure) : GivesText (.error f) ""

/-- A property that is always there, unless asking for it fails, gives this text. -/
inductive GivesDescription : Except Failure String → String → Prop
  | present (text : String) : GivesDescription (.ok text) text
  | failed (f : Failure) : GivesDescription (.error f) ""

/-- The icon of a link gives this path and this index; there is no index without a path. -/
inductive GivesIcon : Except Failure (Path × Int32) → Option Path → Int32 → Prop
  | present {path : Path} (index : Int32) :
      path ≠ Path.empty → GivesIcon (.ok (path, index)) (some path) index
  | blank (index : Int32) : GivesIcon (.ok (Path.empty, index)) none 0
  | failed (f : Failure) : GivesIcon (.error f) none 0

theorem givesText_iff {property : Except Failure (Option String)} {text : String} :
    GivesText property text ↔ text = (propertyOr none property).getD "" := by
  constructor
  · rintro (_ | _ | _) <;> rfl
  · rintro rfl
    rcases property with f | _ | text
    · exact .failed f
    · exact .missing
    · exact .present text

theorem givesDescription_iff {property : Except Failure String} {text : String} :
    GivesDescription property text ↔ text = propertyOr "" property := by
  constructor
  · rintro (_ | _) <;> rfl
  · rintro rfl
    rcases property with f | text
    · exact .failed f
    · exact .present text

theorem givesIcon_iff {properties : LinkProperties} {path : Option Path} {index : Int32} :
    GivesIcon properties.icon path index ↔
      path = properties.icon?.map Prod.fst ∧ index = (properties.icon?.map Prod.snd).getD 0 := by
  unfold LinkProperties.icon?
  rcases properties.icon with f | ⟨icon, i⟩
  · constructor
    · rintro (_ | _ | _)
      exact ⟨rfl, rfl⟩
    · rintro ⟨rfl, rfl⟩
      exact .failed f
  · by_cases hicon : icon = Path.empty
    · subst hicon
      constructor
      · rintro (⟨_, hne⟩ | _ | _)
        · exact absurd rfl hne
        · exact ⟨rfl, rfl⟩
      · rintro ⟨rfl, rfl⟩
        exact .blank i
    · simp only [Path.isEmpty_iff, hicon, ↓reduceIte]
      constructor
      · rintro (_ | _ | _)
        · exact ⟨rfl, rfl⟩
        · exact absurd rfl hicon
      · rintro ⟨rfl, rfl⟩
        exact .present _ hicon

/-! ## Objects -/

/-- The task that a link stands for. -/
structure LinkProperties.StandsFor (properties : LinkProperties) (item : Item) : Prop where
  kind : item.kind = .task
  path : properties.path = .ok item.path
  title : GivesText properties.title item.title
  arguments : GivesText properties.arguments item.arguments
  description : GivesDescription properties.description item.description
  icon : GivesIcon properties.icon item.iconPath item.iconIndex

/-- The item that a removed object stands for. -/
inductive RemovedObject.StandsFor : RemovedObject → Item → Prop
  | file {path : Path} : path ≠ Path.empty → StandsFor (.file (.ok path)) (Item.file path)
  | link {properties : LinkProperties} {item : Item} :
      properties.StandsFor item → StandsFor (.link properties) item

/-- The path of an object is enough to make it an item: that of a file if it is not empty, and that of
a link if it can be had. -/
def RemovedObject.PathServes : RemovedObject → Prop
  | .file path => ∃ p, path = .ok p ∧ p ≠ Path.empty
  | .link properties => ∃ p, properties.path = .ok p
  | .unrecognized => False

/-- A link stands for the task that is made of its properties, and for no other item. -/
theorem LinkProperties.standsFor_iff {properties : LinkProperties} {path : Path}
    (hpath : properties.path = .ok path) {item : Item} :
    properties.StandsFor item ↔ item = properties.task path := by
  rw [task_eq]
  constructor
  · rintro ⟨hkind, hown, htitle, harguments, hdescription, hicon⟩
    obtain rfl : path = item.path := Except.ok.inj (hpath.symm.trans hown)
    obtain ⟨hiconPath, hiconIndex⟩ := givesIcon_iff.mp hicon
    cases item
    simp_all [givesText_iff, givesDescription_iff]
  · rintro rfl
    exact ⟨rfl, hpath, givesText_iff.mpr rfl, givesText_iff.mpr rfl, givesDescription_iff.mpr rfl,
      givesIcon_iff.mpr ⟨rfl, rfl⟩⟩

/-- An object is judged by what it stands for. -/
theorem RemovedObject.judge_eq_ok_iff {o : RemovedObject} {item : Item} :
    o.judge = .ok item ↔ o.StandsFor item := by
  cases o with
  | unrecognized => exact ⟨nofun, nofun⟩
  | file path =>
    rcases path with f | path
    · exact ⟨nofun, nofun⟩
    · by_cases hpath : path = Path.empty
      · constructor
        · intro h
          simp [judge, hpath] at h
        · rintro (hne | _)
          exact absurd hpath hne
      · have hjudge : (file (.ok path)).judge = .ok (Item.file path) := by simp [judge, hpath]
        rw [hjudge]
        constructor
        · intro h
          cases h
          exact .file hpath
        · rintro (_ | _)
          rfl
  | link properties =>
    cases hpath : properties.path with
    | error f =>
      have hjudge : (link properties).judge = .error (Notice.removedTaskUnreadable f) := by
        simp [judge, hpath]
      rw [hjudge]
      constructor
      · exact nofun
      · rintro (_ | ⟨_, hown⟩)
        rw [hpath] at hown
        cases hown
    | ok path =>
      have hjudge : (link properties).judge = .ok (properties.task path) := by simp [judge, hpath]
      rw [hjudge, Except.ok.injEq, eq_comm, ← LinkProperties.standsFor_iff hpath]
      constructor
      · exact .link
      · rintro (_ | h)
        exact h

theorem RemovedObject.toOption_judge_eq_some_iff {o : RemovedObject} {item : Item} :
    o.judge.toOption = some item ↔ o.StandsFor item := by
  rw [← judge_eq_ok_iff]
  cases o.judge <;> simp [Except.toOption]

/-- Nothing but the path decides whether an object is an item. -/
theorem RemovedObject.exists_standsFor_iff {o : RemovedObject} :
    (∃ item, o.StandsFor item) ↔ o.PathServes := by
  cases o with
  | unrecognized => exact ⟨nofun, nofun⟩
  | file path =>
    constructor
    · rintro ⟨_, @⟨p, hne⟩ | _⟩
      exact ⟨p, rfl, hne⟩
    · rintro ⟨p, rfl, hne⟩
      exact ⟨_, .file hne⟩
  | link properties =>
    constructor
    · rintro ⟨item, _ | h⟩
      exact ⟨item.path, h.path⟩
    · rintro ⟨p, hpath⟩
      exact ⟨_, .link ((LinkProperties.standsFor_iff hpath).mpr rfl)⟩

end Native

/-! ## Many objects -/

variable {σ : Type}

/-- The items that objects are turned into. -/
def convertedItems (answer : Shell σ) (s : σ) (objects : List RemovedObject) : List Item :=
  ((convertRemoved objects).run answer s).value

theorem convertedItems_eq (answer : Shell σ) (s : σ) (objects : List RemovedObject) :
    convertedItems answer s objects = removedItems objects := by
  simp [convertedItems]

/-- Removed objects are turned into the items that they stand for, one or none for each of them and in
their order.  An object is an item as soon as its path serves.  The items of a row of objects are those of
its front and those of the rest, so no object makes a difference to the items of the others. -/
theorem convertRemoved_piecewise (answer : Shell σ) (s : σ) :
    (∀ objects : List RemovedObject, ∃ parts : List (Option Item),
      List.Forall₂ (fun o part => ∀ item, part = some item ↔ RemovedObject.StandsFor o item)
        objects parts ∧
      convertedItems answer s objects = parts.flatMap Option.toList) ∧
    (∀ o : RemovedObject, (∃ item, o.StandsFor item) ↔ o.PathServes) ∧
    (∀ xs ys, convertedItems answer s (xs ++ ys) =
      convertedItems answer s xs ++ convertedItems answer s ys) ∧
    (∀ before o after, convertedItems answer s (before ++ o :: after) =
      convertedItems answer s before ++ convertedItems answer s [o] ++
        convertedItems answer s after) := by
  refine ⟨?_, ?_, ?_, ?_⟩
  · intro objects
    refine ⟨objects.map fun o => o.judge.toOption, ?_, ?_⟩
    · rw [List.forall₂_map_right_iff, List.forall₂_same]
      intro o _ item
      exact RemovedObject.toOption_judge_eq_some_iff
    · rw [convertedItems_eq, removedItems, List.flatMap_map, List.filterMap_eq_flatMap_toList]
  · intro o
    exact RemovedObject.exists_standsFor_iff
  · intro xs ys
    simp only [convertedItems_eq, removedItems_append]
  · intro before o after
    simp only [convertedItems_eq]
    rw [← removedItems_append, ← removedItems_append, List.append_assoc, List.singleton_append]

end JumpList
