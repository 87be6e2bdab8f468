/-
# JumpList.Proofs.Shell.HandBack — what was built can be read back.

Items are built into native objects by setting properties, and removed objects are turned into items by
asking for properties.  The two were made apart from each other, and still one undoes the other
(`handBack_inverse`): the objects that a configured shell holds, handed back as removed objects, turn into
the items that were built, each with all that its object can tell (`Item.returned?`), a task with the icon
that it shows and no other (`Item.ComesBackAs`).  Only separators and files without a path do not come back,
and building what came back gives the same objects without those.
-/
import JumpList.Proofs.Build
import JumpList.Proofs.Removed
import JumpList.Shell.Configured

namespace JumpList

open Native Shell

/-! ## Adding many items -/

/-- The items that were built, given what came of each. -/
def Item.successes (items : List Item) (results : List (Except Failure Unit)) : List Item :=
  (items.zip results).filterMap fun p => if p.2.isOk then some p.1 else none

section Adding

variable {σ : Type} (answer : Shell σ)

/-- The first item is tried, and the rest added to what is there then. -/
theorem Native.Collection.run_addAll_cons (collection : Collection) (item : Item)
    (items : List Item) (s : σ) :
    let tried := item.realize.run answer s
    let rest := (addAll (collection ++ item.realized tried.value) items).run answer tried.state
    ((collection.addAll (item :: items)).run answer s).value =
      (tried.value :: rest.value.1, rest.value.2) := by
  simp [addAll, add_eq, Dialogue.run_bind]

/-- There is a result for each item, and an object for each item that was built, in order. -/
theorem Native.Collection.run_addAll (collection : Collection) (items : List Item) (s : σ) :
    let r := (collection.addAll items).run answer s
    r.value.1.length = items.length ∧
      r.value.2 = collection ++ (Item.successes items r.value.1).map Item.object := by
  induction items generalizing collection s with
  | nil => simp [addAll, Item.successes]
  | cons item items ih =>
    obtain ⟨hlength, hobjects⟩ := ih (collection ++ item.realized (item.realize.run answer s).value)
      (item.realize.run answer s).state
    intro r
    simp only [r, run_addAll_cons]
    refine ⟨by rw [List.length_cons, hlength, List.length_cons], ?_⟩
    rw [hobjects, List.append_assoc]
    -- An item that was not built leaves neither an object nor a success.
    rcases (item.realize.run answer s).value with f | ⟨⟩
    · rfl
    · rfl

/-- Among the states `P` no call fails, and none leads out of them. -/
def Shell.Grants (P : σ → Prop) : Prop :=
  ∀ s, P s → ∀ c, (∃ a, (answer c s).1 = .ok a) ∧ P (answer c s).2

variable {answer} {P : σ → Prop}

/-- Nothing fails if no call does. -/
theorem Native.run_requireAll_of_grants (h : Shell.Grants answer P) (cs : List Call) {s : σ}
    (hs : P s) : ((requireAll cs).run.run answer s).value = .ok () ∧
      P ((requireAll cs).run.run answer s).state := by
  induction cs generalizing s with
  | nil => exact ⟨rfl, hs⟩
  | cons c cs ih =>
    obtain ⟨⟨a, ha⟩, hnext⟩ := h s hs c
    simp only [requireAll, ExceptT.run_bind, require, ExceptT.run_mk, Dialogue.run_bind, run_call, ha]
    exact ih hnext

/-- If no call fails, there is an object for each item. -/
theorem Native.Collection.run_addAll_of_grants (h : Shell.Grants answer P)
    (collection : Collection) (items : List Item) {s : σ} (hs : P s) :
    ((collection.addAll items).run answer s).value =
      (items.map fun _ => .ok (), collection ++ items.map Item.object) := by
  induction items generalizing collection s with
  | nil => simp [addAll]
  | cons item items ih =>
    have hitem : (item.realize.run answer s).value = .ok () ∧ P (item.realize.run answer s).state :=
      run_requireAll_of_grants h item.script hs
    rw [run_addAll_cons, hitem.1, ih _ hitem.2, List.append_assoc]
    rfl

end Adding

/-! ## Items from their objects -/

/-- What the object of an item can tell of it when it is handed back. -/
def Item.returned? (item : Item) : Option Item :=
  match item.kind with
  | .task => some
      { item with
        iconPath := item.icon?.map Prod.fst
        iconIndex := (item.icon?.map Prod.snd).getD 0 }
  | .separator => none
  | .file => if item.path.isEmpty then none else some (file item.path)

/-- Whether an object can be told when it is handed back: lines and files without a path cannot. -/
def Native.Object.comesBack : Object → Bool
  | .link shellLink => !shellLink.separator
  | .file path => !path.isEmpty

/-- What comes back of a task: all that was said of it, with the icon that it shows and with no other. -/
structure Item.ComesBackAs (item back : Item) : Prop where
  kind : back.kind = .task
  path : back.path = item.path
  arguments : back.arguments = item.arguments
  title : back.title = item.title
  description : back.description = item.description
  icon : ∀ path index,
    back.iconPath = some path ∧ back.iconIndex = index ↔ item.ShowsIcon path index
  noIcon : (∀ path index, ¬ item.ShowsIcon path index) →
    back.iconPath = none ∧ back.iconIndex = 0

/-- A task comes back with the icon that it shows. -/
theorem Item.exists_comesBackAs {item : Item} (hk : item.kind = .task) :
    ∃ back, item.returned? = some back ∧ item.ComesBackAs back := by
  have hreturned : item.returned? = some { item with
      iconPath := item.icon?.map Prod.fst
      iconIndex := (item.icon?.map Prod.snd).getD 0 } := by
    simp only [returned?, hk]
  refine ⟨_, hreturned, hk, rfl, rfl, rfl, rfl, fun path index => ?_, fun hnone => ?_⟩
  · rw [← icon?_eq_some_iff]
    rcases item.icon? with _ | ⟨icon, number⟩
    · simp
    · simp
  · rw [icon?_eq_none_iff.mpr hnone]
    exact ⟨rfl, rfl⟩

/-- The icon of a task's link is the task's. -/
theorem icon?_linkProperties (item : Item) :
    (linkProperties item.taskLink).icon? = item.icon? := by
  have hicon : (linkProperties item.taskLink).icon = readBack item.icon? "GetIconLocation" := rfl
  rw [LinkProperties.icon?, hicon]
  rcases hi : item.icon? with _ | ⟨icon, index⟩
  · rfl
  · simp only [readBack, (Item.icon?_eq_some_iff.mp hi).nonempty]
    rfl

/-- The object of an item, handed back, is judged to be what it can tell. -/
theorem judge_handBack (item : Item) :
    (handBack item.object).judge.toOption = item.returned? := by
  cases hk : item.kind with
  | task =>
    have hjudge : (handBack item.object).judge =
        .ok ((linkProperties item.taskLink).task item.path) := by
      simp only [Item.object, hk]
      rfl
    rw [hjudge, LinkProperties.task_eq, icon?_linkProperties]
    simp only [Item.returned?, hk]
    rfl
  | separator =>
    simp only [Item.object, Item.returned?, hk]
    rfl
  | file =>
    simp only [Item.object, Item.returned?, hk, handBack, fileProperties, readBack,
      RemovedObject.judge]
    split <;> rfl

/-- What comes back of an item stands for the same object. -/
theorem Item.map_object_returned? (item : Item) :
    item.returned?.map Item.object =
      if item.object.comesBack then some item.object else none := by
  cases hk : item.kind with
  | task =>
    have hicon : Item.icon? { item with
        iconPath := item.icon?.map Prod.fst
        iconIndex := (item.icon?.map Prod.snd).getD 0 } = item.icon? := by
      rcases hi : item.icon? with _ | ⟨icon, index⟩
      · rfl
      · simp [icon?, (icon?_eq_some_iff.mp hi).nonempty]
    simp only [object, returned?, hk, Option.map_some, taskLink] at hicon ⊢
    rw [hicon]
    rfl
  | separator =>
    simp only [object, returned?, hk]
    rfl
  | file =>
    simp only [object, returned?, hk, Object.comesBack]
    cases item.path.isEmpty <;> rfl

/-- Objects that are handed back turn into what they can tell of their items. -/
theorem removedItems_handBack (items : List Item) :
    removedItems ((items.map Item.object).map handBack) = items.filterMap Item.returned? := by
  rw [removedItems, List.map_map, List.filterMap_map]
  exact congrArg (fun f => items.filterMap f) (funext judge_handBack)

/-- The items that come back stand for the objects that can be told. -/
theorem map_object_filterMap_returned? (items : List Item) :
    (items.filterMap Item.returned?).map Item.object =
      (items.map Item.object).filter Object.comesBack := by
  rw [List.map_filterMap, ← List.filterMap_eq_filter, List.filterMap_map]
  refine congrArg (fun f => items.filterMap f) (funext fun item => ?_)
  exact item.map_object_returned?

/-! ## One undoes the other -/

/-- A configuration without failures grants every call. -/
theorem Shell.Configuration.grants :
    Shell.Grants Configuration.answer fun cfg => ∀ c, cfg.failure? c = none := by
  intro cfg hcfg c
  refine ⟨⟨c.granted ⟨cfg.minimumSlots, cfg.removed⟩, ?_⟩, hcfg⟩
  show cfg.reply c = _
  rw [Configuration.reply, hcfg c]

/-- There is a configuration without failures. -/
theorem Shell.Configuration.failure?_faultless (c : Call) : faultless.failure? c = none := by
  cases c <;> rfl

/-- Whatever a configured shell makes of items, handed back it turns into the items that were built and
can be told from their objects, a task with the icon that it shows and no other; and on a shell without
failures these are built into the same objects again, but for lines and files without a path. -/
theorem handBack_inverse (cfg : Configuration) (items : List Item) :
    let built := ((Collection.addAll [] items).run Configuration.answer cfg).value
    let converted :=
      ((convertRemoved (built.2.map handBack)).run Configuration.answer cfg).value
    built.1.length = items.length ∧
      built.2 = (Item.successes items built.1).map Item.object ∧
      converted = (Item.successes items built.1).filterMap Item.returned? ∧
      (∀ item : Item, item.kind = .task →
        ∃ back, item.returned? = some back ∧ item.ComesBackAs back) ∧
      ∀ faithful : Configuration, (∀ c, faithful.failure? c = none) →
        ((Collection.addAll [] converted).run Configuration.answer faithful).value =
          (converted.map fun _ => .ok (), built.2.filter Object.comesBack) := by
  intro built converted
  obtain ⟨hlength, hobjects⟩ : built.1.length = items.length ∧
      built.2 = (Item.successes items built.1).map Item.object :=
    Collection.run_addAll Configuration.answer [] items cfg
  have hconverted : converted = (Item.successes items built.1).filterMap Item.returned? := by
    rw [← removedItems_handBack, ← hobjects]
    exact congrArg Dialogue.Run.value (run_convertRemoved Configuration.answer _ cfg)
  refine ⟨hlength, hobjects, hconverted, fun item => Item.exists_comesBackAs,
    fun faithful hfaithful => ?_⟩
  rw [Collection.run_addAll_of_grants Configuration.grants [] converted hfaithful, hobjects,
    ← map_object_filterMap_returned?, ← hconverted]
  rfl

/-- A shell that resolves one file of three and takes one title of three.  It holds a line, two tasks and
two files, and what comes back is the file that has a path and the two tasks: one with its icon, one
without the index that went with an empty path. -/
theorem handBack_inverse_unresolved :
    let program := Path.ofString "program"
    let icons := Path.ofString "icons"
    let lost := Path.ofString "lost"
    let notes := Path.ofString "notes"
    let cfg : Configuration :=
      { Configuration.faultless with
        unresolvableFiles := [lost]
        failingLinkTitles := ["Refused"] }
    let shown := ((Item.task program "Shown").withArguments "-v").withDescription "Runs."
    let plain := (Item.task program "Plain").withDescription "Runs."
    let items : List Item :=
      [.separator, shown.withIcon icons 3, .file lost, .task program "Refused", .file notes,
        plain.withIcon Path.empty 5, .file Path.empty]
    let held : List Item :=
      [.separator, shown.withIcon icons 3, .file notes, plain.withIcon Path.empty 5,
        .file Path.empty]
    let back : List Item := [shown.withIcon icons 3, .file notes, plain]
    let built := ((Collection.addAll [] items).run Configuration.answer cfg).value
    let converted :=
      ((convertRemoved (built.2.map handBack)).run Configuration.answer cfg).value
    (∀ c, Configuration.faultless.failure? c = none) ∧ built.2 = held.map Item.object ∧
      converted = back ∧
      ((Collection.addAll [] converted).run Configuration.answer .faultless).value =
        ([.ok (), .ok (), .ok ()], back.map Item.object) := by
  intro program icons lost notes cfg shown plain items held back built converted
  have hgranted := Configuration.failure?_faultless
  obtain ⟨-, hobjects, hconverted, -, hrebuilt⟩ := handBack_inverse cfg items
  have hsuccesses : Item.successes items built.1 = held := by decide +kernel
  have hheld : built.2 = held.map Item.object := by
    rw [← hsuccesses]
    exact hobjects
  have hback : converted = back := by
    rw [hsuccesses] at hconverted
    exact hconverted
  have hagain : ((Collection.addAll [] converted).run Configuration.answer .faultless).value =
      (converted.map fun _ => .ok (), built.2.filter Object.comesBack) := hrebuilt .faultless hgranted
  rw [hheld] at hagain
  refine ⟨hgranted, hheld, hback, ?_⟩
  rw [hagain, hback]
  rfl

end JumpList
