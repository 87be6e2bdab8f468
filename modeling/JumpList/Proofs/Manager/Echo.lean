/-
# JumpList.Proofs.Manager.Echo — showing again what the user took off.

The plainest provider puts everything that the user took off into one custom category.  The items come
from removed objects, are written as a JSON value, read back, and appended, and these four steps do not
agree on what an item is: a removed link is an item as soon as its path can be had, but a task without
a program or a title cannot be read.  So one such link (`RemovedObject.Unfit`) aborts the whole update,
and nothing else does (`update_echo`).
-/
import JumpList.Proofs.Format.RoundTrip
import JumpList.Proofs.Manager.Result
import JumpList.Proofs.Removed
import JumpList.Shell.Configured

namespace JumpList

open Native

/-- The provider that puts what the user took off into one custom category. -/
def Provider.echo (name : String) : Provider := fun snapshot =>
  Format.writeCustom name snapshot.removed

/-! ## One custom category -/

namespace Format

/-- The members of a custom category that is written. -/
def customMembers (name : String) (items : List Item) : Json.Members :=
  [("items", writeItems items), ("name", .string name), ("type", .string "custom")]

/-- A custom category with a name is read as soon as its items are. -/
theorem readCategory_customMembers {name : String} (hname : name ≠ "") (items : List Item) :
    readCategory (.object (customMembers name items)) =
      (readItems (writeItems items)).map (Category.custom name) := by
  have hread : optionalText (customMembers name items) "name" = .ok (some name) :=
    optionalText_of_get? rfl
  have hkind : readCategoryKind (customMembers name items) (some name) = .ok .custom := rfl
  have hitems : readCategoryItems (customMembers name items) = readItems (writeItems items) := rfl
  have hne : some name ≠ some "" := fun h => hname (Option.some.inj h)
  rw [readCategory]
  simp only [membersOf, bind, Except.bind, hread, if_neg hne, hkind, hitems]
  cases readItems (writeItems items) <;> rfl

/-- Items in a custom category of their own are read as that category or not at all. -/
theorem readCategories_writeCustom {name : String} (hname : name ≠ "") (items : List Item) :
    readCategories (writeCustom name items) =
      match readItems (writeItems items) with
      | .ok items' => .ok [Category.custom name items']
      | .error e => .error (.category 0 e) := by
  have hcategory := readCategory_customMembers hname items
  show readEach .category readCategory 0 [.object (customMembers name items)] = _
  cases hitems : readItems (writeItems items) with
  | error e =>
    rw [hitems] at hcategory
    exact readEach_cons_of_error .category readCategory hcategory 0 []
  | ok items' =>
    rw [hitems] at hcategory
    exact readEach_cons_of_ok .category readCategory hcategory 0 []

end Format

/-! ## Unfit links -/

namespace Native.RemovedObject

/-- A link that is an item but cannot be read back as one: its path can be had, and the path is empty,
or the title is empty, missing or cannot be had. -/
def Unfit : RemovedObject → Prop
  | .link properties => ∃ path, properties.path = .ok path ∧
      (path.isEmpty ∨ ∀ title, properties.title = .ok (some title) → title = "")
  | .file _ | .unrecognized => False

end Native.RemovedObject

/-- A title that is empty, missing or cannot be had counts as empty. -/
theorem getD_propertyOr_eq_empty_iff {title : Except Failure (Option String)} :
    (propertyOr none title).getD "" = "" ↔ ∀ text, title = .ok (some text) → text = "" := by
  rcases title with f | _ | text <;> simp [propertyOr]

/-- The task of a link lacks its program or its title exactly if the link is unfit. -/
theorem Native.LinkProperties.emptyField?_task (properties : LinkProperties) (path : Path) :
    (properties.task path).emptyField? =
      if path.isEmpty then some "program"
      else if (propertyOr none properties.title).getD "" = "" then some "title" else none := by
  rw [task_eq]
  simp [Item.emptyField?]

namespace Native.RemovedObject

/-- An object that is fit gives an item that can be read back. -/
theorem emptyField?_of_fit {o : RemovedObject} (h : ¬ o.Unfit) {item : Item}
    (hjudge : o.judge = .ok item) : item.emptyField? = none := by
  cases o with
  | unrecognized => cases hjudge
  | file path =>
    rcases path with f | path
    · cases hjudge
    · simp only [judge] at hjudge
      split at hjudge
      · cases hjudge
      · rename_i hpath
        obtain rfl := Except.ok.inj hjudge
        simp [Item.emptyField?, Item.file, hpath]
  | link properties =>
    rcases hpath : properties.path with f | path
    · simp [judge, hpath] at hjudge
    · obtain rfl : properties.task path = item := by simpa [judge, hpath] using hjudge
      have hboth : ¬ (path.isEmpty ∨ ∀ title, properties.title = .ok (some title) → title = "") :=
        fun hor => h ⟨path, hpath, hor⟩
      rw [not_or, ← getD_propertyOr_eq_empty_iff] at hboth
      rw [LinkProperties.emptyField?_task, if_neg hboth.1, if_neg hboth.2]

/-- An unfit link gives a task that cannot be read back, for lack of its program or else its title. -/
theorem exists_of_unfit {o : RemovedObject} (h : o.Unfit) : ∃ properties path,
    o = .link properties ∧ properties.path = .ok path ∧ o.judge = .ok (properties.task path) ∧
      (properties.task path).emptyField? = some (if path.isEmpty then "program" else "title") := by
  cases o with
  | unrecognized => exact h.elim
  | file path => exact h.elim
  | link properties =>
    obtain ⟨path, hpath, hor⟩ := h
    refine ⟨properties, path, rfl, hpath, by simp [judge, hpath], ?_⟩
    rw [← getD_propertyOr_eq_empty_iff] at hor
    rw [LinkProperties.emptyField?_task]
    by_cases hempty : path.isEmpty
    · rw [if_pos hempty, if_pos hempty]
    · rw [if_neg hempty, if_neg hempty, if_pos (hor.resolve_left hempty)]

end Native.RemovedObject

/-- If some object is unfit, one of them is the first. -/
theorem exists_first_unfit {objects : List RemovedObject} (h : ∃ o ∈ objects, o.Unfit) :
    ∃ before o after, objects = before ++ o :: after ∧ (∀ b ∈ before, ¬ b.Unfit) ∧ o.Unfit := by
  classical
  have hsome : (objects.find? fun o => decide o.Unfit).isSome := by
    simpa [List.find?_isSome] using h
  obtain ⟨o, hfind⟩ := Option.isSome_iff_exists.mp hsome
  obtain ⟨ho, before, after, hsplit, hbefore⟩ := List.find?_eq_some_iff_append.mp hfind
  exact ⟨before, o, after, hsplit, fun b hb => by simpa using hbefore b hb, by simpa using ho⟩

/-- Items of fit objects can all be read back. -/
theorem forall_emptyField?_removedItems {objects : List RemovedObject}
    (h : ∀ o ∈ objects, ¬ o.Unfit) : ∀ item ∈ removedItems objects, item.emptyField? = none := by
  intro item hitem
  obtain ⟨o, ho, hjudge⟩ := exists_judge_of_mem_removedItems hitem
  exact RemovedObject.emptyField?_of_fit (h o ho) hjudge

/-! ## The update -/

namespace Manager

variable {σ : Type} {m : Manager} {answer : Shell σ} {s s' : σ} {opening : Opening} {name : String}

/-- Without an unfit link what the user took off is read as the category that it was written as. -/
theorem read_echo_of_fit (hname : name ≠ "") (h : ∀ o ∈ opening.removed, ¬ o.Unfit) :
    Format.readCategories (Provider.echo name (.ofOpening opening)) =
      .ok [Category.custom name ((removedItems opening.removed).map Item.respelt)] := by
  have hitems : Format.readItems (Format.writeItems (removedItems opening.removed)) =
      .ok ((removedItems opening.removed).map Item.respelt) :=
    Format.readItems_writeItems_eq_ok_iff.mpr ⟨forall_emptyField?_removedItems h, rfl⟩
  show Format.readCategories (Format.writeCustom name (removedItems opening.removed)) = _
  rw [Format.readCategories_writeCustom hname, hitems]

/-- The first unfit link decides what is wrong with the value. -/
theorem read_echo_of_unfit (hname : name ≠ "") (h : ∃ o ∈ opening.removed, o.Unfit) :
    ∃ before properties path after,
      opening.removed = before ++ .link properties :: after ∧ (∀ b ∈ before, ¬ b.Unfit) ∧
      (RemovedObject.link properties).Unfit ∧ properties.path = .ok path ∧
      Format.readCategories (Provider.echo name (.ofOpening opening)) =
        .error (.category 0 (.item (removedItems before).length
          (.emptyField (if path.isEmpty then "program" else "title")))) := by
  obtain ⟨before, o, after, hsplit, hbefore, hunfit⟩ := exists_first_unfit h
  obtain ⟨properties, path, rfl, hpath, hjudge, hempty⟩ := RemovedObject.exists_of_unfit hunfit
  refine ⟨before, properties, path, after, hsplit, hbefore, hunfit, hpath, ?_⟩
  have hitems : Format.readItems (Format.writeItems (removedItems opening.removed)) =
      .error (.item (removedItems before).length
        (.emptyField (if path.isEmpty then "program" else "title"))) := by
    refine Format.readItems_writeItems_eq_error_iff.mpr ⟨removedItems before, properties.task path,
      removedItems after, _, ?_, forall_emptyField?_removedItems hbefore, hempty, rfl⟩
    rw [hsplit, removedItems_append, removedItems_cons_of_ok hjudge]
  show Format.readCategories (Format.writeCustom name (removedItems opening.removed)) = _
  rw [Format.readCategories_writeCustom hname, hitems]

/-- A commit is attempted whether or not it is granted. -/
theorem exists_commitList_mem_ofCommit (answer : Shell σ) (s : σ) :
    ∃ e ∈ (Ending.ofCommit answer s).events, e.1 = .commitList := by
  unfold Ending.ofCommit
  split
  · exact ⟨_, List.mem_cons_self, rfl⟩
  · exact ⟨_, List.mem_cons_self, rfl⟩

/-- A value that cannot be read aborts the list at once. -/
theorem run_update_of_error (ho : m.Opens answer s opening s') {provider : Provider}
    {e : Format.Error} (h : Format.readCategories (provider (.ofOpening opening)) = .error e) :
    ((m.update provider).run answer s).value = ⟨.argumentError, some (.ofOpening opening)⟩ ∧
      ∃ reply, ((m.update provider).run answer s).events =
        openingEvents m.id opening ++ [⟨.abortList, reply⟩] := by
  obtain ⟨hv, he⟩ := run_updateOn_of_error answer m h s'
  rw [run_update, run_onOpenList_of_opens ho]
  exact ⟨hv, _, congrArg (openingEvents m.id opening ++ ·) he⟩

/-- After a value that can be read there is an attempt to commit the list. -/
theorem run_update_of_ok (ho : m.Opens answer s opening s') {provider : Provider}
    {cs : List Category} (h : Format.readCategories (provider (.ofOpening opening)) = .ok cs) :
    ((m.update provider).run answer s).value.consulted = some (.ofOpening opening) ∧
      ((m.update provider).run answer s).value.outcome ≠ .argumentError ∧
      ∃ e ∈ ((m.update provider).run answer s).events, e.1 = .commitList := by
  have hne := update_ne_argumentError (m := m) ⟨opening, ho, h⟩
  obtain ⟨hv, he⟩ := run_updateOn_of_ok answer m h s'
  obtain ⟨e, hmem, hcommit⟩ :=
    exists_commitList_mem_ofCommit answer ((appendCategories cs).run answer s').state
  refine ⟨?_, hne, e, ?_, hcommit⟩
  · rw [run_update, run_onOpenList_of_opens ho]
    exact congrArg UpdateReport.consulted hv
  · rw [run_update, run_onOpenList_of_opens ho]
    show e ∈ openingEvents m.id opening ++ ((m.updateOn provider _ _).run answer s').events
    rw [he]
    exact List.mem_append_right _ (List.mem_append_right _ hmem)

/-- What was reported of an update that shows again what the user took off, and its events, depend on
whether one of the removed links is unfit. -/
structure Echoes (m : Manager) (name : String) (opening : Opening) (report : UpdateReport)
    (es : List Event) : Prop where
  /-- The provider was told of the removed items. -/
  consulted : report.consulted = some (.ofOpening opening)
  /-- The update is aborted at once, as the caller's error, exactly if some link is unfit. -/
  rejected_iff : (report.outcome = .argumentError ∧
      ∃ reply, es = openingEvents m.id opening ++ [⟨.abortList, reply⟩]) ↔
    ∃ o ∈ opening.removed, o.Unfit
  /-- The error is then at the item of the first unfit link. -/
  misfit : (∃ o ∈ opening.removed, o.Unfit) → ∃ before properties path after,
    opening.removed = before ++ .link properties :: after ∧ (∀ b ∈ before, ¬ b.Unfit) ∧
    (RemovedObject.link properties).Unfit ∧ properties.path = .ok path ∧
    Format.readCategories (Provider.echo name (.ofOpening opening)) =
      .error (.category 0 (.item (removedItems before).length
        (.emptyField (if path.isEmpty then "program" else "title"))))
  /-- Otherwise the category has all items, in order, and there is an attempt to commit the list. -/
  accepted : (∀ o ∈ opening.removed, ¬ o.Unfit) → report.outcome ≠ .argumentError ∧
    (∃ items, Format.readCategories (Provider.echo name (.ofOpening opening)) =
        .ok [Category.custom name items] ∧
      items = (removedItems opening.removed).map Item.respelt ∧
      items.map Item.kind = (removedItems opening.removed).map Item.kind) ∧
    ∃ e ∈ es, e.1 = .commitList

/-- Showing again what the user took off aborts the update if a link is unfit, and only then. -/
theorem update_echo (hname : name ≠ "") (ho : m.Opens answer s opening s') :
    m.Echoes name opening ((m.update (Provider.echo name)).run answer s).value
      ((m.update (Provider.echo name)).run answer s).events := by
  by_cases h : ∃ o ∈ opening.removed, o.Unfit
  · obtain ⟨before, properties, path, after, hmisfit⟩ := read_echo_of_unfit hname h
    obtain ⟨hv, haborted⟩ := run_update_of_error ho hmisfit.2.2.2.2
    refine ⟨by rw [hv], iff_of_true ⟨by rw [hv], haborted⟩ h,
      fun _ => ⟨before, properties, path, after, hmisfit⟩, fun hfit => absurd h ?_⟩
    rintro ⟨o, hmem, hunfit⟩
    exact hfit o hmem hunfit
  · have hfit : ∀ o ∈ opening.removed, ¬ o.Unfit := fun o hmem hunfit => h ⟨o, hmem, hunfit⟩
    have hread := read_echo_of_fit hname hfit
    obtain ⟨hconsulted, hne, hcommit⟩ := run_update_of_ok ho hread
    have hkinds : ((removedItems opening.removed).map Item.respelt).map Item.kind =
        (removedItems opening.removed).map Item.kind := by
      rw [List.map_map]
      exact List.map_congr_left fun item _ => item.kind_respelt
    exact ⟨hconsulted, iff_of_false (fun hrejected => hne hrejected.1) h,
      fun hunfit => absurd hunfit h, fun _ => ⟨hne, ⟨_, hread, rfl, hkinds⟩, hcommit⟩⟩

open JumpList.Shell (Configuration linkProperties)

/-- A shell whose user took off a link without a path, a file, and a link without a title. -/
def untitledTakenOff : Configuration :=
  { Configuration.faultless with
    removed :=
      [.link (linkProperties ShellLink.blank), .file (.ok (Path.ofString "notes")),
        .link (linkProperties { ShellLink.blank with path := some (Path.ofString "tool") })] }

/-- The last of the three aborts the update: the first one is not an item, and the second is read. -/
theorem update_echo_untitled :
    let m : Manager := ⟨⟨"app"⟩⟩
    let opening : Opening := ⟨0, untitledTakenOff.removed⟩
    "Lost" ≠ "" ∧ m.Opens Configuration.answer untitledTakenOff opening untitledTakenOff ∧
      ((m.update (Provider.echo "Lost")).run Configuration.answer untitledTakenOff).value.outcome =
        .argumentError := by
  intro m opening
  have hname : "Lost" ≠ "" := by decide
  have ho : m.Opens Configuration.answer untitledTakenOff opening untitledTakenOff := ⟨rfl, rfl, rfl⟩
  have hunfit : ∃ o ∈ opening.removed, o.Unfit :=
    ⟨_, List.mem_of_getElem? (i := 2) rfl, Path.ofString "tool", rfl, .inr nofun⟩
  exact ⟨hname, ho, ((update_echo hname ho).rejected_iff.mpr hunfit).1⟩

end Manager

end JumpList
