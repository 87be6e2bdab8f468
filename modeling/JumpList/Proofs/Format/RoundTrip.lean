/-
# JumpList.Proofs.Format.RoundTrip — items that are written and read back.

An item does not come back as it was (`Item.respelt`): fields that its kind gives no meaning to are
dropped, a missing icon comes back as an empty one, and a path comes back as its text spells it.  A task
without a program or a title, and a file without a path, do not come back at all (`Item.emptyField?`).
`items_roundTrip` says that reading gives just that, for one item and for a list of any length.

What comes back is as good as what was written.  It is written in the same way, and if the paths spell
texts it stands for the same native object, so that building it is the same dialogue.
-/
import JumpList.Format.Writer
import JumpList.Path.Lemmas
import JumpList.Proofs.Build
import JumpList.Proofs.Format.Reader

namespace JumpList

open Native (Shell Collection)

/-! ## Paths as their texts spell them -/

namespace Path

/-- The path that the text of a path spells. -/
def respelt (p : Path) : Path := ofString p.lossy

/-- The path spells a text: it is well-formed. -/
def IsText (p : Path) : Prop := ∃ text, p = ofString text

/-- The text of a well-formed path loses nothing. -/
theorem IsText.respelt_eq {p : Path} (h : p.IsText) : p.respelt = p := by
  obtain ⟨text, rfl⟩ := h
  rw [respelt, lossy_ofString]

@[simp] theorem lossy_respelt (p : Path) : p.respelt.lossy = p.lossy := lossy_ofString _

@[simp] theorem isEmpty_lossy (p : Path) : p.lossy.isEmpty = p.isEmpty := by
  rw [Bool.eq_iff_iff, String.isEmpty_iff, lossy_eq_empty_iff, isEmpty_iff]

end Path

/-! ## What comes back -/

namespace Item

/-- The item that comes back if it is written and read. -/
def respelt (item : Item) : Item :=
  match item.kind with
  | .task =>
    { item with
      path := item.path.respelt
      iconPath := some (item.iconPath.elim Path.empty Path.respelt) }
  | .separator => separator
  | .file => file item.path.respelt

/-- The first field that must not be empty and is. -/
def emptyField? (item : Item) : Option String :=
  match item.kind with
  | .task =>
    if item.path.isEmpty then some "program" else if item.title.isEmpty then some "title" else none
  | .separator => none
  | .file => if item.path.isEmpty then some "path" else none

/-- What reading makes of an item that was written. -/
def reread (item : Item) : Except Format.Error Item :=
  match item.emptyField? with
  | some field => .error (.emptyField field)
  | none => .ok item.respelt

theorem reread_eq_ok_iff {item item' : Item} :
    item.reread = .ok item' ↔ item.emptyField? = none ∧ item' = item.respelt := by
  unfold reread
  cases item.emptyField? <;> simp [eq_comm]

theorem reread_eq_error_iff {item : Item} {e : Format.Error} :
    item.reread = .error e ↔ ∃ field, item.emptyField? = some field ∧ e = .emptyField field := by
  unfold reread
  cases item.emptyField? <;> simp [eq_comm]

/-- The paths of the item spell texts. -/
structure IsText (item : Item) : Prop where
  path : item.path.IsText
  icon : ∀ icon, item.iconPath = some icon → icon.IsText

@[simp] theorem kind_respelt (item : Item) : item.respelt.kind = item.kind := by
  unfold respelt
  cases item.kind with
  | task => rfl
  | separator => rfl
  | file => rfl

/-- The shell is told of no icon, whether it is missing or empty. -/
theorem icon?_respelt {item : Item} (hk : item.kind = .task) (htext : item.IsText) :
    item.respelt.icon? = item.icon? := by
  cases hi : item.iconPath with
  | none => simp [respelt, icon?, hk, hi]
  | some icon => simp [respelt, icon?, hk, hi, (htext.icon icon hi).respelt_eq]

/-- If the paths spell texts, what comes back stands for the same object. -/
theorem object_respelt {item : Item} (htext : item.IsText) :
    item.respelt.object = item.object := by
  have hpath := htext.path.respelt_eq
  cases hk : item.kind with
  | task =>
    have hlink : item.respelt.taskLink = item.taskLink := by
      rw [taskLink, taskLink, icon?_respelt hk htext]
      simp [respelt, hk, hpath]
    rw [object, object, kind_respelt, hk, hlink]
  | separator => rw [object, object, kind_respelt, hk]
  | file => simp [object, respelt, hk, file, hpath]

end Item

namespace Format

/-- What comes back is written as it was. -/
@[simp] theorem writeItem_respelt (item : Item) : writeItem item.respelt = writeItem item := by
  cases hk : item.kind with
  | task =>
    -- A missing icon and an empty one are both written as the empty text.
    cases hi : item.iconPath <;> simp [writeItem, writePath, Item.respelt, hk, hi]
  | separator => simp [writeItem, Item.respelt, hk, Item.separator]
  | file => simp [writeItem, writePath, Item.respelt, hk, Item.file]

theorem writeItems_map_respelt (items : List Item) :
    writeItems (items.map Item.respelt) = writeItems items := by
  simp [writeItems]

/-! ## Reading what was written -/

section Fields

variable {members : Json.Members} {field text : String}

theorem optionalText_of_get? (h : members.get? field = some (.string text)) :
    optionalText members field = .ok (some text) := by
  rw [optionalText, h]

theorem requiredText_of_get? (h : members.get? field = some (.string text)) :
    requiredText members field =
      if text.isEmpty then .error (.emptyField field) else .ok text := by
  rw [requiredText, optionalText_of_get? h]
  rfl

/-- A number of 32 bits is read as it was written. -/
theorem requiredIndex_of_get? {index : Int32}
    (h : members.get? field = some (.number (.int index.toInt))) :
    requiredIndex members field = .ok index := by
  have hrange : Int32.minValue.toInt ≤ index.toInt ∧ index.toInt ≤ Int32.maxValue.toInt :=
    ⟨Int32.minValue_le_toInt index, Int32.toInt_le index⟩
  rw [requiredIndex, h]
  show (if _ then _ else _) = _
  rw [if_pos hrange, Int32.ofInt_toInt]

end Fields

/-- The members of a task that is written. -/
def taskMembers (item : Item) : Json.Members :=
  [("arguments", .string item.arguments), ("description", .string item.description),
    ("iconIndex", .number (.int item.iconIndex.toInt)),
    ("iconPath", writePath (item.iconPath.getD Path.empty)), ("program", writePath item.path),
    ("title", .string item.title), ("type", .string "task")]

/-- A task is read field by field, the program first and then the title. -/
theorem readTask_taskMembers {item : Item} (hk : item.kind = .task) :
    readTask (taskMembers item) = item.reread := by
  have hprogram : requiredText (taskMembers item) "program" =
      if item.path.lossy.isEmpty then .error (.emptyField "program") else .ok item.path.lossy :=
    requiredText_of_get? rfl
  have htitle : requiredText (taskMembers item) "title" =
      if item.title.isEmpty then .error (.emptyField "title") else .ok item.title :=
    requiredText_of_get? rfl
  have harguments : optionalText (taskMembers item) "arguments" = .ok (some item.arguments) :=
    optionalText_of_get? rfl
  have hdescription : optionalText (taskMembers item) "description" = .ok (some item.description) :=
    optionalText_of_get? rfl
  have hicon : optionalText (taskMembers item) "iconPath" =
      .ok (some (item.iconPath.getD Path.empty).lossy) := optionalText_of_get? rfl
  have hindex : requiredIndex (taskMembers item) "iconIndex" = .ok item.iconIndex :=
    requiredIndex_of_get? rfl
  simp only [Item.reread, Item.emptyField?, hk]
  -- One split for each field that must not be empty, in the order in which they are read.
  rw [readTask, hprogram, Path.isEmpty_lossy]
  split
  · rfl
  rw [htitle]
  split
  · rfl
  rw [harguments, hdescription, hicon, hindex]
  cases hi : item.iconPath <;> simp [Item.respelt, hk, hi] <;> rfl

/-- Reading an item that was written. -/
theorem readItem_writeItem (item : Item) : readItem (writeItem item) = item.reread := by
  cases hk : item.kind with
  | separator =>
    simp only [writeItem, Item.reread, Item.emptyField?, Item.respelt, hk]
    rfl
  | file =>
    have hpath : requiredText [("path", writePath item.path), ("type", .string "file")] "path" =
        if item.path.lossy.isEmpty then .error (.emptyField "path") else .ok item.path.lossy :=
      requiredText_of_get? rfl
    simp only [writeItem, Item.reread, Item.emptyField?, Item.respelt, hk]
    show (requiredText _ "path" >>= fun path => .ok (Item.file (Path.ofString path))) = _
    rw [hpath, Path.isEmpty_lossy]
    split <;> rfl
  | task =>
    have hmembers : writeItem item = .object (taskMembers item) := by
      simp only [writeItem, hk]
      rfl
    rw [hmembers, ← readTask_taskMembers hk]
    rfl

/-- Items come back exactly if each of them does. -/
theorem readItems_writeItems_eq_ok_iff {items items' : List Item} :
    readItems (writeItems items) = .ok items' ↔
      (∀ item ∈ items, item.emptyField? = none) ∧ items' = items.map Item.respelt := by
  show readEach .item readItem 0 (items.map writeItem) = .ok items' ↔ _
  rw [readEach_eq_ok_iff, List.forall₂_map_left_iff]
  simp only [readItem_writeItem, Item.reread_eq_ok_iff]
  rw [List.forall₂_and_left]
  refine and_congr_right fun _ => ?_
  rw [eq_comm, ← List.forall₂_eq_eq_eq, List.forall₂_map_left_iff]
  simp only [eq_comm]

/-- The first item that does not come back decides. -/
theorem readItems_writeItems_eq_error_iff {items : List Item} {e : Error} :
    readItems (writeItems items) = .error e ↔
      ∃ before item after field, items = before ++ item :: after ∧
        (∀ b ∈ before, b.emptyField? = none) ∧ item.emptyField? = some field ∧
        e = .item before.length (.emptyField field) := by
  show readEach .item readItem 0 (items.map writeItem) = .error e ↔ _
  rw [readEach_eq_error_iff]
  constructor
  · rintro ⟨before', j, after', cause, heq, hbefore, hj, rfl⟩
    obtain ⟨before, rest, rfl, rfl, hrest⟩ := List.map_eq_append_iff.mp heq
    obtain ⟨item, after, rfl, rfl, -⟩ := List.map_eq_cons_iff.mp hrest
    rw [readItem_writeItem, Item.reread_eq_error_iff] at hj
    obtain ⟨field, hfield, rfl⟩ := hj
    refine ⟨before, item, after, field, rfl, ?_, hfield, ?_⟩
    · intro b hb
      obtain ⟨b', hb'⟩ := hbefore (writeItem b) (List.mem_map_of_mem hb)
      rw [readItem_writeItem, Item.reread_eq_ok_iff] at hb'
      exact hb'.1
    · rw [List.length_map, Nat.zero_add]
  · rintro ⟨before, item, after, field, rfl, hbefore, hfield, rfl⟩
    refine ⟨before.map writeItem, writeItem item, after.map writeItem, .emptyField field,
      by simp, ?_, ?_, ?_⟩
    · intro j hj
      obtain ⟨b, hb, rfl⟩ := List.mem_map.mp hj
      refine ⟨b.respelt, ?_⟩
      rw [readItem_writeItem, Item.reread_eq_ok_iff]
      exact ⟨hbefore b hb, rfl⟩
    · rw [readItem_writeItem, Item.reread_eq_error_iff]
      exact ⟨field, hfield, rfl⟩
    · rw [List.length_map, Nat.zero_add]

end Format

/-! ## Building what came back -/

namespace Native.Collection

/-- Items that stand for the same objects one by one are built alike. -/
theorem addAll_congr (collection : Collection) {items items' : List Item}
    (h : List.Forall₂ (fun a b => a.object = b.object) items items') :
    collection.addAll items = collection.addAll items' := by
  induction h generalizing collection with
  | nil => rfl
  | cons hobject _ ih => simp only [addAll, collection.add_congr hobject, ih]

end Native.Collection

/-! ## The round trip -/

open Format (readItem readItems writeItem writeItems Error)

/-- An item that is written and read comes back as `Item.reread` says; what comes back is written alike
and, if its paths spell texts, built alike. -/
structure Item.RoundTrips (item : Item) : Prop where
  read : readItem (writeItem item) = item.reread
  rewritten : ∀ item', readItem (writeItem item) = .ok item' → writeItem item' = writeItem item
  rebuilt : item.IsText → ∀ item', readItem (writeItem item) = .ok item' →
    ∀ {σ : Type} (answer : Shell σ) (s : σ) (collection : Collection),
      (collection.add item').run answer s = (collection.add item).run answer s

/-- So it is with a list of items, one by one; the first that does not come back decides. -/
structure Item.AllRoundTrip (items : List Item) : Prop where
  accepted : ∀ items', readItems (writeItems items) = .ok items' ↔
    (∀ item ∈ items, item.emptyField? = none) ∧ items' = items.map Item.respelt
  rejected : ∀ e, readItems (writeItems items) = .error e ↔
    ∃ before item after field, items = before ++ item :: after ∧
      (∀ b ∈ before, b.emptyField? = none) ∧ item.emptyField? = some field ∧
      e = .item before.length (.emptyField field)
  rewritten : ∀ items', readItems (writeItems items) = .ok items' →
    writeItems items' = writeItems items
  rebuilt : (∀ item ∈ items, item.IsText) → ∀ items', readItems (writeItems items) = .ok items' →
    ∀ {σ : Type} (answer : Shell σ) (s : σ) (collection : Collection),
      (collection.addAll items').run answer s = (collection.addAll items).run answer s

/-- Writing and reading agree on every item and on every list of items; and the text of a path loses
nothing if the path is well-formed, and is empty only if the path is. -/
theorem items_roundTrip : (∀ item : Item, item.RoundTrips) ∧
    (∀ items : List Item, Item.AllRoundTrip items) ∧
    ∀ p : Path, (p.IsText → p.respelt = p) ∧ (p.lossy = "" ↔ p = Path.empty) := by
  refine ⟨fun item => ?_, fun items => ?_, fun p => ⟨Path.IsText.respelt_eq, Path.lossy_eq_empty_iff⟩⟩
  · refine ⟨Format.readItem_writeItem item, ?_, ?_⟩
    · intro item' h
      rw [Format.readItem_writeItem, Item.reread_eq_ok_iff] at h
      rw [h.2, Format.writeItem_respelt]
    · intro htext item' h σ answer s collection
      rw [Format.readItem_writeItem, Item.reread_eq_ok_iff] at h
      rw [h.2, collection.add_congr (Item.object_respelt htext)]
  · refine ⟨fun _ => Format.readItems_writeItems_eq_ok_iff,
      fun _ => Format.readItems_writeItems_eq_error_iff, ?_, ?_⟩
    · intro items' h
      rw [(Format.readItems_writeItems_eq_ok_iff.mp h).2, Format.writeItems_map_respelt]
    · intro htext items' h σ answer s collection
      rw [(Format.readItems_writeItems_eq_ok_iff.mp h).2]
      -- Every item comes back as one that stands for the same object.
      have hobjects : List.Forall₂ (fun a b : Item => a.object = b.object)
          (items.map Item.respelt) items := by
        rw [List.forall₂_map_left_iff, List.forall₂_same]
        exact fun item hitem => Item.object_respelt (htext item hitem)
      rw [collection.addAll_congr hobjects]

end JumpList
