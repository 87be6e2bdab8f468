/-
# JumpList.Proofs.Format.Grammar — the values that are jump lists, and what they stand for.

The format of a jump list is written down here as a grammar: rules that say which JSON values describe
which items, categories and lists of categories (`DescribesItem`, `DescribesCategory`,
`DescribesList`).  The rules only look fields up; they know nothing of the order in which a reader
checks them, nor of errors.

`readCategories_eq_ok_iff` says that reading is just this grammar: a value is read as a list of
categories exactly if it describes that list.  So what is read is well-formed, whatever the value was.
-/
import JumpList.Path.Lemmas
import JumpList.Proofs.Dialogue
import JumpList.Proofs.Format.Reader

namespace JumpList

/-! ## Well-formed models -/

/-- The item has what its kind requires, and nothing that its kind gives no meaning to. -/
def Item.WellFormed (item : Item) : Prop :=
  match item.kind with
  | .task => item.path ≠ Path.empty ∧ item.title ≠ ""
  | .separator => item = separator
  | .file => item.path ≠ Path.empty ∧ item = file item.path

/-- A custom category has a name and no other has, the categories that the shell fills have no items,
and every item is well-formed. -/
structure Category.WellFormed (c : Category) : Prop where
  named : c.kind = .custom → ∃ name, c.name = some name ∧ name ≠ ""
  unnamed : c.kind ≠ .custom → c.name = none
  unfilled : c.kind = .frequent ∨ c.kind = .recent → c.items = []
  items : ∀ item ∈ c.items, item.WellFormed

namespace Format

open Json (Members)

/-! ## The grammar -/

/-- A text field says this: nothing, if it is missing or null. -/
def HasText (members : Members) (field : String) : Option String → Prop
  | none => members.get? field = none ∨ members.get? field = some .null
  | some text => members.get? field = some (.string text)

/-- A text field is there and says something. -/
def HasContent (members : Members) (field text : String) : Prop :=
  members.get? field = some (.string text) ∧ text ≠ ""

/-- A task has this icon.  Only if there is a path an index is asked for, an integer of 32 bits. -/
def HasIcon (members : Members) : Option (String × Int32) → Prop
  | none => HasText members "iconPath" none
  | some (path, index) => HasText members "iconPath" (some path) ∧
      members.get? "iconIndex" = some (.number (.int index.toInt))

/-- How a kind of item is called. -/
def itemTypeName : Item.Kind → String
  | .task => "task"
  | .separator => "separator"
  | .file => "file"

/-- A value describes an item. -/
inductive DescribesItem : Json → Item → Prop
  | task {members : Members} {program title : String} {arguments description : Option String}
      {icon : Option (String × Int32)} :
      members.get? "type" = some (.string (itemTypeName .task)) →
      HasContent members "program" program → HasContent members "title" title →
      HasText members "arguments" arguments → HasText members "description" description →
      HasIcon members icon →
      DescribesItem (.object members)
        { kind := .task
          path := Path.ofString program
          arguments := arguments.getD ""
          title
          description := description.getD ""
          iconPath := icon.map fun i => Path.ofString i.1
          iconIndex := (icon.map Prod.snd).getD 0 }
  | separator {members : Members} :
      members.get? "type" = some (.string (itemTypeName .separator)) →
      DescribesItem (.object members) Item.separator
  | file {members : Members} {path : String} :
      members.get? "type" = some (.string (itemTypeName .file)) →
      HasContent members "path" path →
      DescribesItem (.object members) (Item.file (Path.ofString path))

/-- The items of a category are described one by one, in order. -/
def HasItems (members : Members) (items : List Item) : Prop :=
  ∃ elements, members.get? "items" = some (.array elements) ∧
    List.Forall₂ DescribesItem elements items

/-- How a kind of category is called. -/
def categoryTypeName : Category.Kind → String
  | .tasks => "tasks"
  | .frequent => "frequent"
  | .recent => "recent"
  | .custom => "custom"

/-- A category of the given name is of this kind: the kind that it calls itself, or else the one that
follows from whether it has a name. -/
inductive HasKind (members : Members) : Option String → Category.Kind → Prop
  | given {name : Option String} {kind : Category.Kind} :
      members.get? "type" = some (.string (categoryTypeName kind)) → HasKind members name kind
  | named {name : String} : members.get? "type" = none → HasKind members (some name) .custom
  | unnamed : members.get? "type" = none → HasKind members none .tasks

/-- A value describes a category.  A name that is there must not be empty, even where it is not used. -/
inductive DescribesCategory : Json → Category → Prop
  | custom {members : Members} {name : String} {items : List Item} :
      HasContent members "name" name → HasKind members (some name) .custom →
      HasItems members items →
      DescribesCategory (.object members) (Category.custom name items)
  | tasks {members : Members} {name : Option String} {items : List Item} :
      HasText members "name" name → name ≠ some "" → HasKind members name .tasks →
      HasItems members items →
      DescribesCategory (.object members) (Category.tasks items)
  | frequent {members : Members} {name : Option String} :
      HasText members "name" name → name ≠ some "" → HasKind members name .frequent →
      DescribesCategory (.object members) Category.frequent
  | recent {members : Members} {name : Option String} :
      HasText members "name" name → name ≠ some "" → HasKind members name .recent →
      DescribesCategory (.object members) Category.recent

/-- A value describes a list of categories, one by one, in order. -/
def DescribesList (j : Json) (cs : List Category) : Prop :=
  ∃ elements, j = .array elements ∧ List.Forall₂ DescribesCategory elements cs

/-! ## Fields -/

/-- Steps are passed exactly if each of them is. -/
theorem bind_eq_ok_iff {α β : Type} {x : Except Error α} {f : α → Except Error β} {b : β} :
    x >>= f = .ok b ↔ ∃ a, x = .ok a ∧ f a = .ok b := by
  cases x with
  | error e => simp [bind, Except.bind]
  | ok a => simp [bind, Except.bind]

variable {members : Members} {field : String}

theorem membersOf_eq_ok_iff {j : Json} : membersOf j = .ok members ↔ j = .object members := by
  cases j <;> simp [membersOf]

theorem optionalText_eq_ok_iff {text : Option String} :
    optionalText members field = .ok text ↔ HasText members field text := by
  unfold optionalText
  split
  case h_1 h => cases text <;> simp [HasText, h]
  case h_2 h => cases text <;> simp [HasText, h]
  case h_3 h => cases text <;> simp [HasText, h]
  case h_4 j hnull hstring h =>
    -- Neither missing nor null nor a text: the field says nothing that could be read.
    refine iff_of_false nofun ?_
    cases text with
    | none => simpa [HasText, h] using hnull
    | some text => simpa [HasText, h] using hstring text

theorem requiredText_eq_ok_iff {text : String} :
    requiredText members field = .ok text ↔ HasContent members field text := by
  rw [requiredText, bind_eq_ok_iff]
  constructor
  · rintro ⟨found, hfound, htext⟩
    rw [optionalText_eq_ok_iff] at hfound
    cases found with
    | none => cases htext
    | some found =>
      dsimp only at htext
      split at htext
      · cases htext
      · rename_i hne
        obtain rfl := Except.ok.inj htext
        exact ⟨hfound, by simpa using hne⟩
  · rintro ⟨hget, hne⟩
    refine ⟨some text, optionalText_eq_ok_iff.mpr hget, ?_⟩
    simp [hne]

/-- An integer is read exactly if 32 bits hold it. -/
theorem requiredIndex_eq_ok_iff {index : Int32} :
    requiredIndex members field = .ok index ↔
      members.get? field = some (.number (.int index.toInt)) := by
  unfold requiredIndex
  split
  case h_1 h => simp [h]
  case h_2 i h =>
    rw [h, Option.some.injEq, Json.number.injEq, Json.Number.int.injEq]
    split
    · rename_i hrange
      rw [Except.ok.injEq]
      constructor
      · rintro rfl
        exact (Int32.toInt_ofInt_of_le hrange.1 (Int.lt_add_one_of_le hrange.2)).symm
      · rintro rfl
        exact Int32.ofInt_toInt index
    · rename_i hrange
      refine iff_of_false nofun ?_
      rintro rfl
      exact hrange ⟨Int32.minValue_le_toInt index, Int32.toInt_le index⟩
  case h_3 j hint h => simpa [h] using hint index.toInt

theorem requiredElements_eq_ok_iff {elements : List Json} :
    requiredElements members field = .ok elements ↔
      members.get? field = some (.array elements) := by
  unfold requiredElements
  split
  case h_1 h => simp [h]
  case h_2 h => simp [h]
  case h_3 j harray h => simpa [h] using harray elements

/-! ## Items -/

/-- A kind is read from its own name and from nothing else. -/
theorem readKind_eq_ok_iff {κ : Type} {kind? : String → Option κ} {nameOf : κ → String}
    (h : ∀ name kind, kind? name = some kind ↔ name = nameOf kind) {j : Json} {kind : κ} :
    readKind kind? j = .ok kind ↔ j = .string (nameOf kind) := by
  unfold readKind
  split
  case h_1 name =>
    rw [Json.string.injEq, ← h]
    cases kind? name <;> simp
  case h_2 j hstring =>
    refine iff_of_false nofun ?_
    intro hj
    exact hstring _ hj

theorem itemKind?_eq_some_iff (name : String) (kind : Item.Kind) :
    itemKind? name = some kind ↔ name = itemTypeName kind := by
  unfold itemKind?
  split <;> cases kind <;> simp_all [itemTypeName]

theorem readTask_eq_ok_iff {item : Item} :
    readTask members = .ok item ↔
      ∃ program title arguments description icon,
        HasContent members "program" program ∧ HasContent members "title" title ∧
        HasText members "arguments" arguments ∧ HasText members "description" description ∧
        HasIcon members icon ∧
        item =
          { kind := .task
            path := Path.ofString program
            arguments := arguments.getD ""
            title
            description := description.getD ""
            iconPath := icon.map fun i => Path.ofString i.1
            iconIndex := (icon.map Prod.snd).getD 0 } := by
  simp only [readTask, bind_eq_ok_iff, requiredText_eq_ok_iff, optionalText_eq_ok_iff]
  constructor
  · rintro ⟨program, hprogram, title, htitle, arguments, harguments, description, hdescription,
      icon, hicon, hitem⟩
    cases icon with
    | none =>
      obtain rfl := Except.ok.inj hitem
      exact ⟨program, title, arguments, description, none, hprogram, htitle, harguments,
        hdescription, hicon, rfl⟩
    | some icon =>
      obtain ⟨index, hindex, hitem⟩ := bind_eq_ok_iff.mp hitem
      obtain rfl := Except.ok.inj hitem
      exact ⟨program, title, arguments, description, some (icon, index), hprogram, htitle,
        harguments, hdescription, ⟨hicon, requiredIndex_eq_ok_iff.mp hindex⟩, rfl⟩
  · rintro ⟨program, title, arguments, description, icon, hprogram, htitle, harguments,
      hdescription, hicon, rfl⟩
    refine ⟨program, hprogram, title, htitle, arguments, harguments, description, hdescription,
      icon.map Prod.fst, ?_⟩
    cases icon with
    | none => exact ⟨hicon, rfl⟩
    | some icon =>
      refine ⟨hicon.1, ?_⟩
      exact bind_eq_ok_iff.mpr ⟨icon.2, requiredIndex_eq_ok_iff.mpr hicon.2, rfl⟩

/-- What is read of an object once its kind is known. -/
def readOfKind (members : Members) : Item.Kind → Except Error Item
  | .task => readTask members
  | .separator => .ok Item.separator
  | .file => do return Item.file (Path.ofString (← requiredText members "path"))

/-- A field that is there is what it is. -/
theorem present_eq_ok_iff {e : Error} {j : Json} :
    (members.get? field).elim (.error e) Except.ok = .ok j ↔ members.get? field = some j := by
  cases members.get? field <;> simp

theorem readItem_eq (j : Json) :
    readItem j = (do
      let members ← membersOf j
      let type ← (members.get? "type").elim (.error (.missingField "type")) .ok
      readOfKind members (← readKind itemKind? type)) := rfl

/-- An item is read by its kind. -/
theorem readItem_eq_ok_iff_kind {j : Json} {item : Item} :
    readItem j = .ok item ↔ ∃ (members : Members) (kind : Item.Kind), j = .object members ∧
      members.get? "type" = some (.string (itemTypeName kind)) ∧
      readOfKind members kind = .ok item := by
  simp only [readItem_eq, bind_eq_ok_iff, membersOf_eq_ok_iff, present_eq_ok_iff,
    readKind_eq_ok_iff itemKind?_eq_some_iff]
  constructor
  · rintro ⟨members, hj, type, htype, kind, rfl, hitem⟩
    exact ⟨members, kind, hj, htype, hitem⟩
  · rintro ⟨members, kind, hj, htype, hitem⟩
    exact ⟨members, hj, _, htype, kind, rfl, hitem⟩

/-- An item is read exactly if the value describes it. -/
theorem readItem_eq_ok_iff {j : Json} {item : Item} :
    readItem j = .ok item ↔ DescribesItem j item := by
  rw [readItem_eq_ok_iff_kind]
  constructor
  · rintro ⟨members, kind, rfl, htype, hitem⟩
    cases kind with
    | task =>
      obtain ⟨program, title, arguments, description, icon, hprogram, htitle, harguments,
        hdescription, hicon, rfl⟩ := readTask_eq_ok_iff.mp hitem
      exact .task htype hprogram htitle harguments hdescription hicon
    | separator =>
      obtain rfl := Except.ok.inj hitem
      exact .separator htype
    | file =>
      obtain ⟨path, hpath, hitem⟩ := bind_eq_ok_iff.mp hitem
      obtain rfl := Except.ok.inj hitem
      exact .file htype (requiredText_eq_ok_iff.mp hpath)
  · intro h
    cases h with
    | task htype hprogram htitle harguments hdescription hicon =>
      refine ⟨_, .task, rfl, htype, readTask_eq_ok_iff.mpr ?_⟩
      exact ⟨_, _, _, _, _, hprogram, htitle, harguments, hdescription, hicon, rfl⟩
    | separator htype => exact ⟨_, .separator, rfl, htype, rfl⟩
    | file htype hpath =>
      refine ⟨_, .file, rfl, htype, ?_⟩
      exact bind_eq_ok_iff.mpr ⟨_, requiredText_eq_ok_iff.mpr hpath, rfl⟩

/-! ## Categories -/

theorem categoryKind?_eq_some_iff (name : String) (kind : Category.Kind) :
    categoryKind? name = some kind ↔ name = categoryTypeName kind := by
  unfold categoryKind?
  split <;> cases kind <;> simp_all [categoryTypeName]

theorem readCategoryKind_eq_ok_iff {name : Option String} {kind : Category.Kind} :
    readCategoryKind members name = .ok kind ↔ HasKind members name kind := by
  unfold readCategoryKind
  split
  case h_1 type htype =>
    rw [readKind_eq_ok_iff categoryKind?_eq_some_iff]
    constructor
    · rintro rfl
      exact .given htype
    · intro h
      cases h with
      | given hgiven => exact Option.some.inj (htype.symm.trans hgiven)
      | named hmissing => cases htype.symm.trans hmissing
      | unnamed hmissing => cases htype.symm.trans hmissing
  case h_2 htype =>
    constructor
    · intro h
      obtain rfl := Except.ok.inj h
      cases name with
      | none => exact .unnamed htype
      | some name => exact .named htype
    · intro h
      cases h with
      | given hgiven => cases htype.symm.trans hgiven
      | named => rfl
      | unnamed => rfl

theorem readCategoryItems_eq_ok_iff {items : List Item} :
    readCategoryItems members = .ok items ↔ HasItems members items := by
  simp only [readCategoryItems, bind_eq_ok_iff, requiredElements_eq_ok_iff, readEach_eq_ok_iff,
    readItem_eq_ok_iff]
  rfl

/-- If the items are an array, its elements are read. -/
theorem readCategoryItems_of_array {elements : List Json}
    (h : members.get? "items" = some (.array elements)) :
    readCategoryItems members = readEach .item readItem 0 elements := by
  rw [readCategoryItems, requiredElements_eq_ok_iff.mpr h]
  rfl

/-- What is read of an object once its name and its kind are known. -/
def readCategoryOfKind (members : Members) (name : Option String) :
    Category.Kind → Except Error Category
  | .custom =>
    match name with
    | none => .error (.missingField "name")
    | some name => do return Category.custom name (← readCategoryItems members)
  | .tasks => do return Category.tasks (← readCategoryItems members)
  | .frequent => .ok Category.frequent
  | .recent => .ok Category.recent

theorem readCategory_eq (j : Json) :
    readCategory j = (do
      let members ← membersOf j
      let name ← optionalText members "name"
      if name = some "" then .error (.emptyField "name")
      else readCategoryOfKind members name (← readCategoryKind members name)) := rfl

/-- With a name and a kind that fit, the rest decides. -/
theorem readCategory_of_hasKind {name : Option String} {kind : Category.Kind}
    (hname : HasText members "name" name) (hne : name ≠ some "") (hkind : HasKind members name kind) :
    readCategory (.object members) = readCategoryOfKind members name kind := by
  rw [readCategory_eq]
  simp only [membersOf, bind, Except.bind, optionalText_eq_ok_iff.mpr hname, if_neg hne,
    readCategoryKind_eq_ok_iff.mpr hkind]

/-- A category is read by its name and its kind. -/
theorem readCategory_eq_ok_iff_kind {j : Json} {c : Category} :
    readCategory j = .ok c ↔ ∃ (members : Members) (name : Option String) (kind : Category.Kind),
      j = .object members ∧ HasText members "name" name ∧ name ≠ some "" ∧
      HasKind members name kind ∧ readCategoryOfKind members name kind = .ok c := by
  simp only [readCategory_eq, bind_eq_ok_iff, membersOf_eq_ok_iff, optionalText_eq_ok_iff]
  constructor
  · rintro ⟨members, hj, name, hname, hc⟩
    split at hc
    · cases hc
    · rename_i hne
      obtain ⟨kind, hkind, hc⟩ := bind_eq_ok_iff.mp hc
      exact ⟨members, name, kind, hj, hname, hne, readCategoryKind_eq_ok_iff.mp hkind, hc⟩
  · rintro ⟨members, name, kind, hj, hname, hne, hkind, hc⟩
    refine ⟨members, hj, name, hname, ?_⟩
    rw [if_neg hne]
    exact bind_eq_ok_iff.mpr ⟨kind, readCategoryKind_eq_ok_iff.mpr hkind, hc⟩

/-- A category is read exactly if the value describes it. -/
theorem readCategory_eq_ok_iff {j : Json} {c : Category} :
    readCategory j = .ok c ↔ DescribesCategory j c := by
  rw [readCategory_eq_ok_iff_kind]
  constructor
  · rintro ⟨members, name, kind, rfl, hname, hne, hkind, hc⟩
    cases kind with
    | custom =>
      cases name with
      | none => cases hc
      | some name =>
        obtain ⟨items, hitems, hc⟩ := bind_eq_ok_iff.mp hc
        obtain rfl := Except.ok.inj hc
        exact .custom ⟨hname, fun h => hne (congrArg some h)⟩ hkind
          (readCategoryItems_eq_ok_iff.mp hitems)
    | tasks =>
      obtain ⟨items, hitems, hc⟩ := bind_eq_ok_iff.mp hc
      obtain rfl := Except.ok.inj hc
      exact .tasks hname hne hkind (readCategoryItems_eq_ok_iff.mp hitems)
    | frequent =>
      obtain rfl := Except.ok.inj hc
      exact .frequent hname hne hkind
    | recent =>
      obtain rfl := Except.ok.inj hc
      exact .recent hname hne hkind
  · intro h
    cases h with
    | @custom members name items hname hkind hitems =>
      refine ⟨members, some name, .custom, rfl, hname.1, fun h => hname.2 (Option.some.inj h),
        hkind, ?_⟩
      exact bind_eq_ok_iff.mpr ⟨items, readCategoryItems_eq_ok_iff.mpr hitems, rfl⟩
    | tasks hname hne hkind hitems =>
      refine ⟨_, _, .tasks, rfl, hname, hne, hkind, ?_⟩
      exact bind_eq_ok_iff.mpr ⟨_, readCategoryItems_eq_ok_iff.mpr hitems, rfl⟩
    | frequent hname hne hkind => exact ⟨_, _, .frequent, rfl, hname, hne, hkind, rfl⟩
    | recent hname hne hkind => exact ⟨_, _, .recent, rfl, hname, hne, hkind, rfl⟩

/-! ## What is described is well-formed -/

/-- The path that a text spells is empty only if the text is. -/
theorem ofString_ne_empty {text : String} (h : text ≠ "") : Path.ofString text ≠ Path.empty := by
  intro hpath
  have hlossy : (Path.ofString text).lossy = "" := Path.lossy_eq_empty_iff.mpr hpath
  rw [Path.lossy_ofString] at hlossy
  exact h hlossy

theorem DescribesItem.wellFormed {j : Json} {item : Item} (h : DescribesItem j item) :
    item.WellFormed := by
  cases h with
  | task _ hprogram htitle => exact ⟨ofString_ne_empty hprogram.2, htitle.2⟩
  | separator => rfl
  | file _ hpath => exact ⟨ofString_ne_empty hpath.2, rfl⟩

theorem HasItems.wellFormed {items : List Item} (h : HasItems members items) :
    ∀ item ∈ items, item.WellFormed := by
  obtain ⟨elements, -, hall⟩ := h
  intro item hitem
  obtain ⟨j, -, hj⟩ := Dialogue.exists_of_mem_parts hall hitem
  exact hj.wellFormed

theorem DescribesCategory.wellFormed {j : Json} {c : Category} (h : DescribesCategory j c) :
    c.WellFormed := by
  cases h with
  | @custom _ name _ hname _ hitems =>
    exact ⟨fun _ => ⟨name, rfl, hname.2⟩, fun hk => absurd rfl hk, nofun, hitems.wellFormed⟩
  | tasks _ _ _ hitems => exact ⟨nofun, fun _ => rfl, nofun, hitems.wellFormed⟩
  | frequent => exact ⟨nofun, fun _ => rfl, fun _ => rfl, nofun⟩
  | recent => exact ⟨nofun, fun _ => rfl, fun _ => rfl, nofun⟩

/-! ## The format -/

theorem readList_eq_ok_iff {j : Json} {cs : List Category} :
    readCategories j = .ok cs ↔ DescribesList j cs := by
  have hcategory : (fun j c => readCategory j = .ok c) = DescribesCategory :=
    funext₂ fun _ _ => propext readCategory_eq_ok_iff
  cases j with
  | array elements =>
    show readEach .category readCategory 0 elements = .ok cs ↔ _
    rw [readEach_eq_ok_iff, hcategory]
    simp [DescribesList]
  | _ => simp [readCategories, DescribesList]

/-- A value is read as a list of categories exactly if it describes that list, and then every category
is well-formed. -/
theorem readCategories_eq_ok_iff (j : Json) (cs : List Category) :
    (readCategories j = .ok cs ↔ DescribesList j cs) ∧
      (readCategories j = .ok cs → ∀ c ∈ cs, c.WellFormed) := by
  refine ⟨readList_eq_ok_iff, fun hread c hc => ?_⟩
  obtain ⟨elements, -, hall⟩ := readList_eq_ok_iff.mp hread
  obtain ⟨j, -, hj⟩ := Dialogue.exists_of_mem_parts hall hc
  exact hj.wellFormed

/-- A category without a type and with a name that is null holds tasks; an index without an icon is not
looked at. -/
example :
    readCategories (.array [.object
        [("items", .array [.object
          [("iconIndex", .null), ("program", .string "tool"), ("title", .string "Run"),
            ("type", .string "task")]]),
          ("name", .null)]]) =
      .ok [Category.tasks [Item.task (Path.ofString "tool") "Run"]] := rfl

end Format

end JumpList
