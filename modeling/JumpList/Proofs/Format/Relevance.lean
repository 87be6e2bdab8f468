/-
# JumpList.Proofs.Format.Relevance — what reading does not look at.

An object may hold any fields besides those that an item or a category is made of, and a text field
that is null may as well be missing.  Which fields count depends on the object itself: on its type,
and for the index of an icon on whether there is an icon (`itemTexts`, `itemOthers`,
`categoryOthers`).

Objects that agree in the fields that count are read alike, accepted as the same or rejected with the
same error, and so are lists of them (`SameArray`).  Hence no edit of a field that does not count makes
a difference, wherever in a list it is made (`Edited`).  `reading_ignores_other_fields` puts this
together.
-/
import JumpList.Proofs.Format.Grammar

namespace JumpList

open Json (Members)

/-! ## Taking a member out -/

/-- The members without `key`. -/
def Json.Members.without (key : String) (members : Members) : Members :=
  members.filter fun m => m.1 != key

theorem Json.Members.get?_without_self (members : Members) (key : String) :
    (members.without key).get? key = none := by
  refine List.lookup_eq_none_iff.mpr fun m hm => ?_
  have hne : m.1 ≠ key := by simpa using (List.mem_filter.mp hm).2
  simpa using hne.symm

theorem Json.Members.get?_without_of_ne {key other : String} (h : other ≠ key) (members : Members) :
    (members.without key).get? other = members.get? other := by
  induction members with
  | nil => rfl
  | cons m rest ih =>
    obtain ⟨k, v⟩ := m
    simp only [without, get?, List.filter_cons, List.lookup_cons] at ih ⊢
    by_cases hk : k = key
    · subst hk
      have hother : (other == k) = false := by simpa using h
      simpa [hother] using ih
    · simp [hk, List.lookup_cons, ih]

namespace Format

variable {a b members : Members} {field : String}

/-! ## The fields that count -/

/-- What an object says in a text field: null says as little as a missing field. -/
def said? (members : Members) (field : String) : Option Json :=
  match members.get? field with
  | some .null => none
  | value => value

/-- Two objects agree: in some text fields up to null, and in some other fields altogether. -/
structure Agree (texts others : List String) (a b : Members) : Prop where
  text : ∀ field ∈ texts, said? a field = said? b field
  other : ∀ field ∈ others, a.get? field = b.get? field

/-- The text fields that an item is made of. -/
def itemTexts (members : Members) : List String :=
  match members.get? "type" with
  | some (.string "task") => ["program", "title", "arguments", "description", "iconPath"]
  | some (.string "file") => ["path"]
  | _ => []

/-- The other fields that an item is made of: a task with an icon has an index. -/
def itemOthers (members : Members) : List String :=
  match members.get? "type", members.get? "iconPath" with
  | some (.string "task"), some (.string _) => ["type", "iconIndex"]
  | _, _ => ["type"]

/-- The fields besides the name that a category is made of: one that the shell fills, or that is of no
known type, has no items. -/
def categoryOthers (members : Members) : List String :=
  match members.get? "type" with
  | none | some (.string "tasks") | some (.string "custom") => ["type", "items"]
  | _ => ["type"]

theorem type_mem_itemOthers (members : Members) : "type" ∈ itemOthers members := by
  unfold itemOthers
  split <;> simp

theorem type_mem_categoryOthers (members : Members) : "type" ∈ categoryOthers members := by
  unfold categoryOthers
  split <;> simp

/-! ## Values that are read alike -/

/-- Values that stand for the same item, or are rejected with the same error. -/
inductive SameItem : Json → Json → Prop
  | refl (j : Json) : SameItem j j
  | object {a b : Members} : Agree (itemTexts a) (itemOthers a) a b →
      SameItem (.object a) (.object b)

/-- The same value, or arrays whose elements are the same one by one. -/
inductive SameArray (same : Json → Json → Prop) : Json → Json → Prop
  | refl (j : Json) : SameArray same j j
  | array {xs ys : List Json} : List.Forall₂ same xs ys → SameArray same (.array xs) (.array ys)

/-- Values that stand for the same category, or are rejected with the same error.  Where there are
items, these may differ in what does not count in an item. -/
inductive SameCategory : Json → Json → Prop
  | refl (j : Json) : SameCategory j j
  | object {a b : Members} : Agree ["name"] ["type"] a b →
      ("items" ∈ categoryOthers a →
        Option.Rel (SameArray SameItem) (a.get? "items") (b.get? "items")) →
      SameCategory (.object a) (.object b)

/-! ## Fields -/

/-- A text field is read as if it were the only one, and as if it were missing if it is null. -/
theorem optionalText_eq_said? (members : Members) (field : String) :
    optionalText members field =
      optionalText ((said? members field).toList.map fun j => (field, j)) field := by
  unfold optionalText said?
  cases members.get? field with
  | none => rfl
  | some j => cases j <;> simp [Members.get?]

theorem optionalText_congr (h : said? a field = said? b field) :
    optionalText a field = optionalText b field := by
  rw [optionalText_eq_said? a, optionalText_eq_said? b, h]

theorem requiredText_congr (h : said? a field = said? b field) :
    requiredText a field = requiredText b field := by
  rw [requiredText, requiredText, optionalText_congr h]

theorem requiredIndex_congr (h : a.get? field = b.get? field) :
    requiredIndex a field = requiredIndex b field := by
  rw [requiredIndex, requiredIndex, h]

/-! ## Items -/

/-- Tasks that agree are read alike; without an icon no index is looked at. -/
theorem readTask_congr
    (htext : ∀ field ∈ ["program", "title", "arguments", "description", "iconPath"],
      said? a field = said? b field)
    (hindex : ∀ icon, a.get? "iconPath" = some (.string icon) →
      a.get? "iconIndex" = b.get? "iconIndex") : readTask a = readTask b := by
  have hicon : optionalText a "iconPath" = optionalText b "iconPath" :=
    optionalText_congr (htext _ (by simp))
  rw [readTask, readTask, requiredText_congr (htext "program" (by simp)),
    requiredText_congr (htext "title" (by simp)), optionalText_congr (htext "arguments" (by simp)),
    optionalText_congr (htext "description" (by simp)), ← hicon]
  refine bind_congr fun program => bind_congr fun title => ?_
  refine bind_congr fun arguments => bind_congr fun description => ?_
  -- The index is looked at behind the icon, so its agreement is needed only if there is one.
  cases h : optionalText a "iconPath" with
  | error e => rfl
  | ok icon =>
    cases icon with
    | none => rfl
    | some icon =>
      have hget : a.get? "iconPath" = some (.string icon) := optionalText_eq_ok_iff.mp h
      show (requiredIndex a "iconIndex" >>= _) = requiredIndex b "iconIndex" >>= _
      rw [requiredIndex_congr (hindex icon hget)]

/-- The kind of item that a type field holds. -/
def readItemKind (type : Option Json) : Except Error Item.Kind := do
  readKind itemKind? (← type.elim (.error (.missingField "type")) .ok)

theorem readItem_object (members : Members) :
    readItem (.object members) = readItemKind (members.get? "type") >>= readOfKind members := by
  rw [readItem_eq, readItemKind, bind_assoc]
  rfl

theorem readItemKind_eq_ok_iff {type : Option Json} {kind : Item.Kind} :
    readItemKind type = .ok kind ↔ type = some (.string (itemTypeName kind)) := by
  cases type with
  | none => simp [readItemKind, bind, Except.bind]
  | some type =>
    rw [Option.some.injEq, ← readKind_eq_ok_iff itemKind?_eq_some_iff]
    rfl

theorem readOfKind_congr {kind : Item.Kind}
    (htype : a.get? "type" = some (.string (itemTypeName kind)))
    (h : Agree (itemTexts a) (itemOthers a) a b) : readOfKind a kind = readOfKind b kind := by
  obtain ⟨htext, hother⟩ := h
  cases kind with
  | task =>
    refine readTask_congr ?_ fun icon hicon => ?_
    · simpa [itemTexts, htype, itemTypeName] using htext
    · exact hother "iconIndex" (by simp [itemOthers, htype, hicon, itemTypeName])
  | separator => rfl
  | file =>
    have hpath : said? a "path" = said? b "path" :=
      htext "path" (by simp [itemTexts, htype, itemTypeName])
    rw [readOfKind, readOfKind, requiredText_congr hpath]

/-- Objects that agree in what an item is made of are read alike. -/
theorem readItem_congr (h : Agree (itemTexts a) (itemOthers a) a b) :
    readItem (.object a) = readItem (.object b) := by
  have htype : a.get? "type" = b.get? "type" := h.other "type" (type_mem_itemOthers a)
  rw [readItem_object, readItem_object, ← htype]
  cases hk : readItemKind (a.get? "type") with
  | error e => rfl
  | ok kind => exact readOfKind_congr (readItemKind_eq_ok_iff.mp hk) h

theorem SameItem.readItem_eq {j j' : Json} (h : SameItem j j') : readItem j = readItem j' := by
  cases h with
  | refl => rfl
  | object h => exact readItem_congr h

/-! ## Arrays -/

theorem readEach_congr {α : Type} {place : Nat → Error → Error} {read : Json → Except Error α}
    {xs ys : List Json} (h : List.Forall₂ (fun x y => read x = read y) xs ys) (index : Nat) :
    readEach place read index xs = readEach place read index ys := by
  induction h generalizing index with
  | nil => rfl
  | cons hread _ ih => rw [readEach, readEach, hread, ih]

theorem readCategoryItems_of_get?_eq (h : a.get? "items" = b.get? "items") :
    readCategoryItems a = readCategoryItems b := by
  rw [readCategoryItems, readCategoryItems, requiredElements, requiredElements, h]

/-- The items of a category are read alike if they are the same one by one. -/
theorem readCategoryItems_congr
    (h : Option.Rel (SameArray SameItem) (a.get? "items") (b.get? "items")) :
    readCategoryItems a = readCategoryItems b := by
  -- The relation speaks of what is looked up; with names for that its cases can be told apart.
  generalize ha : a.get? "items" = items at h
  generalize hb : b.get? "items" = items' at h
  cases h with
  | none => exact readCategoryItems_of_get?_eq (ha.trans hb.symm)
  | some h =>
    cases h with
    | refl j => exact readCategoryItems_of_get?_eq (ha.trans hb.symm)
    | array hall =>
      rw [readCategoryItems_of_array ha, readCategoryItems_of_array hb]
      exact readEach_congr (hall.imp fun _ _ h => h.readItem_eq) 0

/-! ## Categories -/

/-- A category that the shell does not fill has items that count. -/
theorem items_mem_categoryOthers {name : Option String} {kind : Category.Kind}
    (h : HasKind members name kind) (hkind : kind = .custom ∨ kind = .tasks) :
    "items" ∈ categoryOthers members := by
  rcases hkind with rfl | rfl
  · cases h with
    | given htype => simp [categoryOthers, htype, categoryTypeName]
    | named htype => simp [categoryOthers, htype]
  · cases h with
    | given htype => simp [categoryOthers, htype, categoryTypeName]
    | unnamed htype => simp [categoryOthers, htype]

theorem readCategoryOfKind_congr {name : Option String} {kind : Category.Kind}
    (hkind : HasKind a name kind) (hitems : "items" ∈ categoryOthers a →
      Option.Rel (SameArray SameItem) (a.get? "items") (b.get? "items")) :
    readCategoryOfKind a name kind = readCategoryOfKind b name kind := by
  cases kind with
  | custom =>
    have heq := readCategoryItems_congr (hitems (items_mem_categoryOthers hkind (.inl rfl)))
    cases name with
    | none => rfl
    | some name => rw [readCategoryOfKind, readCategoryOfKind, heq]
  | tasks =>
    have heq := readCategoryItems_congr (hitems (items_mem_categoryOthers hkind (.inr rfl)))
    rw [readCategoryOfKind, readCategoryOfKind, heq]
  | frequent => rfl
  | recent => rfl

/-- Values that are the same category are read alike. -/
theorem SameCategory.readCategory_eq {j j' : Json} (h : SameCategory j j') :
    readCategory j = readCategory j' := by
  cases h with
  | refl => rfl
  | @object a b hagree hitems =>
    have htype : a.get? "type" = b.get? "type" := hagree.other "type" (by simp)
    have hname : optionalText a "name" = optionalText b "name" :=
      optionalText_congr (hagree.text "name" (by simp))
    have hkinds : ∀ name, readCategoryKind a name = readCategoryKind b name := fun name => by
      rw [readCategoryKind, readCategoryKind, htype]
    rw [Format.readCategory_eq, Format.readCategory_eq]
    show (optionalText a "name" >>= _) = optionalText b "name" >>= _
    rw [hname]
    refine bind_congr fun name => ?_
    split
    · rfl
    · -- Both have one kind or the same error, and the kind says whether the items count.
      rw [← hkinds]
      cases hk : readCategoryKind a name with
      | error e => rfl
      | ok kind => exact readCategoryOfKind_congr (readCategoryKind_eq_ok_iff.mp hk) hitems

/-- Objects that agree in everything that a category is made of are the same category. -/
theorem SameCategory.of_agree (h : Agree ["name"] (categoryOthers a) a b) :
    SameCategory (.object a) (.object b) := by
  have htype := h.other "type" (type_mem_categoryOthers a)
  refine .object ⟨h.text, by simpa using htype⟩ fun hitems => ?_
  rw [h.other "items" hitems]
  cases b.get? "items" with
  | none => exact .none
  | some j => exact .some (.refl j)

theorem readCategories_congr {j j' : Json} (h : SameArray SameCategory j j') :
    readCategories j = readCategories j' := by
  cases h with
  | refl => rfl
  | array hall => exact readEach_congr (hall.imp fun _ _ h => h.readCategory_eq) 0

/-! ## Edits -/

/-- An edit of one field of an object, given the fields that count: another field is put in, changed
or taken out, or a text field that is missing becomes null or the other way round. -/
inductive Retouched (texts others : List String) (a : Members) : Members → Prop
  | put {key : String} (value : Json) : key ∉ texts → key ∉ others →
      Retouched texts others a (a.put key value)
  | takeOut {key : String} : key ∉ texts → key ∉ others →
      Retouched texts others a (a.without key)
  | nullify {key : String} : key ∉ others → a.get? key = none →
      Retouched texts others a (a.put key .null)
  | unnullify {key : String} : key ∉ others → a.get? key = some .null →
      Retouched texts others a (a.without key)

theorem said?_of_get? (h : a.get? field = b.get? field) : said? a field = said? b field := by
  rw [said?, said?, h]

/-- No edit is seen in the fields that count. -/
theorem Retouched.agree {texts others : List String} (h : Retouched texts others a b) :
    Agree texts others a b := by
  cases h with
  | @put key value htexts hothers =>
    have hget : ∀ field, field ≠ key → a.get? field = (a.put key value).get? field :=
      fun field hne => (Members.get?_put_of_ne hne a value).symm
    exact ⟨fun field hf => said?_of_get? (hget field (ne_of_mem_of_not_mem hf htexts)),
      fun field hf => hget field (ne_of_mem_of_not_mem hf hothers)⟩
  | @takeOut key htexts hothers =>
    have hget : ∀ field, field ≠ key → a.get? field = (a.without key).get? field :=
      fun field hne => (Members.get?_without_of_ne hne a).symm
    exact ⟨fun field hf => said?_of_get? (hget field (ne_of_mem_of_not_mem hf htexts)),
      fun field hf => hget field (ne_of_mem_of_not_mem hf hothers)⟩
  | @nullify key hothers hnone =>
    have hget : ∀ field, field ≠ key → a.get? field = (a.put key .null).get? field :=
      fun field hne => (Members.get?_put_of_ne hne a .null).symm
    refine ⟨fun field _ => ?_, fun field hf => hget field (ne_of_mem_of_not_mem hf hothers)⟩
    by_cases hfield : field = key
    · subst hfield
      rw [said?, said?, hnone, Members.get?_put_self]
    · exact said?_of_get? (hget field hfield)
  | @unnullify key hothers hnull =>
    have hget : ∀ field, field ≠ key → a.get? field = (a.without key).get? field :=
      fun field hne => (Members.get?_without_of_ne hne a).symm
    refine ⟨fun field _ => ?_, fun field hf => hget field (ne_of_mem_of_not_mem hf hothers)⟩
    by_cases hfield : field = key
    · subst hfield
      rw [said?, said?, hnull, Members.get?_without_self]
    · exact said?_of_get? (hget field hfield)

/-- An edit of one object in a list of categories: of a category, or of an item in a category. -/
inductive Edited : Json → Json → Prop
  | category {before after : List Json} {a b : Members} :
      Retouched ["name"] (categoryOthers a) a b →
      Edited (.array (before ++ .object a :: after)) (.array (before ++ .object b :: after))
  | item {before after xs ys : List Json} {category a b : Members} :
      category.get? "items" = some (.array (xs ++ .object a :: ys)) →
      Retouched (itemTexts a) (itemOthers a) a b →
      Edited (.array (before ++ .object category :: after))
        (.array (before ++
          .object (category.put "items" (.array (xs ++ .object b :: ys))) :: after))

/-- Arrays that differ in one element are the same if those elements are. -/
theorem SameArray.replace {same : Json → Json → Prop} (hrefl : ∀ j, same j j) {j j' : Json}
    (h : same j j') (before after : List Json) :
    SameArray same (.array (before ++ j :: after)) (.array (before ++ j' :: after)) := by
  have hself : ∀ js : List Json, List.Forall₂ same js js := fun js =>
    List.forall₂_same.mpr fun j _ => hrefl j
  exact .array (List.rel_append (hself before) (.cons h (hself after)))

theorem Edited.same {j j' : Json} (h : Edited j j') : SameArray SameCategory j j' := by
  cases h with
  | @category before after a b hretouched =>
    exact .replace .refl (.of_agree hretouched.agree) before after
  | @item before after xs ys category a b hitems hretouched =>
    -- The category gets its items anew, so it agrees with itself in every other field.
    refine .replace .refl (.object ⟨?_, ?_⟩ fun _ => ?_) before after
    · intro field hf
      have hne : field ≠ "items" := by simp_all
      exact said?_of_get? (Members.get?_put_of_ne hne category _).symm
    · intro field hf
      have hne : field ≠ "items" := by simp_all
      exact (Members.get?_put_of_ne hne category _).symm
    · rw [hitems, Members.get?_put_self]
      exact .some (.replace .refl (.object hretouched.agree) xs ys)

/-- Reading sees only the fields that an object of its type is made of, and no difference between null
and a missing text.  Objects that agree in them are the same item or the same category, or rejected
with the same error; lists of categories that agree so are read alike; and in particular no edit of
other fields, wherever in a list, makes a difference. -/
theorem reading_ignores_other_fields :
    (∀ a b : Members, Agree (itemTexts a) (itemOthers a) a b →
        readItem (.object a) = readItem (.object b)) ∧
      (∀ a b : Members, Agree ["name"] (categoryOthers a) a b →
        readCategory (.object a) = readCategory (.object b)) ∧
      (∀ j j', SameArray SameCategory j j' → readCategories j = readCategories j') ∧
      ∀ j j', Edited j j' → readCategories j = readCategories j' :=
  ⟨fun _ _ h => readItem_congr h, fun _ _ h => (SameCategory.of_agree h).readCategory_eq,
    fun _ _ h => readCategories_congr h, fun _ _ h => readCategories_congr h.same⟩

/-- A description that is null and the path of a file make no difference to a task. -/
example :
    readItem (.object [("description", .null), ("path", .string ""), ("program", .string "tool"),
        ("title", .string "Run"), ("type", .string "task")]) =
      readItem (.object [("program", .string "tool"), ("title", .string "Run"),
        ("type", .string "task")]) := rfl

end Format

end JumpList
