/-
# JumpList.Proofs.Append.Meaning — fields without a meaning.

Items and categories have fields that mean nothing on their kind, and some that mean the same whatever
they hold: the icon index without an icon, an icon path or a name that is empty instead of missing.
`bare` leaves all of that out.

Bare categories are put on the list by the same calls: the two dialogues differ in their records alone
(`unheard_appendCategories_map_bare`).  So lists of categories that are the same when they are bare cannot
be told apart by any shell (`appendCategories_ignores_meaningless`).
-/
import JumpList.Proofs.Append.Course
import JumpList.Shell.Configured

namespace JumpList

open Native

/-! ## What is left out -/

/-- The item without what means nothing.  A task keeps its icon if that has a path, a separator keeps
nothing but its kind, and a file its path. -/
def Item.bare (item : Item) : Item :=
  match item.kind with
  | .task =>
    let iconPath := item.iconPath.filter fun path => !path.isEmpty
    { item with iconPath, iconIndex := if iconPath.isSome then item.iconIndex else 0 }
  | .separator => Item.separator
  | .file => Item.file item.path

/-- The category without what means nothing.  Only a custom category has a name, if only an empty one, and
a category that the shell fills has no items. -/
def Category.bare (c : Category) : Category :=
  match c.kind with
  | .tasks => ⟨.tasks, none, c.items.map Item.bare⟩
  | .custom => ⟨.custom, some (c.name.getD ""), c.items.map Item.bare⟩
  | .frequent => ⟨.frequent, none, []⟩
  | .recent => ⟨.recent, none, []⟩

/-! ## Items -/

@[simp] theorem Item.kind_bare (item : Item) : item.bare.kind = item.kind := by
  cases h : item.kind <;> simp [bare, h, Item.separator, Item.file]

/-- The shell is told of the same icon. -/
theorem Item.icon?_bare {item : Item} (h : item.kind = .task) : item.bare.icon? = item.icon? := by
  rw [bare, h]
  unfold icon?
  rcases item.iconPath with _ | path
  · rfl
  · by_cases hpath : path.isEmpty <;> simp [Option.filter, hpath]

/-- A bare item stands for the same object. -/
@[simp] theorem Item.object_bare (item : Item) : item.bare.object = item.object := by
  cases h : item.kind with
  | task =>
    have hicon := icon?_bare h
    simp only [object, kind_bare, h, taskLink, hicon]
    simp [bare, h]
  | separator => simp [object, h]
  | file => simp [object, h, bare, Item.file]

/-! ## Categories -/

@[simp] theorem Native.unheard_note (record : Log.Record) :
    (note record).unheard = (pure () : Talk Unit) := rfl

namespace Category

theorem refuses_bare {c c' : Category} (hk : c'.kind = c.kind) (item : Item) :
    c'.refuses item.bare = c.refuses item := by
  simp [refuses, hk]

/-- Bare items are gathered by the same calls. -/
theorem unheard_gather_map_bare {c c' : Category} (hk : c'.kind = c.kind) (items : List Item)
    (g : Gathering) :
    (c'.gather (items.map Item.bare) g).unheard = (c.gather items g).unheard := by
  induction items generalizing g with
  | nil => rfl
  | cons item items ih =>
    have hrefuses := refuses_bare hk item
    rw [List.map_cons]
    by_cases hr : c.refuses item
    · rw [hr] at hrefuses
      simp only [gather, hrefuses, hr, ↓reduceIte, Dialogue.unheard_bind, unheard_note, pure_bind, ih]
    · have hadd := g.collection.add_congr item.object_bare
      rw [Bool.not_eq_true] at hr
      rw [hr] at hrefuses
      simp only [gather, hrefuses, hr, Bool.false_eq_true, ↓reduceIte, Dialogue.unheard_bind, hadd]
      congr 1
      funext added
      obtain ⟨f | ⟨⟨⟩⟩, collection⟩ := added
      · simp only [Dialogue.unheard_bind, unheard_note, pure_bind, ih]
      · simp only [ih]

/-- What was gathered is handed over by the same calls; a name that is not told makes no difference. -/
theorem unheard_handOver_congr {c c' : Category} (hk : c'.kind = c.kind)
    (hlength : c'.items.length = c.items.length)
    (hname : c.kind ≠ .tasks → c'.nameOrEmpty = c.nameOrEmpty) (g : Gathering) :
    (c'.handOver g).unheard = (c.handOver g).unheard := by
  unfold handOver
  rw [hk, hlength]
  by_cases hzero : g.built == 0
  · simp only [hzero, ↓reduceIte]
  · by_cases htasks : c.kind = .tasks
    · simp only [hzero, htasks, beq_self_eq_true, Bool.false_eq_true, ↓reduceIte,
        Dialogue.unheard_bind, unheard_note]
    · simp only [hname htasks]

/-- A category that is not the shell's own is appended by the same calls when its items are bare. -/
theorem unheard_append_congr {c c' : Category} (hkind : c'.kind = c.kind)
    (hown : c.kind.known? = none) (hitems : c'.items = c.items.map Item.bare)
    (hname : c.kind ≠ .tasks → c'.nameOrEmpty = c.nameOrEmpty) :
    c'.append.unheard = c.append.unheard := by
  by_cases hi : c.items = []
  · simp [append, hitems, hi]
  have hown' : c'.kind.known? = none := by rw [hkind, hown]
  have hi' : c'.items ≠ [] := by simpa [hitems] using hi
  have hlength : c'.items.length = c.items.length := by rw [hitems, List.length_map]
  rw [append_eq hown hi, append_eq hown' hi']
  simp only [Dialogue.unheard_bind]
  congr 1
  funext reply
  rcases reply with f | ⟨⟨⟩⟩
  · rfl
  · simp only [Dialogue.unheard_bind, hitems, unheard_gather_map_bare hkind,
      unheard_handOver_congr hkind hlength hname]

/-- A bare category is put on the list by the same calls. -/
theorem unheard_place_bare (c : Category) : c.bare.place.unheard = c.place.unheard := by
  obtain ⟨kind, name, items⟩ := c
  cases kind with
  | tasks =>
    exact unheard_append_congr (c := ⟨.tasks, name, items⟩) rfl rfl rfl fun h => absurd rfl h
  | custom => exact unheard_append_congr (c := ⟨.custom, name, items⟩) rfl rfl rfl fun _ => rfl
  | frequent => rfl
  | recent => rfl

end Category

/-! ## All categories -/

theorem unheard_placeAll_map_bare (outcome : Outcome) (cs : List Category) :
    (placeAll outcome (cs.map Category.bare)).unheard = (placeAll outcome cs).unheard := by
  induction cs generalizing outcome with
  | nil => rfl
  | cons c cs ih =>
    simp only [List.map_cons, placeAll, Dialogue.unheard_bind, Category.unheard_place_bare, ih]

/-- Bare categories are appended by the same calls. -/
theorem unheard_appendCategories_map_bare (cs : List Category) :
    (appendCategories (cs.map Category.bare)).unheard = (appendCategories cs).unheard := by
  simp only [appendCategories, Dialogue.unheard_bind, unheard_placeAll_map_bare, List.length_map]

/-- Lists of categories that are the same but for what means nothing cannot be told apart by any shell:
the calls, the answers to them and the outcome are the same, and so is what the shell is left with. -/
theorem appendCategories_ignores_meaningless {cs cs' : List Category}
    (h : cs.map Category.bare = cs'.map Category.bare) {σ : Type} (answer : Shell σ) (s : σ) :
    let r := (appendCategories cs).run answer s
    let r' := (appendCategories cs').run answer s
    r.events = r'.events ∧ r.state = r'.state ∧ r.value = r'.value := by
  have hsame : (appendCategories cs).unheard = (appendCategories cs').unheard := by
    rw [← unheard_appendCategories_map_bare cs, h, unheard_appendCategories_map_bare cs']
  exact Dialogue.run_of_unheard_eq hsame answer s

open JumpList.Shell (Configuration)

/-- Two lists that differ wherever a field means nothing, on a shell that refuses a title and a custom
category. -/
theorem appendCategories_ignores_meaningless_of_refusals :
    let cfg : Configuration :=
      { Configuration.faultless with
        failingLinkTitles := ["Run"]
        appendCategoryErrors := [("", Status.accessDenied)] }
    let tool := Path.ofString "tool"
    let cs : List Category :=
      [⟨.tasks, none, [Item.task tool "Run", Item.task tool "Open", .separator]⟩, .recent,
        ⟨.custom, some "", [.file tool]⟩]
    let cs' : List Category :=
      [⟨.tasks, some "Tasks", [Item.task tool "Run", (Item.task tool "Open").withIcon Path.empty 7,
          { Item.separator with path := tool, title := "line" }]⟩,
        ⟨.recent, some "Recent", [.separator]⟩,
        ⟨.custom, none, [{ Item.file tool with arguments := "-v", iconIndex := 3 }]⟩]
    let r := (appendCategories cs).run Configuration.answer cfg
    let r' := (appendCategories cs').run Configuration.answer cfg
    cs.map Category.bare = cs'.map Category.bare ∧ r.events = r'.events ∧
      r.value = .categoryDenied ∧ r'.value = .categoryDenied := by
  intro cfg tool cs cs' r r'
  have hbare : cs.map Category.bare = cs'.map Category.bare := by decide
  obtain ⟨hevents, -, hvalue⟩ :=
    appendCategories_ignores_meaningless hbare Configuration.answer cfg
  have hdenied : r.value = .categoryDenied := by decide
  exact ⟨hbare, hevents, hdenied, hvalue.symm.trans hdenied⟩

end JumpList
