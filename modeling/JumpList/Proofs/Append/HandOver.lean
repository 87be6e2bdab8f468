/-
# JumpList.Proofs.Append.HandOver — what reaches the list is what was declared, minus what failed.

The shell is asked to put something on the list by three calls, and the objects that two of them carry are
known: one for each item that was tried and built, in the order of the items, each with the item's own
properties (`Item.object`), and with an icon exactly if the item shows one.  `appendCategories_handOvers`
says so of every list of categories: its run consists of one part for each category, in order, and each
part is one of the ways in which the category can go.

A list that keeps account of the calls on it (`listCalls`) is told nothing of the objects while they are
built: all that it sees of a category is the creation of the collection and then these calls
(`Course.listCalls_eq`).
-/
import JumpList.Proofs.Append.Course
import JumpList.Shell.Configured

namespace JumpList

open Native

/-! ## Objects -/

/-- Whether an object is a line between entries. -/
def Native.Object.isSeparator : Object → Bool
  | .link shellLink => shellLink.separator
  | .file _ => false

/-- A separator stands for a line, and nothing else does. -/
theorem Item.isSeparator_object (item : Item) :
    item.object.isSeparator = true ↔ item.kind = .separator := by
  unfold Item.object
  cases item.kind with
  | task => simp [Object.isSeparator, Item.taskLink]
  | separator => simp [Object.isSeparator, Item.separatorLink]
  | file => simp [Object.isSeparator]

/-- The object of a task is a link with the icon that the task shows. -/
theorem Item.exists_object_eq_link {item : Item} (hk : item.kind = .task) :
    ∃ link, item.object = .link link ∧
      ∀ path index, link.icon = some (path, index) ↔ item.ShowsIcon path index := by
  refine ⟨item.taskLink, ?_, fun path index => Item.icon_taskLink_eq_some_iff⟩
  simp only [Item.object, hk]

/-- Nothing but the objects of the items is in the collection. -/
theorem exists_of_mem_realizedAll {items : List Item} {tries : List Item.Try} {object : Object}
    (h : object ∈ realizedAll items tries) : ∃ item ∈ items, object = item.object := by
  induction items generalizing tries with
  | nil => simp [realizedAll] at h
  | cons item items ih =>
    cases tries with
    | nil => simp [realizedAll] at h
    | cons tried tries =>
      rw [realizedAll_cons] at h
      rcases List.mem_append.mp h with h | h
      · refine ⟨item, List.mem_cons_self, ?_⟩
        rcases hr : tried.2 with f | ⟨⟩
        · simp [hr, Item.realized] at h
        · simpa [hr, Item.realized] using h
      · obtain ⟨other, hmem, rfl⟩ := ih h
        exact ⟨other, List.mem_cons_of_mem _ hmem, rfl⟩

/-! ## Calls on the list -/

/-- The calls among events that are on the list itself or make a collection. -/
def listCalls (es : List Event) : List Call := (es.map Sigma.fst).filter Shell.concernsList

theorem listCalls_append (xs ys : List Event) :
    listCalls (xs ++ ys) = listCalls xs ++ listCalls ys := by
  simp [listCalls]

/-- No call of a script is on the list. -/
theorem Item.script_not_concernsList (item : Item) :
    ∀ c ∈ item.script, Shell.concernsList c = false := by
  unfold Item.script
  cases item.kind with
  | task => cases item.icon? <;> simp [Shell.concernsList]
  | separator => simp [Shell.concernsList]
  | file => simp [Shell.concernsList]

/-- Building items asks nothing of the list. -/
theorem listCalls_tries {items : List Item} {tries : List Item.Try}
    (h : Item.TriesAll items tries) : listCalls (tries.flatMap Prod.fst) = [] := by
  refine List.filter_eq_nil_iff.mpr fun c hc => ?_
  obtain ⟨e, he, rfl⟩ := List.mem_map.mp hc
  rw [h.forall_calls Item.script_not_concernsList e he]
  exact Bool.false_ne_true

namespace Category

/-- The call by which a category gets its collection, if it is to have one. -/
def collects (c : Category) : List Call :=
  if c.kind.known? = none ∧ c.items ≠ [] then [.createObjectCollection] else []

/-- A custom category tries no separator. -/
theorem not_separator_of_mem_attempted {c : Category} (hk : c.kind = .custom) {item : Item}
    (h : item ∈ c.attempted) : item.kind ≠ .separator := by
  have hr := (List.mem_filter.mp h).2
  intro hsep
  simp [refuses, hk, hsep, Kind.admitsSeparators] at hr

namespace Course

variable {c : Category} {es : List Event} {calls : List Call} {outcome : Outcome}

/-- The calls on the list are the one by which the category gets its collection, and those that put
something on the list. -/
theorem listCalls_eq (h : c.Course es calls outcome) : listCalls es = c.collects ++ calls := by
  -- What comes after the collection was created.
  have created {rest : List Event} (hk : c.kind.known? = none) (hi : c.items ≠ []) :
      listCalls (⟨.createObjectCollection, .ok ()⟩ :: rest) = c.collects ++ listCalls rest := by
    rw [collects, if_pos ⟨hk, hi⟩]
    rfl
  cases h with
  | known reply hk =>
    rw [collects, if_neg (by simp [hk])]
    rfl
  | empty hk hi =>
    rw [collects, if_neg (by simp [hi])]
    rfl
  | uncollected f hk hi =>
    rw [collects, if_pos ⟨hk, hi⟩]
    rfl
  | unbuilt hk hi ht ho => rw [created hk hi, listCalls_tries ht]
  | tasks reply hk hi ht ho =>
    rw [created (by rw [hk]; rfl) hi, listCalls_append, listCalls_tries ht]
    rfl
  | custom reply hk hi ht ho =>
    rw [created (by rw [hk]; rfl) hi, listCalls_append, listCalls_tries ht]
    rfl

/-- A category that the shell does not fill is handed over if and only if an item of it was added to
its collection. -/
theorem handsOver_iff (h : c.Course es calls outcome) (hk : c.kind.known? = none) :
    calls ≠ [] ↔ ∃ e ∈ es, e.1.adds ∧ e.succeeded := by
  -- What was handed over was added before, after the collection was created.
  have added {tries : List Item.Try} {first last : Event} (ht : Item.TriesAll c.attempted tries)
      (ho : c.objects tries ≠ []) :
      ∃ e ∈ first :: (tries.flatMap Prod.fst ++ [last]), e.1.adds ∧ e.succeeded := by
    obtain ⟨e, hmem, he⟩ := ht.realizedAll_ne_nil_iff.mp ho
    exact ⟨e, List.mem_cons_of_mem _ (List.mem_append_left _ hmem), he⟩
  cases h with
  | known reply hknown => simp [hk] at hknown
  | empty => simp
  | uncollected f => simp
  | unbuilt _ hi ht ho =>
    have hnone := ht.realizedAll_ne_nil_iff.not.mp (not_not_intro ho)
    simpa [Call.adds] using hnone
  | tasks reply hkind hi ht ho => exact iff_of_true (List.cons_ne_nil _ _) (added ht ho)
  | custom reply hkind hi ht ho => exact iff_of_true (List.cons_ne_nil _ _) (added ht ho)

/-- A custom category is handed over with something in it, and without a separator. -/
theorem of_appendCategory (h : c.Course es calls outcome) {name : String} {objects : Collection}
    (hmem : .appendCategory name objects ∈ calls) :
    objects ≠ [] ∧ ∀ object ∈ objects, object.isSeparator = false := by
  cases h with
  | known reply hknown => simp at hmem
  | empty => simp at hmem
  | uncollected f => simp at hmem
  | unbuilt => simp at hmem
  | tasks reply => simp at hmem
  | custom reply hkind hi ht ho =>
    obtain ⟨rfl, rfl⟩ : name = c.nameOrEmpty ∧ objects = c.objects _ := by simpa using hmem
    refine ⟨ho, ?_⟩
    intro object hobject
    obtain ⟨item, hitem, rfl⟩ := exists_of_mem_realizedAll hobject
    have hsep := not_separator_of_mem_attempted hkind hitem
    simpa using mt item.isSeparator_object.mp hsep

/-- Tasks are handed over with something among them. -/
theorem of_addUserTasks (h : c.Course es calls outcome) {objects : Collection}
    (hmem : .addUserTasks objects ∈ calls) : objects ≠ [] := by
  cases h with
  | known reply hknown => simp at hmem
  | empty => simp at hmem
  | uncollected f => simp at hmem
  | unbuilt => simp at hmem
  | tasks reply hkind hi ht ho =>
    obtain rfl : objects = c.objects _ := by simpa using hmem
    exact ho
  | custom reply => simp at hmem

end Course

end Category

/-! ## The list -/

variable {σ : Type} (answer : Shell σ)

/-- The calls that put something on the list are, category by category, those that the way of the
category allows: one for a category that the shell fills; one for any other whose collection some item
was added to, and none if no item was; never an empty collection, and never a separator outside the
tasks.  Besides these a category makes one call on the list at most, for its collection.  The object of a
task shows the icon of the task, and no other. -/
theorem appendCategories_handOvers (cs : List Category) (s : σ) :
    let r := (appendCategories cs).run answer s
    ∃ parts : List (List Event × Outcome),
      List.Forall₂ (fun c part => c.Course part.1 (handOvers part.1) part.2 ∧
          (c.kind.known? = none →
            (handOvers part.1 ≠ [] ↔ ∃ e ∈ part.1, e.1.adds ∧ e.succeeded)) ∧
          listCalls part.1 = c.collects ++ handOvers part.1) cs parts ∧
        r.events = parts.flatMap Prod.fst ∧
        handOvers r.events = parts.flatMap (fun part => handOvers part.1) ∧
        (∀ name objects, .appendCategory name objects ∈ handOvers r.events →
          objects ≠ [] ∧ ∀ object ∈ objects, object.isSeparator = false) ∧
        (∀ objects, .addUserTasks objects ∈ handOvers r.events → objects ≠ []) ∧
        ∀ item : Item, item.kind = .task →
          ∃ link, item.object = .link link ∧
            ∀ path index, link.icon = some (path, index) ↔ item.ShowsIcon path index := by
  intro r
  obtain ⟨parts, hparts, he, -⟩ := appendCategories_parts answer cs s
  have hcalls : handOvers r.events = parts.flatMap (fun part => handOvers part.1) := by
    rw [he, handOvers_flatMap]
  -- A call of the whole run stands in the part of one category, and the way of that category has it.
  have hown {call : Call} (hmem : call ∈ handOvers r.events) :
      ∃ (c : Category) (es : List Event) (calls : List Call) (outcome : Outcome),
        c.Course es calls outcome ∧ call ∈ calls := by
    rw [hcalls] at hmem
    obtain ⟨part, hpart, hmem⟩ := List.mem_flatMap.mp hmem
    obtain ⟨c, -, hcourse⟩ := Dialogue.exists_of_mem_parts hparts hpart
    exact ⟨c, _, _, _, hcourse, hmem⟩
  refine ⟨parts, hparts.imp fun c part h => ⟨h, h.handsOver_iff, h.listCalls_eq⟩, he, hcalls, ?_, ?_,
    fun item => Item.exists_object_eq_link⟩
  · intro name objects hmem
    obtain ⟨c, es, calls, outcome, hcourse, hmem⟩ := hown hmem
    exact hcourse.of_appendCategory hmem
  · intro objects hmem
    obtain ⟨c, es, calls, outcome, hcourse, hmem⟩ := hown hmem
    exact hcourse.of_addUserTasks hmem

end JumpList
