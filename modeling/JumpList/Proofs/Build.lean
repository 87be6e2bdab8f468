/-
# JumpList.Proofs.Build — what building an item comes to.

An item stands for one native object (`Item.object`) and for a list of calls that make it and put it
into a collection (`Item.script`).  Building is going through that list and stopping at the first call
that fails (`extend_eq`), so an item is in the collection, whole, exactly if every call of its script
was made and succeeded, and otherwise the collection is as it was (`add_eq`).  Of many items that were
tried, the objects of those that were built are in the collection in their order (`realizedAll`).
-/
import JumpList.Build
import JumpList.Proofs.Dialogue
import JumpList.Proofs.Native.Event

namespace JumpList

open Native

/-! ## Calls in a row -/

/-- Makes calls in order, and stops at the first that fails. -/
def Native.requireAll : List Call → Attempt Unit
  | [] => return ()
  | c :: cs => do
    let _ ← require c
    requireAll cs

/-- What can come of calls that are made in order up to the first that fails: the events, and the
failure if there is one. -/
inductive Native.Tried : List Call → List Event → Except Failure Unit → Prop
  | done : Tried [] [] (.ok ())
  | granted {c : Call} {cs : List Call} {es : List Event} {result : Except Failure Unit}
      (a : c.Answer) : Tried cs es result → Tried (c :: cs) (⟨c, .ok a⟩ :: es) result
  | failed {c : Call} {cs : List Call} (f : Failure) : Tried (c :: cs) [⟨c, .error f⟩] (.error f)

namespace Native.Tried

variable {cs : List Call} {es : List Event} {result : Except Failure Unit}

/-- All went well exactly if no call failed. -/
theorem ok_iff (h : Tried cs es result) : result = .ok () ↔ ∀ e ∈ es, e.succeeded := by
  induction h with
  | done => simp
  | granted a _ ih => simpa using ih
  | failed f => simp

/-- If all did not go well, a call failed. -/
theorem exists_failed {f : Failure} (h : Tried cs es (.error f)) :
    ∃ e ∈ es, e.succeeded = false := by
  have hlost : ¬ ∀ e ∈ es, e.succeeded := fun hall => nomatch h.ok_iff.mpr hall
  simpa using hlost

/-- No other calls are made. -/
theorem mem_script (h : Tried cs es result) {e : Event} (he : e ∈ es) : e.1 ∈ cs := by
  induction h with
  | done => cases he
  | granted a _ ih =>
    rcases List.mem_cons.mp he with rfl | he
    · exact List.mem_cons_self
    · exact List.mem_cons_of_mem _ (ih he)
  | failed f =>
    rw [List.mem_singleton.mp he]
    exact List.mem_cons_self

/-- All went well exactly if the last call was made and did not fail; the last call is told by a
property that the calls before it do not have. -/
theorem ok_iff_last {p : Call → Bool} {last : Call} (hlast : p last) (hcs : ∀ c ∈ cs, p c = false)
    (h : Tried (cs ++ [last]) es result) :
    result = .ok () ↔ ∃ e ∈ es, p e.1 ∧ e.succeeded := by
  induction cs generalizing es with
  | nil =>
    cases h with
    | granted a h =>
      cases h
      simp [hlast]
    | failed f => simp
  | cons c cs ih =>
    have hc : p c = false := hcs c List.mem_cons_self
    cases h with
    | granted a h =>
      rw [ih (fun c' hc' => hcs c' (List.mem_cons_of_mem _ hc')) h]
      simp [hc]
    | failed f => simp [hc]

end Native.Tried

variable {σ : Type} (answer : Shell σ)

/-- Every run of calls in a row is one of the possible ones. -/
theorem Native.requireAll_tried (cs : List Call) (s : σ) :
    Tried cs ((requireAll cs).run.run answer s).events ((requireAll cs).run.run answer s).value := by
  induction cs generalizing s with
  | nil => exact .done
  | cons c cs ih =>
    simp only [requireAll, ExceptT.run_bind, require, ExceptT.run_mk, Dialogue.run_bind, run_call]
    rcases (answer c s).1 with f | a
    · exact .failed f
    · exact .granted a (ih _)

/-- Calls in a row leave no records. -/
theorem Native.records_requireAll (cs : List Call) (s : σ) :
    ((requireAll cs).run.run answer s).records = [] := by
  induction cs generalizing s with
  | nil => rfl
  | cons c cs ih =>
    simp only [requireAll, ExceptT.run_bind, require, ExceptT.run_mk, Dialogue.run_bind, run_call]
    rcases (answer c s).1 with f | a
    · rfl
    · exact ih _

theorem Native.requireAll_asksOnly {P : Call → Prop} {cs : List Call} (h : ∀ c ∈ cs, P c) :
    (requireAll cs).run.AsksOnly P := by
  induction cs with
  | nil => exact .pure _
  | cons c cs ih =>
    simp only [requireAll, ExceptT.run_bind, require, ExceptT.run_mk]
    refine .bind (.question (h c (by simp))) fun reply => ?_
    rcases reply with f | a
    · exact .pure _
    · exact ih fun c' hc' => h c' (by simp [hc'])

/-! ## One item -/

/-- The link that a task stands for. -/
def Item.taskLink (item : Item) : ShellLink where
  path := some item.path
  arguments := some item.arguments
  description := some item.description
  icon := item.icon?
  title := some item.title
  separator := false

/-- The link of a task has the icon that the task shows. -/
theorem Item.icon_taskLink_eq_some_iff {item : Item} {path : Path} {index : Int32} :
    item.taskLink.icon = some (path, index) ↔ item.ShowsIcon path index :=
  icon?_eq_some_iff

/-- The link that every separator stands for. -/
def Item.separatorLink : ShellLink := { ShellLink.blank with separator := true }

/-- The native object that an item stands for. -/
def Item.object (item : Item) : Object :=
  match item.kind with
  | .task => .link item.taskLink
  | .separator => .link Item.separatorLink
  | .file => .file item.path

/-- The calls that make the object of an item and put it into a collection, in order. -/
def Item.script (item : Item) : List Call :=
  match item.kind with
  | .task =>
    [.createShellLink, .setPath item.path, .setArguments item.arguments,
      .setDescription item.description] ++
    item.icon?.toList.map (fun icon => .setIconLocation icon.1 icon.2) ++
    [.setTitle item.title, .addLink item.taskLink]
  | .separator => [.createShellLink, .markAsSeparator, .addLink Item.separatorLink]
  | .file => [.createShellItem item.path, .addItem item.path]

theorem Item.script_fills (item : Item) : ∀ c ∈ item.script, c.fills := by
  unfold Item.script
  cases item.kind with
  | task => cases item.icon? <;> simp [Call.fills]
  | separator => simp [Call.fills]
  | file => simp [Call.fills]

/-- No call of a script puts anything on the list. -/
theorem Item.script_not_handsOver (item : Item) : ∀ c ∈ item.script, c.handsOver = false := by
  unfold Item.script
  cases item.kind with
  | task => cases item.icon? <;> simp [Call.handsOver]
  | separator => simp [Call.handsOver]
  | file => simp [Call.handsOver]

/-- A script ends with the call that adds the object, which no call before it does. -/
theorem Item.script_eq (item : Item) :
    ∃ cs last, item.script = cs ++ [last] ∧ last.adds = true ∧ ∀ c ∈ cs, c.adds = false := by
  unfold Item.script
  cases item.kind with
  | task =>
    refine ⟨[.createShellLink, .setPath item.path, .setArguments item.arguments,
        .setDescription item.description] ++
        item.icon?.toList.map (fun icon => .setIconLocation icon.1 icon.2) ++
        [.setTitle item.title], .addLink item.taskLink, by simp, rfl, ?_⟩
    cases item.icon? <;> simp [Call.adds]
  | separator =>
    exact ⟨[.createShellLink, .markAsSeparator], _, rfl, rfl, by simp [Call.adds]⟩
  | file => exact ⟨[.createShellItem item.path], _, rfl, rfl, by simp [Call.adds]⟩

/-- Building an item is going through its script. -/
theorem Native.Collection.extend_eq (collection : Collection) (item : Item) :
    collection.extend item = (do requireAll item.script; return collection ++ [item.object]) := by
  cases hk : item.kind with
  | task =>
    rcases hi : item.icon? with _ | ⟨path, index⟩ <;>
      simp [Collection.extend, hk, Item.buildTask, ShellLink.create, ShellLink.setPath,
        ShellLink.setArguments, ShellLink.setDescription, ShellLink.setIcon, ShellLink.setTitle,
        Collection.addLink, Item.script, Item.object, Item.taskLink, requireAll, hi, ShellLink.blank]
  | separator =>
    simp [Collection.extend, hk, Item.buildSeparator, ShellLink.create, ShellLink.markAsSeparator,
      Collection.addLink, Item.script, Item.object, Item.separatorLink, requireAll]
  | file => simp [Collection.extend, hk, Collection.addFile, Item.script, Item.object, requireAll]

/-- Makes the object of an item and puts it into a collection. -/
def Item.realize (item : Item) : Talk (Except Failure Unit) := (requireAll item.script).run

/-- Events and a result that building an item can come to. -/
def Item.Tries (item : Item) (es : List Event) (result : Except Failure Unit) : Prop :=
  Tried item.script es result

theorem Item.realize_tries (item : Item) (s : σ) :
    item.Tries (item.realize.run answer s).events (item.realize.run answer s).value :=
  requireAll_tried answer item.script s

/-- Whether an item could be built is told by whoever wanted it. -/
@[simp] theorem Item.records_realize (item : Item) (s : σ) :
    (item.realize.run answer s).records = [] := records_requireAll answer item.script s

/-- An item is built exactly if its object was added. -/
theorem Item.Tries.ok_iff_added {item : Item} {es : List Event} {result : Except Failure Unit}
    (h : item.Tries es result) : result = .ok () ↔ ∃ e ∈ es, e.1.adds ∧ e.succeeded := by
  obtain ⟨cs, last, hscript, hlast, hcs⟩ := item.script_eq
  unfold Item.Tries at h
  rw [hscript] at h
  exact h.ok_iff_last hlast hcs

/-- What an item adds to a collection, given what came of building it. -/
def Item.realized (item : Item) : Except Failure Unit → List Object
  | .ok () => [item.object]
  | .error _ => []

/-- The collection has the whole object of an item or is as it was. -/
theorem Native.Collection.add_eq (collection : Collection) (item : Item) :
    collection.add item =
      (fun result => (result, collection ++ item.realized result)) <$> item.realize := by
  simp only [Collection.add, extend_eq, Item.realize, ExceptT.run_bind, map_eq_pure_bind,
    bind_assoc]
  congr 1
  funext result
  rcases result with f | ⟨⟩
  · simp [Item.realized]
  · simp [Item.realized]

/-- The object tells by which calls it is made. -/
theorem Item.script_eq_of_object_eq {a b : Item} (h : a.object = b.object) :
    a.script = b.script := by
  unfold Item.object at h
  unfold Item.script
  cases ha : a.kind <;> cases hb : b.kind <;>
    simp_all [Item.taskLink, Item.separatorLink, ShellLink.blank]

theorem Item.realize_congr {a b : Item} (h : a.object = b.object) : a.realize = b.realize := by
  rw [realize, realize, script_eq_of_object_eq h]

theorem Item.realized_congr {a b : Item} (h : a.object = b.object) : a.realized = b.realized := by
  funext result
  cases result with
  | error f => rfl
  | ok u => exact congrArg ([·]) h

/-- Building goes by the object alone: items that stand for the same one are built alike. -/
theorem Native.Collection.add_congr (collection : Collection) {a b : Item}
    (h : a.object = b.object) : collection.add a = collection.add b := by
  rw [add_eq, add_eq, Item.realize_congr h, Item.realized_congr h]

/-! ## Many items -/

/-- What came of building an item: the events and the result. -/
abbrev Item.Try := List Event × Except Failure Unit

/-- What can come of building items, one after the other. -/
def Item.TriesAll (items : List Item) (tries : List Item.Try) : Prop :=
  List.Forall₂ (fun item tried => item.Tries tried.1 tried.2) items tries

/-- What items add to a collection, given what came of building each. -/
def realizedAll (items : List Item) (tries : List Item.Try) : List Object :=
  (items.zipWith Item.realized (tries.map Prod.snd)).flatten

@[simp] theorem realizedAll_cons (item : Item) (items : List Item) (tried : Item.Try)
    (tries : List Item.Try) : realizedAll (item :: items) (tried :: tries) =
      item.realized tried.2 ++ realizedAll items tries := rfl

namespace Item.TriesAll

variable {items : List Item} {tries : List Item.Try}

/-- What holds of the calls of every script holds of the calls that were made. -/
theorem forall_calls {P : Call → Prop} (hP : ∀ item : Item, ∀ c ∈ item.script, P c)
    (h : TriesAll items tries) : ∀ e ∈ tries.flatMap Prod.fst, P e.1 := by
  induction h with
  | nil => simp
  | @cons item tried items tries hitem _ ih =>
    intro e he
    rcases List.mem_append.mp he with he | he
    · exact hP item e.1 (hitem.mem_script he)
    · exact ih e he

/-- There is an object if and only if one was added. -/
theorem realizedAll_ne_nil_iff (h : TriesAll items tries) :
    realizedAll items tries ≠ [] ↔ ∃ e ∈ tries.flatMap Prod.fst, e.1.adds ∧ e.succeeded := by
  induction h with
  | nil => simp [realizedAll]
  | @cons item tried items tries hitem _ ih =>
    have hone : item.realized tried.2 ≠ [] ↔ tried.2 = .ok () := by
      rcases tried.2 with f | ⟨⟩ <;> simp [Item.realized]
    rw [hitem.ok_iff_added] at hone
    simp only [realizedAll_cons, List.flatMap_cons, List.mem_append, or_and_right, exists_or,
      ← hone, ← ih]
    rw [ne_eq, List.append_eq_nil_iff, not_and_or]

/-- There is at most one object for each item, and one for every item exactly if nothing failed. -/
theorem length_realizedAll (h : TriesAll items tries) :
    (realizedAll items tries).length ≤ items.length ∧
      (items.length ≤ (realizedAll items tries).length ↔
        ∀ e ∈ tries.flatMap Prod.fst, e.succeeded) := by
  induction h with
  | nil => simp [realizedAll]
  | @cons item tried items tries hitem _ ih =>
    obtain ⟨hle, hiff⟩ := ih
    have hok := hitem.ok_iff
    rcases hr : tried.2 with f | ⟨⟩
    · -- The item is missing, so there is room for one object more, and a call of it failed.
      have hlost : ¬ ∀ e ∈ tried.1, e.succeeded := fun hall => by simp [hok.mpr hall] at hr
      simp only [realizedAll_cons, hr, Item.realized, List.nil_append, List.length_cons,
        List.flatMap_cons, List.mem_append]
      refine ⟨by omega, iff_of_false (by omega) fun hall => hlost fun e he => hall e (.inl he)⟩
    · have hkept := hok.mp hr
      simp only [realizedAll_cons, hr, Item.realized, List.singleton_append, List.length_cons,
        List.flatMap_cons, List.mem_append, Nat.add_le_add_iff_right]
      refine ⟨hle, hiff.trans ⟨fun hall e he => he.elim (hkept e) (hall e),
        fun hall e he => hall e (.inr he)⟩⟩

end Item.TriesAll

end JumpList
