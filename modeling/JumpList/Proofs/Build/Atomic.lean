/-
# JumpList.Proofs.Build.Atomic — an object is put into a collection whole, or not at all.

What a collection holds can be told from the calls alone: each call that adds an object puts it at the
end, unless the call fails, and then it has no effect (`Collection.after`).  A builder makes its calls
in order, stops at the first that fails, and adds the object by the last of them (`script_adds`).  So
either no call failed and there is one object more, or the first failure is told, nothing is asked after
it, and the collection is as it was (`Collection.Puts`).  That goes for each of the three builders, on an
item of whatever kind (`builders_atomic`), and from one item to many: whatever failed on the way, what is
in a collection in the end is what the calls put there (`addAll_eq_after`).
-/
import JumpList.Proofs.Build

namespace JumpList

open Native

/-! ## What calls put into a collection -/

/-- The object that a call puts into a collection, if it is one that does. -/
def Native.Call.added? : Call → Option Object
  | .addLink link => some (.link link)
  | .addItem path => some (.file path)
  | _ => none

theorem Native.Call.added?_eq_none {c : Call} (h : c.adds = false) : c.added? = none := by
  cases c with
  | addLink link => cases h
  | addItem path => cases h
  | _ => rfl

/-- The object that an event put into a collection: none if the call failed. -/
def Native.Event.added? (e : Event) : Option Object :=
  if e.succeeded then e.1.added? else none

/-- What is in a collection after calls that were made one after the other. -/
def Native.Collection.after (collection : Collection) (es : List Event) : Collection :=
  collection ++ es.filterMap Event.added?

namespace Native.Collection

@[simp] theorem after_nil (collection : Collection) : collection.after [] = collection := by
  simp [after]

theorem after_append (collection : Collection) (es es' : List Event) :
    collection.after (es ++ es') = (collection.after es).after es' := by
  simp [after]

end Native.Collection

/-- Of the calls that make an item and add it, the last adds its object and no other adds anything. -/
theorem Item.script_adds (item : Item) :
    ∃ cs last, item.script = cs ++ [last] ∧ last.added? = some item.object ∧
      ∀ c ∈ cs, c.added? = none := by
  obtain ⟨cs, last, hscript, -, hcs⟩ := item.script_eq
  have hnone : ∀ c ∈ cs, c.added? = none := fun c hc => Call.added?_eq_none (hcs c hc)
  refine ⟨cs, last, hscript, ?_, hnone⟩
  have hall : item.script.filterMap Call.added? = [item.object] := by
    unfold Item.script Item.object
    cases item.kind with
    | task => cases item.icon? <;> rfl
    | separator => rfl
    | file => rfl
  rw [hscript, List.filterMap_append, List.filterMap_eq_nil_iff.mpr hnone] at hall
  cases hlast : last.added? with
  | none => simp [hlast] at hall
  | some object => simpa [hlast] using hall

namespace Native.Tried

variable {cs : List Call} {es : List Event} {result : Except Failure Unit}

/-- Either all calls were made and granted, or those before the last one were, and the last one is the
first that failed. -/
theorem all_or_first_failed (h : Tried cs es result) :
    (result = .ok () ∧ es.map Sigma.fst = cs ∧ ∀ e ∈ es, e.succeeded) ∨
      ∃ before c f, es = before ++ [⟨c, .error f⟩] ∧ result = .error f ∧
        before.map Sigma.fst ++ [c] <+: cs ∧ ∀ e ∈ before, e.succeeded := by
  induction h with
  | done => exact .inl ⟨rfl, rfl, by simp⟩
  | @granted c cs es result a _ ih =>
    rcases ih with ⟨hresult, hcalls, hall⟩ | ⟨before, c', f, hes, hresult, hcalls, hall⟩
    · left
      refine ⟨hresult, congrArg (c :: ·) hcalls, ?_⟩
      exact List.forall_mem_cons.mpr ⟨rfl, hall⟩
    · right
      refine ⟨⟨c, .ok a⟩ :: before, c', f, by rw [hes, List.cons_append], hresult, ?_, ?_⟩
      · exact List.cons_prefix_cons.mpr ⟨rfl, hcalls⟩
      · exact List.forall_mem_cons.mpr ⟨rfl, hall⟩
  | @failed c cs f => exact .inr ⟨[], c, f, rfl, rfl, by simp, by simp⟩

/-- If only the last call adds an object, then the object was added exactly if all went well. -/
theorem filterMap_added? {last : Call} {object : Object} (hlast : last.added? = some object)
    (hcs : ∀ c ∈ cs, c.added? = none) (h : Tried (cs ++ [last]) es result) :
    es.filterMap Event.added? = result.toOption.toList.map fun _ => object := by
  induction cs generalizing es with
  | nil =>
    cases h with
    | granted a h =>
      cases h
      simp [Event.added?, hlast, Except.toOption]
    | failed f => simp [Event.added?, Except.toOption]
  | cons c cs ih =>
    have hc : c.added? = none := hcs c List.mem_cons_self
    cases h with
    | granted a h =>
      rw [List.filterMap_cons_none (by simp [Event.added?, hc])]
      exact ih (fun c' hc' => hcs c' (List.mem_cons_of_mem _ hc')) h
    | failed f => simp [Event.added?, Except.toOption]

end Native.Tried

/-- Building an item puts its object into a collection exactly if it goes well. -/
theorem Item.Tries.after_eq {item : Item} {es : List Event} {result : Except Failure Unit}
    (h : item.Tries es result) (collection : Collection) :
    collection.after es = collection ++ item.realized result := by
  obtain ⟨cs, last, hscript, hlast, hcs⟩ := item.script_adds
  unfold Item.Tries at h
  rw [hscript] at h
  rw [Collection.after, h.filterMap_added? hlast hcs]
  rcases result with f | ⟨⟩
  · rfl
  · rfl

/-! ## Builders -/

/-- How it can go when an object is put into a collection by calls that are made in order: the events,
and the collection that there is in the end or the failure that is told. -/
inductive Native.Collection.Puts (collection : Collection) (object : Object) (script : List Call) :
    List Event → Except Failure Collection → Prop
  /-- Every call was made and granted, and there is one object more. -/
  | whole {es : List Event} :
      es.map Sigma.fst = script → (∀ e ∈ es, e.succeeded) →
      collection.after es = collection ++ [object] →
      Puts collection object script es (.ok (collection ++ [object]))
  /-- The last call that was made is the first that failed, and the collection is as it was. -/
  | stopped {before : List Event} {c : Call} (f : Failure) :
      before.map Sigma.fst ++ [c] <+: script → (∀ e ∈ before, e.succeeded) →
      collection.after (before ++ [⟨c, .error f⟩]) = collection →
      Puts collection object script (before ++ [⟨c, .error f⟩]) (.error f)

variable {σ : Type} (answer : Shell σ)

/-- Whatever building an item comes to, its object is in the collection whole or not at all. -/
theorem Item.Tries.puts {item : Item} {es : List Event} {result : Except Failure Unit}
    (h : item.Tries es result) (collection : Collection) :
    collection.Puts item.object item.script es
      (result.map fun _ => collection ++ [item.object]) := by
  have hafter := h.after_eq collection
  rcases h.all_or_first_failed with
    ⟨rfl, hcalls, hall⟩ | ⟨before, c, f, rfl, rfl, hcalls, hall⟩
  · exact .whole hcalls hall hafter
  · refine .stopped f hcalls hall ?_
    rw [hafter, Item.realized, List.append_nil]

theorem Native.Collection.run_extend (collection : Collection) (item : Item) (s : σ) :
    let tried := item.realize.run answer s
    (collection.extend item).run.run answer s =
      ⟨tried.value.map fun _ => collection ++ [item.object], tried.state, tried.events,
        tried.records⟩ := by
  intro tried
  simp only [extend_eq, ExceptT.run_bind, Dialogue.run_bind, tried, Item.realize]
  rcases ((requireAll item.script).run.run answer s).value with f | ⟨⟩
  · simp [Except.map]
  · simp [Except.map]

theorem Native.Collection.extend_puts (collection : Collection) (item : Item) (s : σ) :
    let r := (collection.extend item).run.run answer s
    collection.Puts item.object item.script r.events r.value := by
  intro r
  simp only [r, run_extend]
  exact (item.realize_tries answer s).puts collection

/-- Each builder, on an item of whatever kind and with whatever is in the collection before, puts its
object into the collection whole or not at all.  So does adding an item by its kind, after which the
collection holds what the calls put there. -/
theorem Native.Collection.builders_atomic (s : σ) (collection : Collection) (item : Item) :
    let task := (item.buildTask >>= collection.addLink).run.run answer s
    let separator := (Item.buildSeparator >>= collection.addLink).run.run answer s
    let file := (collection.addFile item.path).run.run answer s
    let added := (collection.add item).run answer s
    collection.Puts (.link item.taskLink) { item with kind := .task : Item }.script
        task.events task.value ∧
      collection.Puts (.link Item.separatorLink) Item.separator.script
        separator.events separator.value ∧
      collection.Puts (.file item.path) (Item.file item.path).script file.events file.value ∧
      ∃ result, collection.Puts item.object item.script added.events result ∧
        added.value = (result.map fun _ => (), collection.after added.events) := by
  intro task separator file added
  refine ⟨?_, ?_, ?_, ?_⟩
  · exact extend_puts answer collection { item with kind := .task } s
  · exact extend_puts answer collection Item.separator s
  · exact extend_puts answer collection (Item.file item.path) s
  · have htries := item.realize_tries answer s
    have hafter := htries.after_eq collection
    refine ⟨(item.realize.run answer s).value.map fun _ => collection ++ [item.object], ?_, ?_⟩
    · simp only [added, add_eq, Dialogue.run_map]
      exact htries.puts collection
    · simp only [added, add_eq, Dialogue.run_map, hafter]
      rcases (item.realize.run answer s).value with f | ⟨⟩
      · rfl
      · rfl

/-- Whatever failed on the way, a collection that items were added to holds what the calls put there. -/
theorem Native.Collection.addAll_eq_after (collection : Collection) (items : List Item) (s : σ) :
    let r := (collection.addAll items).run answer s
    r.value.2 = collection.after r.events := by
  induction items generalizing collection s with
  | nil => simp [addAll]
  | cons item items ih =>
    have hafter := (item.realize_tries answer s).after_eq collection
    intro r
    simp only [r, addAll, add_eq, Dialogue.run_bind, Dialogue.run_map, Dialogue.run_pure,
      List.append_nil]
    rw [ih, after_append, hafter]

end JumpList
