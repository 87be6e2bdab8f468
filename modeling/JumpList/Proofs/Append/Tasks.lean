/-
# JumpList.Proofs.Append.Tasks — user tasks are handed over whole or not at all.

User tasks are built into one collection, item by item.  The first item that is no task, or that
cannot be built, ends this: the collection is given up as it is then, and nothing is tried after that
item (`GivenUp`).  So a collection that is handed over has the link of every item
(`TasksCourse.handOvers_eq`), and the answer is yes exactly if every item is a task and no call but
the handing over failed (`TasksCourse.whole_iff`).
-/
import JumpList.Proofs.Append.Course

namespace JumpList

open Native

/-! ## Calls that were all granted -/

namespace Native.Tried

variable {cs cs' : List Call} {es es' : List Event} {result : Except Failure Unit}

/-- After calls that were all granted come those that were made next. -/
theorem append (h : Tried cs es (.ok ())) (h' : Tried cs' es' result) :
    Tried (cs ++ cs') (es ++ es') result := by
  induction cs generalizing es with
  | nil =>
    cases h
    exact h'
  | cons c cs ih =>
    cases h with
    | granted a h => exact .granted a (ih h)

end Native.Tried

/-- Every item is a task, and these are the events by which all of them were built, in order. -/
structure Item.TasksBuilt (items : List Item) (es : List Event) : Prop where
  tasks : ∀ item ∈ items, item.kind = .task
  built : Tried (items.flatMap Item.script) es (.ok ())

namespace Item.TasksBuilt

variable {items : List Item} {es es' : List Event}

theorem nil : TasksBuilt [] [] := ⟨by simp, .done⟩

theorem cons {item : Item} (hk : item.kind = .task) (h : item.Tries es (.ok ()))
    (hrest : TasksBuilt items es') : TasksBuilt (item :: items) (es ++ es') where
  tasks := List.forall_mem_cons.mpr ⟨hk, hrest.tasks⟩
  built := h.append hrest.built

theorem succeeded (h : TasksBuilt items es) : ∀ e ∈ es, e.succeeded := h.built.ok_iff.mp rfl

/-- What holds of the calls of every script holds of the calls that were made. -/
theorem forall_calls {P : Call → Prop} (hP : ∀ item : Item, ∀ c ∈ item.script, P c)
    (h : TasksBuilt items es) : ∀ e ∈ es, P e.1 := by
  intro e he
  obtain ⟨item, -, hmem⟩ := List.mem_flatMap.mp (h.built.mem_script he)
  exact hP item e.1 hmem

/-- Tasks are handed over as links, one for each of them. -/
theorem map_object (h : TasksBuilt items es) :
    items.map Item.object = items.map fun item => .link item.taskLink := by
  refine List.map_congr_left fun item hitem => ?_
  simp [Item.object, h.tasks item hitem]

end Item.TasksBuilt

/-! ## Gathering -/

/-- The events of a gathering that was given up at its first item that is no task or cannot be built:
the items before it were built, and nothing was tried after it. -/
inductive GivenUp (items : List Item) : List Event → Prop
  | notATask {before after : List Item} {item : Item} {es : List Event} :
      items = before ++ item :: after → Item.TasksBuilt before es →
      item.kind ≠ .task → GivenUp items es
  | unbuilt {before after : List Item} {item : Item} {es es' : List Event} (f : Failure) :
      items = before ++ item :: after → Item.TasksBuilt before es →
      item.kind = .task → item.Tries es' (.error f) → GivenUp items (es ++ es')

namespace GivenUp

variable {items : List Item} {es es' : List Event}

/-- A task that was built before makes no difference. -/
theorem cons {item : Item} (hk : item.kind = .task) (h : item.Tries es (.ok ()))
    (hrest : GivenUp items es') : GivenUp (item :: items) (es ++ es') := by
  cases hrest with
  | notATask hitems hbefore hother =>
    exact .notATask (by rw [hitems, List.cons_append]) (hbefore.cons hk h) hother
  | unbuilt f hitems hbefore htask hfailed =>
    rw [← List.append_assoc]
    exact .unbuilt f (by rw [hitems, List.cons_append]) (hbefore.cons hk h) htask hfailed

/-- What holds of the calls of every script holds of the calls that were made. -/
theorem forall_calls {P : Call → Prop} (hP : ∀ item : Item, ∀ c ∈ item.script, P c)
    (h : GivenUp items es) : ∀ e ∈ es, P e.1 := by
  cases h with
  | notATask _ hbefore _ => exact hbefore.forall_calls hP
  | unbuilt f _ hbefore _ hfailed =>
    refine List.forall_mem_append.mpr ⟨hbefore.forall_calls hP, ?_⟩
    intro e he
    exact hP _ e.1 (hfailed.mem_script he)

/-- Nothing is given up without a reason. -/
theorem has_reason (h : GivenUp items es) :
    ¬ ((∀ item ∈ items, item.kind = .task) ∧ ∀ e ∈ es, e.succeeded) := by
  rintro ⟨htasks, hall⟩
  cases h with
  | notATask hitems _ hother =>
    refine hother (htasks _ ?_)
    rw [hitems]
    exact List.mem_append_right _ List.mem_cons_self
  | unbuilt f _ _ _ hfailed =>
    have hok := hfailed.ok_iff.mpr fun e he => hall e (List.mem_append_right _ he)
    cases hok

end GivenUp

variable {σ : Type} (answer : Shell σ)

/-- An item that is no task ends the gathering, and nothing is tried. -/
theorem run_gatherTasks_of_other {item : Item} (hk : item.kind ≠ .task) (items : List Item)
    (collection : Collection) (s : σ) :
    (gatherTasks (item :: items) collection).run answer s =
      ⟨none, s, [], [Notice.notATask item]⟩ := by
  simp [gatherTasks, hk]

/-- A task that cannot be built ends the gathering. -/
theorem run_gatherTasks_of_unbuilt {item : Item} (hk : item.kind = .task) {s : σ} {f : Failure}
    (h : (item.realize.run answer s).value = .error f) (items : List Item)
    (collection : Collection) :
    (gatherTasks (item :: items) collection).run answer s =
      let tried := item.realize.run answer s
      ⟨none, tried.state, tried.events, [Notice.userTaskLost item f]⟩ := by
  simp [gatherTasks, hk, Collection.add_eq, Dialogue.run_bind, h]

/-- After a task that was built the rest decides. -/
theorem run_gatherTasks_of_built {item : Item} (hk : item.kind = .task) {s : σ}
    (h : (item.realize.run answer s).value = .ok ()) (items : List Item)
    (collection : Collection) :
    (gatherTasks (item :: items) collection).run answer s =
      let tried := item.realize.run answer s
      let rest := (gatherTasks items (collection ++ [item.object])).run answer tried.state
      { rest with events := tried.events ++ rest.events } := by
  simp [gatherTasks, hk, Collection.add_eq, Dialogue.run_bind, h, Item.realized]

/-- Gathering user tasks ends with the objects of all of them, or is given up. -/
theorem gatherTasks_cases (items : List Item) (collection : Collection) (s : σ) :
    let r := (gatherTasks items collection).run answer s
    (r.value = some (collection ++ items.map Item.object) ∧ Item.TasksBuilt items r.events) ∨
      (r.value = none ∧ GivenUp items r.events) := by
  induction items generalizing collection s with
  | nil => exact .inl ⟨by simp [gatherTasks], .nil⟩
  | cons item items ih =>
    intro r
    by_cases hk : item.kind = .task
    · have htries := item.realize_tries answer s
      rcases hv : (item.realize.run answer s).value with f | ⟨⟩
      · -- The item is the first that cannot be built.
        rw [hv] at htries
        have hr := run_gatherTasks_of_unbuilt answer hk hv items collection
        rw [show r = _ from hr]
        exact .inr ⟨rfl, .unbuilt f rfl .nil hk htries⟩
      · -- The item was built, so the rest decides.
        rw [hv] at htries
        have hr := run_gatherTasks_of_built answer hk hv items collection
        rw [show r = _ from hr]
        rcases ih (collection ++ [item.object]) (item.realize.run answer s).state with
          ⟨hvalue, hbuilt⟩ | ⟨hvalue, hgiven⟩
        · left
          refine ⟨?_, hbuilt.cons hk htries⟩
          rw [List.append_assoc] at hvalue
          exact hvalue
        · exact .inr ⟨hvalue, hgiven.cons hk htries⟩
    · -- Of an item that is no task nothing is tried.
      have hr := run_gatherTasks_of_other answer hk items collection s
      rw [show r = _ from hr]
      exact .inr ⟨rfl, .notATask rfl .nil hk⟩

/-! ## Appending -/

/-- The ways in which user tasks can be appended: the events, and whether all of them were handed
over. -/
inductive TasksCourse (items : List Item) : List Event → Bool → Prop
  | uncollected (f : Failure) :
      TasksCourse items [⟨.createObjectCollection, .error f⟩] false
  | givenUp {es : List Event} :
      GivenUp items es → TasksCourse items (⟨.createObjectCollection, .ok ()⟩ :: es) false
  | handedOver {es : List Event} (reply : Call.Reply (.addUserTasks (items.map Item.object))) :
      Item.TasksBuilt items es →
      TasksCourse items
        (⟨.createObjectCollection, .ok ()⟩ ::
          (es ++ [⟨.addUserTasks (items.map Item.object), reply⟩])) true

/-- User tasks that were given up are not handed over. -/
theorem run_appendUserTasks_of_givenUp {items : List Item} {s s₁ : σ}
    (hcreate : answer .createObjectCollection s = (.ok (), s₁))
    (hgather : ((gatherTasks items []).run answer s₁).value = none) :
    (appendUserTasks items).run answer s =
      let gathered := (gatherTasks items []).run answer s₁
      ⟨false, gathered.state, ⟨.createObjectCollection, .ok ()⟩ :: gathered.events,
        gathered.records⟩ := by
  simp [appendUserTasks, Dialogue.run_bind, hcreate, hgather]

/-- User tasks that were gathered are handed over.  Whether they are taken makes no difference but to the
records. -/
theorem run_appendUserTasks_of_gathered {items : List Item} {collection : Collection} {s s₁ : σ}
    (hcreate : answer .createObjectCollection s = (.ok (), s₁))
    (hgather : ((gatherTasks items []).run answer s₁).value = some collection) :
    let gathered := (gatherTasks items []).run answer s₁
    let reply := (answer (.addUserTasks collection) gathered.state).1
    ((appendUserTasks items).run answer s).value = true ∧
      ((appendUserTasks items).run answer s).events =
        ⟨.createObjectCollection, .ok ()⟩ ::
          (gathered.events ++ [⟨.addUserTasks collection, reply⟩]) := by
  intro gathered reply
  rcases hadd : answer (.addUserTasks collection) gathered.state with ⟨f | ⟨⟨⟩⟩, s₂⟩
  · simp [appendUserTasks, Dialogue.run_bind, hcreate, hgather, gathered, reply, hadd]
  · simp [appendUserTasks, Dialogue.run_bind, hcreate, hgather, gathered, reply, hadd]

/-- Appending user tasks goes one of the ways. -/
theorem appendUserTasks_course (items : List Item) (s : σ) :
    TasksCourse items ((appendUserTasks items).run answer s).events
      ((appendUserTasks items).run answer s).value := by
  rcases hcreate : answer .createObjectCollection s with ⟨f | ⟨⟨⟩⟩, s₁⟩
  · simpa [appendUserTasks, Dialogue.run_bind, hcreate] using .uncollected f
  rcases gatherTasks_cases answer items [] s₁ with ⟨hv, hbuilt⟩ | ⟨hv, hgiven⟩
  · rw [List.nil_append] at hv
    obtain ⟨hvalue, hevents⟩ := run_appendUserTasks_of_gathered answer hcreate hv
    rw [hvalue, hevents]
    exact .handedOver _ hbuilt
  · rw [run_appendUserTasks_of_givenUp answer hcreate hv]
    exact .givenUp hgiven

namespace TasksCourse

variable {items : List Item} {es : List Event} {whole : Bool}

/-- Appending user tasks only fills the list. -/
theorem fills (h : TasksCourse items es whole) : ∀ e ∈ es, e.1.fills := by
  cases h with
  | uncollected f => simp [Call.fills]
  | givenUp hgiven =>
    exact List.forall_mem_cons.mpr ⟨rfl, hgiven.forall_calls Item.script_fills⟩
  | handedOver reply hbuilt =>
    rw [List.forall_mem_cons, List.forall_mem_append, List.forall_mem_singleton]
    exact ⟨rfl, hbuilt.forall_calls Item.script_fills, rfl⟩

/-- Either one link for each item is handed over in one call, or nothing is. -/
theorem handOvers_eq (h : TasksCourse items es whole) :
    handOvers es =
      if whole then [.addUserTasks (items.map fun item => .link item.taskLink)] else [] := by
  cases h with
  | uncollected f => rfl
  | givenUp hgiven =>
    have hover := hgiven.forall_calls Item.script_not_handsOver
    rw [handOvers_cons_of_false rfl, handOvers_eq_nil hover]
    rfl
  | handedOver reply hbuilt =>
    have hover := hbuilt.forall_calls Item.script_not_handsOver
    rw [handOvers_cons_of_false rfl, handOvers_append, handOvers_eq_nil hover, hbuilt.map_object]
    rfl

/-- All are handed over exactly if all are tasks and everything but the handing over was granted. -/
theorem whole_iff (h : TasksCourse items es whole) :
    whole = true ↔ (∀ item ∈ items, item.kind = .task) ∧
      ∀ e ∈ es, e.1.handsOver = false → e.succeeded := by
  cases h with
  | uncollected f =>
    refine iff_of_false Bool.false_ne_true ?_
    rintro ⟨-, hall⟩
    exact Bool.false_ne_true (hall _ List.mem_cons_self rfl)
  | givenUp hgiven =>
    refine iff_of_false Bool.false_ne_true ?_
    rintro ⟨htasks, hall⟩
    refine hgiven.has_reason ⟨htasks, fun e he => ?_⟩
    exact hall e (List.mem_cons_of_mem _ he) (hgiven.forall_calls Item.script_not_handsOver e he)
  | handedOver reply hbuilt =>
    refine iff_of_true rfl ⟨hbuilt.tasks, ?_⟩
    intro e he hover
    rcases List.mem_cons.mp he with rfl | he
    · rfl
    rcases List.mem_append.mp he with he | he
    · exact hbuilt.succeeded e he
    · rw [List.mem_singleton.mp he] at hover
      cases hover

end TasksCourse

end JumpList
