/-
# JumpList.Proofs.Manager.Tasks — user tasks are set all or nothing.

Setting user tasks goes one of four ways (`SetsTasks`): no list is opened; a list is opened and
aborted, because the tasks could not all be built; the tasks are handed over and the list is committed;
or its commit is refused.  Only the third is reported as true.  It follows that true is reported exactly
if every item is a task and no call failed but the handing over, and that a part of the tasks is never
on the list (`setUserTasks_allOrNothing`).
-/
import JumpList.Proofs.Append.Tasks
import JumpList.Proofs.Manager.Result

namespace JumpList

open Native

namespace Manager

/-- The ways in which user tasks can be set: the events, and what is reported. -/
inductive SetsTasks (m : Manager) (items : List Item) : List Event → Bool → Prop
  | refused {es : List Event} : Refused m.id es → SetsTasks m items es false
  | aborted {block : List Event} (opening : Opening) (reply : Call.Reply .abortList) :
      TasksCourse items block false →
      SetsTasks m items (openingEvents m.id opening ++ (block ++ [⟨.abortList, reply⟩])) false
  | committed {block : List Event} (opening : Opening) :
      TasksCourse items block true →
      SetsTasks m items (openingEvents m.id opening ++ (block ++ [⟨.commitList, .ok ()⟩])) true
  | uncommitted {block : List Event} (opening : Opening) (f : Failure)
      (reply : Call.Reply .abortList) :
      TasksCourse items block true →
      SetsTasks m items
        (openingEvents m.id opening ++ (block ++ [⟨.commitList, .error f⟩, ⟨.abortList, reply⟩]))
        false

section Run

variable {σ : Type} (answer : Shell σ)

/-- On an open list the tasks are appended, and after that it is aborted or tried to be committed. -/
theorem setTasksOn_course (m : Manager) (items : List Item) (opening : Opening) (s : σ) :
    SetsTasks m items
      (openingEvents m.id opening ++ ((setTasksOn items ⟨m.id, .began⟩).run answer s).events)
      ((setTasksOn items ⟨m.id, .began⟩).run answer s).value := by
  have hcourse := appendUserTasks_course answer items s
  cases hv : ((appendUserTasks items).run answer s).value with
  | false =>
    obtain ⟨hvalue, hevents⟩ := run_setTasksOn_of_false answer m.id hv
    rw [hvalue, hevents]
    rw [hv] at hcourse
    exact .aborted opening _ hcourse
  | true =>
    obtain ⟨hvalue, hevents⟩ := run_setTasksOn_of_true answer m.id hv
    rw [hvalue, hevents]
    rw [hv] at hcourse
    unfold Ending.ofCommit
    split
    · exact .committed opening hcourse
    · exact .uncommitted opening _ _ hcourse

/-- Setting user tasks goes one of the ways. -/
theorem setUserTasks_course (m : Manager) (items : List Item) (s : σ) :
    SetsTasks m items ((m.setUserTasks items).run answer s).events
      ((m.setUserTasks items).run answer s).value := by
  rw [setUserTasks_eq]
  rcases m.opens_or_refused answer s with ⟨opening, s', ho⟩ | hnone
  · rw [run_onOpenList_of_opens ho]
    exact setTasksOn_course answer m items opening s'
  · obtain ⟨hv, hrefused⟩ := run_onOpenList_of_refused false (fun _ t => setTasksOn items t) hnone
    rw [hv]
    exact .refused hrefused

end Run

/-! ## What all ways have in common -/

theorem openingEvents_not_handsOver (id : AppId) (opening : Opening) :
    ∀ e ∈ openingEvents id opening, e.1.handsOver = false := by
  simp [openingEvents, Call.handsOver]

theorem openingEvents_succeeded (id : AppId) (opening : Opening) :
    ∀ e ∈ openingEvents id opening, e.succeeded := by
  simp [openingEvents, Event.succeeded, Event.failure?]

theorem Refused.not_handsOver {id : AppId} {es : List Event} (h : Refused id es) :
    ∀ e ∈ es, e.1.handsOver = false := by
  cases h <;> simp [Call.handsOver]

theorem Refused.not_opens {id : AppId} {es : List Event} (h : Refused id es) :
    ∀ e ∈ es, e.opens = false := by
  cases h <;> simp [Event.opens]

/-- Opening and ending a list puts nothing on it. -/
theorem handOvers_opened (id : AppId) (opening : Opening) (block : List Event)
    {ending : List Event} (h : ∀ e ∈ ending, e.1.handsOver = false) :
    handOvers (openingEvents id opening ++ (block ++ ending)) = handOvers block := by
  rw [handOvers_append, handOvers_append, handOvers_eq_nil (openingEvents_not_handsOver id opening),
    handOvers_eq_nil h, List.nil_append, List.append_nil]

namespace SetsTasks

variable {m : Manager} {items : List Item} {es : List Event} {whole : Bool}

/-- A call that failed, other than the handing over, leaves no room for success. -/
theorem not_granted_of_failed {e : Event} (he : e ∈ es) (hover : e.1.handsOver = false)
    (hfailed : e.succeeded = false) :
    ¬ ((∀ item ∈ items, item.kind = .task) ∧ ∀ e ∈ es, e.1.handsOver = false → e.succeeded) := by
  rintro ⟨-, hall⟩
  have hok := hall e he hover
  rw [hfailed] at hok
  exact Bool.false_ne_true hok

/-- It is true exactly if every item is a task and no call failed but the handing over. -/
theorem whole_iff (h : SetsTasks m items es whole) :
    whole = true ↔ (∀ item ∈ items, item.kind = .task) ∧
      ∀ e ∈ es, e.1.handsOver = false → e.succeeded := by
  cases h with
  | refused hrefused =>
    obtain ⟨e, he, hfailed⟩ := hrefused.exists_failed
    have hover := hrefused.not_handsOver e he
    exact iff_of_false Bool.false_ne_true (not_granted_of_failed he hover hfailed)
  | aborted opening reply hcourse =>
    -- The reason is in the block of events between opening and aborting.
    refine iff_of_false Bool.false_ne_true ?_
    rintro ⟨htasks, hall⟩
    have hblock := (List.forall_mem_append.mp (List.forall_mem_append.mp hall).2).1
    exact Bool.false_ne_true (hcourse.whole_iff.mpr ⟨htasks, hblock⟩)
  | committed opening hcourse =>
    obtain ⟨htasks, hblock⟩ := hcourse.whole_iff.mp rfl
    refine iff_of_true rfl ⟨htasks, ?_⟩
    rw [List.forall_mem_append, List.forall_mem_append, List.forall_mem_singleton]
    exact ⟨fun e he _ => openingEvents_succeeded m.id opening e he, hblock, fun _ => rfl⟩
  | @uncommitted block opening f reply hcourse =>
    have hmem : (⟨.commitList, .error f⟩ : Event) ∈
        openingEvents m.id opening ++ (block ++ [⟨.commitList, .error f⟩, ⟨.abortList, reply⟩]) := by
      simp
    exact iff_of_false Bool.false_ne_true (not_granted_of_failed hmem rfl rfl)

/-- What is reported as true was done as a whole. -/
theorem complete (h : SetsTasks m items es true) :
    ∃ opening block reply, Item.TasksBuilt items block ∧
      es = openingEvents m.id opening ++ (⟨.createObjectCollection, .ok ()⟩ :: (block ++
        [⟨.addUserTasks (items.map Item.object), reply⟩, ⟨.commitList, .ok ()⟩])) := by
  cases h with
  | committed opening hcourse =>
    cases hcourse with
    | handedOver reply hbuilt =>
      refine ⟨opening, _, reply, hbuilt, ?_⟩
      rw [List.cons_append, List.append_assoc, List.singleton_append]

/-- Opening and ending a list puts nothing on it, so it is the course of appending that decides. -/
theorem once_of_course {block ending : List Event} {opening : Opening} {appended : Bool}
    (hcourse : TasksCourse items block appended) (hending : ∀ e ∈ ending, e.1.handsOver = false) :
    handOvers (openingEvents m.id opening ++ (block ++ ending)) = [] ∨
      (∀ item ∈ items, item.kind = .task) ∧
        handOvers (openingEvents m.id opening ++ (block ++ ending)) =
          [.addUserTasks (items.map fun item => .link item.taskLink)] := by
  rw [handOvers_opened m.id opening block hending, hcourse.handOvers_eq]
  cases appended with
  | false => exact .inl rfl
  | true =>
    have htasks := (hcourse.whole_iff.mp rfl).1
    exact .inr ⟨htasks, rfl⟩

/-- Nothing but the links of all items is put on the list, and that at most once. -/
theorem once (h : SetsTasks m items es whole) : handOvers es = [] ∨
    (∀ item ∈ items, item.kind = .task) ∧
      handOvers es = [.addUserTasks (items.map fun item => .link item.taskLink)] := by
  cases h with
  | refused hrefused => exact .inl (handOvers_eq_nil hrefused.not_handsOver)
  | aborted opening reply hcourse => exact once_of_course hcourse (by simp [Call.handsOver])
  | committed opening hcourse => exact once_of_course hcourse (by simp [Call.handsOver])
  | uncommitted opening f reply hcourse => exact once_of_course hcourse (by simp [Call.handsOver])

/-- If everything was handed over, no item is of another kind and nothing could not be built. -/
theorem not_offended {block ending : List Event} {opening : Opening}
    (hcourse : TasksCourse items block true) (hending : ∀ e ∈ ending, e.1.builds = false) :
    ¬ ((∃ item ∈ items, item.kind ≠ .task) ∨
      ∃ e ∈ openingEvents m.id opening ++ (block ++ ending), e.1.builds ∧ e.succeeded = false) := by
  obtain ⟨htasks, hblock⟩ := hcourse.whole_iff.mp rfl
  rintro (⟨item, hitem, hother⟩ | ⟨e, he, hbuilds, hfailed⟩)
  · exact hother (htasks item hitem)
  rcases List.mem_append.mp he with he | he
  · rw [openingEvents_succeeded m.id opening e he] at hfailed
    cases hfailed
  rcases List.mem_append.mp he with he | he
  · have hover : e.1.handsOver = false := by
      simp only [Call.builds, Bool.and_eq_true, Bool.not_eq_true'] at hbuilds
      exact hbuilds.2
    rw [hblock e he hover] at hfailed
    cases hfailed
  · rw [hending e he] at hbuilds
    cases hbuilds

/-- A list that was opened is aborted, with nothing on it, if something is wrong with an item. -/
theorem nothing (h : SetsTasks m items es whole) (hopens : ∃ e ∈ es, e.opens)
    (hoffended : (∃ item ∈ items, item.kind ≠ .task) ∨ ∃ e ∈ es, e.1.builds ∧ e.succeeded = false) :
    whole = false ∧ handOvers es = [] ∧ (∀ e ∈ es, e.1 ≠ .commitList) ∧
      es.countP Event.aborts = 1 ∧
      ∃ opening block reply, TasksCourse items block false ∧
        es = openingEvents m.id opening ++ (block ++ [⟨.abortList, reply⟩]) := by
  cases h with
  | refused hrefused =>
    -- There is no list.
    obtain ⟨e, he, hopens⟩ := hopens
    rw [hrefused.not_opens e he] at hopens
    cases hopens
  | @aborted block opening reply hcourse =>
    refine ⟨rfl, ?_, ?_, ?_, opening, block, reply, hcourse, rfl⟩
    · rw [handOvers_opened m.id opening block (by simp [Call.handsOver]), hcourse.handOvers_eq]
      rfl
    · rw [List.forall_mem_append, List.forall_mem_append, List.forall_mem_singleton]
      refine ⟨by simp [openingEvents], ?_, by simp⟩
      intro e he hcommit
      have hfills := hcourse.fills e he
      rw [hcommit] at hfills
      cases hfills
    · have hblock : ∀ e ∈ block, ¬ e.aborts := by
        intro e he
        rw [(Event.plain_of_fills (hcourse.fills e he)).2.2.1]
        exact Bool.false_ne_true
      rw [List.countP_append, List.countP_append, List.countP_eq_zero.mpr hblock]
      rfl
  | committed opening hcourse =>
    exact absurd hoffended (not_offended hcourse (by simp [Call.builds, Call.fills]))
  | uncommitted opening f reply hcourse =>
    exact absurd hoffended (not_offended hcourse (by simp [Call.builds, Call.fills]))

end SetsTasks

/-! ## The result -/

/-- The events `es` of setting user tasks, and what was reported, are those of something that is done
as a whole or not at all. -/
structure AllOrNothing (m : Manager) (items : List Item) (es : List Event) (whole : Bool) : Prop where
  /-- It is true exactly if every item is a task and no call failed but the handing over. -/
  whole_iff : whole = true ↔ (∀ item ∈ items, item.kind = .task) ∧
    ∀ e ∈ es, e.1.handsOver = false → e.succeeded
  /-- Then the list was opened, everything built and handed over, and the list committed. -/
  complete : whole = true → ∃ opening block reply, Item.TasksBuilt items block ∧
    es = openingEvents m.id opening ++ (⟨.createObjectCollection, .ok ()⟩ :: (block ++
      [⟨.addUserTasks (items.map Item.object), reply⟩, ⟨.commitList, .ok ()⟩]))
  /-- An open list is aborted if an item is no task or something could not be built.  Nothing is tried
  after that item, nothing is put on the list, and there is no attempt to commit it. -/
  nothing : (∃ e ∈ es, e.opens) →
    ((∃ item ∈ items, item.kind ≠ .task) ∨ ∃ e ∈ es, e.1.builds ∧ e.succeeded = false) →
    whole = false ∧ handOvers es = [] ∧ (∀ e ∈ es, e.1 ≠ .commitList) ∧
      es.countP Event.aborts = 1 ∧
      ∃ opening block reply, TasksCourse items block false ∧
        es = openingEvents m.id opening ++ (block ++ [⟨.abortList, reply⟩])
  /-- Nothing but the links of all items is ever put on the list, and that at most once. -/
  once : handOvers es = [] ∨
    (∀ item ∈ items, item.kind = .task) ∧
      handOvers es = [.addUserTasks (items.map fun item => .link item.taskLink)]

/-- Setting user tasks is all or nothing, whatever the items are and however the shell answers. -/
theorem setUserTasks_allOrNothing {σ : Type} (m : Manager) (items : List Item) (answer : Shell σ)
    (s : σ) : m.AllOrNothing items ((m.setUserTasks items).run answer s).events
      ((m.setUserTasks items).run answer s).value := by
  have hcourse := setUserTasks_course answer m items s
  refine ⟨hcourse.whole_iff, ?_, hcourse.nothing, hcourse.once⟩
  intro hwhole
  rw [hwhole] at hcourse
  exact hcourse.complete

end Manager

end JumpList
