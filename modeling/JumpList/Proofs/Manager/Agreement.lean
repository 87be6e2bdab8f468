/-
# JumpList.Proofs.Manager.Agreement — two ways to the same tasks.

An application that has nothing but tasks to show can set them as they are, or have a provider supply
them, written, to an update that reads them back.  The two requests share no more than the opening of a
list.  One of them builds the items themselves and gives up at the first that cannot be built; the other
builds the items that were read, counts what it lost, and merges outcomes.

As long as nothing that is asked for the tasks' sake fails, it makes no difference which way is taken
(`setUserTasks_agrees_with_update`): the shell is asked the same and gives the same answers, however it
answers when the list is opened, committed or aborted.  An item that is read back stands for the same
object as the item that was written, and gathering goes by objects alone (`gather_of_gatherTasks`).
-/
import JumpList.Proofs.Append.Outcome
import JumpList.Proofs.Append.Tasks
import JumpList.Proofs.Format.Grammar
import JumpList.Proofs.Format.RoundTrip
import JumpList.Proofs.Manager.Course
import JumpList.Shell.Configured

namespace JumpList

open Native

/-! ## Plain tasks -/

/-- Whether a call is made to build tasks and to hand them over. -/
def Native.Call.servesTasks : Call → Bool
  | .createObjectCollection | .createShellLink | .setPath _ | .setArguments _ | .setDescription _
  | .setIconLocation _ _ | .setTitle _ | .addLink _ | .addUserTasks _ => true
  | _ => false

/-- A task that can be written and read back without a loss that shows. -/
structure Item.PlainTask (item : Item) : Prop where
  task : item.kind = .task
  titled : item.title ≠ ""
  launches : item.path ≠ Path.empty
  text : item.IsText

/-- A task is built by calls that serve tasks. -/
theorem Item.script_servesTasks {item : Item} (hk : item.kind = .task) :
    ∀ c ∈ item.script, c.servesTasks := by
  rw [Item.script, hk]
  cases item.icon? <;> simp [Call.servesTasks]

theorem Item.PlainTask.emptyField?_eq_none {item : Item} (h : item.PlainTask) :
    item.emptyField? = none := by
  have hpath : ¬ item.path.isEmpty := fun hempty => h.launches (Path.isEmpty_iff.mp hempty)
  have htitle : ¬ item.title.isEmpty := fun hempty => h.titled (String.isEmpty_iff.mp hempty)
  rw [Item.emptyField?, h.task]
  dsimp only
  rw [if_neg hpath, if_neg htitle]

/-- The provider that writes the items into one tasks category. -/
def Provider.tasks (items : List Item) : Provider := fun _ =>
  .array [.object [("items", Format.writeItems items), ("type", .string "tasks")]]

/-- Plain tasks are read back as one tasks category. -/
theorem readCategories_tasks {items : List Item} (h : ∀ item ∈ items, item.PlainTask)
    (snapshot : Snapshot) :
    Format.readCategories (Provider.tasks items snapshot) =
      .ok [Category.tasks (items.map Item.respelt)] := by
  have hread : Format.readItems (Format.writeItems items) = .ok (items.map Item.respelt) :=
    Format.readItems_writeItems_eq_ok_iff.mpr
      ⟨fun item hitem => (h item hitem).emptyField?_eq_none, rfl⟩
  -- The category has no name, so it is the type that says what it is.
  let members : Json.Members :=
    [("items", Format.writeItems items), ("type", .string "tasks")]
  have hname : Format.HasText members "name" none := .inl rfl
  have hitems : Format.HasItems members (items.map Item.respelt) :=
    Format.readCategoryItems_eq_ok_iff.mp hread
  have hcategory : Format.DescribesCategory (.object members)
      (Category.tasks (items.map Item.respelt)) := .tasks hname nofun (.given rfl) hitems
  exact Format.readList_eq_ok_iff.mpr ⟨_, rfl, .cons hcategory .nil⟩

/-! ## Gathering -/

section Gathering

variable {σ : Type} (answer : Shell σ)

/-- User tasks that are all built are gathered for a tasks category by the same calls, and so are other
items that stand for the same objects. -/
theorem gather_of_gatherTasks {c : Category} (hk : c.kind = .tasks) {items items' : List Item}
    (h : List.Forall₂ (fun a b : Item => a.object = b.object) items' items)
    {collection built : Collection} {s : σ}
    (hbuilt : ((gatherTasks items collection).run answer s).value = some built) :
    let gathered := (c.gather items' (.holding collection false)).run answer s
    gathered.value = .holding built false ∧
      gathered.events =
        ((gatherTasks items collection).run answer s).events := by
  induction h generalizing collection s with
  | nil =>
    obtain rfl : collection = built := Option.some.inj hbuilt
    exact ⟨rfl, rfl⟩
  | @cons item' item items' items hobject _ ih =>
    have hadmitted : ¬ c.refuses item' := by
      simp [Category.refuses, hk, Category.Kind.admitsSeparators]
    by_cases htask : item.kind = .task
    · rcases hv : (item.realize.run answer s).value with f | ⟨⟩
      · rw [run_gatherTasks_of_unbuilt answer htask hv] at hbuilt
        cases hbuilt
      · -- Both ways go on from the same collection and the same state of the shell.
        have hrun := run_gatherTasks_of_built answer htask hv items collection
        rw [hrun] at hbuilt ⊢
        obtain ⟨hvalue, hevents⟩ := ih hbuilt
        have hgather := Category.run_gather_of_tried answer hadmitted items'
          (.holding collection false) s
        simp only [Item.realize_congr hobject, Item.realized_congr hobject, hv,
          Gathering.extend_holding] at hgather
        rw [hgather]
        exact ⟨hvalue, congrArg ((item.realize.run answer s).events ++ ·) hevents⟩
    · rw [run_gatherTasks_of_other answer htask] at hbuilt
      cases hbuilt

/-- Tasks are not given up unless a call that serves tasks fails. -/
theorem GivenUp.exists_failed {items : List Item} {es : List Event} (h : GivenUp items es)
    (htasks : ∀ item ∈ items, item.kind = .task) :
    ∃ e ∈ es, e.1.servesTasks ∧ e.succeeded = false := by
  cases h with
  | notATask hitems _ hother =>
    refine absurd (htasks _ ?_) hother
    rw [hitems]
    exact List.mem_append_right _ List.mem_cons_self
  | unbuilt f hitems _ htask hfailed =>
    obtain ⟨e, he, hlost⟩ := hfailed.exists_failed
    have hserves := Item.script_servesTasks htask e.1 (hfailed.mem_script he)
    exact ⟨e, List.mem_append_right _ he, hserves, hlost⟩

/-! ## Appending -/

/-- The run of a tasks category whose items were gathered: here it counts whether they are taken. -/
theorem run_append_of_gathered {items : List Item} (hi : items ≠ []) {collection : Collection}
    (hne : collection ≠ []) {s s₁ : σ}
    (hcreate : answer .createObjectCollection s = (.ok (), s₁))
    (hgather : (((Category.tasks items).gather items (.holding [] false)).run answer s₁).value =
      .holding collection false) :
    let gathered := ((Category.tasks items).gather items (.holding [] false)).run answer s₁
    let reply := (answer (.addUserTasks collection) gathered.state).1
    ((Category.tasks items).append.run answer s).value =
        ((Gathering.holding collection false).outcome items.length).merge (.ofReply reply) ∧
      ((Category.tasks items).append.run answer s).events =
        ⟨.createObjectCollection, .ok ()⟩ ::
          (gathered.events ++ [⟨.addUserTasks collection, reply⟩]) := by
  intro gathered reply
  have happend := Category.append_eq (c := Category.tasks items) rfl hi
  have hitems : (Category.tasks items).items = items := rfl
  have hrun := Category.run_handOver_of_tasks answer (c := Category.tasks items) rfl
    (Gathering.counted_holding collection false) hne gathered.state
  simp only [happend, hitems, Dialogue.run_bind, run_call, hcreate, hgather]
  rw [hrun]
  exact ⟨rfl, rfl⟩

/-- As long as nothing that is asked for their sake fails, user tasks are appended as a tasks category
is, with the same items or with others that stand for the same objects. -/
theorem appendCategories_of_appendUserTasks {items items' : List Item} (hne : items ≠ [])
    (htasks : ∀ item ∈ items, item.kind = .task)
    (h : List.Forall₂ (fun a b : Item => a.object = b.object) items' items) {s : σ}
    (hserved : ∀ e ∈ ((appendUserTasks items).run answer s).events,
      e.1.servesTasks → Event.succeeded e) :
    ((appendUserTasks items).run answer s).value = true ∧
      ((appendCategories [Category.tasks items']).run answer s).value = .success ∧
      ((appendCategories [Category.tasks items']).run answer s).events =
        ((appendUserTasks items).run answer s).events := by
  rcases hcreate : answer .createObjectCollection s with ⟨f | ⟨⟨⟩⟩, s₁⟩
  · -- There is a collection, for this call serves tasks.
    have hlost := hserved ⟨.createObjectCollection, .error f⟩
      (by simp [appendUserTasks, Dialogue.run_bind, hcreate]) rfl
    cases hlost
  rcases gatherTasks_cases answer items [] s₁ with ⟨hbuilt, -⟩ | ⟨hnone, hgiven⟩
  · rw [List.nil_append] at hbuilt
    obtain ⟨hwhole, hevents⟩ := run_appendUserTasks_of_gathered answer hcreate hbuilt
    obtain ⟨hbuilt', hgathered⟩ :=
      gather_of_gatherTasks answer (c := Category.tasks items') rfl h hbuilt
    have hlength : items'.length = items.length := h.length_eq
    have hobjects : items.map Item.object ≠ [] := by simpa using hne
    have hne' : items' ≠ [] := by
      rw [← List.length_pos_iff, hlength]
      exact List.length_pos_iff.mpr hne
    obtain ⟨houtcome, hevents'⟩ := run_append_of_gathered answer hne' hobjects hcreate hbuilt'
    rw [Dialogue.state_eq_of_events_eq hgathered] at houtcome hevents'
    generalize (answer (.addUserTasks (items.map Item.object))
      ((gatherTasks items []).run answer s₁).state).1 = reply at hevents hevents' houtcome
    rw [hgathered, ← hevents] at hevents'
    obtain ⟨hv, he⟩ := run_appendCategories_singleton answer (Category.tasks items') s
    refine ⟨hwhole, hv.trans (houtcome.trans ?_), he.trans hevents'⟩
    -- Nothing is missing from the collection, and the shell takes it, for that call serves tasks.
    have hcomplete :
        (Gathering.holding (items.map Item.object) false).outcome items'.length = .success := by
      simp [Gathering.outcome, Gathering.holding, hlength]
    have htaken : Outcome.ofReply reply = .success := by
      refine (Outcome.ofReply_eq_success_iff reply).mpr (hserved _ ?_ rfl)
      rw [hevents]
      exact List.mem_cons_of_mem _ (List.mem_append_right _ List.mem_cons_self)
    exact Outcome.merge_eq_success_iff.mpr ⟨hcomplete, htaken⟩
  · -- No task is given up, for the calls that build it serve tasks.
    obtain ⟨e, he, hserves, hlost⟩ := hgiven.exists_failed htasks
    rw [run_appendUserTasks_of_givenUp answer hcreate hnone] at hserved
    rw [hserved e (List.mem_cons_of_mem _ he) hserves] at hlost
    cases hlost

end Gathering

/-! ## The two requests -/

namespace Manager

variable {σ : Type} {m : Manager} {answer : Shell σ} {s s' : σ} {opening : Opening}

/-- On an open list the two ways fill the list alike, and bring it to the same end. -/
theorem updateOn_agrees_with_setTasksOn {items : List Item} (hne : items ≠ [])
    (hplain : ∀ item ∈ items, item.PlainTask) (snapshot : Snapshot)
    (hserved : ∀ e ∈ ((setTasksOn items ⟨m.id, .began⟩).run answer s).events,
      e.1.servesTasks → Event.succeeded e) :
    let direct := (setTasksOn items ⟨m.id, .began⟩).run answer s
    let supplied := (m.updateOn (Provider.tasks items) snapshot ⟨m.id, .began⟩).run answer s
    supplied.events = direct.events ∧ (direct.value = true ↔ supplied.value.outcome = .success) := by
  intro direct supplied
  have hobjects : List.Forall₂ (fun a b : Item => a.object = b.object)
      (items.map Item.respelt) items := by
    rw [List.forall₂_map_left_iff, List.forall₂_same]
    exact fun item hitem => Item.object_respelt (hplain item hitem).text
  -- Filling the list is a part of the request, so nothing fails in it that serves tasks.
  have hpart : ∀ e ∈ ((appendUserTasks items).run answer s).events, e ∈ direct.events := by
    intro e he
    show e ∈ ((setTasksOn items ⟨m.id, .began⟩).run answer s).events
    rw [setTasksOn, Dialogue.run_bind, Transaction.appendUserTasks_of_began rfl]
    exact List.mem_append_left _ he
  obtain ⟨hwhole, hsuccess, hfilled⟩ := appendCategories_of_appendUserTasks answer hne
    (fun item hitem => (hplain item hitem).task) hobjects fun e he => hserved e (hpart e he)
  have hstate := Dialogue.state_eq_of_events_eq hfilled
  obtain ⟨hdirect, hdirectEvents⟩ := run_setTasksOn_of_true answer m.id hwhole
  obtain ⟨hsupplied, hsuppliedEvents⟩ :=
    run_updateOn_of_ok answer m (readCategories_tasks hplain snapshot) s
  rw [hsuccess, hstate] at hsupplied
  rw [hfilled, hstate] at hsuppliedEvents
  refine ⟨hsuppliedEvents.trans hdirectEvents.symm, ?_⟩
  show _ = true ↔ UpdateReport.outcome _ = .success
  rw [hdirect, hsupplied]
  -- The commit decides in both.
  cases (Ending.ofCommit answer ((appendUserTasks items).run answer s).state).isCommitted with
  | true => exact iff_of_true rfl rfl
  | false =>
    have hspoiled : Outcome.success.spoiled ≠ .success := by decide
    exact iff_of_false Bool.false_ne_true hspoiled

/-- Plain tasks can be set as they are or supplied by a provider: as long as no call that serves tasks
fails, the calls, the answers to them, what the shell is left with and the success are the same. -/
theorem setUserTasks_agrees_with_update (m : Manager) {items : List Item} (hne : items ≠ [])
    (hplain : ∀ item ∈ items, item.PlainTask) (answer : Shell σ) (s : σ)
    (hserved : ∀ e ∈ ((m.setUserTasks items).run answer s).events,
      e.1.servesTasks → Event.succeeded e) :
    let direct := (m.setUserTasks items).run answer s
    let supplied := (m.update (Provider.tasks items)).run answer s
    supplied.events = direct.events ∧ supplied.state = direct.state ∧
      (direct.value = true ↔ supplied.value.outcome = .success) := by
  intro direct supplied
  have hagree : supplied.events = direct.events ∧
      (direct.value = true ↔ supplied.value.outcome = .success) := by
    rw [show supplied = _ from run_update m (Provider.tasks items) s,
      show direct = ((m.onOpenList false fun _ t => setTasksOn items t).run answer s) from rfl]
    rcases m.opens_or_refused answer s with ⟨opening, s', ho⟩ | hnone
    · rw [setUserTasks_eq, run_onOpenList_of_opens ho] at hserved
      obtain ⟨hevents, hvalue⟩ := updateOn_agrees_with_setTasksOn hne hplain (.ofOpening opening)
        fun e he => hserved e (List.mem_append_right _ he)
      rw [run_onOpenList_of_opens ho, run_onOpenList_of_opens ho]
      exact ⟨congrArg (openingEvents m.id opening ++ ·) hevents, hvalue⟩
    · -- Neither request gets further than the refused call.
      obtain ⟨s', es, record, -, -, hrun⟩ := exists_run_of_refused hnone
      rw [hrun, hrun]
      exact ⟨rfl, iff_of_false Bool.false_ne_true nofun⟩
  exact ⟨hagree.1, Dialogue.state_eq_of_events_eq hagree.1, hagree.2⟩

open JumpList.Shell (Configuration)

/-- A shell that refuses nothing but to commit. -/
def uncommitting : Configuration :=
  { Configuration.faultless with commitError := some Status.accessDenied }

/-- Two tasks on that shell, one of them without an icon: neither way succeeds. -/
theorem setUserTasks_agrees_with_update_uncommitted :
    let m : Manager := ⟨⟨"app"⟩⟩
    let tool := Path.ofString "tool"
    let items := [Item.task tool "Run", (Item.task tool "Open").withIcon tool 1]
    let direct := (m.setUserTasks items).run Configuration.answer uncommitting
    let supplied := (m.update (Provider.tasks items)).run Configuration.answer uncommitting
    items ≠ [] ∧ (∀ item ∈ items, item.PlainTask) ∧
      (∀ e ∈ direct.events, e.1.servesTasks → Event.succeeded e) ∧
      supplied.events = direct.events ∧ direct.value = false ∧ supplied.value.outcome ≠ .success := by
  intro m tool items direct supplied
  have hne : items ≠ [] := List.cons_ne_nil _ _
  have htool : tool ≠ Path.empty := by decide
  have hplain : ∀ item ∈ items, item.PlainTask := by
    rw [List.forall_mem_cons, List.forall_mem_singleton]
    exact ⟨⟨rfl, by decide, htool, ⟨⟨"tool", rfl⟩, nofun⟩⟩,
      ⟨rfl, by decide, htool, ⟨⟨"tool", rfl⟩, fun icon h => ⟨"tool", (Option.some.inj h).symm⟩⟩⟩⟩
  have hserved : ∀ e ∈ direct.events, e.1.servesTasks → Event.succeeded e := by decide
  have hvalue : direct.value = false := by decide
  obtain ⟨hevents, -, hiff⟩ :=
    setUserTasks_agrees_with_update m hne hplain Configuration.answer uncommitting hserved
  refine ⟨hne, hplain, hserved, hevents, hvalue, fun hsuccess => ?_⟩
  have htrue : direct.value = true := hiff.mpr hsuccess
  rw [hvalue] at htrue
  cases htrue

end Manager

end JumpList
