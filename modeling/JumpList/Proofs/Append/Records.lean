/-
# JumpList.Proofs.Append.Records — every loss is told, and told once.

Of a category whose collection was created every item has a fate (`Category.Fated`): it is refused as a
separator out of place, or it is tried, and then it is lost or its object is kept.  The records of
appending the category that count as errors are those of the lost items, in their order, and one more if
the objects that were kept are handed over and the shell does not take them (`Category.append_losses`).

So there are no such records exactly if nothing was lost, which is what success means.  This holds of
every category (`Category.place_success_iff_errors`), of any list of categories
(`appendCategories_success_iff_errors`) and of user tasks (`appendUserTasks_whole_iff_errors`); of those
it is no loss if the shell does not take them.
-/
import JumpList.Proofs.Append.Outcome
import JumpList.Proofs.Append.Tasks
import JumpList.Shell.Configured

namespace JumpList

open Native

/-! ## Errors among records -/

namespace Log

/-- The records that count as errors, in order. -/
def errors (records : List Record) : List Record := records.filter fun r => r.level == .error

variable {r : Record} {rs rs' : List Record}

@[simp] theorem errors_nil : errors [] = [] := rfl

@[simp] theorem errors_append : errors (rs ++ rs') = errors rs ++ errors rs' := List.filter_append ..

theorem errors_flatMap {ι : Type} (parts : List ι) (f : ι → List Record) :
    errors (parts.flatMap f) = parts.flatMap fun part => errors (f part) := List.filter_flatMap ..

theorem errors_eq_self (h : ∀ r ∈ rs, r.level = .error) : errors rs = rs :=
  List.filter_eq_self.mpr fun r hr => by rw [h r hr]; rfl

theorem errors_eq_nil_iff : errors rs = [] ↔ ∀ r ∈ rs, r.level ≠ .error := by
  simp [errors, List.filter_eq_nil_iff]

end Log

/-- Whether the call of an event failed. -/
abbrev Native.Event.failed (e : Event) : Bool := !e.succeeded

theorem countP_failed_eq_zero_iff {es : List Event} :
    es.countP Event.failed = 0 ↔ ∀ e ∈ es, e.succeeded := by
  simp [List.countP_eq_zero]

namespace Category

/-! ## The fates of items -/

/-- What became of an item: the events by which it was tried, and the record of its loss if it was
lost. -/
abbrev Fate := List Event × Option Log.Record

/-- An item of a category can have this fate. -/
inductive Fated (c : Category) (item : Item) : Fate → Prop
  | refused : c.refuses item → Fated c item ([], some (Notice.separatorRefused c.nameOrEmpty))
  | tried {es : List Event} {result : Except Failure Unit} :
      c.refuses item = false → item.Tries es result → Fated c item (es, item.loss? result)

/-- The records of the items that were lost, in order. -/
def lost (fates : List Fate) : List Log.Record := fates.filterMap Prod.snd

/-- The objects of the items that were not lost, in order. -/
def kept (items : List Item) (fates : List Fate) : Collection :=
  ((items.zip fates).filter fun p => p.2.2.isNone).map fun p => p.1.object

theorem lost_cons_of_lost (es : List Event) (record : Log.Record) (fates : List Fate) :
    lost ((es, some record) :: fates) = record :: lost fates := rfl

theorem lost_cons_of_kept (es : List Event) (fates : List Fate) :
    lost ((es, none) :: fates) = lost fates := rfl

theorem kept_cons_of_lost (item : Item) (items : List Item) (es : List Event) (record : Log.Record)
    (fates : List Fate) : kept (item :: items) ((es, some record) :: fates) = kept items fates := rfl

theorem kept_cons_of_kept (item : Item) (items : List Item) (es : List Event) (fates : List Fate) :
    kept (item :: items) ((es, none) :: fates) = item.object :: kept items fates := rfl

variable {c : Category} {items : List Item} {item : Item} {fate : Fate} {fates : List Fate}

/-- Every loss is an error. -/
theorem Fated.level_eq_error (h : c.Fated item fate) {record : Log.Record}
    (hrecord : fate.2 = some record) : record.level = .error := by
  cases h with
  | refused =>
    obtain rfl := Option.some.inj hrecord
    rfl
  | @tried es result =>
    rcases result with f | ⟨⟩
    · obtain rfl := Option.some.inj hrecord
      rfl
    · cases hrecord

/-- An item is not lost exactly if it was not refused and no call for it failed. -/
theorem Fated.eq_none_iff (h : c.Fated item fate) :
    fate.2 = none ↔ (∀ e ∈ fate.1, e.succeeded) ∧ c.refuses item = false := by
  cases h with
  | refused hr => simp [hr]
  | @tried es result hr htries =>
    rw [← htries.ok_iff, and_iff_left hr]
    rcases result with f | ⟨⟩
    · exact iff_of_false nofun nofun
    · exact iff_of_true rfl rfl

theorem errors_lost (h : List.Forall₂ c.Fated items fates) : Log.errors (lost fates) = lost fates := by
  refine Log.errors_eq_self fun record hrecord => ?_
  obtain ⟨fate, hfate, heq⟩ := List.mem_filterMap.mp hrecord
  obtain ⟨item, -, hfated⟩ := Dialogue.exists_of_mem_parts h hfate
  exact hfated.level_eq_error heq

/-- Nothing is lost exactly if nothing was refused and no call failed. -/
theorem lost_eq_nil_iff (h : List.Forall₂ c.Fated items fates) :
    lost fates = [] ↔
      (∀ e ∈ fates.flatMap Prod.fst, e.succeeded) ∧ items.any c.refuses = false := by
  induction h with
  | nil => simp [lost]
  | @cons item fate items fates hfated _ ih =>
    have hnone : lost (fate :: fates) = [] ↔ fate.2 = none ∧ lost fates = [] := by
      rcases fate with ⟨es, _ | record⟩ <;> simp [lost]
    rw [hnone, hfated.eq_none_iff, ih, List.flatMap_cons, List.forall_mem_append, List.any_cons,
      Bool.or_eq_false_iff]
    exact and_and_and_comm

/-- Every item is lost or kept. -/
theorem length_lost_add_length_kept (h : List.Forall₂ c.Fated items fates) :
    (lost fates).length + (kept items fates).length = items.length := by
  induction h with
  | nil => rfl
  | @cons item fate items fates _ _ ih =>
    rcases fate with ⟨es, _ | record⟩
    · rw [lost_cons_of_kept, kept_cons_of_kept, List.length_cons, List.length_cons, ← ih]
      omega
    · rw [lost_cons_of_lost, kept_cons_of_lost, List.length_cons, List.length_cons, ← ih]
      omega

variable {σ : Type} (answer : Shell σ)

/-- Gathering gives every item its fate, keeps the objects of the items that are not lost, and leaves
the records of the others. -/
theorem gather_fates (c : Category) (items : List Item) (g : Gathering) (s : σ) :
    let r := (c.gather items g).run answer s
    ∃ fates, List.Forall₂ c.Fated items fates ∧ r.events = fates.flatMap Prod.fst ∧
      r.records = lost fates ∧
      r.value.collection = g.collection ++ kept items fates := by
  -- As in `gather_tries`, what was gathered and the shell's memory both change from item to item.
  induction items generalizing g s with
  | nil => exact ⟨[], .nil, rfl, rfl, (List.append_nil _).symm⟩
  | cons item items ih =>
    intro r
    by_cases hr : c.refuses item
    · obtain ⟨fates, hfates, he, hrecords, hkept⟩ := ih { g with misplaced := true } s
      rw [show r = _ from run_gather_of_refused answer hr items g s]
      refine ⟨_ :: fates, .cons (.refused hr) hfates, he, ?_, hkept⟩
      exact congrArg (Notice.separatorRefused c.nameOrEmpty :: ·) hrecords
    · have htries := item.realize_tries answer s
      obtain ⟨fates, hfates, he, hrecords, hkept⟩ := ih
        (g.extend (item.realized (item.realize.run answer s).value)) (item.realize.run answer s).state
      rw [show r = _ from run_gather_of_tried answer hr items g s]
      refine ⟨_ :: fates, .cons (.tried (by simpa using hr) htries) hfates, ?_, ?_, ?_⟩
      · exact congrArg ((item.realize.run answer s).events ++ ·) he
      · dsimp only
        rw [hrecords]
        rcases (item.realize.run answer s).value with f | ⟨⟩
        · rfl
        · rfl
      · dsimp only
        rw [hkept, Gathering.extend, List.append_assoc]
        rcases (item.realize.run answer s).value with f | ⟨⟩
        · rfl
        · rfl

/-! ## The fate of a category -/

/-- The calls by which the objects of a category are handed over: one, or none if there are no
objects. -/
def handOverCalls (c : Category) (objects : Collection) : List Call :=
  if objects = [] then []
  else if c.kind = .tasks then [.addUserTasks objects]
  else [.appendCategory c.nameOrEmpty objects]

/-- What was gathered is no error, and a refusal is one. -/
theorem length_errors_handOver (c : Category) (count total : Nat) {call : Call} (reply : call.Reply) :
    (Log.errors (Notice.itemsGathered count total c.nameOrEmpty ::
        (c.refusal? reply).toList)).length =
      [(⟨call, reply⟩ : Event)].countP Event.failed := by
  rcases reply with f | a
  · by_cases hk : c.kind = .tasks
    · simp [refusal?, hk, Log.errors, Notice.itemsGathered, Notice.tasksRefused]
    · simp [refusal?, hk, Log.errors, Notice.itemsGathered, Notice.categoryRefused]
  · rfl

/-- Handing over leaves one error if the shell does not take the objects, and none if it does. -/
theorem handOver_errors {c : Category} (hk : c.kind.known? = none) {g : Gathering} (hg : g.Counted)
    (s : σ) :
    let r := (c.handOver g).run answer s
    r.events.map Sigma.fst = c.handOverCalls g.collection ∧
      (Log.errors r.records).length = r.events.countP Event.failed := by
  intro r
  by_cases ho : g.collection = []
  · rw [show r = _ from run_handOver_of_nil answer hg ho s]
    simp [handOverCalls, ho]
  cases hkind : c.kind with
  | frequent => simp [hkind, Kind.known?] at hk
  | recent => simp [hkind, Kind.known?] at hk
  | tasks =>
    rw [show r = _ from run_handOver_of_tasks answer hkind hg ho s]
    exact ⟨by simp [handOverCalls, ho, hkind], c.length_errors_handOver _ _ _⟩
  | custom =>
    rw [show r = _ from run_handOver_of_custom answer hkind hg ho s]
    exact ⟨by simp [handOverCalls, ho, hkind], c.length_errors_handOver _ _ _⟩

/-- The errors `errs` of appending a category whose collection was created, with the events `es`, tell
of every loss, once: one for each item that is not in the collection, and one more if the collection was
handed over and not taken. -/
structure TellsLosses (c : Category) (fates : List Fate) (final es : List Event)
    (errs : List Log.Record) : Prop where
  /-- There is a fate for each item, in order. -/
  fated : List.Forall₂ c.Fated c.items fates
  /-- Items are tried in order, and after that the objects are handed over. -/
  events : es = ⟨.createObjectCollection, .ok ()⟩ :: (fates.flatMap Prod.fst ++ final)
  /-- What is handed over is what was kept. -/
  handsOver : final.map Sigma.fst = c.handOverCalls (kept c.items fates)
  /-- The losses of items come first. -/
  errors : ∃ refusal, errs = lost fates ++ refusal ∧ refusal.length = final.countP Event.failed
  /-- There are no more errors than losses, and no fewer. -/
  count : errs.length + (kept c.items fates).length = c.items.length + final.countP Event.failed

/-- Appending a category whose collection was created tells of every loss, once. -/
theorem append_losses {c : Category} (hk : c.kind.known? = none) (hi : c.items ≠ []) {s : σ}
    (hcreate : (answer .createObjectCollection s).1 = .ok ()) :
    ∃ fates final, c.TellsLosses fates final (c.append.run answer s).events
      (Log.errors (c.append.run answer s).records) := by
  rcases hc : answer .createObjectCollection s with ⟨f | ⟨⟨⟩⟩, s₁⟩
  · rw [hc] at hcreate
    cases hcreate
  obtain ⟨fates, hfates, he, hrecords, hkept⟩ := c.gather_fates answer c.items (.holding [] false) s₁
  rw [Gathering.collection_holding, List.nil_append] at hkept
  have hcounted := c.gather_counted answer c.items (Gathering.counted_holding [] false) s₁
  obtain ⟨hcalls, hrefusal⟩ := handOver_errors answer hk hcounted
    ((c.gather c.items (.holding [] false)).run answer s₁).state
  rw [hkept] at hcalls
  rw [append_eq hk hi]
  simp only [Dialogue.run_bind, run_call, hc, he, hrecords, List.nil_append, Log.errors_append,
    errors_lost hfates]
  have hlength := length_lost_add_length_kept hfates
  refine ⟨fates, _, hfates, rfl, hcalls, ⟨_, rfl, hrefusal⟩, ?_⟩
  rw [List.length_append, hrefusal]
  omega

open JumpList.Shell (Configuration) in
/-- A line that is out of place, a file that cannot be resolved, and a refusal of what is left. -/
example :
    let missing := Path.ofString "missing"
    let cfg : Configuration :=
      { Configuration.faultless with
        unresolvableFiles := [missing]
        appendCategoryErrors := [("Files", Status.accessDenied)] }
    let c := Category.custom "Files" [.separator, .file missing, .file (Path.ofString "notes")]
    (Log.errors (c.append.run Configuration.answer cfg).records).length = 3 := by
  decide

/-- There are no errors exactly if every call for the category succeeded and it keeps separators out. -/
theorem TellsLosses.errors_eq_nil_iff {c : Category} (hk : c.kind.known? = none) {fates : List Fate}
    {final es : List Event} {errs : List Log.Record} (h : c.TellsLosses fates final es errs) :
    errs = [] ↔ (∀ e ∈ es, e.succeeded) ∧ c.KeepsSeparatorsOut := by
  obtain ⟨refusal, herrs, hrefusal⟩ := h.errors
  have hfinal : refusal = [] ↔ ∀ e ∈ final, e.succeeded := by
    rw [← countP_failed_eq_zero_iff, ← hrefusal, List.length_eq_zero_iff]
  rw [herrs, List.append_eq_nil_iff, lost_eq_nil_iff h.fated, hfinal, h.events,
    forall_succeeded_created, List.forall_mem_append, any_refuses_eq_false_iff hk]
  exact and_right_comm

/-- Appending a category succeeds exactly if it leaves no error. -/
theorem append_success_iff_errors {c : Category} (hk : c.kind.known? = none) (s : σ) :
    (c.append.run answer s).value = .success ↔ Log.errors (c.append.run answer s).records = [] := by
  by_cases hi : c.items = []
  · simp [append, hi]
  rcases hc : answer .createObjectCollection s with ⟨f | ⟨⟨⟩⟩, s₁⟩
  · simp [append_eq hk hi, Dialogue.run_bind, hc, Log.errors, Notice.noCollection]
  · -- Success and the absence of errors mean the same of the events.
    obtain ⟨calls, hcourse⟩ := append_course answer hk s
    obtain ⟨fates, final, hlosses⟩ := append_losses answer hk hi (s := s) (by rw [hc])
    rw [hcourse.success_iff, hlosses.errors_eq_nil_iff hk]

/-- Putting a category on the list succeeds exactly if it leaves no error. -/
theorem place_success_iff_errors (c : Category) (s : σ) :
    (c.place.run answer s).value = .success ↔ Log.errors (c.place.run answer s).records = [] := by
  have known (k : KnownCategory) : ((appendKnown k).run answer s).value = .success ↔
      Log.errors ((appendKnown k).run answer s).records = [] := by
    rcases ha : answer (.appendKnownCategory k) s with ⟨f | ⟨⟨⟩⟩, s'⟩
    · simp [appendKnown, Dialogue.run_bind, ha, Log.errors, Notice.knownCategoryRefused]
    · simp [appendKnown, Dialogue.run_bind, ha]
  unfold place
  split
  case h_1 hk => exact append_success_iff_errors answer (by rw [hk]; rfl) s
  case h_2 hk => exact append_success_iff_errors answer (by rw [hk]; rfl) s
  case h_3 => exact known .recent
  case h_4 => exact known .frequent

end Category

/-! ## All categories -/

variable {σ : Type} (answer : Shell σ)

/-- Appending categories succeeds exactly if it leaves no error. -/
theorem appendCategories_success_iff_errors (cs : List Category) (s : σ) :
    ((appendCategories cs).run answer s).value = .success ↔
      Log.errors ((appendCategories cs).run answer s).records = [] := by
  obtain ⟨hvalue, -, hrecords⟩ := Dialogue.run_mapM answer Category.place cs s
  have herrors : Log.errors ((appendCategories cs).run answer s).records =
      Log.errors ((cs.mapM Category.place).run answer s).records := by
    -- That the categories were gone through is no error.
    simp [appendCategories, placeAll_eq, Dialogue.run_bind, Log.errors, Notice.categoriesProcessed]
  rw [appendCategories_value, herrors, hrecords, Log.errors_flatMap, List.flatMap_eq_nil_iff, hvalue,
    Outcome.mergeAll_eq_success_iff, and_iff_right rfl, List.forall_mem_map]
  refine forall₂_congr fun p _ => ?_
  exact p.1.place_success_iff_errors answer p.2

/-! ## User tasks -/

/-- User tasks are all gathered exactly if that leaves no error. -/
theorem gatherTasks_isSome_iff_errors (items : List Item) (collection : Collection) (s : σ) :
    ((gatherTasks items collection).run answer s).value.isSome ↔
      Log.errors ((gatherTasks items collection).run answer s).records = [] := by
  induction items generalizing collection s with
  | nil => exact iff_of_true rfl rfl
  | cons item items ih =>
    by_cases hk : item.kind = .task
    · rcases hv : (item.realize.run answer s).value with f | ⟨⟩
      · rw [run_gatherTasks_of_unbuilt answer hk hv]
        exact iff_of_false Bool.false_ne_true (List.cons_ne_nil _ _)
      · rw [run_gatherTasks_of_built answer hk hv]
        exact ih _ _
    · rw [run_gatherTasks_of_other answer hk]
      exact iff_of_false Bool.false_ne_true (List.cons_ne_nil _ _)

/-- User tasks are appended exactly if that leaves no error.  It leaves none if the shell does not take
them. -/
theorem appendUserTasks_whole_iff_errors (items : List Item) (s : σ) :
    ((appendUserTasks items).run answer s).value = true ↔
      Log.errors ((appendUserTasks items).run answer s).records = [] := by
  rcases hc : answer .createObjectCollection s with ⟨f | ⟨⟨⟩⟩, s₁⟩
  · simp [appendUserTasks, Dialogue.run_bind, hc, Log.errors, Notice.noTaskCollection]
  have hgathered := gatherTasks_isSome_iff_errors answer items [] s₁
  cases hv : ((gatherTasks items []).run answer s₁).value with
  | none =>
    rw [hv] at hgathered
    rw [run_appendUserTasks_of_givenUp answer hc hv]
    exact hgathered
  | some collection =>
    -- What the shell says of the tasks leaves at most a remark.
    rw [hv] at hgathered
    have hnone := hgathered.mp rfl
    rcases ha : answer (.addUserTasks collection) ((gatherTasks items []).run answer s₁).state with
      ⟨f | ⟨⟨⟩⟩, s₂⟩
    · have hremark : Log.errors [Notice.userTasksRefused items.length f] = [] := rfl
      simp [appendUserTasks, Dialogue.run_bind, hc, hv, ha, hnone, hremark]
    · simp [appendUserTasks, Dialogue.run_bind, hc, hv, ha, hnone]

end JumpList
