/-
# JumpList.Proofs.Append.Course — the ways in which a category can go.

A category that the shell fills is switched on by one call.  Any other category goes one of four ways: it
has no items and nothing happens; there is no collection for it; none of its items can be built; or the
objects of the items that were built are handed over in one call.  `Category.Course` lists these ways, with
the events, the calls that put something on the list, and the outcome of each, and `place_course` says that
there is no other.  The counter of the built items always tells how many objects the collection holds
(`gather_counted`), so that it makes no difference by which of the two the way is chosen.
-/
import JumpList.Append
import JumpList.Proofs.Build

namespace JumpList

open Native

/-- The calls among events that put something on the list. -/
def handOvers (es : List Event) : List Call := (es.map Sigma.fst).filter Call.handsOver

theorem handOvers_append (xs ys : List Event) :
    handOvers (xs ++ ys) = handOvers xs ++ handOvers ys := by
  simp [handOvers]

theorem handOvers_flatMap {ι : Type} (parts : List ι) (f : ι → List Event) :
    handOvers (parts.flatMap f) = parts.flatMap fun part => handOvers (f part) := by
  simp [handOvers, List.map_flatMap, List.filter_flatMap]

theorem handOvers_cons_of_false {e : Event} (h : e.1.handsOver = false) (es : List Event) :
    handOvers (e :: es) = handOvers es := by
  simp [handOvers, h]

theorem handOvers_eq_nil {es : List Event} (h : ∀ e ∈ es, e.1.handsOver = false) :
    handOvers es = [] := by
  refine List.filter_eq_nil_iff.mpr fun c hc => ?_
  obtain ⟨e, he, rfl⟩ := List.mem_map.mp hc
  rw [h e he]
  exact Bool.false_ne_true

/-- The outcome of something that is done in one call. -/
def Outcome.ofReply {α : Type} : Except Failure α → Outcome
  | .ok _ => .success
  | .error _ => .genericError

/-- The outcome of a custom category after the shell was handed what was gathered: what the shell says
counts for more, if it is specific. -/
def Outcome.settled {α : Type} (gathered : Outcome) : Except Failure α → Outcome
  | .ok _ => gathered
  | .error f => if (ofRefusal f.status).isSpecific then ofRefusal f.status else gathered.spoiled

/-- The counter tells how many objects the collection holds. -/
def Gathering.Counted (g : Gathering) : Prop := g.built = g.collection.length

/-- What was gathered when these objects came of the items. -/
def Gathering.holding (objects : Collection) (misplaced : Bool) : Gathering :=
  ⟨objects, objects.length, misplaced⟩

/-- What was gathered after more objects came of further items. -/
def Gathering.extend (g : Gathering) (objects : Collection) : Gathering :=
  { g with collection := g.collection ++ objects, built := g.built + objects.length }

namespace Gathering

@[simp] theorem collection_holding (objects : Collection) (misplaced : Bool) :
    (holding objects misplaced).collection = objects := rfl

theorem counted_holding (objects : Collection) (misplaced : Bool) :
    (holding objects misplaced).Counted := rfl

theorem extend_holding (held objects : Collection) (misplaced : Bool) :
    (holding held misplaced).extend objects = holding (held ++ objects) misplaced := by
  simp [extend, holding]

/-- Something was counted if there is an object. -/
theorem Counted.built_ne_zero {g : Gathering} (hg : g.Counted) (h : g.collection ≠ []) :
    g.built ≠ 0 := by
  rw [hg]
  exact Nat.ne_of_gt (List.length_pos_iff.mpr h)

theorem Counted.extend {g : Gathering} (hg : g.Counted) (objects : Collection) :
    (g.extend objects).Counted := by
  show g.built + objects.length = (g.collection ++ objects).length
  rw [hg, List.length_append]

end Gathering

/-- The category that the shell fills, if it is one. -/
def Category.Kind.known? : Category.Kind → Option KnownCategory
  | .frequent => some .frequent
  | .recent => some .recent
  | .tasks | .custom => none

/-- The record of the loss of an item, given what came of building it. -/
def Item.loss? (item : Item) : Except Failure Unit → Option Log.Record
  | .ok () => none
  | .error f => some (Notice.itemLost item f)

namespace Category

/-! ## Items -/

/-- The items of a category that are tried at all: no separators but in the tasks. -/
def attempted (c : Category) : List Item := c.items.filter fun item => !c.refuses item

/-- The objects of the attempted items that were built. -/
def objects (c : Category) (tries : List Item.Try) : Collection :=
  realizedAll c.attempted tries

/-- The outcome of gathering, if these objects are what came of the items. -/
def gathered (c : Category) (objects : Collection) : Outcome :=
  (Gathering.holding objects (c.items.any c.refuses)).outcome c.items.length

variable {σ : Type} (answer : Shell σ)

/-- An item that is refused leaves nothing but a record. -/
theorem run_gather_of_refused {c : Category} {item : Item} (h : c.refuses item) (items : List Item)
    (g : Gathering) (s : σ) :
    (c.gather (item :: items) g).run answer s =
      let rest := (c.gather items { g with misplaced := true }).run answer s
      { rest with records := Notice.separatorRefused c.nameOrEmpty :: rest.records } := by
  simp [gather, h, Dialogue.run_bind]

/-- An item that is not refused is tried, and the rest gathered onto what is there then. -/
theorem run_gather_of_tried {c : Category} {item : Item} (h : ¬ c.refuses item) (items : List Item)
    (g : Gathering) (s : σ) :
    (c.gather (item :: items) g).run answer s =
      let tried := item.realize.run answer s
      let rest := (c.gather items (g.extend (item.realized tried.value))).run answer tried.state
      ⟨rest.value, rest.state, tried.events ++ rest.events,
        (item.loss? tried.value).toList ++ rest.records⟩ := by
  rcases hv : (item.realize.run answer s).value with f | ⟨⟩
  · simp [gather, h, Collection.add_eq, Dialogue.run_bind, hv, Item.loss?, Item.realized,
      Gathering.extend]
  · simp [gather, h, Collection.add_eq, Dialogue.run_bind, hv, Item.loss?, Item.realized,
      Gathering.extend]

/-- Gathering tries the items that are not refused, in order, and keeps what was built. -/
theorem gather_tries (c : Category) (items : List Item) (g : Gathering) (s : σ) :
    ∃ tries,
      Item.TriesAll (items.filter fun item => !c.refuses item) tries ∧
        ((c.gather items g).run answer s).events = tries.flatMap Prod.fst ∧
        ((c.gather items g).run answer s).value =
          { g with misplaced := g.misplaced || items.any c.refuses }.extend
            (realizedAll (items.filter fun item => !c.refuses item) tries) := by
  -- What was gathered and the shell's memory both change from item to item.
  induction items generalizing g s with
  | nil => exact ⟨[], .nil, by simp [gather], by simp [gather, realizedAll, Gathering.extend]⟩
  | cons item items ih =>
    by_cases hr : c.refuses item
    · obtain ⟨tries, ht, he, hv⟩ := ih { g with misplaced := true } s
      rw [run_gather_of_refused answer hr]
      exact ⟨tries, by simpa [hr] using ht, he, by simpa [hr] using hv⟩
    · obtain ⟨tries, ht, he, hv⟩ := ih
        (g.extend (item.realized (item.realize.run answer s).value)) (item.realize.run answer s).state
      refine ⟨((item.realize.run answer s).events, (item.realize.run answer s).value) :: tries,
        ?_, ?_, ?_⟩
      · rw [List.filter_cons_of_pos (by simpa using hr)]
        exact .cons (item.realize_tries answer s) ht
      · rw [run_gather_of_tried answer hr]
        dsimp only
        rw [he]
        rfl
      · rw [run_gather_of_tried answer hr]
        dsimp only
        rw [hv]
        simp [hr, realizedAll, Gathering.extend, Nat.add_assoc]

/-- Gathering keeps count of the objects. -/
theorem gather_counted (c : Category) (items : List Item) {g : Gathering} (h : g.Counted) (s : σ) :
    ((c.gather items g).run answer s).value.Counted := by
  obtain ⟨tries, -, -, hv⟩ := c.gather_tries answer items g s
  rw [hv]
  exact Gathering.Counted.extend h _

/-- Gathering a whole category. -/
theorem gather_items (c : Category) (s : σ) :
    ∃ tries, Item.TriesAll c.attempted tries ∧
      ((c.gather c.items (.holding [] false)).run answer s).events = tries.flatMap Prod.fst ∧
      ((c.gather c.items (.holding [] false)).run answer s).value =
        .holding (c.objects tries) (c.items.any c.refuses) := by
  obtain ⟨tries, ht, he, hv⟩ := c.gather_tries answer c.items (.holding [] false) s
  refine ⟨tries, ht, he, ?_⟩
  rw [hv]
  exact Gathering.extend_holding [] (c.objects tries) _

/-! ## Categories -/

/-- A category can go this way: the events, the calls among them that put something on the list, and
the outcome. -/
inductive Course (c : Category) : List Event → List Call → Outcome → Prop
  | known {k : KnownCategory} (reply : Call.Reply (.appendKnownCategory k)) :
      c.kind.known? = some k →
      Course c [⟨.appendKnownCategory k, reply⟩] [.appendKnownCategory k] (.ofReply reply)
  | empty : c.kind.known? = none → c.items = [] → Course c [] [] .success
  | uncollected (f : Failure) :
      c.kind.known? = none → c.items ≠ [] →
      Course c [⟨.createObjectCollection, .error f⟩] [] .genericError
  | unbuilt {tries : List Item.Try} :
      c.kind.known? = none → c.items ≠ [] →
      Item.TriesAll c.attempted tries →
      c.objects tries = [] →
      Course c (⟨.createObjectCollection, .ok ()⟩ :: tries.flatMap Prod.fst) [] (c.gathered [])
  | tasks {tries : List Item.Try} (reply : Call.Reply (.addUserTasks (c.objects tries))) :
      c.kind = .tasks → c.items ≠ [] →
      Item.TriesAll c.attempted tries →
      c.objects tries ≠ [] →
      Course c
        (⟨.createObjectCollection, .ok ()⟩ ::
          (tries.flatMap Prod.fst ++ [⟨.addUserTasks (c.objects tries), reply⟩]))
        [.addUserTasks (c.objects tries)]
        ((c.gathered (c.objects tries)).merge (.ofReply reply))
  | custom {tries : List Item.Try}
      (reply : Call.Reply (.appendCategory c.nameOrEmpty (c.objects tries))) :
      c.kind = .custom → c.items ≠ [] →
      Item.TriesAll c.attempted tries →
      c.objects tries ≠ [] →
      Course c
        (⟨.createObjectCollection, .ok ()⟩ ::
          (tries.flatMap Prod.fst ++ [⟨.appendCategory c.nameOrEmpty (c.objects tries), reply⟩]))
        [.appendCategory c.nameOrEmpty (c.objects tries)]
        ((c.gathered (c.objects tries)).settled reply)

namespace Course

variable {c : Category} {es : List Event} {calls : List Call} {outcome : Outcome}

/-- No other calls put anything on the list. -/
theorem handOvers_eq (h : c.Course es calls outcome) : handOvers es = calls := by
  cases h with
  | known reply hk => rfl
  | empty hk hi => rfl
  | uncollected f hk hi => rfl
  | unbuilt hk hi ht ho =>
    have hover := ht.forall_calls Item.script_not_handsOver
    rw [handOvers_cons_of_false rfl, handOvers_eq_nil hover]
  | tasks reply hk hi ht ho =>
    have hover := ht.forall_calls Item.script_not_handsOver
    rw [handOvers_cons_of_false rfl, handOvers_append, handOvers_eq_nil hover]
    rfl
  | custom reply hk hi ht ho =>
    have hover := ht.forall_calls Item.script_not_handsOver
    rw [handOvers_cons_of_false rfl, handOvers_append, handOvers_eq_nil hover]
    rfl

end Course

/-- The record of a category that the shell does not take, given what the shell says. -/
def refusal? {α : Type} (c : Category) : Except Failure α → Option Log.Record
  | .ok _ => none
  | .error f => some <|
    if c.kind = .tasks then Notice.tasksRefused f
    else Notice.categoryRefused c.nameOrEmpty (.ofRefusal f.status) f

/-- Handing over nothing is not asked of the shell. -/
theorem run_handOver_of_nil {c : Category} {g : Gathering} (hg : g.Counted)
    (h : g.collection = []) (s : σ) :
    (c.handOver g).run answer s = ⟨g.outcome c.items.length, s, [], []⟩ := by
  have hzero : g.built = 0 := by rw [hg, h, List.length_nil]
  simp [handOver, hzero]

/-- The objects of the tasks are handed over in one call. -/
theorem run_handOver_of_tasks {c : Category} {g : Gathering} (hk : c.kind = .tasks)
    (hg : g.Counted) (h : g.collection ≠ []) (s : σ) :
    (c.handOver g).run answer s =
      let (reply, s') := answer (.addUserTasks g.collection) s
      ⟨(g.outcome c.items.length).merge (.ofReply reply), s', [⟨.addUserTasks g.collection, reply⟩],
        Notice.itemsGathered g.built c.items.length c.nameOrEmpty ::
          (c.refusal? reply).toList⟩ := by
  have hne : g.built ≠ 0 := hg.built_ne_zero h
  rcases hr : answer (.addUserTasks g.collection) s with ⟨f | ⟨⟨⟩⟩, s'⟩
  · simp [handOver, handOverTasks, hne, hk, Dialogue.run_bind, hr, Outcome.ofReply,
      Outcome.spoiled, refusal?]
  · simp [handOver, handOverTasks, hne, hk, Dialogue.run_bind, hr, Outcome.ofReply, refusal?]

/-- The objects of a custom category are handed over in one call. -/
theorem run_handOver_of_custom {c : Category} {g : Gathering} (hk : c.kind = .custom)
    (hg : g.Counted) (h : g.collection ≠ []) (s : σ) :
    (c.handOver g).run answer s =
      let (reply, s') := answer (.appendCategory c.nameOrEmpty g.collection) s
      ⟨(g.outcome c.items.length).settled reply, s',
        [⟨.appendCategory c.nameOrEmpty g.collection, reply⟩],
        Notice.itemsGathered g.built c.items.length c.nameOrEmpty ::
          (c.refusal? reply).toList⟩ := by
  have hne : g.built ≠ 0 := hg.built_ne_zero h
  rcases hr : answer (.appendCategory c.nameOrEmpty g.collection) s with ⟨f | ⟨⟨⟩⟩, s'⟩
  · simp [handOver, handOverCustom, hne, hk, Dialogue.run_bind, hr, Outcome.settled, refusal?]
  · simp [handOver, handOverCustom, hne, hk, Dialogue.run_bind, hr, Outcome.settled, refusal?]

/-- Switching on a category is one call. -/
theorem run_appendKnown (k : KnownCategory) (s : σ) :
    let reply := (answer (.appendKnownCategory k) s).1
    ((appendKnown k).run answer s).events = [⟨.appendKnownCategory k, reply⟩] ∧
      ((appendKnown k).run answer s).value = .ofReply reply := by
  intro reply
  rcases hr : answer (.appendKnownCategory k) s with ⟨f | ⟨⟨⟩⟩, s'⟩
  · simp [appendKnown, Dialogue.run_bind, reply, hr, Outcome.ofReply]
  · simp [appendKnown, Dialogue.run_bind, reply, hr, Outcome.ofReply]

/-- A category that the shell does not fill is gathered into a collection and handed over. -/
theorem append_eq {c : Category} (hk : c.kind.known? = none) (hi : c.items ≠ []) :
    c.append = (do
      match ← call .createObjectCollection with
      | .error e =>
        note (Notice.noCollection e)
        return .genericError
      | .ok () => c.handOver (← c.gather c.items (.holding [] false))) := by
  have hne : ¬ c.items.isEmpty := by simpa using hi
  unfold append
  rw [if_neg hne]
  cases h : c.kind with
  | frequent => simp [h, Kind.known?] at hk
  | recent => simp [h, Kind.known?] at hk
  | tasks | custom => rfl

/-- After its items were gathered a category goes one of the last three ways. -/
theorem handOver_course {c : Category} (hk : c.kind.known? = none) (hi : c.items ≠ [])
    {tries : List Item.Try} (ht : Item.TriesAll c.attempted tries) (s : σ) :
    let r := (c.handOver (.holding (c.objects tries) (c.items.any c.refuses))).run answer s
    ∃ calls, c.Course (⟨.createObjectCollection, .ok ()⟩ :: (tries.flatMap Prod.fst ++ r.events))
      calls r.value := by
  intro r
  by_cases ho : c.objects tries = []
  · have hr : r = ⟨c.gathered [], s, [], []⟩ := by
      show (c.handOver (.holding (c.objects tries) (c.items.any c.refuses))).run answer s = _
      rw [ho, run_handOver_of_nil answer (Gathering.counted_holding ..) rfl]
      rfl
    rw [hr, List.append_nil]
    exact ⟨_, .unbuilt hk hi ht ho⟩
  cases hkind : c.kind with
  | frequent => simp [hkind, Kind.known?] at hk
  | recent => simp [hkind, Kind.known?] at hk
  | tasks =>
    rw [show r = _ from run_handOver_of_tasks answer hkind (Gathering.counted_holding ..) ho s]
    exact ⟨_, .tasks _ hkind hi ht ho⟩
  | custom =>
    rw [show r = _ from run_handOver_of_custom answer hkind (Gathering.counted_holding ..) ho s]
    exact ⟨_, .custom _ hkind hi ht ho⟩

/-- A category that the shell does not fill goes one of the ways. -/
theorem append_course {c : Category} (hk : c.kind.known? = none) (s : σ) :
    ∃ calls, c.Course (c.append.run answer s).events calls (c.append.run answer s).value := by
  by_cases hi : c.items = []
  · exact ⟨[], by simpa [append, hi] using .empty hk hi⟩
  rw [append_eq hk hi]
  rcases hcreate : answer .createObjectCollection s with ⟨f | ⟨⟨⟩⟩, s₁⟩
  · exact ⟨[], by simpa [Dialogue.run_bind, hcreate] using .uncollected f hk hi⟩
  obtain ⟨tries, ht, he, hv⟩ := c.gather_items answer s₁
  simp only [Dialogue.run_bind, run_call, hcreate, he, hv]
  exact handOver_course answer hk hi ht _

/-- Every category goes one of the ways. -/
theorem place_course (c : Category) (s : σ) :
    c.Course (c.place.run answer s).events (handOvers (c.place.run answer s).events)
      (c.place.run answer s).value := by
  -- It is enough to know the way: the calls can be read off it.
  have h : ∃ calls,
      c.Course (c.place.run answer s).events calls (c.place.run answer s).value := by
    unfold place
    split
    case h_1 hk => exact append_course answer (by rw [hk]; rfl) s
    case h_2 hk => exact append_course answer (by rw [hk]; rfl) s
    case h_3 hk =>
      obtain ⟨he, hv⟩ := run_appendKnown answer .recent s
      rw [he, hv]
      exact ⟨_, .known _ (by rw [hk]; rfl)⟩
    case h_4 hk =>
      obtain ⟨he, hv⟩ := run_appendKnown answer .frequent s
      rw [he, hv]
      exact ⟨_, .known _ (by rw [hk]; rfl)⟩
  obtain ⟨calls, h⟩ := h
  rwa [h.handOvers_eq]

end Category

/-! ## All categories -/

variable {σ : Type} (answer : Shell σ)

/-- Putting categories on the list is doing so with each of them, and merging the outcomes. -/
theorem placeAll_eq (outcome : Outcome) (cs : List Category) :
    placeAll outcome cs = outcome.mergeAll <$> cs.mapM Category.place := by
  induction cs generalizing outcome with
  | nil => simp [placeAll, Outcome.mergeAll]
  | cons c cs ih =>
    simp only [placeAll, ih, List.mapM_cons, map_eq_pure_bind, bind_assoc, pure_bind,
      Outcome.mergeAll, List.foldl_cons]

/-- Appending categories asks what putting each of them on the list asks, and merges the outcomes. -/
theorem run_appendCategories (cs : List Category) (s : σ) :
    let r := (appendCategories cs).run answer s
    let placed := (cs.mapM Category.place).run answer s
    r.events = placed.events ∧ r.state = placed.state ∧
      r.value = Outcome.mergeAll .success placed.value := by
  simp [appendCategories, placeAll_eq, Dialogue.run_bind]

/-- The outcome of categories is that of each, merged. -/
theorem appendCategories_value (cs : List Category) (s : σ) :
    ((appendCategories cs).run answer s).value =
      Outcome.mergeAll .success ((cs.mapM Category.place).run answer s).value :=
  (run_appendCategories answer cs s).2.2

/-- A single category decides on the outcome of all. -/
theorem run_appendCategories_singleton (c : Category) (s : σ) :
    ((appendCategories [c]).run answer s).value = (c.place.run answer s).value ∧
      ((appendCategories [c]).run answer s).events = (c.place.run answer s).events := by
  simp [appendCategories, placeAll, Dialogue.run_bind]

/-- A run for a list of categories has one part for each of them, and the outcomes are merged. -/
theorem appendCategories_parts (cs : List Category) (s : σ) :
    ∃ parts : List (List Event × Outcome),
      List.Forall₂ (fun c part => c.Course part.1 (handOvers part.1) part.2) cs parts ∧
        ((appendCategories cs).run answer s).events = parts.flatMap Prod.fst ∧
        ((cs.mapM Category.place).run answer s).value = parts.map Prod.snd := by
  obtain ⟨parts, hparts, he, hv⟩ := Dialogue.exists_parts_of_mapM answer Category.place
    (R := fun c es outcome => c.Course es (handOvers es) outcome)
    (fun c s => c.place_course answer s) cs s
  exact ⟨parts, hparts, (run_appendCategories answer cs s).1.trans he, hv⟩

end JumpList
