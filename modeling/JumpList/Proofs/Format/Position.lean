/-
# JumpList.Proofs.Format.Position — an error tells the first place that does not fit.

Reading goes through two lists, the categories and the items of each category, and stops at the
first element that cannot be read.  The error is that of the element, wrapped in its position.
`RejectsFirst` is what this means for either list: the position is the least one, what stands behind it
makes no difference, and what can be read in front of it only moves it.

An error of an item is a fault of that item and has no position of its own (`readItem_faults`).  An
error of a category has one exactly if the category holds items, and then it is that of the first item
that does not fit (`readCategory_eq_item_error_iff`).  So there are at most two positions, and
`rejection_tells_first_place` puts all of this together.
-/
import JumpList.Proofs.Format.Grammar

namespace JumpList.Format

open Json (Members)

variable {α : Type}

/-! ## The first element that cannot be read -/

/-- The element at `index` is the first that cannot be read, and `cause` is why. -/
structure FirstMisfit (read : Json → Except Error α) (elements : List Json) (index : Nat)
    (cause : Error) : Prop where
  misfit : ∃ j, elements[index]? = some j ∧ read j = .error cause
  least : ∀ i < index, ∀ j, elements[i]? = some j → ∃ a, read j = .ok a

variable {read : Json → Except Error α} {elements : List Json} {index : Nat} {cause : Error}

/-- The first element that cannot be read splits the elements. -/
theorem firstMisfit_iff :
    FirstMisfit read elements index cause ↔
      ∃ before j after, elements = before ++ j :: after ∧ before.length = index ∧
        (∀ b ∈ before, ∃ a, read b = .ok a) ∧ read j = .error cause := by
  constructor
  · rintro ⟨⟨j, hj, hcause⟩, hleast⟩
    obtain ⟨hlt, hget⟩ := List.getElem?_eq_some_iff.mp hj
    refine ⟨elements.take index, j, elements.drop (index + 1), ?_, ?_, ?_, hcause⟩
    · rw [← hget, List.getElem_cons_drop, List.take_append_drop]
    · exact List.length_take_of_le (Nat.le_of_lt hlt)
    · intro b hb
      obtain ⟨i, hi, hbi⟩ := List.mem_take_iff_getElem.mp hb
      refine hleast i (by omega) b ?_
      rw [← hbi]
      exact List.getElem?_eq_getElem (by omega)
  · rintro ⟨before, j, after, rfl, rfl, hbefore, hcause⟩
    refine ⟨⟨j, by simp, hcause⟩, fun i hi b hb => ?_⟩
    rw [List.getElem?_append_left hi] at hb
    exact hbefore b (List.mem_of_getElem? hb)

/-- An array is rejected exactly if it has an element that cannot be read, at the first of them. -/
theorem readEach_eq_error_iff_firstMisfit {place : Nat → Error → Error} {e : Error} :
    readEach place read 0 elements = .error e ↔
      ∃ index cause, e = place index cause ∧ FirstMisfit read elements index cause := by
  rw [readEach_eq_error_iff]
  constructor
  · rintro ⟨before, j, after, cause, hsplit, hbefore, hcause, rfl⟩
    rw [Nat.zero_add]
    exact ⟨before.length, cause, rfl,
      firstMisfit_iff.mpr ⟨before, j, after, hsplit, rfl, hbefore, hcause⟩⟩
  · rintro ⟨index, cause, rfl, hfirst⟩
    obtain ⟨before, j, after, hsplit, rfl, hbefore, hcause⟩ := firstMisfit_iff.mp hfirst
    exact ⟨before, j, after, cause, hsplit, hbefore, hcause, by rw [Nat.zero_add]⟩

/-- Nothing behind the first element that cannot be read makes a difference. -/
theorem FirstMisfit.append (h : FirstMisfit read elements index cause) (after : List Json) :
    FirstMisfit read (elements ++ after) index cause := by
  obtain ⟨before, j, rest, rfl, hlength, hbefore, hcause⟩ := firstMisfit_iff.mp h
  refine firstMisfit_iff.mpr ⟨before, j, rest ++ after, ?_, hlength, hbefore, hcause⟩
  rw [List.append_assoc, List.cons_append]

/-- What can be read in front of it moves the first element that cannot be read. -/
theorem FirstMisfit.prepend (h : FirstMisfit read elements index cause) {accepted : List Json}
    (haccepted : ∀ b ∈ accepted, ∃ a, read b = .ok a) :
    FirstMisfit read (accepted ++ elements) (accepted.length + index) cause := by
  obtain ⟨before, j, rest, rfl, rfl, hbefore, hcause⟩ := firstMisfit_iff.mp h
  refine firstMisfit_iff.mpr ⟨accepted ++ before, j, rest, ?_, List.length_append, ?_, hcause⟩
  · rw [List.append_assoc]
  · exact List.forall_mem_append.mpr ⟨haccepted, hbefore⟩

/-! ## Reading an array -/

/-- An array is read element by element, and rejected for the first element that cannot be read. -/
structure RejectsFirst (place : Nat → Error → Error) (read : Json → Except Error α)
    (readAll : Json → Except Error (List α)) : Prop where
  /-- Only what is no array is rejected for being none. -/
  notAnArray : ∀ j, readAll j = .error .notAnArray ↔ ∀ elements, j ≠ .array elements
  /-- An array is rejected with the error of its first misfit, at the position of that. -/
  misfit : ∀ elements e, readAll (.array elements) = .error e ↔
    ∃ index cause, e = place index cause ∧ FirstMisfit read elements index cause
  /-- What is put behind does not change the error. -/
  append : ∀ elements after e, readAll (.array elements) = .error e →
    readAll (.array (elements ++ after)) = .error e
  /-- What can be read and is put in front only moves the position. -/
  prepend : ∀ accepted elements index cause, (∀ b ∈ accepted, ∃ a, read b = .ok a) →
    readAll (.array elements) = .error (place index cause) →
    readAll (.array (accepted ++ elements)) = .error (place (accepted.length + index) cause)

/-- A reader that goes through an array and knows the positions apart rejects by the first misfit. -/
theorem rejectsFirst_of_readEach {place : Nat → Error → Error}
    {readAll : Json → Except Error (List α)}
    (hplace : ∀ i c, place i c ≠ .notAnArray)
    (hinj : ∀ {i c i' c'}, place i c = place i' c' → i = i' ∧ c = c')
    (harray : ∀ elements, readAll (.array elements) = readEach place read 0 elements)
    (hother : ∀ j, (∀ elements, j ≠ .array elements) → readAll j = .error .notAnArray) :
    RejectsFirst place read readAll := by
  have hmisfit : ∀ elements e, readAll (.array elements) = .error e ↔
      ∃ index cause, e = place index cause ∧ FirstMisfit read elements index cause := by
    intro elements e
    rw [harray, readEach_eq_error_iff_firstMisfit]
  refine ⟨fun j => ⟨?_, hother j⟩, hmisfit, ?_, ?_⟩
  · -- An error of an array has a position, so it is none of those without.
    rintro h elements rfl
    obtain ⟨index, cause, heq, -⟩ := (hmisfit elements _).mp h
    exact hplace index cause heq.symm
  · intro elements after e h
    obtain ⟨index, cause, rfl, hfirst⟩ := (hmisfit elements e).mp h
    exact (hmisfit _ _).mpr ⟨index, cause, rfl, hfirst.append after⟩
  · intro accepted elements index cause haccepted h
    obtain ⟨index', cause', heq, hfirst⟩ := (hmisfit elements _).mp h
    obtain ⟨rfl, rfl⟩ := hinj heq
    exact (hmisfit _ _).mpr ⟨_, _, rfl, hfirst.prepend haccepted⟩

theorem readItems_rejectsFirst : RejectsFirst .item readItem readItems :=
  rejectsFirst_of_readEach nofun Error.item.inj (fun _ => rfl) fun j hj => by
    cases j with
    | array elements => exact absurd rfl (hj elements)
    | _ => rfl

theorem readCategories_rejectsFirst : RejectsFirst .category readCategory readCategories :=
  rejectsFirst_of_readEach nofun Error.category.inj (fun _ => rfl) fun j hj => by
    cases j with
    | array elements => exact absurd rfl (hj elements)
    | _ => rfl

/-! ## Faults of one object -/

/-- What can be wrong with an object by itself: it is none, or a field does not fit. -/
def Error.IsFault : Error → Prop
  | .notAnObject | .missingField _ | .wrongFieldType _ _ | .emptyField _ | .unknownType _ => True
  | .notAnArray | .category _ _ | .item _ _ => False

/-- Nothing but a fault comes of this, if it fails. -/
def Faults (x : Except Error α) : Prop := ∀ e, x = .error e → e.IsFault

/-- Steps fail as soon as one of them does. -/
theorem bind_eq_error_iff {β : Type} {x : Except Error α} {f : α → Except Error β} {e : Error} :
    x >>= f = .error e ↔ x = .error e ∨ ∃ a, x = .ok a ∧ f a = .error e := by
  cases x with
  | error e' => simp [bind, Except.bind]
  | ok a => simp [bind, Except.bind]

theorem Faults.ok (a : α) : Faults (.ok a) := nofun

theorem Faults.error {e : Error} (h : e.IsFault) : Faults (.error e : Except Error α) := by
  rintro _ ⟨⟩
  exact h

theorem Faults.bind {β : Type} {x : Except Error α} {f : α → Except Error β} (hx : Faults x)
    (hf : ∀ a, Faults (f a)) : Faults (x >>= f) := by
  intro e he
  rcases bind_eq_error_iff.mp he with he | ⟨a, -, he⟩
  · exact hx e he
  · exact hf a e he

variable {members : Members}

theorem membersOf_faults (j : Json) : Faults (membersOf j) := by
  cases j with
  | object members => exact .ok members
  | _ => exact .error trivial

theorem optionalText_faults (field : String) : Faults (optionalText members field) := by
  unfold optionalText
  split
  · exact .ok none
  · exact .ok none
  · exact .ok _
  · exact .error trivial

theorem requiredText_faults (field : String) : Faults (requiredText members field) := by
  refine (optionalText_faults field).bind fun text => ?_
  cases text with
  | none => exact .error trivial
  | some text =>
    dsimp only
    split
    · exact .error trivial
    · exact .ok text

theorem requiredIndex_faults (field : String) : Faults (requiredIndex members field) := by
  unfold requiredIndex
  split
  · exact .error trivial
  · split
    · exact .ok _
    · exact .error trivial
  · exact .error trivial

theorem requiredElements_faults (field : String) : Faults (requiredElements members field) := by
  unfold requiredElements
  split
  · exact .error trivial
  · exact .ok _
  · exact .error trivial

theorem readKind_faults {κ : Type} (kind? : String → Option κ) (j : Json) :
    Faults (readKind kind? j) := by
  unfold readKind
  split
  · split
    · exact .ok _
    · exact .error trivial
  · exact .error trivial

theorem readTask_faults (members : Members) : Faults (readTask members) := by
  refine (requiredText_faults "program").bind fun program => ?_
  refine (requiredText_faults "title").bind fun title => ?_
  refine (optionalText_faults "arguments").bind fun arguments => ?_
  refine (optionalText_faults "description").bind fun description => ?_
  refine (optionalText_faults "iconPath").bind fun icon => ?_
  cases icon with
  | none => exact .ok _
  | some icon => exact (requiredIndex_faults "iconIndex").bind fun index => .ok _

/-- Whatever is wrong with an item is a fault of it, without a position. -/
theorem readItem_faults (j : Json) : Faults (readItem j) := by
  rw [readItem_eq]
  refine (membersOf_faults j).bind fun members => ?_
  refine Faults.bind ?_ fun type => (readKind_faults itemKind? type).bind fun kind => ?_
  · cases members.get? "type" with
    | none => exact .error trivial
    | some type => exact .ok type
  · cases kind with
    | task => exact readTask_faults members
    | separator => exact .ok _
    | file => exact (requiredText_faults "path").bind fun path => .ok _

theorem readCategoryKind_faults (name : Option String) :
    Faults (readCategoryKind members name) := by
  unfold readCategoryKind
  split
  · exact readKind_faults categoryKind? _
  · exact .ok _

/-! ## Categories with an item that does not fit -/

/-- A category that holds items of its own: its name and its type fit, and its items are these
elements of an array, whether or not they are items. -/
inductive HoldsElements : Json → List Json → Prop
  | custom {members : Members} {name : String} {elements : List Json} :
      HasContent members "name" name → HasKind members (some name) .custom →
      members.get? "items" = some (.array elements) → HoldsElements (.object members) elements
  | tasks {members : Members} {name : Option String} {elements : List Json} :
      HasText members "name" name → name ≠ some "" → HasKind members name .tasks →
      members.get? "items" = some (.array elements) → HoldsElements (.object members) elements

/-- An error of the items of a category is the fault of the field or has the position of an item. -/
theorem fault_or_item_of_readCategoryItems {e : Error} (h : readCategoryItems members = .error e) :
    e.IsFault ∨ ∃ elements index cause, members.get? "items" = some (.array elements) ∧
      e = .item index cause ∧ FirstMisfit readItem elements index cause := by
  rcases bind_eq_error_iff.mp h with hfield | ⟨elements, helements, he⟩
  · exact .inl (requiredElements_faults "items" e hfield)
  · obtain ⟨index, cause, heq, hfirst⟩ := readEach_eq_error_iff_firstMisfit.mp he
    exact .inr ⟨elements, index, cause, requiredElements_eq_ok_iff.mp helements, heq, hfirst⟩

/-- An error of a category whose name and kind fit. -/
theorem fault_or_item_of_readCategoryOfKind {name : Option String} {kind : Category.Kind}
    {e : Error} (hname : HasText members "name" name) (hne : name ≠ some "")
    (hkind : HasKind members name kind)
    (h : readCategoryOfKind members name kind = .error e) :
    e.IsFault ∨ ∃ elements index cause, HoldsElements (.object members) elements ∧
      e = .item index cause ∧ FirstMisfit readItem elements index cause := by
  cases kind with
  | custom =>
    cases name with
    | none =>
      obtain rfl := Except.error.inj h
      exact .inl trivial
    | some name =>
      have hitems := (bind_eq_error_iff.mp h).resolve_right nofun
      have hcontent : HasContent members "name" name := ⟨hname, fun h => hne (congrArg some h)⟩
      refine (fault_or_item_of_readCategoryItems hitems).imp_right ?_
      rintro ⟨elements, index, cause, helements, heq, hfirst⟩
      exact ⟨elements, index, cause, .custom hcontent hkind helements, heq, hfirst⟩
  | tasks =>
    have hitems := (bind_eq_error_iff.mp h).resolve_right nofun
    refine (fault_or_item_of_readCategoryItems hitems).imp_right ?_
    rintro ⟨elements, index, cause, helements, heq, hfirst⟩
    exact ⟨elements, index, cause, .tasks hname hne hkind helements, heq, hfirst⟩
  | frequent => cases h
  | recent => cases h

/-- An error of a category is a fault of it, or the category holds items and the error is that of the
first that does not fit, at its position. -/
theorem fault_or_item_of_readCategory {j : Json} {e : Error} (h : readCategory j = .error e) :
    e.IsFault ∨ ∃ elements index cause, HoldsElements j elements ∧ e = .item index cause ∧
      FirstMisfit readItem elements index cause := by
  rw [readCategory_eq] at h
  rcases bind_eq_error_iff.mp h with hmembers | ⟨members, hmembers, hrest⟩
  · exact .inl (membersOf_faults j e hmembers)
  obtain rfl := membersOf_eq_ok_iff.mp hmembers
  rcases bind_eq_error_iff.mp hrest with hname | ⟨name, hname, hrest⟩
  · exact .inl (optionalText_faults "name" e hname)
  split at hrest
  · obtain rfl := Except.error.inj hrest
    exact .inl trivial
  rename_i hne
  rcases bind_eq_error_iff.mp hrest with hkind | ⟨kind, hkind, hrest⟩
  · exact .inl (readCategoryKind_faults name e hkind)
  exact fault_or_item_of_readCategoryOfKind (optionalText_eq_ok_iff.mp hname) hne
    (readCategoryKind_eq_ok_iff.mp hkind) hrest

/-- A category that holds items is read as soon as they are. -/
theorem HoldsElements.readCategory {j : Json} {elements : List Json}
    (h : HoldsElements j elements) :
    ∃ make : List Item → Category,
      readCategory j = (readEach .item readItem 0 elements).map make := by
  cases h with
  | @custom members name _ hname hkind hitems =>
    refine ⟨Category.custom name, ?_⟩
    have htext : HasText members "name" (some name) := hname.1
    have hne : some name ≠ some "" := fun h => hname.2 (Option.some.inj h)
    rw [readCategory_of_hasKind htext hne hkind, readCategoryOfKind,
      readCategoryItems_of_array hitems]
    cases readEach .item readItem 0 elements <;> rfl
  | tasks hname hne hkind hitems =>
    refine ⟨Category.tasks, ?_⟩
    rw [readCategory_of_hasKind hname hne hkind, readCategoryOfKind,
      readCategoryItems_of_array hitems]
    cases readEach .item readItem 0 elements <;> rfl

/-- The error of a category has the position of an item exactly if the category holds items, and then
it is that of the first item that does not fit. -/
theorem readCategory_eq_item_error_iff {j : Json} {index : Nat} {cause : Error} :
    readCategory j = .error (.item index cause) ↔
      ∃ elements, HoldsElements j elements ∧ FirstMisfit readItem elements index cause := by
  constructor
  · intro h
    rcases fault_or_item_of_readCategory h with hfault | ⟨elements, _, _, hholds, heq, hfirst⟩
    · -- A fault has no position.
      exact hfault.elim
    · obtain ⟨rfl, rfl⟩ := Error.item.inj heq
      exact ⟨elements, hholds, hfirst⟩
  · rintro ⟨elements, hholds, hfirst⟩
    obtain ⟨make, hmake⟩ := hholds.readCategory
    have herror : readEach .item readItem 0 elements = .error (.item index cause) :=
      readEach_eq_error_iff_firstMisfit.mpr ⟨index, cause, rfl, hfirst⟩
    rw [hmake, herror]
    rfl

/-! ## What an error tells -/

/-- An error of an item in an array: a position around a fault. -/
structure TellsItem (index : Nat) (e : Error) : Prop where
  fault : e.leaf.IsFault
  places : e = .item index e.leaf
  indices : e.indices = [index]
  causes : e.causes = [e.leaf]
  message : e.message = s!"item {index}: {e.leaf.message}"

/-- An error of a category in an array: its position around a fault of its own, or around the
position of one of its items and a fault of that. -/
inductive TellsCategory (index : Nat) (e : Error) : Prop
  | ofCategory (fault : e.leaf.IsFault) (places : e = .category index e.leaf)
      (indices : e.indices = [index]) (causes : e.causes = [e.leaf])
      (message : e.message = s!"category {index}: {e.leaf.message}")
  | ofItem (k : Nat) (fault : e.leaf.IsFault) (places : e = .category index (.item k e.leaf))
      (indices : e.indices = [index, k]) (causes : e.causes = [.item k e.leaf, e.leaf])
      (message : e.message = s!"category {index}: item {k}: {e.leaf.message}")

/-- Both positions in words, the outer one first. -/
theorem Error.message_category_item (index k : Nat) (cause : Error) :
    (Error.category index (.item k cause)).message =
      s!"category {index}: item {k}: {cause.message}" := by
  -- The texts are joined in another order; the literals between the positions are not split alike.
  have hjoin : ": " ++ "item " = ": item " := rfl
  calc (Error.category index (.item k cause)).message
      = "category " ++ toString index ++ ": " ++
          ("item " ++ toString k ++ ": " ++ cause.message) := rfl
    _ = "category " ++ toString index ++ (": " ++ "item ") ++ toString k ++ ": " ++
          cause.message := by simp only [String.append_assoc]
    _ = s!"category {index}: item {k}: {cause.message}" :=
        congrArg (fun join => "category " ++ toString index ++ join ++ toString k ++ ": " ++
          cause.message) hjoin

namespace Error.IsFault

theorem leaf_eq {e : Error} (h : e.IsFault) : e.leaf = e := by
  cases e <;> first | rfl | exact h.elim

theorem causes_eq {e : Error} (h : e.IsFault) : e.causes = [] := by
  cases e <;> first | rfl | exact h.elim

theorem indices_eq {e : Error} (h : e.IsFault) : e.indices = [] := by
  cases e <;> first | rfl | exact h.elim

theorem tellsItem {fault : Error} (h : fault.IsFault) (index : Nat) :
    TellsItem index (.item index fault) := by
  have hleaf : (Error.item index fault).leaf = fault := h.leaf_eq
  have hcauses : (Error.item index fault).causes = [fault] := by rw [causes, h.causes_eq]
  refine ⟨?_, ?_, ?_, ?_, ?_⟩
  · rwa [hleaf]
  · rw [hleaf]
  · rw [indices, h.indices_eq]
  · rw [hleaf, hcauses]
  · rw [hleaf]
    rfl

theorem tellsCategory {fault : Error} (h : fault.IsFault) (index : Nat) :
    TellsCategory index (.category index fault) := by
  have hleaf : (Error.category index fault).leaf = fault := h.leaf_eq
  have hcauses : (Error.category index fault).causes = [fault] := by rw [causes, h.causes_eq]
  refine .ofCategory ?_ ?_ ?_ ?_ ?_
  · rwa [hleaf]
  · rw [hleaf]
  · rw [indices, h.indices_eq]
  · rw [hleaf, hcauses]
  · rw [hleaf]
    rfl

theorem tellsCategory_item {fault : Error} (h : fault.IsFault) (index k : Nat) :
    TellsCategory index (.category index (.item k fault)) := by
  have hleaf : (Error.category index (.item k fault)).leaf = fault := h.leaf_eq
  have hcauses : (Error.category index (.item k fault)).causes = [.item k fault, fault] := by
    rw [causes, (h.tellsItem k).causes, leaf, h.leaf_eq]
  refine .ofItem k ?_ ?_ ?_ ?_ ?_
  · rwa [hleaf]
  · rw [hleaf]
  · rw [indices, (h.tellsItem k).indices]
  · rw [hleaf, hcauses]
  · rw [hleaf]
    exact message_category_item index k fault

end Error.IsFault

/-- An array of items that is rejected tells the position and the fault of one of them. -/
theorem exists_tellsItem {elements : List Json} {e : Error}
    (h : readItems (.array elements) = .error e) : ∃ index, TellsItem index e := by
  obtain ⟨index, cause, rfl, ⟨⟨j, -, hj⟩, -⟩⟩ := (readItems_rejectsFirst.misfit elements e).mp h
  exact ⟨index, (readItem_faults j cause hj).tellsItem index⟩

/-- An array of categories that is rejected tells the position of one of them, and its fault or the
position and the fault of one of its items. -/
theorem exists_tellsCategory {elements : List Json} {e : Error}
    (h : readCategories (.array elements) = .error e) : ∃ index, TellsCategory index e := by
  obtain ⟨index, cause, rfl, ⟨⟨j, -, hj⟩, -⟩⟩ :=
    (readCategories_rejectsFirst.misfit elements e).mp h
  refine ⟨index, ?_⟩
  rcases fault_or_item_of_readCategory hj with hfault | ⟨items, k, fault, -, rfl, hfirst⟩
  · exact hfault.tellsCategory index
  · obtain ⟨item, -, hitem⟩ := hfirst.misfit
    exact (readItem_faults item fault hitem).tellsCategory_item index k

/-- What is no list of categories, or no list of items, is rejected at the first place that does not
fit, and the error tells this place: a category, an item of a category whose name and type fit, or an
item.  What it tells is the positions, from the outside in, and then the fault. -/
theorem rejection_tells_first_place :
    RejectsFirst .category readCategory readCategories ∧ RejectsFirst .item readItem readItems ∧
      (∀ j index cause, readCategory j = .error (.item index cause) ↔
        ∃ elements, HoldsElements j elements ∧ FirstMisfit readItem elements index cause) ∧
      (∀ elements e, readCategories (.array elements) = .error e → ∃ index, TellsCategory index e) ∧
      ∀ elements e, readItems (.array elements) = .error e → ∃ index, TellsItem index e :=
  ⟨readCategories_rejectsFirst, readItems_rejectsFirst, fun _ _ _ => readCategory_eq_item_error_iff,
    fun _ _ h => exists_tellsCategory h, fun _ _ h => exists_tellsItem h⟩

/-- The second item of the second category is of no known type. -/
example :
    readCategories (.array
      [.object [("type", .string "recent")],
        .object
          [("items", .array [.object [("type", .string "separator")],
            .object [("type", .string "launch")]]),
          ("type", .string "tasks")]]) =
      .error (.category 1 (.item 1 (.unknownType "launch"))) := rfl

end JumpList.Format
