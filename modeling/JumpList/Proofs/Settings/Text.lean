/-
# JumpList.Proofs.Settings.Text — settings read from what they were written as.

Of the members that settings are written as, a text may hold any part in any order; `KeptAs` asks
only that what is left out goes without saying, for the name that the settings are looked up by.
Such settings are read back, except that a name that goes without saying is left blank
(`ofText?_of_keptAs`).  What the settings print themselves leaves nothing out (`spells_toText`).
-/
import JumpList.Proofs.Json.Spelling
import JumpList.Settings.Text
import Mathlib.Data.List.Nodup
import Mathlib.Data.List.Perm.Subperm

namespace JumpList.Settings

open Json (Document)

/-! ## Members -/

/-- The members of the object that settings are written as. -/
def members (s : Settings) : Json.Members :=
  match s.toJson with
  | .object ms => ms
  | _ => []

theorem toJson_eq_object (s : Settings) : s.toJson = .object s.members := rfl

/-- The members that settings are kept as where they are looked up by a name: their own, each at most
once and in any order.  Those left out are what a name that nothing is kept for has. -/
structure KeptAs (s : Settings) (app : String) (kept : Json.Members) : Prop where
  own : kept.Subperm s.members
  leftOut : ∀ m ∈ s.members, m ∉ kept → m ∈ (ofName app).members

/-- Settings may be kept as all their members. -/
theorem keptAs_members (s : Settings) (app : String) : s.KeptAs app s.members :=
  ⟨List.Subperm.refl _, fun _ hm hn => absurd hm hn⟩

/-! ## Looking up keys -/

theorem only?_of_not_mem {key : String} {members : List (String × Document)}
    (h : key ∉ members.map Prod.fst) : only? key members = some none := by
  have hnone : members.filter (·.1 == key) = [] := by
    refine List.filter_eq_nil_iff.2 fun m hm hk => h ?_
    exact List.mem_map.2 ⟨m, hm, by simpa using hk⟩
  simp [only?, hnone]

theorem only?_of_mem {members : List (String × Document)} (hnd : (members.map Prod.fst).Nodup)
    {key : String} {d : Document} (h : (key, d) ∈ members) :
    only? key members = some (some d) := by
  have hone : members.filter (·.1 == key) = [(key, d)] := by
    induction members with
    | nil => cases h
    | cons m rest ih =>
      rw [List.map_cons, List.nodup_cons] at hnd
      rcases List.mem_cons.mp h with rfl | hrest
      · have hnone : rest.filter (·.1 == key) = [] := by
          refine List.filter_eq_nil_iff.2 fun m hm hk => hnd.1 ?_
          exact List.mem_map.2 ⟨m, hm, by simpa using hk⟩
        simp [hnone]
      · have hne : (m.1 == key) = false := by
          simp only [beq_eq_false_iff_ne]
          rintro rfl
          exact hnd.1 (List.mem_map.2 ⟨_, hrest, rfl⟩)
        simp [hne, ih hnd.2 hrest]
  simp [only?, hone]

/-! ## What is kept -/

/-- No two members have one key. -/
theorem nodup_keys_members (s : Settings) : (s.members.map Prod.fst).Nodup := by
  simp [members, toJson]

/-- Members as a document has them, their keys being texts. -/
def keyed (ms : Json.Members) : List (String × Document) :=
  ms.map fun m => (m.1, Document.ofValue m.2)

theorem map_fst_keyed (ms : Json.Members) : (keyed ms).map Prod.fst = ms.map Prod.fst := by
  simp [keyed]

namespace KeptAs

variable {s : Settings} {app : String} {kept : Json.Members}

theorem nodup_keys (h : s.KeptAs app kept) : (kept.map Prod.fst).Nodup := by
  obtain ⟨part, hperm, hsub⟩ := h.own
  have hpart : (part.map Prod.fst).Nodup := (hsub.map _).nodup (nodup_keys_members s)
  exact (hperm.map _).nodup hpart

/-- A setting is found, or is left out and goes without saying. -/
theorem only?_keyed (h : s.KeptAs app kept) {key : String} {value : Json}
    (hm : (key, value) ∈ s.members) :
    only? key (keyed kept) = some (some (Document.ofValue value)) ∨
      only? key (keyed kept) = some none ∧ (key, value) ∈ (ofName app).members := by
  by_cases hk : (key, value) ∈ kept
  · left
    refine only?_of_mem ?_ (List.mem_map.2 ⟨_, hk, rfl⟩)
    rw [map_fst_keyed]
    exact h.nodup_keys
  · right
    refine ⟨only?_of_not_mem ?_, h.leftOut _ hm hk⟩
    rw [map_fst_keyed]
    intro hkey
    obtain ⟨other, hother, rfl⟩ := List.mem_map.1 hkey
    have heq := List.inj_on_of_nodup_map (nodup_keys_members s) (h.own.subset hother) hm rfl
    exact hk (heq ▸ hother)

/-- The name that is read: the settings' own, or a blank one where that goes without saying. -/
theorem readText_appName (h : s.KeptAs app kept) :
    ∃ d name, only? "app_name" (keyed kept) = some d ∧ readText "" d = some name ∧
      (name = s.appName ∨ name = "" ∧ s.appName = app) := by
  have hm : ("app_name", Json.string s.appName) ∈ s.members := by simp [members, toJson]
  rcases h.only?_keyed hm with hd | ⟨hd, hdefault⟩
  · exact ⟨_, s.appName, hd, by simp [Document.ofValue, readText], .inl rfl⟩
  · have happ : s.appName = app := by simpa [members, toJson, ofName] using hdefault
    exact ⟨_, "", hd, rfl, .inr ⟨rfl, happ⟩⟩

/-- A setting is read as the value that it has, kept or left out. -/
theorem exists_read {α : Type} {reader : Option Document → Option α} {key : String} {value : Json}
    {a : α} (h : s.KeptAs app kept) (hm : (key, value) ∈ s.members)
    (hkept : reader (some (Document.ofValue value)) = some a)
    (hleft : (key, value) ∈ (ofName app).members → reader none = some a) :
    ∃ d, only? key (keyed kept) = some d ∧ reader d = some a := by
  rcases h.only?_keyed hm with hd | ⟨hd, hdefault⟩
  · exact ⟨_, hd, hkept⟩
  · exact ⟨_, hd, hleft hdefault⟩

theorem readOptionalText_givenId (h : s.KeptAs app kept) :
    ∃ d, only? "app_user_model_id" (keyed kept) = some d ∧
      readOptionalText d = some s.givenId := by
  have hm : ("app_user_model_id", s.givenId.elim Json.null .string) ∈ s.members := by
    simp [members, toJson]
  refine h.exists_read hm ?_ fun hdefault => ?_
  · cases s.givenId <;> simp [Document.ofValue, readOptionalText]
  · cases hid : s.givenId <;> simp_all [members, toJson, ofName, readOptionalText]

theorem readText_logLevel (h : s.KeptAs app kept) :
    ∃ d, only? "log_level" (keyed kept) = some d ∧
      readText defaultLogLevel d = some s.logLevel := by
  have hm : ("log_level", Json.string s.logLevel) ∈ s.members := by simp [members, toJson]
  refine h.exists_read hm (by simp [Document.ofValue, readText]) fun hdefault => ?_
  have hlevel : s.logLevel = defaultLogLevel := by simpa [members, toJson, ofName] using hdefault
  rw [hlevel]
  rfl

theorem readBool_logToFile (h : s.KeptAs app kept) :
    ∃ d, only? "log_to_file" (keyed kept) = some d ∧ readBool false d = some s.logToFile := by
  have hm : ("log_to_file", Json.bool s.logToFile) ∈ s.members := by simp [members, toJson]
  refine h.exists_read hm (by simp [Document.ofValue, readBool]) fun hdefault => ?_
  have hfile : s.logToFile = false := by simpa [members, toJson, ofName] using hdefault
  rw [hfile]
  rfl

end KeptAs

/-! ## Reading back -/

theorem mapM_ofMember (ms : Json.Members) :
    ((ms.map Document.ofMember).mapM fun (key, d) => key.map (·, d)) = some (keyed ms) := by
  induction ms with
  | nil => rfl
  | cons m ms ih =>
    rw [List.map_cons, List.mapM_cons, ih]
    rfl

/-- Settings are read back from the members that they are kept as, but for a name that goes without
saying. -/
theorem KeptAs.ofMembers_map_ofMember {s : Settings} {app : String} {kept : Json.Members}
    (h : s.KeptAs app kept) :
    ∃ name, ofMembers (kept.map Document.ofMember) = some { s with appName := name } ∧
      (name = s.appName ∨ name = "" ∧ s.appName = app) := by
  obtain ⟨d₁, name, h₁, hname, hor⟩ := h.readText_appName
  obtain ⟨d₂, h₂, hid⟩ := h.readOptionalText_givenId
  obtain ⟨d₃, h₃, hlevel⟩ := h.readText_logLevel
  obtain ⟨d₄, h₄, hfile⟩ := h.readBool_logToFile
  refine ⟨name, ?_, hor⟩
  simp only [ofMembers, mapM_ofMember, h₁, h₂, h₃, h₄, ofValues, hname, hid, hlevel, hfile, bind,
    Option.bind, pure]

/-- The same of any text that spells those members. -/
theorem ofText?_of_keptAs {s : Settings} {app : String} {kept : Json.Members}
    (h : s.KeptAs app kept) {text : String} (ht : Json.SpellsObject kept text.toList) :
    ∃ name, ofText? text = some { s with appName := name } ∧
      (name = s.appName ∨ name = "" ∧ s.appName = app) := by
  obtain ⟨name, hread, hor⟩ := h.ofMembers_map_ofMember
  refine ⟨name, ?_, hor⟩
  rw [ofText?, Document.ofText?_of_spells ht]
  exact hread

/-- The text of settings spells all their members. -/
theorem spells_toText (s : Settings) : Json.SpellsObject s.members s.toText.toList := by
  rw [toText, toJson_eq_object]
  refine Json.spellsObject_pretty fun m hm => ?_
  simp only [members, toJson, List.mem_cons, List.not_mem_nil, or_false] at hm
  rcases hm with rfl | rfl | rfl | rfl
  · exact Json.spellsScalar_literal _
  · cases s.givenId with
    | none => exact .null
    | some id => exact Json.spellsScalar_literal id
  · exact Json.spellsScalar_literal _
  · cases s.logToFile with
    | true => exact .yes
    | false => exact .no

end JumpList.Settings
