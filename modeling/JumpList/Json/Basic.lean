/-
# JumpList.Json.Basic — JSON values.

An object is a list of members; a key is looked up from the front.  Members put in one by one stand
in the order of their keys, and a key put in again has the later value.
-/
import JumpList.Json.Number

namespace JumpList

/-- A JSON value. -/
inductive Json where
  | null
  | bool (value : Bool)
  | number (value : Json.Number)
  | string (text : String)
  | array (elements : List Json)
  | object (members : List (String × Json))
  deriving Inhabited

namespace Json

/-- The members of an object. -/
abbrev Members := List (String × Json)

/-- The value of a key, if it is there. -/
def Members.get? (members : Members) (key : String) : Option Json := members.lookup key

/-- The members with `key` at `value`: in its place in the order of keys, or in place of the value
that `key` had. -/
def Members.put (key : String) (value : Json) : Members → Members
  | [] => [(key, value)]
  | (k, v) :: rest =>
    if key = k then (key, value) :: rest
    else if key < k then (key, value) :: (k, v) :: rest
    else (k, v) :: Members.put key value rest

/-- What was put in is found. -/
theorem Members.get?_put_self (members : Members) (key : String) (value : Json) :
    (Members.put key value members).get? key = some value := by
  induction members with
  | nil => simp [put, get?]
  | cons m rest ih =>
    obtain ⟨k, v⟩ := m
    unfold put
    split
    · simp [get?]
    · split
      · simp [get?]
      · next h _ =>
        have hk : (key == k) = false := by simpa using h
        simpa [get?, List.lookup_cons, hk] using ih

/-- Putting in one key leaves every other key as it was. -/
theorem Members.get?_put_of_ne {key other : String} (h : other ≠ key) (members : Members)
    (value : Json) : (Members.put key value members).get? other = members.get? other := by
  have ho : (other == key) = false := by simpa using h
  induction members with
  | nil => simp [put, get?, List.lookup_cons, ho]
  | cons m rest ih =>
    obtain ⟨k, v⟩ := m
    unfold put
    split
    · next hk =>
      subst hk
      simp [get?, List.lookup_cons, ho]
    · split
      · simp [get?, List.lookup_cons, ho]
      · simp only [get?, List.lookup_cons] at ih ⊢
        split <;> simp_all

end Json

end JumpList
