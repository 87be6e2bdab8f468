/-
# JumpList.Outcome — the one result of a request.

Many things can go wrong in one request, and one result is reported.  Two of the results say little:
success, and the generic error.  The others are specific.  Outcomes are merged from left to right:
the first specific one stays, and a generic error gives way to whatever fails later.
-/
import JumpList.Native.Status

namespace JumpList

open Native (Status)

/-- The result of a request, or of a part of it. -/
inductive Outcome where
  | success
  /-- What the caller supplied is not a jump list. -/
  | argumentError
  /-- Something was lost. -/
  | genericError
  /-- A separator stands in a custom category. -/
  | separatorError
  /-- The application is not registered for the type of a file in a custom category. -/
  | unregisteredFileType
  /-- Custom categories are not allowed. -/
  | categoryDenied
  deriving DecidableEq, Repr, Inhabited

namespace Outcome

/-- The external code of an outcome. -/
def code : Outcome → String
  | .success => "ok"
  | .argumentError => "argumentError"
  | .genericError => "error"
  | .separatorError => "invalidSeparatorError"
  | .unregisteredFileType => "fileTypeRegistrationError"
  | .categoryDenied => "customCategoryAccessDeniedError"

/-- An outcome that names its cause. -/
def isSpecific : Outcome → Bool
  | .success | .genericError => false
  | _ => true

/-- What a custom category that the shell refuses with this status comes to. -/
def ofRefusal (status : Status) : Outcome :=
  if status = Status.noAssociation then .unregisteredFileType
  else if status = Status.accessDenied then .categoryDenied
  else .genericError

/-! ## Merging -/

/-- The outcome after a further one: a specific outcome stays, else the later failure counts. -/
def merge (current latest : Outcome) : Outcome :=
  if current.isSpecific || latest == .success then current else latest

/-- The outcome after something unspecific was lost. -/
def spoiled (current : Outcome) : Outcome := current.merge .genericError

@[simp] theorem merge_success (o : Outcome) : o.merge .success = o := by
  cases o <;> rfl

@[simp] theorem success_merge (o : Outcome) : success.merge o = o := by
  cases o <;> rfl

theorem merge_assoc (a b c : Outcome) : (a.merge b).merge c = a.merge (b.merge c) := by
  cases a <;> cases b <;> cases c <;> rfl

theorem merge_eq_success_iff {a b : Outcome} :
    a.merge b = .success ↔ a = .success ∧ b = .success := by
  cases a <;> cases b <;> decide

/-- A list of outcomes merged onto a first one, from left to right. -/
def mergeAll (start : Outcome) (os : List Outcome) : Outcome := os.foldl merge start

/-- Every stage of a merge: the outcome after each further one. -/
def stages (start : Outcome) : List Outcome → List Outcome
  | [] => []
  | o :: os => start.merge o :: stages (start.merge o) os

end Outcome

end JumpList
