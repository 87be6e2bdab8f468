/-
# JumpList.Text.Runs — lists cut at marked elements.

The runs of a list are what stands between the elements that a predicate marks: the names of a path
between its slashes, the words of a text between its blanks.  A marked element divides them, so the runs
of a list that is put together around one are those of its parts (`runs_append_cons`).
-/

namespace JumpList.Text

variable {α : Type}

/-- The runs between marked elements, empty ones left out. -/
def runs (marked : α → Bool) (as : List α) : List (List α) :=
  (as.splitOnP marked).filter (!·.isEmpty)

/-- A marked element stands between the runs in front of it and those behind. -/
theorem runs_append_cons {marked : α → Bool} {m : α} (h : marked m = true) (as bs : List α) :
    runs marked (as ++ m :: bs) = runs marked as ++ runs marked bs := by
  simp [runs, List.splitOnP_append_cons as bs h]

end JumpList.Text
