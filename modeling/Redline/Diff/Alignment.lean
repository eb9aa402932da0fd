import Redline.Diff.Stretch

set_option autoImplicit false
set_option relaxedAutoImplicit false

/-!
Alignments of two lists. The longest common stretch is found first, the earliest one when there
are several, and what lies before and after it is aligned in the same way. Items that are too
popular in the second list do not start a stretch, but a stretch may grow over them.
-/

namespace Redline.Diff

inductive Region (α : Type) where
  /-- Items that both lists have. -/
  | same (items : List α)
  /-- Items of the first list, replaced by items of the second. -/
  | changed (removed added : List α)
  deriving Repr, DecidableEq

namespace Region

variable {α : Type}

def old : Region α → List α
  | .same xs => xs
  | .changed xs _ => xs

def new : Region α → List α
  | .same xs => xs
  | .changed _ ys => ys

def isChange : Region α → Bool
  | .same _ => false
  | .changed _ _ => true

end Region

section

variable {α : Type} [DecidableEq α]

def unmatched : List α → List α → List (Region α)
  | [], [] => []
  | xs, ys => [.changed xs ys]

def align (usable : α → Bool) (xs ys : List α) : List (Region α) :=
  let s := longestStretch usable xs ys
  if _some : 0 < s.size then
    align usable (xs.take s.oldAt) (ys.take s.newAt) ++
      .same ((xs.drop s.oldAt).take s.size) ::
        align usable (xs.drop (s.oldAt + s.size)) (ys.drop (s.newAt + s.size))
  else unmatched xs ys
termination_by xs.length
decreasing_by
  · have some : 0 < (longestStretch usable xs ys).size := _some
    have inside := add_size_longestStretch_le usable xs ys
    simp only [List.length_take]
    omega
  · have some : 0 < (longestStretch usable xs ys).size := _some
    have inside := add_size_longestStretch_le usable xs ys
    simp only [List.length_drop]
    omega

/-- Items that occur in a list of at least 200 more often than once in a hundred, and once more. -/
def popular (ys : List α) : List α :=
  if ys.length < 200 then []
  else ys.eraseDups.filter fun y => decide (ys.length / 100 + 1 < ys.count y)

/-- The alignment of two lists, in which items popular in the second start no stretch. -/
def alignment (xs ys : List α) : List (Region α) :=
  let crowd := popular ys
  align (fun y => !crowd.elem y) xs ys

end

end Redline.Diff
