import Redline.Diff.Alignment

set_option autoImplicit false
set_option relaxedAutoImplicit false

/-!
Alignments are edit scripts: whichever stretches the search finds, the regions of an alignment give
the first list in their old items and the second one in their new items, and no region is empty on
both sides of a change.
-/

namespace Redline.Diff

variable {α : Type}

namespace Region

def olds (rs : List (Region α)) : List α := rs.flatMap old

def news (rs : List (Region α)) : List α := rs.flatMap new

def IsProper : Region α → Prop
  | .same _ => True
  | .changed removed added => removed ≠ [] ∨ added ≠ []

theorem old_eq_new_of_not_change {r : Region α} (same : r.isChange = false) : r.old = r.new := by
  cases r with
  | same items => rfl
  | changed removed added => simp [isChange] at same

end Region

open Region (olds news)

private theorem olds_unmatched (xs ys : List α) : olds (unmatched xs ys) = xs := by
  fun_cases unmatched xs ys <;> simp [olds, Region.old]

private theorem news_unmatched (xs ys : List α) : news (unmatched xs ys) = ys := by
  fun_cases unmatched xs ys <;> simp [news, Region.new]

section

variable [DecidableEq α]

private theorem longestStretch_split (usable : α → Bool) (xs ys : List α) :
    let s := longestStretch usable xs ys
    xs.take s.oldAt ++ ((xs.drop s.oldAt).take s.size ++ xs.drop (s.oldAt + s.size)) = xs ∧
      ys.take s.newAt ++ ((xs.drop s.oldAt).take s.size ++ ys.drop (s.newAt + s.size)) = ys := by
  intro s
  obtain ⟨items, stands⟩ := longestStretch_stands usable xs ys
  have found : (xs.drop s.oldAt).take s.size = items := by
    have rest : xs.drop s.oldAt = items ++ xs.drop (s.oldAt + s.size) := by
      have before := List.take_append_drop s.oldAt xs
      exact List.append_cancel_left (before.trans stands.old.symm)
    rw [rest]
    exact List.take_left' stands.size
  rw [found]
  exact ⟨stands.old, stands.new⟩

private theorem olds_align (usable : α → Bool) (xs ys : List α) : olds (align usable xs ys) = xs := by
  fun_induction align usable xs ys with
  | case1 xs ys s _ before after =>
    have split := (longestStretch_split usable xs ys).1
    simp only [olds, List.flatMap_append, List.flatMap_cons, Region.old] at before after ⊢
    rw [before, after]
    exact split
  | case2 xs ys s _ => exact olds_unmatched xs ys

private theorem news_align (usable : α → Bool) (xs ys : List α) : news (align usable xs ys) = ys := by
  fun_induction align usable xs ys with
  | case1 xs ys s _ before after =>
    have split := (longestStretch_split usable xs ys).2
    simp only [news, List.flatMap_append, List.flatMap_cons, Region.new] at before after ⊢
    rw [before, after]
    exact split
  | case2 xs ys s _ => exact news_unmatched xs ys

private theorem isProper_of_mem_align {usable : α → Bool} {xs ys : List α} {r : Region α}
    (mem : r ∈ align usable xs ys) : r.IsProper := by
  fun_induction align usable xs ys with
  | case1 xs ys s _ before after =>
    rcases List.mem_append.mp mem with mem | mem
    · exact before mem
    · rcases List.mem_cons.mp mem with rfl | mem
      · trivial
      · exact after mem
  | case2 xs ys s _ =>
    revert mem
    fun_cases unmatched xs ys with
    | case1 => simp
    | case2 xs ys some =>
      intro mem
      obtain rfl := List.mem_singleton.mp mem
      cases xs with
      | cons x xs => exact Or.inl (by simp)
      | nil =>
        cases ys with
        | cons y ys => exact Or.inr (by simp)
        | nil => exact absurd rfl (some rfl)

theorem alignment_script (xs ys : List α) :
    olds (alignment xs ys) = xs ∧ news (alignment xs ys) = ys ∧
      ∀ r ∈ alignment xs ys, r.IsProper :=
  ⟨olds_align _ xs ys, news_align _ xs ys, fun _ mem => isProper_of_mem_align mem⟩

end

end Redline.Diff
