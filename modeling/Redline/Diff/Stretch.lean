set_option autoImplicit false
set_option relaxedAutoImplicit false

/-!
The longest common stretch of two lists, the earliest one when there are several. It is found row by
row: for each item of the first list, how long the common stretches are that end there and at each item
of the second. Items that are not usable start no stretch, but a stretch may grow over them.
-/

namespace Redline.Diff

/-- A common stretch: where it begins in each list, and its length. -/
structure Stretch where
  oldAt : Nat
  newAt : Nat
  size : Nat
  deriving Repr, DecidableEq

section

variable {α : Type} [DecidableEq α]

/--
The lengths of the common stretches that end at item `x` of the first list and at each item of
the second, from the lengths for the item before `x`. `diagonal` is the length up to the item
before the first one.
-/
def nextRow (usable : α → Bool) (x : α) (diagonal : Nat) : List Nat → List α → List Nat
  | p :: ps, y :: ys =>
    (if x = y ∧ usable y then diagonal + 1 else 0) :: nextRow usable x p ps ys
  | _, _ => []

/-- The longer of the best stretch so far and those that end in a row, from column `j` on. -/
def bestInRow (i j : Nat) (best : Stretch) : List Nat → Stretch
  | [] => best
  | k :: ks =>
    bestInRow i (j + 1) (if best.size < k then ⟨i + 1 - k, j + 1 - k, k⟩ else best) ks

/-- The best stretch once the items from number `i` on have been seen too. -/
def bestFrom (usable : α → Bool) (ys : List α) (i : Nat) (row : List Nat) (best : Stretch) :
    List α → Stretch
  | [] => best
  | x :: xs =>
    let row := nextRow usable x 0 row ys
    bestFrom usable ys (i + 1) row (bestInRow i 0 best row) xs

/-- How many items two lists have in common at their starts. -/
def commonStart : List α → List α → Nat
  | x :: xs, y :: ys => if x = y then commonStart xs ys + 1 else 0
  | _, _ => 0

/-- A stretch grown backward and then forward over equal items. -/
def Stretch.grow (s : Stretch) (xs ys : List α) : Stretch :=
  let back := commonStart (xs.take s.oldAt).reverse (ys.take s.newAt).reverse
  let ahead := commonStart (xs.drop (s.oldAt + s.size)) (ys.drop (s.newAt + s.size))
  ⟨s.oldAt - back, s.newAt - back, back + s.size + ahead⟩

def longestStretch (usable : α → Bool) (xs ys : List α) : Stretch :=
  (bestFrom usable ys 0 (ys.map fun _ => 0) ⟨0, 0, 0⟩ xs).grow xs ys

end

variable {α : Type}

/-- Whether a stretch consists of some items that stand in both lists where it says. -/
structure Stretch.Stands (s : Stretch) (xs ys items : List α) : Prop where
  size : items.length = s.size
  old : xs.take s.oldAt ++ (items ++ xs.drop (s.oldAt + s.size)) = xs
  new : ys.take s.newAt ++ (items ++ ys.drop (s.newAt + s.size)) = ys
  oldAt : s.oldAt ≤ xs.length
  newAt : s.newAt ≤ ys.length

def EndAlike (k : Nat) (as bs : List α) : Prop :=
  ∃ items before before', items.length = k ∧ as = before ++ items ∧ bs = before' ++ items

/-- Whether each length of a row is that of a common end of `as` and of `bs` up to its column. -/
def RowEnds (as : List α) : List α → List Nat → List α → Prop
  | _, [], _ => True
  | _, _ :: _, [] => False
  | bs, k :: ks, y :: ys => EndAlike k as (bs ++ [y]) ∧ RowEnds as (bs ++ [y]) ks ys

private theorem EndAlike.zero (as bs : List α) : EndAlike 0 as bs := ⟨[], as, bs, by simp⟩

private theorem EndAlike.snoc {k : Nat} {as bs : List α} (alike : EndAlike k as bs) (x : α) :
    EndAlike (k + 1) (as ++ [x]) (bs ++ [x]) := by
  obtain ⟨items, before, before', size, rfl, rfl⟩ := alike
  exact ⟨items ++ [x], before, before', by simp [size], by simp, by simp⟩

private theorem Stretch.Stands.of_append (before before' items after after' : List α) :
    Stretch.Stands ⟨before.length, before'.length, items.length⟩ (before ++ (items ++ after))
      (before' ++ (items ++ after')) items :=
  ⟨rfl, by simp, by simp, by simp, by simp⟩

private theorem EndAlike.stands {k : Nat} {as bs : List α} (alike : EndAlike k as bs) (cs ds : List α) :
    ∃ items, Stretch.Stands ⟨as.length - k, bs.length - k, k⟩ (as ++ cs) (bs ++ ds) items := by
  obtain ⟨items, before, before', rfl, rfl, rfl⟩ := alike
  have stands := Stretch.Stands.of_append before before' items cs ds
  exact ⟨items, by simpa using stands⟩

private theorem rowEnds_zeros (bs ys : List α) : RowEnds [] bs (ys.map fun _ => 0) ys := by
  induction ys generalizing bs with
  | nil => trivial
  | cons y ys ih => exact ⟨.zero _ _, ih _⟩

section

variable [DecidableEq α] {usable : α → Bool} {xs ys : List α}

private theorem rowEnds_nextRow {as bs : List α} {x : α} {diagonal : Nat} {row : List Nat}
    (ends : RowEnds as bs row ys) (alike : EndAlike diagonal as bs) :
    RowEnds (as ++ [x]) bs (nextRow usable x diagonal row ys) ys := by
  induction row generalizing bs diagonal ys with
  | nil => cases ys <;> trivial
  | cons p ps ih =>
    cases ys with
    | nil => trivial
    | cons y ys =>
      refine ⟨?_, ih ends.2 ends.1⟩
      split
      · rename_i found
        rw [found.1]
        exact alike.snoc y
      · exact .zero _ _

omit [DecidableEq α] in
private theorem stands_bestInRow {as bs : List α} (cs : List α) {x : α} {row : List Nat} {best : Stretch}
    (ends : RowEnds (as ++ [x]) bs row ys)
    (stands : ∃ items, best.Stands (as ++ x :: cs) (bs ++ ys) items) :
    ∃ items, (bestInRow as.length bs.length best row).Stands (as ++ x :: cs) (bs ++ ys) items := by
  induction row generalizing bs ys best with
  | nil => exact stands
  | cons k ks ih =>
    cases ys with
    | nil => exact ends.elim
    | cons y ys =>
      have here := ends.1.stands cs ys
      simp only [List.append_assoc, List.cons_append, List.nil_append, List.length_append,
        List.length_singleton] at here
      have next : ∃ items,
          (if best.size < k then ⟨as.length + 1 - k, bs.length + 1 - k, k⟩ else best : Stretch).Stands
            (as ++ x :: cs) ((bs ++ [y]) ++ ys) items := by
        rw [List.append_assoc, List.singleton_append]
        split
        · exact here
        · exact stands
      have rest := ih ends.2 next
      rw [List.append_assoc, List.singleton_append, List.length_append, List.length_singleton] at rest
      exact rest

variable (usable) in
private theorem stands_bestFrom {as : List α} {row : List Nat} {best : Stretch}
    (ends : RowEnds as [] row ys)
    (stands : ∃ items, best.Stands (as ++ xs) ys items) :
    ∃ items, (bestFrom usable ys as.length row best xs).Stands (as ++ xs) ys items := by
  induction xs generalizing as row best with
  | nil => exact stands
  | cons x xs ih =>
    have next : RowEnds (as ++ [x]) [] (nextRow usable x 0 row ys) ys := rowEnds_nextRow ends (.zero _ _)
    have better := stands_bestInRow xs next stands
    rw [List.nil_append, ← List.singleton_append, ← List.append_assoc] at better
    have rest := ih next better
    rw [List.append_assoc, List.singleton_append, List.length_append, List.length_singleton] at rest
    exact rest

private theorem commonStart_spec (us vs : List α) :
    ∃ items us' vs', items.length = commonStart us vs ∧ us = items ++ us' ∧ vs = items ++ vs' := by
  fun_induction commonStart us vs with
  | case1 us y vs ih =>
    obtain ⟨items, us', vs', size, rfl, rfl⟩ := ih
    exact ⟨y :: items, us', vs', by simp [size], rfl, rfl⟩
  | case2 => exact ⟨[], _, _, rfl, rfl, rfl⟩
  | case3 us vs _ => exact ⟨[], us, vs, rfl, rfl, rfl⟩

private theorem Stretch.Stands.grow {s : Stretch} {items : List α} (stands : s.Stands xs ys items) :
    ∃ items, (s.grow xs ys).Stands xs ys items := by
  let before := xs.take s.oldAt
  let before' := ys.take s.newAt
  let after := xs.drop (s.oldAt + s.size)
  let after' := ys.drop (s.newAt + s.size)
  obtain ⟨back, u, u', backSize, left, left'⟩ := commonStart_spec before.reverse before'.reverse
  obtain ⟨ahead, v, v', aheadSize, right, right'⟩ := commonStart_spec after after'
  replace left : before = u.reverse ++ back.reverse := by simpa using congrArg List.reverse left
  replace left' : before' = u'.reverse ++ back.reverse := by simpa using congrArg List.reverse left'
  have old : u.reverse ++ ((back.reverse ++ items ++ ahead) ++ v) = xs := by
    have whole : before ++ (items ++ after) = xs := stands.old
    rw [left, right] at whole
    simpa using whole
  have new : u'.reverse ++ ((back.reverse ++ items ++ ahead) ++ v') = ys := by
    have whole : before' ++ (items ++ after') = ys := stands.new
    rw [left', right'] at whole
    simpa using whole
  have oldAt : u.length + back.length = s.oldAt := by
    have size : before.length = s.oldAt := by simp [before, stands.oldAt]
    simpa [left] using size
  have newAt : u'.length + back.length = s.newAt := by
    have size : before'.length = s.newAt := by simp [before', stands.newAt]
    simpa [left'] using size
  have grown : s.grow xs ys =
      ⟨u.reverse.length, u'.reverse.length, (back.reverse ++ items ++ ahead).length⟩ := by
    have same : s.grow xs ys = ⟨s.oldAt - commonStart before.reverse before'.reverse,
        s.newAt - commonStart before.reverse before'.reverse,
        commonStart before.reverse before'.reverse + s.size + commonStart after after'⟩ := rfl
    rw [same, ← backSize, ← aheadSize, ← oldAt, ← newAt, ← stands.size]
    simp [Nat.add_assoc]
  refine ⟨back.reverse ++ items ++ ahead, ?_⟩
  have grownStands := Stretch.Stands.of_append u.reverse u'.reverse (back.reverse ++ items ++ ahead) v v'
  rwa [old, new, ← grown] at grownStands

theorem longestStretch_stands (usable : α → Bool) (xs ys : List α) :
    ∃ items, (longestStretch usable xs ys).Stands xs ys items := by
  have start : ∃ items, Stretch.Stands ⟨0, 0, 0⟩ ([] ++ xs) ys items :=
    ⟨[], rfl, rfl, rfl, by simp, by simp⟩
  obtain ⟨items, stands⟩ := stands_bestFrom usable (rowEnds_zeros [] ys) start
  exact stands.grow

theorem add_size_longestStretch_le (usable : α → Bool) (xs ys : List α) :
    (longestStretch usable xs ys).oldAt + (longestStretch usable xs ys).size ≤ xs.length := by
  obtain ⟨items, stands⟩ := longestStretch_stands usable xs ys
  have length := congrArg List.length stands.old
  simp only [List.length_append, List.length_take, List.length_drop, stands.size] at length
  have := stands.oldAt
  omega

end

end Redline.Diff
