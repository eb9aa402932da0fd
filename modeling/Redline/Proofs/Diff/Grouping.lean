import Redline.Diff.Unified
import Redline.Proofs.Diff.Alignment

set_option autoImplicit false
set_option relaxedAutoImplicit false

/-!
Grouping keeps the script. Whatever context is cut away between the groups of an alignment is common
to both texts, so the groups, each at its place, with common lines before, between and after them,
still give the old text on one side and the new text on the other.
-/

namespace Redline.Diff

namespace Placed

def olds (ps : List Placed) : List Line := ps.flatMap fun p => p.region.old

def news (ps : List Placed) : List Line := ps.flatMap fun p => p.region.new

theorem olds_cons (p : Placed) (ps : List Placed) : olds (p :: ps) = p.region.old ++ olds ps := rfl

theorem news_cons (p : Placed) (ps : List Placed) : news (p :: ps) = p.region.new ++ news ps := rfl

end Placed

open Placed (olds news)

/-- Regions that follow one another in both texts, from the given places on. -/
inductive Laid : Nat → Nat → List Placed → Prop
  | nil (i j : Nat) : Laid i j []
  | cons {i j : Nat} {r : Region Line} {ps : List Placed} :
      r.IsProper → Laid (i + r.old.length) (j + r.new.length) ps → Laid i j (⟨i, j, r⟩ :: ps)

/-- Groups of regions that leave out nothing but lines that two texts have in common. -/
inductive Covers : Nat → Nat → List (List Placed) → List Line → List Line → Prop
  | rest (i j : Nat) (common : List Line) : Covers i j [] common common
  | group {i j : Nat} {g : List Placed} {gs : List (List Placed)} {xs ys : List Line}
      (gap : List Line) : Laid (i + gap.length) (j + gap.length) g →
      Covers (i + (gap ++ olds g).length) (j + (gap ++ news g).length) gs xs ys →
      Covers i j (g :: gs) (gap ++ (olds g ++ xs)) (gap ++ (news g ++ ys))

private theorem Covers.skip {i j : Nat} {gs : List (List Placed)} {xs ys : List Line} (gap : List Line)
    (covers : Covers (i + gap.length) (j + gap.length) gs xs ys) :
    Covers i j gs (gap ++ xs) (gap ++ ys) := by
  generalize first : i + gap.length = i', second : j + gap.length = j' at covers
  cases covers with
  | rest => exact .rest i j (gap ++ xs)
  | @group _ _ g gs xs ys inner laid covers =>
    subst first second
    rw [← List.append_assoc gap, ← List.append_assoc gap]
    refine .group (gap ++ inner) ?_ ?_
    · simpa [Nat.add_assoc] using laid
    · simpa [Nat.add_assoc] using covers

private theorem olds_placeFrom (i j : Nat) (rs : List (Region Line)) :
    olds (placeFrom i j rs) = Region.olds rs := by
  induction rs generalizing i j with
  | nil => rfl
  | cons r rs ih => exact congrArg (r.old ++ ·) (ih _ _)

private theorem news_placeFrom (i j : Nat) (rs : List (Region Line)) :
    news (placeFrom i j rs) = Region.news rs := by
  induction rs generalizing i j with
  | nil => rfl
  | cons r rs ih => exact congrArg (r.new ++ ·) (ih _ _)

private theorem laid_placeFrom {rs : List (Region Line)} (proper : ∀ r ∈ rs, r.IsProper) (i j : Nat) :
    Laid i j (placeFrom i j rs) := by
  induction rs generalizing i j with
  | nil => exact .nil i j
  | cons r rs ih =>
    obtain ⟨first, others⟩ := List.forall_mem_cons.mp proper
    exact .cons first (ih others _ _)

private theorem Laid.trimFront {i j : Nat} {ps : List Placed} (laid : Laid i j ps) (n : Nat) :
    ∃ gap, olds ps = gap ++ olds (trimFront n ps) ∧ news ps = gap ++ news (trimFront n ps) ∧
      Laid (i + gap.length) (j + gap.length) (trimFront n ps) := by
  cases laid with
  | nil => exact ⟨[], rfl, rfl, .nil _ _⟩
  | @cons _ _ r ps proper laid =>
    cases r with
    | changed removed added => exact ⟨[], rfl, rfl, .cons proper laid⟩
    | same ls =>
      have cut : ls = ls.take (ls.length - n) ++ ls.drop (ls.length - n) :=
        (List.take_append_drop _ ls).symm
      have length : (ls.take (ls.length - n)).length = ls.length - n := by
        rw [List.length_take]
        omega
      refine ⟨ls.take (ls.length - n), ?_, ?_, ?_⟩
      · simp [Diff.trimFront, Placed.keepLast, Placed.olds_cons, Region.old, ← List.append_assoc]
      · simp [Diff.trimFront, Placed.keepLast, Placed.news_cons, Region.new, ← List.append_assoc]
      · rw [length]
        refine .cons trivial ?_
        have total : ls.length - n + (ls.drop (ls.length - n)).length = ls.length := by
          rw [List.length_drop]
          omega
        simpa [Region.old, Region.new, Nat.add_assoc, total] using laid

private theorem Laid.trimBack {i j : Nat} {ps : List Placed} (laid : Laid i j ps) (n : Nat) :
    ∃ tail, olds ps = olds (trimBack n ps) ++ tail ∧ news ps = news (trimBack n ps) ++ tail ∧
      Laid i j (trimBack n ps) := by
  induction laid with
  | nil i j => exact ⟨[], rfl, rfl, .nil i j⟩
  | @cons i j r ps proper laid ih =>
    cases ps with
    | nil =>
      cases r with
      | changed removed added => exact ⟨[], by simp [Diff.trimBack, Placed.keepFirst],
          by simp [Diff.trimBack, Placed.keepFirst], .cons proper (.nil _ _)⟩
      | same ls =>
        refine ⟨ls.drop n, ?_, ?_, .cons trivial (.nil _ _)⟩
        · simp [Diff.trimBack, Placed.keepFirst, Region.old, Placed.olds]
        · simp [Diff.trimBack, Placed.keepFirst, Region.new, Placed.news]
    | cons q qs =>
      obtain ⟨tail, old, new, trimmed⟩ := ih
      refine ⟨tail, ?_, ?_, .cons proper trimmed⟩
      · rw [Diff.trimBack, Placed.olds_cons _ (q :: qs), old, Placed.olds_cons, List.append_assoc]
        simp
      · rw [Diff.trimBack, Placed.news_cons _ (q :: qs), new, Placed.news_cons, List.append_assoc]
        simp

private theorem exists_middle {n : Nat} {ls : List Line} (far : n + n < ls.length) :
    ∃ middle, ls = ls.take n ++ (middle ++ ls.drop (ls.length - n)) ∧
      (ls.take n).length + middle.length = ls.length - n := by
  refine ⟨(ls.drop n).take (ls.length - n - n), ?_, ?_⟩
  · have back : (ls.drop n).drop (ls.length - n - n) = ls.drop (ls.length - n) := by
      rw [List.drop_drop]
      congr 1
      omega
    rw [← back, List.take_append_drop, List.take_append_drop]
  · simp only [List.length_take, List.length_drop]
    omega

private theorem regroup {ls front middle back side group xs tail : List Line}
    (cut : ls = front ++ (middle ++ back)) (split : side ++ tail = group ++ xs) :
    (ls ++ side) ++ tail = front ++ (middle ++ ((back ++ group) ++ xs)) := by
  rw [List.append_assoc, split, cut]
  simp only [List.append_assoc]

/--
Splitting within long regions: the group at hand comes first, and the groups after it leave out
nothing but common lines.
-/
private theorem Laid.splitGroups {i j : Nat} {ps : List Placed} (laid : Laid i j ps) (n : Nat)
    (tail : List Line) :
    ∃ xs ys, olds ps ++ tail = olds (splitGroups n ps).1 ++ xs ∧
      news ps ++ tail = news (splitGroups n ps).1 ++ ys ∧
      Laid i j (splitGroups n ps).1 ∧
      Covers (i + (olds (splitGroups n ps).1).length) (j + (news (splitGroups n ps).1).length)
        (splitGroups n ps).2 xs ys := by
  -- The induction is on the regions; `tail` waits behind the last group for the cut at the back.
  induction laid with
  | nil i j => exact ⟨tail, tail, rfl, rfl, .nil i j, .rest _ _ tail⟩
  | @cons i j r ps proper laid ih =>
    obtain ⟨xs, ys, old, new, group, covers⟩ := ih
    cases long : Placed.isLong n ⟨i, j, r⟩ with
    | false =>
      have split : Diff.splitGroups n (⟨i, j, r⟩ :: ps) =
          (⟨i, j, r⟩ :: (Diff.splitGroups n ps).1, (Diff.splitGroups n ps).2) := by
        simp only [Diff.splitGroups, long, Bool.false_eq_true, ↓reduceIte]
      rw [split]
      refine ⟨xs, ys, ?_, ?_, .cons proper group, ?_⟩
      · rw [Placed.olds_cons, Placed.olds_cons, List.append_assoc, old, List.append_assoc]
      · rw [Placed.news_cons, Placed.news_cons, List.append_assoc, new, List.append_assoc]
      · simpa [Placed.olds_cons, Placed.news_cons, Nat.add_assoc] using covers
    | true =>
      cases r with
      | changed removed added => simp [Placed.isLong] at long
      | same ls =>
        have far : n + n < ls.length := by simpa [Placed.isLong] using long
        -- The long region is the tail of one group, a gap and the lead-in of the next group.
        obtain ⟨middle, cut, length⟩ := exists_middle far
        let ahead : List Placed := Placed.keepLast n ⟨i, j, .same ls⟩ :: (Diff.splitGroups n ps).1
        have split : Diff.splitGroups n (⟨i, j, .same ls⟩ :: ps) =
            ([⟨i, j, .same (ls.take n)⟩], ahead :: (Diff.splitGroups n ps).2) := by
          simp only [Diff.splitGroups, long, ↓reduceIte]
          rfl
        have oldFirst : olds [⟨i, j, .same (ls.take n)⟩] = ls.take n := List.append_nil _
        have newFirst : news [⟨i, j, .same (ls.take n)⟩] = ls.take n := List.append_nil _
        have oldAhead : olds ahead =
            ls.drop (ls.length - n) ++ olds (Diff.splitGroups n ps).1 := rfl
        have newAhead : news ahead =
            ls.drop (ls.length - n) ++ news (Diff.splitGroups n ps).1 := rfl
        rw [split]
        refine ⟨middle ++ (olds ahead ++ xs), middle ++ (news ahead ++ ys), ?_, ?_,
          .cons trivial (.nil _ _), ?_⟩
        · rw [oldFirst, oldAhead]
          exact regroup cut old
        · rw [newFirst, newAhead]
          exact regroup cut new
        · have back : (ls.drop (ls.length - n)).length = n := by
            rw [List.length_drop]
            omega
          have start (k : Nat) : k + (ls.take n).length + middle.length = k + (ls.length - n) := by
            omega
          have stop (k : Nat) : k + (ls.length - n) + (ls.drop (ls.length - n)).length =
              k + ls.length := by omega
          have total (k : Nat) (ms : List Line) : k + (ls.take n).length +
              (middle ++ (ls.drop (ls.length - n) ++ ms)).length = k + ls.length + ms.length := by
            simp only [List.length_append]
            omega
          rw [oldFirst, newFirst]
          refine .group middle ?_ ?_
          · rw [start, start]
            refine .cons trivial ?_
            simpa only [Region.old, Region.new, stop] using group
          · rw [oldAhead, newAhead, total, total]
            exact covers

private theorem Covers.filter {i j : Nat} {gs : List (List Placed)} {xs ys : List Line}
    (covers : Covers i j gs xs ys) :
    Covers i j (gs.filter fun g => g.any fun p => p.region.isChange) xs ys := by
  induction covers with
  | rest i j common => exact .rest i j common
  | @group i j g gs xs ys gap laid _ ih =>
    cases changes : g.any fun p => p.region.isChange with
    | true =>
      rw [List.filter_cons_of_pos (by simpa using changes)]
      exact .group gap laid ih
    | false =>
      rw [List.filter_cons_of_neg (by simpa using changes)]
      -- All regions of the group are common, so it gives both sides the same lines.
      have same : olds g = news g := by
        rw [Placed.olds, Placed.news, List.flatMap_def, List.flatMap_def]
        congr 1
        apply List.map_congr_left
        intro p mem
        exact Region.old_eq_new_of_not_change (by simpa using List.any_eq_false.mp changes p mem)
      rw [same] at ih ⊢
      rw [← List.append_assoc, ← List.append_assoc]
      exact ih.skip (gap ++ news g)

theorem Laid.olds_ne_nil_or_news_ne_nil {i j : Nat} {g : List Placed} (laid : Laid i j g)
    (changes : (g.any fun p => p.region.isChange) = true) : olds g ≠ [] ∨ news g ≠ [] := by
  induction laid with
  | nil => simp at changes
  | @cons i j r ps proper laid ih =>
    rw [Placed.olds_cons, Placed.news_cons]
    cases r with
    | changed removed added =>
      rcases proper with some | some
      · exact Or.inl (by simp [Region.old, some])
      · exact Or.inr (by simp [Region.new, some])
    | same ls =>
      rcases ih (by simpa [Region.isChange] using changes) with some | some
      · exact Or.inl (by simp [some])
      · exact Or.inr (by simp [some])

private theorem covers_groups {rs : List (Region Line)} (proper : ∀ r ∈ rs, r.IsProper) (context : Nat) :
    Covers 0 0 (groups context rs) (Region.olds rs) (Region.news rs) := by
  obtain ⟨gap, old, new, front⟩ := (laid_placeFrom proper 0 0).trimFront context
  obtain ⟨tail, oldBack, newBack, back⟩ := front.trimBack context
  obtain ⟨xs, ys, oldSplit, newSplit, group, covers⟩ := back.splitGroups context tail
  rw [olds_placeFrom, oldBack, oldSplit] at old
  rw [news_placeFrom, newBack, newSplit] at new
  rw [old, new]
  refine Covers.filter (.group gap group ?_)
  simpa only [List.length_append, Nat.add_assoc] using covers

theorem covers_changeGroups (old new : Text) :
    Covers 0 0 (changeGroups old new) old.rowsWithBreaks new.rowsWithBreaks := by
  obtain ⟨olds, news, proper⟩ := @alignment_script Line Text.decEq old.rowsWithBreaks new.rowsWithBreaks
  have covers := covers_groups proper contextSize
  rwa [olds, news] at covers

end Redline.Diff
