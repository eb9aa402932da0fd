import Mathlib.Data.List.Basic
import Mathlib.Data.List.Induction
import Redline.Metrics.Statistics

set_option autoImplicit false
set_option relaxedAutoImplicit false

/-!
The ranking of error kinds. Counting one kind after another lists each kind once, in the order in which the
kinds first appear, with how often it appears. The ranking sorts this list by falling count. Sorting is
stable, so kinds that appear equally often keep their order.
-/

namespace Redline.Metrics

open Data (Atom)

/-- Kinds that are wordings, with their counts, as they are listed. -/
def listed (ranking : List (Wording × Nat)) : List (Atom × Nat) :=
  ranking.map fun p => (.ofWording p.1, p.2)

/--
Whether a ranking lists each of some kinds once, with how often it appears, by falling count and then in
the order of first appearance.
-/
structure Ranks (kinds : List Wording) (ranking : List (Wording × Nat)) : Prop where
  distinct : (ranking.map Prod.fst).Nodup
  counts : ∀ k n, (k, n) ∈ ranking ↔ k ∈ kinds ∧ n = kinds.count k
  order : ranking.Pairwise fun p q =>
    q.2 < p.2 ∨ q.2 = p.2 ∧ kinds.idxOf p.1 < kinds.idxOf q.1

/-- The kinds in the order in which they first appear, with how often they appear. -/
def occurrences (kinds : List Wording) : List (Wording × Nat) :=
  kinds.eraseDups.map fun k => (k, kinds.count k)

variable {kinds : List Wording}

/-! Counting. -/

private theorem eraseDups_concat (kinds : List Wording) (k : Wording) :
    (kinds ++ [k]).eraseDups = if k ∈ kinds then kinds.eraseDups else kinds.eraseDups ++ [k] := by
  rw [List.eraseDups_append]
  split
  · rename_i seen
    simp [List.removeAll, seen]
  · rename_i fresh
    simp [List.removeAll, fresh, List.eraseDups_cons]

private theorem pairwise_idxOf_eraseDups (kinds : List Wording) :
    kinds.eraseDups.Pairwise fun j k => kinds.idxOf j < kinds.idxOf k := by
  induction kinds using List.reverseRecOn with
  | nil => exact .nil
  | append_singleton kinds k ih =>
    have before : kinds.eraseDups.Pairwise fun i j =>
        (kinds ++ [k]).idxOf i < (kinds ++ [k]).idxOf j := by
      refine ih.imp_of_mem fun left right earlier => ?_
      rwa [List.idxOf_append_of_mem (List.mem_eraseDups.mp left),
        List.idxOf_append_of_mem (List.mem_eraseDups.mp right)]
    rw [eraseDups_concat]
    split
    · exact before
    · rename_i fresh
      refine List.pairwise_append.mpr ⟨before, List.pairwise_singleton _ _, ?_⟩
      intro j mem l last
      obtain rfl := List.mem_singleton.mp last
      have seen := List.mem_eraseDups.mp mem
      have bound := List.idxOf_lt_length_of_mem seen
      rw [List.idxOf_append_of_mem seen, List.idxOf_append_of_notMem fresh]
      omega

private theorem nodup_eraseDups (kinds : List Wording) : kinds.eraseDups.Nodup :=
  (pairwise_idxOf_eraseDups kinds).imp fun earlier same => by
    rw [same] at earlier
    omega

private theorem sameKey_ofWording (j k : Wording) :
    (Atom.ofWording j).sameKey (.ofWording k) = (j == k) := by
  cases j <;> cases k <;> simp [Atom.ofWording, Atom.sameKey, Atom.number?]

private theorem tallyOne_cons_self (k : Wording) (n : Nat) (ts : List (Atom × Nat)) :
    tallyOne (.ofWording k) ((.ofWording k, n) :: ts) = (.ofWording k, n + 1) :: ts := by
  simp [tallyOne, sameKey_ofWording]

private theorem tallyOne_cons_of_ne {d k : Wording} (other : d ≠ k) (n : Nat) (ts : List (Atom × Nat)) :
    tallyOne (.ofWording k) ((.ofWording d, n) :: ts) =
      (.ofWording d, n) :: tallyOne (.ofWording k) ts := by
  simp [tallyOne, sameKey_ofWording, other]

private theorem tallyOne_listed (k : Wording) (count : Wording → Nat) {ds : List Wording}
    (distinct : ds.Nodup) :
    tallyOne (.ofWording k) (listed (ds.map fun d => (d, count d))) =
      listed (if k ∈ ds then ds.map fun d => (d, count d + if d = k then 1 else 0)
        else ds.map (fun d => (d, count d)) ++ [(k, 1)]) := by
  induction ds with
  | nil => rfl
  | cons d ds ih =>
    obtain ⟨fresh, distinct'⟩ := List.nodup_cons.mp distinct
    have rest := ih distinct'
    by_cases here : d = k
    · subst here
      have others : ds.map (fun e => (e, count e + if e = d then 1 else 0)) =
          ds.map fun e => (e, count e) := by
        refine List.map_congr_left fun e mem => ?_
        have other : e ≠ d := fun same => fresh (same ▸ mem)
        rw [if_neg other]
        rfl
      rw [if_pos List.mem_cons_self, List.map_cons, List.map_cons, others, if_pos rfl]
      exact tallyOne_cons_self d (count d) _
    · have step : tallyOne (.ofWording k) (listed ((d :: ds).map fun d => (d, count d))) =
          (.ofWording d, count d) :: tallyOne (.ofWording k) (listed (ds.map fun d => (d, count d))) :=
        tallyOne_cons_of_ne here (count d) _
      rw [step, rest]
      by_cases later : k ∈ ds
      · rw [if_pos later, if_pos (List.mem_cons_of_mem d later), List.map_cons, if_neg here]
        rfl
      · have absent : k ∉ d :: ds := by
          rintro (_ | ⟨_, mem⟩)
          · exact here rfl
          · exact later mem
        rw [if_neg later, if_neg absent]
        rfl

private theorem tally_map_ofWording (kinds : List Wording) :
    tally (kinds.map Atom.ofWording) = listed (occurrences kinds) := by
  induction kinds using List.reverseRecOn with
  | nil => rfl
  | append_singleton kinds k ih =>
    have step : tally ((kinds ++ [k]).map Atom.ofWording) =
        tallyOne (.ofWording k) (tally (kinds.map Atom.ofWording)) := by
      simp [tally]
    have count (d : Wording) : (kinds ++ [k]).count d = kinds.count d + if d = k then 1 else 0 := by
      have last : [k].count d = if d = k then 1 else 0 := by
        by_cases same : d = k
        · simp [same]
        · simp [same, Ne.symm same]
      rw [List.count_append, last]
    rw [step, ih, occurrences, tallyOne_listed k _ (nodup_eraseDups kinds), occurrences,
      eraseDups_concat]
    congr 1
    by_cases seen : k ∈ kinds
    · rw [if_pos seen, if_pos (List.mem_eraseDups.mpr seen)]
      exact List.map_congr_left fun d _ => by rw [count]
    · have unlisted : k ∉ kinds.eraseDups := fun mem => seen (List.mem_eraseDups.mp mem)
      have others : kinds.eraseDups.map (fun d => (d, (kinds ++ [k]).count d)) =
          kinds.eraseDups.map fun d => (d, kinds.count d) := by
        refine List.map_congr_left fun d mem => ?_
        have other : d ≠ k := fun same => unlisted (same ▸ mem)
        rw [count, if_neg other]
        rfl
      have first : (kinds ++ [k]).count k = 1 := by
        rw [count, if_pos rfl, List.count_eq_zero_of_not_mem seen]
      rw [if_neg seen, if_neg unlisted, List.map_append, others, List.map_singleton, first]

/-! Sorting. -/

section Falling

variable {α : Type} (size : α → Nat)

def falling (xs : List α) : List α := xs.mergeSort fun a b => decide (size b ≤ size a)

private theorem le_trans_falling (a b c : α) (first : decide (size b ≤ size a) = true)
    (second : decide (size c ≤ size b) = true) : decide (size c ≤ size a) = true := by
  simp only [decide_eq_true_eq] at first second ⊢
  omega

private theorem le_total_falling (a b : α) :
    (decide (size b ≤ size a) || decide (size a ≤ size b)) = true := by
  simp only [Bool.or_eq_true, decide_eq_true_eq]
  omega

private theorem pairwise_falling (xs : List α) : (falling size xs).Pairwise fun a b => size b ≤ size a :=
  (List.pairwise_mergeSort (le_trans_falling size) (le_total_falling size) xs).imp fun below =>
    of_decide_eq_true below

private theorem filter_falling (n : Nat) (xs : List α) :
    (falling size xs).filter (size · == n) = xs.filter (size · == n) := by
  -- What has one size is sorted already, so it is a sublist of the sorted list and all of its size there.
  have level : (xs.filter (size · == n)).Pairwise fun a b => decide (size b ≤ size a) = true := by
    refine List.pairwise_iff_forall_sublist.mpr fun {a b} pair => ?_
    have left : size a = n := by simpa using (List.mem_filter.mp (pair.subset (by simp))).2
    have right : size b = n := by simpa using (List.mem_filter.mp (pair.subset (by simp))).2
    rw [left, right]
    exact decide_eq_true (Nat.le_refl n)
  have inside : (xs.filter (size · == n)).Sublist (falling size xs) :=
    List.sublist_mergeSort (le_trans_falling size) (le_total_falling size) level List.filter_sublist
  have within : (xs.filter (size · == n)).Sublist ((falling size xs).filter (size · == n)) := by
    have both := inside.filter (size · == n)
    simpa only [List.filter_filter, Bool.and_self] using both
  have many : ((falling size xs).filter (size · == n)).length = (xs.filter (size · == n)).length :=
    ((List.mergeSort_perm xs _).filter _).length_eq
  exact (within.eq_of_length many.symm).symm

private theorem order_falling {earlier : α → α → Prop} {xs : List α} (ordered : xs.Pairwise earlier) :
    (falling size xs).Pairwise fun a b => size b < size a ∨ size b = size a ∧ earlier a b := by
  refine List.pairwise_iff_forall_sublist.mpr fun {a b} pair => ?_
  have below : size b ≤ size a := List.pairwise_iff_forall_sublist.mp (pairwise_falling size xs) pair
  rcases Nat.lt_or_eq_of_le below with less | same
  · exact .inl less
  · have kept : [a, b].Sublist (xs.filter (size · == size a)) := by
      have both := pair.filter (size · == size a)
      rw [filter_falling] at both
      simpa [same] using both
    exact .inr ⟨same, List.pairwise_iff_forall_sublist.mp ordered (kept.trans List.filter_sublist)⟩

end Falling

/-! The ranking. -/

private theorem ranked_listed (ranking : List (Wording × Nat)) :
    ranked (listed ranking) = listed (falling Prod.snd ranking) := by
  refine (List.map_mergeSort ?_).symm
  intro p _ q _
  rfl

private theorem mem_occurrences {k : Wording} {n : Nat} :
    (k, n) ∈ occurrences kinds ↔ k ∈ kinds ∧ n = kinds.count k := by
  constructor
  · intro mem
    obtain ⟨j, listed, same⟩ := List.mem_map.mp mem
    obtain ⟨rfl, rfl⟩ := Prod.mk.inj same
    exact ⟨List.mem_eraseDups.mp listed, rfl⟩
  · rintro ⟨seen, rfl⟩
    exact List.mem_map.mpr ⟨k, List.mem_eraseDups.mpr seen, rfl⟩

theorem exists_ranks (kinds : List Wording) : ∃ ranking,
    ranked (tally (kinds.map Atom.ofWording)) = listed ranking ∧ Ranks kinds ranking := by
  have keys : (occurrences kinds).map Prod.fst = kinds.eraseDups := by
    rw [occurrences, List.map_map]
    exact List.map_id _
  have same : (falling Prod.snd (occurrences kinds)).Perm (occurrences kinds) :=
    List.mergeSort_perm _ _
  refine ⟨falling Prod.snd (occurrences kinds), ?_, ?_, ?_, ?_⟩
  · rw [tally_map_ofWording, ranked_listed]
  · rw [(same.map Prod.fst).nodup_iff, keys]
    exact nodup_eraseDups kinds
  · intro k n
    rw [same.mem_iff, mem_occurrences]
  · refine order_falling Prod.snd ?_
    exact List.pairwise_map.mpr (pairwise_idxOf_eraseDups kinds)

def countOf (ts : List (Atom × Nat)) (k : Wording) : Nat :=
  (ts.find? fun t => t.1.sameKey (.ofWording k)).elim 0 Prod.snd

theorem Ranks.countOf_listed {ranking : List (Wording × Nat)} (ranks : Ranks kinds ranking) (k : Wording) :
    countOf (listed ranking) k = kinds.count k := by
  have found : (listed ranking).find? (fun t => t.1.sameKey (.ofWording k)) =
      (ranking.find? fun p => p.1 == k).map fun p => (.ofWording p.1, p.2) := by
    have same : (fun t : Atom × Nat => t.1.sameKey (.ofWording k)) ∘
        (fun p : Wording × Nat => (.ofWording p.1, p.2)) = fun p => p.1 == k :=
      funext fun p => sameKey_ofWording p.1 k
    rw [listed, List.find?_map, same]
  rw [countOf, found]
  cases place : ranking.find? fun p => p.1 == k with
  | none =>
    have unseen : k ∉ kinds := by
      intro seen
      have mem := (ranks.counts k _).mpr ⟨seen, rfl⟩
      exact List.find?_eq_none.mp place _ mem (beq_self_eq_true k)
    exact (List.count_eq_zero_of_not_mem unseen).symm
  | some p =>
    obtain ⟨j, n⟩ := p
    obtain rfl : j = k := by simpa using List.find?_some place
    exact ((ranks.counts j n).mp (List.mem_of_find?_eq_some place)).2

end Redline.Metrics
