import Redline.Omission.Scan
import Redline.Proofs.Text.Lines

set_option autoImplicit false
set_option relaxedAutoImplicit false

/-!
Findings. A finding names a line of the candidate by its number. The two passes that look at the old
text, for comments and for ellipses, never find a line that the old text has.
-/

namespace Redline.Omission

variable {rules : Rules} {olds news : List Line} {l : Line} {k : Text} {f : Finding}

theorem mem_pass_iff {keyword? : Line → Option Text} {n : Nat} {ls : List Line} :
    f ∈ pass keyword? n ls ↔
      ∃ i, ls[i]? = some f.line ∧ f.lineNumber = n + i ∧ keyword? f.line = some f.keyword := by
  induction ls generalizing n with
  | nil => simp [pass]
  | cons l ls ih =>
    have later : f ∈ pass keyword? (n + 1) ls ↔ ∃ i, (l :: ls)[i + 1]? = some f.line ∧
        f.lineNumber = n + (i + 1) ∧ keyword? f.line = some f.keyword := by
      simp only [ih, List.getElem?_cons_succ, Nat.add_assoc, Nat.add_comm 1]
    rw [← Nat.or_exists_add_one, ← later, pass]
    cases found : keyword? l with
    | none =>
      have first : ¬ (some l = some f.line ∧ f.lineNumber = n + 0 ∧
          keyword? f.line = some f.keyword) := by
        rintro ⟨here, -, found'⟩
        obtain rfl := Option.some.inj here
        simp [found] at found'
      simp only [List.getElem?_cons_zero, first, false_or]
    | some k =>
      have first : f = ⟨l, k, n⟩ ↔ some l = some f.line ∧ f.lineNumber = n + 0 ∧
          keyword? f.line = some f.keyword := by
        constructor
        · rintro rfl
          exact ⟨rfl, rfl, found⟩
        · rintro ⟨here, number, found'⟩
          obtain ⟨line, keyword, lineNumber⟩ := f
          obtain rfl : l = line := Option.some.inj here
          obtain rfl : k = keyword := Option.some.inj (found.symm.trans found')
          rw [show lineNumber = n from number]
      simp only [List.mem_cons, List.getElem?_cons_zero, first]

private theorem of_commentKeyword? (found : commentKeyword? rules (olds.map normalized) l = some k) :
    isComment rules.comments l = true ∧ l ∉ olds := by
  unfold commentKeyword? at found
  split at found
  · rename_i guard
    obtain ⟨comment, new⟩ : isComment rules.comments l = true ∧
        normalized l ∉ olds.map normalized := by simpa using guard
    exact ⟨comment, fun old => new (List.mem_map_of_mem old)⟩
  · simp at found

private theorem mem_ellipsisPass_iff : f ∈ ellipsisPass olds news ↔
    (∀ l ∈ olds, Text.includes ellipsis l = false) ∧ f ∈ pass ellipsisKeyword? 1 news := by
  unfold ellipsisPass
  split
  · rename_i has
    obtain ⟨l, mem, dots⟩ := List.any_eq_true.mp has
    simp only [List.not_mem_nil, false_iff, not_and]
    intro none
    simp [none l mem] at dots
  · rename_i none
    have free : ∀ l ∈ olds, Text.includes ellipsis l = false := by simpa using none
    exact (and_iff_right free).symm

private theorem includes_of_ellipsisKeyword? (found : ellipsisKeyword? l = some k) :
    Text.includes ellipsis l = true := by
  unfold ellipsisKeyword? at found
  split at found
  · assumption
  · simp at found

theorem new_of_mem_passes (comments : rules.comments = defaultComments)
    (mem : f ∈ commentPass rules olds news ++ ellipsisPass olds news) :
    ∃ i, f.lineNumber = i + 1 ∧ news[i]? = some f.line ∧ f.line ∉ olds ∧ f.line ≠ [] := by
  rcases List.mem_append.mp mem with mem | mem
  · obtain ⟨i, here, number, found⟩ := mem_pass_iff.mp mem
    obtain ⟨comment, new⟩ := of_commentKeyword? found
    refine ⟨i, number.trans (Nat.add_comm 1 i), here, new, ?_⟩
    intro empty
    rw [comments, empty] at comment
    exact absurd comment (by decide)
  · obtain ⟨none, mem⟩ := mem_ellipsisPass_iff.mp mem
    obtain ⟨i, here, number, found⟩ := mem_pass_iff.mp mem
    have dots := includes_of_ellipsisKeyword? found
    refine ⟨i, number.trans (Nat.add_comm 1 i), here, ?_, ?_⟩
    · intro old
      simp [none _ old] at dots
    · intro empty
      rw [empty] at dots
      exact absurd dots (by decide)

theorem exists_line_of_mem_findings {old candidate : Text}
    (mem : f ∈ (detect rules old candidate).findings) :
    ∃ i, f.lineNumber = i + 1 ∧ candidate.lines[i]? = some f.line := by
  have named {keyword? : Line → Option Text} (mem : f ∈ pass keyword? 1 candidate.lines) :
      ∃ i, f.lineNumber = i + 1 ∧ candidate.lines[i]? = some f.line := by
    obtain ⟨i, here, number, -⟩ := mem_pass_iff.mp mem
    exact ⟨i, number.trans (Nat.add_comm 1 i), here⟩
  simp only [detect, List.mem_append] at mem
  rcases mem with (mem | mem) | mem
  · exact named mem
  · exact named (mem_ellipsisPass_iff.mp mem).2
  · exact named mem

end Redline.Omission
