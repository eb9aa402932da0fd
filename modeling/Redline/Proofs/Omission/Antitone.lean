import Redline.Proofs.Omission.Passes

set_option autoImplicit false
set_option relaxedAutoImplicit false

/-!
The more an old text has, the less is found. The old text only keeps findings back: a comment that it
has, in whatever letter case, and every ellipsis if it has one itself. So what counts is which lines it
has, neither their order nor how often they occur, and a candidate that has no other lines is reported
for suspicious marks alone.
-/

namespace Redline.Omission

variable {c : Criteria} {olds olds' news : List Line} {p : Pass} {l : Line} {k : Text}

private theorem keyword?_of_subset (more : olds ⊆ olds') (found : c.keyword? olds' p l = some k) :
    c.keyword? olds p l = some k := by
  cases p with
  | comments =>
    simp only [Criteria.keyword?] at found ⊢
    split at found
    · rename_i guard
      obtain ⟨comment, new⟩ : c.isComment l = true ∧ normalized l ∉ olds'.map normalized := by
        simpa using guard
      have newer : normalized l ∉ olds.map normalized := fun mem => new (List.map_subset _ more mem)
      rw [if_pos (by simpa [comment] using newer)]
      exact found
    · simp at found
  | ellipses =>
    simp only [Criteria.keyword?] at found ⊢
    split at found
    · simp at found
    · rename_i none
      have fewer : ¬ (olds.any fun l => Text.includes ellipsis l) = true := fun has => by
        obtain ⟨l, mem, dots⟩ := List.any_eq_true.mp has
        exact none (List.any_eq_true.mpr ⟨l, more mem, dots⟩)
      rw [if_neg fewer]
      exact found
  | suspicious => exact found

private theorem keyword?_of_mem (old : l ∈ olds) (looks : p ≠ .suspicious) :
    c.keyword? olds p l = none := by
  cases p with
  | comments =>
    have known : (olds.map normalized).elem (normalized l) = true :=
      List.elem_eq_true_of_mem (List.mem_map_of_mem old)
    simp only [Criteria.keyword?, known, Bool.not_true, Bool.and_false, Bool.false_eq_true, if_false]
  | ellipses =>
    simp only [Criteria.keyword?]
    split
    · rfl
    · rename_i none
      have plain : ∀ m ∈ olds, Text.includes ellipsis m = false := by simpa using none
      rw [ellipsisKeyword?, plain l old]
      rfl
  | suspicious => exact absurd rfl looks

private theorem findings_sublist (more : olds ⊆ olds') (p : Pass) :
    (c.findings olds' news p).Sublist (c.findings olds news p) :=
  pass_sublist (fun _ _ => keyword?_of_subset more) 1 news

private theorem findings_eq_nil (old : news ⊆ olds) (looks : p ≠ .suspicious) :
    c.findings olds news p = [] :=
  pass_eq_nil (fun _ mem => keyword?_of_mem (old mem) looks) 1

private theorem findings_suspicious (c : Criteria) (olds olds' news : List Line) :
    c.findings olds news .suspicious = c.findings olds' news .suspicious := rfl

private theorem scan_sublist {old old' : Text} (more : old.lines ⊆ old'.lines) (candidate : Text) :
    (c.scan old' candidate).findings.Sublist (c.scan old candidate).findings :=
  ((findings_sublist more .comments).append (findings_sublist more .ellipses)).append
    (findings_sublist more .suspicious)

/--
Whatever tells comments and suspicious marks, a rule table or something else, a scan against an old text
with more lines finds a sublist of what it finds against one with fewer, pass by pass, and the same
suspicious marks. Old texts with the same lines give the same report. A candidate all of whose lines are
old is reported for suspicious marks alone.
-/
theorem scan_antitone (c : Criteria) (candidate : Text) :
    (∀ rules old, detect rules old candidate = rules.criteria.scan old candidate) ∧
    (∀ old old' : Text, (∀ l ∈ old.lines, l ∈ old'.lines) →
      (c.scan old' candidate).findings.Sublist (c.scan old candidate).findings ∧
      (∀ p, (c.findings old'.lines candidate.lines p).Sublist
        (c.findings old.lines candidate.lines p)) ∧
      c.findings old'.lines candidate.lines .suspicious =
        c.findings old.lines candidate.lines .suspicious) ∧
    (∀ old old' : Text, (∀ l, l ∈ old.lines ↔ l ∈ old'.lines) →
      c.scan old candidate = c.scan old' candidate) ∧
    ∀ old : Text, (∀ l ∈ candidate.lines, l ∈ old.lines) →
      (c.scan old candidate).findings = c.findings old.lines candidate.lines .suspicious := by
  refine ⟨fun rules old => detect_eq_scan rules old candidate, ?_, ?_, ?_⟩
  · intro old old' more
    exact ⟨scan_sublist more candidate, findings_sublist more, findings_suspicious c _ _ _⟩
  · intro old old' same
    have there : (c.scan old' candidate).findings.Sublist (c.scan old candidate).findings :=
      scan_sublist (fun l mem => (same l).mp mem) candidate
    have back : (c.scan old candidate).findings.Sublist (c.scan old' candidate).findings :=
      scan_sublist (fun l mem => (same l).mpr mem) candidate
    exact congrArg Report.mk (back.eq_of_length_le there.length_le)
  · intro old carried
    rw [Criteria.scan, findings_eq_nil carried (by decide), findings_eq_nil carried (by decide)]
    rfl

/-- The second comment is in the old text, in other letter case, and so is an ellipsis. -/
example : detect defaultRules "a\n# Rest Unchanged\nb..." "# etc\n # rest unchanged\n(...)" =
    ⟨[⟨"# etc", "etc", 1⟩, ⟨"(...)", "suspicious pattern", 3⟩]⟩ := by decide

end Redline.Omission
