import Redline.Proofs.Diff.Origins
import Redline.Proofs.Omission.Findings

set_option autoImplicit false
set_option relaxedAutoImplicit false

/-!
The scan of a patched text. What the passes for comments and ellipses find in it was written by a hunk
and is new: a line that was carried over from the old text is passed over by both, since a comment is
known then, and an ellipsis switches its pass off.
-/

namespace Redline.Omission

open Diff (Source Hunk Emitted emitted textOf)

/--
Whether the scan of a patched text blames the patch alone. The text has the lines `es`, made by the hunks
`hs` from the text `old`.
-/
structure BlamesPatch (rules : Rules) (old : Text) (hs : List Hunk) (es : List Emitted) : Prop where
  /-- What is found is none of the old lines, and is a line that a hunk adds or keeps. -/
  found : ∀ f ∈ commentPass rules old.lines (textOf es).lines ++
      ellipsisPass old.lines (textOf es).lines,
    f.line ∉ old.lines ∧ (∃ i, f.lineNumber = i + 1 ∧ es[i]? = some ⟨.written, f.line⟩) ∧
      ∃ h ∈ hs, '+' :: f.line ∈ h.lines ∨ ' ' :: f.line ∈ h.lines
  /-- What is reported on a line that was carried over, the pass for suspicious marks has found. -/
  carried : ∀ i e, es[i]? = some e → e.origin ≠ .written →
    e.line ∈ old.lines ∧ ∀ f ∈ (detect rules old (textOf es)).findings, f.lineNumber = i + 1 →
      f ∈ suspiciousPass rules (textOf es).lines ∧
        f ∉ commentPass rules old.lines (textOf es).lines ∧
        f ∉ ellipsisPass old.lines (textOf es).lines

variable {rules : Rules} {dedupe : Bool} {old new : Text} {diff : Source} {hs : List Hunk}
  {es : List Emitted} {f : Finding}

private theorem exists_emitted_of_line (free : ∀ l ∈ es.map Emitted.line, '\n' ∉ l) {i : Nat}
    {l : Line} (here : (textOf es).lines[i]? = some l) (some : l ≠ []) :
    ∃ e, es[i]? = .some e ∧ e.line = l := by
  by_cases none : es = []
  · subst none
    have single : i = 0 ∧ [] = l := by
      simpa [textOf, Text.unlines, Text.joinWith, Text.lines, Text.splitAtEach,
        List.getElem?_singleton] using here
    exact absurd single.2.symm some
  · rw [textOf, Text.lines_unlines (by simpa using none) free] at here
    simpa using here

private theorem written_of_found (comments : rules.comments = defaultComments)
    (free : diff.IsFeedFree) (hunks : diff.toHunks = .ok hs)
    (emits : emitted dedupe old diff = .ok es)
    (mem : f ∈ commentPass rules old.lines (textOf es).lines ++
      ellipsisPass old.lines (textOf es).lines) :
    f.line ∉ old.lines ∧ (∃ i, f.lineNumber = i + 1 ∧ es[i]? = some ⟨.written, f.line⟩) ∧
      ∃ h ∈ hs, '+' :: f.line ∈ h.lines ∨ ' ' :: f.line ∈ h.lines := by
  obtain ⟨i, number, here, new, some⟩ := new_of_mem_passes comments mem
  obtain ⟨⟨origin, line⟩, at_i, same⟩ :=
    exists_emitted_of_line (Diff.feed_not_mem_of_emitted free emits) here some
  obtain rfl : line = f.line := same
  have traced := Diff.traced_of_emitted hunks emits _ (List.mem_of_getElem? at_i)
  -- Were the line carried over, it would be an old one.
  have written : origin = .written := by
    by_contra other
    exact new (traced.carried other)
  subst written
  obtain ⟨h, inHunks, target⟩ := traced.written rfl
  refine ⟨new, ⟨i, number, at_i⟩, h, inHunks, ?_⟩
  rcases Diff.mem_lines_of_mem_targetLines target with added | kept | ⟨empty, -⟩
  · exact .inl added
  · exact .inr kept
  · exact absurd empty some

/--
When a diff applies, the passes for comments and ellipses blame the patch alone, whatever the phrases are:
they find only new lines that stand in a hunk as added or as context. On a line that was carried over from
the old text, only the pass for suspicious marks can report something.
-/
theorem patch_alone_is_blamed (comments : rules.comments = defaultComments)
    (free : diff.IsFeedFree) (applied : Diff.apply dedupe old diff = .ok new) :
    ∃ hs es, diff.toHunks = .ok hs ∧ emitted dedupe old diff = .ok es ∧ new = textOf es ∧
      BlamesPatch rules old hs es := by
  rw [Diff.apply_eq_map_emitted] at applied
  obtain ⟨es, emits, rfl⟩ := map_eq_ok_iff.mp applied
  obtain ⟨hs, hunks⟩ := Diff.exists_hunks_of_emitted emits
  have found := fun f => written_of_found (f := f) comments free hunks emits
  refine ⟨hs, es, hunks, emits, rfl, found, ?_⟩
  intro i e here origin
  have traced := Diff.traced_of_emitted hunks emits e (List.mem_of_getElem? here)
  refine ⟨traced.carried origin, ?_⟩
  intro f mem number
  have notFound : f ∉ commentPass rules old.lines (textOf es).lines ++
      ellipsisPass old.lines (textOf es).lines := by
    intro mem
    obtain ⟨-, ⟨j, number', written⟩, -⟩ := found f mem
    obtain rfl : i = j := by omega
    obtain rfl := Option.some.inj (here.symm.trans written)
    exact origin rfl
  have suspicious : f ∈ suspiciousPass rules (textOf es).lines := by
    rcases List.mem_append.mp mem with mem | mem
    · exact absurd mem notFound
    · exact mem
  exact ⟨suspicious, fun mem => notFound (List.mem_append_left _ mem),
    fun mem => notFound (List.mem_append_right _ mem)⟩

/-- A comment that stands for a function's body is blamed, one that was there before is not. -/
theorem patch_alone_is_blamed_small :
    let old : Text := "# rest\na\n(...)"
    let diff : Source := .text "@@ -2 +2 @@\n-a\n+# same as before"
    ∃ hs es, diff.toHunks = .ok hs ∧ emitted true old diff = .ok es ∧
      ("# rest\n# same as before\n(...)" : Text) = textOf es ∧ BlamesPatch defaultRules old hs es :=
  patch_alone_is_blamed rfl trivial rfl

end Redline.Omission
