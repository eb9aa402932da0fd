import Redline.Proofs.Diff.Partition
import Redline.Proofs.Diff.Repeats
import Redline.Proofs.Text.Lines

set_option autoImplicit false
set_option relaxedAutoImplicit false

/-!
Origins of emitted lines. What a body writes is the text of a line that the body adds or keeps, and
need not be an old line; whatever else is emitted is an old line.
-/

namespace Redline.Diff

/-- Whether a line is what its origin says, given the lines that were left and the hunks to come. -/
structure Emitted.Traced (olds : List Line) (hs : List Hunk) (e : Emitted) : Prop where
  written : e.origin = .written → ∃ h ∈ hs, e.line ∈ h.target
  carried : e.origin ≠ .written → e.line ∈ olds

namespace Emitted.Traced

variable {olds rest : List Line} {hs : List Hunk} {h : Hunk} {e : Emitted}

private theorem of_old (mem : e.line ∈ olds) (origin : e.origin ≠ .written) : e.Traced olds hs :=
  ⟨fun written => absurd written origin, fun _ => mem⟩

private theorem of_hunk (mem : h ∈ hs) (target : e.line ∈ h.target) (origin : e.origin = .written) :
    e.Traced olds hs :=
  ⟨fun _ => ⟨h, mem, target⟩, fun other => absurd origin other⟩

private theorem mono (traced : e.Traced rest hs) (before : rest ⊆ olds) : e.Traced olds (h :: hs) where
  written origin := by
    obtain ⟨g, mem, target⟩ := traced.written origin
    exact ⟨g, List.mem_cons_of_mem h mem, target⟩
  carried origin := before (traced.carried origin)

end Emitted.Traced

private theorem append_of_locate {h : Hunk} {c : Nat} {rest before here : List Line}
    (located : h.locate c rest = .ok (before, here)) : before ++ here = rest := by
  unfold Hunk.locate at located
  split at located
  · simp at located
  · split at located
    · simp at located
    · obtain ⟨rfl, rfl⟩ := Prod.mk.inj (Except.ok.inj located)
      exact List.take_append_drop _ _
    · split at located
      · obtain ⟨rfl, rfl⟩ := Prod.mk.inj (Except.ok.inj located)
        exact List.takeWhile_append_dropWhile
      · simp at located

private theorem copyLines_subset (dedupe : Bool) (last : Option Line) (ls : List Line) :
    copyLines dedupe last ls ⊆ ls := by
  induction ls generalizing last with
  | nil => exact List.Subset.refl []
  | cons l ls ih =>
    unfold copyLines
    split
    · exact List.subset_cons_of_subset l (ih last)
    · exact List.cons_subset_cons l (ih (some l))

private theorem traced_of_emit {dedupe : Bool} {last : Option Line} {c : Nat} {rest : List Line}
    {hs : List Hunk} {es : List Emitted} (emits : emit dedupe last c rest hs = .ok es) :
    ∀ e ∈ es, e.Traced rest hs := by
  -- Every hunk leaves an end of the old lines, so what is carried over later was there before.
  induction hs generalizing last c rest es with
  | nil =>
    obtain rfl := Except.ok.inj emits
    intro e mem
    obtain ⟨l, old, rfl⟩ := List.mem_map.mp mem
    exact .of_old old (by simp)
  | cons h hs ih =>
    obtain ⟨before, here, out, left, more, located, replayed, emits, rfl⟩ :=
      emit_cons_eq_ok_iff.mp emits
    have parts := append_of_locate located
    obtain ⟨-, -, rfl, rfl⟩ := replay_ofLines_eq_ok_iff.mp replayed
    have ahead : before ⊆ rest := parts ▸ List.subset_append_left before here
    have behind : here.drop (sourceLines h.lines).length ⊆ rest :=
      List.Subset.trans (List.drop_subset _ here) (parts ▸ List.subset_append_right before here)
    intro e mem
    rcases List.mem_append.mp mem with mem | mem
    · rcases List.mem_append.mp mem with mem | mem
      · obtain ⟨l, copied, rfl⟩ := List.mem_map.mp mem
        exact .of_old (ahead (copyLines_subset dedupe last before copied)) (by simp)
      · obtain ⟨l, target, rfl⟩ := List.mem_map.mp mem
        exact .of_hunk List.mem_cons_self target rfl
    · exact (ih emits e mem).mono behind

theorem exists_hunks_of_emitted {dedupe : Bool} {old : Text} {diff : Source} {es : List Emitted}
    (emits : emitted dedupe old diff = .ok es) : ∃ hs, diff.toHunks = .ok hs := by
  unfold emitted at emits
  split at emits
  · simp at emits
  · rename_i hs hunks
    exact ⟨hs, hunks⟩

theorem traced_of_emitted {dedupe : Bool} {old : Text} {diff : Source} {hs : List Hunk}
    {es : List Emitted} (hunks : diff.toHunks = .ok hs) (emits : emitted dedupe old diff = .ok es) :
    ∀ e ∈ es, e.Traced old.lines hs := by
  unfold emitted at emits
  rw [hunks] at emits
  exact traced_of_emit (mapError_eq_ok_iff.mp emits)

theorem mem_lines_of_mem_targetLines {ls : List Line} {l : Line} (mem : l ∈ targetLines ls) :
    '+' :: l ∈ ls ∨ ' ' :: l ∈ ls ∨ (l = [] ∧ [] ∈ ls) := by
  induction ls with
  | nil => simp [targetLines] at mem
  | cons m ls ih =>
    rw [BodyLine.targetLines_cons] at mem
    rcases List.mem_append.mp mem with first | mem
    · revert first
      fun_cases BodyLine.ofLine ls.isEmpty m <;> simp_all [BodyLine.target?]
    · rcases ih mem with added | kept | ⟨rfl, bare⟩
      · exact .inl (List.mem_cons_of_mem m added)
      · exact .inr (.inl (List.mem_cons_of_mem m kept))
      · exact .inr (.inr ⟨rfl, List.mem_cons_of_mem m bare⟩)

/-- Whether the lines of a diff are lines: a text gives no others, hunks at hand may. -/
def Source.IsFeedFree : Source → Prop
  | .text _ => True
  | .hunks hs => ∀ h ∈ hs, ∀ l ∈ h.lines, '\n' ∉ l

instance : DecidablePred Source.IsFeedFree
  | .text _ => inferInstanceAs (Decidable True)
  | .hunks hs => inferInstanceAs (Decidable (∀ h ∈ hs, ∀ l ∈ h.lines, '\n' ∉ l))

private theorem Source.IsFeedFree.feed_not_mem {diff : Source} {hs : List Hunk} (free : diff.IsFeedFree)
    (hunks : diff.toHunks = .ok hs) : ∀ h ∈ hs, ∀ l ∈ h.lines, '\n' ∉ l := by
  cases diff with
  | text t =>
    intro h mem l line
    obtain ⟨i, stands⟩ := (layout_of_parse hunks).stands h mem
    obtain ⟨k, found⟩ := List.mem_iff_getElem?.mp line
    have inText : l ∈ t.lines := List.mem_of_getElem? (stands.getElem?_of_lines found)
    exact Text.feed_not_mem_of_mem_lines inText
  | hunks hs' =>
    obtain rfl := Except.ok.inj hunks
    exact free

theorem feed_not_mem_of_emitted {dedupe : Bool} {old : Text} {diff : Source} {es : List Emitted}
    (free : diff.IsFeedFree) (emits : emitted dedupe old diff = .ok es) :
    ∀ l ∈ es.map Emitted.line, '\n' ∉ l := by
  obtain ⟨hs, hunks⟩ := exists_hunks_of_emitted emits
  intro l mem
  obtain ⟨e, emits', rfl⟩ := List.mem_map.mp mem
  have traced := traced_of_emitted hunks emits e emits'
  by_cases origin : e.origin = .written
  · obtain ⟨h, inHunks, target⟩ := traced.written origin
    have lines := free.feed_not_mem hunks h inHunks
    rcases mem_lines_of_mem_targetLines target with added | kept | ⟨empty, -⟩
    · exact fun feed => lines _ added (List.mem_cons_of_mem _ feed)
    · exact fun feed => lines _ kept (List.mem_cons_of_mem _ feed)
    · simp [empty]
  · exact Text.feed_not_mem_of_mem_lines (traced.carried origin)

end Redline.Diff
