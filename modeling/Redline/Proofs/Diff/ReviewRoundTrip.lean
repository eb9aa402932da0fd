import Redline.Proofs.Diff.Shown

set_option autoImplicit false
set_option relaxedAutoImplicit false

/-!
The round trip of a review. A diff that is shown for two texts makes the new text of the old one, as
long as no hunk is found too early: the search for the first old line of a hunk starts where the hunk
before it ends.
-/

namespace Redline.Diff

open Number (maxDigits showNat)
open Text (closed terminated)

/--
Whether the first old line of each hunk does not occur between the line where the old range of the
hunk before it ends and the line where its own begins.
-/
def AnchorsFresh (olds : List Line) (lastEnd : Nat) : List Hunk → Prop
  | [] => True
  | h :: hs =>
    let start := h.declaredPlace.toNat
    let stop := start + h.oldCount.toNat
    (0 < h.oldCount → ∀ a ∈ olds[start]?, a ∉ olds.extract lastEnd start) ∧
      AnchorsFresh olds stop hs

instance decidableAnchorsFresh (olds : List Line) :
    ∀ (lastEnd : Nat) (hs : List Hunk), Decidable (AnchorsFresh olds lastEnd hs)
  | _, [] => .isTrue trivial
  | _, h :: hs =>
    have := decidableAnchorsFresh olds (h.declaredPlace.toNat + h.oldCount.toNat) hs
    inferInstanceAs (Decidable (_ ∧ _))

private theorem Passage.Declared.range {p : Passage} {place : Nat} (declared : p.Declared place) (n : Nat) :
    (p.block.hunk n).declaredPlace = place ∧
      (p.block.hunk n).oldCount = (Edit.olds p.edits).length := by
  have size := declared.size
  have start := declared.start
  refine ⟨?_, by simp [Block.hunk, size]⟩
  simp only [Hunk.declaredPlace, Block.hunk, size, start]
  by_cases none : (Edit.olds p.edits).length = 0
  · simp [none]
  · simp [none]

private theorem head?_not_mem_gap {ps : List Passage} (before : List Line) {rest : List Line} {n : Nat}
    (declared : ∀ done p todo, ps = done ++ p :: todo →
      p.Declared (before.length + (done.flatMap Passage.olds ++ p.gap).length))
    (fresh : AnchorsFresh (before ++ (ps.flatMap Passage.olds ++ rest)) before.length
      (hunksFrom n (ps.map Passage.block))) :
    ∀ done p todo, ps = done ++ p :: todo → ∀ a ∈ (Edit.olds p.edits).head?, a ∉ p.gap := by
  induction ps generalizing before n with
  | nil => simp
  | cons p ps ih =>
    obtain ⟨place, count⟩ := (declared [] p ps rfl).range n
    simp only [List.flatMap_nil, List.nil_append] at place
    simp only [List.map_cons, hunksFrom, AnchorsFresh, place, count, Int.toNat_natCast] at fresh
    obtain ⟨first, others⟩ := fresh
    intro done q todo eq
    cases done with
    | nil =>
      obtain rfl : p = q := (List.cons.inj eq).1
      intro a head
      obtain ⟨more, olds⟩ := List.head?_eq_some_iff.mp head
      have spread : before ++ ((p :: ps).flatMap Passage.olds ++ rest) =
          before ++ (p.gap ++ a :: (more ++ (ps.flatMap Passage.olds ++ rest))) := by
        simp [Passage.olds, olds]
      have found : (before ++ ((p :: ps).flatMap Passage.olds ++ rest))[before.length +
          p.gap.length]? = some a := by
        rw [spread, List.getElem?_append_right (by omega), List.getElem?_append_right (by omega)]
        simp
      have gap : (before ++ ((p :: ps).flatMap Passage.olds ++ rest)).extract before.length
          (before.length + p.gap.length) = p.gap := by
        rw [spread]
        simp
      have positive : (0 : Int) < (Edit.olds p.edits).length := by simp [olds]
      have fresh := first positive a found
      rwa [gap] at fresh
    | cons r done =>
      obtain ⟨rfl, tail⟩ := List.cons.inj (show p :: ps = r :: (done ++ q :: todo) from eq)
      have length : before.length + p.gap.length + (Edit.olds p.edits).length =
          (before ++ p.olds).length := by
        simp only [Passage.olds, List.length_append]
        omega
      have spread : before ++ ((p :: ps).flatMap Passage.olds ++ rest) =
          before ++ p.olds ++ (ps.flatMap Passage.olds ++ rest) := by
        simp [List.append_assoc]
      rw [length, spread] at others
      refine ih _ ?_ others done q todo tail
      intro done' q' todo' eq'
      have later := declared (p :: done') q' todo' (by rw [eq']; rfl)
      simpa [Nat.add_assoc] using later

private theorem length_le_length_terminated (ls : List Line) : ls.length ≤ (terminated ls).length := by
  induction ls with
  | nil => simp
  | cons l ls ih =>
    have step : terminated (l :: ls) = closed l ++ terminated ls := rfl
    simp only [step, closed, List.length_append, List.length_cons, List.length_nil]
    omega

private theorem fileHeader_lead {path : Text} (named : '\n' ∉ path) :
    ∀ l ∈ fileHeader path, '\n' ∉ l ∧ isMarker l = false := by
  have old : '\n' ∉ ("--- a/" ++ path : Text) := by simpa using named
  have new : '\n' ∉ ("+++ b/" ++ path : Text) := by simpa using named
  exact List.forall_mem_cons.mpr ⟨⟨old, rfl⟩, List.forall_mem_singleton.mpr ⟨new, rfl⟩⟩

private theorem eq_of_changeGroups_eq_nil {xs ys : List Line}
    (rows : changeGroups (terminated xs) (terminated ys) = [])
    (oldClean : ∀ l ∈ xs, ∀ c ∈ l, Text.isRowBreak c = false)
    (newClean : ∀ l ∈ ys, ∀ c ∈ l, Text.isRowBreak c = false) : terminated xs = terminated ys := by
  have covers := covers_changeGroups (terminated xs) (terminated ys)
  rw [rows, Text.rowsWithBreaks_terminated oldClean, Text.rowsWithBreaks_terminated newClean]
    at covers
  generalize old : xs.map closed = oldRows, new : ys.map closed = newRows at covers
  cases covers
  rw [terminated, terminated, List.flatMap_def, List.flatMap_def, old, new]

private theorem feed_not_mem_of_clean {ls : List Line}
    (clean : ∀ l ∈ ls, ∀ c ∈ l, Text.isRowBreak c = false) : ∀ l ∈ ls, '\n' ∉ l := by
  intro l mem inLine
  exact absurd (clean l mem '\n' inLine) (by decide)

private theorem map_dropLast_closed (ls : List Line) : (ls.map closed).map List.dropLast = ls := by
  simp [closed, Function.comp_def]

/--
The diff that is shown for two different texts, each empty or ending in a line feed, is one whose
hunks make the new text of the old one, if each hunk's first old line is fresh. The sizes are bounded
only so that no number in a header has more digits than are read.
-/
theorem apply_unified_diff {path old new : Text} (named : '\n' ∉ path) (differ : old ≠ new)
    (oldEnds : old.IsTerminated) (newEnds : new.IsTerminated)
    (noDashes : ∀ l ∈ old.lines, Text.startsWith l ['-', '-'] = false)
    (noPluses : ∀ l ∈ new.lines, Text.startsWith l ['+', '+'] = false)
    (oldFits : old.length < 10 ^ maxDigits) (newFits : new.length < 10 ^ maxDigits) :
    ∃ d hs, unified? path old new = some d ∧ parse d = .ok hs ∧
      (AnchorsFresh old.lines 0 hs → apply false old (.text d) = .ok new) := by
  obtain ⟨xs, rfl, oldClean⟩ := oldEnds.exists_terminated
  obtain ⟨ys, rfl, newClean⟩ := newEnds.exists_terminated
  have oldFree := feed_not_mem_of_clean oldClean
  have newFree := feed_not_mem_of_clean newClean
  rw [Text.lines_terminated oldFree] at noDashes
  rw [Text.lines_terminated newFree] at noPluses
  have oldRows : ∀ row ∈ xs.map closed, IsOldRow row := by
    intro row mem
    obtain ⟨l, inLines, rfl⟩ := List.mem_map.mp mem
    exact ⟨l, rfl, oldFree l inLines, noDashes l (List.mem_append_left _ inLines)⟩
  have newRows : ∀ row ∈ ys.map closed, IsNewRow row := by
    intro row mem
    obtain ⟨l, inLines, rfl⟩ := List.mem_map.mp mem
    exact ⟨l, rfl, newFree l inLines, noPluses l (List.mem_append_left _ inLines)⟩
  have changes : ∀ g ∈ changeGroups (terminated xs) (terminated ys),
      (g.any fun p => p.region.isChange) = true := fun g mem => (List.mem_filter.mp mem).2
  have covers := covers_changeGroups (terminated xs) (terminated ys)
  rw [Text.rowsWithBreaks_terminated oldClean, Text.rowsWithBreaks_terminated newClean] at covers
  have oldShort := length_le_length_terminated xs
  have newShort := length_le_length_terminated ys
  obtain ⟨ps, rest, shown, olds, news, declared⟩ := covers.exists_passages changes oldRows newRows
    (by rw [List.length_map]; omega) (by rw [List.length_map]; omega)
  rw [map_dropLast_closed] at olds news
  simp only [Nat.zero_add] at declared
  have leads := fileHeader_lead named
  have parsed : parse (Text.unlines (fileHeader path ++ ps.flatMap fun p => p.block.lines)) =
      .ok (hunksFrom ((fileHeader path).length + 1) (ps.map Passage.block)) :=
    parse_passages leads fun done p todo eq => (declared done p todo eq).wellFormed
  refine ⟨_, _, ?_, parsed, ?_⟩
  · have header : (fileHeader path).map dropFinalFeeds = fileHeader path :=
      (List.map_congr_left fun l mem => dropFinalFeeds_of_free (leads l mem).1).trans (List.map_id' _)
    rw [unified?, if_neg differ]
    cases groups : changeGroups (terminated xs) (terminated ys) with
    | nil => exact absurd (eq_of_changeGroups_eq_nil groups oldClean newClean) differ
    | cons g gs =>
      rw [groups] at shown
      simp only [List.map_append, header, shown]
  · intro fresh
    -- The empty line after the last line feed belongs to what stays behind the last hunk.
    have oldText : terminated xs = Text.unlines (ps.flatMap Passage.olds ++ (rest ++ [[]])) := by
      rw [← Text.unlines_append_nil, olds, List.append_assoc]
    have newText : terminated ys = Text.unlines (ps.flatMap Passage.news ++ (rest ++ [[]])) := by
      rw [← Text.unlines_append_nil, news, List.append_assoc]
    have cut : (terminated xs).lines = ps.flatMap Passage.olds ++ (rest ++ [[]]) := by
      rw [Text.lines_terminated oldFree, olds, List.append_assoc]
    rw [cut] at fresh
    have anchors := head?_not_mem_gap [] (by simpa using declared) fresh
    have nonempty : ps.flatMap Passage.olds ++ (rest ++ [[]]) ≠ [] := by simp
    have applied := applyHunks_of_accurate ((fileHeader path).length + 1) nonempty
      (fun l mem => Text.feed_not_mem_of_mem_lines (cut ▸ mem))
      (fun done p todo eq => (declared done p todo eq).accurate (anchors done p todo eq))
    rw [oldText, newText]
    simp only [apply, Source.toHunks, parsed, applied]
    rfl

def letters : Text := "a\nw\nx\ny\nz\np\nq\nr\nb\n"

/-- The text with its first line replaced, and its last one by two. -/
def otherLetters : Text := "A\nw\nx\ny\nz\np\nq\nr\nB\nC\n"

/-- The diff of the two texts. It leaves out the line between its hunks. -/
def lettersDiff : Text :=
  "--- a/f\n+++ b/f\n@@ -1,4 +1,4 @@\n-a\n+A\n w\n x\n y\n@@ -6,4 +6,5 @@\n p\n q\n r\n-b\n+B\n+C"

def letterHunks : List Hunk := [⟨0, 4, 0, 4, ["-a", "+A", " w", " x", " y"], 3⟩,
  ⟨5, 4, 5, 5, [" p", " q", " r", "-b", "+B", "+C"], 9⟩]

/-- The first old line of the second hunk is not the line that is left out. -/
theorem apply_unified_diff_replacing :
    unified? ("f" : Text) letters otherLetters = some lettersDiff ∧
      parse lettersDiff = .ok letterHunks ∧ AnchorsFresh letters.lines 0 letterHunks ∧
      apply false letters (.text lettersDiff) = .ok otherLetters := by
  have fits {t : Text} (short : t.length.ble maxDigits = true) : t.length < 10 ^ maxDigits :=
    Nat.lt_of_le_of_lt (Nat.le_of_ble_eq_true short) (Nat.lt_pow_self (by decide))
  obtain ⟨d, hs, shown, parsed, applied⟩ :=
    @apply_unified_diff ("f" : Text) letters otherLetters (by decide) (by decide) (by decide)
      (by decide) (by decide) (by decide) (fits rfl) (fits rfl)
  have groups : changeGroups letters otherLetters =
      [[⟨0, 0, .changed ["a\n"] ["A\n"]⟩, ⟨1, 1, .same ["w\n", "x\n", "y\n"]⟩],
        [⟨5, 5, .same ["p\n", "q\n", "r\n"]⟩, ⟨8, 8, .changed ["b\n"] ["B\n", "C\n"]⟩]] := by decide +kernel
  have written : unified? ("f" : Text) letters otherLetters = some lettersDiff := by
    rw [unified?, if_neg (by decide), groups]
    decide +kernel
  have read : parse lettersDiff = .ok letterHunks := by decide +kernel
  have fresh : AnchorsFresh letters.lines 0 letterHunks := by decide
  obtain rfl := Option.some.inj (written.symm.trans shown)
  obtain rfl := Except.ok.inj (read.symm.trans parsed)
  exact ⟨written, read, fresh, applied fresh⟩

end Redline.Diff
