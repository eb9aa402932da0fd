import Redline.Proofs.Diff.Accurate
import Redline.Proofs.Diff.Grouping
import Redline.Proofs.Number.Decimal
import Redline.Proofs.Text.Rows

set_option autoImplicit false
set_option relaxedAutoImplicit false

/-!
Groups as they are shown. The lines of a group are a block: the header counts the old and new lines of
the group and the body spells its edits. So the groups that cover two texts are passages from the one
to the other, whose headers tell the truth.
-/

namespace Redline.Diff

open Number (showNat maxDigits digitsValue_showNat)
open Text (digitsValue closed)

private theorem isNumberText_showNat {n : Nat} (fits : n < 10 ^ maxDigits) : IsNumberText (showNat n) where
  ne_nil := Number.showNat_ne_nil n
  isDigit := fun _ mem => Number.isDigit_of_mem_showNat mem
  length_le := Number.length_showNat_le (by decide) fits

def shownRange (start length : Nat) : RangeText :=
  if length = 1 then ⟨showNat (start + 1), none⟩
  else if length = 0 then ⟨showNat start, some ['0']⟩
  else ⟨showNat (start + 1), some (showNat length)⟩

theorem text_shownRange (start length : Nat) :
    (shownRange start length).text = showRange start length := by
  unfold shownRange showRange
  split
  · rfl
  · split <;> rfl

theorem size_shownRange (start length : Nat) : (shownRange start length).size = length := by
  unfold shownRange
  split
  · rename_i one
    exact one.symm
  · split
    · rename_i zero
      exact zero.symm
    · exact digitsValue_showNat length

theorem start_shownRange (start length : Nat) :
    digitsValue (shownRange start length).start = if length = 0 then start else start + 1 := by
  unfold shownRange
  split
  · rename_i one
    simp [one, digitsValue_showNat]
  · split <;> exact digitsValue_showNat _

private theorem wellFormed_shownRange {start length : Nat} (fits : start + length < 10 ^ maxDigits) :
    (shownRange start length).WellFormed := by
  unfold shownRange
  split
  · rename_i one
    subst one
    exact ⟨isNumberText_showNat fits, by simp⟩
  · split
    · refine ⟨isNumberText_showNat (by omega), ?_⟩
      rintro _ ⟨⟩
      decide
    · refine ⟨isNumberText_showNat (by omega), ?_⟩
      rintro _ ⟨⟩
      exact isNumberText_showNat (by omega)

def Edit.written : Edit → Line
  | .keep l => ' ' :: l
  | .delete l => '-' :: l
  | .add l => '+' :: l

private theorem spells_written (es : List Edit) : Spells es (es.map Edit.written) := by
  induction es with
  | nil => exact .nil
  | cons e es ih =>
    cases e with
    | keep l => exact .keep l ih
    | delete l => exact .delete l ih
    | add l => exact .add l ih

/-- The edits that a region makes of its rows, which end in line feeds. -/
def regionEdits : Region Line → List Edit
  | .same rows => rows.map fun r => .keep r.dropLast
  | .changed removed added =>
    (removed.map fun r => .delete r.dropLast) ++ added.map fun r => .add r.dropLast

def groupEdits (g : List Placed) : List Edit := g.flatMap fun p => regionEdits p.region

theorem olds_groupEdits (g : List Placed) :
    Edit.olds (groupEdits g) = (Placed.olds g).map List.dropLast := by
  induction g with
  | nil => rfl
  | cons p g ih =>
    have first : Edit.olds (regionEdits p.region) = p.region.old.map List.dropLast := by
      cases p.region <;>
        simp [regionEdits, Region.old, Edit.olds, Edit.old?, List.filterMap_map, Function.comp_def]
    rw [Placed.olds_cons, List.map_append, ← ih, ← first]
    simp [groupEdits, Edit.olds]

theorem news_groupEdits (g : List Placed) :
    Edit.news (groupEdits g) = (Placed.news g).map List.dropLast := by
  induction g with
  | nil => rfl
  | cons p g ih =>
    have first : Edit.news (regionEdits p.region) = p.region.new.map List.dropLast := by
      cases p.region <;>
        simp [regionEdits, Region.new, Edit.news, Edit.new?, List.filterMap_map, Function.comp_def]
    rw [Placed.news_cons, List.map_append, ← ih, ← first]
    simp [groupEdits, Edit.news]

private theorem groupEdits_ne_nil {g : List Placed} (some : Placed.olds g ≠ [] ∨ Placed.news g ≠ []) :
    groupEdits g ≠ [] := by
  intro none
  have old := olds_groupEdits g
  have new := news_groupEdits g
  rw [none] at old new
  rcases some with some | some
  · exact some (List.map_eq_nil_iff.mp old.symm)
  · exact some (List.map_eq_nil_iff.mp new.symm)

def IsOldRow (r : Line) : Prop := ∃ l, r = closed l ∧ (Edit.delete l).IsPlain

def IsNewRow (r : Line) : Prop := ∃ l, r = closed l ∧ (Edit.add l).IsPlain

theorem dropFinalFeeds_of_free {t : Text} (free : '\n' ∉ t) : dropFinalFeeds t = t := by
  have stays : t.reverse.dropWhile (· == '\n') = t.reverse := by
    cases reversed : t.reverse with
    | nil => rfl
    | cons c s =>
      have mem : c ∈ t := List.mem_reverse.mp (by simp [reversed])
      have other : c ≠ '\n' := fun eq => free (eq ▸ mem)
      simp [other]
  rw [dropFinalFeeds, stays, List.reverse_reverse]

theorem dropFinalFeeds_closed {l : Line} (free : '\n' ∉ l) : dropFinalFeeds (closed l) = l := by
  have once : dropFinalFeeds (closed l) = dropFinalFeeds l := by simp [dropFinalFeeds, closed]
  rw [once, dropFinalFeeds_of_free free]

def IsClosedRow (r : Line) : Prop := ∃ l, r = closed l ∧ '\n' ∉ l

private theorem IsOldRow.isClosedRow {r : Line} (row : IsOldRow r) : IsClosedRow r := by
  obtain ⟨l, eq, plain⟩ := row
  exact ⟨l, eq, plain.1⟩

private theorem IsNewRow.isClosedRow {r : Line} (row : IsNewRow r) : IsClosedRow r := by
  obtain ⟨l, eq, plain⟩ := row
  exact ⟨l, eq, plain.1⟩

private theorem map_regionLines {r : Region Line} (old : ∀ row ∈ r.old, IsClosedRow row)
    (new : ∀ row ∈ r.new, IsClosedRow row) :
    (regionLines r).map dropFinalFeeds = (regionEdits r).map Edit.written := by
  have shows {row : Line} {c : Char} (other : c ≠ '\n') (ends : IsClosedRow row) :
      dropFinalFeeds (c :: row) = c :: row.dropLast := by
    obtain ⟨l, rfl, free⟩ := ends
    have whole : '\n' ∉ c :: l := by simp [free, Ne.symm other]
    simpa [closed] using dropFinalFeeds_closed whole
  cases r with
  | same rows =>
    simp only [regionLines, regionEdits, List.map_map]
    apply List.map_congr_left
    intro row mem
    exact shows (by decide) (old row mem)
  | changed removed added =>
    simp only [regionLines, regionEdits, List.map_append, List.map_map]
    congr 1
    · apply List.map_congr_left
      intro row mem
      exact shows (by decide) (old row mem)
    · apply List.map_congr_left
      intro row mem
      exact shows (by decide) (new row mem)

private theorem isPlain_of_mem_regionEdits {r : Region Line} (old : ∀ row ∈ r.old, IsOldRow row)
    (new : ∀ row ∈ r.new, IsNewRow row) : ∀ e ∈ regionEdits r, e.IsPlain := by
  intro e mem
  cases r with
  | same rows =>
    obtain ⟨row, inRows, rfl⟩ := List.mem_map.mp mem
    obtain ⟨l, rfl, plain⟩ := old row inRows
    simpa [closed, Edit.IsPlain] using plain.1
  | changed removed added =>
    rcases List.mem_append.mp mem with mem | mem
    · obtain ⟨row, inRows, rfl⟩ := List.mem_map.mp mem
      obtain ⟨l, rfl, plain⟩ := old row inRows
      simpa [closed] using plain
    · obtain ⟨row, inRows, rfl⟩ := List.mem_map.mp mem
      obtain ⟨l, rfl, plain⟩ := new row inRows
      simpa [closed] using plain

/-- The block of a group whose first lines have the given numbers, counted from zero. -/
def groupBlock (i j : Nat) (g : List Placed) : Block where
  old := shownRange i (Placed.olds g).length
  new := shownRange j (Placed.news g).length
  remark := []
  body := (groupEdits g).map Edit.written

private theorem Laid.ends {i j : Nat} {g : List Placed} (laid : Laid i j g)
    (nonempty : g ≠ []) :
    g.head?.map Placed.oldAt = some i ∧ g.head?.map Placed.newAt = some j ∧
      g.getLast?.map Placed.oldEnd = some (i + (Placed.olds g).length) ∧
      g.getLast?.map Placed.newEnd = some (j + (Placed.news g).length) := by
  induction laid with
  | nil => exact absurd rfl nonempty
  | @cons i j r ps proper laid ih =>
    refine ⟨rfl, rfl, ?_⟩
    cases ps with
    | nil => simp [Placed.olds, Placed.news, Placed.oldEnd, Placed.newEnd]
    | cons q qs =>
      obtain ⟨-, -, oldEnd, newEnd⟩ := ih (List.cons_ne_nil q qs)
      rw [List.getLast?_cons_cons, oldEnd, newEnd, Placed.olds_cons _ (q :: qs),
        Placed.news_cons _ (q :: qs)]
      simp [Nat.add_assoc]

/-- Whether all rows of a group are lines with their line feeds. -/
structure ClosedRows (g : List Placed) : Prop where
  old : ∀ row ∈ Placed.olds g, IsClosedRow row
  new : ∀ row ∈ Placed.news g, IsClosedRow row

private theorem ClosedRows.map_body {g : List Placed} (rows : ClosedRows g) :
    (g.flatMap fun p => regionLines p.region).map dropFinalFeeds =
      (groupEdits g).map Edit.written := by
  rw [groupEdits, List.map_flatMap, List.map_flatMap, List.flatMap_def, List.flatMap_def]
  congr 1
  apply List.map_congr_left
  intro p mem
  exact map_regionLines (fun row inOld => rows.old row (List.mem_flatMap.mpr ⟨p, mem, inOld⟩))
    (fun row inNew => rows.new row (List.mem_flatMap.mpr ⟨p, mem, inNew⟩))

private theorem feed_not_mem_showRange (start length : Nat) : '\n' ∉ showRange start length := by
  have free (n : Nat) : '\n' ∉ showNat n := by
    intro mem
    exact absurd (Number.isDigit_of_mem_showNat mem) (by decide)
  unfold showRange
  split
  · exact free _
  · split
    · simpa using free _
    · simp [free]

theorem feed_not_mem_header_groupBlock (i j : Nat) (g : List Placed) :
    '\n' ∉ (groupBlock i j g).header := by
  simp only [Block.header, groupBlock, text_shownRange, List.mem_append, not_or]
  exact ⟨by decide, feed_not_mem_showRange _ _, by decide, feed_not_mem_showRange _ _, by decide,
    List.not_mem_nil⟩

theorem Laid.groupHeader {i j : Nat} {g : List Placed} (laid : Laid i j g) (nonempty : g ≠ []) :
    groupHeader g = (groupBlock i j g).header := by
  obtain ⟨oldAt, newAt, oldEnd, newEnd⟩ := laid.ends nonempty
  -- The literals are spelled out first: comparing them inside the whole header is slow.
  have opening : ("@@ -" : Text) = ['@', '@', ' ', '-'] := rfl
  have between : (" +" : Text) = [' ', '+'] := rfl
  have closing : (" @@" : Text) = [' ', '@', '@'] := rfl
  unfold Diff.groupHeader
  simp only [oldAt, newAt, oldEnd, newEnd, Option.getD_some, Nat.add_sub_cancel_left, opening,
    between, closing, Block.header, groupBlock, text_shownRange, List.append_assoc,
    List.append_nil]

theorem ClosedRows.map_groupLines {i j : Nat} {g : List Placed} (rows : ClosedRows g)
    (laid : Laid i j g) (nonempty : g ≠ []) :
    (groupLines g).map dropFinalFeeds = (groupBlock i j g).lines := by
  rw [groupLines, List.map_cons, laid.groupHeader nonempty,
    dropFinalFeeds_of_free (feed_not_mem_header_groupBlock i j g), rows.map_body]
  rfl

structure Showable (g : List Placed) : Prop where
  old : ∀ row ∈ Placed.olds g, IsOldRow row
  new : ∀ row ∈ Placed.news g, IsNewRow row

namespace Showable

variable {g : List Placed}

private theorem of_mem (showable : Showable g) {p : Placed} (mem : p ∈ g) :
    (∀ row ∈ p.region.old, IsOldRow row) ∧ ∀ row ∈ p.region.new, IsNewRow row :=
  ⟨fun row inOld => showable.old row (List.mem_flatMap.mpr ⟨p, mem, inOld⟩),
    fun row inNew => showable.new row (List.mem_flatMap.mpr ⟨p, mem, inNew⟩)⟩

private theorem isPlain (showable : Showable g) : ∀ e ∈ groupEdits g, e.IsPlain := by
  intro e mem
  obtain ⟨p, inGroup, mem⟩ := List.mem_flatMap.mp mem
  obtain ⟨old, new⟩ := showable.of_mem inGroup
  exact isPlain_of_mem_regionEdits old new e mem

private theorem closedRows (showable : Showable g) : ClosedRows g :=
  ⟨fun row mem => (showable.old row mem).isClosedRow,
    fun row mem => (showable.new row mem).isClosedRow⟩

variable {i j : Nat}

theorem wellFormed (showable : Showable g) (oldFits : i + (Placed.olds g).length < 10 ^ maxDigits)
    (newFits : j + (Placed.news g).length < 10 ^ maxDigits) : (groupBlock i j g).WellFormed where
  old := wellFormed_shownRange oldFits
  new := wellFormed_shownRange newFits
  remark := List.not_mem_nil
  body := (spells_written _).feed_not_mem_and_endsHunk showable.isPlain

end Showable

namespace Passage

/-- Whether the header of a passage tells where the edits are, before which `place` lines stand. -/
structure Declared (p : Passage) (place : Nat) : Prop where
  edits_ne_nil : p.edits ≠ []
  plain : ∀ e ∈ p.edits, e.IsPlain
  spells : Spells p.edits p.block.body
  wellFormed : p.block.WellFormed
  size : p.block.old.size = (Edit.olds p.edits).length
  start : digitsValue p.block.old.start =
    if (Edit.olds p.edits).length = 0 then place else place + 1

variable {p : Passage} {place : Nat}

theorem Declared.accurate (declared : p.Declared place)
    (anchor : ∀ a ∈ (Edit.olds p.edits).head?, a ∉ p.gap) : p.Accurate place where
  edits_ne_nil := declared.edits_ne_nil
  plain := declared.plain
  spells := declared.spells
  old := declared.wellFormed.old
  new := declared.wellFormed.new
  remark := declared.wellFormed.remark
  anchor := anchor
  declared := by
    intro none
    have size := declared.size
    have start := declared.start
    simp only [none, List.length_nil, ↓reduceIte] at size start
    exact ⟨start, size⟩

end Passage

theorem Covers.exists_passages {i j : Nat} {gs : List (List Placed)} {xs ys : List Line}
    (covers : Covers i j gs xs ys)
    (changes : ∀ g ∈ gs, (g.any fun p => p.region.isChange) = true)
    (oldRows : ∀ row ∈ xs, IsOldRow row) (newRows : ∀ row ∈ ys, IsNewRow row)
    (oldFits : i + xs.length < 10 ^ maxDigits) (newFits : j + ys.length < 10 ^ maxDigits) :
    ∃ ps rest,
      (gs.flatMap groupLines).map dropFinalFeeds = ps.flatMap (fun p => p.block.lines) ∧
      xs.map List.dropLast = ps.flatMap Passage.olds ++ rest ∧
      ys.map List.dropLast = ps.flatMap Passage.news ++ rest ∧
      ∀ done p todo, ps = done ++ p :: todo →
        p.Declared (i + (done.flatMap Passage.olds ++ p.gap).length) := by
  induction covers with
  | rest i j common =>
    refine ⟨[], common.map List.dropLast, rfl, rfl, rfl, ?_⟩
    intro done p todo eq
    simp at eq
  | @group i j g gs xs ys gap laid covers ih =>
    obtain ⟨change, changes⟩ := List.forall_mem_cons.mp changes
    simp only [List.length_append, List.mem_append] at oldRows newRows oldFits newFits
    have showable : Showable g :=
      ⟨fun row mem => oldRows row (.inr (.inl mem)), fun row mem => newRows row (.inr (.inl mem))⟩
    obtain ⟨ps, rest, lines, olds, news, declared⟩ := ih changes
      (fun row mem => oldRows row (.inr (.inr mem))) (fun row mem => newRows row (.inr (.inr mem)))
      (by rw [List.length_append]; omega) (by rw [List.length_append]; omega)
    -- No number in the header exceeds the end of its range, which lies inside the text.
    have wf : (groupBlock (i + gap.length) (j + gap.length) g).WellFormed :=
      showable.wellFormed (by omega) (by omega)
    have inhabited : g ≠ [] := by
      rintro rfl
      simp at change
    let p : Passage :=
      ⟨gap.map List.dropLast, groupEdits g, groupBlock (i + gap.length) (j + gap.length) g⟩
    have length : (Edit.olds p.edits).length = (Placed.olds g).length := by
      simp [p, olds_groupEdits]
    refine ⟨p :: ps, rest, ?_, ?_, ?_, ?_⟩
    · rw [List.flatMap_cons, List.map_append, lines, showable.closedRows.map_groupLines laid inhabited,
        List.flatMap_cons]
    · simp only [List.map_append, olds, List.flatMap_cons, Passage.olds, p, olds_groupEdits,
        List.append_assoc]
    · simp only [List.map_append, news, List.flatMap_cons, Passage.news, p, news_groupEdits,
        List.append_assoc]
    · intro done q todo eq
      cases done with
      | nil =>
        obtain rfl : p = q := (List.cons.inj eq).1
        exact {
          edits_ne_nil := groupEdits_ne_nil (laid.olds_ne_nil_or_news_ne_nil change)
          plain := showable.isPlain
          spells := spells_written _
          wellFormed := wf
          size := by rw [length]; exact size_shownRange _ _
          start := by
            rw [length]
            simpa [p, groupBlock] using start_shownRange (i + gap.length) (Placed.olds g).length }
      | cons r done =>
        obtain ⟨rfl, tail⟩ := List.cons.inj (show p :: ps = r :: (done ++ q :: todo) from eq)
        have place : i + (gap ++ Placed.olds g).length + (done.flatMap Passage.olds ++ q.gap).length =
            i + ((p :: done).flatMap Passage.olds ++ q.gap).length := by
          simp only [List.flatMap_cons, List.length_append, Passage.olds, length]
          simp [p]
          omega
        rw [← place]
        exact declared done q todo tail

end Redline.Diff
