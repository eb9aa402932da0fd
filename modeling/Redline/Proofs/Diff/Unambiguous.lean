import Redline.Proofs.Diff.ReviewRoundTrip

set_option autoImplicit false
set_option relaxedAutoImplicit false

/-!
A shown diff has one reading. The ranges of a hunk tell how many old and how many new lines its body
has, so the body ends where they are used up, whatever its lines begin with, and the old start tells
how many lines of the old text stand before it. Who has the old text can tell the new one from the diff.
-/

namespace Redline.Diff

open Number (showNat)
open Text (isDigit digitsValue closed terminated)

private theorem append_cons_inj {c : Char} {a b x y : Text} (left : c ∉ a) (right : c ∉ b)
    (eq : a ++ c :: x = b ++ c :: y) : a = b ∧ x = y := by
  induction a generalizing b with
  | nil =>
    cases b with
    | nil => exact ⟨rfl, (List.cons.inj eq).2⟩
    | cons d b =>
      have head : c = d := (List.cons.inj eq).1
      exact absurd (head ▸ List.mem_cons_self) right
  | cons d a ih =>
    cases b with
    | nil =>
      have head : d = c := (List.cons.inj eq).1
      exact absurd (head ▸ List.mem_cons_self) left
    | cons e b =>
      obtain ⟨rfl, tail⟩ := List.cons.inj (show d :: (a ++ c :: x) = e :: (b ++ c :: y) from eq)
      obtain ⟨same, rest⟩ := ih (fun mem => left (List.mem_cons_of_mem d mem))
        (fun mem => right (List.mem_cons_of_mem d mem)) tail
      exact ⟨same ▸ rfl, rest⟩

namespace RangeText

private theorem eq_of_text_eq {r s : RangeText} (left : ∀ c ∈ r.start, isDigit c = true)
    (right : ∀ c ∈ s.start, isDigit c = true) (eq : r.text = s.text) : r = s := by
  have noComma {ds : Text} (digits : ∀ c ∈ ds, isDigit c = true) : ',' ∉ ds :=
    fun mem => absurd (digits ',' mem) (by decide)
  obtain ⟨start, count⟩ := r
  obtain ⟨start', count'⟩ := s
  cases count with
  | none =>
    cases count' with
    | none =>
      obtain rfl : start = start' := eq
      rfl
    | some ds =>
      have comma : ',' ∈ start := by
        rw [show start = start' ++ ',' :: ds from eq]
        simp
      exact absurd comma (noComma left)
  | some ds =>
    cases count' with
    | none =>
      have comma : ',' ∈ start' := by
        rw [show start' = start ++ ',' :: ds from eq.symm]
        simp
      exact absurd comma (noComma right)
    | some ds' =>
      obtain ⟨rfl, rfl⟩ := append_cons_inj (noComma left) (noComma right)
        (show start ++ ',' :: ds = start' ++ ',' :: ds' from eq)
      rfl

end RangeText

private theorem isDigit_of_mem_start_shownRange {start length : Nat} {c : Char}
    (mem : c ∈ (shownRange start length).start) : isDigit c = true := by
  unfold shownRange at mem
  split at mem
  · exact Number.isDigit_of_mem_showNat mem
  · split at mem <;> exact Number.isDigit_of_mem_showNat mem

/-- The shifted start of an empty range and the size that is left out of a range of one line leave
no doubt: a size of zero is written. -/
private theorem shownRange_inj {i j m n : Nat} (eq : showRange i m = showRange j n) : i = j ∧ m = n := by
  rw [← text_shownRange, ← text_shownRange] at eq
  have same : shownRange i m = shownRange j n :=
    RangeText.eq_of_text_eq (fun _ mem => isDigit_of_mem_start_shownRange mem)
      (fun _ mem => isDigit_of_mem_start_shownRange mem) eq
  have sizes : m = n := by
    have sizes := congrArg RangeText.size same
    rwa [size_shownRange, size_shownRange] at sizes
  have starts := congrArg (fun r => digitsValue r.start) same
  simp only [start_shownRange, sizes] at starts
  refine ⟨?_, sizes⟩
  split at starts <;> omega

private theorem blank_not_mem_showRange (start length : Nat) : ' ' ∉ showRange start length := by
  have digits (n : Nat) : ' ' ∉ showNat n := by
    intro mem
    exact absurd (Number.isDigit_of_mem_showNat mem) (by decide)
  unfold showRange
  split
  · exact digits _
  · split
    · simpa using digits _
    · simp [digits]

private theorem header_groupBlock_inj {i i' j j' : Nat} {g g' : List Placed}
    (eq : (groupBlock i j g).header = (groupBlock i' j' g').header) :
    i = i' ∧ (Placed.olds g).length = (Placed.olds g').length ∧
      (Placed.news g).length = (Placed.news g').length := by
  simp only [Block.header, groupBlock, text_shownRange] at eq
  have ranges := List.append_cancel_left eq
  obtain ⟨old, rest⟩ :=
    append_cons_inj (blank_not_mem_showRange _ _) (blank_not_mem_showRange _ _) ranges
  have behind := (List.cons.inj rest).2
  obtain ⟨new, -⟩ :=
    append_cons_inj (blank_not_mem_showRange _ _) (blank_not_mem_showRange _ _) behind
  obtain ⟨start, olds⟩ := shownRange_inj old
  exact ⟨start, olds, (shownRange_inj new).2⟩

private theorem Edit.written_injective : Function.Injective Edit.written := by
  intro e f eq
  cases e <;> cases f <;> simp_all [Edit.written]

private theorem Edit.olds_ne_nil_or_news_ne_nil (e : Edit) (es : List Edit) :
    Edit.olds (e :: es) ≠ [] ∨ Edit.news (e :: es) ≠ [] := by
  cases e with
  | keep l => exact .inl (by simp [Edit.olds, Edit.old?])
  | delete l => exact .inl (by simp [Edit.olds, Edit.old?])
  | add l => exact .inr (by simp [Edit.news, Edit.new?])

private theorem map_written_append_inj {es fs : List Edit} {a b : List Line}
    (olds : (Edit.olds es).length = (Edit.olds fs).length)
    (news : (Edit.news es).length = (Edit.news fs).length)
    (eq : es.map Edit.written ++ a = fs.map Edit.written ++ b) : es = fs ∧ a = b := by
  induction es generalizing fs with
  | nil =>
    cases fs with
    | nil => exact ⟨rfl, eq⟩
    | cons f fs =>
      rcases Edit.olds_ne_nil_or_news_ne_nil f fs with some | some
      · exact absurd (List.length_eq_zero_iff.mp olds.symm) some
      · exact absurd (List.length_eq_zero_iff.mp news.symm) some
  | cons e es ih =>
    cases fs with
    | nil =>
      rcases Edit.olds_ne_nil_or_news_ne_nil e es with some | some
      · exact absurd (List.length_eq_zero_iff.mp olds) some
      · exact absurd (List.length_eq_zero_iff.mp news) some
    | cons f fs =>
      obtain ⟨head, tail⟩ := List.cons.inj
        (show e.written :: (es.map Edit.written ++ a) = f.written :: (fs.map Edit.written ++ b) from eq)
      obtain rfl := Edit.written_injective head
      have moreOlds : (Edit.olds es).length = (Edit.olds fs).length := by
        cases e <;> simpa [Edit.olds, Edit.old?, List.filterMap_cons] using olds
      have moreNews : (Edit.news es).length = (Edit.news fs).length := by
        cases e <;> simpa [Edit.news, Edit.new?, List.filterMap_cons] using news
      obtain ⟨rfl, rest⟩ := ih moreOlds moreNews tail
      exact ⟨rfl, rest⟩

private theorem feed_not_mem_written {es : List Edit} (old : ∀ l ∈ Edit.olds es, '\n' ∉ l)
    (new : ∀ l ∈ Edit.news es, '\n' ∉ l) : ∀ l ∈ es.map Edit.written, '\n' ∉ l := by
  intro l mem
  obtain ⟨e, inEdits, rfl⟩ := List.mem_map.mp mem
  cases e with
  | keep l =>
    have free := old l (List.mem_filterMap.mpr ⟨_, inEdits, rfl⟩)
    simpa [Edit.written] using free
  | delete l =>
    have free := old l (List.mem_filterMap.mpr ⟨_, inEdits, rfl⟩)
    simpa [Edit.written] using free
  | add l =>
    have free := new l (List.mem_filterMap.mpr ⟨_, inEdits, rfl⟩)
    simpa [Edit.written] using free

private theorem feed_not_mem_dropLast {rows : List Line} (ends : ∀ row ∈ rows, IsClosedRow row) :
    ∀ l ∈ rows.map List.dropLast, '\n' ∉ l := by
  intro l mem
  obtain ⟨row, inRows, rfl⟩ := List.mem_map.mp mem
  obtain ⟨l, rfl, free⟩ := ends row inRows
  simpa [closed] using free

private theorem eq_of_map_dropLast_eq {xs ys : List Line} (left : ∀ row ∈ xs, IsClosedRow row)
    (right : ∀ row ∈ ys, IsClosedRow row) (eq : xs.map List.dropLast = ys.map List.dropLast) :
    xs = ys := by
  have closes {rows : List Line} (ends : ∀ row ∈ rows, IsClosedRow row) :
      (rows.map List.dropLast).map closed = rows := by
    rw [List.map_map]
    refine (List.map_congr_left fun row mem => ?_).trans (List.map_id' rows)
    obtain ⟨l, rfl, -⟩ := ends row mem
    simp [closed]
  rw [← closes left, eq, closes right]

def shownLines (gs : List (List Placed)) : List Line := (gs.flatMap groupLines).map dropFinalFeeds

/-- A group that can be told from its lines: it has regions, and no row is cut off. -/
structure IsTellable (g : List Placed) : Prop where
  ne_nil : g ≠ []
  rows : ClosedRows g

variable {i j j' : Nat} {g : List Placed} {gs gs' : List (List Placed)}

private theorem shownLines_cons (tellable : IsTellable g) (laid : Laid i j g) :
    shownLines (g :: gs) =
      (groupBlock i j g).header :: ((groupEdits g).map Edit.written ++ shownLines gs) := by
  rw [shownLines, List.flatMap_cons, List.map_append,
    tellable.rows.map_groupLines laid tellable.ne_nil]
  rfl

private theorem Covers.isTellable {xs ys : List Line} (covers : Covers i j gs xs ys)
    (changes : ∀ g ∈ gs, (g.any fun p => p.region.isChange) = true)
    (oldRows : ∀ row ∈ xs, IsClosedRow row) (newRows : ∀ row ∈ ys, IsClosedRow row) :
    ∀ g ∈ gs, IsTellable g := by
  induction covers with
  | rest => simp
  | @group i j g gs xs ys gap laid covers ih =>
    simp only [List.mem_append] at oldRows newRows
    obtain ⟨change, changes⟩ := List.forall_mem_cons.mp changes
    have inhabited : g ≠ [] := by
      rintro rfl
      simp at change
    refine List.forall_mem_cons.mpr ⟨⟨inhabited, ?_, ?_⟩, ?_⟩
    · exact fun row mem => oldRows row (.inr (.inl mem))
    · exact fun row mem => newRows row (.inr (.inl mem))
    · exact ih changes (fun row mem => oldRows row (.inr (.inr mem)))
        (fun row mem => newRows row (.inr (.inr mem)))

private theorem Covers.new_eq_of_shown_eq {xs xs' ys ys' : List Line} (first : Covers i j gs xs ys)
    (second : Covers i j' gs' xs' ys') (old : xs = xs') (tellable : ∀ g ∈ gs, IsTellable g)
    (tellable' : ∀ g ∈ gs', IsTellable g) (shown : shownLines gs = shownLines gs') : ys = ys' := by
  -- The induction is on the groups of the one way; those of the other are read along with them.
  induction first generalizing j' gs' xs' ys' with
  | rest i j common =>
    cases second with
    | rest => exact old
    | group gap laid covers =>
      rw [shownLines_cons (List.forall_mem_cons.mp tellable').1 laid] at shown
      exact absurd shown (by simp [shownLines])
  | @group i j g gs xs ys gap laid covers ih =>
    obtain ⟨here, more⟩ := List.forall_mem_cons.mp tellable
    rw [shownLines_cons here laid] at shown
    cases second with
    | rest => exact absurd shown (by simp [shownLines])
    | @group _ _ g' gs' xs' ys' gap' laid' covers' =>
      obtain ⟨here', more'⟩ := List.forall_mem_cons.mp tellable'
      rw [shownLines_cons here' laid'] at shown
      obtain ⟨header, bodies⟩ := List.cons.inj shown
      obtain ⟨start, oldSizes, newSizes⟩ := header_groupBlock_inj header
      obtain ⟨rfl, behind⟩ := List.append_inj old (by omega)
      obtain ⟨sameOlds, rest⟩ := List.append_inj behind oldSizes
      -- The body of the group ends where its counts are used up, on both sides alike.
      have edits : groupEdits g = groupEdits g' ∧ shownLines gs = shownLines gs' := by
        refine map_written_append_inj ?_ ?_ bodies
        · simpa [olds_groupEdits] using oldSizes
        · simpa [news_groupEdits] using newSizes
      have sameNews : Placed.news g = Placed.news g' := by
        apply eq_of_map_dropLast_eq here.rows.new here'.rows.new
        rw [← news_groupEdits, ← news_groupEdits, edits.1]
      rw [← sameOlds, ← sameNews] at covers'
      rw [sameNews, ih covers' rest more more' edits.2]

private theorem Covers.feed_not_mem_shownLines {xs ys : List Line} (covers : Covers i j gs xs ys)
    (tellable : ∀ g ∈ gs, IsTellable g) : ∀ l ∈ shownLines gs, '\n' ∉ l := by
  induction covers with
  | rest => simp [shownLines]
  | @group i j g gs xs ys gap laid covers ih =>
    obtain ⟨here, more⟩ := List.forall_mem_cons.mp tellable
    have body : ∀ l ∈ (groupEdits g).map Edit.written, '\n' ∉ l := by
      refine feed_not_mem_written ?_ ?_
      · rw [olds_groupEdits]
        exact feed_not_mem_dropLast here.rows.old
      · rw [news_groupEdits]
        exact feed_not_mem_dropLast here.rows.new
    rw [shownLines_cons here laid]
    intro l mem
    rcases List.mem_cons.mp mem with rfl | mem
    · exact feed_not_mem_header_groupBlock _ _ g
    · rcases List.mem_append.mp mem with mem | mem
      · exact body l mem
      · exact ih more l mem

variable {path old new : Text}

private theorem isClosedRow_of_isTerminated {t : Text} (ends : t.IsTerminated) :
    ∀ row ∈ t.rowsWithBreaks, IsClosedRow row := by
  obtain ⟨ls, rfl, clean⟩ := ends.exists_terminated
  rw [Text.rowsWithBreaks_terminated clean]
  intro row mem
  obtain ⟨l, inLines, rfl⟩ := List.mem_map.mp mem
  exact ⟨l, rfl, fun inLine => absurd (clean l inLines '\n' inLine) (by decide)⟩

private theorem eq_of_rowsWithBreaks_eq {s t : Text} (left : s.IsTerminated) (right : t.IsTerminated)
    (eq : s.rowsWithBreaks = t.rowsWithBreaks) : s = t := by
  obtain ⟨ls, rfl, clean⟩ := left.exists_terminated
  obtain ⟨ms, rfl, clean'⟩ := right.exists_terminated
  rw [Text.rowsWithBreaks_terminated clean, Text.rowsWithBreaks_terminated clean'] at eq
  rw [terminated, terminated, List.flatMap_def, List.flatMap_def, eq]

private theorem isTellable_of_mem_changeGroups (oldEnds : old.IsTerminated) (newEnds : new.IsTerminated) :
    ∀ g ∈ changeGroups old new, IsTellable g :=
  (covers_changeGroups old new).isTellable (fun _ mem => (List.mem_filter.mp mem).2)
    (isClosedRow_of_isTerminated oldEnds) (isClosedRow_of_isTerminated newEnds)

private theorem exists_unified (path : Text) (oldEnds : old.IsTerminated) (newEnds : new.IsTerminated)
    (differ : old ≠ new) : shownLines (changeGroups old new) ≠ [] ∧ unified? path old new =
      some (Text.unlines ((fileHeader path).map dropFinalFeeds ++
        shownLines (changeGroups old new))) := by
  have covers := covers_changeGroups old new
  have tellable := isTellable_of_mem_changeGroups oldEnds newEnds
  rw [unified?, if_neg differ]
  cases groups : changeGroups old new with
  | nil =>
    rw [groups] at covers
    generalize oldRows : old.rowsWithBreaks = xs, newRows : new.rowsWithBreaks = ys at covers
    cases covers
    exact absurd (eq_of_rowsWithBreaks_eq oldEnds newEnds (oldRows.trans newRows.symm)) differ
  | cons g gs => simp [shownLines, groupLines]

/--
Two new texts that are shown by the same diff of one old text are the same text. Each text is empty
or ends in a line feed and line feeds alone end its lines; the lines may look like those of a diff.
-/
theorem unified_eq_iff {new₁ new₂ : Text} (oldEnds : old.IsTerminated)
    (ends₁ : new₁.IsTerminated) (ends₂ : new₂.IsTerminated) :
    unified? path old new₁ = unified? path old new₂ ↔ new₁ = new₂ := by
  refine ⟨fun same => ?_, fun eq => by rw [eq]⟩
  by_cases kept₁ : old = new₁
  · by_cases kept₂ : old = new₂
    · exact kept₁.symm.trans kept₂
    · obtain ⟨-, shown⟩ := exists_unified path oldEnds ends₂ kept₂
      rw [shown, unified?, if_pos kept₁] at same
      cases same
  · obtain ⟨some₁, shown₁⟩ := exists_unified path oldEnds ends₁ kept₁
    by_cases kept₂ : old = new₂
    · rw [shown₁, unified?, if_pos kept₂] at same
      cases same
    · obtain ⟨some₂, shown₂⟩ := exists_unified path oldEnds ends₂ kept₂
      have covers₁ := covers_changeGroups old new₁
      have covers₂ := covers_changeGroups old new₂
      have tellable₁ := isTellable_of_mem_changeGroups oldEnds ends₁
      have tellable₂ := isTellable_of_mem_changeGroups oldEnds ends₂
      -- The path may hold line feeds, so the file header is cancelled as text, not as lines.
      have bodies : Text.unlines (shownLines (changeGroups old new₁)) =
          Text.unlines (shownLines (changeGroups old new₂)) := by
        have texts := Option.some.inj (shown₁.symm.trans (same.trans shown₂))
        simpa [fileHeader, Text.unlines_cons_of_ne_nil, some₁, some₂] using texts
      have lines : shownLines (changeGroups old new₁) = shownLines (changeGroups old new₂) := by
        rw [← Text.lines_unlines some₁ (covers₁.feed_not_mem_shownLines tellable₁), bodies,
          Text.lines_unlines some₂ (covers₂.feed_not_mem_shownLines tellable₂)]
      exact eq_of_rowsWithBreaks_eq ends₁ ends₂
        (covers₁.new_eq_of_shown_eq covers₂ rfl tellable₁ tellable₂ lines)

/-- Lines that look like a hunk header and like file headers. -/
theorem unified_ne_lookalikes : unified? ("f" : Text) ("@@ -1 +1 @@\n" : Text) ("-- a/f\n" : Text) ≠
    unified? ("f" : Text) ("@@ -1 +1 @@\n" : Text) ("++ b/f\n" : Text) :=
  fun same => absurd ((unified_eq_iff (by decide) (by decide) (by decide)).mp same) (by decide)

end Redline.Diff
