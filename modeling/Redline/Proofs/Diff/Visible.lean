import Redline.Proofs.Diff.Grammar
import Redline.Proofs.Diff.Unambiguous

set_option autoImplicit false
set_option relaxedAutoImplicit false

/-!
A diff shows that there is a change. Texts without a diff are equal, whatever ends their rows and however
the search aligns them. Any other diff has a hunk header and below it, after lines of context alone, a
line that removes a row of the old text or adds one of the new text.
-/

namespace Redline.Diff

open Number (showNat)

/-- Whether a line removes one of the first rows or adds one of the second. -/
def IsChangeOf (removed added : List Line) (l : Line) : Prop :=
  (∃ row ∈ removed, l = '-' :: row) ∨ ∃ row ∈ added, l = '+' :: row

/-- Whether lines are context alone and the line after them is a change of such rows. -/
structure OpensChange (removed added context : List Line) (change : Line) : Prop where
  context : ∀ l ∈ context, Text.startsWith l [' '] = true
  change : IsChangeOf removed added change

def shownRows (t : Text) : List Line := t.rowsWithBreaks.map dropFinalFeeds

/-- Whether a text has a hunk header, and below it a change from the one text to the other. -/
def ShowsChange (old new t : Text) : Prop :=
  ∃ before header context change after,
    t.lines = before ++ header :: (context ++ change :: after) ∧
      (∃ oldRange newRange, Declares header oldRange newRange) ∧
      OpensChange (shownRows old) (shownRows new) context change

structure StandsIn (g : List Placed) (old new : Text) : Prop where
  old : ∀ row ∈ Placed.olds g, row ∈ old.rowsWithBreaks
  new : ∀ row ∈ Placed.news g, row ∈ new.rowsWithBreaks

variable {old new : Text} {i j : Nat} {g : List Placed} {gs : List (List Placed)}

/-- The body lines of a group with all their line feeds. -/
def bodyRows (g : List Placed) : List Line := g.flatMap fun p => regionLines p.region

private theorem bodyRows_cons (p : Placed) (g : List Placed) :
    bodyRows (p :: g) = regionLines p.region ++ bodyRows g := rfl

private theorem IsChangeOf.mono {removed removed' added added' : List Line} {l : Line}
    (change : IsChangeOf removed added l) (old : removed ⊆ removed') (new : added ⊆ added') :
    IsChangeOf removed' added' l :=
  change.imp (fun ⟨row, mem, eq⟩ => ⟨row, old mem, eq⟩) (fun ⟨row, mem, eq⟩ => ⟨row, new mem, eq⟩)

private theorem exists_regionLines_changed {removed added : List Line}
    (proper : (Region.changed removed added).IsProper) :
    ∃ change after, regionLines (.changed removed added) = change :: after ∧
      IsChangeOf removed added change := by
  cases removed with
  | cons row removed => exact ⟨'-' :: row, _, rfl, .inl ⟨row, by simp, rfl⟩⟩
  | nil =>
    cases added with
    | cons row added => exact ⟨'+' :: row, _, rfl, .inr ⟨row, by simp, rfl⟩⟩
    | nil => exact absurd proper (by simp [Region.IsProper])

private theorem Laid.exists_opensChange (laid : Laid i j g)
    (changes : (g.any fun p => p.region.isChange) = true) :
    ∃ context change after, bodyRows g = context ++ change :: after ∧
      OpensChange (Placed.olds g) (Placed.news g) context change := by
  induction laid with
  | nil => simp at changes
  | @cons i j r ps proper laid ih =>
    cases r with
    | changed removed added =>
      obtain ⟨change, after, eq, isChange⟩ := exists_regionLines_changed proper
      refine ⟨[], change, after ++ bodyRows ps, ?_, by simp, ?_⟩
      · rw [bodyRows_cons, eq]
        rfl
      · exact isChange.mono (List.subset_append_left _ _) (List.subset_append_left _ _)
    | same ls =>
      obtain ⟨context, change, after, eq, opens⟩ := ih (by simpa [Region.isChange] using changes)
      refine ⟨regionLines (.same ls) ++ context, change, after, ?_, ?_, ?_⟩
      · rw [bodyRows_cons, eq, List.append_assoc]
      · intro l mem
        rcases List.mem_append.mp mem with mem | mem
        · obtain ⟨row, -, rfl⟩ := List.mem_map.mp mem
          rfl
        · exact opens.context l mem
      · exact opens.change.mono (List.subset_append_right _ _) (List.subset_append_right _ _)

private theorem exists_row_of_mem_bodyRows {l : Line} (mem : l ∈ bodyRows g) :
    ∃ c row, l = c :: row ∧ c ≠ '\n' ∧ (row ∈ Placed.olds g ∨ row ∈ Placed.news g) := by
  obtain ⟨p, inGroup, mem⟩ := List.mem_flatMap.mp mem
  have old {row : Line} (inOld : row ∈ p.region.old) : row ∈ Placed.olds g :=
    List.mem_flatMap.mpr ⟨p, inGroup, inOld⟩
  have new {row : Line} (inNew : row ∈ p.region.new) : row ∈ Placed.news g :=
    List.mem_flatMap.mpr ⟨p, inGroup, inNew⟩
  cases region : p.region with
  | same rows =>
    rw [region] at old mem
    obtain ⟨row, inRows, rfl⟩ := List.mem_map.mp mem
    exact ⟨' ', row, rfl, by decide, .inl (old inRows)⟩
  | changed removed added =>
    rw [region] at old new mem
    rcases List.mem_append.mp mem with mem | mem
    · obtain ⟨row, inRows, rfl⟩ := List.mem_map.mp mem
      exact ⟨'-', row, rfl, by decide, .inl (old inRows)⟩
    · obtain ⟨row, inRows, rfl⟩ := List.mem_map.mp mem
      exact ⟨'+', row, rfl, by decide, .inr (new inRows)⟩

private theorem dropFinalFeeds_cons {c : Char} (other : c ≠ '\n') (t : Text) :
    dropFinalFeeds (c :: t) = c :: dropFinalFeeds t := by
  simp only [dropFinalFeeds, List.reverse_cons, List.dropWhile_append]
  cases empty : (t.reverse.dropWhile (· == '\n')).isEmpty with
  | false => simp
  | true => simp [other, List.isEmpty_iff.mp empty]

private theorem OpensChange.map_dropFinalFeeds {removed added context : List Line} {change : Line}
    (opens : OpensChange removed added context change) :
    OpensChange (removed.map dropFinalFeeds) (added.map dropFinalFeeds)
      (context.map dropFinalFeeds) (dropFinalFeeds change) where
  context := by
    intro l mem
    obtain ⟨shown, inContext, rfl⟩ := List.mem_map.mp mem
    obtain ⟨row, rfl⟩ := List.isPrefixOf_iff_prefix.mp (opens.context shown inContext)
    rw [List.singleton_append, dropFinalFeeds_cons (by decide)]
    rfl
  change := by
    rcases opens.change with ⟨row, mem, rfl⟩ | ⟨row, mem, rfl⟩
    · exact .inl ⟨_, List.mem_map_of_mem mem, dropFinalFeeds_cons (by decide) row⟩
    · exact .inr ⟨_, List.mem_map_of_mem mem, dropFinalFeeds_cons (by decide) row⟩

private theorem feed_not_mem_dropFinalFeeds {t : Text} (inner : '\n' ∉ t.dropLast) :
    '\n' ∉ dropFinalFeeds t := by
  rcases List.eq_nil_or_concat' t with rfl | ⟨l, c, rfl⟩
  · exact List.not_mem_nil
  · rw [List.dropLast_concat] at inner
    by_cases feed : c = '\n'
    · subst feed
      have dropped := dropFinalFeeds_closed inner
      rw [Text.closed] at dropped
      rwa [dropped]
    · have free : '\n' ∉ l ++ [c] := by simp [inner, Ne.symm feed]
      rwa [dropFinalFeeds_of_free free]

private theorem StandsIn.feed_not_mem (stands : StandsIn g old new) :
    ∀ l ∈ (bodyRows g).map dropFinalFeeds, '\n' ∉ l := by
  intro l mem
  obtain ⟨shown, inBody, rfl⟩ := List.mem_map.mp mem
  obtain ⟨c, row, rfl, other, inGroup⟩ := exists_row_of_mem_bodyRows inBody
  have inner : '\n' ∉ row.dropLast := by
    rcases inGroup with inOld | inNew
    · exact Text.feed_not_mem_dropLast_row (stands.old row inOld)
    · exact Text.feed_not_mem_dropLast_row (stands.new row inNew)
  rw [dropFinalFeeds_cons other, List.mem_cons, not_or]
  exact ⟨Ne.symm other, feed_not_mem_dropFinalFeeds inner⟩

private theorem isWritten_shownRange (start length : Nat) : (shownRange start length).IsWritten := by
  have digits (n : Nat) : IsDigits (showNat n) :=
    ⟨Number.showNat_ne_nil n, fun _ mem => Number.isDigit_of_mem_showNat mem⟩
  unfold shownRange
  split
  · exact ⟨digits _, by simp⟩
  · split
    · refine ⟨digits _, ?_⟩
      rintro _ ⟨⟩
      exact ⟨by decide, List.forall_mem_singleton.mpr rfl⟩
    · refine ⟨digits _, ?_⟩
      rintro _ ⟨⟩
      exact digits _

private theorem declares_header_groupBlock (i j : Nat) (g : List Placed) :
    Declares (groupBlock i j g).header (shownRange i (Placed.olds g).length)
      (shownRange j (Placed.news g).length) where
  oldWritten := isWritten_shownRange _ _
  newWritten := isWritten_shownRange _ _
  spells := ⟨[], rfl⟩

private theorem changeGroups_ne_nil (differ : old ≠ new) : changeGroups old new ≠ [] := by
  intro none
  have covers := covers_changeGroups old new
  rw [none] at covers
  generalize oldRows : old.rowsWithBreaks = xs, newRows : new.rowsWithBreaks = ys at covers
  cases covers
  exact differ (Text.rowsWithBreaks_inj (oldRows.trans newRows.symm))

private theorem unified_of_ne (path : Text) (differ : old ≠ new) :
    unified? path old new = some (Text.unlines
      ((fileHeader path).map dropFinalFeeds ++ shownLines (changeGroups old new))) := by
  rw [unified?, if_neg differ]
  cases groups : changeGroups old new with
  | nil => exact absurd groups (changeGroups_ne_nil differ)
  | cons g gs => simp only [List.map_append, shownLines]

private theorem exists_first_group (groups : changeGroups old new = g :: gs) :
    ∃ i j, Laid i j g ∧ (g.any fun p => p.region.isChange) = true ∧ StandsIn g old new := by
  have covers := covers_changeGroups old new
  have kept : g ∈ changeGroups old new := by simp [groups]
  have changes : (g.any fun p => p.region.isChange) = true := (List.mem_filter.mp kept).2
  rw [groups] at covers
  generalize oldRows : old.rowsWithBreaks = xs, newRows : new.rowsWithBreaks = ys at covers
  cases covers with
  | @group _ _ _ _ xs ys gap laid _ =>
    refine ⟨_, _, laid, changes, ?_, ?_⟩
    · intro row mem
      rw [oldRows]
      simp [mem]
    · intro row mem
      rw [newRows]
      simp [mem]

private theorem Laid.showsChange (laid : Laid i j g) (stands : StandsIn g old new)
    (changes : (g.any fun p => p.region.isChange) = true) (lead more : List Line) :
    ShowsChange old new (Text.unlines (lead ++ ((groupLines g).map dropFinalFeeds ++ more))) := by
  obtain ⟨context, change, after, body, opens⟩ := laid.exists_opensChange changes
  have inhabited : g ≠ [] := by
    rintro rfl
    simp at changes
  have header : dropFinalFeeds (Diff.groupHeader g) = (groupBlock i j g).header := by
    rw [laid.groupHeader inhabited]
    exact dropFinalFeeds_of_free (feed_not_mem_header_groupBlock i j g)
  have shown : (groupLines g).map dropFinalFeeds = (groupBlock i j g).header ::
      (context.map dropFinalFeeds ++ dropFinalFeeds change :: after.map dropFinalFeeds) := by
    rw [groupLines, List.map_cons, header, ← bodyRows, body]
    simp
  have free : ∀ l ∈ (groupLines g).map dropFinalFeeds, '\n' ∉ l := by
    rw [groupLines, List.map_cons, header]
    exact List.forall_mem_cons.mpr ⟨feed_not_mem_header_groupBlock i j g, stands.feed_not_mem⟩
  have ofTexts : OpensChange (shownRows old) (shownRows new) (context.map dropFinalFeeds)
      (dropFinalFeeds change) := by
    refine ⟨opens.map_dropFinalFeeds.context, opens.map_dropFinalFeeds.change.mono ?_ ?_⟩
    · exact List.map_subset _ stands.old
    · exact List.map_subset _ stands.new
  -- The lines of the group are lines of the text; those around it may be cut further.
  refine ⟨lead.flatMap Text.lines, (groupBlock i j g).header, context.map dropFinalFeeds,
    dropFinalFeeds change, after.map dropFinalFeeds ++ more.flatMap Text.lines, ?_,
    ⟨_, _, declares_header_groupBlock i j g⟩, ofTexts⟩
  rw [Text.lines_unlines_flatMap (by simp [groupLines]), List.flatMap_append, List.flatMap_append,
    Text.flatMap_lines_of_free free, shown]
  simp

/--
Two texts have no diff exactly if they are equal, whatever their characters and however their rows end. A
diff that there is has a hunk header as one of its lines and, below it and after nothing but context, a
line with a minus before a row of the old text or with a plus before a row of the new one.
-/
theorem unified_shows_change (path old new : Text) :
    (unified? path old new = none ↔ old = new) ∧
      ∀ d, unified? path old new = some d → ShowsChange old new d := by
  constructor
  · constructor
    · intro none
      by_contra differ
      rw [unified_of_ne path differ] at none
      cases none
    · intro same
      rw [unified?, if_pos same]
  · intro d shown
    have differ : old ≠ new := by
      intro same
      rw [unified?, if_pos same] at shown
      cases shown
    obtain ⟨g, gs, groups⟩ := List.exists_cons_of_ne_nil (changeGroups_ne_nil differ)
    obtain ⟨i, j, laid, changes, stands⟩ := exists_first_group groups
    rw [unified_of_ne path differ, groups] at shown
    have text := Option.some.inj shown
    rw [shownLines, List.flatMap_cons, List.map_append] at text
    rw [← text]
    exact laid.showsChange stands changes _ _

end Redline.Diff
