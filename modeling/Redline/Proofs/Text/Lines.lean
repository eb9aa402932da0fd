import Redline.Text.Basic

set_option autoImplicit false
set_option relaxedAutoImplicit false

/-!
Lines and texts. Joining the lines of a text gives the text again, and cutting joined lines gives the
lines again, provided there is at least one and none holds a line feed.
-/

namespace Redline.Text

theorem splitAtEach_ne_nil (cut : Char → Bool) (t : Text) : splitAtEach cut t ≠ [] := by
  induction t with
  | nil => simp [splitAtEach]
  | cons c t ih =>
    simp only [splitAtEach]
    split
    · simp
    · split <;> simp

theorem splitAtEach_cons_of_cut {cut : Char → Bool} {c : Char} (cuts : cut c = true) (t : Text) :
    splitAtEach cut (c :: t) = [] :: splitAtEach cut t := by
  simp [splitAtEach, cuts]

theorem splitAtEach_cons_of_ne {cut : Char → Bool} {c : Char} {t l : Text} {ls : List Text}
    (joins : cut c = false) (split : splitAtEach cut t = l :: ls) :
    splitAtEach cut (c :: t) = (c :: l) :: ls := by
  simp [splitAtEach, joins, split]

theorem splitAtEach_of_whole {cut : Char → Bool} {t : Text} (whole : ∀ c ∈ t, cut c = false) :
    splitAtEach cut t = [t] := by
  induction t with
  | nil => rfl
  | cons c t ih =>
    obtain ⟨first, others⟩ := List.forall_mem_cons.mp whole
    exact splitAtEach_cons_of_ne first (ih others)

theorem splitAtEach_append_cons {cut : Char → Bool} {c : Char} (cuts : cut c = true) (a b : Text) :
    splitAtEach cut (a ++ c :: b) = splitAtEach cut a ++ splitAtEach cut b := by
  induction a with
  | nil => exact splitAtEach_cons_of_cut cuts b
  | cons e a ih =>
    cases here : cut e with
    | true =>
      rw [List.cons_append, splitAtEach_cons_of_cut here, splitAtEach_cons_of_cut here, ih]
      rfl
    | false =>
      obtain ⟨l, ls, pieces⟩ := List.exists_cons_of_ne_nil (splitAtEach_ne_nil cut a)
      rw [pieces] at ih
      rw [List.cons_append, splitAtEach_cons_of_ne here ih, splitAtEach_cons_of_ne here pieces]
      rfl

theorem lines_ne_nil (t : Text) : t.lines ≠ [] := splitAtEach_ne_nil _ t

theorem lines_cons_feed (t : Text) : Text.lines ('\n' :: t) = [] :: t.lines := rfl

theorem lines_cons_of_ne {c : Char} {t l : Text} {ls : List Line} (ne : c ≠ '\n')
    (cut : t.lines = l :: ls) : Text.lines (c :: t) = (c :: l) :: ls :=
  splitAtEach_cons_of_ne (by simpa using ne) cut

theorem joinWith_cons_of_ne_nil (sep l : Text) {ls : List Text} (ne : ls ≠ []) :
    joinWith sep (l :: ls) = l ++ sep ++ joinWith sep ls := by
  cases ls with
  | nil => exact absurd rfl ne
  | cons m ms => rfl

theorem unlines_cons_of_ne_nil (l : Line) {ls : List Line} (ne : ls ≠ []) :
    unlines (l :: ls) = l ++ '\n' :: unlines ls := by
  simp [unlines, joinWith_cons_of_ne_nil _ _ ne]

private theorem unlines_cons_cons (c : Char) (l : Line) (ls : List Line) :
    unlines ((c :: l) :: ls) = c :: unlines (l :: ls) := by
  cases ls with
  | nil => rfl
  | cons m ms => simp [unlines_cons_of_ne_nil]

theorem unlines_lines (t : Text) : unlines t.lines = t := by
  induction t with
  | nil => rfl
  | cons c t ih =>
    by_cases feed : c = '\n'
    · subst feed
      rw [lines_cons_feed, unlines_cons_of_ne_nil _ (lines_ne_nil t), ih]
      rfl
    · obtain ⟨l, ls, cut⟩ := List.exists_cons_of_ne_nil (lines_ne_nil t)
      rw [lines_cons_of_ne feed cut, unlines_cons_cons, ← cut, ih]

theorem feed_not_mem_of_mem_lines {t l : Text} (mem : l ∈ t.lines) : '\n' ∉ l := by
  induction t generalizing l with
  | nil =>
    obtain rfl : l = [] := by simpa [lines, splitAtEach] using mem
    exact List.not_mem_nil
  | cons c t ih =>
    by_cases feed : c = '\n'
    · subst feed
      rw [lines_cons_feed] at mem
      rcases List.mem_cons.mp mem with rfl | mem
      · exact List.not_mem_nil
      · exact ih mem
    · obtain ⟨m, ms, cut⟩ := List.exists_cons_of_ne_nil (lines_ne_nil t)
      rw [lines_cons_of_ne feed cut] at mem
      rcases List.mem_cons.mp mem with rfl | mem
      · have rest : '\n' ∉ m := ih (by simp [cut])
        simpa [Ne.symm feed] using rest
      · exact ih (by simp [cut, mem])

theorem lines_append_feed {l : Line} (free : '\n' ∉ l) (t : Text) :
    Text.lines (l ++ '\n' :: t) = l :: t.lines := by
  induction l with
  | nil => rfl
  | cons c l ih =>
    have ne : c ≠ '\n' := fun h => free (by simp [h])
    exact lines_cons_of_ne ne (ih fun h => free (List.mem_cons_of_mem c h))

theorem lines_append_cons_feed (a b : Text) :
    Text.lines (a ++ '\n' :: b) = Text.lines a ++ Text.lines b :=
  splitAtEach_append_cons rfl a b

theorem lines_of_feed_not_mem {l : Line} (free : '\n' ∉ l) : Text.lines l = [l] := by
  apply splitAtEach_of_whole
  intro c mem
  simpa using fun eq : c = '\n' => free (eq ▸ mem)

theorem lines_unlines {ls : List Line} (ne : ls ≠ []) (free : ∀ l ∈ ls, '\n' ∉ l) :
    Text.lines (unlines ls) = ls := by
  induction ls with
  | nil => exact absurd rfl ne
  | cons l ls ih =>
    have first : '\n' ∉ l := free l (by simp)
    by_cases last : ls = []
    · subst last
      exact lines_of_feed_not_mem first
    · rw [unlines_cons_of_ne_nil l last, lines_append_feed first,
        ih last fun m hm => free m (List.mem_cons_of_mem l hm)]

theorem lines_unlines_flatMap {ls : List Text} (ne : ls ≠ []) :
    Text.lines (unlines ls) = ls.flatMap Text.lines := by
  induction ls with
  | nil => exact absurd rfl ne
  | cons l ls ih =>
    by_cases last : ls = []
    · subst last
      exact (List.append_nil _).symm
    · rw [unlines_cons_of_ne_nil l last, lines_append_cons_feed, ih last, List.flatMap_cons]

theorem flatMap_lines_of_free {ls : List Line} (free : ∀ l ∈ ls, '\n' ∉ l) :
    ls.flatMap Text.lines = ls := by
  by_cases none : ls = []
  · rw [none]
    rfl
  · rw [← lines_unlines_flatMap none, lines_unlines none free]

theorem exists_last_of_mem {c : Char} {t : Text} (mem : c ∈ t) :
    ∃ before after, t = before ++ c :: after ∧ c ∉ after := by
  obtain ⟨after, before, split, absent⟩ := List.eq_append_cons_of_mem (List.mem_reverse.mpr mem)
  refine ⟨before.reverse, after.reverse, ?_, fun later => absent (List.mem_reverse.mp later)⟩
  rw [← List.reverse_reverse t, split]
  simp

theorem endsWith_singleton {t : Text} {c : Char} : endsWith t [c] = true ↔ t.getLast? = some c := by
  rw [endsWith, List.isSuffixOf_iff_suffix, List.getLast?_eq_some_iff]
  exact ⟨fun ⟨before, eq⟩ => ⟨before, eq.symm⟩, fun ⟨before, eq⟩ => ⟨before, eq.symm⟩⟩

theorem endsWith_append_singleton {a b : Text} (nonempty : b ≠ []) (c : Char) :
    endsWith (a ++ b) [c] = endsWith b [c] := by
  obtain ⟨last, found⟩ := Option.ne_none_iff_exists'.mp (mt List.getLast?_eq_none_iff.mp nonempty)
  rw [Bool.eq_iff_iff, endsWith_singleton, endsWith_singleton, List.getLast?_append, found]
  rfl

end Redline.Text
