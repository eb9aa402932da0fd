import Redline.Proofs.Text.Lines
import Redline.Text.Row

set_option autoImplicit false
set_option relaxedAutoImplicit false

/-!
Rows and lines. Joined rows give the text again, and a line feed ends the row in which it stands. The
rows of a text whose lines all end in a line feed are, where no other character ends a row, its lines
with their line feeds, and its lines are the same ones with an empty line after them.
-/

namespace Redline.Text

def closed (l : Line) : Text := l ++ ['\n']

def terminated (ls : List Line) : Text := ls.flatMap closed

/-- Whether a text is empty or ends in a line feed, and line feeds alone end its rows. -/
structure IsTerminated (t : Text) : Prop where
  ends : t = [] ∨ t.getLast? = some '\n'
  breaks : ∀ c ∈ t, isRowBreak c = true → c = '\n'

private theorem isTerminated_iff {t : Text} : IsTerminated t ↔
    (t = [] ∨ t.getLast? = some '\n') ∧ t.all (fun c => !isRowBreak c || c == '\n') = true := by
  have breaks (c : Char) : (!isRowBreak c || c == '\n') = true ↔ (isRowBreak c = true → c = '\n') := by
    cases isRowBreak c <;> simp
  simp only [List.all_eq_true, breaks]
  exact ⟨fun ⟨ends, breaks⟩ => ⟨ends, breaks⟩, fun ⟨ends, breaks⟩ => ⟨ends, breaks⟩⟩

instance (t : Text) : Decidable (IsTerminated t) := decidable_of_iff' _ isTerminated_iff

theorem unlines_append_nil (ls : List Line) : unlines (ls ++ [[]]) = terminated ls := by
  induction ls with
  | nil => rfl
  | cons l ls ih =>
    rw [List.cons_append, unlines_cons_of_ne_nil l (by simp), ih]
    simp [terminated, closed]

theorem lines_terminated {ls : List Line} (free : ∀ l ∈ ls, '\n' ∉ l) :
    Text.lines (terminated ls) = ls ++ [[]] := by
  rw [← unlines_append_nil]
  apply lines_unlines (by simp)
  intro l mem
  rcases List.mem_append.mp mem with mem | mem
  · exact free l mem
  · obtain rfl := List.mem_singleton.mp mem
    exact List.not_mem_nil

private theorem lines_getLast?_of_ends {t : Text} (ends : t = [] ∨ t.getLast? = some '\n') :
    t.lines.getLast? = some [] := by
  induction t with
  | nil => rfl
  | cons c t ih =>
    have more : Text.lines t ≠ [] := lines_ne_nil t
    by_cases feed : c = '\n'
    · subst feed
      have rest : t = [] ∨ t.getLast? = some '\n' := by
        cases t with
        | nil => exact Or.inl rfl
        | cons d t => simpa using ends
      rw [lines_cons_feed, List.getLast?_cons, ih rest]
      rfl
    · obtain ⟨l, ls, cut⟩ := List.exists_cons_of_ne_nil more
      have rest : t.getLast? = some '\n' := by
        cases t with
        | nil => simp [feed] at ends
        | cons d t => simpa using ends
      have last := ih (Or.inr rest)
      rw [cut] at last
      rw [lines_cons_of_ne feed cut]
      cases ls with
      | cons m ms => simpa using last
      | nil =>
        -- A text of a single empty line is empty and does not end in a line feed.
        obtain rfl : l = [] := by simpa using last
        have empty : t = [] := by rw [← unlines_lines t, cut]; rfl
        simp [empty] at rest

theorem IsTerminated.exists_terminated {t : Text} (closed : IsTerminated t) :
    ∃ ls, t = terminated ls ∧ ∀ l ∈ ls, ∀ c ∈ l, isRowBreak c = false := by
  obtain ⟨ls, cut⟩ := List.getLast?_eq_some_iff.mp (lines_getLast?_of_ends closed.ends)
  have eq : t = terminated ls := by rw [← unlines_append_nil, ← cut, unlines_lines]
  refine ⟨ls, eq, ?_⟩
  intro l mem c inLine
  have inText : c ∈ t := by
    rw [eq]
    exact List.mem_flatMap.mpr ⟨l, mem, List.mem_append_left _ inLine⟩
  have isLine : l ∈ t.lines := by
    rw [cut]
    exact List.mem_append_left _ mem
  cases isBreak : isRowBreak c with
  | false => rfl
  | true =>
    obtain rfl := closed.breaks c inText isBreak
    exact absurd inLine (feed_not_mem_of_mem_lines isLine)

private theorem flatten_rowsWithBreaks (t : Text) : (rowsWithBreaks t).flatten = t := by
  fun_induction rowsWithBreaks t with
  | case1 => rfl
  | case2 t ih => simp [ih]
  | case3 c t _ _ ih => simp [ih]
  | case4 c t _ _ none ih => simpa [none] using ih
  | case5 c t _ _ r rs some ih => simpa [some] using ih

theorem rowsWithBreaks_inj {s t : Text} (same : rowsWithBreaks s = rowsWithBreaks t) : s = t := by
  rw [← flatten_rowsWithBreaks s, same, flatten_rowsWithBreaks]

theorem feed_not_mem_dropLast_row {t row : Text} (mem : row ∈ rowsWithBreaks t) :
    '\n' ∉ row.dropLast := by
  fun_induction rowsWithBreaks t generalizing row with
  | case1 => simp at mem
  | case2 t ih =>
    rcases List.mem_cons.mp mem with rfl | mem
    · decide
    · exact ih mem
  | case3 c t _ isBreak ih =>
    rcases List.mem_cons.mp mem with rfl | mem
    · exact List.not_mem_nil
    · exact ih mem
  | case4 c t _ _ none ih =>
    obtain rfl := List.mem_singleton.mp mem
    exact List.not_mem_nil
  | case5 c t _ joins r rs some ih =>
    rw [some] at ih
    rcases List.mem_cons.mp mem with rfl | mem
    · have first : '\n' ∉ r.dropLast := ih List.mem_cons_self
      have other : '\n' ≠ c := by
        rintro rfl
        exact joins (by decide)
      cases r with
      | nil => exact List.not_mem_nil
      | cons d r =>
        rw [List.dropLast_cons_cons, List.mem_cons]
        exact not_or.mpr ⟨other, first⟩
    · exact ih (List.mem_cons_of_mem r mem)

private theorem rowsWithBreaks_append_feed {l : Line} (clean : ∀ c ∈ l, isRowBreak c = false)
    (t : Text) : rowsWithBreaks (l ++ '\n' :: t) = closed l :: rowsWithBreaks t := by
  induction l with
  | nil => rfl
  | cons c l ih =>
    have skip : isRowBreak c = false := clean c (by simp)
    have inner := ih fun d mem => clean d (List.mem_cons_of_mem c mem)
    have notReturn : c ≠ '\r' := by
      rintro rfl
      exact absurd skip (by decide)
    rw [List.cons_append, rowsWithBreaks, inner, skip]
    · rfl
    · intro _ eq
      exact absurd eq notReturn

theorem rowsWithBreaks_terminated {ls : List Line}
    (clean : ∀ l ∈ ls, ∀ c ∈ l, isRowBreak c = false) :
    rowsWithBreaks (terminated ls) = ls.map closed := by
  induction ls with
  | nil => rfl
  | cons l ls ih =>
    have inner := ih fun m mem => clean m (List.mem_cons_of_mem l mem)
    have first := rowsWithBreaks_append_feed (clean l (by simp)) (terminated ls)
    rw [List.map_cons, ← inner, ← first]
    simp [terminated, closed]

end Redline.Text
