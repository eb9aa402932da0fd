import Redline.Proofs.Text.Reader
import Redline.Proofs.Text.Trim

set_option autoImplicit false
set_option relaxedAutoImplicit false

/-!
The lines of a file with what ends them: a line feed, a carriage return or both. Joined they give the text
again. A text that is put after the end of a line has its own lines, and so have lines that are taken out
of a text and joined, unless a carriage return comes to stand before a line feed.
-/

namespace Redline.Text

def isLineEnd (c : Char) : Bool := c == '\n' || c == '\r'

/-- The lines of a text, each with its end; the last one may have none. -/
def endedLines : Text → List Text
  | [] => []
  | '\r' :: '\n' :: t => ['\r', '\n'] :: endedLines t
  | c :: t =>
    if isLineEnd c then [c] :: endedLines t
    else match endedLines t with
      | [] => [[c]]
      | l :: ls => (c :: l) :: ls

def Ended (t : Text) : Prop := ∃ c, t.getLast? = some c ∧ isLineEnd c = true

def body (l : Text) : Line := l.filter fun c => !isLineEnd c

variable {a b t l : Text} {c : Char}

private theorem Ended.cons (ended : Ended l) (c : Char) : Ended (c :: l) := by
  obtain ⟨last, found, ends⟩ := ended
  refine ⟨last, ?_, ends⟩
  rw [List.getLast?_cons, found]
  rfl

private theorem Ended.of_cons (ended : Ended (c :: l)) (some : l ≠ []) : Ended l := by
  obtain ⟨last, found, ends⟩ := ended
  obtain ⟨d, r, rfl⟩ := List.exists_cons_of_ne_nil some
  exact ⟨last, by rwa [List.getLast?_cons_cons] at found, ends⟩

private theorem isBlank_of_isLineEnd (ends : isLineEnd c = true) : isBlank c = true := by
  have either : c = '\n' ∨ c = '\r' := by simpa [isLineEnd] using ends
  rcases either with rfl | rfl <;> decide

/-! How the lines of a longer text begin. -/

private theorem endedLines_cons_of_end (ends : isLineEnd c = true)
    (apart : c = '\r' → t.head? ≠ some '\n') : endedLines (c :: t) = [c] :: endedLines t := by
  rw [endedLines, if_pos ends]
  rintro r rfl rfl
  exact apart rfl rfl

private theorem endedLines_cons_of_join {ls : List Text} (joins : isLineEnd c = false)
    (cut : endedLines t = l :: ls) : endedLines (c :: t) = (c :: l) :: ls := by
  rw [endedLines, joins, cut]
  · rfl
  · rintro r rfl -
    exact absurd joins (by decide)

private theorem endedLines_singleton (c : Char) : endedLines [c] = [[c]] := by
  cases ends : isLineEnd c with
  | true => exact endedLines_cons_of_end ends fun _ => by simp
  | false =>
    rw [endedLines, ends]
    · rfl
    · rintro r - none
      cases none

private theorem flatten_endedLines (t : Text) : (endedLines t).flatten = t := by
  fun_induction endedLines t with
  | case1 => rfl
  | case2 t ih => simp [ih]
  | case3 c t _ _ ih => simp [ih]
  | case4 c t _ _ none ih => simpa [none] using ih
  | case5 c t _ _ l ls some ih => simpa [some] using ih

private theorem eq_nil_of_endedLines (none : endedLines t = []) : t = [] := by
  rw [← flatten_endedLines t, none]
  rfl

theorem endedLines_append (ended : a = [] ∨ Ended a) (apart : b.head? ≠ some '\n') :
    endedLines (a ++ b) = endedLines a ++ endedLines b := by
  fun_induction endedLines a with
  | case1 => rfl
  | case2 t ih =>
    have rest : t = [] ∨ Ended t := by
      by_cases none : t = []
      · exact Or.inl none
      · obtain whole := ended.resolve_left (List.cons_ne_nil _ _)
        exact Or.inr ((whole.of_cons (List.cons_ne_nil _ _)).of_cons none)
    rw [List.cons_append, List.cons_append, endedLines, ih rest]
    rfl
  | case3 c t single ends ih =>
    have rest : t = [] ∨ Ended t := by
      by_cases none : t = []
      · exact Or.inl none
      · exact Or.inr ((ended.resolve_left (List.cons_ne_nil _ _)).of_cons none)
    have notFeed (isReturn : c = '\r') : (t ++ b).head? ≠ some '\n' := by
      cases t with
      | nil => exact apart
      | cons d t =>
        intro feed
        obtain rfl : d = '\n' := by simpa using feed
        exact single t isReturn rfl
    rw [List.cons_append, endedLines_cons_of_end ends notFeed, ih rest]
    rfl
  | case4 c t _ joins none ih =>
    -- A line that has no end is not before another one.
    obtain rfl := eq_nil_of_endedLines none
    obtain ⟨last, found, ends⟩ := ended.resolve_left (List.cons_ne_nil _ _)
    obtain rfl : c = last := by simpa using found
    exact absurd ends joins
  | case5 c t _ joins l ls some ih =>
    have filled : t ≠ [] := by
      rintro rfl
      cases some
    have rest := ih (Or.inr ((ended.resolve_left (List.cons_ne_nil _ _)).of_cons filled))
    rw [some, List.cons_append] at rest
    rw [List.cons_append, endedLines_cons_of_join (by simpa using joins) rest]
    rfl

/-! What lines are. -/

private theorem endedLines_of_mem (mem : l ∈ endedLines t) : endedLines l = [l] := by
  fun_induction endedLines t generalizing l with
  | case1 => simp at mem
  | case2 t ih =>
    rcases List.mem_cons.mp mem with rfl | mem
    · rfl
    · exact ih mem
  | case3 c t _ _ ih =>
    rcases List.mem_cons.mp mem with rfl | mem
    · exact endedLines_singleton c
    · exact ih mem
  | case4 c t _ _ none ih =>
    obtain rfl := List.mem_singleton.mp mem
    exact endedLines_singleton c
  | case5 c t _ joins m ls some ih =>
    rw [some] at ih
    rcases List.mem_cons.mp mem with rfl | mem
    · exact endedLines_cons_of_join (by simpa using joins) (ih List.mem_cons_self)
    · exact ih (List.mem_cons_of_mem m mem)

private theorem ne_nil_of_endedLines (single : endedLines l = [l]) : l ≠ [] := by
  rintro rfl
  cases single

theorem eq_feed_of_head? (single : endedLines l = [l]) (feed : l.head? = some '\n') : l = ['\n'] := by
  obtain ⟨r, rfl⟩ := List.head?_eq_some_iff.mp feed
  rw [endedLines_cons_of_end (by decide) (fun eq => absurd eq (by decide))] at single
  exact (List.cons.inj single).1.symm

private theorem pairwise_ended (t : Text) : (endedLines t).Pairwise fun l _ => Ended l := by
  fun_induction endedLines t with
  | case1 => exact .nil
  | case2 t ih => exact List.pairwise_cons.mpr ⟨fun _ _ => ⟨'\n', rfl, rfl⟩, ih⟩
  | case3 c t _ ends ih => exact List.pairwise_cons.mpr ⟨fun _ _ => ⟨c, rfl, ends⟩, ih⟩
  | case4 c t _ _ none ih => exact List.pairwise_singleton _ _
  | case5 c t _ _ l ls some ih =>
    rw [some] at ih
    obtain ⟨first, others⟩ := List.pairwise_cons.mp ih
    exact List.pairwise_cons.mpr ⟨fun m mem => (first m mem).cons c, others⟩

private theorem endedLines_flatten {ls : List Text} (lines : ∀ l ∈ ls, endedLines l = [l])
    (ended : ls.Pairwise fun l _ => Ended l) (apart : ∀ l ∈ ls, l.head? ≠ some '\n') :
    endedLines ls.flatten = ls := by
  induction ls with
  | nil => rfl
  | cons l ls ih =>
    obtain ⟨line, others⟩ := List.forall_mem_cons.mp lines
    obtain ⟨-, apart'⟩ := List.forall_mem_cons.mp apart
    obtain ⟨ends, ended'⟩ := List.pairwise_cons.mp ended
    have rest := ih others ended' apart'
    cases ls with
    | nil => simpa using line
    | cons m ls =>
      have notFeed : (m :: ls).flatten.head? ≠ some '\n' := by
        obtain ⟨d, r, rfl⟩ := List.exists_cons_of_ne_nil (ne_nil_of_endedLines (others m (by simp)))
        simpa using apart' (d :: r) (by simp)
      rw [List.flatten_cons, endedLines_append (Or.inr (ends m (by simp))) notFeed, line, rest]
      rfl

theorem endedLines_flatten_filter {keep : Text → Bool} (filled : keep ['\n'] = false) (t : Text) :
    endedLines ((endedLines t).filter keep).flatten = (endedLines t).filter keep := by
  refine endedLines_flatten ?_ ((pairwise_ended t).filter _) ?_
  · intro l mem
    exact endedLines_of_mem (List.mem_filter.mp mem).1
  · intro l mem feed
    obtain ⟨mem, kept⟩ := List.mem_filter.mp mem
    obtain rfl := eq_feed_of_head? (endedLines_of_mem mem) feed
    exact absurd kept (by simp [filled])

/-! Lines as they are read. -/

private theorem exists_end (mem : l ∈ endedLines t) :
    ∃ ending, l = body l ++ ending ∧ ∀ c ∈ ending, isBlank c = true := by
  fun_induction endedLines t generalizing l with
  | case1 => simp at mem
  | case2 t ih =>
    rcases List.mem_cons.mp mem with rfl | mem
    · exact ⟨['\r', '\n'], rfl, List.all_eq_true.mp (by decide)⟩
    · exact ih mem
  | case3 c t _ ends ih =>
    rcases List.mem_cons.mp mem with rfl | mem
    · refine ⟨[c], by simp [body, ends], ?_⟩
      intro d mem
      obtain rfl := List.mem_singleton.mp mem
      exact isBlank_of_isLineEnd ends
    · exact ih mem
  | case4 c t _ joins none ih =>
    obtain rfl := List.mem_singleton.mp mem
    exact ⟨[], by simp [body, joins], by simp⟩
  | case5 c t _ joins m ls some ih =>
    rw [some] at ih
    rcases List.mem_cons.mp mem with rfl | mem
    · obtain ⟨ending, split, blank⟩ := ih List.mem_cons_self
      refine ⟨ending, ?_, blank⟩
      have front : body (c :: m) = c :: body m := by simp [body, joins]
      rw [front, List.cons_append, ← split]
    · exact ih (List.mem_cons_of_mem m mem)

theorem trim_body_of_mem (mem : l ∈ endedLines t) : trim (body l) = trim l := by
  obtain ⟨ending, split, blank⟩ := exists_end mem
  calc trim (body l) = trim (body l ++ ending) := (trim_append_blanks (body l) blank).symm
    _ = trim l := by rw [← split]

theorem exists_lines_withLineFeeds (t : Text) : ∃ closing,
    Text.lines (withLineFeeds t) = (endedLines t).map body ++ closing ∧ ∀ l ∈ closing, l = [] := by
  fun_induction endedLines t with
  | case1 => exact ⟨[[]], rfl, by simp⟩
  | case2 t ih =>
    obtain ⟨closing, read, empty⟩ := ih
    refine ⟨closing, ?_, empty⟩
    rw [withLineFeeds, lines_cons_feed, read]
    rfl
  | case3 c t single ends ih =>
    obtain ⟨closing, read, empty⟩ := ih
    refine ⟨closing, ?_, empty⟩
    have feed : withLineFeeds (c :: t) = '\n' :: withLineFeeds t := by
      by_cases isReturn : c = '\r'
      · subst isReturn
        refine withLineFeeds_return_of_ne fun head => ?_
        obtain ⟨r, rfl⟩ := List.head?_eq_some_iff.mp head
        exact single r rfl rfl
      · obtain rfl : c = '\n' := by simpa [isLineEnd, isReturn] using ends
        exact withLineFeeds_cons_of_ne isReturn t
    have empty : body [c] = [] := by simp [body, ends]
    rw [feed, lines_cons_feed, read, List.map_cons, empty]
    rfl
  | case4 c t _ joins none ih =>
    obtain rfl := eq_nil_of_endedLines none
    have free : c ≠ '\n' ∧ c ≠ '\r' := by simpa [isLineEnd] using joins
    have whole : body [c] = [c] := by simp [body, joins]
    refine ⟨[], ?_, by simp⟩
    rw [withLineFeeds_cons_of_ne free.2, List.map_singleton, whole]
    exact lines_cons_of_ne free.1 rfl
  | case5 c t _ joins l ls some ih =>
    obtain ⟨closing, read, empty⟩ := ih
    have free : c ≠ '\n' ∧ c ≠ '\r' := by simpa [isLineEnd] using joins
    have front : body (c :: l) = c :: body l := by simp [body, joins]
    refine ⟨closing, ?_, empty⟩
    rw [some, List.map_cons, List.cons_append] at read
    rw [withLineFeeds_cons_of_ne free.2, lines_cons_of_ne free.1 read, List.map_cons, front]
    rfl

end Redline.Text
