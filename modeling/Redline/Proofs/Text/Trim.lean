import Mathlib.Data.List.TakeWhile
import Redline.Text.Basic

set_option autoImplicit false
set_option relaxedAutoImplicit false

/-!
Trimming. Blanks that are put around a text are taken off again, and nothing else is. Where each character
is replaced by a text, blanks by themselves and others by texts without blanks, it does not matter whether
trimming comes before or after.
-/

namespace Redline.Text

private theorem trimStart_append_of_blank {w : Text} (blank : ∀ c ∈ w, isBlank c = true) (t : Text) :
    trimStart (w ++ t) = trimStart t :=
  List.dropWhile_append_of_pos blank

theorem trimStart_cons_of_not_blank {c : Char} (solid : isBlank c = false) (t : Text) :
    trimStart (c :: t) = c :: t := by
  simp [trimStart, solid]

private theorem trimEnd_eq (t : Text) : trimEnd t = (trimStart t.reverse).reverse := rfl

theorem trimEnd_append_of_blank {w : Text} (blank : ∀ c ∈ w, isBlank c = true) (t : Text) :
    trimEnd (t ++ w) = trimEnd t := by
  have backward : ∀ c ∈ w.reverse, isBlank c = true := fun c mem => blank c (List.mem_reverse.mp mem)
  rw [trimEnd_eq, trimEnd_eq, List.reverse_append, trimStart_append_of_blank backward]

theorem trimEnd_concat_of_not_blank {c : Char} (solid : isBlank c = false) (t : Text) :
    trimEnd (t ++ [c]) = t ++ [c] := by
  rw [trimEnd_eq, List.reverse_append, List.reverse_singleton, List.singleton_append,
    trimStart_cons_of_not_blank solid, List.reverse_cons, List.reverse_reverse]

theorem exists_blanks (t : Text) : ∃ w, (∀ c ∈ w, isBlank c = true) ∧
    (t = w ∨ ∃ c r, t = w ++ c :: r ∧ isBlank c = false) := by
  have split : t = t.takeWhile isBlank ++ t.dropWhile isBlank :=
    List.takeWhile_append_dropWhile.symm
  refine ⟨t.takeWhile isBlank, fun _ mem => List.mem_takeWhile_imp mem, ?_⟩
  cases rest : t.dropWhile isBlank with
  | nil =>
    rw [rest, List.append_nil] at split
    exact .inl split
  | cons c r =>
    have solid := List.head?_dropWhile_not isBlank t
    rw [rest] at split solid
    exact .inr ⟨c, r, split, by simpa using solid⟩

theorem trim_of_blank {w : Text} (blank : ∀ c ∈ w, isBlank c = true) : trim w = [] := by
  have start := trimStart_append_of_blank blank []
  rw [List.append_nil] at start
  rw [trim, start]
  rfl

theorem trim_append_of_blank {w : Text} (blank : ∀ c ∈ w, isBlank c = true) (t : Text) :
    trim (w ++ t) = trim t := by
  rw [trim, trimStart_append_of_blank blank, trim]

theorem trim_append_blanks (t : Text) {w : Text} (blank : ∀ c ∈ w, isBlank c = true) :
    trim (t ++ w) = trim t := by
  obtain ⟨front, blanks, all | ⟨c, r, split, solid⟩⟩ := exists_blanks t
  · subst all
    have both : ∀ c ∈ t ++ w, isBlank c = true := List.forall_mem_append.mpr ⟨blanks, blank⟩
    rw [trim_of_blank both, trim_of_blank blanks]
  · subst split
    rw [List.append_assoc, trim_append_of_blank blanks, trim_append_of_blank blanks, trim, trim,
      List.cons_append, trimStart_cons_of_not_blank solid, trimStart_cons_of_not_blank solid,
      ← List.cons_append, trimEnd_append_of_blank blank]

theorem trim_infix (t : Text) : trim t <:+: t := by
  have start (s : Text) : trimStart s <:+ s := List.dropWhile_suffix isBlank
  have stop : trim t <+: trimStart t := List.reverse_suffix.mp (by simpa [trim, trimEnd_eq] using start _)
  exact stop.isInfix.trans (start t).isInfix

/-- Whether each blank stands for itself and every other character for a text without blanks. -/
structure KeepsBlanks (f : Char → Text) : Prop where
  blank : ∀ c, isBlank c = true → f c = [c]
  ne_nil : ∀ c, isBlank c = false → f c ≠ []
  solid : ∀ c, isBlank c = false → ∀ d ∈ f c, isBlank d = false

private theorem KeepsBlanks.trimStart_expand {f : Char → Text} (keeps : KeepsBlanks f) (t : Text) :
    trimStart (expand f t) = expand f (trimStart t) := by
  obtain ⟨w, blank, rest⟩ := exists_blanks t
  have same : expand f w = w := by
    rw [expand, List.flatMap_def, List.map_congr_left fun c mem => keeps.blank c (blank c mem)]
    simp [← List.flatMap_def]
  rcases rest with rfl | ⟨c, r, rfl, solid⟩
  · have none := trimStart_append_of_blank blank []
    rw [List.append_nil] at none
    rw [same, none]
    rfl
  · obtain ⟨d, ds, head⟩ := List.exists_cons_of_ne_nil (keeps.ne_nil c solid)
    have other : isBlank d = false := keeps.solid c solid d (by simp [head])
    rw [trimStart_append_of_blank blank, trimStart_cons_of_not_blank solid]
    rw [expand, List.flatMap_append, ← expand, same, trimStart_append_of_blank blank,
      List.flatMap_cons, head, List.cons_append, trimStart_cons_of_not_blank other]
    rw [expand, List.flatMap_cons, head, List.cons_append]

private theorem KeepsBlanks.reverse {f : Char → Text} (keeps : KeepsBlanks f) :
    KeepsBlanks fun c => (f c).reverse where
  blank := fun c blank => by rw [keeps.blank c blank, List.reverse_singleton]
  ne_nil := fun c solid => by simpa using keeps.ne_nil c solid
  solid := fun c solid d mem => keeps.solid c solid d (List.mem_reverse.mp mem)

theorem KeepsBlanks.trim_expand {f : Char → Text} (keeps : KeepsBlanks f) (t : Text) :
    trim (expand f t) = expand f (trim t) := by
  have backward (s : Text) : (expand f s).reverse = expand (fun c => (f c).reverse) s.reverse :=
    List.reverse_flatMap
  calc trim (expand f t)
      = (trimStart (expand f (trimStart t)).reverse).reverse := by
        rw [trim, keeps.trimStart_expand, trimEnd_eq]
    _ = (expand (fun c => (f c).reverse) (trimStart (trimStart t).reverse)).reverse := by
        rw [backward, keeps.reverse.trimStart_expand]
    _ = expand f (trim t) := by
        rw [trim, trimEnd_eq, ← List.reverse_reverse (expand f _), backward, List.reverse_reverse]

end Redline.Text
