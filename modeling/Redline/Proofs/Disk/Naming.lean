import Redline.Proofs.Disk.Frame
import Redline.Proofs.Text.Lines

set_option autoImplicit false
set_option relaxedAutoImplicit false

/-!
Names that are made longer. A suffix without a slash, put after a path that names a file, makes only
the last name longer, so the longer path names a place in the same directory.
-/

namespace Redline.Disk

open Text (splitAtEach)

/-- The place in the same directory whose name has a suffix more. -/
def Place.lengthen (suffix : Text) : Place → Place
  | [] => []
  | name :: parent => (name ++ suffix) :: parent

theorem Place.lengthen_ne_self {suffix : Text} (visible : suffix ≠ []) {p : Place} (inside : p ≠ []) :
    p.lengthen suffix ≠ p := by
  obtain ⟨name, parent, rfl⟩ := List.exists_cons_of_ne_nil inside
  intro eq
  have same : name ++ suffix = name := (List.cons.inj eq).1
  exact visible (by simpa using same)

private theorem exists_splitAtEach_append (cut : Char → Bool) {suffix : Text}
    (whole : ∀ c ∈ suffix, cut c = false) {t : Text} (unfinished : ∀ c ∈ t.getLast?, cut c = false)
    (nonempty : t ≠ []) :
    ∃ pieces last, last ≠ [] ∧ splitAtEach cut t = pieces ++ [last] ∧
      splitAtEach cut (t ++ suffix) = pieces ++ [last ++ suffix] := by
  -- The last piece is the one that grows, and it is not empty, for the text ends in it.
  induction t with
  | nil => exact absurd rfl nonempty
  | cons c t ih =>
    cases t with
    | nil =>
      have plain : cut c = false := unfinished c rfl
      exact ⟨[], [c], List.cons_ne_nil c [], Text.splitAtEach_of_whole (by simpa using plain),
        Text.splitAtEach_of_whole (List.forall_mem_cons.mpr ⟨plain, whole⟩)⟩
    | cons e t =>
      obtain ⟨pieces, last, some, short, long⟩ := ih unfinished (List.cons_ne_nil e t)
      cases cuts : cut c with
      | true =>
        refine ⟨[] :: pieces, last, some, ?_, ?_⟩
        · rw [Text.splitAtEach_cons_of_cut cuts, short]
          rfl
        · rw [List.cons_append, Text.splitAtEach_cons_of_cut cuts, long]
          rfl
      | false =>
        cases pieces with
        | nil =>
          exact ⟨[], c :: last, List.cons_ne_nil c last, Text.splitAtEach_cons_of_ne cuts short,
            Text.splitAtEach_cons_of_ne cuts long⟩
        | cons piece pieces =>
          exact ⟨(c :: piece) :: pieces, last, some, Text.splitAtEach_cons_of_ne cuts short,
            Text.splitAtEach_cons_of_ne cuts long⟩

theorem exists_pathParts_append {path suffix : Text} (bare : '/' ∉ suffix) (nonempty : path ≠ [])
    (unfinished : Text.endsWith path ['/'] = false) :
    ∃ parts last, pathParts path = parts ++ [last] ∧
      pathParts (path ++ suffix) = parts ++ [last ++ suffix] := by
  have whole : ∀ c ∈ suffix, (c == '/') = false := by
    intro c mem
    simpa using fun eq : c = '/' => bare (eq ▸ mem)
  have last : ∀ c ∈ path.getLast?, (c == '/') = false := by
    intro c mem
    obtain ⟨before, rfl⟩ := List.getLast?_eq_some_iff.mp mem
    cases slash : c == '/' with
    | false => rfl
    | true =>
      obtain rfl : c = '/' := by simpa using slash
      have ends : ['/'].isSuffixOf (before ++ ['/']) = true :=
        List.isSuffixOf_iff_suffix.mpr (List.suffix_append before ['/'])
      exact absurd (unfinished.symm.trans ends) (by decide)
  obtain ⟨pieces, last, some, short, long⟩ :=
    exists_splitAtEach_append (· == '/') whole last nonempty
  refine ⟨pieces.filter fun part => !part.isEmpty, last, ?_, ?_⟩
  · simp [pathParts, short, some]
  · simp [pathParts, long, some]

namespace Tree

variable {d : Tree}

theorem target_eq_named {path name : Text} {parent : Place} {slash : Bool}
    (target : d.target path = .ok (.named parent name slash)) :
    path ≠ [] ∧ (pathParts path).getLast? = some name ∧
      d.enterAll (if isAbsolute path then [] else d.here) (pathParts path).dropLast = .ok parent ∧
      slash = Text.endsWith path ['/'] := by
  unfold Tree.target at target
  split at target
  · simp at target
  · rename_i nonempty
    split at target
    · simp at target
    · simp only at target
      split at target
      · simp at target
      · rename_i last found
        split at target
        · simp at target
        · rename_i q walked
          split at target
          · simp at target
          · split at target
            · simp at target
            · split at target
              · simp at target
              · obtain ⟨rfl, rfl, rfl⟩ := Target.named.inj (Except.ok.inj target)
                exact ⟨by simpa using nonempty, found, walked, rfl⟩

theorem path_ne_nil {path : Text} {p : Place} (placed : d.place? path = some p) : path ≠ [] := by
  obtain ⟨-, parent, name, led, rfl⟩ := place?_eq_some_iff.mp placed
  exact (target_eq_named led).1

theorem place?_append {path suffix : Text} {p q : Place} (bare : '/' ∉ suffix)
    (placed : d.place? path = some p) (longer : d.place? (path ++ suffix) = some q) :
    q = Place.lengthen suffix p := by
  obtain ⟨-, parent, name, target, rfl⟩ := place?_eq_some_iff.mp placed
  obtain ⟨-, parent', name', target', rfl⟩ := place?_eq_some_iff.mp longer
  obtain ⟨nonempty, lastName, walked, closed⟩ := target_eq_named target
  obtain ⟨-, lastName', walked', -⟩ := target_eq_named target'
  obtain ⟨parts, last, short, long⟩ := exists_pathParts_append bare nonempty closed.symm
  have sameStart : isAbsolute (path ++ suffix) = isAbsolute path := by
    obtain ⟨c, t, rfl⟩ := List.exists_cons_of_ne_nil nonempty
    simp [isAbsolute, Text.startsWith, List.isPrefixOf]
  rw [short, List.getLast?_concat] at lastName
  rw [long, List.getLast?_concat] at lastName'
  rw [short, List.dropLast_concat] at walked
  rw [long, List.dropLast_concat, sameStart, walked] at walked'
  obtain rfl := Option.some.inj lastName
  obtain rfl := Option.some.inj lastName'
  obtain rfl := Except.ok.inj walked'
  rfl

end Tree

end Redline.Disk
