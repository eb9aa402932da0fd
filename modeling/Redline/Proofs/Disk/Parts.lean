import Mathlib.Data.List.Induction
import Mathlib.Data.List.TakeWhile
import Redline.Disk.Operations
import Redline.Proofs.Text.Lines
import Redline.Proofs.Text.Utf8

set_option autoImplicit false
set_option relaxedAutoImplicit false

/-!
The parts of paths. Joining paths joins their parts, a place can be read off its path, and the paths that
lead to a path, among them that of its directory, have the first of its parts.
-/

namespace Redline

namespace Disk

open Text (splitAtEach endsWith)

/-- Whether a directory can be called so. -/
structure IsName (name : Text) : Prop where
  nonempty : name ≠ []
  bare : '/' ∉ name
  notHere : name ≠ ['.']
  notUp : name ≠ ['.', '.']
  short : isLongName name = false
  clean : holdsNull name = false

instance (name : Text) : Decidable (IsName name) :=
  decidable_of_iff (name ≠ [] ∧ '/' ∉ name ∧ name ≠ ['.'] ∧ name ≠ ['.', '.'] ∧
      isLongName name = false ∧ holdsNull name = false)
    ⟨fun ⟨nonempty, bare, notHere, notUp, short, clean⟩ =>
      ⟨nonempty, bare, notHere, notUp, short, clean⟩,
    fun h => ⟨h.nonempty, h.bare, h.notHere, h.notUp, h.short, h.clean⟩⟩

theorem holdsNull_append (a b : Text) : holdsNull (a ++ b) = (holdsNull a || holdsNull b) :=
  List.any_append

theorem holdsNull_of_beginning {a b : Text} (h : a <+: b) (clean : holdsNull b = false) :
    holdsNull a = false := by
  obtain ⟨rest, rfl⟩ := h
  rw [holdsNull_append] at clean
  exact (Bool.or_eq_false_iff.mp clean).1

theorem isAbsolute_iff {p : Text} : isAbsolute p = true ↔ ∃ t, p = '/' :: t := by
  cases p with
  | nil => simp [isAbsolute, Text.startsWith, List.isPrefixOf]
  | cons c t =>
    have first : isAbsolute (c :: t) = ('/' == c) := by
      simp [isAbsolute, Text.startsWith, List.isPrefixOf]
    rw [first, beq_iff_eq]
    exact ⟨fun slash => ⟨t, by rw [slash]⟩, fun ⟨_, eq⟩ => (List.cons.inj eq).1.symm⟩

theorem IsName.relative {name : Text} (valid : IsName name) : isAbsolute name = false := by
  rw [Bool.eq_false_iff, Ne, isAbsolute_iff]
  rintro ⟨t, rfl⟩
  exact valid.bare List.mem_cons_self

theorem isAbsolute_of_beginning {a b : Text} (h : a <+: b) (nonempty : a ≠ []) :
    isAbsolute a = isAbsolute b := by
  obtain ⟨rest, rfl⟩ := h
  obtain ⟨c, t, rfl⟩ := List.exists_cons_of_ne_nil nonempty
  simp [isAbsolute, Text.startsWith, List.isPrefixOf]

/-! Parts of joined paths. -/

theorem pathParts_append_slash (a b : Text) :
    pathParts (a ++ '/' :: b) = pathParts a ++ pathParts b := by
  unfold pathParts
  rw [Text.splitAtEach_append_cons (by decide), List.filter_append]

theorem pathParts_of_bare {name : Text} (nonempty : name ≠ []) (bare : '/' ∉ name) :
    pathParts name = [name] := by
  have whole : ∀ c ∈ name, (c == '/') = false := by
    intro c mem
    simpa using fun eq : c = '/' => bare (eq ▸ mem)
  simp [pathParts, Text.splitAtEach_of_whole whole, nonempty]

private theorem pathParts_ne_nil_of_any {p : Text} (named : p.any (· != '/') = true) :
    pathParts p ≠ [] := by
  induction p with
  | nil => simp at named
  | cons c t ih =>
    cases slash : c == '/' with
    | true =>
      obtain rfl : c = '/' := by simpa using slash
      exact ih (by simpa using named)
    | false =>
      obtain ⟨l, ls, pieces⟩ := List.exists_cons_of_ne_nil (Text.splitAtEach_ne_nil (· == '/') t)
      have first : splitAtEach (· == '/') (c :: t) = (c :: l) :: ls :=
        Text.splitAtEach_cons_of_ne slash pieces
      simp [pathParts, first]

theorem pathParts_ne_nil {p : Text} (relative : isAbsolute p = false) (nonempty : p ≠ []) :
    pathParts p ≠ [] := by
  obtain ⟨c, t, rfl⟩ := List.exists_cons_of_ne_nil nonempty
  refine pathParts_ne_nil_of_any (List.any_eq_true.mpr ⟨c, List.mem_cons_self, ?_⟩)
  refine bne_iff_ne.mpr fun slash => ?_
  exact Bool.false_ne_true (relative.symm.trans (isAbsolute_iff.mpr ⟨t, by rw [slash]⟩))

theorem pathParts_joinPath (base : Text) {p : Text} (relative : isAbsolute p = false) :
    pathParts (joinPath base p) = pathParts base ++ pathParts p := by
  unfold joinPath
  rw [relative]
  simp only [Bool.false_eq_true, if_false]
  split
  · rename_i closed
    rcases (Bool.or_eq_true _ _).mp closed with empty | slash
    · obtain rfl := List.isEmpty_iff.mp empty
      rfl
    · obtain ⟨before, rfl⟩ := List.getLast?_eq_some_iff.mp (Text.endsWith_singleton.mp slash)
      rw [List.append_assoc, List.singleton_append, pathParts_append_slash, pathParts_append_slash]
      simp [pathParts, splitAtEach]
  · exact pathParts_append_slash base p

theorem exists_joinPath (base : Text) {p : Text} (relative : isAbsolute p = false) :
    ∃ between, joinPath base p = base ++ between ++ p ∧ holdsNull between = false := by
  unfold joinPath
  rw [relative]
  simp only [Bool.false_eq_true, if_false]
  split
  · exact ⟨[], by simp, rfl⟩
  · exact ⟨['/'], by simp, by decide⟩

theorem isAbsolute_joinPath {base p : Text} (relative : isAbsolute p = false)
    (absolute : isAbsolute base = true) : isAbsolute (joinPath base p) = true := by
  obtain ⟨t, rfl⟩ := isAbsolute_iff.mp absolute
  obtain ⟨between, joined, -⟩ := exists_joinPath ('/' :: t) relative
  rw [joined]
  rfl

/-! The path of a place. -/

private theorem pathParts_joinWith {names : List Text} (valid : ∀ name ∈ names, IsName name) :
    pathParts (Text.joinWith ['/'] names) = names := by
  induction names with
  | nil => rfl
  | cons name names ih =>
    obtain ⟨first, rest⟩ := List.forall_mem_cons.mp valid
    have single := pathParts_of_bare first.nonempty first.bare
    by_cases last : names = []
    · rw [last]
      exact single
    · rw [Text.joinWith_cons_of_ne_nil _ _ last, List.append_assoc, List.singleton_append,
        pathParts_append_slash, single, ih rest]
      rfl

theorem pathParts_placePath {p : Place} (valid : ∀ name ∈ p, IsName name) :
    pathParts (Tree.placePath p) = p.reverse :=
  pathParts_joinWith fun name mem => valid name (List.mem_reverse.mp mem)

theorem holdsNull_placePath {p : Place} (valid : ∀ name ∈ p, IsName name) :
    holdsNull (Tree.placePath p) = false := by
  have names (ns : List Text) (valid : ∀ name ∈ ns, IsName name) :
      holdsNull (Text.joinWith ['/'] ns) = false := by
    induction ns with
    | nil => rfl
    | cons n ns ih =>
      obtain ⟨first, rest⟩ := List.forall_mem_cons.mp valid
      by_cases last : ns = []
      · rw [last]
        exact first.clean
      · rw [Text.joinWith_cons_of_ne_nil _ _ last, holdsNull_append, holdsNull_append, first.clean,
          ih rest]
        rfl
  exact names p.reverse fun name mem => valid name (List.mem_reverse.mp mem)

/-- Whether a path is absolute and names, part by part, the directories on the way to a place. -/
structure Spells (p : Place) (path : Text) : Prop where
  absolute : isAbsolute path = true
  parts : pathParts path = p.reverse
  clean : holdsNull path = false

theorem spells_placePath {p : Place} (valid : ∀ name ∈ p, IsName name) :
    Spells p (Tree.placePath p) :=
  ⟨rfl, pathParts_placePath valid, holdsNull_placePath valid⟩

theorem Spells.joinPath {p : Place} {path name : Text} (spells : Spells p path) (valid : IsName name) :
    Spells (name :: p) (joinPath path name) := by
  have relative := valid.relative
  obtain ⟨between, joined, clean⟩ := exists_joinPath path relative
  refine ⟨isAbsolute_joinPath relative spells.absolute, ?_, ?_⟩
  · rw [pathParts_joinPath path relative, spells.parts,
      pathParts_of_bare valid.nonempty valid.bare, List.reverse_cons]
  · rw [joined, holdsNull_append, holdsNull_append, spells.clean, clean, valid.clean]
    rfl

private theorem foldl_normalStep {names : List Text} (valid : ∀ name ∈ names, IsName name)
    (absolute : Bool) (done : List Text) :
    names.foldl (normalStep absolute) done = names.reverse ++ done := by
  induction names generalizing done with
  | nil => rfl
  | cons name names ih =>
    obtain ⟨first, rest⟩ := List.forall_mem_cons.mp valid
    have step : normalStep absolute done name = name :: done := by
      simp [normalStep, first.notHere, first.notUp]
    rw [List.foldl_cons, step, ih rest]
    simp

private theorem startsWith_slashes_placePath {p : Place} (valid : ∀ name ∈ p, IsName name) (t : Text) :
    Text.startsWith (joinPath (Tree.placePath p) ('.' :: t)) ['/', '/'] = false := by
  cases outermost : p.reverse with
  | nil =>
    obtain rfl := List.reverse_eq_nil_iff.mp outermost
    rfl
  | cons name names =>
    have first := valid name (List.mem_reverse.mp (outermost ▸ List.mem_cons_self))
    obtain ⟨c, name, rfl⟩ := List.exists_cons_of_ne_nil first.nonempty
    have plain : c ≠ '/' := fun eq => first.bare (eq ▸ List.mem_cons_self)
    have starts : ∃ rest, Tree.placePath p = '/' :: c :: rest := by
      unfold Tree.placePath
      rw [outermost]
      cases names with
      | nil => exact ⟨name, rfl⟩
      | cons m ms => exact ⟨_, rfl⟩
    obtain ⟨rest, starts⟩ := starts
    obtain ⟨between, joined, -⟩ := exists_joinPath (Tree.placePath p) (p := '.' :: t) rfl
    rw [joined, starts]
    simp [Text.startsWith, List.isPrefixOf, Ne.symm plain]

theorem normalPath_placePath {p : Place} (valid : ∀ name ∈ p, IsName name) :
    normalPath (joinPath (Tree.placePath p) ['.']) = Tree.placePath p := by
  have absolute : isAbsolute (joinPath (Tree.placePath p) ['.']) = true := isAbsolute_joinPath rfl rfl
  have parts : (pathParts (joinPath (Tree.placePath p) ['.'])).foldl (normalStep true) [] = p := by
    have dot : pathParts ['.'] = [['.']] := rfl
    rw [pathParts_joinPath _ rfl, pathParts_placePath valid, dot, List.foldl_append,
      foldl_normalStep fun name mem => valid name (List.mem_reverse.mp mem)]
    simp [normalStep]
  unfold normalPath
  rw [startsWith_slashes_placePath valid, absolute, parts]
  rfl

/-! The directory of a path. -/

private theorem baseName_of_bare {name : Text} (bare : '/' ∉ name) : baseName name = name := by
  have whole : ∀ c ∈ name.reverse, (c != '/') = true := by
    intro c mem
    simpa using fun eq : c = '/' => bare (eq ▸ List.mem_reverse.mp mem)
  rw [baseName, List.takeWhile_eq_self_iff.mpr whole, List.reverse_reverse]

private theorem baseName_append_slash (before : Text) {name : Text} (bare : '/' ∉ name) :
    baseName (before ++ '/' :: name) = name := by
  have whole : ∀ c ∈ name.reverse, (c != '/') = true := by
    intro c mem
    simpa using fun eq : c = '/' => bare (eq ▸ List.mem_reverse.mp mem)
  rw [baseName, List.reverse_append, List.reverse_cons, List.append_assoc,
    List.takeWhile_append_of_pos whole]
  simp

private theorem last_ne_nil {before name : Text}
    (unfinished : endsWith (before ++ '/' :: name) ['/'] = false) :
    name ≠ [] := by
  rintro rfl
  have ends : endsWith (before ++ ['/']) ['/'] = true := Text.endsWith_singleton.mpr (by simp)
  exact Bool.false_ne_true (unfinished.symm.trans ends)

theorem getLast?_pathParts {p : Text} (nonempty : p ≠ []) (unfinished : endsWith p ['/'] = false) :
    (pathParts p).getLast? = some (baseName p) := by
  by_cases slash : '/' ∈ p
  · obtain ⟨before, name, rfl, bare⟩ := Text.exists_last_of_mem slash
    rw [pathParts_append_slash, pathParts_of_bare (last_ne_nil unfinished) bare,
      List.getLast?_concat, baseName_append_slash before bare]
  · rw [pathParts_of_bare nonempty slash, baseName_of_bare slash]
    rfl

theorem joinPath_append (base : Text) {p : Text} (relative : isAbsolute p = false) (nonempty : p ≠ [])
    (suffix : Text) : joinPath base p ++ suffix = joinPath base (p ++ suffix) := by
  have relative' : isAbsolute (p ++ suffix) = false :=
    (isAbsolute_of_beginning (List.prefix_append p suffix) nonempty).symm.trans relative
  unfold joinPath
  rw [relative, relative']
  simp only [Bool.false_eq_true, if_false]
  split <;> simp

theorem baseName_joinPath (base : Text) {p : Text} (relative : isAbsolute p = false)
    (nonempty : p ≠ []) (unfinished : endsWith p ['/'] = false) :
    baseName (joinPath base p) = baseName p := by
  obtain ⟨between, joined, -⟩ := exists_joinPath base relative
  have visible : joinPath base p ≠ [] := by simp [joined, nonempty]
  have unfinished' : endsWith (joinPath base p) ['/'] = false := by
    rw [joined, Text.endsWith_append_singleton nonempty, unfinished]
  have last := getLast?_pathParts visible unfinished'
  rw [pathParts_joinPath base relative, List.getLast?_append, getLast?_pathParts nonempty unfinished]
    at last
  exact (Option.some.inj last).symm

private theorem pathParts_strip (p : Text) :
    pathParts (p.reverse.dropWhile (· == '/')).reverse = pathParts p := by
  induction p using List.reverseRecOn with
  | nil => rfl
  | append_singleton p c ih =>
    rw [List.reverse_append, List.reverse_singleton, List.singleton_append, List.dropWhile_cons]
    split
    · rename_i slash
      obtain rfl : c = '/' := by simpa using slash
      rw [ih, pathParts_append_slash]
      simp [pathParts, splitAtEach]
    · simp

theorem parentPath_beginning (p : Text) : parentPath p <+: p := by
  unfold parentPath
  simp only
  split
  · exact List.take_prefix _ _
  · have stripped := List.dropWhile_suffix (· == '/')
      (l := (p.take (p.length - (baseName p).length)).reverse)
    have front := List.reverse_prefix.mpr stripped
    rw [List.reverse_reverse] at front
    exact front.trans (List.take_prefix _ _)

theorem pathParts_parentPath_append_slash (before : Text) {name : Text} (bare : '/' ∉ name) :
    parentPath (before ++ '/' :: name) ≠ [] ∧
      pathParts (parentPath (before ++ '/' :: name)) = pathParts before := by
  have head : (before ++ '/' :: name).take ((before ++ '/' :: name).length - name.length) =
      before ++ ['/'] := by
    rw [← List.singleton_append, ← List.append_assoc, List.length_append, Nat.add_sub_cancel,
      List.take_left]
  have closed : pathParts (before ++ ['/']) = pathParts before := by
    rw [pathParts_append_slash]
    simp [pathParts, splitAtEach]
  unfold parentPath
  rw [baseName_append_slash before bare, head]
  simp only
  split
  · exact ⟨by simp, closed⟩
  · rename_i visible
    refine ⟨by simpa using visible, ?_⟩
    rw [pathParts_strip, closed]

theorem pathParts_parentPath {p : Text} (absolute : isAbsolute p = true)
    (unfinished : endsWith p ['/'] = false) :
    parentPath p ≠ [] ∧ pathParts (parentPath p) = (pathParts p).dropLast := by
  obtain ⟨t, slash⟩ := isAbsolute_iff.mp absolute
  obtain ⟨before, name, rfl, bare⟩ := Text.exists_last_of_mem (slash ▸ List.mem_cons_self)
  rw [pathParts_append_slash, pathParts_of_bare (last_ne_nil unfinished) bare,
    List.dropLast_concat]
  exact pathParts_parentPath_append_slash before bare

/-! The paths that lead to a path. -/

private theorem mem_leadingPathsFrom {before t q : Text} (mem : q ∈ leadingPathsFrom before t) :
    q ≠ [] ∧ ∃ rest, before.reverse ++ t = q ++ '/' :: rest ∧ pathParts rest ≠ [] := by
  induction t generalizing before with
  | nil => simp [leadingPathsFrom] at mem
  | cons c t ih =>
    have later (mem : q ∈ leadingPathsFrom (c :: before) t) :
        q ≠ [] ∧ ∃ rest, before.reverse ++ c :: t = q ++ '/' :: rest ∧ pathParts rest ≠ [] := by
      simpa using ih mem
    unfold leadingPathsFrom at mem
    split at mem
    · rename_i leads
      rcases List.mem_cons.mp mem with rfl | mem
      · simp only [Bool.and_eq_true, beq_iff_eq] at leads
        obtain ⟨⟨rfl, named⟩, more⟩ := leads
        refine ⟨?_, t, rfl, pathParts_ne_nil_of_any more⟩
        rintro empty
        obtain rfl := List.reverse_eq_nil_iff.mp empty
        simp at named
      · exact later mem
    · exact later mem

theorem mem_leadingPaths {p q : Text} (mem : q ∈ leadingPaths p) :
    q ≠ [] ∧ ∃ rest, p = q ++ '/' :: rest ∧ pathParts rest ≠ [] :=
  mem_leadingPathsFrom mem

end Disk

end Redline
