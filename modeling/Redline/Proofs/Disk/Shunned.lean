import Redline.Proofs.Disk.Walks

set_option autoImplicit false
set_option relaxedAutoImplicit false

/-!
Folders that are shunned. An absolute path that goes first along the way to a place and then on without
the name of a folder in that place leads neither to the folder nor into it, wherever `..` takes it, and
neither do the paths that lead to it. Directories made for such a path, and files at it, leave the folder
alone.
-/

namespace Redline.Disk

namespace Tree

variable {d d' d'' : Tree} {p q folder : Place} {path : Text}

def KeepsBelow (folder : Place) (d d' : Tree) : Prop :=
  ∀ p, folder <:+ p → d'.node? p = d.node? p

namespace KeepsBelow

theorem refl (folder : Place) (d : Tree) : KeepsBelow folder d d := fun _ _ => rfl

theorem trans (first : KeepsBelow folder d d') (second : KeepsBelow folder d' d'') :
    KeepsBelow folder d d'' :=
  fun p below => (second p below).trans (first p below)

private theorem set (inside : p ≠ []) (outside : ¬ folder <:+ p) (n : Node) :
    KeepsBelow folder d (d.set p n) := by
  intro q below
  have other : q ≠ p := fun eq => outside (eq ▸ below)
  rw [node?_set inside, if_neg other]

private theorem erase (inside : p ≠ []) (outside : ¬ folder <:+ p) : KeepsBelow folder d (d.erase p) := by
  intro q below
  have other : q ≠ p := fun eq => outside (eq ▸ below)
  rw [node?_erase inside, if_neg other]

end KeepsBelow

/-! Walks that do not enter a folder. -/

theorem length_le_of_enterAll {parts : List Text} (walked : d.enterAll p parts = .ok q) :
    q.length ≤ p.length + parts.length := by
  induction parts generalizing p with
  | nil =>
    obtain rfl := Except.ok.inj walked
    exact Nat.le_refl _
  | cons part parts ih =>
    unfold enterAll at walked
    split at walked
    · simp at walked
    · rename_i first entered
      have rest := ih walked
      have step : first.length ≤ p.length + 1 := by
        rcases enter_eq_ok entered with ⟨-, rfl⟩ | ⟨-, rfl⟩ | ⟨-, -, -, -, rfl⟩
        · omega
        · rw [List.length_tail]
          omega
        · rw [List.length_cons]
      rw [List.length_cons]
      omega

theorem not_suffix_of_length_le {name : Text} {base : Place} (short : p.length ≤ base.length) :
    ¬ name :: base <:+ p := by
  intro below
  have most := below.length_le
  rw [List.length_cons] at most
  omega

theorem not_suffix_cons {name part : Text} {base : Place} (outside : ¬ name :: base <:+ p)
    (other : part ≠ name) : ¬ name :: base <:+ part :: p := by
  intro below
  rcases List.suffix_cons_iff.mp below with here | above
  · exact other (List.cons.inj here).1.symm
  · exact outside above

theorem not_suffix_of_enterAll {name : Text} {base : Place} {parts : List Text}
    (outside : ¬ name :: base <:+ p) (avoids : name ∉ parts)
    (walked : d.enterAll p parts = .ok q) : ¬ name :: base <:+ q := by
  induction parts generalizing p with
  | nil =>
    obtain rfl := Except.ok.inj walked
    exact outside
  | cons part parts ih =>
    rw [List.mem_cons, not_or] at avoids
    unfold enterAll at walked
    split at walked
    · simp at walked
    · rename_i first entered
      refine ih ?_ avoids.2 walked
      rcases enter_eq_ok entered with ⟨-, rfl⟩ | ⟨-, rfl⟩ | ⟨-, -, -, -, rfl⟩
      · exact outside
      · exact fun below => outside (below.trans (List.tail_suffix p))
      · exact not_suffix_cons outside (Ne.symm avoids.1)

end Tree

/-- Whether an absolute path begins with part of the way to a place and does not name a folder there. -/
structure Shuns (base : Place) (name path : Text) : Prop where
  absolute : isAbsolute path = true
  parts : ∃ front back, pathParts path = front ++ back ∧ front <+: base.reverse ∧ name ∉ back

namespace Shuns

variable {base : Place} {name path : Text} {d d' : Tree}

theorem not_suffix (shuns : Shuns base name path) {parent : Place} {last : Text} {slash : Bool}
    (led : d.target path = .ok (.named parent last slash)) : ¬ name :: base <:+ last :: parent := by
  obtain ⟨front, back, parts, way, avoids⟩ := shuns.parts
  obtain ⟨-, lastPart, walked, -⟩ := Tree.target_eq_named led
  rw [shuns.absolute, if_pos rfl] at walked
  have shortFront : front.length ≤ base.length := by simpa using way.length_le
  rcases List.eq_nil_or_concat back with rfl | ⟨back, end', rfl⟩
  · -- The path ends on the way to the place, which is not as deep as the folder.
    rw [List.append_nil] at parts
    have depth := Tree.length_le_of_enterAll walked
    have some : pathParts path ≠ [] := by
      intro none
      simp [none] at lastPart
    have positive := List.length_pos_iff.mpr some
    rw [List.length_dropLast, parts, List.length_nil] at depth
    rw [parts] at positive
    refine Tree.not_suffix_of_length_le ?_
    rw [List.length_cons]
    omega
  · rw [List.concat_eq_append, ← List.append_assoc] at parts
    rw [parts, List.getLast?_concat] at lastPart
    rw [parts, List.dropLast_concat] at walked
    obtain ⟨between, before, after⟩ := Tree.enterAll_append_eq_ok walked
    rw [List.concat_eq_append, List.mem_append, not_or, List.mem_singleton] at avoids
    obtain rfl := Option.some.inj lastPart
    have depth := Tree.length_le_of_enterAll before
    rw [List.length_nil] at depth
    have near : between.length ≤ base.length := by omega
    have outside := Tree.not_suffix_of_enterAll (Tree.not_suffix_of_length_le near) avoids.1 after
    exact Tree.not_suffix_cons outside (Ne.symm avoids.2)

private theorem not_suffix_place (shuns : Shuns base name path) {p : Place}
    (placed : d.place? path = some p) : ¬ name :: base <:+ p := by
  obtain ⟨-, parent, last, led, rfl⟩ := Tree.place?_eq_some_iff.mp placed
  exact shuns.not_suffix led

private theorem of_spells {root : Text} (spells : Spells base root) : Shuns base name root :=
  ⟨spells.absolute, base.reverse, [], by rw [spells.parts, List.append_nil], List.prefix_refl _,
    List.not_mem_nil⟩

theorem joinPath {root : Text} (shuns : Shuns base name root) (avoids : name ∉ pathParts path) :
    Shuns base name (joinPath root path) := by
  cases absolute : isAbsolute path with
  | true =>
    have alone : Disk.joinPath root path = path := by simp [Disk.joinPath, absolute]
    rw [alone]
    exact ⟨absolute, [], pathParts path, rfl, List.nil_prefix, avoids⟩
  | false =>
    obtain ⟨front, back, parts, way, shunned⟩ := shuns.parts
    refine ⟨isAbsolute_joinPath absolute shuns.absolute, front, back ++ pathParts path, ?_, way, ?_⟩
    · rw [pathParts_joinPath root absolute, parts, List.append_assoc]
    · rw [List.mem_append, not_or]
      exact ⟨shunned, avoids⟩

theorem of_joinPath {root : Text} (spells : Spells base root) (avoids : name ∉ pathParts path) :
    Shuns base name (Disk.joinPath root path) :=
  (of_spells spells).joinPath avoids

/-! Paths made from one that shuns a folder. -/

private theorem of_parts_prefix (shuns : Shuns base name path) {q : Text} (absolute : isAbsolute q = true)
    (front : pathParts q <+: pathParts path) : Shuns base name q := by
  obtain ⟨begins, back, parts, way, avoids⟩ := shuns.parts
  obtain ⟨rest, split⟩ := front
  refine ⟨absolute, ?_⟩
  rcases List.append_eq_append_iff.mp (split.trans parts) with ⟨more, eq, -⟩ | ⟨more, eq, rfl⟩
  · refine ⟨pathParts q, [], by simp, ?_, List.not_mem_nil⟩
    exact (List.prefix_append _ more).trans (eq ▸ way)
  · exact ⟨begins, more, eq, way, fun mem => avoids (List.mem_append_left _ mem)⟩

theorem of_mem_leadingPaths (shuns : Shuns base name path) {q : Text} (mem : q ∈ leadingPaths path) :
    Shuns base name q := by
  obtain ⟨visible, rest, split, -⟩ := mem_leadingPaths mem
  have front : q <+: path := ⟨'/' :: rest, split.symm⟩
  refine shuns.of_parts_prefix ((isAbsolute_of_beginning front visible).trans shuns.absolute) ?_
  rw [split, pathParts_append_slash]
  exact List.prefix_append _ _

theorem parentPath (shuns : Shuns base name path) : Shuns base name (parentPath path) := by
  obtain ⟨t, slash⟩ := isAbsolute_iff.mp shuns.absolute
  obtain ⟨before, last, rfl, bare⟩ := Text.exists_last_of_mem (slash ▸ List.mem_cons_self)
  obtain ⟨visible, parts⟩ := pathParts_parentPath_append_slash before bare
  have front := parentPath_beginning (before ++ '/' :: last)
  refine shuns.of_parts_prefix ((isAbsolute_of_beginning front visible).trans shuns.absolute) ?_
  rw [parts, pathParts_append_slash]
  exact List.prefix_append _ _

theorem append (shuns : Shuns base name path) {suffix : Text} (bare : '/' ∉ suffix)
    (visible : suffix ≠ []) (other : ¬ suffix <:+ name) : Shuns base name (path ++ suffix) := by
  obtain ⟨front, back, parts, way, avoids⟩ := shuns.parts
  have nonempty : path ≠ [] := by
    obtain ⟨t, rfl⟩ := isAbsolute_iff.mp shuns.absolute
    exact List.cons_ne_nil '/' t
  have absolute : isAbsolute (path ++ suffix) = true :=
    (isAbsolute_of_beginning (List.prefix_append path suffix) nonempty).symm.trans shuns.absolute
  have longer (last : Text) : name ≠ last ++ suffix := fun eq => other ⟨last, eq.symm⟩
  refine ⟨absolute, ?_⟩
  cases closed : Text.endsWith path ['/'] with
  | true =>
    obtain ⟨before, rfl⟩ := List.getLast?_eq_some_iff.mp (Text.endsWith_singleton.mp closed)
    have same : pathParts (before ++ ['/'] ++ suffix) = pathParts (before ++ ['/']) ++ [suffix] := by
      rw [List.append_assoc, List.singleton_append, pathParts_append_slash, pathParts_append_slash,
        pathParts_of_bare visible bare]
      simp [pathParts, Text.splitAtEach]
    refine ⟨front, back ++ [suffix], by rw [same, parts, List.append_assoc], way, ?_⟩
    rw [List.mem_append, not_or, List.mem_singleton]
    exact ⟨avoids, longer []⟩
  | false =>
    obtain ⟨before, last, short, long⟩ := exists_pathParts_append bare nonempty closed
    rcases List.eq_nil_or_concat back with rfl | ⟨back, end', rfl⟩
    · rw [List.append_nil, short] at parts
      refine ⟨before, [last ++ suffix], long, ?_, by simpa using longer last⟩
      exact (List.prefix_append before [last]).trans (parts ▸ way)
    · rw [List.concat_eq_append, ← List.append_assoc, short] at parts
      obtain ⟨rfl, -⟩ := List.append_inj' parts rfl
      rw [List.concat_eq_append, List.mem_append, not_or] at avoids
      refine ⟨front, back ++ [last ++ suffix], by rw [long, List.append_assoc], way, ?_⟩
      rw [List.mem_append, not_or, List.mem_singleton]
      exact ⟨avoids.1, longer last⟩

/-! Directories. -/

private theorem makeDirectory (shuns : Shuns base name path) (made : d.makeDirectory path = .ok d') :
    Tree.KeepsBelow (name :: base) d d' := by
  obtain ⟨parent, last, slash, led, -, rfl⟩ := Tree.makeDirectory_eq_ok made
  exact .set (List.cons_ne_nil last parent) (shuns.not_suffix led) .directory

theorem makeDirectories (shuns : Shuns base name path) (room : Nat) :
    Tree.KeepsBelow (name :: base) d (d.makeDirectories room path).2 := by
  refine Tree.makeDirectories_keeps (P := Tree.KeepsBelow (name :: base) d) ?_ (.refl _ d)
  intro q made e e' soFar makes
  have shunned : Shuns base name q := by
    rcases made with rfl | mem
    · exact shuns
    · exact shuns.of_mem_leadingPaths mem
  exact soFar.trans (shunned.makeDirectory makes)

/-! Files. -/

theorem writeFile (shuns : Shuns base name path) {b : Text.Utf8.Bytes}
    (wrote : d.writeFile path b = .ok d') : Tree.KeepsBelow (name :: base) d d' := by
  obtain ⟨p, placed, -, rfl⟩ := Tree.writeFile_eq_ok wrote
  exact .set (Tree.place_ne_nil placed) (shuns.not_suffix_place placed) (.file b)

theorem moveFile {target : Text} (shuns : Shuns base name path) (shunsTarget : Shuns base name target)
    (moved : d.moveFile path target = .ok d') : Tree.KeepsBelow (name :: base) d d' := by
  obtain ⟨p, q, b, placed, placedTarget, -, -, rfl⟩ := Tree.moveFile_eq_ok moved
  have erased : Tree.KeepsBelow (name :: base) d (d.erase p) :=
    .erase (Tree.place_ne_nil placed) (shuns.not_suffix_place placed)
  exact erased.trans (.set (Tree.place_ne_nil placedTarget)
    (shunsTarget.not_suffix_place placedTarget) (.file b))

theorem removeFile (shuns : Shuns base name path) (removed : d.removeFile path = .ok d') :
    Tree.KeepsBelow (name :: base) d d' := by
  obtain ⟨p, b, placed, -, rfl⟩ := Tree.removeFile_eq_ok_iff.mp removed
  exact .erase (Tree.place_ne_nil placed) (shuns.not_suffix_place placed)

end Shuns

end Redline.Disk
