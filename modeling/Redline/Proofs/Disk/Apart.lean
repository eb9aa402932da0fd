import Redline.Proofs.Disk.Shunned

set_option autoImplicit false
set_option relaxedAutoImplicit false

/-!
Disks that differ in a folder only. To a path that shuns the folder they are the same disk: it leads to
the same place on both, what is found or read there is the same, and writing, moving, removing and making
directories either fails alike or leaves disks that again differ in the folder only.
-/

namespace Redline.Disk

open Text.Utf8 (Bytes)

namespace Tree

structure AgreesOutside (folder : Place) (d d' : Tree) : Prop where
  here : d'.here = d.here
  node? : ∀ p, ¬ folder <:+ p → d'.node? p = d.node? p

namespace AgreesOutside

variable {folder base p q : Place} {name : Text} {d d' d'' : Tree}

theorem refl (folder : Place) (d : Tree) : AgreesOutside folder d d := ⟨rfl, fun _ _ => rfl⟩

theorem symm (agrees : AgreesOutside folder d d') : AgreesOutside folder d' d :=
  ⟨agrees.here.symm, fun p outside => (agrees.node? p outside).symm⟩

theorem trans (first : AgreesOutside folder d d') (second : AgreesOutside folder d' d'') :
    AgreesOutside folder d d'' :=
  ⟨second.here.trans first.here,
    fun p outside => (second.node? p outside).trans (first.node? p outside)⟩

private theorem set (agrees : AgreesOutside folder d d') (inside : p ≠ []) (n : Node) :
    AgreesOutside folder (d.set p n) (d'.set p n) := by
  refine ⟨agrees.here, fun q outside => ?_⟩
  rw [node?_set inside, node?_set inside, agrees.node? q outside]

private theorem erase (agrees : AgreesOutside folder d d') (inside : p ≠ []) :
    AgreesOutside folder (d.erase p) (d'.erase p) := by
  refine ⟨agrees.here, fun q outside => ?_⟩
  rw [node?_erase inside, node?_erase inside, agrees.node? q outside]

theorem set_of_below (inside : p ≠ []) (below : folder <:+ p) (n : Node) :
    AgreesOutside folder d (d.set p n) := by
  refine ⟨rfl, fun q outside => ?_⟩
  have other : q ≠ p := fun eq => outside (eq ▸ below)
  rw [node?_set inside, if_neg other]

/-! Walks. -/

private theorem enter (agrees : AgreesOutside folder d d') {part : Text}
    (outside : ¬ folder <:+ part :: p) :
    d'.enter p part = d.enter p part := by
  unfold Tree.enter
  rw [agrees.node? _ outside]

private theorem enterAll_of_avoids (agrees : AgreesOutside (name :: base) d d') {parts : List Text}
    (outside : ¬ name :: base <:+ p) (avoids : name ∉ parts) :
    d'.enterAll p parts = d.enterAll p parts := by
  induction parts generalizing p with
  | nil => rfl
  | cons part parts ih =>
    rw [List.mem_cons, not_or] at avoids
    have next := not_suffix_cons outside (Ne.symm avoids.1)
    unfold Tree.enterAll
    rw [agrees.enter next]
    cases entered : d.enter p part with
    | error e => rfl
    | ok q =>
      have single : d.enterAll p [part] = .ok q := by rw [enterAll_singleton, entered]
      have still : name ∉ [part] := by simpa using avoids.1
      exact ih (not_suffix_of_enterAll outside still single) avoids.2

private theorem enterAll (agrees : AgreesOutside (name :: base) d d') {front back : List Text}
    (short : p.length + front.length ≤ base.length) (avoids : name ∉ back) :
    d'.enterAll p (front ++ back) = d.enterAll p (front ++ back) := by
  induction front generalizing p with
  | nil => exact agrees.enterAll_of_avoids (not_suffix_of_length_le short) avoids
  | cons part front ih =>
    rw [List.length_cons] at short
    have outside : ¬ name :: base <:+ part :: p :=
      not_suffix_of_length_le (by rw [List.length_cons]; omega)
    rw [List.cons_append]
    unfold Tree.enterAll
    rw [agrees.enter outside]
    cases entered : d.enter p part with
    | error e => rfl
    | ok q =>
      have single : d.enterAll p [part] = .ok q := by rw [enterAll_singleton, entered]
      have depth := length_le_of_enterAll single
      rw [List.length_singleton] at depth
      exact ih (by omega)

private theorem enterAll_of_short (agrees : AgreesOutside (name :: base) d d') {parts : List Text}
    (short : parts.length ≤ base.length) : d'.enterAll [] parts = d.enterAll [] parts := by
  have start : ([] : Place).length + parts.length ≤ base.length := by rwa [List.length_nil, Nat.zero_add]
  have walk := agrees.enterAll start (List.not_mem_nil (a := name))
  rwa [List.append_nil] at walk

end AgreesOutside

/-- Whether operations end alike, on disks that differ in a folder only. -/
structure EndsAlike (folder : Place) (x y : Except Failure Unit × Tree) : Prop where
  result : x.1 = y.1
  disk : AgreesOutside folder x.2 y.2

end Tree

open Disk.Tree (AgreesOutside EndsAlike)

namespace Shuns

variable {base : Place} {name path : Text} {d d' : Tree}

/-! Looking. -/

private theorem target_eq (shuns : Shuns base name path) (agrees : AgreesOutside (name :: base) d d') :
    d'.target path = d.target path := by
  obtain ⟨front, back, parts, way, avoids⟩ := shuns.parts
  have short : front.length ≤ base.length := by simpa using way.length_le
  have walk : d'.enterAll [] (pathParts path).dropLast = d.enterAll [] (pathParts path).dropLast := by
    rw [parts]
    rcases List.eq_nil_or_concat back with rfl | ⟨back, last, rfl⟩
    · rw [List.append_nil]
      refine agrees.enterAll_of_short (Nat.le_trans ?_ short)
      rw [List.length_dropLast]
      exact Nat.sub_le _ 1
    · rw [List.concat_eq_append, List.mem_append, not_or] at avoids
      rw [List.concat_eq_append, ← List.append_assoc, List.dropLast_concat]
      exact agrees.enterAll (by rwa [List.length_nil, Nat.zero_add]) avoids.1
  unfold Tree.target
  simp only [shuns.absolute, if_true, walk]

private theorem node?_eq (shuns : Shuns base name path) (agrees : AgreesOutside (name :: base) d d')
    {parent : Place} {last : Text} {slash : Bool}
    (led : d.target path = .ok (.named parent last slash)) :
    d'.node? (last :: parent) = d.node? (last :: parent) :=
  agrees.node? _ (shuns.not_suffix led)

private theorem find?_eq (shuns : Shuns base name path) (agrees : AgreesOutside (name :: base) d d') :
    d'.find? path = d.find? path := by
  unfold Tree.find?
  rw [shuns.target_eq agrees]
  cases led : d.target path with
  | error e => rfl
  | ok t =>
    cases t with
    | itself p => rfl
    | named parent last slash => simp only [shuns.node?_eq agrees led]

theorem isFile_eq (shuns : Shuns base name path) (agrees : AgreesOutside (name :: base) d d') :
    d'.isFile path = d.isFile path := by
  rw [Tree.isFile, Tree.isFile, shuns.find?_eq agrees]

private theorem exists?_eq (shuns : Shuns base name path) (agrees : AgreesOutside (name :: base) d d') :
    d'.exists? path = d.exists? path := by
  rw [Tree.exists?, Tree.exists?, shuns.find?_eq agrees]

private theorem passesOver_eq (shuns : Shuns base name path) (agrees : AgreesOutside (name :: base) d d')
    (e : Failure) : d'.passesOver path e = d.passesOver path e := by
  unfold Tree.passesOver Tree.isDirectory
  rw [shuns.find?_eq agrees]

private theorem atTarget_eq (shuns : Shuns base name path) (agrees : AgreesOutside (name :: base) d d')
    {α : Type} {look look' : Target → Except Problem α}
    (same : ∀ t, d.target path = .ok t → look' t = look t) :
    d'.atTarget path look' = d.atTarget path look := by
  unfold Tree.atTarget
  rw [shuns.target_eq agrees]
  cases led : d.target path with
  | error e => rfl
  | ok t => simp only [same t led]

theorem readFile_eq (shuns : Shuns base name path) (agrees : AgreesOutside (name :: base) d d') :
    d'.readFile path = d.readFile path := by
  refine shuns.atTarget_eq agrees fun t led => ?_
  cases t with
  | itself p => rfl
  | named parent last slash => simp only [shuns.node?_eq agrees led]

/-! Changing. -/

theorem writeFile_agrees (shuns : Shuns base name path) (agrees : AgreesOutside (name :: base) d d')
    (content : Bytes) :
    Concur (AgreesOutside (name :: base)) (d.writeFile path content) (d'.writeFile path content) := by
  have look : d'.atTarget path d'.writable = d.atTarget path d.writable := by
    refine shuns.atTarget_eq agrees fun t led => ?_
    cases t with
    | itself p => rfl
    | named parent last slash => simp only [Tree.writable, shuns.node?_eq agrees led]
  unfold Tree.writeFile
  rw [look]
  cases found : d.atTarget path d.writable with
  | error e => exact .error e
  | ok w =>
    obtain ⟨-, t, -, writable⟩ := Tree.atTarget_eq_ok_iff.mp found
    obtain ⟨parent, last, -, place, -⟩ := Tree.writable_eq_ok writable
    exact .ok (agrees.set (place ▸ List.cons_ne_nil last parent) _)

private theorem atTarget_agrees (shuns : Shuns base name path) (agrees : AgreesOutside (name :: base) d d')
    {look look' : Target → Except Problem Tree}
    (alike : ∀ t, d.target path = .ok t → Concur (AgreesOutside (name :: base)) (look t) (look' t)) :
    Concur (AgreesOutside (name :: base)) (d.atTarget path look) (d'.atTarget path look') := by
  unfold Tree.atTarget
  rw [shuns.target_eq agrees]
  split
  · exact .error _
  · cases led : d.target path with
    | error e => exact .error _
    | ok t => exact (alike t led).mapError _

private theorem makeDirectory_agrees (shuns : Shuns base name path)
    (agrees : AgreesOutside (name :: base) d d') :
    Concur (AgreesOutside (name :: base)) (d.makeDirectory path) (d'.makeDirectory path) := by
  refine shuns.atTarget_agrees agrees fun t led => ?_
  cases t with
  | itself p => exact .error _
  | named parent last slash =>
    simp only [shuns.node?_eq agrees led]
    cases d.node? (last :: parent) with
    | some n => exact .error _
    | none => exact .ok (agrees.set (List.cons_ne_nil last parent) .directory)

theorem removeFile_agrees (shuns : Shuns base name path)
    (agrees : AgreesOutside (name :: base) d d') :
    Concur (AgreesOutside (name :: base)) (d.removeFile path) (d'.removeFile path) := by
  refine shuns.atTarget_agrees agrees fun t led => ?_
  cases t with
  | itself p => exact .error _
  | named parent last slash =>
    simp only [shuns.node?_eq agrees led]
    cases d.node? (last :: parent) with
    | none => exact .error _
    | some n =>
      cases n with
      | directory => exact .error _
      | file content =>
        cases slash with
        | true => exact .error _
        | false => exact .ok (agrees.erase (List.cons_ne_nil last parent))

theorem moveFile_agrees {target : Text} (shuns : Shuns base name path)
    (shunsTarget : Shuns base name target) (agrees : AgreesOutside (name :: base) d d') :
    Concur (AgreesOutside (name :: base)) (d.moveFile path target) (d'.moveFile path target) := by
  have between : ∀ s t, d.target path = .ok s → d.target target = .ok t →
      Concur (AgreesOutside (name :: base)) (d.moveBetween s t) (d'.moveBetween s t) := by
    intro s t led ledTarget
    cases s with
    | itself p => exact .error _
    | named parent last slash =>
      cases t with
      | itself p => exact .error _
      | named parent' last' slash' =>
        simp only [Tree.moveBetween, shuns.node?_eq agrees led,
          shunsTarget.node?_eq agrees ledTarget]
        cases d.node? (last :: parent) with
        | none => exact .error _
        | some n =>
          cases n with
          | directory => exact .error _
          | file content =>
            simp only
            split
            · exact .error _
            · split
              · exact .error _
              · exact .ok ((agrees.erase (List.cons_ne_nil last parent)).set
                  (List.cons_ne_nil last' parent') (.file content))
  unfold Tree.moveFile
  rw [shuns.target_eq agrees, shunsTarget.target_eq agrees]
  split
  · exact .error _
  · cases led : d.target path with
    | error e => exact .error _
    | ok s =>
      cases ledTarget : d.target target with
      | error e => exact .error _
      | ok t => exact (between s t led ledTarget).mapError _

/-! Making directories. -/

private theorem makeLeading_agrees {paths : List Text} (shun : ∀ q ∈ paths, Shuns base name q)
    (agrees : AgreesOutside (name :: base) d d') :
    EndsAlike (name :: base) (d.makeLeading paths) (d'.makeLeading paths) := by
  induction paths generalizing d d' with
  | nil => exact ⟨rfl, agrees⟩
  | cons q paths ih =>
    obtain ⟨first, others⟩ := List.forall_mem_cons.mp shun
    have made := first.makeDirectory_agrees agrees
    have passes := first.passesOver_eq agrees
    unfold Tree.makeLeading
    generalize d.makeDirectory q = x, d'.makeDirectory q = y at made
    cases made with
    | ok next => exact ih others next
    | error e =>
      simp only [passes]
      split
      · exact ih others agrees
      · exact ⟨rfl, agrees⟩

private theorem makeLast_agrees (shuns : Shuns base name path)
    (agrees : AgreesOutside (name :: base) d d') :
    EndsAlike (name :: base) (d.makeLast path) (d'.makeLast path) := by
  have made := shuns.makeDirectory_agrees agrees
  have passes := shuns.passesOver_eq agrees
  unfold Tree.makeLast
  generalize d.makeDirectory path = x, d'.makeDirectory path = y at made
  cases made with
  | ok next => exact ⟨rfl, next⟩
  | error e =>
    simp only [passes]
    split
    · exact ⟨rfl, agrees⟩
    · exact ⟨rfl, agrees⟩

private theorem unmade_eq {paths : List Text} (shun : ∀ q ∈ paths, Shuns base name q)
    (agrees : AgreesOutside (name :: base) d d') : d'.unmade paths = d.unmade paths := by
  induction paths with
  | nil => rfl
  | cons q paths ih =>
    obtain ⟨first, others⟩ := List.forall_mem_cons.mp shun
    have later : paths.any d'.exists? = paths.any d.exists? := by
      rw [Bool.eq_iff_iff, List.any_eq_true, List.any_eq_true]
      exact exists_congr fun r => and_congr_right fun mem => by rw [(others r mem).exists?_eq agrees]
    unfold Tree.unmade
    rw [later, first.exists?_eq agrees, ih others]

theorem makeDirectories_agrees (shuns : Shuns base name path) (room : Nat)
    (agrees : AgreesOutside (name :: base) d d') :
    EndsAlike (name :: base) (d.makeDirectories room path) (d'.makeDirectories room path) := by
  have leading : ∀ q ∈ leadingPaths path, Shuns base name q := fun q => shuns.of_mem_leadingPaths
  unfold Tree.makeDirectories
  rw [unmade_eq leading agrees]
  have shun : ∀ q ∈ (d.unmade (leadingPaths path)).take 1 ++
      ((d.unmade (leadingPaths path)).drop 1).filter (!Tree.endsInDot ·), Shuns base name q :=
    fun q mem => leading q (Tree.mem_of_mem_attempted mem)
  have made := makeLeading_agrees shun agrees
  simp only
  split
  · exact ⟨rfl, agrees⟩
  generalize d.makeLeading _ = x, d'.makeLeading _ = y at made
  obtain ⟨result, d⟩ := x
  obtain ⟨result', d'⟩ := y
  obtain ⟨rfl, next⟩ := made
  cases result with
  | error e => exact ⟨rfl, next⟩
  | ok _ =>
    simp only
    split
    · exact ⟨rfl, next⟩
    · exact shuns.makeLast_agrees next

end Shuns

end Redline.Disk
