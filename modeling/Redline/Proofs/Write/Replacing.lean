import Redline.Proofs.Disk.Walks
import Redline.Proofs.Write.Storing

set_option autoImplicit false
set_option relaxedAutoImplicit false

/-!
Saving a file that is there. Its directory need not be made and nothing is in the way of the move, so all
depends on whether the place beside it can be named and is free; if it cannot be named, nothing changes.
-/

namespace Redline

namespace Disk.Tree

variable {d : Tree}

theorem writeFile_of_free {path name : Text} {parent : Place} (clean : holdsNull path = false)
    (led : d.target path = .ok (.named parent name false)) (free : d.node? (name :: parent) = none)
    (content : Text.Utf8.Bytes) :
    d.writeFile path content = .ok (d.set (name :: parent) (.file content)) := by
  simp [writeFile, atTarget, clean, led, writable, free, Except.map]

theorem moveFile_of_file {source target name name' : Text} {parent parent' : Place}
    {content : Text.Utf8.Bytes} (cleanSource : holdsNull source = false)
    (cleanTarget : holdsNull target = false)
    (ledSource : d.target source = .ok (.named parent name false))
    (ledTarget : d.target target = .ok (.named parent' name' false))
    (file : d.node? (name :: parent) = some (.file content))
    (free : d.node? (name' :: parent') ≠ some .directory) :
    d.moveFile source target =
      .ok ((d.erase (name :: parent)).set (name' :: parent') (.file content)) := by
  unfold moveFile
  simp [cleanSource, cleanTarget, ledSource, ledTarget, moveBetween, file, free, bind, Except.bind]

end Disk.Tree

namespace Write

open Disk (Tree Place Fits isAbsolute)

variable {d : Tree} {path : Text} {p : Place}

theorem holdsNull_beside (placed : d.place? path = some p) :
    Disk.holdsNull (path ++ besideSuffix) = false := by
  rw [Disk.holdsNull_append, (Tree.place?_eq_some_iff.mp placed).1]
  rfl

theorem target_beside (placed : d.place? path = some p) (fits : Fits (path ++ besideSuffix)) :
    ∃ parent name, p.lengthen besideSuffix = name :: parent ∧
      d.target (path ++ besideSuffix) = .ok (.named parent name false) :=
  (Tree.target_append (by decide) (by decide) placed).1 fits

private theorem target_beside_of_not_fits (placed : d.place? path = some p)
    (unfit : ¬ Fits (path ++ besideSuffix)) : d.target (path ++ besideSuffix) = .error .longName :=
  (Tree.target_append (by decide) (by decide) placed).2 unfit

private theorem settle_of_fits (placed : d.place? path = some p) (file : d.fileAt p ≠ none)
    (fits : Fits (path ++ besideSuffix)) (free : d.node? (p.lengthen besideSuffix) = none)
    (content : Text.Utf8.Bytes) :
    ∃ d', settle d (path ++ besideSuffix) path content = (.ok (), d') := by
  have clean := holdsNull_beside placed
  obtain ⟨parent, name, lengthened, led⟩ := target_beside placed fits
  have inside : p ≠ [] := Tree.place_ne_nil placed
  have apart : p ≠ p.lengthen besideSuffix := (Place.lengthen_ne_self (by decide) inside).symm
  rw [lengthened] at free apart
  have wrote := Tree.writeFile_of_free clean led free content
  have grows : d.Grows (d.set (name :: parent) (.file content)) :=
    .set_file (List.cons_ne_nil name parent) (by simp [free]) content
  obtain ⟨cleanPath, parent', name', ledPath, rfl⟩ := Tree.place?_eq_some_iff.mp placed
  have written : (d.set (name :: parent) (.file content)).node? (name :: parent) =
      some (.file content) := by
    simp [Tree.node?_set]
  have notDirectory : (d.set (name :: parent) (.file content)).node? (name' :: parent') ≠
      some .directory := by
    rw [Tree.node?_set (List.cons_ne_nil name parent), if_neg apart]
    intro directory
    simp [Tree.fileAt, directory] at file
  have moved := Tree.moveFile_of_file clean cleanPath (grows.target led) (grows.target ledPath) written
    notDirectory
  simp only [settle, wrote, moved]
  exact ⟨_, rfl⟩

private theorem settle_of_not_fits (placed : d.place? path = some p) (unfit : ¬ Fits (path ++ besideSuffix))
    (content : Text.Utf8.Bytes) :
    settle d (path ++ besideSuffix) path content =
        (.error (.system .longName (path ++ besideSuffix)), d) ∧
      discard d (path ++ besideSuffix) = d := by
  have clean := holdsNull_beside placed
  have led := target_beside_of_not_fits placed unfit
  constructor
  · simp [settle, Tree.writeFile, Tree.atTarget, clean, led, Except.map]
  · simp [discard, Tree.removeFile, Tree.atTarget, clean, led]

namespace Store

variable {s : Store} {text : Text}

private theorem makeDirectories_parentPath (absolute : isAbsolute (s.resolve path) = true)
    (placed : d.place? (s.resolve path) = some p) :
    d.makeDirectories s.room (Disk.parentPath (s.resolve path)) = (.ok (), d) := by
  obtain ⟨clean, parent, name, led, rfl⟩ := Tree.place?_eq_some_iff.mp placed
  obtain ⟨-, -, walked, closed⟩ := Tree.target_eq_named led
  obtain ⟨visible, parts⟩ := Disk.pathParts_parentPath absolute closed.symm
  have front := Disk.parentPath_beginning (s.resolve path)
  have small := Nat.lt_of_le_of_lt (Text.Utf8.size_le_of_beginning front) (Tree.size_lt_of_target led)
  rw [← parts, ← Disk.isAbsolute_of_beginning front visible] at walked
  exact Tree.makeDirectories_of_enterAll s.room visible small
    (Disk.holdsNull_of_beginning front clean) walked

theorem write_of_fits (absolute : isAbsolute (s.resolve path) = true)
    (placed : d.place? (s.resolve path) = some p) (file : d.fileAt p ≠ none)
    (fits : Fits (s.beside path)) (free : d.node? (p.lengthen besideSuffix) = none) :
    ∃ d', s.write d path text = (.ok (), d') := by
  obtain ⟨d', settled⟩ := settle_of_fits placed file fits free (Text.Utf8.encode text)
  have beside : settle d (s.beside path) (s.resolve path) (Text.Utf8.encode text) = (.ok (), d') :=
    settled
  refine ⟨d', ?_⟩
  rw [write, makeDirectories_parentPath absolute placed]
  simp only [writeBeside, beside]

theorem write_of_not_fits (absolute : isAbsolute (s.resolve path) = true)
    (placed : d.place? (s.resolve path) = some p) (unfit : ¬ Fits (s.beside path)) :
    s.write d path text = (.error (.system .longName (s.beside path)), d) := by
  obtain ⟨settled, kept⟩ := settle_of_not_fits placed unfit (Text.Utf8.encode text)
  have beside : settle d (s.beside path) (s.resolve path) (Text.Utf8.encode text) =
      (.error (.system .longName (s.beside path)), d) := settled
  have discarded : discard d (s.beside path) = d := kept
  rw [write, makeDirectories_parentPath absolute placed]
  simp only [writeBeside, beside, discarded, ite_self]

end Store

end Write

end Redline
