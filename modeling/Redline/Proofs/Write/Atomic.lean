import Redline.Proofs.Disk.Walks
import Redline.Proofs.Text.Utf8
import Redline.Proofs.Write.Storing

set_option autoImplicit false
set_option relaxedAutoImplicit false

/-!
A write is done or not done. What is written beside a file is either moved to its place or removed
again, wherever the write stops, so no reader finds half of a text. Directories that were made on the way
stay; a path that goes up again through one of them may lead, from then on, to a file that was there all
along.
-/

namespace Redline.Write

open Disk (Tree Place)
open Text.Utf8 (Bytes)

variable {d d' : Tree} {path : Text}

/-- Whether a disk has what it had, except perhaps for the file to which a path leads. -/
structure LosesOnly (d d' : Tree) (path : Text) : Prop where
  grows : d.Grows d'
  fileAt : ∀ p, d'.fileAt p = d.fileAt p ∨ d'.place? path = some p ∧ d'.fileAt p = none

private theorem LosesOnly.refl (d : Tree) (path : Text) : LosesOnly d d path :=
  ⟨.refl d, fun _ => .inl rfl⟩

private theorem losesOnly_erase {p : Place} (placed : d.place? path = some p)
    (free : d.node? p ≠ some .directory) (content : Bytes) :
    LosesOnly d ((d.set p (.file content)).erase p) path := by
  have inside : p ≠ [] := Tree.place_ne_nil placed
  have written : d.Grows (d.set p (.file content)) := .set_file inside free content
  have erased : (d.set p (.file content)).Grows ((d.set p (.file content)).erase p) :=
    .erase inside (by simp [Tree.node?_set inside])
  refine ⟨written.trans erased, fun q => ?_⟩
  rw [Tree.fileAt_erase inside]
  by_cases here : q = p
  · rw [if_pos here, here]
    exact .inr ⟨(written.trans erased).place? placed, rfl⟩
  · rw [if_neg here, Tree.fileAt_set_file inside, if_neg here]
    exact .inl rfl

private theorem discard_of_file {p : Place} {content : Bytes} (placed : d.place? path = some p)
    (file : d.fileAt p = some content) : discard d path = d.erase p := by
  have removed : d.removeFile path = .ok (d.erase p) :=
    Tree.removeFile_eq_ok_iff.mpr ⟨p, content, placed, file, rfl⟩
  rw [discard, removed]

private theorem discard_losesOnly (d : Tree) (path : Text) : LosesOnly d (discard d path) path := by
  unfold discard
  split
  · exact .refl d path
  · rename_i removed remove
    obtain ⟨p, content, placed, file, rfl⟩ := Tree.removeFile_eq_ok_iff.mp remove
    have inside : p ≠ [] := Tree.place_ne_nil placed
    have free : d.node? p ≠ some .directory := by
      intro directory
      simp [Tree.fileAt, directory] at file
    have grows : d.Grows (d.erase p) := .erase inside free
    refine ⟨grows, fun q => ?_⟩
    rw [Tree.fileAt_erase inside]
    by_cases here : q = p
    · rw [if_pos here, here]
      exact .inr ⟨grows.place? placed, rfl⟩
    · rw [if_neg here]
      exact .inl rfl

private theorem isSystem_of_moveFile {source target : Text} {e : Disk.Failure}
    (cleanSource : Disk.holdsNull source = false) (cleanTarget : Disk.holdsNull target = false)
    (failed : d.moveFile source target = .error e) : e.isSystem = true := by
  unfold Tree.moveFile at failed
  rw [cleanSource, cleanTarget] at failed
  simp only [Bool.or_self, Bool.false_eq_true, if_false] at failed
  obtain ⟨problem, -, rfl⟩ := mapError_eq_error_iff.mp failed
  rfl

namespace Store

variable {s : Store} {content : Text} {e : Disk.Failure}

private theorem losesOnly_of_writeBeside (failed : s.writeBeside d path content = (.error e, d')) :
    LosesOnly d d' (s.beside path) := by
  unfold writeBeside settle at failed
  cases wrote : d.writeFile (s.beside path) (Text.Utf8.encode content) with
  | error e' =>
    -- Nothing has been written. What is removed now, if anything, was beside the file before.
    simp only [wrote] at failed
    obtain rfl := (Prod.mk.inj failed).2
    split
    · exact discard_losesOnly d (s.beside path)
    · exact .refl d _
  | ok written =>
    obtain ⟨u, placed, free, rfl⟩ := Tree.writeFile_eq_ok wrote
    have inside : u ≠ [] := Tree.place_ne_nil placed
    simp only [wrote] at failed
    cases moved : (d.set u (.file (Text.Utf8.encode content))).moveFile (s.beside path)
        (s.resolve path) with
    | ok moved' => simp [moved] at failed
    | error e' =>
      have clean : Disk.holdsNull (s.beside path) = false := (Tree.place?_eq_some_iff.mp placed).1
      have cleanPath : Disk.holdsNull (s.resolve path) = false :=
        Disk.holdsNull_of_beginning (List.prefix_append _ besideSuffix) clean
      have system := isSystem_of_moveFile clean cleanPath moved
      -- The path beside leads to the new file, so that is what is removed.
      have grows : d.Grows (d.set u (.file (Text.Utf8.encode content))) := .set_file inside free _
      have removed := discard_of_file (grows.place? placed)
        (by rw [Tree.fileAt_set_file inside, if_pos rfl])
      simp only [moved, system, if_true, removed] at failed
      obtain rfl := (Prod.mk.inj failed).2
      exact losesOnly_erase placed free _

theorem losesOnly_of_write (failed : s.write d path content = (.error e, d')) :
    LosesOnly d d' (s.beside path) := by
  have leading := Tree.OnlyAddsDirectories.makeDirectories d s.room (Disk.parentPath (s.resolve path))
  unfold write at failed
  split at failed
  · rename_i e' made stopped
    rw [stopped] at leading
    obtain rfl := (Prod.mk.inj failed).2
    exact ⟨leading.grows, fun p => .inl (leading.fileAt p)⟩
  · rename_i made ready
    rw [ready] at leading
    have beside := losesOnly_of_writeBeside failed
    refine ⟨leading.grows.trans beside.grows, fun p => ?_⟩
    rw [← leading.fileAt p]
    exact beside.fileAt p

/-- Whether the text of a path has been written, and nothing stays beside it. -/
structure Written (s : Store) (d : Tree) (path content : Text) : Prop where
  read : s.read d path = .ok content
  has : s.has d path = true
  beside : d.exists? (s.beside path) = false

/-- Whether no file is new, neither on the disk nor, for a path that never goes up, at the path. -/
structure Unwritten (s : Store) (d d' : Tree) (path : Text) : Prop where
  kept : ∀ b, d.readFile (s.resolve path) = .ok b → d'.readFile (s.resolve path) = .ok b
  noneNew : ∀ p b, d'.fileAt p = some b → d.fileAt p = some b
  noneAppears : ['.', '.'] ∉ Disk.pathParts (s.resolve path) →
    ∀ b, d'.readFile (s.resolve path) = .ok b → d.readFile (s.resolve path) = .ok b

/-- Whether nothing has changed but the file of a path and the one beside it, and at most the latter
is gone. -/
structure Spares (s : Store) (d d' : Tree) (path : Text) : Prop where
  others : ∀ p, d'.place? (s.resolve path) ≠ some p → d'.place? (s.beside path) ≠ some p →
    d'.fileAt p = d.fileAt p
  directories : ∀ p, d.node? p = some .directory → d'.node? p = some .directory
  files : ∀ p b, d.fileAt p = some b → d'.node? p = none → d'.place? (s.beside path) = some p

private theorem written_of_write (wrote : s.write d path content = (.ok (), d')) :
    s.Written d' path content := by
  obtain ⟨made, -, settled⟩ := exists_made wrote
  obtain ⟨q, target, placed, beside, -, rfl⟩ := exists_settled (by decide) (by decide) settled
  have inside : q.lengthen besideSuffix ≠ [] := Tree.place_ne_nil beside
  have apart : q.lengthen besideSuffix ≠ q := Place.lengthen_ne_self (by decide) target
  have bytes := Tree.readFile_eq_ok_iff.mpr
    ⟨q, placed, by rw [Tree.fileAt_set_file target, if_pos rfl]⟩
  refine ⟨?_, ?_, ?_⟩
  · simp only [Store.read, bytes, Text.Utf8.decode_encode]
    rfl
  · exact Tree.isFile_iff.mpr ⟨_, bytes⟩
  · obtain ⟨clean, parent, name, led, lengthened⟩ := Tree.place?_eq_some_iff.mp beside
    have besidePath : s.beside path = s.resolve path ++ besideSuffix := rfl
    unfold Tree.exists? Tree.find?
    rw [besidePath, clean, led]
    simp only [Bool.false_eq_true, if_false, ← lengthened]
    rw [Tree.node?_set target, if_neg apart, Tree.node?_erase inside, if_pos rfl]
    rfl

private theorem unwritten_of_write (sound : d.IsSound)
    (failed : s.write d path content = (.error e, d')) : s.Unwritten d d' path := by
  have loses := losesOnly_of_write failed
  have noneNew (p : Place) (b : Bytes) (file : d'.fileAt p = some b) : d.fileAt p = some b := by
    rcases loses.fileAt p with same | ⟨-, gone⟩
    · rw [← same, file]
    · simp [gone] at file
  refine ⟨?_, noneNew, ?_⟩
  · intro b bytes
    obtain ⟨p, placed, file⟩ := Tree.readFile_eq_ok_iff.mp bytes
    have placed' := loses.grows.place? placed
    refine Tree.readFile_eq_ok_iff.mpr ⟨p, placed', ?_⟩
    rcases loses.fileAt p with same | ⟨beside, -⟩
    · rw [same, file]
    · -- The file of the path is not the one beside it.
      have longer : p = p.lengthen besideSuffix := Tree.place?_append (by decide) placed' beside
      exact absurd longer.symm (Place.lengthen_ne_self (by decide) (Tree.place_ne_nil placed))
  · intro noUps b bytes
    obtain ⟨p, placed', file'⟩ := Tree.readFile_eq_ok_iff.mp bytes
    have file := noneNew p b file'
    have there : d.node? p ≠ none := by
      intro none
      simp [Tree.fileAt, none] at file
    exact Tree.readFile_eq_ok_iff.mpr ⟨p, sound.place? loses.grows noUps placed' there, file⟩

private theorem Spares.of_accounts (grows : d.Grows d')
    (accounts : ∀ p, d'.fileAt p = d.fileAt p ∨
      d'.place? (s.resolve path) = some p ∧ d'.fileAt p ≠ none ∨ d'.place? (s.beside path) = some p) :
    s.Spares d d' path := by
  refine ⟨?_, grows.directory, ?_⟩
  · intro p notTarget notBeside
    rcases accounts p with same | ⟨target, -⟩ | beside
    · exact same
    · exact absurd target notTarget
    · exact absurd beside notBeside
  · intro p b file gone
    have none : d'.fileAt p = none := by simp [Tree.fileAt, gone]
    rcases accounts p with same | ⟨-, some⟩ | beside
    · rw [none, file] at same
      cases same
    · exact absurd none some
    · exact beside

private theorem spares_of_write (s : Store) (d : Tree) (path content : Text) :
    s.Spares d (s.write d path content).2 path := by
  generalize wrote : s.write d path content = outcome
  obtain ⟨result, d'⟩ := outcome
  cases result with
  | error e =>
    have loses := losesOnly_of_write wrote
    refine .of_accounts loses.grows fun p => ?_
    rcases loses.fileAt p with same | ⟨beside, -⟩
    · exact .inl same
    · exact .inr (.inr beside)
  | ok =>
    obtain ⟨made, leading, settled⟩ := exists_made wrote
    obtain ⟨q, target, placed, beside, grows, rfl⟩ := exists_settled (by decide) (by decide) settled
    have inside : q.lengthen besideSuffix ≠ [] := Tree.place_ne_nil beside
    refine .of_accounts (leading.grows.trans grows) fun p => ?_
    by_cases here : p = q
    · refine .inr (.inl ⟨here ▸ placed, ?_⟩)
      rw [Tree.fileAt_set_file target, if_pos here]
      exact Option.some_ne_none _
    · by_cases near : p = q.lengthen besideSuffix
      · exact .inr (.inr (near ▸ beside))
      · rw [Tree.fileAt_set_file target, if_neg here, Tree.fileAt_erase inside, if_neg near,
          Tree.fileAt_set_file inside, if_neg near]
        exact .inl (leading.fileAt p)

/--
A write that returns has stored its text, and one that fails has stored nothing, whatever the disk, the
path and the text are. Places are those to which the paths lead after the write.
-/
theorem write_all_or_nothing (s : Store) (sound : d.IsSound) (path content : Text) :
    ((s.write d path content).1 = .ok () → s.Written (s.write d path content).2 path content) ∧
      (∀ e, (s.write d path content).1 = .error e →
        s.Unwritten d (s.write d path content).2 path) ∧
      s.Spares d (s.write d path content).2 path := by
  have spares := spares_of_write s d path content
  generalize wrote : s.write d path content = outcome at spares ⊢
  obtain ⟨result, d'⟩ := outcome
  refine ⟨fun ok => ?_, fun e error => ?_, spares⟩
  · obtain rfl : result = .ok () := ok
    exact written_of_write wrote
  · obtain rfl : result = .error e := error
    exact unwritten_of_write sound wrote

/-- A file `x` with three bytes, and a directory where the text for it would stand beside it. -/
def obstructed : Tree where
  here := []
  nodes := [(["x"], .file [111, 108, 100]), (["x.udiff_tmp"], .directory)]

def atSlash : Store := ⟨['/'], 980⟩

/-- A text with a carriage return and a letter of two bytes is written, one beside a directory is not. -/
theorem write_all_or_nothing_obstructed :
    atSlash.Written (atSlash.write obstructed "d/y" "é\r\n").2 "d/y" "é\r\n" ∧
      atSlash.Unwritten obstructed (atSlash.write obstructed "x" "new").2 "x" := by
  have sound : obstructed.IsSound := by decide
  have wrote : (atSlash.write obstructed "d/y" "é\r\n").1 = .ok () := by decide +kernel
  have failed : (atSlash.write obstructed "x" "new").1 =
      .error (.system .directory "/x.udiff_tmp") := by decide +kernel
  exact ⟨(write_all_or_nothing atSlash sound "d/y" "é\r\n").1 wrote,
    (write_all_or_nothing atSlash sound "x" "new").2.1 _ failed⟩

/-- The directory that a failing write makes lets its path lead to a file. -/
theorem has_after_failed_write :
    (atSlash.write obstructed "d/../x" "new").1 = .error (.system .directory "/d/../x.udiff_tmp") ∧
      atSlash.has obstructed "d/../x" = false ∧
      atSlash.has (atSlash.write obstructed "d/../x" "new").2 "d/../x" = true :=
  by decide +kernel

end Store

end Redline.Write
