import Redline.Metrics.Journal
import Redline.Proofs.Disk.Naming
import Redline.Write.Store

set_option autoImplicit false
set_option relaxedAutoImplicit false

/-!
What saving changes on a disk. A stored file changes at its own place and at the place beside it, which
is left empty; an entry of the write log changes the write log. No other file changes, and every path
goes on naming its place.
-/

namespace Redline

open Disk (Tree Place)

namespace Write

variable {d d' : Tree}

theorem exists_settled {path suffix : Text} {content : Text.Utf8.Bytes} (bare : '/' ∉ suffix)
    (visible : suffix ≠ []) (settled : settle d (path ++ suffix) path content = (.ok (), d')) :
    ∃ q : Place, q ≠ [] ∧ d'.place? path = some q ∧ d'.place? (path ++ suffix) = some (q.lengthen suffix) ∧
      d.Grows d' ∧
      d' = ((d.set (q.lengthen suffix) (.file content)).erase (q.lengthen suffix)).set q
        (.file content) := by
  unfold settle at settled
  split at settled
  · simp at settled
  · rename_i written wrote
    split at settled
    · simp at settled
    · rename_i moved move
      obtain rfl := (Prod.mk.inj settled).2
      obtain ⟨u, beside, free, rfl⟩ := Tree.writeFile_eq_ok wrote
      obtain ⟨u', q, content', beside', placed, file, freeTarget, rfl⟩ := Tree.moveFile_eq_ok move
      have inside : u ≠ [] := Tree.place_ne_nil beside
      have growsWritten : d.Grows (d.set u (.file content)) := .set_file inside free content
      -- The move starts from the disk with the new file, on which the path beside leads to it.
      obtain rfl : u = u' := Option.some.inj ((growsWritten.place? beside).symm.trans beside')
      obtain rfl : content = content' := by
        simpa [Tree.fileAt_set_file inside] using file
      have target : q ≠ [] := Tree.place_ne_nil placed
      obtain rfl : u = q.lengthen suffix := Tree.place?_append bare placed beside'
      have apart : q.lengthen suffix ≠ q := Place.lengthen_ne_self visible target
      have growsErased := Tree.Grows.erase (d := d.set (q.lengthen suffix) (.file content)) inside
        (by simp [Tree.node?_set inside])
      have stillFree : ((d.set (q.lengthen suffix) (.file content)).erase
          (q.lengthen suffix)).node? q ≠ some .directory := by
        rw [Tree.node?_erase inside, if_neg (Ne.symm apart)]
        exact freeTarget
      have growsMoved := growsErased.trans (.set_file target stillFree content)
      exact ⟨q, target, growsMoved.place? placed, growsMoved.place? beside',
        growsWritten.trans growsMoved, rfl⟩

private theorem settle_eq_ok {path suffix : Text} {content : Text.Utf8.Bytes} (bare : '/' ∉ suffix)
    (visible : suffix ≠ []) (settled : settle d (path ++ suffix) path content = (.ok (), d')) :
    ∃ q, d'.place? path = some q ∧ d'.fileAt q = some content ∧
      d'.fileAt (q.lengthen suffix) = none ∧ d.Grows d' ∧
      ∀ p, p ≠ q → p ≠ q.lengthen suffix → d'.fileAt p = d.fileAt p := by
  obtain ⟨q, target, placed, beside, grows, rfl⟩ := exists_settled bare visible settled
  have inside : q.lengthen suffix ≠ [] := Tree.place_ne_nil beside
  have apart : q.lengthen suffix ≠ q := Place.lengthen_ne_self visible target
  refine ⟨q, placed, ?_, ?_, grows, ?_⟩
  · rw [Tree.fileAt_set_file target, if_pos rfl]
  · rw [Tree.fileAt_set_file target, if_neg apart, Tree.fileAt_erase inside, if_pos rfl]
  · intro p notTarget notBeside
    rw [Tree.fileAt_set_file target, if_neg notTarget, Tree.fileAt_erase inside,
      if_neg notBeside, Tree.fileAt_set_file inside, if_neg notBeside]

theorem Store.exists_made {s : Store} {path content : Text}
    (wrote : s.write d path content = (.ok (), d')) :
    ∃ made, d.OnlyAddsDirectories made ∧
      settle made (s.beside path) (s.resolve path) (Text.Utf8.encode content) = (.ok (), d') := by
  have leading := Tree.OnlyAddsDirectories.makeDirectories d s.room (Disk.parentPath (s.resolve path))
  unfold Store.write at wrote
  split at wrote
  · simp at wrote
  · rename_i made ready
    rw [ready] at leading
    unfold Store.writeBeside at wrote
    split at wrote
    · rename_i settledDisk settled
      obtain rfl := (Prod.mk.inj wrote).2
      exact ⟨made, leading, settled⟩
    · simp at wrote

theorem Store.write_eq_ok {s : Store} {path content : Text}
    (wrote : s.write d path content = (.ok (), d')) :
    ∃ q, d'.place? (s.resolve path) = some q ∧
      d'.fileAt q = some (Text.Utf8.encode content) ∧
      d'.fileAt (q.lengthen besideSuffix) = none ∧ d.Grows d' ∧
      ∀ p, p ≠ q → p ≠ q.lengthen besideSuffix → d'.fileAt p = d.fileAt p := by
  obtain ⟨made, leading, settled⟩ := Store.exists_made wrote
  have bare : '/' ∉ besideSuffix := by decide
  have visible : besideSuffix ≠ [] := by decide
  obtain ⟨q, placed, file, beside, grows, others⟩ := settle_eq_ok bare visible settled
  refine ⟨q, placed, file, beside, leading.grows.trans grows, ?_⟩
  intro p notTarget notBeside
  rw [others p notTarget notBeside, leading.fileAt]

end Write

namespace Metrics

theorem record_frame (room : Nat) (d : Tree) (root : Text) (now : Moment)
    (data : List (Text × Data.Value)) :
    d.Grows (record room d root now data).2 ∧
      ∀ p, (record room d root now data).2.fileAt p ≠ d.fileAt p →
        (record room d root now data).2.place? (journalPath root) = some p := by
  have folder := Tree.OnlyAddsDirectories.makeDirectories d room (folderPath root)
  unfold record
  split
  · rename_i e made failed
    rw [failed] at folder
    exact ⟨folder.grows, fun p changed => absurd (folder.fileAt p) changed⟩
  · rename_i made ready
    rw [ready] at folder
    split
    · exact ⟨folder.grows, fun p changed => absurd (folder.fileAt p) changed⟩
    · rename_i longer appended
      obtain ⟨q, before, placed, free, rfl⟩ := Tree.appendFile_eq_ok appended
      have inside : q ≠ [] := Tree.place_ne_nil placed
      have grows := Tree.Grows.set_file inside free (before ++ Text.Utf8.encode (entryLine now data))
      refine ⟨folder.grows.trans grows, ?_⟩
      intro p changed
      by_cases other : p = q
      · rw [other]
        exact grows.place? placed
      · rw [Tree.fileAt_set_file inside, if_neg other] at changed
        exact absurd (folder.fileAt p) changed

end Metrics

end Redline
