import Redline.Metrics.Statistics
import Redline.Proofs.Data.Json
import Redline.Proofs.Disk.Shunned
import Redline.Proofs.Text.Reader
import Redline.Proofs.Text.Rows

set_option autoImplicit false
set_option relaxedAutoImplicit false

/-!
The write log of a project. It grows by a line for each entry, which is written in printable ASCII, and it
is read entry by entry as it was written.
-/

namespace Redline.Metrics

open Data (Value)
open Disk (Tree Place IsName Spells)
open Text.Utf8 (Bytes)

def folderPlace (base : Place) : Place := folderName :: base

/-- The place of the write log of a project. -/
def journalPlace (base : Place) : Place := fileName :: folderPlace base

theorem isName_folderName : IsName folderName := by decide

theorem isName_fileName : IsName fileName := by decide

section Paths

variable {base : Place} {root : Text}

private theorem spells_folderPath (spells : Spells base root) :
    Spells (folderPlace base) (folderPath root) :=
  spells.joinPath isName_folderName

private theorem spells_journalPath (spells : Spells base root) :
    Spells (journalPlace base) (journalPath root) :=
  (spells_folderPath spells).joinPath isName_fileName

private theorem size_folderPath_le (root : Text) :
    Text.Utf8.size (folderPath root) ≤ Text.Utf8.size (journalPath root) := by
  obtain ⟨between, joined, -⟩ := Disk.exists_joinPath (folderPath root) (p := fileName) (by decide)
  rw [journalPath, joined, List.append_assoc]
  exact Text.Utf8.size_le_of_beginning (List.prefix_append _ _)

theorem journalText_of_long {d : Tree}
    (long : Disk.pathSizeLimit ≤ Text.Utf8.size (journalPath root)) :
    journalText d root = ([], none) := by
  unfold journalText
  split
  · rfl
  · rename_i b found
    obtain ⟨p, placed, -⟩ := Tree.readFile_eq_ok_iff.mp found
    obtain ⟨-, parent, name, led, -⟩ := Tree.place?_eq_some_iff.mp placed
    exact absurd (Tree.size_lt_of_target led) (Nat.not_lt.mpr long)

theorem journalText_of_readFile {d : Tree} {t : Text}
    (reads : d.readFile (journalPath root) = .ok (Text.Utf8.encode t)) :
    journalText d root = (Text.withLineFeeds t, none) := by
  rw [journalText, reads]
  exact Text.Reader.readable_encode t

end Paths

/-- Whether the project at a place has a write log with some bytes; one that is missing has none. -/
structure HasLog (base : Place) (d : Tree) (content : Bytes) : Prop where
  walk : d.enterAll [] base.reverse = .ok base
  log : (d.node? (folderPlace base) = none ∨ d.node? (folderPlace base) = some .directory) ∧
      d.node? (journalPlace base) = none ∧ content = [] ∨
    d.node? (folderPlace base) = some .directory ∧
      d.node? (journalPlace base) = some (.file content)

namespace HasLog

variable {base : Place} {root : Text} {d d' : Tree} {content : Bytes}

theorem keeps (holds : HasLog base d content) (walk : d'.enterAll [] base.reverse = .ok base)
    (kept : Tree.KeepsBelow (folderPlace base) d d') : HasLog base d' content := by
  have folder := kept (folderPlace base) (List.suffix_refl _)
  have file := kept (journalPlace base) (List.suffix_cons fileName (folderPlace base))
  refine ⟨walk, ?_⟩
  rw [folder, file]
  exact holds.log

/-! The paths of the write log. -/

private theorem target_folderPath (holds : HasLog base d content) (spells : Spells base root)
    (small : Text.Utf8.size (folderPath root) < Disk.pathSizeLimit) :
    d.target (folderPath root) = .ok (.named base folderName false) := by
  have walk : d.enterAll [] (Disk.pathParts root) = .ok base := by
    rw [spells.parts]
    exact holds.walk
  exact Tree.target_joinPath_of_name spells.absolute walk isName_folderName small

private theorem enterAll_folderPlace (holds : HasLog base d content)
    (folder : d.node? (folderPlace base) = some .directory) :
    d.enterAll [] (folderPlace base).reverse = .ok (folderPlace base) := by
  have valid := isName_folderName
  rw [folderPlace, List.reverse_cons, Tree.enterAll_append holds.walk, Tree.enterAll_singleton]
  exact Tree.enter_of_directory valid.notHere valid.notUp valid.short folder

private theorem target_journalPath (holds : HasLog base d content) (spells : Spells base root)
    (folder : d.node? (folderPlace base) = some .directory)
    (small : Text.Utf8.size (journalPath root) < Disk.pathSizeLimit) :
    d.target (journalPath root) = .ok (.named (folderPlace base) fileName false) := by
  have walk : d.enterAll [] (Disk.pathParts (folderPath root)) = .ok (folderPlace base) := by
    rw [(spells_folderPath spells).parts]
    exact holds.enterAll_folderPlace folder
  exact Tree.target_joinPath_of_name (spells_folderPath spells).absolute walk isName_fileName small

/-! Recording. -/

private theorem exists_makeDirectories (room : Nat) (holds : HasLog base d content)
    (spells : Spells base root)
    (small : Text.Utf8.size (folderPath root) < Disk.pathSizeLimit) :
    ∃ made, d.makeDirectories room (folderPath root) = (.ok (), made) ∧
      HasLog base made content ∧ made.node? (folderPlace base) = some .directory := by
  have clean := (spells_folderPath spells).clean
  have led := holds.target_folderPath spells small
  have there (folder : d.node? (folderPlace base) = some .directory) :
      ∃ made, d.makeDirectories room (folderPath root) = (.ok (), made) ∧
        HasLog base made content ∧ made.node? (folderPlace base) = some .directory := by
    obtain ⟨nonempty, -⟩ := Tree.target_eq_named led
    have walked : d.enterAll (if Disk.isAbsolute (folderPath root) then [] else d.here)
        (Disk.pathParts (folderPath root)) = .ok (folderPlace base) := by
      rw [(spells_folderPath spells).absolute, if_pos rfl, (spells_folderPath spells).parts]
      exact holds.enterAll_folderPlace folder
    exact ⟨d, Tree.makeDirectories_of_enterAll room nonempty (Tree.size_lt_of_target led) clean walked,
      holds, folder⟩
  rcases holds.log with ⟨free | folder, missing, empty⟩ | ⟨folder, -⟩
  · have inside : folderPlace base ≠ [] := List.cons_ne_nil _ _
    have other : journalPlace base ≠ folderPlace base := List.cons_ne_self _ _
    have grows : d.Grows (d.set (folderPlace base) .directory) := by
      have made := Tree.OnlyAddsDirectories.makeDirectories d room (folderPath root)
      rw [Tree.makeDirectories_of_free room clean led free] at made
      exact made.grows
    have folder : (d.set (folderPlace base) .directory).node? (folderPlace base) =
        some .directory := by
      rw [Tree.node?_set inside, if_pos rfl]
    have unwritten : (d.set (folderPlace base) .directory).node? (journalPlace base) = none := by
      rw [Tree.node?_set inside, if_neg other, missing]
    have ready : HasLog base (d.set (folderPlace base) .directory) content :=
      ⟨grows.enterAll holds.walk, .inl ⟨.inr folder, unwritten, empty⟩⟩
    exact ⟨_, Tree.makeDirectories_of_free room clean led free, ready, folder⟩
  · exact there folder
  · exact there folder

private theorem exists_appendFile (holds : HasLog base d content) (spells : Spells base root)
    (folder : d.node? (folderPlace base) = some .directory)
    (small : Text.Utf8.size (journalPath root) < Disk.pathSizeLimit) (more : Bytes) :
    ∃ longer, d.appendFile (journalPath root) more = .ok longer ∧
      HasLog base longer (content ++ more) := by
  have clean := (spells_journalPath spells).clean
  have led := holds.target_journalPath spells folder small
  have inside : journalPlace base ≠ [] := List.cons_ne_nil _ _
  have other : folderPlace base ≠ journalPlace base := (List.cons_ne_self _ _).symm
  -- Whether the file is there or not, it is written, and it holds what it held and the new bytes.
  have appended : d.node? (journalPlace base) ≠ some .directory ∧
      d.appendFile (journalPath root) more =
        .ok (d.set (journalPlace base) (.file (content ++ more))) := by
    rcases holds.log with ⟨-, missing, rfl⟩ | ⟨-, file⟩
    · refine ⟨by simp [missing], ?_⟩
      unfold journalPlace at missing ⊢
      simp [Tree.appendFile, Tree.atTarget, clean, led, Tree.writable, missing, Except.mapError,
        Except.map]
    · refine ⟨by simp [file], ?_⟩
      unfold journalPlace at file ⊢
      simp [Tree.appendFile, Tree.atTarget, clean, led, Tree.writable, file, Except.mapError,
        Except.map]
  have grows : d.Grows (d.set (journalPlace base) (.file (content ++ more))) :=
    .set_file inside appended.1 _
  refine ⟨_, appended.2, grows.enterAll holds.walk, .inr ⟨?_, ?_⟩⟩
  · rw [Tree.node?_set inside, if_neg other, folder]
  · rw [Tree.node?_set inside, if_pos rfl]

theorem record (room : Nat) (holds : HasLog base d content) (spells : Spells base root)
    (small : Text.Utf8.size (journalPath root) < Disk.pathSizeLimit) (now : Moment)
    (data : List (Text × Value)) :
    ∃ longer, Metrics.record room d root now data = (.ok [], longer) ∧
      HasLog base longer (content ++ Text.Utf8.encode (entryLine now data)) := by
  have fits := Nat.lt_of_le_of_lt (size_folderPath_le root) small
  obtain ⟨made, makes, ready, folder⟩ := holds.exists_makeDirectories room spells fits
  obtain ⟨longer, appends, done⟩ :=
    ready.exists_appendFile spells folder small (Text.Utf8.encode (entryLine now data))
  refine ⟨longer, ?_, done⟩
  unfold Metrics.record
  rw [makes]
  simp only [appends]

theorem exists_record_of_long (room : Nat) (holds : HasLog base d content) (spells : Spells base root)
    (fits : Text.Utf8.size (folderPath root) < Disk.pathSizeLimit)
    (long : Disk.pathSizeLimit ≤ Text.Utf8.size (journalPath root)) (now : Moment)
    (data : List (Text × Value)) :
    ∃ notes longer, Metrics.record room d root now data = (.ok notes, longer) := by
  obtain ⟨made, makes, -⟩ := holds.exists_makeDirectories room spells fits
  have spelled := spells_journalPath spells
  have nonempty : journalPath root ≠ [] := by
    intro empty
    rw [empty] at spelled
    exact absurd spelled.absolute (by decide)
  have refused : made.target (journalPath root) = .error .longName := by
    unfold Tree.target
    simp [nonempty, long]
  unfold Metrics.record
  rw [makes]
  simp [Tree.appendFile, Tree.atTarget, spelled.clean, refused, Except.map, refuse,
    Disk.Failure.isSystem]

/-! Reading. -/

private theorem eq_of_place?_journalPath (holds : HasLog base d content) (spells : Spells base root)
    {p : Place}
    (placed : d.place? (journalPath root) = some p) : p = journalPlace base := by
  obtain ⟨-, parent, last, led, rfl⟩ := Tree.place?_eq_some_iff.mp placed
  obtain ⟨-, lastPart, walked, -⟩ := Tree.target_eq_named led
  have spelled := spells_journalPath spells
  rw [spelled.parts, journalPlace, List.reverse_cons] at lastPart walked
  rw [List.getLast?_concat] at lastPart
  rw [spelled.absolute, if_pos rfl, List.dropLast_concat, folderPlace, List.reverse_cons,
    Tree.enterAll_append holds.walk, Tree.enterAll_singleton] at walked
  obtain rfl := Option.some.inj lastPart
  rcases Tree.enter_eq_ok walked with ⟨dot, -⟩ | ⟨dots, -⟩ | ⟨-, -, -, -, rfl⟩
  · exact absurd dot isName_folderName.notHere
  · exact absurd dots isName_folderName.notUp
  · rfl

theorem journalText_eq {t : Text} (holds : HasLog base d (Text.Utf8.encode t))
    (spells : Spells base root) (small : Text.Utf8.size (journalPath root) < Disk.pathSizeLimit) :
    journalText d root = (Text.withLineFeeds t, none) := by
  have whole := Text.Reader.readable_encode t
  rcases holds.log with ⟨-, missing, empty⟩ | ⟨folder, file⟩
  · have none (b : Bytes) : d.readFile (journalPath root) ≠ .ok b := by
      intro found
      obtain ⟨p, placed, there⟩ := Tree.readFile_eq_ok_iff.mp found
      obtain rfl := holds.eq_of_place?_journalPath spells placed
      simp [Tree.fileAt, missing] at there
    unfold journalText
    rw [← whole, empty]
    split
    · rfl
    · rename_i b found
      exact absurd found (none b)
  · have placed : d.place? (journalPath root) = some (journalPlace base) :=
      Tree.place?_eq_some_iff.mpr ⟨(spells_journalPath spells).clean, folderPlace base, fileName,
        holds.target_journalPath spells folder small, rfl⟩
    have there : d.fileAt (journalPlace base) = some (Text.Utf8.encode t) := by
      simp [Tree.fileAt, file]
    exact journalText_of_readFile (Tree.readFile_eq_ok_iff.mpr ⟨_, placed, there⟩)

end HasLog

end Redline.Metrics
