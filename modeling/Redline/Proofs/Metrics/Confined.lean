import Redline.Proofs.Disk.Apart
import Redline.Proofs.Metrics.Journal

set_option autoImplicit false
set_option relaxedAutoImplicit false

/-!
An entry of the write log stays in the folder of the log. The directory of the project is there, so no
directory that leads to it is made; only the folder is, if it is missing, and the log in it. What the
system refuses is noted and fails nothing, wherever the project is.
-/

namespace Redline

open Disk (Tree Place IsName isAbsolute joinPath pathParts leadingPaths)
open Disk.Tree (AgreesOutside)

namespace Disk

private theorem holdsNull_joinPath_of_name {root name : Text} (clean : holdsNull root = false)
    (valid : IsName name) : holdsNull (joinPath root name) = false := by
  obtain ⟨between, joined, cleanBetween⟩ := exists_joinPath root valid.relative
  rw [joined, holdsNull_append, holdsNull_append, clean, cleanBetween, valid.clean]
  rfl

private theorem beginning_of_mem_leadingPaths {root name q : Text} (bare : '/' ∉ name)
    (mem : q ∈ leadingPaths (joinPath root name)) : q <+: root := by
  obtain ⟨-, rest, split, -⟩ := mem_leadingPaths mem
  have relative : isAbsolute name = false := by
    rw [Bool.eq_false_iff]
    intro absolute
    obtain ⟨t, rfl⟩ := isAbsolute_iff.mp absolute
    exact bare List.mem_cons_self
  have impossible {c : Text} (inside : name = c ++ '/' :: rest) : False :=
    bare (inside ▸ List.mem_append_right c List.mem_cons_self)
  unfold joinPath at split
  rw [relative] at split
  simp only [Bool.false_eq_true, if_false] at split
  split at split
  · rcases List.append_eq_append_iff.mp split with ⟨c, -, inside⟩ | ⟨c, rfl, -⟩
    · exact (impossible inside).elim
    · exact List.prefix_append q c
  · rcases List.append_eq_append_iff.mp split with ⟨c, rfl, inside⟩ | ⟨c, rfl, -⟩
    · cases c with
      | nil => simp
      | cons slash c => exact (impossible (List.cons.inj inside).2).elim
    · exact List.prefix_append q c

namespace Tree

structure LeadsTo (d : Tree) (path : Text) (p : Place) : Prop where
  nonempty : path ≠ []
  clean : holdsNull path = false
  small : Text.Utf8.size path < pathSizeLimit
  walk : d.enterAll (if isAbsolute path then [] else d.here) (pathParts path) = .ok p

namespace LeadsTo

variable {d d' : Tree} {root name : Text} {p home : Place}

theorem grows (leads : d.LeadsTo root home) (grows : d.Grows d') : d'.LeadsTo root home :=
  ⟨leads.nonempty, leads.clean, leads.small, by rw [grows.here]; exact grows.enterAll leads.walk⟩

theorem slash (d : Tree) : d.LeadsTo ['/'] [] := ⟨by simp, rfl, by decide, rfl⟩

private theorem isAbsolute_joinPath (leads : d.LeadsTo root home) (valid : IsName name) :
    isAbsolute (joinPath root name) = isAbsolute root := by
  obtain ⟨between, joined, -⟩ := exists_joinPath root valid.relative
  rw [joined, List.append_assoc]
  exact (isAbsolute_of_beginning (List.prefix_append root _) leads.nonempty).symm

theorem pathParts_joinPath (valid : IsName name) :
    pathParts (joinPath root name) = pathParts root ++ [name] := by
  rw [Disk.pathParts_joinPath root valid.relative, pathParts_of_bare valid.nonempty valid.bare]

private theorem eq_of_target (leads : d.LeadsTo root home) (valid : IsName name) {parent : Place}
    {last : Text}
    {slash : Bool} (led : d.target (joinPath root name) = .ok (.named parent last slash)) :
    last = name ∧ parent = home := by
  obtain ⟨-, lastPart, walked, -⟩ := target_eq_named led
  rw [pathParts_joinPath valid, List.getLast?_concat] at lastPart
  rw [pathParts_joinPath valid, List.dropLast_concat, leads.isAbsolute_joinPath valid,
    leads.walk] at walked
  exact ⟨(Option.some.inj lastPart).symm, (Except.ok.inj walked).symm⟩

private theorem unmade_joinPath (leads : d.LeadsTo root home) (valid : IsName name) :
    d.unmade (leadingPaths (joinPath root name)) = [] := by
  have small : ∀ q ∈ leadingPaths (joinPath root name), Text.Utf8.size q < pathSizeLimit :=
    fun q mem => Nat.lt_of_le_of_lt
      (Text.Utf8.size_le_of_beginning (beginning_of_mem_leadingPaths valid.bare mem)) leads.small
  have walked : d.enterAll (if isAbsolute (joinPath root name) then [] else d.here)
      (pathParts (joinPath root name)).dropLast = .ok home := by
    rw [leads.isAbsolute_joinPath valid, pathParts_joinPath valid, List.dropLast_concat]
    exact leads.walk
  exact unmade_eq_nil
    (exists_of_mem_leadingPaths small (holdsNull_joinPath_of_name leads.clean valid) walked)

theorem hasRoom (leads : d.LeadsTo root home) (valid : IsName name) (room : Nat) :
    d.HasRoom room (joinPath root name) := by
  rw [HasRoom, leads.unmade_joinPath valid]
  exact Nat.zero_le room

private theorem makeDirectories (leads : d.LeadsTo root home) (valid : IsName name) (room : Nat) :
    AgreesOutside (name :: home) d (d.makeDirectories room (joinPath root name)).2 := by
  have last : d.makeDirectories room (joinPath root name) = d.makeLast (joinPath root name) := by
    unfold Tree.makeDirectories
    simp [leads.unmade_joinPath valid, makeLeading]
  rw [last]
  unfold makeLast
  split
  · rename_i d' made
    obtain ⟨parent, part, slash, led, -, rfl⟩ := makeDirectory_eq_ok made
    obtain ⟨rfl, rfl⟩ := leads.eq_of_target valid led
    exact .set_of_below (List.cons_ne_nil _ _) (List.suffix_refl _) .directory
  · split <;> exact .refl _ d

end LeadsTo

end Tree

end Disk

namespace Metrics

variable {home : Place} {root : Text} {d : Tree}

theorem exists_notes_of_record {room : Nat} (roomy : d.HasRoom room (folderPath root))
    (clean : Disk.holdsNull root = false) (now : Moment) (data : List (Text × Data.Value)) :
    ∃ notes, (record room d root now data).1 = .ok notes := by
  have cleanFolder : Disk.holdsNull (folderPath root) = false :=
    Disk.holdsNull_joinPath_of_name clean isName_folderName
  have cleanPath : Disk.holdsNull (journalPath root) = false :=
    Disk.holdsNull_joinPath_of_name cleanFolder isName_fileName
  have noted {e : Disk.Failure} (system : e.isSystem = true) : ∃ notes, refuse e = .ok notes :=
    ⟨[refusedNote e], by rw [refuse, if_pos system]⟩
  unfold record
  split
  · rename_i stopped
    exact noted (roomy.isSystem cleanFolder stopped)
  · split
    · rename_i failed
      exact noted (Tree.isSystem_of_atTarget cleanPath (map_eq_error_iff.mp failed))
    · exact ⟨[], rfl⟩

private theorem below_of_place?_journalPath {q : Place} (leads : d.LeadsTo root home)
    (placed : d.place? (journalPath root) = some q) : folderPlace home <:+ q := by
  obtain ⟨-, parent, last, led, rfl⟩ := Tree.place?_eq_some_iff.mp placed
  obtain ⟨-, -, walked, -⟩ := Tree.target_eq_named led
  have absolute : isAbsolute (journalPath root) = isAbsolute root := by
    obtain ⟨between, joined, -⟩ := Disk.exists_joinPath (folderPath root) isName_fileName.relative
    have visible : folderPath root ≠ [] := by
      obtain ⟨between, joined, -⟩ := Disk.exists_joinPath root isName_folderName.relative
      rw [folderPath, joined, List.append_assoc]
      exact List.append_ne_nil_of_left_ne_nil leads.nonempty _
    rw [← leads.isAbsolute_joinPath isName_folderName, journalPath, joined, List.append_assoc]
    exact (Disk.isAbsolute_of_beginning (List.prefix_append (folderPath root) _) visible).symm
  rw [journalPath, Tree.LeadsTo.pathParts_joinPath isName_fileName, List.dropLast_concat, folderPath,
    Tree.LeadsTo.pathParts_joinPath isName_folderName, ← folderPath, ← journalPath, absolute,
    Tree.enterAll_append leads.walk, Tree.enterAll_singleton] at walked
  obtain rfl : parent = folderPlace home := by
    rcases Tree.enter_eq_ok walked with ⟨stay, -⟩ | ⟨up, -⟩ | ⟨-, -, -, -, below⟩
    · exact absurd stay isName_folderName.notHere
    · exact absurd up isName_folderName.notUp
    · exact below
  exact List.suffix_cons last (folderPlace home)

theorem record_confined (room : Nat) (leads : d.LeadsTo root home) (now : Moment)
    (data : List (Text × Data.Value)) :
    AgreesOutside (folderPlace home) d (record room d root now data).2 := by
  have folder := leads.makeDirectories isName_folderName room
  have grows := (Tree.OnlyAddsDirectories.makeDirectories d room (joinPath root folderName)).grows
  unfold record
  rw [folderPath]
  split
  · rename_i stopped
    rwa [stopped] at folder
  · rename_i made ready
    rw [ready] at folder grows
    split
    · exact folder
    · rename_i longer appended
      obtain ⟨q, before, placed, -, rfl⟩ := Tree.appendFile_eq_ok appended
      have inside := Tree.place_ne_nil placed
      have below := below_of_place?_journalPath (leads.grows grows) placed
      exact folder.trans (.set_of_below inside below _)

end Metrics

end Redline
