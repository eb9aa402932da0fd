import Redline.Proofs.Disk.Naming
import Redline.Proofs.Disk.Parts

set_option autoImplicit false
set_option relaxedAutoImplicit false

/-!
Walks on a sound disk. A path leads to the same place from the working directory and as an absolute path,
as long as that is not too long; a path without `..` passes only through directories above the place that
it leads to; and a directory that is there need not be made.
-/

namespace Redline.Disk

open Text.Utf8 (Bytes)

/-- Whether a path is short enough for the system, and so is its last name. -/
structure Fits (path : Text) : Prop where
  name : isLongName (baseName path) = false
  size : Text.Utf8.size path < pathSizeLimit

/-- Whether everything is in a directory, also the working directory, which has a path. -/
structure Tree.IsSound (d : Tree) : Prop where
  parents : ∀ e ∈ d.nodes, d.node? e.1.tail = some .directory
  here : d.node? d.here = some .directory
  names : ∀ name ∈ d.here, IsName name

instance (d : Tree) : Decidable d.IsSound :=
  decidable_of_iff ((∀ e ∈ d.nodes, d.node? e.1.tail = some .directory) ∧
      d.node? d.here = some .directory ∧ ∀ name ∈ d.here, IsName name)
    ⟨fun ⟨parents, here, names⟩ => ⟨parents, here, names⟩,
    fun sound => ⟨sound.parents, sound.here, sound.names⟩⟩

private theorem exists_mem_of_lookupNode {p : Place} {n : Node} {ns : List (Place × Node)}
    (found : lookupNode p ns = some n) : ∃ m, (p, m) ∈ ns := by
  induction ns with
  | nil => simp [lookupNode] at found
  | cons e ns ih =>
    obtain ⟨q, m⟩ := e
    by_cases here : q = p
    · subst here
      exact ⟨m, List.mem_cons_self⟩
    · rw [lookupNode, if_neg here] at found
      obtain ⟨m', mem⟩ := ih found
      exact ⟨m', List.mem_cons_of_mem _ mem⟩

theorem Fits.of_joinPath {base path : Text} (relative : isAbsolute path = false) (nonempty : path ≠ [])
    (unfinished : Text.endsWith path ['/'] = false) (fits : Fits (joinPath base path)) : Fits path := by
  refine ⟨baseName_joinPath base relative nonempty unfinished ▸ fits.name, ?_⟩
  obtain ⟨between, joined, -⟩ := exists_joinPath base relative
  have size := fits.size
  rw [joined, Text.Utf8.size_append] at size
  omega

namespace Tree

variable {d d' : Tree} {p q : Place} {path : Text}

/-! Single steps and walks. -/

theorem enter_eq_ok {part : Text} (entered : d.enter p part = .ok q) :
    part = ['.'] ∧ q = p ∨ part = ['.', '.'] ∧ q = p.tail ∨
      part ≠ ['.'] ∧ part ≠ ['.', '.'] ∧ isLongName part = false ∧
        d.node? (part :: p) = some .directory ∧ q = part :: p := by
  unfold enter at entered
  split at entered
  · rename_i stay
    exact .inl ⟨stay, (Except.ok.inj entered).symm⟩
  · rename_i notStay
    split at entered
    · rename_i up
      exact .inr (.inl ⟨up, (Except.ok.inj entered).symm⟩)
    · rename_i notUp
      split at entered
      · simp at entered
      · rename_i short
        split at entered
        · simp at entered
        · simp at entered
        · rename_i found
          exact .inr (.inr ⟨notStay, notUp, by simpa using short, found,
            (Except.ok.inj entered).symm⟩)

theorem enter_of_directory {part : Text} (notStay : part ≠ ['.']) (notUp : part ≠ ['.', '.'])
    (short : isLongName part = false) (found : d.node? (part :: p) = some .directory) :
    d.enter p part = .ok (part :: p) := by
  simp [enter, notStay, notUp, short, found]

theorem enterAll_append {xs : List Text} (walked : d.enterAll p xs = .ok q) (ys : List Text) :
    d.enterAll p (xs ++ ys) = d.enterAll q ys := by
  induction xs generalizing p with
  | nil =>
    obtain rfl := Except.ok.inj walked
    rfl
  | cons x xs ih =>
    unfold enterAll at walked
    rw [List.cons_append, enterAll]
    split at walked
    · simp at walked
    · exact ih walked

theorem enterAll_append_eq_ok {xs ys : List Text} (walked : d.enterAll p (xs ++ ys) = .ok q) :
    ∃ between, d.enterAll p xs = .ok between ∧ d.enterAll between ys = .ok q := by
  induction xs generalizing p with
  | nil => exact ⟨p, rfl, walked⟩
  | cons x xs ih =>
    rw [List.cons_append, enterAll] at walked
    split at walked
    · simp at walked
    · rename_i first entered
      rw [enterAll, entered]
      exact ih walked

theorem enterAll_singleton (p : Place) (part : Text) : d.enterAll p [part] = d.enter p part := by
  unfold enterAll
  cases d.enter p part <;> rfl

private theorem suffix_of_enterAll {parts : List Text} (walked : d.enterAll p parts = .ok q)
    (noUps : ['.', '.'] ∉ parts) : p <:+ q := by
  induction parts generalizing p with
  | nil =>
    obtain rfl := Except.ok.inj walked
    exact List.suffix_refl p
  | cons part parts ih =>
    rw [List.mem_cons, not_or] at noUps
    unfold enterAll at walked
    split at walked
    · simp at walked
    · rename_i first entered
      have rest := ih walked noUps.2
      rcases enter_eq_ok entered with ⟨-, rfl⟩ | ⟨up, -⟩ | ⟨-, -, -, -, rfl⟩
      · exact rest
      · exact absurd up.symm noUps.1
      · exact (List.suffix_cons part p).trans rest

theorem size_lt_of_target {t : Target} (led : d.target path = .ok t) :
    Text.Utf8.size path < pathSizeLimit := by
  refine Nat.lt_of_not_le fun long => ?_
  unfold target at led
  split at led
  · simp at led
  · simp at led

/-! Sound disks. -/

namespace IsSound

private theorem parent (sound : d.IsSound) {name : Text} (there : d.node? (name :: p) ≠ none) :
    d.node? p = some .directory := by
  obtain ⟨n, found⟩ := Option.ne_none_iff_exists'.mp there
  have looked : lookupNode (name :: p) d.nodes = some n := by simpa [node?] using found
  obtain ⟨m, mem⟩ := exists_mem_of_lookupNode looked
  exact sound.parents (name :: p, m) mem

private theorem directory_of_suffix (sound : d.IsSound) (above : p <:+ q)
    (found : d.node? q = some .directory) : d.node? p = some .directory := by
  obtain ⟨names, rfl⟩ := above
  induction names with
  | nil => exact found
  | cons name names ih =>
    rw [List.cons_append] at found
    exact ih (sound.parent (found ▸ Option.some_ne_none _))

private theorem enterAll_reverse (sound : d.IsSound) (valid : ∀ name ∈ p, IsName name)
    (found : d.node? p = some .directory) : d.enterAll [] p.reverse = .ok p := by
  induction p with
  | nil => rfl
  | cons name p ih =>
    obtain ⟨first, rest⟩ := List.forall_mem_cons.mp valid
    have walked := ih rest (sound.parent (found ▸ Option.some_ne_none _))
    rw [List.reverse_cons, enterAll_append walked, enterAll_singleton]
    exact enter_of_directory first.notHere first.notUp first.short found

private theorem enterAll (sound : d.IsSound) {parts : List Text} (walked : d'.enterAll p parts = .ok q)
    (noUps : ['.', '.'] ∉ parts) (found : d.node? q = some .directory) :
    d.enterAll p parts = .ok q := by
  -- Without `..` the walk only goes down, so all that it passes is above `q` and hence on this disk.
  induction parts generalizing p with
  | nil => exact walked
  | cons part parts ih =>
    rw [List.mem_cons, not_or] at noUps
    unfold Tree.enterAll at walked ⊢
    split at walked
    · simp at walked
    · rename_i first entered
      have rest := ih walked noUps.2
      have passed := sound.directory_of_suffix (suffix_of_enterAll walked noUps.2) found
      rcases enter_eq_ok entered with ⟨rfl, rfl⟩ | ⟨up, -⟩ | ⟨notStay, notUp, short, -, rfl⟩
      · exact rest
      · exact absurd up.symm noUps.1
      · rw [enter_of_directory notStay notUp short passed]
        exact rest

end IsSound

/-! Absolute paths. -/

/-- Whether the working directory has a path that leads to it. -/
structure IsHome (d : Tree) : Prop where
  names : ∀ name ∈ d.here, IsName name
  walk : d.enterAll [] d.here.reverse = .ok d.here

theorem IsSound.isHome (sound : d.IsSound) : d.IsHome :=
  ⟨sound.names, sound.enterAll_reverse sound.names sound.here⟩

theorem Grows.isHome (grows : d.Grows d') (home : d.IsHome) : d'.IsHome := by
  refine ⟨grows.here ▸ home.names, ?_⟩
  rw [grows.here]
  exact grows.enterAll home.walk

theorem Grows.herePath (grows : d.Grows d') : d'.herePath = d.herePath := by
  rw [Tree.herePath, Tree.herePath, grows.here]

private theorem IsHome.target_joinPath (home : d.IsHome) (relative : isAbsolute path = false)
    (nonempty : path ≠ []) (small : Text.Utf8.size (joinPath d.herePath path) < pathSizeLimit) :
    d.target (joinPath d.herePath path) = d.target path := by
  have named := pathParts_ne_nil relative nonempty
  have parts : pathParts (joinPath d.herePath path) = d.here.reverse ++ pathParts path := by
    rw [pathParts_joinPath _ relative, Tree.herePath, pathParts_placePath home.names]
  obtain ⟨between, joined, -⟩ := exists_joinPath d.herePath relative
  have visible : joinPath d.herePath path ≠ [] := by simp [joined, nonempty]
  have shorter : Text.Utf8.size path < pathSizeLimit := by
    rw [joined, Text.Utf8.size_append] at small
    omega
  obtain ⟨last, lastPart⟩ := Option.ne_none_iff_exists'.mp (List.getLast?_eq_none_iff.not.mpr named)
  have closed : Text.endsWith (joinPath d.herePath path) ['/'] = Text.endsWith path ['/'] := by
    rw [joined, Text.endsWith_append_singleton nonempty]
  unfold target
  rw [isAbsolute_joinPath relative rfl, relative, parts, List.getLast?_append, lastPart,
    List.dropLast_append_of_ne_nil named, closed]
  simp [visible, nonempty, Nat.not_le.mpr small, Nat.not_le.mpr shorter,
    enterAll_append home.walk]

theorem IsHome.place?_joinPath_eq_some_iff (home : d.IsHome) (relative : isAbsolute path = false)
    (nonempty : path ≠ []) : d.place? (joinPath d.herePath path) = some p ↔
      Text.Utf8.size (joinPath d.herePath path) < pathSizeLimit ∧ d.place? path = some p := by
  have clean : holdsNull (joinPath d.herePath path) = holdsNull path := by
    obtain ⟨between, joined, cleanBetween⟩ := exists_joinPath d.herePath relative
    have cleanHere : holdsNull d.herePath = false := holdsNull_placePath home.names
    rw [joined, holdsNull_append, holdsNull_append, cleanBetween, cleanHere]
    rfl
  simp only [place?_eq_some_iff, clean]
  constructor
  · rintro ⟨free, parent, name, led, rfl⟩
    have small := size_lt_of_target led
    rw [home.target_joinPath relative nonempty small] at led
    exact ⟨small, free, parent, name, led, rfl⟩
  · rintro ⟨small, free, parent, name, led, rfl⟩
    exact ⟨free, parent, name, (home.target_joinPath relative nonempty small).trans led, rfl⟩

theorem IsSound.place? (sound : d.IsSound) (grows : d.Grows d') (noUps : ['.', '.'] ∉ pathParts path)
    (placed : d'.place? path = some p) (there : d.node? p ≠ none) : d.place? path = some p := by
  obtain ⟨clean, parent, name, led, rfl⟩ := place?_eq_some_iff.mp placed
  refine place?_eq_some_iff.mpr ⟨clean, parent, name, ?_, rfl⟩
  obtain ⟨-, -, walked, -⟩ := target_eq_named led
  refine target_of_walk grows.here.symm (fun p walked' => ?_) led
  obtain rfl := Except.ok.inj (walked.symm.trans walked')
  exact sound.enterAll walked (fun mem => noUps (List.dropLast_subset _ mem)) (sound.parent there)

theorem IsSound.readFile_joinPath_eq_ok_iff (sound : d.IsSound) (grows : d.Grows d')
    (relative : isAbsolute path = false) (nonempty : path ≠ []) (noUps : ['.', '.'] ∉ pathParts path)
    (kept : ∀ p, d'.place? path = some p → d'.fileAt p = d.fileAt p) {b : Bytes} :
    d'.readFile (joinPath d.herePath path) = .ok b ↔
      Text.Utf8.size (joinPath d.herePath path) < pathSizeLimit ∧ d.readFile path = .ok b := by
  have home := grows.isHome sound.isHome
  rw [← grows.herePath]
  simp only [readFile_eq_ok_iff, home.place?_joinPath_eq_some_iff relative nonempty]
  constructor
  · rintro ⟨p, ⟨small, placed⟩, file⟩
    rw [kept p placed] at file
    have there : d.node? p ≠ none := by
      intro none
      simp [fileAt, none] at file
    exact ⟨small, p, sound.place? grows noUps placed there, file⟩
  · rintro ⟨small, p, placed, file⟩
    have placed' := grows.place? placed
    exact ⟨p, ⟨small, placed'⟩, (kept p placed').trans file⟩

theorem node?_of_not_exists {parent : Place} {name : Text} (absent : d.exists? path = false)
    (clean : holdsNull path = false) (led : d.target path = .ok (.named parent name false)) :
    d.node? (name :: parent) = none := by
  unfold exists? find? at absent
  simp only [clean, led, Bool.false_eq_true, if_false] at absent
  cases found : d.node? (name :: parent) with
  | none => rfl
  | some n => cases n <;> simp [found] at absent

/-! Directories that are there. -/

private theorem isDirectory_of_enterAll (nonempty : path ≠ [])
    (small : Text.Utf8.size path < pathSizeLimit) (clean : holdsNull path = false)
    (walked : d.enterAll (if isAbsolute path then [] else d.here) (pathParts path) = .ok p) :
    d.isDirectory path = true := by
  have found : d.find? path = some .directory := by
    unfold find?
    rw [clean]
    unfold target
    simp only [nonempty, Nat.not_le.mpr small, List.isEmpty_iff, if_false, Bool.false_eq_true]
    cases last : (pathParts path).getLast? with
    | none => rfl
    | some name =>
      obtain ⟨parts, split⟩ := List.getLast?_eq_some_iff.mp last
      rw [split] at walked
      obtain ⟨parent, before, entered⟩ := enterAll_append_eq_ok walked
      rw [enterAll_singleton] at entered
      rw [split, List.dropLast_concat, before]
      rcases enter_eq_ok entered with ⟨rfl, -⟩ | ⟨rfl, -⟩ | ⟨notStay, notUp, short, found, -⟩
      · rfl
      · rfl
      · simp [notStay, notUp, short, found]
  simp [isDirectory, found]

theorem unmade_eq_nil {paths : List Text} (there : ∀ q ∈ paths, d.exists? q = true) :
    d.unmade paths = [] := by
  induction paths with
  | nil => rfl
  | cons q paths ih =>
    obtain ⟨first, rest⟩ := List.forall_mem_cons.mp there
    cases paths with
    | nil => simp [unmade, first]
    | cons q' paths =>
      unfold unmade
      rw [List.any_cons, rest q' List.mem_cons_self]
      exact ih rest

private theorem makeDirectory_of_isDirectory (found : d.isDirectory path = true) :
    ∃ problem, d.makeDirectory path = .error (.system problem path) := by
  unfold isDirectory find? at found
  unfold makeDirectory atTarget
  cases clean : holdsNull path with
  | true => simp [clean] at found
  | false =>
    simp only [clean, Bool.false_eq_true, if_false] at found ⊢
    cases led : d.target path with
    | error e => simp [led] at found
    | ok t =>
      cases t with
      | itself q => exact ⟨.taken, rfl⟩
      | named parent name slash =>
        simp only [led] at found
        cases node : d.node? (name :: parent) with
        | none => simp [node] at found
        | some n => exact ⟨.taken, by simp [node]⟩

theorem exists_of_mem_leadingPaths
    (small : ∀ q ∈ leadingPaths path, Text.Utf8.size q < pathSizeLimit)
    (clean : holdsNull path = false)
    (walked : d.enterAll (if isAbsolute path then [] else d.here) (pathParts path).dropLast = .ok p) :
    ∀ q ∈ leadingPaths path, d.exists? q = true := by
  intro q mem
  obtain ⟨visible, rest, split, named⟩ := mem_leadingPaths mem
  have front : q <+: path := ⟨'/' :: rest, split.symm⟩
  rw [split, pathParts_append_slash, List.dropLast_append_of_ne_nil named, ← split,
    ← isAbsolute_of_beginning front visible] at walked
  obtain ⟨between, before, -⟩ := enterAll_append_eq_ok walked
  have there := isDirectory_of_enterAll visible (small q mem) (holdsNull_of_beginning front clean)
    before
  unfold isDirectory at there
  rw [exists?, beq_iff_eq.mp there]
  rfl

private theorem size_lt_of_mem_leadingPaths (small : Text.Utf8.size path < pathSizeLimit) :
    ∀ q ∈ leadingPaths path, Text.Utf8.size q < pathSizeLimit := by
  intro q mem
  obtain ⟨-, rest, split, -⟩ := mem_leadingPaths mem
  exact Nat.lt_of_le_of_lt (Text.Utf8.size_le_of_beginning ⟨'/' :: rest, split.symm⟩) small

theorem HasRoom.isSystem {room : Nat} {e : Failure} (roomy : d.HasRoom room path)
    (clean : holdsNull path = false) (failed : d.makeDirectories room path = (.error e, d')) :
    e.isSystem = true := by
  obtain ⟨q, part, _, refused⟩ := roomy.exists_refused failed
  rcases part with rfl | mem
  · exact isSystem_of_atTarget clean refused
  · obtain ⟨-, rest, split, -⟩ := mem_leadingPaths mem
    exact isSystem_of_atTarget (holdsNull_of_beginning ⟨'/' :: rest, split.symm⟩ clean) refused

theorem makeDirectories_of_enterAll (room : Nat) (nonempty : path ≠ [])
    (small : Text.Utf8.size path < pathSizeLimit) (clean : holdsNull path = false)
    (walked : d.enterAll (if isAbsolute path then [] else d.here) (pathParts path) = .ok p) :
    d.makeDirectories room path = (.ok (), d) := by
  have found := isDirectory_of_enterAll nonempty small clean walked
  obtain ⟨between, before⟩ : ∃ between, d.enterAll (if isAbsolute path then [] else d.here)
      (pathParts path).dropLast = .ok between := by
    rcases List.eq_nil_or_concat (pathParts path) with none | ⟨parts, last, split⟩
    · rw [none]
      exact ⟨_, rfl⟩
    · rw [split, List.concat_eq_append] at walked ⊢
      obtain ⟨between, before, -⟩ := enterAll_append_eq_ok walked
      exact ⟨between, by rwa [List.dropLast_concat]⟩
  have leading := exists_of_mem_leadingPaths (size_lt_of_mem_leadingPaths small) clean before
  obtain ⟨problem, taken⟩ := makeDirectory_of_isDirectory found
  unfold makeDirectories
  simp [unmade_eq_nil leading, makeLeading, makeLast, taken, passesOver, found, Failure.isSystem]

theorem makeDirectories_of_free (room : Nat) {parent : Place} {name : Text} {slash : Bool}
    (clean : holdsNull path = false) (led : d.target path = .ok (.named parent name slash))
    (free : d.node? (name :: parent) = none) :
    d.makeDirectories room path = (.ok (), d.set (name :: parent) .directory) := by
  obtain ⟨-, -, walked, -⟩ := target_eq_named led
  have leading := exists_of_mem_leadingPaths (size_lt_of_mem_leadingPaths (size_lt_of_target led))
    clean walked
  have made : d.makeDirectory path = .ok (d.set (name :: parent) .directory) := by
    simp [makeDirectory, atTarget, clean, led, free, Except.mapError]
  unfold makeDirectories
  simp [unmade_eq_nil leading, makeLeading, makeLast, made]

theorem target_joinPath_of_name {name : Text} (absolute : isAbsolute path = true)
    (walked : d.enterAll [] (pathParts path) = .ok p) (valid : IsName name)
    (small : Text.Utf8.size (joinPath path name) < pathSizeLimit) :
    d.target (joinPath path name) = .ok (.named p name false) := by
  have relative := valid.relative
  have parts : pathParts (joinPath path name) = pathParts path ++ [name] := by
    rw [pathParts_joinPath path relative, pathParts_of_bare valid.nonempty valid.bare]
  have unfinished : Text.endsWith (joinPath path name) ['/'] = false := by
    obtain ⟨between, joined, -⟩ := exists_joinPath path relative
    rw [joined, Text.endsWith_append_singleton valid.nonempty, Bool.eq_false_iff, Ne,
      Text.endsWith_singleton]
    exact fun last => valid.bare (List.mem_of_getLast? last)
  have visible : joinPath path name ≠ [] := by
    obtain ⟨between, joined, -⟩ := exists_joinPath path relative
    simp [joined, valid.nonempty]
  unfold target
  simp only [parts, isAbsolute_joinPath relative absolute, List.getLast?_concat, List.dropLast_concat,
    walked, unfinished, valid.short, if_true]
  simp [visible, Nat.not_le.mpr small, valid.notHere, valid.notUp]

/-! Longer names. -/

theorem target_append {suffix : Text} (bare : '/' ∉ suffix) (long : 2 < suffix.length)
    (placed : d.place? path = some p) :
    (Fits (path ++ suffix) → ∃ parent name, p.lengthen suffix = name :: parent ∧
      d.target (path ++ suffix) = .ok (.named parent name false)) ∧
    (¬ Fits (path ++ suffix) → d.target (path ++ suffix) = .error .longName) := by
  obtain ⟨-, parent, name, led, rfl⟩ := place?_eq_some_iff.mp placed
  obtain ⟨nonempty, lastName, walked, closed⟩ := target_eq_named led
  obtain ⟨parts, last, short, longer⟩ := exists_pathParts_append bare nonempty closed.symm
  have visible : suffix ≠ [] := by
    rintro rfl
    simp at long
  have sameStart : isAbsolute (path ++ suffix) = isAbsolute path :=
    (isAbsolute_of_beginning (List.prefix_append path suffix) nonempty).symm
  have open' : Text.endsWith (path ++ suffix) ['/'] = false := by
    rw [Text.endsWith_append_singleton visible, Bool.eq_false_iff, Ne, Text.endsWith_singleton]
    exact fun ends => bare (List.mem_of_getLast? ends)
  have base : baseName (path ++ suffix) = last ++ suffix := by
    have found := getLast?_pathParts (List.append_ne_nil_of_left_ne_nil nonempty suffix) open'
    rw [longer, List.getLast?_concat] at found
    exact (Option.some.inj found).symm
  rw [short, List.getLast?_concat] at lastName
  obtain rfl := Option.some.inj lastName
  rw [short, List.dropLast_concat] at walked
  have longName : 2 < (last ++ suffix).length := by
    rw [List.length_append]
    omega
  have notStay : last ++ suffix ≠ ['.'] := by
    intro eq
    simp [eq] at longName
  have notUp : last ++ suffix ≠ ['.', '.'] := by
    intro eq
    simp [eq] at longName
  have step : d.target (path ++ suffix) =
      if pathSizeLimit ≤ Text.Utf8.size (path ++ suffix) then .error .longName
      else if isLongName (last ++ suffix) then .error .longName
      else .ok (.named parent (last ++ suffix) false) := by
    unfold target
    simp only [longer, List.getLast?_concat, List.dropLast_concat, sameStart, walked, open']
    simp [nonempty, notStay, notUp]
  rw [step]
  constructor
  · rintro ⟨fitsName, fitsSize⟩
    rw [base] at fitsName
    exact ⟨parent, last ++ suffix, rfl, by simp [Nat.not_le.mpr fitsSize, fitsName]⟩
  · intro unfit
    split
    · rfl
    · rename_i small
      split
      · rfl
      · rename_i fitsName
        exact absurd ⟨by simpa [base] using fitsName, Nat.lt_of_not_le small⟩ unfit

end Tree

end Redline.Disk
