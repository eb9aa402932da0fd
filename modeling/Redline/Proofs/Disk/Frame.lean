import Redline.Disk.Operations
import Redline.Proofs.Outcome

set_option autoImplicit false
set_option relaxedAutoImplicit false

/-!
What operations on a disk leave alone. Writing and moving change the files at the places that their
paths name, and no others; making directories changes no file at all. None of them takes a directory
away, so a path that names a place goes on naming it.
-/

namespace Redline.Disk

open Text.Utf8 (Bytes)

private theorem lookupNode_setNode (p q : Place) (n : Node) (ns : List (Place × Node)) :
    lookupNode q (setNode p n ns) = if q = p then some n else lookupNode q ns := by
  induction ns with
  | nil => simp [setNode, lookupNode, eq_comm]
  | cons e ns ih =>
    obtain ⟨r, m⟩ := e
    by_cases here : r = p
    · subst here
      by_cases asked : q = r
      · simp [setNode, lookupNode, asked]
      · simp [setNode, lookupNode, asked, Ne.symm asked]
    · by_cases asked : q = p
      · subst asked
        simp [setNode, lookupNode, here, ih]
      · simp [setNode, lookupNode, here, ih, asked]

private theorem lookupNode_eraseNode (p q : Place) (ns : List (Place × Node)) :
    lookupNode q (eraseNode p ns) = if q = p then none else lookupNode q ns := by
  induction ns with
  | nil => simp [eraseNode, lookupNode]
  | cons e ns ih =>
    obtain ⟨r, m⟩ := e
    by_cases here : r = p
    · subst here
      rw [eraseNode, if_pos rfl, ih, lookupNode]
      by_cases asked : q = r
      · simp [asked]
      · simp [asked, Ne.symm asked]
    · by_cases asked : q = p
      · subst asked
        simp [eraseNode, lookupNode, here, ih]
      · simp [eraseNode, lookupNode, here, ih, asked]

namespace Tree

variable {d d' d'' : Tree}

theorem node?_set {p : Place} (inside : p ≠ []) (n : Node) (q : Place) :
    (d.set p n).node? q = if q = p then some n else d.node? q := by
  by_cases root : q = []
  · subst root
    simp [node?, Ne.symm inside]
  · simp [node?, set, root, lookupNode_setNode]

theorem node?_erase {p : Place} (inside : p ≠ []) (q : Place) :
    (d.erase p).node? q = if q = p then none else d.node? q := by
  by_cases root : q = []
  · subst root
    simp [node?, Ne.symm inside]
  · simp [node?, erase, root, lookupNode_eraseNode]

def fileAt (d : Tree) (p : Place) : Option Bytes :=
  match d.node? p with
  | some (.file b) => some b
  | _ => none

def place? (d : Tree) (path : Text) : Option Place :=
  if holdsNull path then none
  else match d.target path with
    | .ok (.named p name false) => some (name :: p)
    | _ => none

theorem fileAt_set_file {p : Place} (inside : p ≠ []) (b : Bytes) (q : Place) :
    (d.set p (.file b)).fileAt q = if q = p then some b else d.fileAt q := by
  by_cases asked : q = p
  · simp [fileAt, node?_set inside, asked]
  · simp [fileAt, node?_set inside, asked]

theorem fileAt_erase {p : Place} (inside : p ≠ []) (q : Place) :
    (d.erase p).fileAt q = if q = p then none else d.fileAt q := by
  by_cases asked : q = p
  · simp [fileAt, node?_erase inside, asked]
  · simp [fileAt, node?_erase inside, asked]

theorem place?_eq_some_iff {path : Text} {p : Place} :
    d.place? path = some p ↔ holdsNull path = false ∧
      ∃ parent name, d.target path = .ok (.named parent name false) ∧ p = name :: parent := by
  constructor
  · intro placed
    unfold place? at placed
    split at placed
    · simp at placed
    · rename_i clean
      split at placed
      · rename_i parent name target
        exact ⟨by simpa using clean, parent, name, target, (Option.some.inj placed).symm⟩
      · simp at placed
  · rintro ⟨clean, parent, name, target, rfl⟩
    simp [place?, clean, target]

theorem place_ne_nil {path : Text} {p : Place} (placed : d.place? path = some p) : p ≠ [] := by
  obtain ⟨-, parent, name, -, rfl⟩ := place?_eq_some_iff.mp placed
  exact List.cons_ne_nil name parent

theorem atTarget_eq_ok_iff {α : Type} {path : Text} {look : Target → Except Problem α} {a : α} :
    d.atTarget path look = .ok a ↔
      holdsNull path = false ∧ ∃ t, d.target path = .ok t ∧ look t = .ok a := by
  unfold atTarget
  split
  · simp_all
  · rename_i clean
    split
    · rename_i e target
      simp [target]
    · rename_i t target
      simp [clean, target, mapError_eq_ok_iff]

private theorem atTarget_eq_error {α : Type} {path : Text} {look : Target → Except Problem α} {e : Failure}
    (failed : d.atTarget path look = .error e) :
    e = .nullInPath ∧ holdsNull path = true ∨ ∃ problem, e = .system problem path := by
  unfold atTarget at failed
  split at failed
  · rename_i null
    exact .inl ⟨(Except.error.inj failed).symm, null⟩
  · split at failed
    · exact .inr ⟨_, (Except.error.inj failed).symm⟩
    · obtain ⟨problem, -, rfl⟩ := mapError_eq_error_iff.mp failed
      exact .inr ⟨problem, rfl⟩

theorem ne_tooDeep_of_atTarget {α : Type} {path : Text} {look : Target → Except Problem α}
    {e : Failure} (failed : d.atTarget path look = .error e) : e ≠ .tooDeep := by
  obtain ⟨rfl, -⟩ | ⟨problem, rfl⟩ := atTarget_eq_error failed <;> nofun

theorem isSystem_of_atTarget {α : Type} {path : Text} {look : Target → Except Problem α}
    {e : Failure} (clean : holdsNull path = false) (failed : d.atTarget path look = .error e) :
    e.isSystem = true := by
  obtain ⟨-, null⟩ | ⟨problem, rfl⟩ := atTarget_eq_error failed
  · simp [clean] at null
  · rfl

theorem readFile_eq_ok_iff {path : Text} {b : Bytes} :
    d.readFile path = .ok b ↔ ∃ p, d.place? path = some p ∧ d.fileAt p = some b := by
  simp only [readFile, atTarget_eq_ok_iff, place?_eq_some_iff]
  constructor
  · rintro ⟨clean, t, target, look⟩
    cases t with
    | itself p => simp at look
    | named parent name slash =>
      simp only at look
      split at look
      · simp at look
      · simp at look
      · rename_i content found
        split at look
        · simp at look
        · rename_i plain
          obtain rfl : slash = false := by simpa using plain
          obtain rfl := Except.ok.inj look
          exact ⟨_, ⟨clean, parent, name, target, rfl⟩, by simp [fileAt, found]⟩
  · rintro ⟨p, ⟨clean, parent, name, target, rfl⟩, file⟩
    refine ⟨clean, _, target, ?_⟩
    unfold fileAt at file
    split at file
    · rename_i content found
      simpa [found] using file
    · simp at file

theorem isFile_iff {path : Text} : d.isFile path = true ↔ ∃ b, d.readFile path = .ok b := by
  unfold isFile find?
  simp only [readFile, atTarget_eq_ok_iff]
  cases holdsNull path with
  | true => simp
  | false =>
    cases d.target path with
    | error e => simp
    | ok t =>
      cases t with
      | itself p => simp
      | named parent name slash =>
        cases found : d.node? (name :: parent) with
        | none => simp [found]
        | some n =>
          cases n with
          | directory => simp [found]
          | file b => cases slash <;> simp [found]

theorem removeFile_eq_ok_iff {path : Text} :
    d.removeFile path = .ok d' ↔
      ∃ p b, d.place? path = some p ∧ d.fileAt p = some b ∧ d' = d.erase p := by
  simp only [removeFile, atTarget_eq_ok_iff, place?_eq_some_iff]
  constructor
  · rintro ⟨clean, t, target, look⟩
    cases t with
    | itself p => simp at look
    | named parent name slash =>
      simp only at look
      split at look
      · simp at look
      · simp at look
      · rename_i content found
        split at look
        · simp at look
        · rename_i plain
          obtain rfl : slash = false := by simpa using plain
          exact ⟨_, content, ⟨clean, parent, name, target, rfl⟩, by simp [fileAt, found],
            (Except.ok.inj look).symm⟩
  · rintro ⟨p, b, ⟨clean, parent, name, target, rfl⟩, file, rfl⟩
    refine ⟨clean, _, target, ?_⟩
    unfold fileAt at file
    split at file
    · rename_i content found
      simp [found]
    · simp at file

theorem writable_eq_ok {t : Target} {p : Place} {b : Bytes} (ok : d.writable t = .ok (p, b)) :
    ∃ parent name, t = .named parent name false ∧ p = name :: parent ∧
      d.node? p ≠ some .directory := by
  cases t with
  | itself q => simp [writable] at ok
  | named parent name slash =>
    simp only [writable] at ok
    split at ok
    · simp at ok
    · rename_i plain
      obtain rfl : slash = false := by simpa using plain
      split at ok
      · simp at ok
      · rename_i found
        obtain ⟨rfl, rfl⟩ := Prod.mk.inj (Except.ok.inj ok)
        exact ⟨parent, name, rfl, rfl, by simp [found]⟩
      · rename_i found
        obtain ⟨rfl, rfl⟩ := Prod.mk.inj (Except.ok.inj ok)
        exact ⟨parent, name, rfl, rfl, by simp [found]⟩

theorem writeFile_eq_ok {path : Text} {b : Bytes} (wrote : d.writeFile path b = .ok d') :
    ∃ p, d.place? path = some p ∧ d.node? p ≠ some .directory ∧ d' = d.set p (.file b) := by
  obtain ⟨⟨p, before⟩, look, rfl⟩ := map_eq_ok_iff.mp wrote
  obtain ⟨clean, t, target, ok⟩ := atTarget_eq_ok_iff.mp look
  obtain ⟨parent, name, rfl, rfl, free⟩ := writable_eq_ok ok
  exact ⟨_, place?_eq_some_iff.mpr ⟨clean, parent, name, target, rfl⟩, free, rfl⟩

theorem appendFile_eq_ok {path : Text} {b : Bytes} (wrote : d.appendFile path b = .ok d') :
    ∃ p before, d.place? path = some p ∧ d.node? p ≠ some .directory ∧
      d' = d.set p (.file (before ++ b)) := by
  obtain ⟨⟨p, before⟩, look, rfl⟩ := map_eq_ok_iff.mp wrote
  obtain ⟨clean, t, target, ok⟩ := atTarget_eq_ok_iff.mp look
  obtain ⟨parent, name, rfl, rfl, free⟩ := writable_eq_ok ok
  exact ⟨_, before, place?_eq_some_iff.mpr ⟨clean, parent, name, target, rfl⟩, free, rfl⟩

theorem moveFile_eq_ok {source target : Text} (moved : d.moveFile source target = .ok d') :
    ∃ p q b, d.place? source = some p ∧ d.place? target = some q ∧ d.fileAt p = some b ∧
      d.node? q ≠ some .directory ∧ d' = (d.erase p).set q (.file b) := by
  unfold moveFile at moved
  split at moved
  · simp at moved
  · rename_i clean
    obtain ⟨cleanSource, cleanTarget⟩ : holdsNull source = false ∧ holdsNull target = false := by
      simpa using clean
    simp only [mapError_eq_ok_iff, bind_eq_ok_iff] at moved
    obtain ⟨s, sourceTarget, t, targetTarget, between⟩ := moved
    unfold moveBetween at between
    split at between
    · rename_i p name slash q name' slash'
      split at between
      · simp at between
      · simp at between
      · rename_i content found
        split at between
        · simp at between
        · rename_i plain
          obtain ⟨rfl, rfl⟩ : slash = false ∧ slash' = false := by simpa using plain
          split at between
          · simp at between
          · rename_i free
            exact ⟨name :: p, name' :: q, content,
              place?_eq_some_iff.mpr ⟨cleanSource, p, name, sourceTarget, rfl⟩,
              place?_eq_some_iff.mpr ⟨cleanTarget, q, name', targetTarget, rfl⟩,
              by simp [fileAt, found], free, (Except.ok.inj between).symm⟩
    · simp at between

theorem makeDirectory_eq_ok {path : Text} (made : d.makeDirectory path = .ok d') :
    ∃ parent name slash, d.target path = .ok (.named parent name slash) ∧
      d.node? (name :: parent) = none ∧ d' = d.set (name :: parent) .directory := by
  obtain ⟨-, t, target, look⟩ := atTarget_eq_ok_iff.mp made
  cases t with
  | itself p => simp at look
  | named parent name slash =>
    simp only at look
    split at look
    · simp at look
    · rename_i free
      exact ⟨parent, name, slash, target, free, (Except.ok.inj look).symm⟩

theorem target_of_walk {path : Text} {t : Target} (here : d'.here = d.here)
    (walk : ∀ p, d.enterAll (if isAbsolute path then [] else d.here) (pathParts path).dropLast = .ok p →
      d'.enterAll (if isAbsolute path then [] else d.here) (pathParts path).dropLast = .ok p)
    (led : d.target path = .ok t) : d'.target path = .ok t := by
  unfold Tree.target at led ⊢
  rw [here]
  split
  · rename_i empty
    rwa [if_pos empty] at led
  · rename_i some
    rw [if_neg some] at led
    split
    · rename_i long
      rwa [if_pos long] at led
    · rename_i short
      rw [if_neg short] at led
      simp only at led ⊢
      split
      · rename_i none
        rwa [none] at led
      · rename_i name last
        simp only [last] at led
        split at led
        · simp at led
        · rename_i p walked
          rw [walk p walked]
          exact led

/-! Making directories. -/

private theorem mem_of_mem_unmade {paths : List Text} {q : Text} (mem : q ∈ d.unmade paths) :
    q ∈ paths := by
  induction paths with
  | nil => exact mem
  | cons r paths ih =>
    unfold unmade at mem
    split at mem
    · exact List.mem_cons_of_mem r (ih mem)
    · split at mem
      · exact List.mem_cons_of_mem r mem
      · exact mem

theorem mem_of_mem_attempted {paths : List Text} {q : Text} (mem : q ∈ (d.unmade paths).take 1 ++
    ((d.unmade paths).drop 1).filter (!endsInDot ·)) : q ∈ paths := by
  refine mem_of_mem_unmade (d := d) ?_
  rcases List.mem_append.mp mem with mem | mem
  · exact List.mem_of_mem_take mem
  · exact List.mem_of_mem_drop (List.mem_filter.mp mem).1

private theorem makeLeading_keeps {P : Tree → Prop} {paths : List Text}
    (keeps : ∀ q ∈ paths, ∀ d d', P d → d.makeDirectory q = .ok d' → P d') (start : P d) :
    P (d.makeLeading paths).2 := by
  induction paths generalizing d with
  | nil => exact start
  | cons q paths ih =>
    obtain ⟨first, others⟩ := List.forall_mem_cons.mp keeps
    unfold makeLeading
    split
    · rename_i d' made
      exact ih others (first d d' start made)
    · split
      · exact ih others start
      · exact start

theorem makeDirectories_keeps {P : Tree → Prop} {room : Nat} {path : Text}
    (keeps : ∀ q, q = path ∨ q ∈ leadingPaths path →
      ∀ d d', P d → d.makeDirectory q = .ok d' → P d') (start : P d) :
    P (d.makeDirectories room path).2 := by
  have leading : P (d.makeLeading (((d.unmade (leadingPaths path)).take 1) ++
      ((d.unmade (leadingPaths path)).drop 1).filter (!endsInDot ·))).2 :=
    makeLeading_keeps (fun q mem => keeps q (.inr (mem_of_mem_attempted mem))) start
  unfold makeDirectories
  simp only
  split
  · exact start
  split
  · rename_i e d' made
    rwa [made] at leading
  · rename_i d' made
    rw [made] at leading
    split
    · exact leading
    · unfold makeLast
      split
      · rename_i last lastMade
        exact keeps path (.inl rfl) d' last leading lastMade
      · split <;> exact leading

/-- Whether no more directories are missing on the way to one than calls may nest. -/
def HasRoom (d : Tree) (room : Nat) (path : Text) : Prop :=
  (d.unmade (leadingPaths path)).length ≤ room

instance (d : Tree) (room : Nat) (path : Text) : Decidable (d.HasRoom room path) :=
  inferInstanceAs (Decidable (_ ≤ _))

private theorem exists_refused_of_makeLeading {paths : List Text} {e : Failure}
    (failed : d.makeLeading paths = (.error e, d')) :
    ∃ q ∈ paths, ∃ before : Tree, before.makeDirectory q = .error e := by
  induction paths generalizing d with
  | nil => simp [makeLeading] at failed
  | cons q paths ih =>
    have later {made : Tree} (failed : made.makeLeading paths = (.error e, d')) :
        ∃ p ∈ q :: paths, ∃ before : Tree, before.makeDirectory p = .error e := by
      obtain ⟨p, mem, refused⟩ := ih failed
      exact ⟨p, List.mem_cons_of_mem q mem, refused⟩
    unfold makeLeading at failed
    split at failed
    · exact later failed
    · rename_i e' refused
      split at failed
      · exact later failed
      · obtain rfl := Except.error.inj (Prod.mk.inj failed).1
        exact ⟨q, List.mem_cons_self, d, refused⟩

theorem HasRoom.exists_refused {room : Nat} {path : Text} {e : Failure} (roomy : d.HasRoom room path)
    (failed : d.makeDirectories room path = (.error e, d')) :
    ∃ q, (q = path ∨ q ∈ leadingPaths path) ∧ ∃ before : Tree, before.makeDirectory q = .error e := by
  unfold makeDirectories at failed
  simp only [if_neg (Nat.not_lt.mpr roomy)] at failed
  split at failed
  · rename_i stopped
    obtain rfl := Except.error.inj (Prod.mk.inj failed).1
    obtain ⟨q, mem, refused⟩ := exists_refused_of_makeLeading stopped
    exact ⟨q, .inr (mem_of_mem_attempted mem), refused⟩
  · split at failed
    · simp at failed
    · rename_i made _ _
      unfold makeLast at failed
      split at failed
      · simp at failed
      · rename_i refused
        split at failed
        · simp at failed
        · obtain rfl := Except.error.inj (Prod.mk.inj failed).1
          exact ⟨path, .inl rfl, made, refused⟩

theorem HasRoom.ne_tooDeep {room : Nat} {path : Text} {e : Failure} (roomy : d.HasRoom room path)
    (failed : d.makeDirectories room path = (.error e, d')) : e ≠ .tooDeep := by
  obtain ⟨_, -, _, refused⟩ := roomy.exists_refused failed
  exact ne_tooDeep_of_atTarget refused

/-- Walks start where they did, and no directory is gone. -/
structure Grows (d d' : Tree) : Prop where
  here : d'.here = d.here
  directory : ∀ p, d.node? p = some .directory → d'.node? p = some .directory

namespace Grows

theorem refl (d : Tree) : Grows d d := ⟨rfl, fun _ found => found⟩

theorem trans (first : Grows d d') (second : Grows d' d'') : Grows d d'' :=
  ⟨second.here.trans first.here, fun p found => second.directory p (first.directory p found)⟩

theorem set_file {p : Place} (inside : p ≠ []) (free : d.node? p ≠ some .directory) (b : Bytes) :
    Grows d (d.set p (.file b)) := by
  refine ⟨rfl, fun q found => ?_⟩
  have other : q ≠ p := fun eq => free (eq ▸ found)
  rw [node?_set inside, if_neg other, found]

theorem erase {p : Place} (inside : p ≠ []) (free : d.node? p ≠ some .directory) :
    Grows d (d.erase p) := by
  refine ⟨rfl, fun q found => ?_⟩
  have other : q ≠ p := fun eq => free (eq ▸ found)
  rw [node?_erase inside, if_neg other, found]

private theorem enter (grows : Grows d d') {p q : Place} {part : Text} (entered : d.enter p part = .ok q) :
    d'.enter p part = .ok q := by
  unfold Tree.enter at entered ⊢
  split
  · rename_i stay
    rwa [if_pos stay] at entered
  · rename_i notStay
    rw [if_neg notStay] at entered
    split
    · rename_i up
      rwa [if_pos up] at entered
    · rename_i notUp
      rw [if_neg notUp] at entered
      split
      · rename_i long
        rwa [if_pos long] at entered
      · rename_i short
        rw [if_neg short] at entered
        split at entered
        · simp at entered
        · simp at entered
        · -- Only here the disk is looked at, and what it shows is a directory, which stays.
          rename_i found
          rwa [grows.directory _ found]

theorem enterAll (grows : Grows d d') {p q : Place} {parts : List Text}
    (entered : d.enterAll p parts = .ok q) : d'.enterAll p parts = .ok q := by
  induction parts generalizing p with
  | nil => exact entered
  | cons part parts ih =>
    simp only [Tree.enterAll] at entered ⊢
    split at entered
    · simp at entered
    · rename_i q first
      rw [grows.enter first]
      exact ih entered

theorem target (grows : Grows d d') {path : Text} {t : Target} (led : d.target path = .ok t) :
    d'.target path = .ok t :=
  target_of_walk grows.here (fun _ walked => grows.enterAll walked) led

theorem place? (grows : Grows d d') {path : Text} {p : Place} (placed : d.place? path = some p) :
    d'.place? path = some p := by
  obtain ⟨clean, parent, name, target, eq⟩ := place?_eq_some_iff.mp placed
  exact place?_eq_some_iff.mpr ⟨clean, parent, name, grows.target target, eq⟩

end Grows

structure OnlyAddsDirectories (d d' : Tree) : Prop where
  grows : Grows d d'
  fileAt : ∀ p, d'.fileAt p = d.fileAt p

namespace OnlyAddsDirectories

theorem refl (d : Tree) : OnlyAddsDirectories d d := ⟨.refl d, fun _ => rfl⟩

theorem trans (first : OnlyAddsDirectories d d') (second : OnlyAddsDirectories d' d'') :
    OnlyAddsDirectories d d'' :=
  ⟨first.grows.trans second.grows, fun p => (second.fileAt p).trans (first.fileAt p)⟩

private theorem of_makeDirectory {path : Text} (made : d.makeDirectory path = .ok d') :
    OnlyAddsDirectories d d' := by
  obtain ⟨parent, name, slash, -, free, rfl⟩ := makeDirectory_eq_ok made
  have inside : name :: parent ≠ [] := List.cons_ne_nil name parent
  refine ⟨⟨rfl, fun q found => ?_⟩, fun q => ?_⟩
  · rw [node?_set inside]
    split
    · rfl
    · exact found
  · by_cases asked : q = name :: parent
    · simp [Tree.fileAt, node?_set inside, asked, free]
    · simp [Tree.fileAt, node?_set inside, asked]

theorem makeDirectories (d : Tree) (room : Nat) (path : Text) :
    OnlyAddsDirectories d (d.makeDirectories room path).2 :=
  makeDirectories_keeps (P := OnlyAddsDirectories d)
    (fun _ _ _ _ soFar made => soFar.trans (of_makeDirectory made)) (.refl d)

end OnlyAddsDirectories

end Tree

end Redline.Disk
