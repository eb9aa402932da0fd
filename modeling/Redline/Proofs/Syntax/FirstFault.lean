import Redline.Proofs.Outcome
import Redline.Syntax.Check

set_option autoImplicit false
set_option relaxedAutoImplicit false

/-!
The first fault of a syntax tree. The search comes to an end in every tree that nests no deeper than it has
room for. It goes down only where an error is announced, and where it then finds nothing it settles for the
node itself. Where errors are announced truly, neither makes a difference: what is found is the first fault
of the whole tree in preorder.
-/

namespace Redline.Syntax

namespace Tree

def hasError : Tree → Bool
  | .node _ _ h _ _ _ => h

mutual
/-- The nodes of a tree, each before those below it. -/
def preorder : Tree → List Tree
  | .node e m h r c children => .node e m h r c children :: preorderAll children

/-- The nodes of several trees, tree by tree. -/
def preorderAll : List Tree → List Tree
  | [] => []
  | t :: ts => preorder t ++ preorderAll ts
end

mutual
/-- How many nodes stand in each other at most. -/
def height : Tree → Nat
  | .node _ _ _ _ _ children => heightOfAll children + 1

/-- How many nodes stand in each other at most in one of several trees. -/
def heightOfAll : List Tree → Nat
  | [] => 0
  | t :: ts => max (height t) (heightOfAll ts)
end

/-- Whether an error is announced at exactly those nodes that have a fault at or below them. -/
def Announces (t : Tree) : Prop := ∀ n ∈ t.preorder, n.hasError = n.preorder.any isFault

instance (t : Tree) : Decidable t.Announces :=
  inferInstanceAs (Decidable (∀ n ∈ t.preorder, n.hasError = n.preorder.any isFault))

variable {t : Tree} {ts : List Tree} {e m h : Bool} {r c : Int} {room : Nat} {found : Option Tree}

private theorem self_mem_preorder (t : Tree) : t ∈ t.preorder := by
  cases t with
  | node e m h r c children => exact List.mem_cons_self

private theorem preorder_subset_preorderAll (mem : t ∈ ts) : t.preorder ⊆ preorderAll ts := by
  induction ts with
  | nil => simp at mem
  | cons s ts ih =>
    rw [preorderAll]
    rcases List.mem_cons.mp mem with rfl | mem
    · exact List.subset_append_left _ _
    · exact List.subset_append_of_subset_right _ (ih mem)

private theorem Announces.child (announces : Announces (.node e m h r c ts)) (mem : t ∈ ts) :
    t.Announces := by
  intro n inside
  refine announces n ?_
  rw [preorder]
  exact List.mem_cons_of_mem _ (preorder_subset_preorderAll mem inside)

private theorem firstFault_of_isFault (fault : (e || m) = true) :
    firstFault (room + 1) (.node e m h r c ts) = .ok (some (.node e m h r c ts)) := by
  rw [firstFault, if_pos fault]

private theorem firstFault_of_silent (sound : (e || m) = false) :
    firstFault (room + 1) (.node e m false r c ts) = .ok none := by
  rw [firstFault, if_neg (by simp [sound]), if_pos (by decide)]

private theorem firstFault_of_announced (sound : (e || m) = false) :
    firstFault (room + 1) (.node e m true r c ts) =
      (firstFaultIn room ts).map fun below => some (below.getD (.node e m true r c ts)) := by
  rw [firstFault, if_neg (by simp [sound]), if_neg (by simp)]
  cases firstFaultIn room ts with
  | error f => rfl
  | ok below => cases below <;> rfl

private theorem firstFaultIn_cons :
    firstFaultIn room (t :: ts) = firstFault room t >>= fun first =>
      match first with
      | none => firstFaultIn room ts
      | some n => .ok (some n) := by
  rw [firstFaultIn]
  cases firstFault room t with
  | error f => rfl
  | ok first => cases first <;> rfl

-- The two functions that search call each other, so statements about them are proved in pairs.
mutual
private theorem exists_firstFault (t : Tree) {room : Nat} (fits : t.height ≤ room) :
    ∃ found, t.firstFault room = .ok found := by
  match t, room with
  | .node e m h r c children, 0 => simp [height] at fits
  | .node e m h r c children, room + 1 =>
    rw [height] at fits
    obtain ⟨below, searched⟩ := exists_firstFaultIn children (Nat.le_of_succ_le_succ fits)
    cases fault : e || m with
    | true => exact ⟨_, firstFault_of_isFault fault⟩
    | false =>
      cases h with
      | false => exact ⟨_, firstFault_of_silent fault⟩
      | true => exact ⟨_, by rw [firstFault_of_announced fault, searched]; rfl⟩

theorem exists_firstFaultIn (ts : List Tree) {room : Nat} (fits : heightOfAll ts ≤ room) :
    ∃ found, firstFaultIn room ts = .ok found := by
  match ts with
  | [] => exact ⟨none, by rw [firstFaultIn]⟩
  | t :: ts =>
    rw [heightOfAll] at fits
    obtain ⟨first, searched⟩ := exists_firstFault t (Nat.le_trans (Nat.le_max_left _ _) fits)
    obtain ⟨later, searchedRest⟩ := exists_firstFaultIn ts (Nat.le_trans (Nat.le_max_right _ _) fits)
    rw [firstFaultIn_cons, searched]
    cases first with
    | none => exact ⟨later, searchedRest⟩
    | some n => exact ⟨some n, rfl⟩
end

private theorem eq_none_iff_of_firstFault (searched : t.firstFault room = .ok found) :
    found = none ↔ t.isFault = false ∧ t.hasError = false := by
  match t, room with
  | .node e m h r c children, 0 => simp [firstFault] at searched
  | .node e m h r c children, room + 1 =>
    rw [isFault, hasError]
    cases fault : e || m with
    | true =>
      rw [firstFault_of_isFault fault] at searched
      obtain rfl := Except.ok.inj searched
      simp
    | false =>
      cases h with
      | false =>
        rw [firstFault_of_silent fault] at searched
        obtain rfl := Except.ok.inj searched
        simp
      | true =>
        rw [firstFault_of_announced fault] at searched
        obtain ⟨below, -, rfl⟩ := map_eq_ok_iff.mp searched
        simp

mutual
private theorem mem_preorder_of_firstFault (t : Tree) {room : Nat} {n : Tree}
    (searched : t.firstFault room = .ok (some n)) : n ∈ t.preorder := by
  match t, room with
  | .node e m h r c children, 0 => simp [firstFault] at searched
  | .node e m h r c children, room + 1 =>
    rw [preorder, List.mem_cons]
    cases fault : e || m with
    | true =>
      rw [firstFault_of_isFault fault] at searched
      exact .inl (Option.some.inj (Except.ok.inj searched)).symm
    | false =>
      cases h with
      | false => simp [firstFault_of_silent fault] at searched
      | true =>
        rw [firstFault_of_announced fault] at searched
        obtain ⟨below, searchedBelow, found⟩ := map_eq_ok_iff.mp searched
        cases below with
        | none => exact .inl (Option.some.inj found).symm
        | some n' =>
          obtain rfl := Option.some.inj found
          exact .inr (mem_preorderAll_of_firstFaultIn children searchedBelow)

theorem mem_preorderAll_of_firstFaultIn (ts : List Tree) {room : Nat} {n : Tree}
    (searched : firstFaultIn room ts = .ok (some n)) : n ∈ preorderAll ts := by
  match ts with
  | [] => simp [firstFaultIn] at searched
  | t :: ts =>
    rw [firstFaultIn_cons] at searched
    obtain ⟨here, searchedHere, searched⟩ := bind_eq_ok_iff.mp searched
    rw [preorderAll, List.mem_append]
    cases here with
    | none => exact .inr (mem_preorderAll_of_firstFaultIn ts searched)
    | some n' =>
      obtain rfl := Option.some.inj (Except.ok.inj searched)
      exact .inl (mem_preorder_of_firstFault t searchedHere)
end

private theorem exists_find?_of_announces (announces : Announces (.node e m true r c ts))
    (sound : (e || m) = false) : ∃ n, (preorderAll ts).find? isFault = some n := by
  have announced : true = (preorder (.node e m true r c ts)).any isFault :=
    announces _ (self_mem_preorder _)
  rw [preorder, List.any_cons, isFault, sound, Bool.false_or] at announced
  exact Option.isSome_iff_exists.mp (List.find?_isSome.mpr (List.any_eq_true.mp announced.symm))

private theorem find?_preorder_of_silent (announces : t.Announces) (silent : t.hasError = false) :
    t.preorder.find? isFault = none := by
  have none : t.preorder.any isFault = false :=
    (announces t (self_mem_preorder t)).symm.trans silent
  simpa using none

mutual
private theorem eq_find?_of_firstFault (t : Tree) (announces : t.Announces) {room : Nat}
    {found : Option Tree}
    (searched : t.firstFault room = .ok found) : found = t.preorder.find? isFault := by
  match t, room with
  | .node e m h r c children, 0 => simp [firstFault] at searched
  | .node e m h r c children, room + 1 =>
    cases fault : e || m with
    | true =>
      rw [firstFault_of_isFault fault] at searched
      obtain rfl := Except.ok.inj searched
      have here : isFault (.node e m h r c children) = true := fault
      rw [preorder, List.find?_cons_of_pos here]
    | false =>
      cases h with
      | false =>
        rw [firstFault_of_silent fault] at searched
        obtain rfl := Except.ok.inj searched
        exact (find?_preorder_of_silent announces rfl).symm
      | true =>
        rw [firstFault_of_announced fault] at searched
        obtain ⟨below, searchedBelow, rfl⟩ := map_eq_ok_iff.mp searched
        have first := eq_find?_of_firstFaultIn children (fun t mem => announces.child mem) searchedBelow
        -- Since one is found among the children, the search does not fall back to the node.
        obtain ⟨n, inside⟩ := exists_find?_of_announces announces fault
        have passed : ¬ isFault (.node e m true r c children) = true := by
          rw [isFault, fault]
          decide
        rw [preorder, List.find?_cons_of_neg passed, first, inside]
        rfl

theorem eq_find?_of_firstFaultIn (ts : List Tree) (announces : ∀ t ∈ ts, t.Announces) {room : Nat}
    {found : Option Tree} (searched : firstFaultIn room ts = .ok found) :
    found = (preorderAll ts).find? isFault := by
  match ts with
  | [] =>
    rw [firstFaultIn] at searched
    exact (Except.ok.inj searched).symm
  | t :: ts =>
    obtain ⟨first, others⟩ := List.forall_mem_cons.mp announces
    rw [firstFaultIn_cons] at searched
    obtain ⟨here, searchedHere, searched⟩ := bind_eq_ok_iff.mp searched
    rw [preorderAll, List.find?_append, ← eq_find?_of_firstFault t first searchedHere]
    cases here with
    | none => exact eq_find?_of_firstFaultIn ts others searched
    | some n => exact (Except.ok.inj searched).symm
end

private theorem find?_isFault_eq_none_iff {t : Tree} :
    t.preorder.find? isFault = none ↔ ∀ n ∈ t.preorder, n.isFault = false := by
  simp

/-- A chain of so many nodes that announce an error, down to one that is one. -/
def chain : Nat → Tree
  | 0 => .node true false true 0 0 []
  | n + 1 => .node false false true 0 0 [chain n]

private theorem firstFault_chain (room : Nat) : (chain room).firstFault room = .error .tooDeep := by
  induction room with
  | zero => rfl
  | succ room ih =>
    rw [chain, firstFault_of_announced rfl, firstFaultIn_cons, ih]
    rfl

end Tree

variable {room : Nat} {parsers : Parsers} {language : Language} {path content : Text}

private theorem check_of_firstFault {found : Option Tree} (known : Language.ofPath? path = some language)
    (searched : (parsers language content).firstFault room = .ok found) :
    check room parsers path content = verdict language found := by
  simp only [check, known, searched]

/-- Whether the tree of a text nests no deeper than there is room for, if its language is known. -/
def HasRoom (room : Nat) (parsers : Parsers) (path content : Text) : Prop :=
  ∀ language, Language.ofPath? path = some language → (parsers language content).height ≤ room

theorem HasRoom.ne_tooDeep {f : Fault} (roomy : HasRoom room parsers path content)
    (failed : check room parsers path content = .error f) : f ≠ .tooDeep := by
  cases known : Language.ofPath? path with
  | none => simp [check, known] at failed
  | some language =>
    obtain ⟨found, searched⟩ := Tree.exists_firstFault _ (roomy language known)
    rw [check_of_firstFault known searched] at failed
    unfold verdict at failed
    split at failed
    · simp at failed
    · split at failed
      · exact Except.error.inj failed ▸ nofun
      · simp at failed

/--
Whether the tree of a text, if its language is known, nests no deeper than there is room for and has points
that can be written.
-/
def Tells (room : Nat) (parsers : Parsers) (path content : Text) : Prop :=
  ∀ language, Language.ofPath? path = some language →
    (parsers language content).height ≤ room ∧
      ∀ n ∈ (parsers language content).preorder, n.hasLongPoint = false

theorem Tells.exists_check (tells : Tells room parsers path content) :
    ∃ fault, check room parsers path content = .ok fault := by
  cases known : Language.ofPath? path with
  | none => exact ⟨none, by simp only [check, known]⟩
  | some language =>
    obtain ⟨fits, short⟩ := tells language known
    obtain ⟨found, searched⟩ := Tree.exists_firstFault _ fits
    rw [check_of_firstFault known searched]
    cases found with
    | none => exact ⟨none, rfl⟩
    | some n =>
      have writable := short n (Tree.mem_preorder_of_firstFault _ searched)
      exact ⟨_, by rw [verdict, if_neg (by simp [writable])]⟩

private theorem verdict_eq_ok_none_iff {found : Option Tree} :
    verdict language found = .ok none ↔ found = none := by
  cases found with
  | none => simp [verdict]
  | some t =>
    rw [verdict]
    split <;> simp

/--
The search in a tree that nests no deeper than there is room for comes to its end. If it does, it finds
nothing exactly if the root has none of the three flags, and where errors are announced truly, it finds the
first fault of the tree in preorder. Then the check of a text in a known language tells the point of that
fault, counting from one, if its numbers can be written, and is silent exactly if there is no fault.
-/
theorem check_points_at_first_fault (room : Nat) (parsers : Parsers) (path content : Text) :
    (∀ t : Tree, t.height ≤ room → ∃ found, t.firstFault room = .ok found) ∧
    (∀ (t : Tree) found, t.firstFault room = .ok found →
      (found = none ↔ t.isFault = false ∧ t.hasError = false) ∧
      (t.Announces → found = t.preorder.find? Tree.isFault ∧
        (found = none ↔ ∀ n ∈ t.preorder, n.isFault = false))) ∧
    ∀ language, Language.ofPath? path = some language →
      let t := parsers language content
      t.height ≤ room → t.Announces →
        (∀ n, t.preorder.find? Tree.isFault = some n → check room parsers path content =
          if Number.isLong (n.row + 1) || Number.isLong (n.column + 1) then .error .longNumber
          else .ok (some (language.name ++ " syntax error near line " ++ Number.showInt (n.row + 1) ++
            ", column " ++ Number.showInt (n.column + 1)))) ∧
        (check room parsers path content = .ok none ↔ ∀ n ∈ t.preorder, n.isFault = false) := by
  refine ⟨fun t fits => t.exists_firstFault fits, ?_, ?_⟩
  · intro t found searched
    refine ⟨Tree.eq_none_iff_of_firstFault searched, fun announces => ?_⟩
    have first := Tree.eq_find?_of_firstFault t announces searched
    exact ⟨first, by rw [first, Tree.find?_isFault_eq_none_iff]⟩
  · intro language known t fits announces
    obtain ⟨found, searched⟩ := t.exists_firstFault fits
    have checked := check_of_firstFault known searched
    obtain rfl := Tree.eq_find?_of_firstFault t announces searched
    refine ⟨fun n first => ?_, ?_⟩
    · rw [checked, first]
      rfl
    · rw [checked, verdict_eq_ok_none_iff, Tree.find?_isFault_eq_none_iff]

/-- A fault far down, after a sound branch and before a fault that is higher up. -/
def crookedTree : Tree :=
  .node false false true 0 0 [.node false false false 0 0 [],
    .node false false true 1 0 [.node false true true 2 4 []], .node true false true 3 0 []]

/-- The missing node in the third line is reported, not the error above it in the fourth. -/
theorem check_points_at_first_fault_deep :
    Language.ofPath? "src/a.PY" = some .python ∧ crookedTree.height ≤ 3 ∧ crookedTree.Announces ∧
    check 3 (fun _ _ => crookedTree) "src/a.PY" "x" =
      .ok (some ("python syntax error near line 3, column 5" : Text)) := by
  have known : Language.ofPath? "src/a.PY" = some .python := by decide
  have fits : crookedTree.height ≤ 3 := by decide
  have announces : crookedTree.Announces := by decide
  have points := (check_points_at_first_fault 3 (fun _ _ => crookedTree) "src/a.PY" "x").2.2
    .python known fits announces
  have short : ¬ (Number.isLong (2 + 1) || Number.isLong (4 + 1)) = true := by decide +kernel
  have spelled : Language.python.name ++ " syntax error near line " ++ Number.showInt (2 + 1) ++
      ", column " ++ Number.showInt (4 + 1) = ("python syntax error near line 3, column 5" : Text) := by
    decide +kernel
  refine ⟨known, fits, announces, (points.1 (.node false true true 2 4 []) rfl).trans ?_⟩
  exact (if_neg short).trans (congrArg (fun m => Except.ok (some m)) spelled)

/-- A tree whose only node is an error in a line whose number, counted from one, is too long. -/
def farTree : Tree := .node true false true (Nat.pow 10 Number.maxDigits - 1) 0 []

/-- A chain of nodes is too deep for as many calls less one, and a point too far off for a message. -/
theorem check_without_verdict :
    (Tree.chain 1000).hasError = true ∧ (Tree.chain 1000).firstFault 1000 = .error .tooDeep ∧
    Language.ofPath? "a.py" = some .python ∧ farTree.Announces ∧
    farTree.firstFault 1000 = .ok (some farTree) ∧
    check 1000 (fun _ _ => farTree) "a.py" [] = .error .longNumber := by
  have announces : farTree.Announces := by
    intro n mem
    obtain rfl := List.mem_singleton.mp mem
    rfl
  have known : Language.ofPath? "a.py" = some .python := by decide
  have searched : farTree.firstFault 1000 = .ok (some farTree) := rfl
  have long : farTree.hasLongPoint = true := by decide +kernel
  refine ⟨rfl, Tree.firstFault_chain 1000, known, announces, searched, ?_⟩
  rw [check_of_firstFault known searched, verdict, if_pos long]

end Redline.Syntax
