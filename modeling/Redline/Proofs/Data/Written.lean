import Mathlib.Data.Finset.Card
import Mathlib.Logic.Relation
import Redline.Data.Document
import Redline.Proofs.Outcome

set_option autoImplicit false
set_option relaxedAutoImplicit false

/-!
What can be written of a document. Parts may be shared and may contain themselves, but an element that
stands inside itself is shown by dots, so the fuel never runs out. An element has a plain form exactly if
no whole number that is too long lies in it, however deep.
-/

namespace Redline.Data

open Relation (ReflTransGen)

/-- Whether a scalar is a whole number with more digits than are written. -/
def Scalar.IsLong : Scalar → Prop
  | .atom (.int n) => Nat.pow 10 Number.maxDigits ≤ n.natAbs
  | _ => False

namespace Document

/-- Whether an element is one of a document: a pair has its place in a list of pairs. -/
def Has (d : Document) : Element → Prop
  | .part _ => True
  | .pair n place => ∃ es e, d.part n = .pairs es ∧ es[place]? = some e

def members (d : Document) : Element → List Element
  | .part n =>
    match d.part n with
    | .list ns => ns.map .part
    | .map es => es.map fun e => .part e.2
    | .pairs es => (List.range es.length).map (.pair n)
    | _ => []
  | .pair n place =>
    match d.part n with
    | .pairs es => (es[place]?).toList.flatMap fun e => [.part e.1, .part e.2]
    | _ => []

/-- The scalars that stand in an element itself, not in a part of it. -/
def scalars (d : Document) : Element → List Scalar
  | .part n =>
    match d.part n with
    | .single s => [s]
    | .map es => es.map Prod.fst
    | .set ms => ms
    | _ => []
  | .pair _ _ => []

/-- Whether a whole number that is too long lies in an element, however deep. -/
def HoldsLong (d : Document) (e : Element) : Prop :=
  ∃ m, ReflTransGen (fun a b => b ∈ d.members a) e m ∧ ∃ s ∈ d.scalars m, s.IsLong

def inner? (d : Document) (fuel : Nat) (within : List Element) : Element → Option Text
  | .part n => d.innerWithin? fuel within n
  | .pair n place =>
    match d.part n with
    | .pairs es => (es[place]?).bind (pairInner? (d.innerWithin? fuel) within n place)
    | _ => none

def unshown (d : Document) (within : List Element) : Nat :=
  ((Finset.range d.parts.size).filter fun n => Element.part n ∉ within).card

end Document

private theorem Scalar.inner?_eq_none_iff (s : Scalar) : s.inner? = none ↔ s.IsLong := by
  cases s with
  | atom a => cases a <;> simp [Scalar.inner?, Scalar.IsLong, Number.isLong]
  | bytes b => simp [Scalar.inner?, Scalar.IsLong]
  | date d => simp [Scalar.inner?, Scalar.IsLong]
  | timestamp t => simp [Scalar.inner?, Scalar.IsLong]

private theorem Scalar.plain?_eq_none_iff (s : Scalar) : s.plain? = none ↔ s.inner? = none := by
  cases s with
  | atom a => cases a <;> simp [Scalar.plain?, Scalar.inner?]
  | bytes b => simp [Scalar.plain?]
  | date d => simp [Scalar.plain?, Scalar.inner?]
  | timestamp t => simp [Scalar.plain?, Scalar.inner?]

namespace Document

variable {d : Document} {fuel n place : Nat} {within : List Element} {e m : Element}

private theorem entry_eq_none_iff (key : Scalar) (value : Option Text) :
    (do
      let key ← key.inner?
      let value ← value
      return key ++ ": " ++ value : Option Text) = none ↔ key.IsLong ∨ value = none := by
  rw [← key.inner?_eq_none_iff]
  cases key.inner? <;> cases value <;> simp

private theorem pairInner?_eq_none_iff {show? : List Element → Nat → Option Text} {entry : Nat × Nat}
    (fresh : .pair n place ∉ within) :
    pairInner? show? within n place entry = none ↔
      show? (.pair n place :: within) entry.1 = none ∨
        show? (.pair n place :: within) entry.2 = none := by
  simp only [pairInner?, List.elem_eq_mem, fresh, decide_false, Bool.false_eq_true, ↓reduceIte]
  cases show? (.pair n place :: within) entry.1 <;>
    cases show? (.pair n place :: within) entry.2 <;> simp

private theorem inner?_part (d : Document) (fuel : Nat) (within : List Element) (n : Nat) :
    d.inner? fuel within (.part n) = d.innerWithin? fuel within n := rfl

private theorem inner?_pair {es : List (Nat × Nat)} {entry : Nat × Nat} (part : d.part n = .pairs es)
    (found : es[place]? = some entry) :
    d.inner? fuel within (.pair n place) =
      pairInner? (d.innerWithin? fuel) within n place entry := by
  simp [inner?, part, found]

private theorem inner?_part_eq_none_iff (fresh : .part n ∉ within) :
    d.inner? (fuel + 1) within (.part n) = none ↔
      (∃ s ∈ d.scalars (.part n), s.IsLong) ∨
        ∃ e ∈ d.members (.part n), d.inner? fuel (.part n :: within) e = none := by
  have absent : within.elem (.part n) = false := by simpa using fresh
  rw [inner?_part, innerWithin?]
  cases part : d.part n with
  | single s => simp [scalars, members, part, s.inner?_eq_none_iff]
  | list ns => simp [scalars, members, part, fresh, mapM_eq_none_iff, inner?_part]
  | map es =>
    simp only [scalars, members, part, absent, Bool.false_eq_true, ↓reduceIte,
      Option.map_eq_none_iff, mapM_eq_none_iff, entry_eq_none_iff, List.mem_map,
      exists_exists_and_eq_and, inner?_part, and_or_left, exists_or]
  | set ms =>
    cases ms with
    | nil => simp [scalars, members, part]
    | cons s ss =>
      simp only [scalars, members, part, List.isEmpty_cons, Bool.false_eq_true, ↓reduceIte,
        Option.map_eq_none_iff, mapM_eq_none_iff, Scalar.inner?_eq_none_iff, List.not_mem_nil,
        false_and, exists_false, or_false]
  | pairs es =>
    simp only [scalars, members, part, absent, Bool.false_eq_true, ↓reduceIte,
      Option.map_eq_none_iff, mapM_eq_none_iff, List.not_mem_nil, false_and, exists_false, false_or,
      List.mem_map, exists_exists_and_eq_and, List.mem_range, Prod.exists,
      List.mem_zipIdx_iff_getElem?]
    constructor
    · rintro ⟨a, b, i, found, none⟩
      exact ⟨i, (List.getElem?_eq_some_iff.mp found).1, (inner?_pair part found).trans none⟩
    · rintro ⟨i, lt, none⟩
      have found := List.getElem?_eq_getElem lt
      exact ⟨_, _, i, found, (inner?_pair part found).symm.trans none⟩

private theorem inner?_pair_eq_none_iff (has : d.Has (.pair n place)) (fresh : .pair n place ∉ within) :
    d.inner? fuel within (.pair n place) = none ↔
      ∃ e ∈ d.members (.pair n place), d.inner? fuel (.pair n place :: within) e = none := by
  obtain ⟨es, entry, part, found⟩ := has
  rw [inner?_pair part found, pairInner?_eq_none_iff fresh]
  simp [members, part, found, inner?_part]

private theorem of_inner?_part_eq_none (unwritten : d.inner? (fuel + 1) within (.part n) = none) :
    (∃ s ∈ d.scalars (.part n), s.IsLong) ∨
      .part n ∉ within ∧ ∃ e ∈ d.members (.part n), d.inner? fuel (.part n :: within) e = none := by
  by_cases fresh : .part n ∉ within
  · exact ((inner?_part_eq_none_iff fresh).mp unwritten).imp_right fun inside => ⟨fresh, inside⟩
  · -- What stands in itself is shown by dots; only what has no parts is written again.
    left
    have inside : within.elem (.part n) = true := by simpa using fresh
    rw [inner?_part, innerWithin?] at unwritten
    cases part : d.part n with
    | single s => simpa [scalars, part, s.inner?_eq_none_iff] using unwritten
    | set ms =>
      cases ms with
      | nil => simp [part] at unwritten
      | cons s ss =>
        simpa only [scalars, part, List.isEmpty_cons, Bool.false_eq_true, ↓reduceIte,
          Option.map_eq_none_iff, mapM_eq_none_iff, Scalar.inner?_eq_none_iff] using unwritten
    | list ns => simp only [part, inside, ↓reduceIte, reduceCtorEq] at unwritten
    | map es => simp only [part, inside, ↓reduceIte, reduceCtorEq] at unwritten
    | pairs es => simp only [part, inside, ↓reduceIte, reduceCtorEq] at unwritten

private theorem of_inner?_pair_eq_none (has : d.Has (.pair n place))
    (unwritten : d.inner? fuel within (.pair n place) = none) :
    ∃ e ∈ d.members (.pair n place), d.inner? fuel (.pair n place :: within) e = none := by
  by_cases fresh : .pair n place ∉ within
  · exact (inner?_pair_eq_none_iff has fresh).mp unwritten
  · obtain ⟨es, entry, part, found⟩ := has
    rw [inner?_pair part found] at unwritten
    simp_all [pairInner?]

theorem mem_members_list {ns : List Nat} (part : d.part n = .list ns) {k : Nat} (mem : k ∈ ns) :
    .part k ∈ d.members (.part n) := by
  simp [members, part, mem]

theorem mem_members_map {es : List (Scalar × Nat)} (part : d.part n = .map es) {entry : Scalar × Nat}
    (mem : entry ∈ es) : .part entry.2 ∈ d.members (.part n) := by
  simp only [members, part]
  exact List.mem_map_of_mem mem

theorem mem_members_pairs {es : List (Nat × Nat)} {entry : Nat × Nat} (part : d.part n = .pairs es)
    (found : es[place]? = some entry) : .pair n place ∈ d.members (.part n) := by
  simpa [members, part] using (List.getElem?_eq_some_iff.mp found).1

theorem members_pair {es : List (Nat × Nat)} {entry : Nat × Nat} (part : d.part n = .pairs es)
    (found : es[place]? = some entry) :
    d.members (.pair n place) = [.part entry.1, .part entry.2] := by
  simp [members, part, found]

private theorem exists_part_of_mem_members (mem : m ∈ d.members (.pair n place)) : ∃ k, m = .part k := by
  cases part : d.part n with
  | pairs es =>
    simp only [members, part, List.mem_flatMap, List.mem_cons, List.not_mem_nil, or_false] at mem
    obtain ⟨entry, -, rfl | rfl⟩ := mem
    · exact ⟨_, rfl⟩
    · exact ⟨_, rfl⟩
  | single s => simp [members, part] at mem
  | list ns => simp [members, part] at mem
  | map es => simp [members, part] at mem
  | set ms => simp [members, part] at mem

private theorem lt_size_of_part_ne (some : d.part n ≠ .single .null) : n < d.parts.size := by
  by_contra beyond
  rw [part, Array.getElem?_eq_none (not_lt.mp beyond)] at some
  exact some rfl

private theorem part_ne_of_mem_members (mem : m ∈ d.members (.part n)) : d.part n ≠ .single .null :=
  fun missing => by simp [members, missing] at mem

private theorem has_of_mem_members (mem : m ∈ d.members e) : d.Has m := by
  cases e with
  | part n =>
    cases part : d.part n with
    | single s => simp [members, part] at mem
    | set ms => simp [members, part] at mem
    | list ns =>
      obtain ⟨k, -, rfl⟩ : ∃ k ∈ ns, .part k = m := by simpa [members, part] using mem
      trivial
    | map es =>
      simp only [members, part, List.mem_map] at mem
      obtain ⟨entry, -, rfl⟩ := mem
      trivial
    | pairs es =>
      obtain ⟨i, lt, rfl⟩ : ∃ i < es.length, .pair n i = m := by simpa [members, part] using mem
      exact ⟨es, es[i], part, List.getElem?_eq_getElem lt⟩
  | pair n place =>
    obtain ⟨k, rfl⟩ := exists_part_of_mem_members mem
    trivial

theorem unshown_cons_part (some : d.part n ≠ .single .null) (fresh : .part n ∉ within)
    (enough : d.unshown within < fuel + 1) : d.unshown (.part n :: within) < fuel := by
  have inside := lt_size_of_part_ne some
  have fewer : d.unshown (.part n :: within) < d.unshown within := by
    refine Finset.card_lt_card (Finset.ssubset_iff_of_subset ?_ |>.mpr ⟨n, ?_, ?_⟩)
    · intro k mem
      simp_all
    · simpa using ⟨inside, fresh⟩
    · simp
  omega

theorem unshown_cons_pair : d.unshown (.pair n place :: within) = d.unshown within := by
  simp [unshown]

theorem has_of_mem_items {es : List Element} (items : d.items? n = some es) (mem : e ∈ es) :
    d.Has e := by
  have listed : es = d.members (.part n) := by
    cases part : d.part n <;> simp_all [items?, members]
  exact has_of_mem_members (listed ▸ mem)

theorem unshown_nil_lt_depth (d : Document) : d.unshown [] < d.depth := by
  have all : d.unshown [] = d.parts.size := by simp [unshown]
  rw [all, depth]
  omega

private theorem HoldsLong.of_mem (mem : m ∈ d.members e) (holds : d.HoldsLong m) : d.HoldsLong e := by
  obtain ⟨k, path, long⟩ := holds
  exact ⟨k, .head mem path, long⟩

private theorem holdsLong_of_inner?_eq_none (has : d.Has e) (enough : d.unshown within < fuel)
    (unwritten : d.inner? fuel within e = none) : d.HoldsLong e := by
  induction fuel generalizing within e with
  | zero => omega
  | succ fuel ih =>
    have ofPart {n : Nat} {within : List Element} (enough : d.unshown within < fuel + 1)
        (unwritten : d.inner? (fuel + 1) within (.part n) = none) : d.HoldsLong (.part n) := by
      rcases of_inner?_part_eq_none unwritten with long | ⟨fresh, m, mem, inside⟩
      · exact ⟨_, .refl, long⟩
      · have fewer := unshown_cons_part (part_ne_of_mem_members mem) fresh enough
        exact (ih (has_of_mem_members mem) fewer inside).of_mem mem
    cases e with
    | part n => exact ofPart enough unwritten
    | pair n place =>
      -- A pair takes no fuel of its own, and both its elements are parts.
      obtain ⟨m, mem, inside⟩ := of_inner?_pair_eq_none has unwritten
      obtain ⟨k, rfl⟩ := exists_part_of_mem_members mem
      exact (ofPart (by rwa [unshown_cons_pair]) inside).of_mem mem

/-- Whether an element is in another and not among those in which that one stands. -/
def Leads (d : Document) (within : List Element) (a b : Element) : Prop :=
  b ∈ d.members a ∧ b ∉ within

private theorem eq_or_exists_leads (path : ReflTransGen (d.Leads within) e m) :
    m = e ∨ ∃ b ∈ d.members e, b ∉ e :: within ∧ ReflTransGen (d.Leads (e :: within)) b m := by
  induction path with
  | refl => exact .inl rfl
  | @tail b c _ step ih =>
    obtain ⟨mem, fresh⟩ := step
    by_cases back : c = e
    · exact .inl back
    have apart : c ∉ e :: within := by simp [back, fresh]
    rcases ih with rfl | ⟨first, inside, passed, path⟩
    · exact .inr ⟨c, mem, apart, .refl⟩
    · exact .inr ⟨first, inside, passed, path.tail ⟨mem, apart⟩⟩

/-- Whether a part that is written with some fuel holds no long number that is shown only in it. -/
def Clears (d : Document) (fuel : Nat) : Prop :=
  ∀ (within : List Element) (n : Nat) (m : Element), .part n ∉ within →
    d.inner? fuel within (.part n) ≠ none → ReflTransGen (d.Leads within) (.part n) m →
      ∀ s ∈ d.scalars m, ¬ s.IsLong

private theorem Clears.of_element (clears : d.Clears fuel) (has : d.Has e) (fresh : e ∉ within)
    (written : d.inner? fuel within e ≠ none) (path : ReflTransGen (d.Leads within) e m) :
    ∀ s ∈ d.scalars m, ¬ s.IsLong := by
  cases e with
  | part n => exact clears within n m fresh written path
  | pair n place =>
    rcases eq_or_exists_leads path with rfl | ⟨b, mem, apart, path⟩
    · simp [scalars]
    · obtain ⟨k, rfl⟩ := exists_part_of_mem_members mem
      refine clears _ k m apart (fun unwritten => written ?_) path
      exact (inner?_pair_eq_none_iff has fresh).mpr ⟨_, mem, unwritten⟩

private theorem clears (d : Document) (fuel : Nat) : d.Clears fuel := by
  induction fuel with
  | zero => exact fun _ _ _ _ written => absurd rfl written
  | succ fuel ih =>
    intro within n m fresh written path
    rw [Ne, inner?_part_eq_none_iff fresh, not_or] at written
    obtain ⟨short, below⟩ := written
    rcases eq_or_exists_leads path with rfl | ⟨b, mem, apart, path⟩
    · exact fun s shown long => short ⟨s, shown, long⟩
    · exact ih.of_element (has_of_mem_members mem) apart (fun unwritten => below ⟨b, mem, unwritten⟩) path

private theorem inner?_eq_none_iff (has : d.Has e) : d.inner? d.depth [] e = none ↔ d.HoldsLong e := by
  constructor
  · exact holdsLong_of_inner?_eq_none has (unshown_nil_lt_depth d)
  · rintro ⟨m, path, s, shown, long⟩
    by_contra written
    have free : ReflTransGen (d.Leads []) e m :=
      ReflTransGen.mono (fun a b mem => ⟨mem, List.not_mem_nil⟩) e m path
    exact (clears d d.depth).of_element has List.not_mem_nil written free s shown long

/-- An element has a plain form unless a whole number that is too long lies in it, however deep. -/
theorem plain?_eq_none_iff (has : d.Has e) : d.plain? e = none ↔ d.HoldsLong e := by
  rw [← inner?_eq_none_iff has]
  cases e with
  | part n =>
    cases part : d.part n with
    | single s => simp [plain?, part, inner?, depth, innerWithin?, s.plain?_eq_none_iff]
    | list ns => simp [plain?, part, inner?_part]
    | map es => simp [plain?, part, inner?_part]
    | set ms => simp [plain?, part, inner?_part]
    | pairs es => simp [plain?, part, inner?_part]
  | pair n place =>
    obtain ⟨es, entry, part, found⟩ := has
    rw [inner?_pair part found]
    simp [plain?, part, found]

end Document

end Redline.Data
