import Mathlib.Data.List.Forall2
import Redline.Proofs.Diff.Body

set_option autoImplicit false
set_option relaxedAutoImplicit false

/-!
The places of hunks. A hunk with source lines sits at the first old line, from where the hunk before
it has ended, that equals its anchor; a hunk without source lines sits at its declared start, as far
as that lies ahead and inside the old text. Applying hunks succeeds exactly when every body is valid,
every hunk has a place and none reaches past the end; the result is then the old text with the source
lines of each hunk replaced by its target.
-/

namespace Redline.Diff

structure Hunk.Valid (h : Hunk) : Prop where
  lines_ne_nil : h.lines ≠ []
  isBodyLine : ∀ l ∈ h.lines, IsBodyLine l

def Hunk.source (h : Hunk) : List Line := sourceLines h.lines

def Hunk.target (h : Hunk) : List Line := targetLines h.lines

/--
Whether `a` is the place of a hunk among the old lines, of which the hunks before it have used up the
first `c`.
-/
def Hunk.SitsAt (h : Hunk) (olds : List Line) (c a : Nat) : Prop :=
  match h.source.head? with
  | some anchor =>
    c ≤ a ∧ olds[a]? = some anchor ∧ ∀ j, c ≤ j → j < a → olds[j]? ≠ some anchor
  | none =>
    (a : Int) = max (c : Int) (min (h.oldStart + if h.oldCount = 0 then 1 else 0) olds.length)

/-- The places of hunks that follow each other, when `c` old lines have been used up. -/
inductive Placement (olds : List Line) : Nat → List Hunk → List Nat → Prop
  | nil (c : Nat) : Placement olds c [] []
  | cons {c a : Nat} {h : Hunk} {hs : List Hunk} {places : List Nat} :
      h.SitsAt olds c a → Placement olds (a + h.source.length) hs places →
        Placement olds c (h :: hs) (a :: places)

def EndInside (olds : List Line) (hs : List Hunk) (places : List Nat) : Prop :=
  List.Forall₂ (fun h a => a + h.source.length ≤ olds.length) hs places

/-- The old lines from number `c` on, with the source of each hunk replaced by its target. -/
def assemble (olds : List Line) (c : Nat) : List Hunk → List Nat → List Line
  | h :: hs, a :: places =>
    olds.extract c a ++ h.target ++ assemble olds (a + h.source.length) hs places
  | _, _ => olds.drop c

private theorem takeWhile_dropWhile_of_first {l : List Line} {x : Line} {k : Nat}
    (here : l[k]? = some x) (before : ∀ j < k, l[j]? ≠ some x) :
    l.takeWhile (· != x) = l.take k ∧ l.dropWhile (· != x) = l.drop k := by
  induction l generalizing k with
  | nil => simp at here
  | cons y l ih =>
    cases k with
    | zero =>
      obtain rfl : y = x := by simpa using here
      simp
    | succ k =>
      have ne : y ≠ x := by simpa using before 0 (Nat.succ_pos k)
      have inner := ih (by simpa using here) fun j lt => by
        simpa using before (j + 1) (Nat.succ_lt_succ lt)
      simp [ne, inner]

private theorem exists_first_of_mem {l : List Line} {x : Line} (mem : x ∈ l) :
    ∃ k : Nat, l[k]? = some x ∧ ∀ j < k, l[j]? ≠ some x := by
  induction l with
  | nil => exact absurd mem List.not_mem_nil
  | cons y l ih =>
    by_cases eq : y = x
    · exact ⟨0, by simp [eq], by simp⟩
    · obtain ⟨k, here, before⟩ := ih (by simpa [Ne.symm eq] using mem)
      refine ⟨k + 1, by simpa using here, ?_⟩
      intro j lt
      cases j with
      | zero => simpa using eq
      | succ j => simpa using before j (Nat.lt_of_succ_lt_succ lt)

private theorem locate_drop_of_source_nil {h : Hunk} (valid : h.Valid) (none : h.source = [])
    {olds before here : List Line} {c : Nat} (inside : c ≤ olds.length) :
    h.locate c (olds.drop c) = .ok (before, here) ↔
      ∃ a, h.SitsAt olds c a ∧ before = olds.extract c a ∧ here = olds.drop a := by
  have nonempty : h.lines.isEmpty = false := by simpa using valid.lines_ne_nil
  have anchor : anchor? (h.headerLine + 1) h.body = .ok .none := by
    rw [Hunk.body, anchor?_ofLines valid.isBodyLine, show sourceLines h.lines = [] from none]
    rfl
  have size : c + (olds.drop c).length = olds.length := by
    rw [List.length_drop]
    omega
  simp only [Hunk.locate, nonempty, anchor, size, Hunk.SitsAt, none, List.head?_nil,
    Hunk.declaredPlace, Bool.false_eq_true, ↓reduceIte, Except.ok.injEq, Prod.mk.injEq,
    List.extract_eq_take_drop, List.drop_drop]
  generalize declared : h.oldStart + (if h.oldCount = 0 then 1 else 0) = start
  constructor
  · rintro ⟨rfl, rfl⟩
    refine ⟨c + (max (c : Int) (min start olds.length) - c).toNat, by omega, ?_, rfl⟩
    rw [Nat.add_sub_cancel_left]
  · rintro ⟨a, place, rfl, rfl⟩
    have ahead : (max (c : Int) (min start olds.length) - c).toNat = a - c := by omega
    have after : c + (a - c) = a := by omega
    rw [ahead, after]
    exact ⟨rfl, rfl⟩

private theorem locate_drop_of_source_cons {h : Hunk} (valid : h.Valid) {anchor : Line}
    {more : List Line} (some : h.source = anchor :: more) {olds before here : List Line} {c : Nat} :
    h.locate c (olds.drop c) = .ok (before, here) ↔
      ∃ a, h.SitsAt olds c a ∧ before = olds.extract c a ∧ here = olds.drop a := by
  have nonempty : h.lines.isEmpty = false := by simpa using valid.lines_ne_nil
  have found : anchor? (h.headerLine + 1) h.body = .ok (.some anchor) := by
    rw [Hunk.body, anchor?_ofLines valid.isBodyLine, show sourceLines h.lines = _ from some]
    rfl
  simp only [Hunk.locate, nonempty, found, Hunk.SitsAt, some, List.head?_cons,
    Bool.false_eq_true, ↓reduceIte, List.extract_eq_take_drop]
  constructor
  · intro located
    by_cases mem : anchor ∈ olds.drop c
    · obtain ⟨k, here', first⟩ := exists_first_of_mem mem
      obtain ⟨takes, drops⟩ := takeWhile_dropWhile_of_first here' first
      simp only [mem, ↓reduceIte, Except.ok.injEq, Prod.mk.injEq, takes, drops,
        List.drop_drop] at located
      obtain ⟨rfl, rfl⟩ := located
      refine ⟨c + k, ⟨by omega, by simpa using here', ?_⟩, by rw [Nat.add_sub_cancel_left], rfl⟩
      intro j ge lt
      have inside := first (j - c) (by omega)
      rwa [List.getElem?_drop, show c + (j - c) = j by omega] at inside
    · simp [mem] at located
  · rintro ⟨a, ⟨ge, here', first⟩, rfl, rfl⟩
    have back : c + (a - c) = a := by omega
    have there : (olds.drop c)[a - c]? = .some anchor := by
      rw [List.getElem?_drop, back, here']
    have before : ∀ j < a - c, (olds.drop c)[j]? ≠ .some anchor := by
      intro j lt
      rw [List.getElem?_drop]
      exact first (c + j) (by omega) (by omega)
    obtain ⟨takes, drops⟩ := takeWhile_dropWhile_of_first there before
    simp [List.mem_of_getElem? there, takes, drops, back]

private theorem locate_drop_eq_ok_iff {h : Hunk} (valid : h.Valid) {olds before here : List Line} {c : Nat}
    (inside : c ≤ olds.length) :
    h.locate c (olds.drop c) = .ok (before, here) ↔
      ∃ a, h.SitsAt olds c a ∧ before = olds.extract c a ∧ here = olds.drop a := by
  cases source : h.source with
  | nil => exact locate_drop_of_source_nil valid source inside
  | cons anchor more => exact locate_drop_of_source_cons valid source

private theorem valid_of_locate_of_replay {h : Hunk} {c : Nat} {n : Int}
    {rest before here out left : List Line}
    (located : h.locate c rest = .ok (before, here))
    (replayed : replay n here h.body = .ok (out, left)) : h.Valid := by
  refine ⟨?_, (replay_ofLines_eq_ok_iff.mp replayed).1⟩
  intro empty
  simp [Hunk.locate, empty] at located

theorem emit_cons_eq_ok_iff {dedupe : Bool} {last : Option Line} {c : Nat} {rest : List Line}
    {h : Hunk} {hs : List Hunk} {es : List Emitted} :
    emit dedupe last c rest (h :: hs) = .ok es ↔
      ∃ before here out left more, h.locate c rest = .ok (before, here) ∧
        replay (h.headerLine + 1) here h.body = .ok (out, left) ∧
        emit dedupe (lastAfter last (copyLines dedupe last before ++ out))
          (c + (rest.length - left.length)) left hs = .ok more ∧
        es = (copyLines dedupe last before).map (⟨.copied, ·⟩) ++ out.map (⟨.written, ·⟩) ++ more := by
  simp only [emit, bind_eq_ok_iff, pure_eq_ok_iff, Prod.exists]
  constructor
  · rintro ⟨before, here, located, out, left, replayed, more, emitted, rfl⟩
    exact ⟨before, here, out, left, more, located, replayed, emitted, rfl⟩
  · rintro ⟨before, here, out, left, more, located, replayed, emitted, rfl⟩
    exact ⟨before, here, located, out, left, replayed, more, emitted, rfl⟩

@[simp]
theorem copyLines_false (last : Option Line) (ls : List Line) : copyLines false last ls = ls := by
  induction ls generalizing last with
  | nil => rfl
  | cons l ls ih => simp [copyLines, ih]

private theorem Hunk.SitsAt.bounds {h : Hunk} {olds : List Line} {c a : Nat} (sits : h.SitsAt olds c a)
    (inside : c ≤ olds.length) : c ≤ a ∧ a ≤ olds.length := by
  unfold Hunk.SitsAt at sits
  split at sits
  · obtain ⟨ge, here, -⟩ := sits
    obtain ⟨lt, -⟩ := List.getElem?_eq_some_iff.mp here
    exact ⟨ge, Nat.le_of_lt lt⟩
  · omega

private theorem exists_emit_cons_iff {olds news : List Line} {c : Nat} (inside : c ≤ olds.length)
    {last : Option Line} {h : Hunk} {hs : List Hunk} :
    (∃ es, emit false last c (olds.drop c) (h :: hs) = .ok es ∧ es.map Emitted.line = news) ↔
      h.Valid ∧ ∃ a, h.SitsAt olds c a ∧ a + h.source.length ≤ olds.length ∧
        ∃ more, emit false (lastAfter last (olds.extract c a ++ h.target)) (a + h.source.length)
          (olds.drop (a + h.source.length)) hs = .ok more ∧
          news = olds.extract c a ++ h.target ++ more.map Emitted.line := by
  -- After the hunk as many lines have been used up as its place and its source lines say.
  have used {a : Nat} (ge : c ≤ a) (fits : a + h.source.length ≤ olds.length) :
      c + ((olds.drop c).length - ((olds.drop a).drop h.source.length).length) =
        a + h.source.length := by
    simp only [List.length_drop]
    omega
  constructor
  · rintro ⟨es, emitted, rfl⟩
    obtain ⟨before, here, out, left, more, located, replayed, emitted, rfl⟩ :=
      emit_cons_eq_ok_iff.mp emitted
    have valid := valid_of_locate_of_replay located replayed
    obtain ⟨a, sits, rfl, rfl⟩ := (locate_drop_eq_ok_iff valid inside).mp located
    obtain ⟨-, fits, rfl, rfl⟩ := replay_ofLines_eq_ok_iff.mp replayed
    obtain ⟨ge, le⟩ := sits.bounds inside
    change h.source.length ≤ _ at fits
    rw [List.length_drop] at fits
    change emit _ _ (c + (_ - ((olds.drop a).drop h.source.length).length)) _ _ = _ at emitted
    rw [used ge (by omega), List.drop_drop, copyLines_false] at emitted
    refine ⟨valid, a, sits, by omega, more, emitted, ?_⟩
    simp [Function.comp_def, Hunk.target]
  · rintro ⟨valid, a, sits, fits, more, emitted, rfl⟩
    obtain ⟨ge, le⟩ := sits.bounds inside
    have located := (locate_drop_eq_ok_iff valid inside).mpr ⟨a, sits, rfl, rfl⟩
    have replayed : replay (h.headerLine + 1) (olds.drop a) h.body =
        .ok (h.target, (olds.drop a).drop h.source.length) := by
      refine replay_ofLines_eq_ok_iff.mpr ⟨valid.isBodyLine, ?_, rfl, rfl⟩
      change h.source.length ≤ _
      rw [List.length_drop]
      omega
    refine ⟨_, emit_cons_eq_ok_iff.mpr ⟨_, _, _, _, more, located, replayed, ?_, rfl⟩, ?_⟩
    · rw [used ge fits, List.drop_drop, copyLines_false]
      exact emitted
    · simp [Function.comp_def]

private theorem exists_emit_iff_placement {olds news : List Line} {c : Nat} (inside : c ≤ olds.length)
    {last : Option Line} {hs : List Hunk} :
    (∃ es, emit false last c (olds.drop c) hs = .ok es ∧ es.map Emitted.line = news) ↔
      (∀ h ∈ hs, h.Valid) ∧ ∃ places, Placement olds c hs places ∧ EndInside olds hs places ∧
        news = assemble olds c hs places := by
  -- The induction is on the hunks; `c` moves to the end of the hunk that is done.
  induction hs generalizing c last news with
  | nil =>
    constructor
    · rintro ⟨es, emitted, rfl⟩
      obtain rfl : _ = es := Except.ok.inj emitted
      refine ⟨by simp, [], .nil c, .nil, ?_⟩
      simp [assemble, Function.comp_def]
    · rintro ⟨-, places, placed, -, rfl⟩
      cases placed
      exact ⟨_, rfl, by simp [assemble, Function.comp_def]⟩
  | cons h hs ih =>
    rw [exists_emit_cons_iff inside]
    constructor
    · rintro ⟨valid, a, sits, fits, more, emitted, rfl⟩
      obtain ⟨valids, places, placed, ends, eq⟩ := (ih fits).mp ⟨more, emitted, rfl⟩
      refine ⟨List.forall_mem_cons.mpr ⟨valid, valids⟩, a :: places, .cons sits placed,
        .cons fits ends, ?_⟩
      rw [eq, assemble]
    · rintro ⟨valid, places, placed, ends, rfl⟩
      obtain ⟨valid, valids⟩ := List.forall_mem_cons.mp valid
      cases placed with
      | @cons _ a _ _ places sits placed =>
        obtain ⟨fits, ends⟩ := List.forall₂_cons.mp ends
        obtain ⟨more, emitted, eq⟩ := (ih fits).mpr ⟨valids, places, placed, ends, rfl⟩
        refine ⟨valid, a, sits, fits, more, emitted, ?_⟩
        rw [eq, assemble]

theorem applyHunks_eq_ok_iff_placement {old new : Text} {hs : List Hunk} :
    applyHunks false old hs = .ok new ↔
      (∀ h ∈ hs, h.Valid) ∧ ∃ places, Placement old.lines 0 hs places ∧
        EndInside old.lines hs places ∧ new = Text.unlines (assemble old.lines 0 hs places) := by
  have emits (news : List Line) : (∃ es, emit false none 0 old.lines hs = .ok es ∧
      es.map Emitted.line = news) ↔
        (∀ h ∈ hs, h.Valid) ∧ ∃ places, Placement old.lines 0 hs places ∧
          EndInside old.lines hs places ∧ news = assemble old.lines 0 hs places :=
    exists_emit_iff_placement (Nat.zero_le _)
  rw [applyHunks, map_eq_ok_iff]
  constructor
  · rintro ⟨es, emitted, rfl⟩
    obtain ⟨valid, places, placed, ends, eq⟩ := (emits _).mp ⟨es, emitted, rfl⟩
    exact ⟨valid, places, placed, ends, by rw [textOf, eq]⟩
  · rintro ⟨valid, places, placed, ends, rfl⟩
    obtain ⟨es, emitted, eq⟩ := (emits _).mpr ⟨valid, places, placed, ends, rfl⟩
    exact ⟨es, emitted, by rw [textOf, eq]⟩

end Redline.Diff
