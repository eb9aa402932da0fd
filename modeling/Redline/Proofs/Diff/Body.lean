import Redline.Diff.Patch
import Redline.Proofs.Outcome

set_option autoImplicit false
set_option relaxedAutoImplicit false

/-!
Bodies of hunks. The source lines of a body are those that stand for old lines, its target lines are
those that it writes. Replaying a body succeeds exactly when every line of it begins as a body line
may and enough old lines are left; it then writes the target and uses up as many old lines as there
are source lines, whatever they say.
-/

namespace Redline.Diff

/-- Whether a line begins as a body line may: with a plus, a minus or a space, unless it is empty. -/
def IsBodyLine (l : Line) : Prop := l.head? ∈ [none, some '+', some '-', some ' ']

instance (l : Line) : Decidable (IsBodyLine l) :=
  inferInstanceAs (Decidable (l.head? ∈ [none, some '+', some '-', some ' ']))

/-- The texts of the lines of a body that stand for old lines. An empty last line stands for none. -/
def sourceLines : List Line → List Line
  | [] => []
  | [[]] => []
  | [] :: ls => [] :: sourceLines ls
  | ('-' :: t) :: ls => t :: sourceLines ls
  | (' ' :: t) :: ls => t :: sourceLines ls
  | _ :: ls => sourceLines ls

/-- The texts of the lines that a body writes. An empty last line is not written. -/
def targetLines : List Line → List Line
  | [] => []
  | [[]] => []
  | [] :: ls => [] :: targetLines ls
  | ('+' :: t) :: ls => t :: targetLines ls
  | (' ' :: t) :: ls => t :: targetLines ls
  | _ :: ls => targetLines ls

namespace BodyLine

def source? : BodyLine → Option Line
  | .delete t => some t
  | .keep t => some t
  | _ => none

def target? : BodyLine → Option Line
  | .add t => some t
  | .keep t => some t
  | _ => none

def isStray : BodyLine → Bool
  | .stray _ => true
  | _ => false

theorem ofLines_cons (l : Line) (ls : List Line) :
    ofLines (l :: ls) = ofLine ls.isEmpty l :: ofLines ls := by
  cases ls with
  | nil => rfl
  | cons m ms => rfl

theorem isStray_ofLine (last : Bool) (l : Line) :
    (ofLine last l).isStray = false ↔ IsBodyLine l := by
  fun_cases ofLine last l with
  | case1 t => simp [isStray, IsBodyLine]
  | case2 t => simp [isStray, IsBodyLine]
  | case3 t => simp [isStray, IsBodyLine]
  | case4 _ => simp [isStray, IsBodyLine]
  | case5 _ => simp [isStray, IsBodyLine]
  | case6 l plus minus space empty =>
    cases l with
    | nil => exact absurd rfl empty
    | cons c t =>
      have notPlus : c ≠ '+' := fun h => plus t (by rw [h])
      have notMinus : c ≠ '-' := fun h => minus t (by rw [h])
      have notSpace : c ≠ ' ' := fun h => space t (by rw [h])
      simp [isStray, IsBodyLine, notPlus, notMinus, notSpace]

private theorem sourceLines_cons (l : Line) (ls : List Line) :
    sourceLines (l :: ls) = (ofLine ls.isEmpty l).source?.toList ++ sourceLines ls := by
  fun_cases ofLine ls.isEmpty l <;> cases ls <;> simp_all [source?, sourceLines]

theorem targetLines_cons (l : Line) (ls : List Line) :
    targetLines (l :: ls) = (ofLine ls.isEmpty l).target?.toList ++ targetLines ls := by
  fun_cases ofLine ls.isEmpty l <;> cases ls <;> simp_all [target?, targetLines]

private theorem forall_isStray_ofLines_iff (ls : List Line) :
    (∀ b ∈ ofLines ls, b.isStray = false) ↔ ∀ l ∈ ls, IsBodyLine l := by
  induction ls with
  | nil => simp [ofLines]
  | cons l ls ih => simp only [ofLines_cons, List.forall_mem_cons, isStray_ofLine, ih]

private theorem filterMap_source?_ofLines (ls : List Line) :
    (ofLines ls).filterMap source? = sourceLines ls := by
  induction ls with
  | nil => rfl
  | cons l ls ih =>
    rw [ofLines_cons, sourceLines_cons, ← ih, List.filterMap_cons]
    cases (ofLine ls.isEmpty l).source? <;> rfl

private theorem filterMap_target?_ofLines (ls : List Line) :
    (ofLines ls).filterMap target? = targetLines ls := by
  induction ls with
  | nil => rfl
  | cons l ls ih =>
    rw [ofLines_cons, targetLines_cons, ← ih, List.filterMap_cons]
    cases (ofLine ls.isEmpty l).target? <;> rfl

end BodyLine

open BodyLine (source? target?)

private theorem replay_cons (n : Int) (b : BodyLine) (bs : List BodyLine) (rest : List Line)
    (out left : List Line) :
    replay n rest (b :: bs) = .ok (out, left) ↔
      b.isStray = false ∧ b.source?.toList.length ≤ rest.length ∧
        ∃ more, replay (n + 1) (rest.drop b.source?.toList.length) bs = .ok (more, left) ∧
          out = b.target?.toList ++ more := by
  cases b with
  | add t =>
    simp only [replay, bind_pure_comp, functorMap_eq_ok_iff]
    constructor
    · rintro ⟨⟨more, _⟩, run, eq⟩
      cases eq
      exact ⟨rfl, Nat.zero_le _, more, run, rfl⟩
    · rintro ⟨-, -, more, run, rfl⟩
      exact ⟨(more, left), run, rfl⟩
  | delete t =>
    cases rest with
    | nil => simp [replay, source?]
    | cons l rest => simp [replay, BodyLine.isStray, source?, target?]
  | keep t =>
    cases rest with
    | nil => simp [replay, source?]
    | cons l rest =>
      simp only [replay, bind_pure_comp, functorMap_eq_ok_iff]
      constructor
      · rintro ⟨⟨more, _⟩, run, eq⟩
        cases eq
        exact ⟨rfl, by simp [source?], more, run, rfl⟩
      · rintro ⟨-, -, more, run, rfl⟩
        exact ⟨(more, left), run, rfl⟩
  | padding => simp [replay, BodyLine.isStray, source?, target?]
  | stray l => simp [replay, BodyLine.isStray]

private theorem replay_eq_ok_iff_filterMap {n : Int} {bs : List BodyLine}
    {rest out left : List Line} :
    replay n rest bs = .ok (out, left) ↔
      (∀ b ∈ bs, b.isStray = false) ∧ (bs.filterMap source?).length ≤ rest.length ∧
        out = bs.filterMap target? ∧ left = rest.drop (bs.filterMap source?).length := by
  induction bs generalizing n rest out left with
  | nil =>
    simp only [replay, Except.ok.injEq, Prod.mk.injEq, List.filterMap_nil, List.length_nil,
      List.drop_zero, Nat.zero_le, List.not_mem_nil, false_imp_iff, implies_true, true_and]
    exact and_congr eq_comm eq_comm
  | cons b bs ih =>
    have source : ((b :: bs).filterMap source?).length =
        b.source?.toList.length + (bs.filterMap source?).length := by
      cases h : b.source? <;> simp [h, Nat.add_comm]
    have target : (b :: bs).filterMap target? = b.target?.toList ++ bs.filterMap target? := by
      cases h : b.target? <;> simp [h]
    simp only [replay_cons, ih, source, target, List.forall_mem_cons, List.length_drop,
      List.drop_drop]
    constructor
    · rintro ⟨clear, fits, more, ⟨clears, fitsMore, rfl, rfl⟩, rfl⟩
      exact ⟨⟨clear, clears⟩, by omega, rfl, rfl⟩
    · rintro ⟨⟨clear, clears⟩, fits, rfl, rfl⟩
      exact ⟨clear, by omega, _, ⟨clears, by omega, rfl, rfl⟩, rfl⟩

theorem replay_ofLines_eq_ok_iff {n : Int} {ls rest out left : List Line} :
    replay n rest (BodyLine.ofLines ls) = .ok (out, left) ↔
      (∀ l ∈ ls, IsBodyLine l) ∧ (sourceLines ls).length ≤ rest.length ∧
        out = targetLines ls ∧ left = rest.drop (sourceLines ls).length := by
  rw [replay_eq_ok_iff_filterMap, BodyLine.forall_isStray_ofLines_iff,
    BodyLine.filterMap_source?_ofLines, BodyLine.filterMap_target?_ofLines]

private theorem exists_anchor? (n : Int) {bs : List BodyLine} (clear : ∀ b ∈ bs, b.isStray = false) :
    ∃ found, anchor? n bs = .ok found := by
  induction bs generalizing n with
  | nil => exact ⟨none, rfl⟩
  | cons b bs ih =>
    obtain ⟨first, others⟩ := List.forall_mem_cons.mp clear
    cases b with
    | add t => exact ih (n + 1) others
    | delete t => exact ⟨some t, rfl⟩
    | keep t => exact ⟨some t, rfl⟩
    | padding => exact ⟨none, rfl⟩
    | stray l => simp [BodyLine.isStray] at first

theorem head?_sourceLines_of_anchor? {n : Int} {ls : List Line} {found : Option Line}
    (ok : anchor? n (BodyLine.ofLines ls) = .ok found) : (sourceLines ls).head? = found := by
  induction ls generalizing n with
  | nil => exact Except.ok.inj ok
  | cons l ls ih =>
    rw [BodyLine.ofLines_cons] at ok
    rw [BodyLine.sourceLines_cons]
    cases meaning : BodyLine.ofLine ls.isEmpty l with
    | add t =>
      rw [meaning, anchor?] at ok
      exact ih ok
    | delete t => simpa [meaning, anchor?, source?] using ok
    | keep t => simpa [meaning, anchor?, source?] using ok
    | padding =>
      -- Padding is the last line, so no source line follows it.
      have last : ls = [] := by
        revert meaning
        fun_cases BodyLine.ofLine ls.isEmpty l <;> simp_all
      rw [meaning, anchor?] at ok
      obtain rfl := Except.ok.inj ok
      rw [last]
      rfl
    | stray t => simp [meaning, anchor?] at ok

theorem anchor?_ofLines {n : Int} {ls : List Line} (valid : ∀ l ∈ ls, IsBodyLine l) :
    anchor? n (BodyLine.ofLines ls) = .ok (sourceLines ls).head? := by
  have clear := (BodyLine.forall_isStray_ofLines_iff ls).mpr valid
  obtain ⟨found, ok⟩ := exists_anchor? n clear
  rw [ok, head?_sourceLines_of_anchor? ok]

end Redline.Diff
