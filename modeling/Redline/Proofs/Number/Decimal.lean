import Mathlib.Algebra.Ring.Nat
import Redline.Number.Decimal

set_option autoImplicit false
set_option relaxedAutoImplicit false

/-!
Decimal text of natural numbers: it consists of digits, it is read as the number that it writes, and
it is as short as the size of the number allows.
-/

namespace Redline.Number

open Text (digitsValue isDigit digitValue?)

private theorem digitValue?_digitChar {n : Nat} (small : n < 10) : digitValue? (digitChar n) = some n := by
  have all : ∀ m < 10, digitValue? (digitChar m) = some m := by decide
  exact all n small

private theorem digitsValue_append_singleton (ds : Text) (c : Char) :
    digitsValue (ds ++ [c]) = 10 * digitsValue ds + (digitValue? c).getD 0 := by
  simp [digitsValue, List.foldl_append]

theorem digitsValue_showNat (n : Nat) : digitsValue (showNat n) = n := by
  fun_induction showNat n with
  | case1 n small => simp [digitsValue, digitValue?_digitChar small]
  | case2 n large ih =>
    rw [digitsValue_append_singleton, ih, digitValue?_digitChar (Nat.mod_lt n (by decide))]
    simp only [Option.getD_some]
    omega

theorem showNat_ne_nil (n : Nat) : showNat n ≠ [] := by
  fun_induction showNat n with
  | case1 n small => simp
  | case2 n large ih => simp

theorem isDigit_of_mem_showNat {n : Nat} {c : Char} (mem : c ∈ showNat n) : isDigit c = true := by
  have digit {m : Nat} (small : m < 10) : isDigit (digitChar m) = true := by
    simp [isDigit, digitValue?_digitChar small]
  fun_induction showNat n with
  | case1 n small =>
    obtain rfl := List.mem_singleton.mp mem
    exact digit small
  | case2 n large ih =>
    rcases List.mem_append.mp mem with mem | mem
    · exact ih mem
    · obtain rfl := List.mem_singleton.mp mem
      exact digit (Nat.mod_lt n (by decide))

theorem length_showNat_le {n k : Nat} (positive : 0 < k) (bound : n < 10 ^ k) :
    (showNat n).length ≤ k := by
  fun_induction showNat n generalizing k with
  | case1 n small => exact positive
  | case2 n large ih =>
    obtain ⟨j, rfl⟩ : ∃ j, k = j + 1 := ⟨k - 1, by omega⟩
    rw [pow_succ] at bound
    have more : 0 < j := by
      rcases Nat.eq_zero_or_pos j with rfl | pos
      · simp at bound
        omega
      · exact pos
    have inner := ih more (by omega)
    rw [List.length_append, List.length_singleton]
    omega

end Redline.Number
