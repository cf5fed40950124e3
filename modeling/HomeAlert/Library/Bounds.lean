/-
  File:      HomeAlert/Library/Bounds.lean
  Subject:   SYMMETRIC BOUNDS THROUGH THE INTEGER OPERATORS OF C, and what a shift loses.

  * `Within B n` says that `n` lies between `-B` and `B`. One lemma per operator carries the bound
    on: sums and differences add, products and left shifts multiply, an arithmetic right shift and
    C's truncating division divide.
  * An arithmetic right shift is the floor of the exact quotient: it misses it by less than one
    (`shift_error`), or by at most a half if half of the divisor was added first (`round_error`).
  * An error is carried on by one lemma per operator, for chains of products and shifts
    (`mul_error`, `square_error`, `shiftRight_error`).
-/
import Mathlib.Algebra.Order.Floor.Ring
import Mathlib.Data.Rat.Floor
import Mathlib.Tactic.FieldSimp
import Mathlib.Tactic.Linarith
import Mathlib.Tactic.Positivity
import Mathlib.Tactic.Ring

namespace Bounds

/-! ## 1. Symmetric bounds -/

/-- `n` lies between `-B` and `B`. -/
def Within (B n : Int) : Prop := -B ≤ n ∧ n ≤ B

instance (B n : Int) : Decidable (Within B n) := inferInstanceAs (Decidable (_ ∧ _))

theorem within_iff_abs {B n : Int} : Within B n ↔ |n| ≤ B := abs_le.symm

section Operators

variable {B C a b : Int}

theorem within_const (h : 0 ≤ a) : Within a a := ⟨by omega, Int.le_refl a⟩

theorem Within.add (ha : Within B a) (hb : Within C b) : Within (B + C) (a + b) := by
  obtain ⟨h1, h2⟩ := ha
  obtain ⟨h3, h4⟩ := hb
  exact ⟨by omega, by omega⟩

theorem Within.sub (ha : Within B a) (hb : Within C b) : Within (B + C) (a - b) := by
  obtain ⟨h1, h2⟩ := ha
  obtain ⟨h3, h4⟩ := hb
  exact ⟨by omega, by omega⟩

theorem Within.mul (ha : Within B a) (hb : Within C b) : Within (B * C) (a * b) := by
  rw [within_iff_abs] at ha hb ⊢
  rw [abs_mul]
  exact mul_le_mul ha hb (abs_nonneg b) ((abs_nonneg a).trans ha)

theorem Within.shiftLeft (ha : Within B a) (k : Nat) : Within (B * 2 ^ k) (a <<< k) := by
  obtain ⟨h1, h2⟩ := ha
  have hpos : (0 : Int) ≤ 2 ^ k := by positivity
  rw [Int.shiftLeft_eq]
  constructor
  · rw [← Int.neg_mul]
    exact mul_le_mul_of_nonneg_right h1 hpos
  · exact mul_le_mul_of_nonneg_right h2 hpos

/-- An arithmetic shift divides the bound, rounded up. -/
theorem Within.shiftRight (ha : Within B a) (k : Nat) (h : B ≤ C * 2 ^ k) :
    Within C (a >>> k) := by
  obtain ⟨h1, h2⟩ := ha
  have hpos : (0 : Int) < 2 ^ k := by positivity
  rw [Int.shiftRight_eq_div_pow]
  push_cast
  constructor
  · exact (Int.le_ediv_iff_mul_le hpos).mpr (by linarith)
  · exact (Int.ediv_le_iff_le_mul hpos).mpr (by linarith)

/-- C's division by a positive number divides the bound, rounded down. -/
theorem Within.tdiv (ha : Within B a) {d : Int} (hd : 0 < d) (h : B < (C + 1) * d) :
    Within C (a.tdiv d) := by
  have hnonneg : ∀ {n : Int}, 0 ≤ n → n ≤ B → n.tdiv d ≤ C := by
    intro n h1 h2
    rw [Int.tdiv_eq_ediv_of_nonneg h1]
    exact Int.lt_add_one_iff.mp (Int.ediv_lt_of_lt_mul hd (lt_of_le_of_lt h2 h))
  obtain ⟨h1, h2⟩ := ha
  rcases Int.le_total 0 a with h0 | h0
  · have h3 := hnonneg h0 h2
    have h4 := Int.tdiv_nonneg h0 hd.le
    exact ⟨by omega, h3⟩
  · have h3 := hnonneg (n := -a) (by omega) (by omega)
    have h4 := Int.tdiv_nonneg (show 0 ≤ -a by omega) hd.le
    rw [Int.neg_tdiv] at h3 h4
    exact ⟨by omega, by omega⟩

end Operators

/-! ## 2. What a shift loses -/

/-- The shift is the floor of the quotient. -/
theorem shiftRight_eq_floor (n : Int) (k : Nat) : n >>> k = ⌊(n : ℚ) / 2 ^ k⌋ := by
  have h := Rat.floor_intCast_div_natCast n (2 ^ k)
  push_cast at h
  rw [Int.shiftRight_eq_div_pow, h]
  push_cast
  rfl

theorem shift_error (n : Int) (k : Nat) : |(n : ℚ) / 2 ^ k - ((n >>> k : Int) : ℚ)| < 1 := by
  have h1 := Int.floor_le ((n : ℚ) / 2 ^ k)
  have h2 := Int.sub_one_lt_floor ((n : ℚ) / 2 ^ k)
  rw [shiftRight_eq_floor, abs_lt]
  exact ⟨by linarith, by linarith⟩

/-- **Half of the divisor added first**: the shift rounds to the nearest. -/
theorem round_error (n : Int) (k : Nat) :
    |(n : ℚ) / 2 ^ (k + 1) - (((n + 2 ^ k) >>> (k + 1) : Int) : ℚ)| ≤ 1 / 2 := by
  have hhalf : ((n + 2 ^ k : Int) : ℚ) / 2 ^ (k + 1) = (n : ℚ) / 2 ^ (k + 1) + 1 / 2 := by
    push_cast
    field_simp
    ring
  have h1 := Int.floor_le (((n + 2 ^ k : Int) : ℚ) / 2 ^ (k + 1))
  have h2 := Int.sub_one_lt_floor (((n + 2 ^ k : Int) : ℚ) / 2 ^ (k + 1))
  rw [hhalf] at h1 h2
  rw [shiftRight_eq_floor, hhalf, abs_le]
  exact ⟨by linarith, by linarith⟩

/-! ## 3. Errors through the operators -/

section Errors

variable {x y x' y' e e' p P : ℚ}

theorem add_error (h : |x - y| < e) (h' : |x' - y'| < e') :
    |(x + x') - (y + y')| < e + e' := by
  rw [add_sub_add_comm]
  exact (abs_add_le _ _).trans_lt (add_lt_add h h')

theorem mul_error (h : |x - y| < e) (hp : |p| ≤ P) (hP : 0 < P) : |x * p - y * p| < e * P := by
  rw [← sub_mul, abs_mul]
  exact mul_lt_mul_of_lt_of_le_of_nonneg_of_pos h hp (abs_nonneg _) hP

theorem square_error (h : |x - y| < e) (hy : |y| ≤ P) : |x * x - y * y| < e * (2 * P + e) := by
  have hsplit : x * x - y * y = (x - y) * (x + y) := by ring
  have hsum : |x + y| ≤ 2 * P + |x - y| := by
    calc |x + y| = |(x - y) + 2 * y| := by ring_nf
      _ ≤ |x - y| + |2 * y| := abs_add_le _ _
      _ = |x - y| + 2 * |y| := by rw [abs_mul, abs_two]
      _ ≤ 2 * P + |x - y| := by linarith
  have hP : 0 ≤ P := (abs_nonneg y).trans hy
  have he : 0 < e := (abs_nonneg _).trans_lt h
  rw [hsplit, abs_mul]
  calc |x - y| * |x + y| ≤ |x - y| * (2 * P + e) :=
        mul_le_mul_of_nonneg_left (by linarith) (abs_nonneg _)
    _ < e * (2 * P + e) := mul_lt_mul_of_pos_right h (by linarith)

/-- **An error before a shift** shrinks with it, and the shift adds less than one. -/
theorem shiftRight_error {n : Int} (h : |x - n| < e) (k : Nat) :
    |x / 2 ^ k - ((n >>> k : Int) : ℚ)| < e / 2 ^ k + 1 := by
  have hpos : (0 : ℚ) < 2 ^ k := by positivity
  have h1 : |x / 2 ^ k - (n : ℚ) / 2 ^ k| < e / 2 ^ k := by
    rw [← sub_div, abs_div, abs_of_pos hpos]
    exact div_lt_div_of_pos_right h hpos
  exact (abs_sub_le _ _ _).trans_lt (add_lt_add h1 (shift_error n k))

end Errors

end Bounds
