/-
  File:      HomeAlert/Library/Fixed.lean
  Subject:   HUNDREDTHS AND TWO-PART DECIMALS, with C's division and C's float-to-integer cast.

  * A number of hundredths `n` is carried either as the integer `n` or as a whole part and
    millionths, split with C's truncating `/` and `%`. The split denotes `n / 100`, its two parts
    never have opposite signs, and the fraction is below one (`split_value`, `split_sign`,
    `split_frac`); joining the parts gives `n` back (`join_split`).
  * `trunc` is the value of C's conversion of a floating number to an integer type that can hold
    it: towards zero. It keeps the order (`trunc_mono`). Comparing the truncated number with an
    integer compares the number itself, up to the boundary (`trunc_lt_iff`, `lt_of_lt_trunc`,
    `le_trunc_of_lt`).
  * C's join of any two parts of one sign is the truncated hundredfold (`trunc_hundredfold`).
-/
import Mathlib.Algebra.Order.Floor.Ring
import Mathlib.Data.Rat.Floor
import Mathlib.Tactic.FieldSimp
import Mathlib.Tactic.Linarith
import Mathlib.Tactic.Ring

namespace Fixed

/-! ## 1. Hundredths in two parts -/

/-- C's quotient and remainder of `n` by `d` denote `n / d`. -/
theorem quotient_value (n : Int) {d : Int} (hd : d ≠ 0) :
    ((n.tdiv d : Int) : ℚ) + ((n.tmod d : Int) : ℚ) / d = (n : ℚ) / d := by
  have hd' : (d : ℚ) ≠ 0 := Int.cast_ne_zero.mpr hd
  have h : ((n.tmod d + d * n.tdiv d : Int) : ℚ) = (n : ℚ) := by
    rw [Int.tmod_add_mul_tdiv]
  push_cast at h
  rw [← h, add_div, mul_div_cancel_left₀ _ hd', add_comm]

theorem tmod_nonpos {n : Int} (h : n ≤ 0) (d : Int) : n.tmod d ≤ 0 := by
  have := Int.tmod_nonneg d (show 0 ≤ -n by omega)
  rw [Int.neg_tmod] at this
  omega

/-- **The two parts denote `n / 100`.** -/
theorem split_value (n : Int) :
    ((n.tdiv 100 : Int) : ℚ) + ((n.tmod 100 * 10000 : Int) : ℚ) / 10 ^ 6 = (n : ℚ) / 100 := by
  have h := quotient_value n (d := 100) (by omega)
  push_cast at h ⊢
  linarith

theorem tmod_bounds (n : Int) : -100 < n.tmod 100 ∧ n.tmod 100 < 100 := by
  have h1 := Int.tmod_lt_of_pos n (show (0 : Int) < 100 by omega)
  have h2 := Int.lt_tmod_of_pos n (show (0 : Int) < 100 by omega)
  exact ⟨h2, h1⟩

/-- The fraction is below one, in millionths. -/
theorem split_frac (n : Int) : |n.tmod 100 * 10000| < 10 ^ 6 := by
  obtain ⟨h1, h2⟩ := tmod_bounds n
  rw [abs_lt]
  constructor <;> omega

/-- **The two parts never have opposite signs.** -/
theorem split_sign (n : Int) : 0 ≤ n.tdiv 100 * (n.tmod 100 * 10000) := by
  rcases Int.le_total 0 n with h | h
  · exact Int.mul_nonneg (Int.tdiv_nonneg h (by omega))
      (Int.mul_nonneg (Int.tmod_nonneg 100 h) (by omega))
  · have h1 : n.tdiv 100 ≤ 0 := by
      have := Int.tdiv_nonneg (show 0 ≤ -n by omega) (show (0 : Int) ≤ 100 by omega)
      rw [Int.neg_tdiv] at this
      omega
    exact Int.mul_nonneg_of_nonpos_of_nonpos h1
      (Int.mul_nonpos_of_nonpos_of_nonneg (tmod_nonpos h 100) (by omega))

/-- **Joining the two parts gives the hundredths back.** -/
theorem join_split (n : Int) : n.tdiv 100 * 100 + (n.tmod 100 * 10000).tdiv 10000 = n := by
  rw [Int.mul_tdiv_cancel _ (by omega), Int.mul_comm, Int.mul_tdiv_add_tmod]

/-! ## 2. Truncation -/

/-- C's conversion of a floating number to an integer: towards zero. -/
def trunc (q : ℚ) : Int := if 0 ≤ q then ⌊q⌋ else ⌈q⌉

theorem trunc_of_nonneg {q : ℚ} (h : 0 ≤ q) : trunc q = ⌊q⌋ := if_pos h

@[simp] theorem trunc_intCast (n : Int) : trunc (n : ℚ) = n := by
  unfold trunc
  split <;> simp

theorem trunc_nonneg {q : ℚ} (h : 0 ≤ q) : 0 ≤ trunc q := by
  rw [trunc_of_nonneg h]
  exact Int.floor_nonneg.mpr h

/-- Below an integer: the truncated number says exactly what the number says. -/
theorem trunc_lt_iff {q : ℚ} (h : 0 ≤ q) (n : Int) : trunc q < n ↔ q < n := by
  rw [trunc_of_nonneg h]
  exact Int.floor_lt

/-- Above an integer: a truncated number that is above has its number above. -/
theorem lt_of_lt_trunc {q : ℚ} (h : 0 ≤ q) {n : Int} (hn : n < trunc q) : (n : ℚ) < q := by
  rw [trunc_of_nonneg h] at hn
  exact lt_of_lt_of_le (Int.cast_lt.mpr hn) (Int.floor_le q)

/-- Above an integer: a number that is above has its truncated number at the integer or above. -/
theorem le_trunc_of_lt {q : ℚ} (h : 0 ≤ q) {n : Int} (hn : (n : ℚ) < q) : n ≤ trunc q := by
  rw [trunc_of_nonneg h]
  exact Int.le_floor.mpr hn.le

theorem trunc_neg (q : ℚ) : trunc (-q) = -trunc q := by
  unfold trunc
  rcases lt_trichotomy q 0 with h | h | h
  · rw [if_pos (by linarith), if_neg (by linarith), Int.floor_neg]
  · rw [h]
    simp
  · rw [if_neg (by linarith), if_pos h.le, Int.ceil_neg]

/-- **Truncation keeps the order.** -/
theorem trunc_mono {q r : ℚ} (h : q ≤ r) : trunc q ≤ trunc r := by
  unfold trunc
  split_ifs with hq hr hr
  · exact Int.floor_le_floor h
  · linarith
  · have h1 : ⌈q⌉ ≤ 0 := Int.ceil_le.mpr (by push_cast; linarith)
    exact h1.trans (Int.floor_nonneg.mpr hr)
  · exact Int.ceil_le_ceil h

/-- Less than one from an integer: that integer truncated, or the next one towards zero. -/
theorem trunc_near {q : ℚ} {n : Int} (h : |q - n| < 1) :
    trunc q = n ∨ 0 < n ∧ trunc q = n - 1 ∨ n < 0 ∧ trunc q = n + 1 := by
  have hpos : ∀ {q : ℚ} {n : Int}, |q - n| < 1 → 0 < n → trunc q = n ∨ trunc q = n - 1 := by
    intro q n h hn
    obtain ⟨h1, h2⟩ := abs_lt.mp h
    have hn' : (1 : ℚ) ≤ n := by exact_mod_cast hn
    rw [trunc_of_nonneg (by linarith)]
    have h3 : n - 1 ≤ ⌊q⌋ := Int.le_floor.mpr (by push_cast; linarith)
    have h4 : ⌊q⌋ < n + 1 := Int.floor_lt.mpr (by push_cast; linarith)
    omega
  rcases lt_trichotomy n 0 with hn | rfl | hn
  · have hneg : |-q - (-n : Int)| < 1 := by
      rw [← abs_neg]
      push_cast
      rwa [show -(-q - -(n : ℚ)) = q - n by ring]
    have := hpos hneg (by omega)
    rw [trunc_neg] at this
    omega
  · rw [Int.cast_zero, sub_zero] at h
    obtain ⟨h1, h2⟩ := abs_lt.mp h
    left
    unfold trunc
    split_ifs with h0
    · exact Int.floor_eq_iff.mpr ⟨by simpa using h0, by simpa using h2⟩
    · exact Int.ceil_eq_iff.mpr ⟨by simpa using h1, by simpa using (not_le.mp h0).le⟩
  · have := hpos h hn
    omega

/-- Two parts that are not negative, made hundredths. -/
theorem trunc_hundredfold_nonneg {a b : Int} (ha : 0 ≤ a) (hb : 0 ≤ b) :
    trunc (100 * ((a : ℚ) + (b : ℚ) / 10 ^ 6)) = a * 100 + b.tdiv 10000 := by
  have ha' : (0 : ℚ) ≤ a := by exact_mod_cast ha
  have hb' : (0 : ℚ) ≤ b := by exact_mod_cast hb
  have hq : 100 * ((a : ℚ) + (b : ℚ) / 10 ^ 6) =
      ((a * 100 : Int) : ℚ) + (b : ℚ) / (10000 : Nat) := by
    push_cast
    ring
  rw [trunc_of_nonneg (by positivity), hq, Int.floor_intCast_add, Rat.floor_intCast_div_natCast,
    Int.tdiv_eq_ediv_of_nonneg hb]
  rfl

/-- **C's join of two parts of one sign is the truncated hundredfold** of what they denote. -/
theorem trunc_hundredfold {a b : Int} (h : 0 ≤ a * b) :
    trunc (100 * ((a : ℚ) + (b : ℚ) / 10 ^ 6)) = a * 100 + b.tdiv 10000 := by
  rcases mul_nonneg_iff.mp h with ⟨ha, hb⟩ | ⟨ha, hb⟩
  · exact trunc_hundredfold_nonneg ha hb
  · have hneg := trunc_hundredfold_nonneg (a := -a) (b := -b) (by omega) (by omega)
    have hq : 100 * (((-a : Int) : ℚ) + ((-b : Int) : ℚ) / 10 ^ 6) =
        -(100 * ((a : ℚ) + (b : ℚ) / 10 ^ 6)) := by
      push_cast
      ring
    rw [hq, trunc_neg, Int.neg_tdiv] at hneg
    linarith

/-! ## 3. A truncated number received as a natural number -/

section Received

variable {q : ℚ} (h : 0 ≤ q) {m : Nat} (hm : (m : Int) = trunc q) (n : Nat)

include h hm

/-- Below a natural number: what was received says exactly what was measured. -/
theorem received_lt_iff : m < n ↔ q < n := by
  have := trunc_lt_iff h n
  rw [← hm] at this
  exact_mod_cast this

theorem lt_of_lt_received (hn : n < m) : (n : ℚ) < q := by
  have := lt_of_lt_trunc h (n := n) (by rw [← hm]; exact_mod_cast hn)
  exact_mod_cast this

theorem le_received_of_lt (hn : (n : ℚ) < q) : n ≤ m := by
  have := le_trunc_of_lt h (n := n) (by exact_mod_cast hn)
  rw [← hm] at this
  exact_mod_cast this

end Received

end Fixed
