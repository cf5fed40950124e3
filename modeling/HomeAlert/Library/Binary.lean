/-
  File:      HomeAlert/Library/Binary.lean
  Subject:   BINARY FLOATING-POINT NUMBERS, rounded to the nearest one and to the even one of two.

  A format has a number of binary digits and a least exponent. Its numbers are those with a
  significand of that many digits at that exponent or above; there is no largest one, so the
  rounding is that of a machine where the machine does not overflow. Infinities, signed zeros and
  values that are no numbers are not represented.

  * `Nearest`, `halfEven` -- rounding to an integer is determined by what it is for;
  * `round_mono`, `round_neg` -- rounding keeps the order and commutes with the sign;
  * `round_of_holds` -- what the format holds is not rounded, integers for instance (`round_int`);
  * `round_error` -- elsewhere the error is half a unit in the last place.
-/
import Mathlib.Data.Int.Log
import Mathlib.Data.Rat.Floor
import Mathlib.Tactic.FieldSimp
import Mathlib.Tactic.Linarith
import Mathlib.Tactic.Positivity
import Mathlib.Tactic.Ring

namespace Binary

/-! ## 1. Rounding to an integer -/

/-- **A nearest integer**, and the even one of two. -/
structure Nearest (q : ℚ) (n : Int) : Prop where
  near : |q - n| ≤ 1 / 2
  even : |q - n| = 1 / 2 → 2 ∣ n

def halfEven (q : ℚ) : Int :=
  if q - ⌊q⌋ < 1 / 2 ∨ q - ⌊q⌋ = 1 / 2 ∧ 2 ∣ ⌊q⌋ then ⌊q⌋ else ⌊q⌋ + 1

theorem halfEven_nearest (q : ℚ) : Nearest q (halfEven q) := by
  have h0 := Int.floor_le q
  have h1 := Int.lt_floor_add_one q
  unfold halfEven
  split
  · rename_i h
    have habs : |q - ⌊q⌋| = q - ⌊q⌋ := abs_of_nonneg (by linarith)
    refine ⟨?_, fun htie => ?_⟩
    · rw [habs]
      rcases h with h | ⟨h, -⟩
      · exact h.le
      · exact h.le
    · rw [habs] at htie
      rcases h with h | ⟨-, heven⟩
      · linarith
      · exact heven
  · rename_i h
    obtain ⟨hge, hodd⟩ := not_or.mp h
    have habs : |q - (⌊q⌋ + 1 : Int)| = ⌊q⌋ + 1 - q := by
      rw [abs_of_nonpos (by push_cast; linarith)]
      push_cast
      ring
    refine ⟨?_, fun htie => ?_⟩
    · rw [habs]
      linarith
    · rw [habs] at htie
      have hnot : ¬ 2 ∣ ⌊q⌋ := fun heven => hodd ⟨by linarith, heven⟩
      omega

/-- **A larger number has no smaller nearest integer.** -/
theorem Nearest.le {q r : ℚ} {n m : Int} (hn : Nearest q n) (hm : Nearest r m) (h : q ≤ r) :
    n ≤ m := by
  by_contra hlt
  have hstep : ((m + 1 : Int) : ℚ) ≤ n := Int.cast_le.mpr (by omega)
  push_cast at hstep
  obtain ⟨hn1, -⟩ := abs_le.mp hn.near
  obtain ⟨-, hm2⟩ := abs_le.mp hm.near
  -- the two are a tie of one number, and one of them is odd
  have hq : q - n = -(1 / 2) := by linarith
  have hr : r - m = 1 / 2 := by linarith
  have heven := hn.even (by rw [hq]; norm_num)
  have heven' := hm.even (by rw [hr]; norm_num)
  have hnm : (n : ℚ) = ((m + 1 : Int) : ℚ) := by
    push_cast
    linarith
  have := Int.cast_injective hnm
  omega

theorem Nearest.unique {q : ℚ} {n m : Int} (hn : Nearest q n) (hm : Nearest q m) : n = m :=
  le_antisymm (hn.le hm le_rfl) (hm.le hn le_rfl)

theorem halfEven_mono {q r : ℚ} (h : q ≤ r) : halfEven q ≤ halfEven r :=
  (halfEven_nearest q).le (halfEven_nearest r) h

@[simp] theorem halfEven_intCast (n : Int) : halfEven (n : ℚ) = n := by
  refine (halfEven_nearest n).unique ⟨?_, fun h => ?_⟩
  · simp
  · rw [sub_self, abs_zero] at h
    norm_num at h

theorem halfEven_neg (q : ℚ) : halfEven (-q) = -halfEven q := by
  obtain ⟨h1, h2⟩ := halfEven_nearest q
  have habs : |-q - (-halfEven q : Int)| = |q - halfEven q| := by
    rw [← abs_neg]
    congr 1
    push_cast
    ring
  refine (halfEven_nearest (-q)).unique ⟨by rwa [habs], fun h => ?_⟩
  rw [habs] at h
  exact (dvd_neg).mpr (h2 h)

/-! ## 2. Formats -/

/-- A format: the digits of a significand and the exponent of its smallest unit. -/
structure Format where
  prec : Nat
  emin : Int
  prec_pos : 0 < prec

def binary32 : Format := ⟨24, -149, by decide⟩
def binary64 : Format := ⟨53, -1074, by decide⟩

/-- The exponent of the last place of a number. -/
def Format.expo (F : Format) (x : ℚ) : Int := max (Int.log 2 |x| + 1 - F.prec) F.emin

/-- The unit in the last place. -/
def Format.ulp (F : Format) (x : ℚ) : ℚ := 2 ^ F.expo x

/-- **Rounding to the format.** -/
def Format.round (F : Format) (x : ℚ) : ℚ := halfEven (x / F.ulp x) * F.ulp x

/-- The numbers of the format. -/
def Format.Holds (F : Format) (x : ℚ) : Prop :=
  ∃ m e : Int, |m| < 2 ^ F.prec ∧ F.emin ≤ e ∧ x = m * 2 ^ e

section Rounding

variable {F : Format} {x y : ℚ}

theorem ulp_pos (F : Format) (x : ℚ) : 0 < F.ulp x := zpow_pos (by norm_num) _

/-- A power of two at or above the last place, in units of it. -/
theorem pow_units {k : Int} (h : F.expo x ≤ k) :
    (2 : ℚ) ^ k = ((2 ^ (k - F.expo x).toNat : Int) : ℚ) * F.ulp x := by
  push_cast
  rw [Format.ulp, ← zpow_natCast, ← zpow_add₀ two_ne_zero]
  congr 1
  omega

/-- A whole number of units above a number is above it rounded. -/
theorem round_le_units {n : Int} (h : x ≤ n * F.ulp x) : F.round x ≤ n * F.ulp x := by
  have hq : x / F.ulp x ≤ n := (div_le_iff₀ (ulp_pos F x)).mpr h
  have hn := halfEven_mono hq
  rw [halfEven_intCast] at hn
  exact mul_le_mul_of_nonneg_right (Int.cast_le.mpr hn) (ulp_pos F x).le

theorem units_le_round {n : Int} (h : n * F.ulp x ≤ x) : n * F.ulp x ≤ F.round x := by
  have hq : n ≤ x / F.ulp x := (le_div_iff₀ (ulp_pos F x)).mpr h
  have hn := halfEven_mono hq
  rw [halfEven_intCast] at hn
  exact mul_le_mul_of_nonneg_right (Int.cast_le.mpr hn) (ulp_pos F x).le

@[simp] theorem round_zero (F : Format) : F.round 0 = 0 := by
  have h0 : halfEven 0 = 0 := by exact_mod_cast halfEven_intCast 0
  rw [Format.round, zero_div, h0, Int.cast_zero, zero_mul]

theorem round_nonneg (h : 0 ≤ x) : 0 ≤ F.round x := by
  have hu := units_le_round (F := F) (n := 0) (x := x) (by simpa using h)
  simpa using hu

theorem round_neg (F : Format) (x : ℚ) : F.round (-x) = -F.round x := by
  have hulp : F.ulp (-x) = F.ulp x := by
    unfold Format.ulp Format.expo
    rw [abs_neg]
  unfold Format.round
  rw [hulp, neg_div, halfEven_neg]
  push_cast
  ring

/-- A number below a power of two has its leading digit below it. -/
theorem log_lt {k : Int} (h0 : x ≠ 0) (h : |x| < 2 ^ k) : Int.log 2 |x| < k := by
  have hle := Int.zpow_log_le_self (b := 2) one_lt_two (abs_pos.mpr h0)
  exact (zpow_lt_zpow_iff_right₀ one_lt_two).mp (lt_of_le_of_lt hle h)

/-- Rounding keeps the order of positive numbers. -/
theorem round_mono_pos (h0 : 0 < x) (h : x ≤ y) : F.round x ≤ F.round y := by
  have hy0 := h0.trans_le h
  have hlog : Int.log 2 |x| ≤ Int.log 2 |y| := by
    rw [abs_of_pos h0, abs_of_pos hy0]
    exact Int.log_mono_right h0 h
  have hprec : (0 : Int) < F.prec := by exact_mod_cast F.prec_pos
  rcases eq_or_ne (F.expo x) (F.expo y) with he | he
  · have hulp : F.ulp x = F.ulp y := congrArg (2 ^ ·) he
    unfold Format.round
    rw [← hulp]
    refine mul_le_mul_of_nonneg_right (Int.cast_le.mpr (halfEven_mono ?_)) (ulp_pos F x).le
    exact div_le_div_of_nonneg_right h (ulp_pos F x).le
  · -- the leading digit of `y` lies between them, and in both formats of last places
    have hey : F.expo y = Int.log 2 |y| + 1 - F.prec ∧ Int.log 2 |x| < Int.log 2 |y| ∧
        F.expo x ≤ Int.log 2 |y| := by
      unfold Format.expo at he ⊢
      omega
    obtain ⟨hexpo, hlt, hex⟩ := hey
    have hxk : x ≤ 2 ^ Int.log 2 |y| := by
      have h1 := Int.lt_zpow_succ_log_self (b := 2) one_lt_two |x|
      rw [abs_of_pos h0] at h1 hlt
      exact h1.le.trans (zpow_le_zpow_right₀ one_le_two (by omega))
    have hyk : (2 : ℚ) ^ Int.log 2 |y| ≤ y := by
      have h1 := Int.zpow_log_le_self (b := 2) one_lt_two (abs_pos.mpr hy0.ne')
      rwa [abs_of_pos hy0] at h1 ⊢
    rw [pow_units hex] at hxk
    have h1 := round_le_units hxk
    rw [← pow_units hex] at h1
    rw [pow_units (F := F) (x := y) (by omega)] at hyk
    have h2 := units_le_round hyk
    rw [← pow_units (by omega)] at h2
    exact h1.trans h2

/-- **Rounding keeps the order.** -/
theorem round_mono (F : Format) (h : x ≤ y) : F.round x ≤ F.round y := by
  rcases lt_or_ge 0 x with hx | hx
  · exact round_mono_pos hx h
  · have hx' : F.round x ≤ 0 := by
      have := round_nonneg (F := F) (neg_nonneg.mpr hx)
      rw [round_neg] at this
      linarith
    rcases le_or_gt 0 y with hy | hy
    · exact hx'.trans (round_nonneg hy)
    · have hneg := round_mono_pos (F := F) (neg_pos.mpr hy) (neg_le_neg h)
      rw [round_neg, round_neg] at hneg
      linarith

/-- **What the format holds is not rounded.** -/
theorem round_of_holds (h : F.Holds x) : F.round x = x := by
  obtain ⟨m, e, hm, he, rfl⟩ := h
  rcases eq_or_ne m 0 with rfl | hm0
  · simp
  · have hpow : (0 : ℚ) < 2 ^ e := zpow_pos (by norm_num) e
    have hx0 : (m : ℚ) * 2 ^ e ≠ 0 := mul_ne_zero (Int.cast_ne_zero.mpr hm0) hpow.ne'
    have hlt : |(m : ℚ) * 2 ^ e| < 2 ^ ((F.prec : Int) + e) := by
      rw [abs_mul, abs_of_pos hpow, zpow_add₀ two_ne_zero]
      refine mul_lt_mul_of_pos_right ?_ hpow
      rw [zpow_natCast]
      exact_mod_cast hm
    have hlog := log_lt hx0 hlt
    have hexpo : F.expo (m * 2 ^ e) ≤ e := by
      unfold Format.expo
      omega
    have hunits := pow_units hexpo
    have hq : (m : ℚ) * 2 ^ e / F.ulp (m * 2 ^ e) =
        ((m * 2 ^ (e - F.expo (m * 2 ^ e)).toNat : Int) : ℚ) := by
      rw [div_eq_iff (ulp_pos F _).ne']
      nth_rewrite 1 [hunits]
      push_cast
      ring
    unfold Format.round
    rw [hq, halfEven_intCast, ← hq, div_mul_cancel₀ _ (ulp_pos F _).ne']

/-- **Integers of few enough digits are not rounded.** -/
theorem round_int {n : Int} (hemin : F.emin ≤ 0) (h : |n| < 2 ^ F.prec) :
    F.round (n : ℚ) = n :=
  round_of_holds ⟨n, 0, h, hemin, by simp⟩

/-- **The error of rounding** a number below `2 ^ k`: half a unit in the last place there. -/
theorem round_error {k : Int} (hk : F.emin ≤ k - F.prec) (h : |x| < 2 ^ k) :
    |F.round x - x| ≤ 2 ^ (k - F.prec - 1) := by
  rcases eq_or_ne x 0 with rfl | h0
  · rw [round_zero, sub_self, abs_zero]
    exact (zpow_pos two_pos _).le
  · have hlog := log_lt h0 h
    have hexpo : F.expo x ≤ k - F.prec := by
      unfold Format.expo
      omega
    have hround : F.round x - x = -((x / F.ulp x - halfEven (x / F.ulp x)) * F.ulp x) := by
      unfold Format.round
      rw [sub_mul, div_mul_cancel₀ _ (ulp_pos F x).ne']
      ring
    calc |F.round x - x| = |x / F.ulp x - halfEven (x / F.ulp x)| * F.ulp x := by
          rw [hround, abs_neg, abs_mul, abs_of_pos (ulp_pos F x)]
      _ ≤ 1 / 2 * 2 ^ (k - F.prec) :=
          mul_le_mul (halfEven_nearest _).near (zpow_le_zpow_right₀ one_le_two hexpo)
            (ulp_pos F x).le (by norm_num)
      _ = 2 ^ (k - F.prec - 1) := by
          rw [zpow_sub_one₀ two_ne_zero]
          ring

end Rounding

end Binary
