/-
  File:      HomeAlert/Node/Accuracy.lean
  Subject:   THE ACCURACY OF `calc_temp` (sensor_node/main.c): the integer compensation against
             the exact formula.

  Five floors lie between the raw value and `t_fine`. Each lemma here is one of its two terms, its
  error followed from floor to floor by Library/Bounds.lean; the sixth floor is a rounding. The
  quadratic term needs the bound on `var1 >> 1` that a square within `int32_t` gives.
-/
import HomeAlert.Node.Compensation

namespace HomeAlert.Node

open Bounds

theorem abs_cast_le {B n : Int} (h : Within B n) : |(n : ℚ)| ≤ B := by
  have := within_iff_abs.mp h
  exact_mod_cast this

/-- The exact `var1`. -/
def exactVar1 (adcT : Int) (c : BmeCalib) : ℚ := (adcT : ℚ) / 8 - 2 * (c.parT1.toNat : ℚ)

/-- **The exact temperature**, in hundredths of a degree. -/
def exactTemp (adcT : Int) (c : BmeCalib) : ℚ :=
  5 / 256 * (exactVar1 adcT c * c.parT2.toInt / 2 ^ 11 +
    exactVar1 adcT c ^ 2 * c.parT3.toInt / 2 ^ 24)

section Terms

variable {v : ℚ} {var1 : Int}

/-- `var2`, of an error of less than one before it. -/
theorem var2_error (h : |v - var1| < 1) (p : Int16) :
    |v * p.toInt / 2 ^ 11 - (((var1 * p.toInt) >>> (11 : Nat) : Int) : ℚ)| < 17 := by
  have hp : |(p.toInt : ℚ)| ≤ (2 ^ 15 : Int) := abs_cast_le ⟨p.le_toInt, p.toInt_lt.le⟩
  have h1 := mul_error h hp (by norm_num)
  rw [← Int.cast_mul] at h1
  refine (shiftRight_error h1 11).trans_le ?_
  norm_num

/-- `var3`, likewise: the root is off by less than 3/2, and its square is multiplied last. -/
theorem var3_error (h : |v - var1| < 1) (hw : Within 46340 (var1 >>> (1 : Nat))) (p : Int8) :
    |v ^ 2 * p.toInt / 2 ^ 24 -
      ((((((var1 >>> (1 : Nat)) * (var1 >>> (1 : Nat))) >>> (12 : Nat)) *
        (p.toInt <<< (4 : Nat))) >>> (14 : Nat) : Int) : ℚ)| < 27 / 5 := by
  have hp : |((p.toInt <<< (4 : Nat) : Int) : ℚ)| ≤ (128 * 2 ^ 4 : Int) :=
    abs_cast_le ((within_int8 p).shiftLeft 4)
  have hroot := shiftRight_error h 1
  have hsq := square_error hroot (abs_cast_le hw)
  rw [← Int.cast_mul] at hsq
  have hquot := mul_error (shiftRight_error hsq 12) hp (by norm_num)
  rw [← Int.cast_mul] at hquot
  have hlast := shiftRight_error hquot 14
  have hexact : v / 2 ^ 1 * (v / 2 ^ 1) / 2 ^ 12 * ((p.toInt <<< (4 : Nat) : Int) : ℚ) / 2 ^ 14 =
      v ^ 2 * p.toInt / 2 ^ 24 := by
    rw [Int.shiftLeft_eq]
    push_cast
    ring
  rw [hexact] at hlast
  refine hlast.trans_le ?_
  norm_num

end Terms

/-- `t_fine`, against the two exact terms. -/
theorem tempFine_error {adcT : Int} {c : BmeCalib} (h : TempFits adcT c) :
    |exactVar1 adcT c * c.parT2.toInt / 2 ^ 11 + exactVar1 adcT c ^ 2 * c.parT3.toInt / 2 ^ 24 -
      (tempFine adcT c : ℚ)| < 112 / 5 := by
  have h1 : |exactVar1 adcT c - tempVar1 adcT c| < 1 := by
    have hshift := shift_error adcT 3
    have hsub : exactVar1 adcT c - tempVar1 adcT c =
        (adcT : ℚ) / 2 ^ 3 - ((adcT >>> (3 : Nat) : Int) : ℚ) := by
      unfold exactVar1 tempVar1
      rw [Int.shiftLeft_eq]
      push_cast
      ring
    rwa [hsub]
  have hsum := add_error (var2_error h1 c.parT2) (var3_error h1 h.square c.parT3)
  rw [← Int.cast_add] at hsum
  refine hsum.trans_le ?_
  norm_num

/-- **`calc_temp` is accurate to less than a hundredth of a degree**, for every raw value and every
    calibration for which its arithmetic does not overflow. -/
theorem calcTemp_accurate {adcT t : Int} {c c' : BmeCalib} (h : calcTemp adcT c = some (t, c')) :
    |(t : ℚ) - exactTemp adcT c| < 1 := by
  obtain ⟨hfits, rfl, -⟩ := calcTemp_inv h
  have h1 := abs_lt.mp (tempFine_error hfits)
  have h2 := abs_le.mp (round_error (tempFine adcT c * 5) 7)
  have h3 : ((scaled (tempFine adcT c) : Int) : ℚ) =
      (((tempFine adcT c * 5 + 2 ^ 7) >>> (7 + 1 : Nat) : Int) : ℚ) := rfl
  rw [← h3] at h2
  push_cast at h2
  unfold exactTemp
  rw [abs_lt]
  constructor
  · linarith
  · linarith

/-- The 26.30 degrees of a common calibration. -/
theorem calcTemp_accurate_common :
    calcTemp 500000 commonCalib = some (2630, { commonCalib with tFine := 134664 }) ∧
      |((2630 : Int) : ℚ) - exactTemp 500000 commonCalib| < 1 := by
  have h : calcTemp 500000 commonCalib = some (2630, { commonCalib with tFine := 134664 }) := by
    decide
  exact ⟨h, calcTemp_accurate h⟩

end HomeAlert.Node
