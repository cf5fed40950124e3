/-
  File:      HomeAlert/Node/Compensation.lean
  Subject:   WHEN THE COMPENSATION OF THE BME680 STAYS WITHIN `int32_t` (sensor_node/main.c:
             calc_temp, calc_hum on what read_calib assembles).

  Two products of `calc_temp` and three of `calc_hum` can overflow, no other step: `TempFits` and
  `HumFits` say of the exact values when these five do not.

  * `calcTemp_inv`, `calcTemp_of_fits` -- `calc_temp` is defined just where `TempFits`, and then it
    computes the exact formula;
  * `tempFine_within` -- where it is defined, `t_fine` has 21 bits and the result fits 16;
  * `compensation_defined_iff` -- both functions, for every register content.
-/
import HomeAlert.Library.Bounds
import HomeAlert.Node.Bme680

namespace HomeAlert.Node

open Bounds

/-! ## 1. Checked steps -/

/-- The values of `int32_t`. -/
def Int32Range (n : Int) : Prop := -2 ^ 31 ≤ n ∧ n < 2 ^ 31

instance (n : Int) : Decidable (Int32Range n) := inferInstanceAs (Decidable (_ ∧ _))

/-- A checked step and what follows it. -/
theorem int32_bind {α : Type} {n : Int} {f : Int → Option α} {r : α} :
    (do let m ← int32 n; f m) = some r ↔ Int32Range n ∧ f n = some r := by
  rw [Option.bind_eq_bind, Option.bind_eq_some_iff]
  constructor
  · intro h
    rcases h with ⟨m, h1, h2⟩
    obtain ⟨h3, rfl⟩ := int32_eq_some.mp h1
    exact ⟨h3, h2⟩
  · intro h
    rcases h with ⟨h1, h2⟩
    exact ⟨n, int32_eq_some.mpr ⟨h1, rfl⟩, h2⟩

/-- A bounded value is one of them. -/
theorem range_of_within {B n : Int} (h : Within B n) (hB : B < 2 ^ 31) : Int32Range n := by
  obtain ⟨h1, h2⟩ := h
  exact ⟨by omega, by omega⟩

/-- A square passes while its root has at most this size. -/
theorem square_range {n : Int} : Int32Range (n * n) ↔ Within 46340 n := by
  constructor
  · intro h
    rcases h with ⟨-, h⟩
    constructor
    · by_contra hlt
      nlinarith
    · by_contra hlt
      nlinarith
  · intro h
    obtain ⟨h1, h2⟩ := h.mul h
    exact ⟨by omega, by omega⟩

theorem within_int8 (n : Int8) : Within 128 n.toInt := by
  have h1 := n.le_toInt
  have h2 := n.toInt_lt
  exact ⟨by omega, by omega⟩

/-! ## 2. calc_temp -/

/-- `var1` of `calc_temp`. -/
def tempVar1 (adcT : Int) (c : BmeCalib) : Int :=
  (adcT >>> (3 : Nat)) - (c.parT1.toNat : Int) <<< (1 : Nat)

/-- `t_fine`, without the limits of `int32_t`. -/
def tempFine (adcT : Int) (c : BmeCalib) : Int :=
  let var1 := tempVar1 adcT c
  let var2 := (var1 * c.parT2.toInt) >>> (11 : Nat)
  let var3 := ((((var1 >>> (1 : Nat)) * (var1 >>> (1 : Nat))) >>> (12 : Nat)) *
    (c.parT3.toInt <<< (4 : Nat))) >>> (14 : Nat)
  var2 + var3

/-- The scaled temperature that both functions take from `t_fine`. -/
def scaled (tFine : Int) : Int := (tFine * 5 + 128) >>> (8 : Nat)

/-- The steps to the scaled temperature, from a `t_fine` of 21 bits. -/
theorem scaled_within {tFine : Int} (h : Within 1114112 tFine) :
    Within 5570560 (tFine * 5) ∧ Within 5570688 (tFine * 5 + 128) ∧
      Within 21761 (scaled tFine) := by
  have hfive : Within 5570560 (tFine * 5) := h.mul (within_const (by omega))
  have hsum : Within 5570688 (tFine * 5 + 128) := hfive.add (within_const (by omega))
  exact ⟨hfive, hsum, hsum.shiftRight 8 (by omega)⟩

/-- A square that fits `int32_t`, shifted. -/
theorem square_within {r : Int} (h : Within 46340 r) : Within 524272 ((r * r) >>> (12 : Nat)) :=
  (h.mul h).shiftRight 12 (by omega)

/-- **What `calc_temp` needs of its input**: the two products that can overflow do not. -/
structure TempFits (adcT : Int) (c : BmeCalib) : Prop where
  linear : Int32Range (tempVar1 adcT c * c.parT2.toInt)
  square : Within 46340 (tempVar1 adcT c >>> (1 : Nat))

/-- **What a result of `calc_temp` is.** -/
theorem calcTemp_inv {adcT t : Int} {c c' : BmeCalib} (h : calcTemp adcT c = some (t, c')) :
    TempFits adcT c ∧ t = scaled (tempFine adcT c) ∧
      c' = { c with tFine := tempFine adcT c } := by
  simp only [calcTemp, int32_bind, Option.some.injEq, Prod.mk.injEq] at h
  obtain ⟨-, -, h1, h2, -, -, -, -, -, rfl, rfl⟩ := h
  exact ⟨⟨h1, square_range.mp h2⟩, rfl, rfl⟩

/-- **`t_fine` has 21 bits**, and the scaled temperature fits 16. -/
theorem tempFine_within {adcT : Int} {c : BmeCalib} (h : TempFits adcT c) :
    Within 1114112 (tempFine adcT c) ∧ Within 21761 (scaled (tempFine adcT c)) := by
  have hlin : Within (2 ^ 31) (tempVar1 adcT c * c.parT2.toInt) := by
    obtain ⟨h1, h2⟩ := h.linear
    exact ⟨h1, h2.le⟩
  have hpar : Within 2048 (c.parT3.toInt <<< (4 : Nat)) := (within_int8 c.parT3).shiftLeft 4
  have hvar2 := hlin.shiftRight 11 (show (2 ^ 31 : Int) ≤ 2 ^ 20 * 2 ^ 11 by omega)
  have hvar3 := ((square_within h.square).mul hpar).shiftRight 14
    (show (524272 * 2048 : Int) ≤ 65536 * 2 ^ 14 by omega)
  have hfine : Within 1114112 (tempFine adcT c) := hvar2.add hvar3
  exact ⟨hfine, (scaled_within hfine).2.2⟩

/-- Where the two products fit, every other step of `calc_temp` does. -/
theorem calcTemp_of_fits {adcT : Int} (h0 : 0 ≤ adcT) (h1 : adcT < 2 ^ 20) {c : BmeCalib}
    (h : TempFits adcT c) :
    calcTemp adcT c = some (scaled (tempFine adcT c), { c with tFine := tempFine adcT c }) := by
  have hT1 : Within 131070 ((c.parT1.toNat : Int) <<< (1 : Nat)) := by
    have := c.parT1.toNat_lt
    exact Within.shiftLeft (B := 65535) ⟨by omega, by omega⟩ 1
  have hadc : Within 131072 (adcT >>> (3 : Nat)) :=
    Within.shiftRight (B := 2 ^ 20) ⟨by omega, by omega⟩ 3 (by omega)
  have hpar : Within 2048 (c.parT3.toInt <<< (4 : Nat)) := (within_int8 c.parT3).shiftLeft 4
  have hsq := (square_within h.square).mul hpar
  obtain ⟨hfine, -⟩ := tempFine_within h
  obtain ⟨hfive, hsum, -⟩ := scaled_within hfine
  simp only [calcTemp, int32_bind]
  exact ⟨range_of_within hT1 (by omega), range_of_within (hadc.sub hT1) (by omega), h.linear,
    square_range.mpr h.square, range_of_within hpar (by omega),
    range_of_within hsq (by omega), range_of_within hfine (by omega),
    range_of_within hfive (by omega), range_of_within hsum (by omega), rfl⟩

/-- **The range of every reading** that is computed: hundredths within 21761, and a clamped
    humidity. -/
theorem compensate_range {cal : BmeCalib} {d : Vector UInt8 bmeDataLen} {t h : Int}
    (e : compensate cal d = some (t, h)) : Within 21761 t ∧ 0 ≤ h ∧ h ≤ 100000 := by
  simp only [compensate, Option.bind_eq_bind, Option.bind_eq_some_iff, Option.some.injEq,
    Prod.mk.injEq] at e
  obtain ⟨⟨t', c⟩, ht, h', hh, rfl, rfl⟩ := e
  obtain ⟨hfits, rfl, -⟩ := calcTemp_inv ht
  exact ⟨(tempFine_within hfits).2, calcHum_range hh⟩

/-! ## 3. calc_hum -/

/-- `var1` of `calc_hum`, from the scaled temperature. -/
def humVar1 (adcH : Int) (c : BmeCalib) (ts : Int) : Int :=
  adcH - (c.parH1.toNat : Int) <<< (4 : Nat) - ((ts * c.parH3.toInt).tdiv 100) >>> (1 : Nat)

/-- `var2`. -/
def humVar2 (c : BmeCalib) (ts : Int) : Int :=
  ((c.parH2.toNat : Int) * ((ts * c.parH4.toInt).tdiv 100 +
    ((ts * (ts * c.parH5.toInt).tdiv 100) >>> (6 : Nat)).tdiv 100 +
    (1 : Int) <<< (14 : Nat))) >>> (10 : Nat)

/-- `var3`, without the limits of `int32_t`. -/
def humVar3 (adcH : Int) (c : BmeCalib) (ts : Int) : Int := humVar1 adcH c ts * humVar2 c ts

/-- `var4`. -/
def humVar4 (c : BmeCalib) (ts : Int) : Int :=
  (c.parH6.toInt <<< (7 : Nat) + (ts * c.parH7.toInt).tdiv 100) >>> (4 : Nat)

/-- `var5`. -/
def humVar5 (adcH : Int) (c : BmeCalib) (ts : Int) : Int :=
  ((humVar3 adcH c ts >>> (14 : Nat)) * (humVar3 adcH c ts >>> (14 : Nat))) >>> (10 : Nat)

/-- `hum_comp`, without the limits of `int32_t`. -/
def humExact (adcH : Int) (c : BmeCalib) (ts : Int) : Int :=
  (((humVar3 adcH c ts + (humVar4 c ts * humVar5 adcH c ts) >>> (1 : Nat)) >>> (10 : Nat)) *
    1000) >>> (12 : Nat)

/-- **What `calc_hum` needs of its input**: the three products that can overflow do not. That
    `var3` does not is part of `square`, for its root has the fewest bits. -/
structure HumFits (adcH : Int) (c : BmeCalib) (tFine : Int) : Prop where
  square : Within 46340 (humVar3 adcH c (scaled tFine) >>> (14 : Nat))
  product : Int32Range (humVar4 c (scaled tFine) * humVar5 adcH c (scaled tFine))

/-- **What a result of `calc_hum` is**, before its limits. -/
theorem humComp_inv {adcH : Int} {c : BmeCalib} {tFine n : Int}
    (h : humComp adcH c tFine = some n) :
    HumFits adcH c tFine ∧ n = humExact adcH c (scaled tFine) := by
  simp only [humComp, int32_bind, Option.some.injEq] at h
  obtain ⟨-, -, -, -, -, -, -, -, -, -, -, -, -, -, -, -, h1, h2, -, -, rfl⟩ := h
  exact ⟨⟨square_range.mp h1, h2⟩, rfl⟩

/-- The scaled temperature times a parameter of eight bits, in hundredths. -/
theorem par_within {ts : Int} (hts : Within 21761 ts) (n : Int8) :
    Within 2785408 (ts * n.toInt) ∧ Within 27854 ((ts * n.toInt).tdiv 100) := by
  have h := hts.mul (within_int8 n)
  exact ⟨h, h.tdiv (by omega) (by omega)⟩

/-- The root's bound on `var3`. -/
theorem HumFits.var3 {adcH : Int} {c : BmeCalib} {tFine : Int} (h : HumFits adcH c tFine) :
    Within 759250944 (humVar3 adcH c (scaled tFine)) := by
  obtain ⟨h1, h2⟩ := h.square
  rw [Int.shiftRight_eq_div_pow] at h1 h2
  exact ⟨by omega, by omega⟩

/-- Where the three products fit, every other step of `calc_hum` does: for a raw value of 16
    bits, two parameters of 12 bits and any `t_fine` that `calc_temp` leaves. -/
theorem humComp_of_fits {adcH : Int} (h0 : 0 ≤ adcH) (h1 : adcH < 2 ^ 16) {c : BmeCalib}
    (hH1 : c.parH1.toNat < 4096) (hH2 : c.parH2.toNat < 4096) {tFine : Int}
    (hfine : Within 1114112 tFine) (h : HumFits adcH c tFine) :
    humComp adcH c tFine = some (humExact adcH c (scaled tFine)) := by
  -- one bound for each step, in the order in which calc_hum computes them
  obtain ⟨hfive, hsum, hts⟩ := scaled_within hfine
  have hp1 : Within 65520 ((c.parH1.toNat : Int) <<< (4 : Nat)) :=
    Within.shiftLeft (B := 4095) ⟨by omega, by omega⟩ 4
  have hadc : Within 65535 adcH := ⟨by omega, by omega⟩
  obtain ⟨hq3, hd3⟩ := par_within hts c.parH3
  obtain ⟨hq4, hd4⟩ := par_within hts c.parH4
  obtain ⟨hq5, hd5⟩ := par_within hts c.parH5
  obtain ⟨hq7, hd7⟩ := par_within hts c.parH7
  have hvar1 := (hadc.sub hp1).sub
    (hd3.shiftRight 1 (show (27854 : Int) ≤ 13927 * 2 ^ 1 by omega))
  have hq55 := hts.mul hd5
  have hd55 : Within 94708 _ :=
    (hq55.shiftRight 6 (show (21761 * 27854 : Int) ≤ 9470796 * 2 ^ 6 by omega)).tdiv
      (show (0 : Int) < 100 by omega) (by omega)
  have hs4 := hd4.add hd55
  have h14 : Within (1 * 2 ^ 14) ((1 : Int) <<< (14 : Nat)) :=
    (within_const (show (0 : Int) ≤ 1 by omega)).shiftLeft 14
  have hs2 := hs4.add h14
  have hp2 := Within.mul (B := 4095) (a := (c.parH2.toNat : Int)) ⟨by omega, by omega⟩ hs2
  have h6 : Within (128 * 2 ^ 7) (c.parH6.toInt <<< (7 : Nat)) := (within_int8 c.parH6).shiftLeft 7
  have hs7 := h6.add hd7
  have hvar6 : Within (2 ^ 30) ((humVar4 c (scaled tFine) * humVar5 adcH c (scaled tFine)) >>>
      (1 : Nat)) :=
    Within.shiftRight (B := 2 ^ 31) ⟨h.product.1, h.product.2.le⟩ 1 (by omega)
  have hs36 := h.var3.add hvar6
  have h1000 := (hs36.shiftRight 10
    (show (759250944 + 2 ^ 30 : Int) ≤ 1790032 * 2 ^ 10 by omega)).mul
    (within_const (show (0 : Int) ≤ 1000 by omega))
  simp only [humComp, int32_bind]
  exact ⟨range_of_within hfive (by omega), range_of_within hsum (by omega),
    range_of_within hp1 (by omega), range_of_within (hadc.sub hp1) (by omega),
    range_of_within hq3 (by omega), range_of_within hvar1 (by omega),
    range_of_within hq4 (by omega), range_of_within hq5 (by omega),
    range_of_within hq55 (by omega), range_of_within hs4 (by omega),
    range_of_within hs2 (by omega), range_of_within hp2 (by omega),
    range_of_within h.var3 (by omega), range_of_within h6 (by omega),
    range_of_within hq7 (by omega), range_of_within hs7 (by omega),
    square_range.mpr h.square, h.product, range_of_within hs36 (by omega),
    range_of_within h1000 (by omega), rfl⟩

/-! ## 4. What read_calib assembles -/

/-- A parameter of twelve bits. -/
theorem join12_lt (h l : UInt8) (hl : l.toNat < 16) :
    ((h.toUInt16 <<< 4) ||| l.toUInt16).toNat < 4096 := by
  have hh := h.toNat_lt
  have h1 : (h.toUInt16 <<< 4).toNat < 2 ^ 12 := by
    rw [UInt16.toNat_shiftLeft, Nat.shiftLeft_eq, UInt8.toNat_toUInt16]
    show h.toNat * 2 ^ 4 % 65536 < 4096
    omega
  rw [UInt16.toNat_or, UInt8.toNat_toUInt16]
  exact Nat.or_lt_two_pow h1 (by omega)

theorem readCalib_parH (c1 : Vector UInt8 25) (c2 : Vector UInt8 16) (tFine : Int) :
    (readCalib c1 c2 tFine).parH1.toNat < 4096 ∧ (readCalib c1 c2 tFine).parH2.toNat < 4096 := by
  refine ⟨join12_lt _ _ ?_, join12_lt _ _ ?_⟩
  · rw [UInt8.toNat_and]
    exact Nat.lt_of_le_of_lt Nat.and_le_right (by decide)
  · have := c2[1].toNat_lt
    rw [UInt8.toNat_shiftRight, Nat.shiftRight_eq_div_pow]
    show c2[1].toNat / 2 ^ 4 < 16
    omega

/-! ## 5. Both functions -/

/-- `calc_hum` behind `calc_temp`: its own parameters are those of the calibration read. -/
theorem calcHum_defined_iff {adcH : Int} (h0 : 0 ≤ adcH) (h1 : adcH < 2 ^ 16) {c : BmeCalib}
    (hH1 : c.parH1.toNat < 4096) (hH2 : c.parH2.toNat < 4096) {tFine : Int}
    (hfine : Within 1114112 tFine) :
    (∃ h, calcHum adcH c tFine = some h) ↔ HumFits adcH c tFine := by
  constructor
  · intro hsome
    rcases hsome with ⟨h, e⟩
    obtain ⟨n, e, -⟩ := Option.map_eq_some_iff.mp e
    exact (humComp_inv e).1
  · intro h
    exact ⟨_, congrArg (Option.map clampHum) (humComp_of_fits h0 h1 hH1 hH2 hfine h)⟩

/-- **When the compensation arithmetic overflows.** For every 20-bit and 16-bit raw value and every
    calibration that can be read: each step of `calc_temp`, and then each of `calc_hum` with the
    `t_fine` it left, stays within `int32_t` if and only if five products do, of which two are
    squares with roots of at most 46340. -/
theorem compensation_defined_iff (c1 : Vector UInt8 25) (c2 : Vector UInt8 16) (tFine : Int)
    {adcT adcH : Int} (hT0 : 0 ≤ adcT) (hT1 : adcT < 2 ^ 20) (hH0 : 0 ≤ adcH)
    (hH1 : adcH < 2 ^ 16) :
    ((∃ t c', calcTemp adcT (readCalib c1 c2 tFine) = some (t, c')) ↔
        TempFits adcT (readCalib c1 c2 tFine)) ∧
      let c := readCalib c1 c2 tFine
      let c' := { c with tFine := tempFine adcT c }
      ((∃ t h, calcTemp adcT c = some (t, c') ∧ calcHum adcH c' c'.tFine = some h) ↔
        TempFits adcT c ∧ HumFits adcH c' c'.tFine) := by
  obtain ⟨hp1, hp2⟩ := readCalib_parH c1 c2 tFine
  refine ⟨⟨?_, fun hfits => ⟨_, _, calcTemp_of_fits hT0 hT1 hfits⟩⟩, ?_⟩
  · intro hsome
    rcases hsome with ⟨t, c', ht⟩
    exact (calcTemp_inv ht).1
  · intro c c'
    have hhum : TempFits adcT c →
        ((∃ h, calcHum adcH c' c'.tFine = some h) ↔ HumFits adcH c' c'.tFine) := fun hfits =>
      calcHum_defined_iff (c := c') hH0 hH1 hp1 hp2 (tempFine_within hfits).1
    constructor
    · intro hsome
      rcases hsome with ⟨t, h, ht, hh⟩
      obtain ⟨hfits, -, -⟩ := calcTemp_inv ht
      exact ⟨hfits, (hhum hfits).mp ⟨h, hh⟩⟩
    · intro hboth
      rcases hboth with ⟨hfits, hh⟩
      obtain ⟨h, hh⟩ := (hhum hfits).mpr hh
      exact ⟨_, h, calcTemp_of_fits hT0 hT1 hfits, hh⟩

/-- A common calibration, read at 26.30 degrees. -/
theorem compensation_defined_iff_common :
    let c1 : Vector UInt8 25 := ⟨#[0, 0x65, 0x67, 3, 0, 0, 0, 0, 0, 0, 0, 0, 0, 0, 0, 0, 0, 0, 0, 0,
      0, 0, 0, 0, 0], rfl⟩
    let c2 : Vector UInt8 16 := ⟨#[0x3E, 0x80, 0x32, 0, 45, 20, 120, 0x9C, 0xB9, 0x65, 0, 0, 0, 0,
      0, 0], rfl⟩
    let c := readCalib c1 c2 0
    let c' := { c with tFine := tempFine 500000 c }
    ∃ t h, calcTemp 500000 c = some (t, c') ∧ calcHum 20000 c' c'.tFine = some h := by
  intro c1 c2
  exact (compensation_defined_iff c1 c2 0 (show (0 : Int) ≤ 500000 by omega) (by omega)
    (show (0 : Int) ≤ 20000 by omega) (by omega)).2.mpr
    ⟨⟨by decide, by decide⟩, ⟨by decide, by decide⟩⟩

/-- **Register contents that overflow**: `par_t2 = 32767` with the largest raw temperature, and,
    with a temperature that is computed, humidity parameters at their limits. -/
theorem compensation_overflows :
    let c1 : Vector UInt8 25 := ⟨#[0, 0xFF, 0x7F, 0, 0, 0, 0, 0, 0, 0, 0, 0, 0, 0, 0, 0, 0, 0, 0, 0,
      0, 0, 0, 0, 0], rfl⟩
    let c2 : Vector UInt8 16 := ⟨#[0xFF, 0xFF, 0, 0, 127, 127, 127, 127, 0, 0, 0, 0, 0, 0,
      0, 0], rfl⟩
    let c := readCalib c1 c2 0
    calcTemp (2 ^ 20 - 1) c = none ∧
      ∃ t c', calcTemp (2 ^ 18) c = some (t, c') ∧ calcHum (2 ^ 16 - 1) c' c'.tFine = none := by
  intro c1 c2 c
  exact ⟨by decide, _, _, calcTemp_of_fits (by decide) (by decide) ⟨by decide, by decide⟩,
    by decide⟩

end HomeAlert.Node
