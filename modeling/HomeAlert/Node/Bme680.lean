/-
  File:      HomeAlert/Node/Bme680.lean
  Subject:   THE TEMPERATURE AND HUMIDITY SENSOR (sensor_node/main.c: bme_calib, calc_temp,
             calc_hum, read_calib, read_bme680).

  The compensation is integer arithmetic in `int32_t`: every sum, difference and product passes
  through `int32`, so a formula is `none` where C's would overflow, which C leaves undefined. Right
  shifts are arithmetic. What a register read returns is an input.

  * `calcHum_range` -- whatever it is given, `calc_hum` returns a value in `0 .. 100000`;
  * `readBme680_spec` -- a reading is a number of hundredths and a number of thousandths in that
    range, and it does not depend on the `t_fine` of an earlier one;
  * `readBme680_some` -- it is a function of the ten data bytes (`compensate`), whatever the reads
    returned.
-/
import HomeAlert.Library.Word
import Mathlib.Data.Rat.Cast.Defs

namespace HomeAlert.Node

/-! ## 1. Calibration -/

/-- `bme_calib`. -/
structure BmeCalib where
  parT1 : UInt16
  parT2 : Int16
  parT3 : Int8
  parH1 : UInt16
  parH2 : UInt16
  parH3 : Int8
  parH4 : Int8
  parH5 : Int8
  parH6 : Int8
  parH7 : Int8
  tFine : Int
  deriving DecidableEq, Repr

/-- `read_calib`, from the two register blocks; `t_fine` keeps what it held. -/
def readCalib (c1 : Vector UInt8 25) (c2 : Vector UInt8 16) (tFine : Int) : BmeCalib where
  parT1 := UInt16.ofNat (Word.join c2[9] c2[8])
  parT2 := Int16.ofInt (Word.join c1[2] c1[1])
  parT3 := c1[3].toInt8
  parH1 := (c2[2].toUInt16 <<< 4) ||| (c2[1] &&& 0x0F).toUInt16
  parH2 := (c2[0].toUInt16 <<< 4) ||| (c2[1] >>> 4).toUInt16
  parH3 := c2[3].toInt8
  parH4 := c2[4].toInt8
  parH5 := c2[5].toInt8
  parH6 := c2[6].toInt8
  parH7 := c2[7].toInt8
  tFine := tFine

/-- The calibration of a common device. -/
def commonCalib : BmeCalib := ⟨26041, 26469, 3, 800, 1000, 0, 45, 20, 120, -100, 0⟩

/-! ## 2. Compensation -/

/-- An intermediate value of type `int32_t`: the exact value, if the type holds it. -/
def int32 (n : Int) : Option Int := if -2 ^ 31 ≤ n ∧ n < 2 ^ 31 then some n else none

theorem int32_eq_some {n m : Int} : int32 n = some m ↔ (-2 ^ 31 ≤ n ∧ n < 2 ^ 31) ∧ n = m := by
  unfold int32
  split <;> simp_all

/-- `calc_temp`: hundredths of a degree, and the calibration with its new `t_fine`. -/
def calcTemp (adcT : Int) (c : BmeCalib) : Option (Int × BmeCalib) := do
  let t1 ← int32 ((c.parT1.toNat : Int) <<< (1 : Nat))
  let var1 ← int32 ((adcT >>> (3 : Nat)) - t1)
  let p2 ← int32 (var1 * c.parT2.toInt)
  let var2 := p2 >>> (11 : Nat)
  let sq ← int32 ((var1 >>> (1 : Nat)) * (var1 >>> (1 : Nat)))
  let t3 ← int32 (c.parT3.toInt <<< (4 : Nat))
  let p3 ← int32 ((sq >>> (12 : Nat)) * t3)
  let var3 := p3 >>> (14 : Nat)
  let tFine ← int32 (var2 + var3)
  let p5 ← int32 (tFine * 5)
  let r ← int32 (p5 + 128)
  some (r >>> (8 : Nat), { c with tFine := tFine })

/-- The compensation of `calc_hum`, up to `hum_comp`: thousandths of a percent. -/
def humComp (adcH : Int) (c : BmeCalib) (tFine : Int) : Option Int := do
  let p5 ← int32 (tFine * 5)
  let r ← int32 (p5 + 128)
  let tempScaled := r >>> (8 : Nat)
  let h1 ← int32 ((c.parH1.toNat : Int) <<< (4 : Nat))
  let d1 ← int32 (adcH - h1)
  let q3 ← int32 (tempScaled * c.parH3.toInt)
  let var1 ← int32 (d1 - (q3.tdiv 100) >>> (1 : Nat))
  let q4 ← int32 (tempScaled * c.parH4.toInt)
  let q5 ← int32 (tempScaled * c.parH5.toInt)
  let q55 ← int32 (tempScaled * q5.tdiv 100)
  let s4 ← int32 (q4.tdiv 100 + (q55 >>> (6 : Nat)).tdiv 100)
  let s2 ← int32 (s4 + (1 : Int) <<< (14 : Nat))
  let p2 ← int32 ((c.parH2.toNat : Int) * s2)
  let var2 := p2 >>> (10 : Nat)
  let var3 ← int32 (var1 * var2)
  let h6 ← int32 (c.parH6.toInt <<< (7 : Nat))
  let q7 ← int32 (tempScaled * c.parH7.toInt)
  let s7 ← int32 (h6 + q7.tdiv 100)
  let var4 := s7 >>> (4 : Nat)
  let sq ← int32 ((var3 >>> (14 : Nat)) * (var3 >>> (14 : Nat)))
  let var5 := sq >>> (10 : Nat)
  let p6 ← int32 (var4 * var5)
  let var6 := p6 >>> (1 : Nat)
  let s36 ← int32 (var3 + var6)
  let p1000 ← int32 ((s36 >>> (10 : Nat)) * 1000)
  some (p1000 >>> (12 : Nat))

/-- The limits of `calc_hum`. -/
def clampHum (humComp : Int) : Int :=
  if humComp > 100000 then 100000 else if humComp < 0 then 0 else humComp

/-- `calc_hum`. -/
def calcHum (adcH : Int) (c : BmeCalib) (tFine : Int) : Option Int :=
  (humComp adcH c tFine).map clampHum

/-- **The clamp of `calc_hum`.** -/
theorem calcHum_range {adcH : Int} {c : BmeCalib} {tFine h : Int}
    (e : calcHum adcH c tFine = some h) : 0 ≤ h ∧ h ≤ 100000 := by
  obtain ⟨n, -, rfl⟩ := Option.map_eq_some_iff.mp e
  unfold clampHum
  split
  · omega
  · split <;> omega

/-! ## 3. read_bme680 -/

/-- The result of `read_reg`: what `i2c_read_blocking` returned, and the buffer after it. -/
structure RegRead (n : Nat) where
  ret : Int
  buf : Vector UInt8 n
  deriving DecidableEq, Repr

/-- The registers of one measurement: `uint8_t d[10]`. -/
abbrev bmeDataLen : Nat := 10

/-- What the register reads of one `read_bme680` return: the status, again and again, and the
    measurement. -/
structure BmeReads where
  status : List (RegRead 1)
  data : RegRead bmeDataLen
  deriving DecidableEq, Repr

/-- The status bytes are those of a loop that ran while bit `0x20` was set. -/
def statusLoop : List (RegRead 1) → Bool
  | [] => false
  | [r] => r.buf[0] &&& 0x20 == 0
  | r :: rs => r.buf[0] &&& 0x20 != 0 && statusLoop rs

/-- `bme680_data_t`. -/
structure Bme680Data where
  temperature : ℚ
  humidity : ℚ
  deriving DecidableEq, Repr

/-- The two raw values in the measurement. -/
def rawTemp (d : Vector UInt8 bmeDataLen) : Int :=
  ((d[5].toNat <<< 12) ||| (d[6].toNat <<< 4) ||| (d[7].toNat >>> 4) : Nat)

def rawHum (d : Vector UInt8 bmeDataLen) : Int := Word.join d[8] d[9]

/-- `read_bme680`: the results of its reads are not looked at. -/
def readBme680 (cal : BmeCalib) (io : BmeReads) : Option (Bme680Data × BmeCalib) :=
  if statusLoop io.status then do
    let (t, cal) ← calcTemp (rawTemp io.data.buf) cal
    let h ← calcHum (rawHum io.data.buf) cal cal.tFine
    some ({ temperature := (t : ℚ) / 100, humidity := (h : ℚ) / 1000 }, cal)
  else none

/-- A reading does not depend on the `t_fine` it replaces. -/
theorem readBme680_tFine (cal : BmeCalib) (tFine : Int) (io : BmeReads) :
    readBme680 { cal with tFine := tFine } io = readBme680 cal io := rfl

/-- Of the calibration `calc_temp` changes `t_fine` only. -/
theorem calcTemp_cal {adcT t : Int} {c c' : BmeCalib} (h : calcTemp adcT c = some (t, c')) :
    c' = { c with tFine := c'.tFine } := by
  unfold calcTemp at h
  simp only [Option.bind_eq_bind, Option.bind_eq_some_iff, Option.some.injEq, Prod.mk.injEq] at h
  obtain ⟨_, -, _, -, _, -, _, -, _, -, _, -, _, -, _, -, _, -, -, rfl⟩ := h
  rfl

/-- **A reading**: hundredths of a degree, and thousandths of a percent within their limits. -/
theorem readBme680_spec {cal cal' : BmeCalib} {io : BmeReads} {data : Bme680Data}
    (h : readBme680 cal io = some (data, cal')) :
    cal' = { cal with tFine := cal'.tFine } ∧ (∃ t : Int, data.temperature = (t : ℚ) / 100) ∧
      ∃ n : Int, 0 ≤ n ∧ n ≤ 100000 ∧ data.humidity = (n : ℚ) / 1000 := by
  unfold readBme680 at h
  split at h
  · simp only [Option.bind_eq_bind, Option.bind_eq_some_iff, Option.some.injEq,
      Prod.mk.injEq] at h
    obtain ⟨⟨t, c⟩, ht, n, hn, rfl, rfl⟩ := h
    obtain ⟨h0, h1⟩ := calcHum_range hn
    exact ⟨calcTemp_cal ht, ⟨t, rfl⟩, n, h0, h1, rfl⟩
  · cases h

/-- The hundredths of a degree and thousandths of a percent that `read_bme680` computes. -/
def compensate (cal : BmeCalib) (d : Vector UInt8 bmeDataLen) : Option (Int × Int) := do
  let (t, cal) ← calcTemp (rawTemp d) cal
  let h ← calcHum (rawHum d) cal cal.tFine
  some (t, h)

/-- **A reading is its ten bytes, compensated**; what the reads returned plays no part in it. -/
theorem readBme680_some {cal : BmeCalib} {io : BmeReads} {data : Bme680Data} :
    (∃ cal', readBme680 cal io = some (data, cal')) ↔
      statusLoop io.status = true ∧ ∃ t h, compensate cal io.data.buf = some (t, h) ∧
        data = { temperature := (t : ℚ) / 100, humidity := (h : ℚ) / 1000 } := by
  constructor
  · intro h
    rcases h with ⟨cal', e⟩
    unfold readBme680 at e
    split at e
    · rename_i hloop
      simp only [Option.bind_eq_bind, Option.bind_eq_some_iff, Option.some.injEq,
        Prod.mk.injEq] at e
      obtain ⟨⟨t, c⟩, ht, h, hh, rfl, -⟩ := e
      refine ⟨hloop, t, h, ?_, rfl⟩
      simp only [compensate, ht, hh, Option.bind_eq_bind, Option.bind_some]
    · cases e
  · intro h
    rcases h with ⟨hloop, t, h, e, rfl⟩
    simp only [compensate, Option.bind_eq_bind, Option.bind_eq_some_iff, Option.some.injEq,
      Prod.mk.injEq] at e
    obtain ⟨⟨t', c⟩, ht, h', hh, rfl, rfl⟩ := e
    refine ⟨c, ?_⟩
    simp only [readBme680, hloop, ht, hh, if_true, Option.bind_eq_bind, Option.bind_some]

end HomeAlert.Node
