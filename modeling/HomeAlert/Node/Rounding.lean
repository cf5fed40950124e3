/-
  File:      HomeAlert/Node/Rounding.lean
  Subject:   THE MAIN LOOP IN FLOATING-POINT NUMBERS (sensor_node/main.c): what rounding changes.

  Loop.lean reads `float` arithmetic as exact. Here every operation is rounded where C rounds it:
  integers made `float`, quotients, products, and the `double` quotient of `read_distance`. The two
  roundings are a parameter; where they round nothing, this is the loop of Loop.lean
  (`exact_mainStep`), and `Arith.ieee` is the arithmetic of the machine. No number here comes near
  the largest `float`.

  * `distance_lt_iff`, `temp_lt_iff`, `hum_compare` -- rounding does not change what is compared,
    but for a humidity that stands exactly on its threshold;
  * `temp_sent`, `hum_sent` -- a field may come out a hundredth too near to zero;
  * `rounding_run` -- so the two loops go in lockstep, and these are all their differences.
-/
import HomeAlert.Library.Binary
import HomeAlert.Node.Distance

namespace HomeAlert.Node

open Machine Fixed Bounds Binary

/-! ## 1. The loop, with its roundings -/

/-- The roundings of `float` and `double`. -/
structure Arith where
  single : ℚ → ℚ
  double : ℚ → ℚ

def Arith.exact : Arith := ⟨id, id⟩
def Arith.ieee : Arith := ⟨binary32.round, binary64.round⟩

section Loop

variable (fp : Arith)

/-- `read_distance`: the quotient is a `double`, returned as `float`. -/
def Arith.readDistance (e : Echo) : ℚ :=
  let timeout := e.now + 30 * 1000
  if waitInTime timeout e.low = false then -1
  else if waitInTime timeout e.high = false then -1
  else fp.single (fp.double (fp.double ((e.stop - e.start : Int) : ℚ) / 58))

/-- `read_bme680`. -/
def Arith.readBme680 (cal : BmeCalib) (io : BmeReads) : Option (Bme680Data × BmeCalib) :=
  if statusLoop io.status then do
    let (t, cal) ← calcTemp (rawTemp io.data.buf) cal
    let h ← calcHum (rawHum io.data.buf) cal cal.tFine
    some ({ temperature := fp.single (fp.single (t : ℚ) / 100)
            humidity := fp.single (fp.single (h : ℚ) / 1000) }, cal)
  else none

def Arith.measureBme (s : LoopState) : Option BmeReads → Option LoopState
  | none => some s
  | some io => do
      let (data, cal) ← fp.readBme680 s.cal io
      some { s with cal := cal, temp := data.temperature, hum := data.humidity, bmeReady := true }

/-- The alarm logic. A `uint16_t` made `float` for `threshold_dist` is exact. -/
def Arith.alarmLogic (s : LoopState) : UInt8 :=
  let cfg := s.link.cfg
  let alarm : UInt8 := 0
  let alarm :=
    if s.distReady ∧ s.dist < cfg.thresholdDist then alarm ||| (1 : UInt8) <<< 0 else alarm
  let alarm :=
    if s.bmeReady ∧ s.temp > fp.single (fp.single (cfg.thresholdTemp.toInt : ℚ) / 100) then
      alarm ||| (1 : UInt8) <<< 1
    else alarm
  let alarm :=
    if s.soundReady ∧ s.soundI > cfg.thresholdSound then alarm ||| (1 : UInt8) <<< 2 else alarm
  if s.bmeReady ∧ (fp.single (s.hum * 100) > fp.single (cfg.thresholdHumMax.toNat : ℚ) ∨
      fp.single (s.hum * 100) < fp.single (cfg.thresholdHumMin.toNat : ℚ)) then
    alarm ||| (1 : UInt8) <<< 4
  else alarm

/-- `send_uart_frame`. -/
def Arith.sendUartFrame (conv : FloatConv) (temp humidity : ℚ) (sound dist : UInt16)
    (alarm : UInt8) : Vector UInt8 10 :=
  packFrame (conv.toInt16 (fp.single (temp * 100))) (conv.toInt16 (fp.single (humidity * 100)))
    sound dist alarm

/-- One turn of the loop. -/
def Arith.mainStep (conv : FloatConv) (s : LoopState) (t : Turn) :
    Option (LoopState × List LoopOutput) := do
  let (link, _) ← pollCommands s.link t.rx
  let s := { s with link := link }
  let s := s.measureDist (t.echo.map fp.readDistance)
  let s := s.measureSound t.adc
  let s ← fp.measureBme s t.bme
  let alarm := fp.alarmLogic s
  let s := { s with intrPin := intrLevel s.link.cfg alarm }
  some (s, [{ cfg := s.link.cfg, alarm := alarm, intrPin := s.intrPin,
              frame := fp.sendUartFrame conv s.temp s.hum s.sound (conv.toUInt16 s.dist) alarm }])

/-- What a turn that leaves `s` shows. -/
def Arith.shown (conv : FloatConv) (s : LoopState) : LoopOutput where
  cfg := s.link.cfg
  alarm := fp.alarmLogic s
  intrPin := intrLevel s.link.cfg (fp.alarmLogic s)
  frame := fp.sendUartFrame conv s.temp s.hum s.sound (conv.toUInt16 s.dist) (fp.alarmLogic s)

end Loop

/-- **Without rounding** this is the loop of Loop.lean. -/
theorem exact_mainStep (conv : FloatConv) (s : LoopState) (t : Turn) :
    Arith.exact.mainStep conv s t = mainStep conv s t.input := rfl

/-! ## 2. Numbers -/

theorem single_int {n : Int} (h : |n| < 2 ^ 24) : binary32.round (n : ℚ) = n :=
  round_int (by decide) h

theorem double_int {n : Int} (h : |n| < 2 ^ 53) : binary64.round (n : ℚ) = n :=
  round_int (by decide) h

/-- The error of a `float` below `2 ^ k`. -/
theorem single_error (k : Nat) {x : ℚ} (h : |x| < 2 ^ k) :
    |binary32.round x - x| ≤ 2 ^ k / 2 ^ 25 := by
  have hmin : binary32.emin ≤ (k : Int) - binary32.prec := by
    show (-149 : Int) ≤ k - (24 : Nat)
    omega
  have herr : |binary32.round x - x| ≤ 2 ^ ((k : Int) - (24 : Nat) - 1) :=
    round_error hmin (by rwa [zpow_natCast])
  rwa [show (k : Int) - (24 : Nat) - 1 = k - (25 : Nat) by omega, zpow_sub₀ two_ne_zero,
    zpow_natCast, zpow_natCast] at herr

theorem double_error (k : Nat) {x : ℚ} (h : |x| < 2 ^ k) :
    |binary64.round x - x| ≤ 2 ^ k / 2 ^ 54 := by
  have hmin : binary64.emin ≤ (k : Int) - binary64.prec := by
    show (-1074 : Int) ≤ k - (53 : Nat)
    omega
  have herr : |binary64.round x - x| ≤ 2 ^ ((k : Int) - (53 : Nat) - 1) :=
    round_error hmin (by rwa [zpow_natCast])
  rwa [show (k : Int) - (53 : Nat) - 1 = k - (54 : Nat) by omega, zpow_sub₀ two_ne_zero,
    zpow_natCast, zpow_natCast] at herr

/-- Quarters are not rounded. -/
theorem single_quarter {j : Int} (h : |j| < 2 ^ 24) : binary32.round ((j : ℚ) / 4) = (j : ℚ) / 4 :=
  round_of_holds ⟨j, -2, h, by decide, by norm_num [div_eq_mul_inv]⟩

section Distance

/-- A distance, as `read_distance` returns it for an echo of `n` microseconds. -/
def centimetres (n : Int) : ℚ := binary32.round (binary64.round ((n : ℚ) / 58))

variable {n m : Int}

theorem le_centimetres (hm : 0 ≤ m) (hm' : m ≤ 65536) (h : (m : ℚ) ≤ (n : ℚ) / 58) :
    (m : ℚ) ≤ centimetres n := by
  have h1 : |m| < 2 ^ 24 := abs_lt.mpr ⟨by omega, by omega⟩
  have h2 : |m| < 2 ^ 53 := abs_lt.mpr ⟨by omega, by omega⟩
  have hd := round_mono binary64 h
  rw [double_int h2] at hd
  have hs := round_mono binary32 hd
  rwa [single_int h1] at hs

/-- An echo is a whole number of microseconds, so a distance keeps its distance from integers. -/
theorem centimetres_lt (hn : 0 ≤ n) (hm : m ≤ 65536) (h : (n : ℚ) / 58 < m) :
    centimetres n < m := by
  have hn' : (0 : ℚ) ≤ n := by exact_mod_cast hn
  have hm' : (m : ℚ) ≤ 65536 := by exact_mod_cast hm
  have hstep : ((n + 1 : Int) : ℚ) ≤ ((58 * m : Int) : ℚ) := by
    have hlt : (n : ℚ) < ((58 * m : Int) : ℚ) := by
      push_cast
      linarith
    exact Int.cast_le.mpr (Int.cast_lt.mp hlt)
  push_cast at hstep
  have hx : 0 ≤ (n : ℚ) / 58 := by positivity
  have hd := double_error 16 (x := (n : ℚ) / 58) (by
    rw [abs_of_nonneg hx]
    norm_num
    linarith)
  have hd0 := round_nonneg (F := binary64) hx
  obtain ⟨-, hd1⟩ := abs_le.mp hd
  norm_num at hd1
  have hs := single_error 17 (x := binary64.round ((n : ℚ) / 58)) (by
    rw [abs_of_nonneg hd0]
    norm_num
    linarith)
  obtain ⟨-, hs1⟩ := abs_le.mp hs
  norm_num at hs1
  unfold centimetres
  linarith

/-- A distance is compared with an integer as it was measured. -/
theorem centimetres_lt_iff (hn : 0 ≤ n) (hshort : n < 65536 * 58) (hm : 0 ≤ m) :
    centimetres n < m ↔ (n : ℚ) / 58 < m := by
  have hlarge : (n : ℚ) / 58 < (65536 : Int) := by
    rw [div_lt_iff₀ (by norm_num)]
    exact_mod_cast hshort
  rcases le_or_gt m 65536 with h | h
  · refine ⟨fun hlt => ?_, centimetres_lt hn h⟩
    by_contra hge
    exact absurd hlt (not_lt.mpr (le_centimetres hm h (not_lt.mp hge)))
  · have hm' : ((65536 : Int) : ℚ) < m := Int.cast_lt.mpr h
    exact iff_of_true ((centimetres_lt hn le_rfl hlarge).trans hm') (hlarge.trans hm')

theorem centimetres_zero : centimetres 0 = 0 := by
  simp [centimetres]

/-- **A distance is sent as it was measured.** -/
theorem trunc_centimetres (hn : 0 ≤ n) (hshort : n < 65536 * 58) :
    trunc (centimetres n) = trunc ((n : ℚ) / 58) := by
  have hx : 0 ≤ (n : ℚ) / 58 := div_nonneg (by exact_mod_cast hn) (by norm_num)
  have hc : 0 ≤ centimetres n := round_nonneg (round_nonneg hx)
  have hiff : ∀ m : Int, 0 ≤ m → (trunc (centimetres n) < m ↔ trunc ((n : ℚ) / 58) < m) := by
    intro m hm
    rw [trunc_lt_iff hc, trunc_lt_iff hx]
    exact centimetres_lt_iff hn hshort hm
  have h1 := hiff (trunc ((n : ℚ) / 58) + 1) (by have := trunc_nonneg hx; omega)
  have h2 := hiff (trunc (centimetres n) + 1) (by have := trunc_nonneg hc; omega)
  omega

/-- A distance is positive as it was measured. -/
theorem centimetres_pos (hn : 0 ≤ n) : 0 < centimetres n ↔ 0 < (n : ℚ) / 58 := by
  rcases hn.eq_or_lt with rfl | hpos
  · rw [centimetres_zero]
    simp
  · have hx : ((1 : Int) : ℚ) * 2 ^ (-6 : Int) ≤ (n : ℚ) / 58 := by
      have h1 : (1 : ℚ) ≤ n := by exact_mod_cast hpos
      norm_num
      linarith
    have hd := round_mono binary64 hx
    rw [round_of_holds (F := binary64) ⟨1, -6, by decide, by decide, rfl⟩] at hd
    have hs := round_mono binary32 hd
    rw [round_of_holds (F := binary32) ⟨1, -6, by decide, by decide, rfl⟩] at hs
    have h64 : (0 : ℚ) < ((1 : Int) : ℚ) * 2 ^ (-6 : Int) := by norm_num
    exact iff_of_true (h64.trans_le hs) (h64.trans_le hx)

end Distance

section Bme

/-- A temperature of `t` hundredths, and a humidity of `n` thousandths, as `read_bme680` returns
    them. -/
def degrees (t : Int) : ℚ := binary32.round ((t : ℚ) / 100)
def percent (n : Int) : ℚ := binary32.round ((n : ℚ) / 1000)

variable {t u n : Int}

theorem degrees_error (ht : Within 32768 t) : |degrees t - (t : ℚ) / 100| ≤ 1 / 2 ^ 16 := by
  have habs : |(t : ℚ)| ≤ 32768 := by exact_mod_cast within_iff_abs.mp ht
  have herr := single_error 9 (x := (t : ℚ) / 100) (by
    rw [abs_div]
    norm_num
    linarith)
  norm_num at herr ⊢
  exact herr

/-- **Temperatures are compared as they were measured**: hundredths lie far apart. -/
theorem degrees_lt_iff (ht : Within 32768 t) (hu : Within 32768 u) :
    degrees t < degrees u ↔ (t : ℚ) / 100 < (u : ℚ) / 100 := by
  constructor
  · intro h
    by_contra hge
    exact absurd h (not_lt.mpr (round_mono binary32 (not_lt.mp hge)))
  · intro h
    have hstep : ((t + 1 : Int) : ℚ) ≤ u := by
      have hlt : (t : ℚ) < u := by linarith
      exact Int.cast_le.mpr (Int.cast_lt.mp hlt)
    push_cast at hstep
    obtain ⟨-, h1⟩ := abs_le.mp (degrees_error ht)
    obtain ⟨h2, -⟩ := abs_le.mp (degrees_error hu)
    norm_num at h1 h2
    linarith

/-- **What rounding may do to a field of `n` hundredths**: a hundredth less, if it is no number of
    quarters. -/
def Toward (n n' : Int) : Prop :=
  n' = n ∨ ¬ 25 ∣ n ∧ (0 < n ∧ n' = n - 1 ∨ n < 0 ∧ n' = n + 1)

theorem Toward.within {n n' B : Int} (h : Toward n n') (hn : Within B n) : Within B n' := by
  obtain ⟨h1, h2⟩ := hn
  rcases h with h | ⟨-, h⟩
  · exact ⟨by omega, by omega⟩
  · exact ⟨by omega, by omega⟩

/-- **The temperature that is sent.** -/
theorem degrees_sent (ht : Within 32768 t) :
    Toward t (trunc (binary32.round (degrees t * 100))) := by
  have habs : |(t : ℚ)| ≤ 32768 := by exact_mod_cast within_iff_abs.mp ht
  obtain ⟨h1, h2⟩ := abs_le.mp habs
  by_cases hq : 25 ∣ t
  · obtain ⟨j, rfl⟩ := hq
    have hj : |j| < 2 ^ 24 := by
      obtain ⟨hj1, hj2⟩ := ht
      exact abs_lt.mpr ⟨by omega, by omega⟩
    have hexact : degrees (25 * j) = (j : ℚ) / 4 := by
      rw [← single_quarter hj]
      unfold degrees
      congr 1
      push_cast
      ring
    have hprod : (j : ℚ) / 4 * 100 = ((25 * j : Int) : ℚ) := by
      push_cast
      ring
    left
    rw [hexact, hprod, single_int (abs_lt.mpr ⟨by have := ht.1; omega, by have := ht.2; omega⟩),
      trunc_intCast]
  · obtain ⟨h3, h4⟩ := abs_le.mp (degrees_error ht)
    norm_num at h3 h4
    have herr := single_error 16 (x := degrees t * 100) (by
      rw [abs_lt]
      norm_num
      constructor
      · linarith
      · linarith)
    obtain ⟨h5, h6⟩ := abs_le.mp herr
    norm_num at h5 h6
    have hnear : |binary32.round (degrees t * 100) - t| < 1 := by
      rw [abs_lt]
      constructor
      · linarith
      · linarith
    rcases trunc_near hnear with h | h
    · exact Or.inl h
    · exact Or.inr ⟨hq, h⟩

/-- The hundredths of a humidity, before they are truncated. -/
theorem percent_error (h0 : 0 ≤ n) (h1 : n ≤ 100000) :
    |binary32.round (percent n * 100) - (n : ℚ) / 10| < 1 / 20 := by
  have h0' : (0 : ℚ) ≤ n := by exact_mod_cast h0
  have h1' : (n : ℚ) ≤ 100000 := by exact_mod_cast h1
  have hquot := single_error 7 (x := (n : ℚ) / 1000) (by
    rw [abs_of_nonneg (by positivity)]
    norm_num
    linarith)
  obtain ⟨h2, h3⟩ := abs_le.mp hquot
  norm_num at h2 h3
  have hprod := single_error 14 (x := percent n * 100) (by
    rw [abs_lt]
    norm_num [percent]
    constructor
    · linarith
    · linarith)
  obtain ⟨h4, h5⟩ := abs_le.mp hprod
  norm_num [percent] at h4 h5
  unfold percent
  rw [abs_lt]
  constructor
  · linarith
  · linarith

/-- Quarters of a percent are exact. -/
theorem percent_quarter {m : Int} (h0 : 0 ≤ m) (h1 : m ≤ 10000) (hq : 25 ∣ m) :
    binary32.round (percent (10 * m) * 100) = m := by
  obtain ⟨j, rfl⟩ := hq
  have hexact : percent (10 * (25 * j)) = (j : ℚ) / 4 := by
    rw [← single_quarter (abs_lt.mpr ⟨by omega, by omega⟩)]
    unfold percent
    congr 1
    push_cast
    ring
  rw [hexact, show (j : ℚ) / 4 * 100 = ((25 * j : Int) : ℚ) by
    push_cast
    ring]
  exact single_int (abs_lt.mpr ⟨by omega, by omega⟩)

/-- **The humidity that is sent.** -/
theorem percent_sent (h0 : 0 ≤ n) (h1 : n ≤ 100000) :
    Toward (trunc ((n : ℚ) / 10)) (trunc (binary32.round (percent n * 100))) := by
  obtain ⟨h2, h3⟩ := abs_lt.mp (percent_error h0 h1)
  have hfloor : trunc ((n : ℚ) / 10) = n / 10 := by
    rw [trunc_of_nonneg (div_nonneg (by exact_mod_cast h0) (by norm_num))]
    exact Rat.floor_intCast_div_natCast n 10
  have hdiv : (n : ℚ) = 10 * ((n / 10 : Int) : ℚ) + ((n % 10 : Int) : ℚ) := by
    exact_mod_cast (Int.mul_ediv_add_emod n 10).symm
  rw [hfloor]
  rcases eq_or_ne (n % 10) 0 with hr | hr
  · have hn : n = 10 * (n / 10) := by omega
    by_cases hq : 25 ∣ n / 10
    · left
      nth_rewrite 1 [hn]
      rw [percent_quarter (by omega) (by omega) hq, trunc_intCast]
    · rw [hr, Int.cast_zero, add_zero] at hdiv
      have hnear : |binary32.round (percent n * 100) - ((n / 10 : Int) : ℚ)| < 1 := by
        rw [abs_lt]
        constructor
        · linarith
        · linarith
      rcases trunc_near hnear with h | h
      · exact Or.inl h
      · exact Or.inr ⟨hq, h⟩
  · -- the tenths keep the number away from both integers
    have hr1 : (1 : ℚ) ≤ ((n % 10 : Int) : ℚ) := by exact_mod_cast (by omega : 1 ≤ n % 10)
    have hr2 : ((n % 10 : Int) : ℚ) ≤ 9 := by exact_mod_cast (by omega : n % 10 ≤ 9)
    have hH : (0 : ℚ) ≤ ((n / 10 : Int) : ℚ) := by exact_mod_cast (by omega : 0 ≤ n / 10)
    left
    rw [trunc_of_nonneg (by linarith), Int.floor_eq_iff]
    constructor
    · linarith
    · linarith

/-- **Humidities are compared as they were measured**, but for one that stands exactly on a
    threshold that is no number of quarters. -/
theorem percent_compare {m : Int} (h0 : 0 ≤ n) (h1 : n ≤ 100000) (hedge : n = 10 * m → 25 ∣ m) :
    (binary32.round (percent n * 100) > m ↔ (n : ℚ) / 10 > m) ∧
      (binary32.round (percent n * 100) < m ↔ (n : ℚ) / 10 < m) := by
  obtain ⟨h2, h3⟩ := abs_lt.mp (percent_error h0 h1)
  rcases lt_trichotomy n (10 * m) with hlt | rfl | hgt
  · have hstep : ((n + 1 : Int) : ℚ) ≤ ((10 * m : Int) : ℚ) := Int.cast_le.mpr (by omega)
    push_cast at hstep
    exact ⟨iff_of_false (by linarith) (by linarith), iff_of_true (by linarith) (by linarith)⟩
  · rw [percent_quarter (by omega) (by omega) (hedge rfl)]
    have hm : ((10 * m : Int) : ℚ) / 10 = m := by
      push_cast
      ring
    rw [hm]
    exact ⟨Iff.rfl, Iff.rfl⟩
  · have hstep : ((10 * m + 1 : Int) : ℚ) ≤ n := Int.cast_le.mpr (by omega)
    push_cast at hstep
    exact ⟨iff_of_true (by linarith) (by linarith), iff_of_false (by linarith) (by linarith)⟩

end Bme

/-! ## 3. The two loops -/

/-- **The states of the two loops**, the exact one first. -/
structure Rounds (s r : LoopState) : Prop where
  link : r.link = s.link
  cal : r.cal = s.cal
  sound : r.sound = s.sound
  soundI : r.soundI = s.soundI
  distReady : r.distReady = s.distReady
  soundReady : r.soundReady = s.soundReady
  bmeReady : r.bmeReady = s.bmeReady
  dist : (s.dist = -1 ∧ r.dist = -1) ∨
    ∃ n : Int, 0 ≤ n ∧ n < 65536 * 58 ∧ s.dist = (n : ℚ) / 58 ∧ r.dist = centimetres n
  temp : ∃ t : Int, Within 21761 t ∧ s.temp = (t : ℚ) / 100 ∧ r.temp = degrees t
  hum : ∃ n : Int, 0 ≤ n ∧ n ≤ 100000 ∧ s.hum = (n : ℚ) / 1000 ∧ r.hum = percent n
  thrDist : ∃ n : Nat, s.link.cfg.thresholdDist = n

/-- An echo within the range of the sensor, or none. -/
def Turn.Short (t : Turn) : Prop := ∀ e, t.echo = some e → e.stop - e.start < 65536 * 58

/-- **The humidity stands on no threshold**, but for one in whole quarters of a percent. -/
def OffEdge (cfg : Config) (humI : Int16) : Prop :=
  ∀ thr, thr = cfg.thresholdHumMax ∨ thr = cfg.thresholdHumMin →
    humI.toInt = thr.toNat → 25 ∣ (thr.toNat : Int)

/-- **All that rounding changes** in what a turn leaves: temperature and humidity may be sent a
    hundredth too near to zero, and the bit of the humidity may differ where it stands on its
    threshold. -/
structure Near (o o' : LoopOutput) (k k' : Packet) : Prop where
  frame : o.frame = k.bytes
  frame' : o'.frame = k'.bytes
  cfg : o'.cfg = o.cfg
  sound : k'.sound = k.sound
  dist : k'.dist = k.dist
  temp : Toward k.tempI.toInt k'.tempI.toInt
  hum : Toward k.humI.toInt k'.humI.toInt
  sent : k.alarm = o.alarm ∧ k'.alarm = o'.alarm
  others : o'.alarm &&& 0xEF = o.alarm &&& 0xEF
  alarm : OffEdge o.cfg k.humI → o'.alarm = o.alarm ∧ o'.intrPin = o.intrPin

theorem rounds_initial (cal : BmeCalib) : Rounds (.initial cal) (.initial cal) where
  link := rfl
  cal := rfl
  sound := rfl
  soundI := rfl
  distReady := rfl
  soundReady := rfl
  bmeReady := rfl
  dist := Or.inr ⟨0, le_rfl, by norm_num, by simp [LoopState.initial], centimetres_zero.symm⟩
  temp := ⟨0, by decide, by simp [LoopState.initial], by simp [LoopState.initial, degrees]⟩
  hum := ⟨0, le_rfl, by norm_num, by simp [LoopState.initial], by
    simp [LoopState.initial, percent]⟩
  thrDist := ⟨50, rfl⟩

/-- Bit 4 is the only one in which two alarm bytes differ that are or-ed from the same others. -/
theorem bits_masked (a : UInt8) (p q : Prop) [Decidable p] [Decidable q] :
    (if p then a ||| (1 : UInt8) <<< 4 else a) &&& (0xEF : UInt8) =
      (if q then a ||| (1 : UInt8) <<< 4 else a) &&& (0xEF : UInt8) := by
  have hclear : (a ||| (1 : UInt8) <<< 4) &&& 0xEF = a &&& 0xEF := by
    rw [← UInt8.toNat_inj]
    show (a.toNat ||| 16) &&& 239 = a.toNat &&& 239
    rw [Nat.and_or_distrib_right, show 16 &&& 239 = 0 from rfl, Nat.or_zero]
  split_ifs
  · rfl
  · exact hclear
  · exact hclear.symm
  · rfl

section Phases

variable {s r : LoopState}

/-- The two results of `read_distance`. -/
theorem readDistance_rounds {e : Echo} (h : e.stop - e.start < 65536 * 58) :
    (readDistance e = -1 ∧ Arith.ieee.readDistance e = -1) ∨
      ∃ n : Int, 0 ≤ n ∧ n < 65536 * 58 ∧ readDistance e = (n : ℚ) / 58 ∧
        Arith.ieee.readDistance e = centimetres n := by
  have h0 := e.start_le_stop
  have hn : |e.stop - e.start| < 2 ^ 53 := abs_lt.mpr ⟨by omega, by omega⟩
  simp only [readDistance, Arith.readDistance]
  split_ifs
  · exact Or.inl ⟨rfl, rfl⟩
  · exact Or.inl ⟨rfl, rfl⟩
  · refine Or.inr ⟨e.stop - e.start, by omega, h, rfl, ?_⟩
    show binary32.round (binary64.round (binary64.round _ / 58)) = _
    rw [double_int hn]
    rfl

/-- The two results of `read_bme680`. -/
theorem readBme680_rounds (cal : BmeCalib) (io : BmeReads) :
    Option.Rel (fun a b => b.2 = a.2 ∧ ∃ t n : Int, Within 21761 t ∧ 0 ≤ n ∧ n ≤ 100000 ∧
        a.1 = { temperature := (t : ℚ) / 100, humidity := (n : ℚ) / 1000 } ∧
        b.1 = { temperature := degrees t, humidity := percent n })
      (readBme680 cal io) (Arith.ieee.readBme680 cal io) := by
  unfold readBme680 Arith.readBme680
  split
  · rcases ht : calcTemp (rawTemp io.data.buf) cal with _ | ⟨t, c⟩
    · exact .none
    · rcases hh : calcHum (rawHum io.data.buf) c c.tFine with _ | n
      · simp only [Option.bind_eq_bind, Option.bind_some, hh, Option.bind_none]
        exact .none
      · have hcomp : compensate cal io.data.buf = some (t, n) := by
          simp only [compensate, ht, hh, Option.bind_eq_bind, Option.bind_some]
        obtain ⟨hT, h0, h1⟩ := compensate_range hcomp
        simp only [Option.bind_eq_bind, Option.bind_some, hh]
        refine .some ⟨rfl, t, n, hT, h0, h1, rfl, ?_⟩
        have ht24 : |t| < 2 ^ 24 := abs_lt.mpr ⟨by have := hT.1; omega, by have := hT.2; omega⟩
        have hn24 : |n| < 2 ^ 24 := abs_lt.mpr ⟨by omega, by omega⟩
        show Bme680Data.mk (binary32.round (binary32.round t / 100))
          (binary32.round (binary32.round n / 1000)) = _
        rw [single_int ht24, single_int hn24]
        rfl
  · exact .none

theorem Rounds.poll (h : Rounds s r) {rx : List UInt8} {link : LinkState}
    {calls : List (UInt8 × UInt16)} (hpoll : pollCommands s.link rx = some (link, calls)) :
    Rounds { s with link := link } { r with link := link } := by
  refine { h with link := rfl, thrDist := ?_ }
  show ∃ n : Nat, link.cfg.thresholdDist = n
  rw [poll_config hpoll]
  exact applyCommands_thresholdDist h.thrDist calls

theorem Rounds.measureDist (h : Rounds s r) {t : Turn} (hshort : t.Short) :
    Rounds (s.measureDist (t.echo.map readDistance))
      (r.measureDist (t.echo.map Arith.ieee.readDistance)) := by
  rcases e : t.echo with _ | echo
  · exact h
  · have hcases := readDistance_rounds (hshort echo e)
    refine { h with distReady := ?_, dist := hcases }
    show decide (0 < Arith.ieee.readDistance echo) = decide (0 < readDistance echo)
    rcases hcases with ⟨h1, h2⟩ | ⟨n, h0, -, h1, h2⟩
    · rw [h1, h2]
    · rw [h1, h2]
      exact decide_eq_decide.mpr (centimetres_pos h0)

theorem Rounds.measureSound (h : Rounds s r) (adc : Option UInt16) :
    Rounds (s.measureSound adc) (r.measureSound adc) := by
  rcases adc with _ | v
  · exact h
  · exact { h with sound := rfl, soundI := rfl, soundReady := rfl }

theorem Rounds.measureBme (h : Rounds s r) (io : Option BmeReads) :
    Option.Rel Rounds (s.measureBme io) (Arith.ieee.measureBme r io) := by
  rcases io with _ | io
  · exact .some h
  · show Option.Rel Rounds ((readBme680 s.cal io).bind _) ((Arith.ieee.readBme680 r.cal io).bind _)
    rw [h.cal]
    refine rel_bind (readBme680_rounds s.cal io) fun a b hab => ?_
    obtain ⟨hcal, t, n, hT, h0, h1, ha, hb⟩ := hab
    refine .some { h with cal := hcal, bmeReady := rfl, temp := ?_, hum := ?_ }
    · exact ⟨t, hT, congrArg (·.temperature) ha, congrArg (·.temperature) hb⟩
    · exact ⟨n, h0, h1, congrArg (·.humidity) ha, congrArg (·.humidity) hb⟩

/-- The conditions of distance, temperature and sound. -/
theorem Rounds.conditions (h : Rounds s r) :
    (r.distReady ∧ r.dist < r.link.cfg.thresholdDist ↔
      s.distReady ∧ s.dist < s.link.cfg.thresholdDist) ∧
    (r.bmeReady ∧ r.temp > Arith.ieee.single (Arith.ieee.single
        (r.link.cfg.thresholdTemp.toInt : ℚ) / 100) ↔
      s.bmeReady ∧ s.temp > (s.link.cfg.thresholdTemp.toInt : ℚ) / 100) ∧
    (r.soundReady ∧ r.soundI > r.link.cfg.thresholdSound ↔
      s.soundReady ∧ s.soundI > s.link.cfg.thresholdSound) := by
  rw [h.link, h.distReady, h.bmeReady, h.soundReady, h.soundI]
  refine ⟨and_congr_right' ?_, and_congr_right' ?_, Iff.rfl⟩
  · obtain ⟨thr, hthr⟩ := h.thrDist
    rcases h.dist with ⟨h1, h2⟩ | ⟨n, h0, hn, h1, h2⟩
    · rw [h1, h2]
    · rw [h1, h2, hthr]
      exact_mod_cast centimetres_lt_iff (m := thr) h0 hn (by omega)
  · obtain ⟨t, hT, h1, h2⟩ := h.temp
    have hthr : Within 32768 s.link.cfg.thresholdTemp.toInt := by
      have hle := s.link.cfg.thresholdTemp.le_toInt
      have hlt := s.link.cfg.thresholdTemp.toInt_lt
      exact ⟨by omega, by omega⟩
    have hfloat : Arith.ieee.single (s.link.cfg.thresholdTemp.toInt : ℚ) =
        (s.link.cfg.thresholdTemp.toInt : ℚ) :=
      single_int (abs_lt.mpr ⟨by have := hthr.1; omega, by have := hthr.2; omega⟩)
    rw [hfloat, h1, h2]
    exact degrees_lt_iff hthr ⟨by have := hT.1; omega, by have := hT.2; omega⟩

/-- The bits but for the humidity's. -/
theorem Rounds.others (h : Rounds s r) :
    Arith.ieee.alarmLogic r &&& 0xEF = alarmLogic s &&& 0xEF := by
  obtain ⟨h0, h1, h2⟩ := h.conditions
  simp only [Arith.alarmLogic, alarmLogic, h0, h1, h2]
  exact bits_masked _ _ _

/-- The whole byte, where the humidity stands on no threshold. -/
theorem Rounds.alarm (h : Rounds s r) {n : Int} (h0 : 0 ≤ n) (h1 : n ≤ 100000)
    (hs : s.hum = (n : ℚ) / 1000) (hr : r.hum = percent n)
    (hedge : ∀ thr, thr = s.link.cfg.thresholdHumMax ∨ thr = s.link.cfg.thresholdHumMin →
      n = 10 * (thr.toNat : Int) → 25 ∣ (thr.toNat : Int)) :
    Arith.ieee.alarmLogic r = alarmLogic s := by
  obtain ⟨hc0, hc1, hc2⟩ := h.conditions
  have hfloat : ∀ thr : UInt16, Arith.ieee.single (thr.toNat : ℚ) = ((thr.toNat : Int) : ℚ) := by
    intro thr
    have hlt := thr.toNat_lt
    exact_mod_cast single_int (n := (thr.toNat : Int)) (abs_lt.mpr ⟨by omega, by omega⟩)
  have hexact : s.hum * 100 = (n : ℚ) / 10 := by
    rw [hs]
    ring
  have hmax := (percent_compare h0 h1 (hedge _ (Or.inl rfl))).1
  have hmin := (percent_compare h0 h1 (hedge _ (Or.inr rfl))).2
  have hc4 : (r.bmeReady ∧ (Arith.ieee.single (r.hum * 100) >
        Arith.ieee.single (r.link.cfg.thresholdHumMax.toNat : ℚ) ∨
      Arith.ieee.single (r.hum * 100) <
        Arith.ieee.single (r.link.cfg.thresholdHumMin.toNat : ℚ))) ↔
      (s.bmeReady ∧ (s.hum * 100 > (s.link.cfg.thresholdHumMax.toNat : ℚ) ∨
        s.hum * 100 < (s.link.cfg.thresholdHumMin.toNat : ℚ))) := by
    rw [h.link, h.bmeReady, hfloat, hfloat, hr, hexact]
    exact and_congr_right' (or_congr (by exact_mod_cast hmax) (by exact_mod_cast hmin))
  simp only [Arith.alarmLogic, alarmLogic, hc0, hc1, hc2, hc4]

/-- **What the two loops show** behind a turn. -/
theorem Rounds.shown (conv : FloatConv) (h : Rounds s r) :
    ∃ k k', Near (shown conv s) (Arith.ieee.shown conv r) k k' := by
  obtain ⟨t, hT, hst, hrt⟩ := h.temp
  obtain ⟨n, h0, h1, hsn, hrn⟩ := h.hum
  have hT' : Within 32767 t := ⟨by have := hT.1; omega, by have := hT.2; omega⟩
  have htemp := degrees_sent (t := t) ⟨by have := hT.1; omega, by have := hT.2; omega⟩
  have hhum := percent_sent h0 h1
  have hst' : s.temp * 100 = (t : ℚ) := by
    rw [hst]
    ring
  have hsn' : s.hum * 100 = (n : ℚ) / 10 := by
    rw [hsn]
    ring
  have hfloor : trunc ((n : ℚ) / 10) = n / 10 := by
    rw [trunc_of_nonneg (div_nonneg (by exact_mod_cast h0) (by norm_num))]
    exact Rat.floor_intCast_div_natCast n 10
  have hH : Within 32767 (trunc ((n : ℚ) / 10)) := ⟨by omega, by omega⟩
  have hconv : ∀ q : ℚ, Within 32767 (trunc q) → (conv.toInt16 q).toInt = trunc q := fun q hq =>
    conv.toInt16_eq q (by have := hq.1; omega) (by have := hq.2; omega)
  have hdist : conv.toUInt16 r.dist = conv.toUInt16 s.dist := by
    rcases h.dist with ⟨h2, h3⟩ | ⟨m, hm, hshort, h2, h3⟩
    · rw [h2, h3]
    · have htrunc := trunc_centimetres hm hshort
      have hx : 0 ≤ (m : ℚ) / 58 := div_nonneg (by exact_mod_cast hm) (by norm_num)
      have hlt : trunc ((m : ℚ) / 58) < 65536 := by
        rw [trunc_lt_iff hx 65536, div_lt_iff₀ (by norm_num)]
        exact_mod_cast hshort
      have hge := trunc_nonneg hx
      have e1 := conv.toUInt16_eq (centimetres m) (by omega) (by omega)
      have e2 := conv.toUInt16_eq ((m : ℚ) / 58) hge hlt
      rw [h2, h3, ← UInt16.toNat_inj]
      omega
  refine ⟨⟨conv.toInt16 (s.temp * 100), conv.toInt16 (s.hum * 100), s.sound,
      conv.toUInt16 s.dist, alarmLogic s⟩,
    ⟨conv.toInt16 (binary32.round (r.temp * 100)), conv.toInt16 (binary32.round (r.hum * 100)),
      r.sound, conv.toUInt16 r.dist, Arith.ieee.alarmLogic r⟩,
    ⟨rfl, rfl, congrArg (·.cfg) h.link, h.sound, hdist, ?_, ?_, ⟨rfl, rfl⟩, h.others, ?_⟩⟩
  · show Toward (conv.toInt16 (s.temp * 100)).toInt (conv.toInt16 (binary32.round _)).toInt
    rw [hrt, hconv _ (htemp.within hT'), hst', hconv _ (by rwa [trunc_intCast]), trunc_intCast]
    exact htemp
  · show Toward (conv.toInt16 (s.hum * 100)).toInt (conv.toInt16 (binary32.round _)).toInt
    rw [hrn, hconv _ (hhum.within hH), hsn', hconv _ hH]
    exact hhum
  · intro hoff
    have halarm : Arith.ieee.alarmLogic r = alarmLogic s := by
      refine h.alarm h0 h1 hsn hrn fun thr hthr he => hoff thr hthr ?_
      show (conv.toInt16 (s.hum * 100)).toInt = thr.toNat
      rw [hsn', hconv _ hH, hfloor, he]
      omega
    refine ⟨halarm, ?_⟩
    show intrLevel r.link.cfg (Arith.ieee.alarmLogic r) = intrLevel s.link.cfg (alarmLogic s)
    rw [halarm, h.link]

/-- **One turn of the two loops.** -/
theorem Rounds.step (conv : FloatConv) (h : Rounds s r) {t : Turn} (hshort : t.Short) :
    Option.Rel (fun a b => Rounds a.1 b.1 ∧
        List.Forall₂ (fun o o' => ∃ k k', Near o o' k k') a.2 b.2)
      (mainStep conv s t.input) (Arith.ieee.mainStep conv r t) := by
  show Option.Rel _ ((pollCommands s.link t.rx).bind _) ((pollCommands r.link t.rx).bind _)
  rw [h.link]
  rcases hpoll : pollCommands s.link t.rx with _ | ⟨link, calls⟩
  · exact .none
  · have hmeasured := ((h.poll hpoll).measureDist hshort).measureSound t.adc
    show Option.Rel _ (Option.bind (LoopState.measureBme _ _) _)
      (Option.bind (Arith.ieee.measureBme _ _) _)
    refine rel_bind (hmeasured.measureBme t.bme) fun s' r' h' => ?_
    exact .some ⟨{ h' with }, .cons (h'.shown conv) .nil⟩

end Phases

section Runs

variable (conv : FloatConv) (cal : BmeCalib) {turns : List Turn}

/-- **The two loops in lockstep**, from the start. -/
theorem rounds_run (hshort : ∀ t ∈ turns, t.Short) :
    Option.Rel (fun a b => Rounds a.1 b.1 ∧
        List.Forall₂ (fun o o' => ∃ k k', Near o o' k k') a.2 b.2)
      (run (mainStep conv) (.initial cal) (turns.map Turn.input))
      (run (Arith.ieee.mainStep conv) (.initial cal) turns) := by
  have hinputs : List.Forall₂ (fun i t => i = Turn.input t ∧ t.Short) (turns.map Turn.input)
      turns := by
    rw [List.forall₂_map_left_iff, List.forall₂_same]
    exact fun t ht => ⟨rfl, hshort t ht⟩
  have hstep : ∀ s r i t, Rounds s r → i = Turn.input t ∧ t.Short →
      Option.Rel (fun a b => Rounds a.1 b.1 ∧
          List.Forall₂ (fun o o' => ∃ k k', Near o o' k k') a.2 b.2)
        (mainStep conv s i) (Arith.ieee.mainStep conv r t) := by
    rintro s r _ t h ⟨rfl, ht⟩
    exact h.step conv ht
  exact run_lockstep hstep (rounds_initial cal) hinputs

/-- **What rounding changes in any run**, whatever the turns find: the loop in floating-point
    numbers is defined just when the exact one is, and turn by turn the two leave the same settings,
    sound, distance and alarm bits but one, with temperature and humidity the same or a hundredth
    nearer to zero. The bit of the humidity, and with it the interrupt line, is the same unless the
    humidity stands exactly on a threshold that is no number of quarters of a percent. -/
theorem rounding_run (turns : List Turn) (hshort : ∀ t ∈ turns, t.Short) :
    Option.Rel (fun a b => List.Forall₂ (fun o o' => ∃ k k', Near o o' k k') a.2 b.2)
      (run (mainStep conv) (.initial cal) (turns.map Turn.input))
      (run (Arith.ieee.mainStep conv) (.initial cal) turns) :=
  rel_imp (rounds_run conv cal hshort) fun _ _ h => h.2

end Runs

/-- A turn in which temperature, alarm and interrupt line differ: 20.05 degrees and 16.12 percent,
    with the upper threshold at 16.12 percent and the lower one at 0. -/
def edgeTurn : Turn where
  rx := [0xBB, 4, 0x06, 0x4C, 0x66, 0xBB, 5, 0, 0, 0x66]
  echo := some ⟨0, [], 100, [], 5900, Int.le.intro 5800 rfl⟩
  adc := some 1280
  bme := some ⟨[⟨1, .replicate 1 0⟩], 10, #v[0, 0, 0, 0, 0, 0x75, 0x3B, 0x80, 0x40, 0x34]⟩

/-- **The differences are real**: exact, then rounded. -/
theorem rounding_differs :
    (run (mainStep .wrapping) (.initial commonCalib) [edgeTurn.input]).map
        (fun r => r.2.map fun o => (o.alarm, o.intrPin, o.frame.toList)) =
      some [(0x00, false, [0xAA, 0x07, 0xD5, 0x06, 0x4C, 20, 0, 100, 0x00, 0x55])] ∧
    (run (Arith.ieee.mainStep .wrapping) (.initial commonCalib) [edgeTurn]).map
        (fun r => r.2.map fun o => (o.alarm, o.intrPin, o.frame.toList)) =
      some [(0x10, true, [0xAA, 0x07, 0xD4, 0x06, 0x4C, 20, 0, 100, 0x10, 0x55])] := by
  decide +kernel

theorem rounding_run_edge :
    Option.Rel (fun a b => List.Forall₂ (fun o o' => ∃ k k', Near o o' k k') a.2 b.2)
      (run (mainStep .wrapping) (.initial commonCalib) ([edgeTurn].map Turn.input))
      (run (Arith.ieee.mainStep .wrapping) (.initial commonCalib) [edgeTurn]) :=
  rounding_run .wrapping commonCalib [edgeTurn] fun t ht e he => by
    obtain rfl := List.mem_singleton.mp ht
    obtain rfl := Option.some.inj he
    decide

end HomeAlert.Node
