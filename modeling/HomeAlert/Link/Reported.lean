/-
  File:      HomeAlert/Link/Reported.lean
  Subject:   WHAT THE BASE NODE REPORTS OF WHAT THE SENSORS MEASURED, through the integer and the
             floating-point arithmetic of the machine.

  The comparison of Rounding.lean is carried through the frame to the application, and back to the
  measurements.

  * `rounded_turn` -- a turn of the one loop beside the same turn of the other;
  * `reported_temperature` -- what `sensor_channel_get` answers is within two hundredths of a degree
    of the exact formula over the bytes read from the BME680;
  * `reported_panel` -- the four LEDs show the exact conditions on what was measured.
-/
import HomeAlert.Link.DataLink
import HomeAlert.Link.Panel
import HomeAlert.Link.Thresholds
import HomeAlert.Node.Accuracy
import HomeAlert.Node.Rounding

namespace HomeAlert.Link

open Machine Bounds Base Node

/-! ## 1. What is reported of what was measured -/

section Turns

variable {conv : FloatConv} {cal : BmeCalib} {turns : List Turn} {r : LoopState}
  {outs : List LoopOutput}

/-- **A turn of both loops**: what the rounded one leaves, beside the exact state it is near to. -/
theorem rounded_turn (hshort : ∀ t ∈ turns, t.Short)
    (hrun : run (Arith.ieee.mainStep conv) (.initial cal) turns = some (r, outs)) {j : Nat}
    {out : LoopOutput} (hj : outs[j]? = some out) :
    ∃ s k k', Near (shown conv s) out k k' ∧
      TurnsInv cal ((turns.take (j + 1)).map Turn.input) s ∧
      Holds (readings cal ((turns.take (j + 1)).map Turn.input)) s := by
  have hrel := rounds_run conv cal hshort
  rw [hrun] at hrel
  generalize hexact : run (mainStep conv) (.initial cal) (turns.map Turn.input) = x at hrel
  cases hrel with
  | @some a _ h =>
    obtain ⟨hlt, rfl⟩ := List.getElem?_eq_some_iff.mp hj
    obtain ⟨hlen, hget⟩ := List.forall₂_iff_get.mp h.2
    obtain ⟨k, k', hnear⟩ := hget j (hlen ▸ hlt) hlt
    obtain ⟨s, hs, hshown⟩ := shown_run hexact (List.getElem?_eq_getElem (hlen ▸ hlt))
    rw [← List.map_take] at hs
    refine ⟨s, k, k', ?_, turns_run hs, readings_run hs⟩
    rw [← hshown]
    exact hnear

/-- The hundredths of a reading, against the exact formula. -/
theorem measured_error {past : List LoopInput} {s : LoopState} (h : TurnsInv cal past s)
    {io : BmeReads} (hio : lastBme past = some io) :
    ∃ t : Int, Within 21761 t ∧ s.temp * 100 = t ∧
      |(t : ℚ) - exactTemp (rawTemp io.data.buf) cal| < 15 / 16 := by
  obtain ⟨data, cal', hread, htemp, -⟩ := h.read io hio
  obtain ⟨-, t, n, hcomp, rfl⟩ := readBme680_some.mp ⟨cal', hread⟩
  obtain ⟨hT, -⟩ := compensate_range hcomp
  simp only [compensate, Option.bind_eq_bind, Option.bind_eq_some_iff, Option.some.injEq,
    Prod.mk.injEq] at hcomp
  obtain ⟨⟨t', c⟩, ht, -, -, rfl, -⟩ := hcomp
  obtain ⟨hfits, rfl, -⟩ := calcTemp_inv ht
  refine ⟨_, hT, ?_, ?_⟩
  · rw [htemp]
    exact div_mul_cancel₀ _ (by norm_num)
  · -- the floors before `t_fine`, and the rounding behind it
    have h1 := abs_lt.mp (tempFine_error hfits)
    have h2 := abs_le.mp (round_error (tempFine (rawTemp io.data.buf) cal * 5) 7)
    have h3 : (((tempFine (rawTemp io.data.buf) cal * 5 + 2 ^ 7) >>> (7 + 1 : Nat) : Int) : ℚ) =
        ((scaled (tempFine (rawTemp io.data.buf) cal) : Int) : ℚ) := rfl
    rw [h3] at h2
    push_cast at h2
    unfold exactTemp
    rw [abs_lt]
    constructor
    · linarith
    · linarith

/-- The humidity thresholds are whole quarters of a percent, as they are at start, and as every
    request for whole percents leaves them. -/
def Quarters (cfg : Config) : Prop :=
  25 ∣ cfg.thresholdHumMax.toNat ∧ 25 ∣ cfg.thresholdHumMin.toNat

/-- **The temperature that the base node reports.** In every run of the sensor node's loop in the
    arithmetic of the machine with echoes below 65536 centimetres, once it has read the BME680, the
    driver parses the frame of every turn to a temperature within two hundredths of a degree of the
    exact formula, over the bytes of the latest reading. -/
theorem reported_temperature (hshort : ∀ t ∈ turns, t.Short)
    (hrun : run (Arith.ieee.mainStep conv) (.initial cal) turns = some (r, outs)) {j : Nat}
    {out : LoopOutput} (hj : outs[j]? = some out) {io : BmeReads}
    (hio : lastBme ((turns.take (j + 1)).map Turn.input) = some io) (data : SensorNodeData) :
    ∃ v, sensorNodeChannelGet (parseFrame data out.frame) .ambientTemp = .ok v ∧
      |toRat v - exactTemp (rawTemp io.data.buf) cal / 100| < 2 / 100 := by
  obtain ⟨s, k, k', hnear, hinv, -⟩ := rounded_turn hshort hrun hj
  obtain ⟨t, hT, hst, herr⟩ := measured_error hinv hio
  obtain ⟨v, hget, hv1, hv2⟩ := channelGet_temp (parseFrame data out.frame)
  obtain ⟨htemp, -⟩ := parse_fields data k'
  rw [← hnear.frame'] at htemp
  rw [htemp] at hv1 hv2
  have hval := (isHundredths_of_split hv1 hv2).1
  have hk : k.tempI.toInt = t := by
    have hpacked := (parse_fields data k).1
    rw [← hnear.frame] at hpacked
    have hword : (parseFrame data (shown conv s).frame).temperature =
        conv.toInt16 (s.temp * 100) := Word.int16_join _
    rw [← hpacked, hword, hst]
    obtain ⟨h1, h2⟩ := hT
    rw [conv.toInt16_eq _ (by rw [Fixed.trunc_intCast]; omega)
      (by rw [Fixed.trunc_intCast]; omega), Fixed.trunc_intCast]
  -- the field that was sent is at most one hundredth from what was measured
  have hone : |(k'.tempI.toInt : ℚ) - t| ≤ 1 := by
    have hint : |k'.tempI.toInt - t| ≤ 1 := by
      rw [← hk]
      rcases hnear.temp with h | ⟨-, h⟩
      · exact abs_le.mpr ⟨by omega, by omega⟩
      · exact abs_le.mpr ⟨by omega, by omega⟩
    exact_mod_cast hint
  refine ⟨v, hget, ?_⟩
  obtain ⟨h1, h2⟩ := abs_le.mp hone
  obtain ⟨h3, h4⟩ := abs_lt.mp herr
  unfold toRat
  rw [hval, abs_lt]
  constructor
  · linarith
  · linarith

/-- 20.05 degrees, of which the frame carries 20.04, and a visitor at a metre. -/
def evening : Turn := { edgeTurn with rx := [] }

theorem evening_short : ∀ t ∈ [evening], t.Short := by
  intro t ht e he
  obtain rfl := List.mem_singleton.mp ht
  obtain rfl := Option.some.inj he
  decide

theorem evening_run :
    ∃ r out, run (Arith.ieee.mainStep .wrapping) (.initial commonCalib) [evening] =
      some (r, [out]) ∧ Quarters out.cfg := by
  have h : (run (Arith.ieee.mainStep .wrapping) (.initial commonCalib) [evening]).map
      (fun r : LoopState × List LoopOutput => r.2.map fun o =>
        (o.cfg.thresholdHumMax, o.cfg.thresholdHumMin)) = some [(8000, 2000)] := by
    decide +kernel
  obtain ⟨⟨r, outs⟩, hrun, houts⟩ := Option.map_eq_some_iff.mp h
  obtain ⟨out, rfl, hcfg⟩ := List.map_eq_singleton_iff.mp houts
  obtain ⟨hmax, hmin⟩ := Prod.mk.inj hcfg
  refine ⟨r, out, hrun, ?_⟩
  unfold Quarters
  rw [hmax, hmin]
  decide

theorem reported_temperature_evening :
    ∃ r out v, run (Arith.ieee.mainStep .wrapping) (.initial commonCalib) [evening] =
        some (r, [out]) ∧
      sensorNodeChannelGet (parseFrame (.initial ⟨0⟩) out.frame) .ambientTemp = .ok v ∧
      |toRat v - exactTemp 480184 commonCalib / 100| < 2 / 100 := by
  obtain ⟨r, out, hrun, -⟩ := evening_run
  have hio : lastBme (([evening].take (0 + 1)).map Turn.input) = evening.bme := rfl
  obtain ⟨v, hget, hv⟩ := reported_temperature evening_short hrun (rfl : [out][0]? = some out) hio
    (.initial ⟨0⟩)
  exact ⟨r, out, v, hrun, hget, hv⟩

/-- **What the LEDs show of what was measured.** In every run of the loop in the arithmetic of the
    machine with echoes below 65536 centimetres, in every turn with thresholds in whole quarters of
    a percent in force, the alarm byte that the driver parses from the frame sets the four LEDs to
    the exact conditions on the latest readings. -/
theorem reported_panel (hshort : ∀ t ∈ turns, t.Short)
    (hrun : run (Arith.ieee.mainStep conv) (.initial cal) turns = some (r, outs)) {j : Nat}
    {out : LoopOutput} (hj : outs[j]? = some out) (hcfg : Quarters out.cfg)
    (data : SensorNodeData) :
    Panel (readings cal ((turns.take (j + 1)).map Turn.input)) (thresholds out.cfg)
      (ledsOf (parseFrame data out.frame).alarmStatus) := by
  obtain ⟨s, k, k', hnear, -, hholds⟩ := rounded_turn hshort hrun hj
  have hoff : OffEdge (shown conv s).cfg k.humI := by
    intro thr hthr _
    rw [← hnear.cfg] at hthr
    rcases hthr with rfl | rfl
    · exact Int.natCast_dvd_natCast.mpr hcfg.1
    · exact Int.natCast_dvd_natCast.mpr hcfg.2
  have halarm : (parseFrame data out.frame).alarmStatus = alarmLogic s := by
    rw [hnear.frame', (parse_fields data k').2.2.2, hnear.sent.2, (hnear.alarm hoff).1]
    rfl
  rw [halarm, hnear.cfg]
  exact panel_holds hholds

theorem reported_panel_evening :
    ∃ r out, run (Arith.ieee.mainStep .wrapping) (.initial commonCalib) [evening] =
        some (r, [out]) ∧
      Panel (readings commonCalib [evening.input]) (thresholds out.cfg)
        (ledsOf (parseFrame (.initial ⟨0⟩) out.frame).alarmStatus) := by
  obtain ⟨r, out, hrun, hcfg⟩ := evening_run
  exact ⟨r, out, hrun, reported_panel evening_short hrun (rfl : [out][0]? = some out) hcfg
    (.initial ⟨0⟩)⟩

end Turns

end HomeAlert.Link
