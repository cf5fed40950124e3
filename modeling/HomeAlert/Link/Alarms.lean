/-
  File:      HomeAlert/Link/Alarms.lean
  Subject:   ALARM BYTE, PAYLOAD AND INTERRUPT LINE AGREE, over whole runs of the sensor node.

  The loop compares the measurements themselves, the frame carries them truncated. What the base
  node parses (`parseFrame`) and what the alarm bits say therefore agree up to the boundary of a
  truncation: exactly for sound (both sides use the scaled sample), for temperature (a number of
  hundredths is sent whole) and for distance (its threshold is a natural number), and for humidity
  up to equality with the upper threshold.
-/
import HomeAlert.Link.DataLink
import HomeAlert.Node.Loop

namespace HomeAlert.Link

open Machine Base Node Fixed

/-! ## 1. The fields of a turn's frame -/

/-- The packet a turn sends. -/
def turnPacket (conv : FloatConv) (s : LoopState) : Packet where
  tempI := conv.toInt16 (s.temp * 100)
  humI := conv.toInt16 (s.hum * 100)
  sound := s.sound
  dist := conv.toUInt16 s.dist
  alarm := alarmLogic s

theorem shown_frame (conv : FloatConv) (s : LoopState) :
    (shown conv s).frame = (turnPacket conv s).bytes := rfl

section Fields

variable (conv : FloatConv) {cal : BmeCalib} {lastD : Option ℚ} {snd bme : Bool} {s : LoopState}

/-- The temperature is sent whole. -/
theorem turnPacket_temp (h : LoopInv cal lastD snd bme s) :
    (((turnPacket conv s).tempI.toInt : Int) : ℚ) = s.temp * 100 := by
  obtain ⟨t, h1, h2, h3⟩ := h.temp_eq
  have h4 : s.temp * 100 = (t : ℚ) := by
    rw [h3]
    exact div_mul_cancel₀ _ (by norm_num)
  have h5 := conv.toInt16_eq (t : ℚ) (by rw [trunc_intCast]; exact h1)
    (by rw [trunc_intCast]; omega)
  rw [trunc_intCast] at h5
  show ((conv.toInt16 (s.temp * 100)).toInt : ℚ) = s.temp * 100
  rw [h4, h5]

/-- The humidity is sent truncated, and is not negative. -/
theorem turnPacket_hum (h : LoopInv cal lastD snd bme s) :
    0 ≤ s.hum * 100 ∧ (turnPacket conv s).humI.toInt = trunc (s.hum * 100) := by
  obtain ⟨n, h1, h2, h3⟩ := h.hum_eq
  have h4 : s.hum * 100 = (n : ℚ) / 10 := by
    rw [h3]
    ring
  have h5 : (0 : ℚ) ≤ n := by exact_mod_cast h1
  have h6 : (n : ℚ) ≤ 100000 := by exact_mod_cast h2
  have h7 : 0 ≤ s.hum * 100 := by
    rw [h4]
    positivity
  have h8 : trunc (s.hum * 100) < 32768 := by
    refine (trunc_lt_iff h7 32768).mpr ?_
    rw [h4]
    push_cast
    linarith
  have h9 := trunc_nonneg h7
  exact ⟨h7, conv.toInt16_eq _ (by omega) h8⟩

/-- A distance that was measured is sent truncated. -/
theorem turnPacket_dist (h : LoopInv cal lastD snd bme s) (hpos : 0 < s.dist) :
    ((turnPacket conv s).dist.toNat : Int) = trunc s.dist := by
  rcases h.dist_range with h1 | ⟨h1, h2⟩
  · rw [h1] at hpos
    norm_num at hpos
  · refine conv.toUInt16_eq _ (trunc_nonneg h1) ?_
    exact (trunc_lt_iff h1 65536).mpr (by exact_mod_cast h2)

end Fields

/-! ## 2. Agreement -/

/-- Bit `n` of an alarm byte. -/
def bit (alarm : UInt8) (n : Nat) : Prop := alarm.toNat.testBit n = true

instance (alarm : UInt8) (n : Nat) : Decidable (bit alarm n) := inferInstanceAs (Decidable (_ = _))

/-- **What one turn shows agrees with itself and with the turns `past`** (itself the last of them):
    `f` are the fields the base node parses from the frame. -/
structure Agrees (past : List LoopInput) (out : LoopOutput) (f : SensorNodeData) : Prop where
  alarm : f.alarmStatus = out.alarm
  sound : bit out.alarm 2 ↔ soundTaken past = true ∧ f.sound > out.cfg.thresholdSound
  temp : bit out.alarm 1 ↔ bmeTaken past = true ∧ f.temperature > out.cfg.thresholdTemp
  dist : bit out.alarm 0 ↔ (∃ d, lastDist past = some d ∧ 0 < d) ∧
    (f.distance.toNat : ℚ) < out.cfg.thresholdDist
  humNone : bmeTaken past = false → ¬ bit out.alarm 4
  humSet : bmeTaken past = true →
    (f.humidity > out.cfg.thresholdHumMax ∨ f.humidity < out.cfg.thresholdHumMin) →
    bit out.alarm 4
  humOnly : bit out.alarm 4 →
    f.humidity ≥ out.cfg.thresholdHumMax ∨ f.humidity < out.cfg.thresholdHumMin
  others : out.alarm &&& 0xE8 = 0
  intr : out.intrPin = true ↔ out.cfg.irqEnabled = true ∧ out.alarm &&& out.cfg.irqMask ≠ 0

/-- A positive latest distance, read off the default. -/
theorem lastDist_pos {lastD : Option ℚ} :
    0 < lastD.getD 0 ↔ ∃ d, lastD = some d ∧ 0 < d := by
  cases lastD with
  | none => simp
  | some d => simp

/-- **A state that the history invariant describes shows alarms that agree.** -/
theorem agrees_shown (conv : FloatConv) {cal : BmeCalib} {past : List LoopInput} {s : LoopState}
    (h : LoopAt cal past s) (base : SensorNodeData) :
    Agrees past (shown conv s) (parseFrame base (shown conv s).frame) := by
  obtain ⟨b0, b1, b2, b4, bno⟩ := alarmLogic_bits s
  obtain ⟨hum0, hhum⟩ := turnPacket_hum conv h
  have htemp := turnPacket_temp conv h
  have hH := parse_humidity base (k := turnPacket conv s) (by rw [hhum]; exact trunc_nonneg hum0)
  obtain ⟨fT, fS, fD, fA⟩ := parse_fields base (turnPacket conv s)
  rw [shown_frame]
  rw [hhum] at hH
  refine ⟨fA, ?_, ?_, ?_, ?_, ?_, ?_, bno, ?_⟩
  · show (alarmLogic s).toNat.testBit 2 = true ↔ _
    rw [b2, h.soundReady, h.soundI_eq, fS]
    exact Iff.rfl
  · show (alarmLogic s).toNat.testBit 1 = true ↔ _
    rw [b1, h.bmeReady, fT]
    refine and_congr_right fun _ => ?_
    show (s.link.cfg.thresholdTemp.toInt : ℚ) / 100 < s.temp ↔
      s.link.cfg.thresholdTemp < (turnPacket conv s).tempI
    rw [div_lt_iff₀ (by norm_num), ← htemp, Int.cast_lt, Int16.lt_iff_toInt_lt]
  · show (alarmLogic s).toNat.testBit 0 = true ↔ _
    rw [b0, h.distReady, decide_eq_true_iff, ← lastDist_pos, fD]
    refine and_congr_right fun hpos => ?_
    rw [← h.dist_eq] at hpos
    obtain ⟨n, hn⟩ := h.thrDist
    have hD := turnPacket_dist conv h hpos
    show s.dist < s.link.cfg.thresholdDist ↔ _ < s.link.cfg.thresholdDist
    rw [hn, Nat.cast_lt]
    exact (received_lt_iff hpos.le hD n).symm
  · intro hno hb
    have := (b4.mp hb).1
    rw [h.bmeReady, hno] at this
    cases this
  · intro hyes hout
    refine b4.mpr ⟨by rw [h.bmeReady]; exact hyes, ?_⟩
    rcases hout with hgt | hlt
    · exact Or.inl (lt_of_lt_received hum0 hH _ (UInt16.lt_iff_toNat_lt.mp hgt))
    · exact Or.inr ((received_lt_iff hum0 hH _).mp (UInt16.lt_iff_toNat_lt.mp hlt))
  · intro hb
    rcases (b4.mp hb).2 with hgt | hlt
    · exact Or.inl (UInt16.le_iff_toNat_le.mpr (le_received_of_lt hum0 hH _ hgt))
    · exact Or.inr (UInt16.lt_iff_toNat_lt.mpr ((received_lt_iff hum0 hH _).mpr hlt))
  · show (s.link.cfg.irqEnabled && _ != 0) = true ↔ _
    rw [Bool.and_eq_true, bne_iff_ne]
    exact Iff.rfl

/-- **Alarm byte, payload and interrupt line agree in every turn of every run** of the main loop
    from its start, whatever arrives and is measured: the alarm bits say of the frame's fields, as
    the base node parses them, and of the history what `Agrees` lists, under the settings in force
    after the turn's `poll_commands`. -/
theorem loop_agrees (conv : FloatConv) (cal : BmeCalib) (is : List LoopInput)
    (his : ∀ i ∈ is, i.Valid cal) :
    ∃ s' outs, run (mainStep conv) (.initial cal) is = some (s', outs) ∧
      outs.length = is.length ∧
      ∀ (j : Nat) (out : LoopOutput), outs[j]? = some out → ∀ base : SensorNodeData,
        Agrees (is.take (j + 1)) out (parseFrame base out.frame) := by
  have h0 : LoopAt cal [] (.initial cal) := loopInv_initial cal
  obtain ⟨s', outs, h1, h2, h3⟩ := loop_run conv is his h0
  refine ⟨s', outs, h1, h2, fun j out hj base => ?_⟩
  obtain ⟨t, rfl, ht⟩ := h3 j out hj
  exact agrees_shown conv ht base

/-- A calibration record. -/
def someCalib : BmeCalib where
  parT1 := 26203
  parT2 := 26519
  parT3 := 3
  parH1 := 763
  parH2 := 1020
  parH3 := 0
  parH4 := 45
  parH5 := 20
  parH6 := 120
  parH7 := -100
  tFine := 0

/-- Two turns: a missing echo with a command that lowers the temperature threshold to 20 degrees,
    cut in two; then a distance of 49.99 cm and 21.55 degrees. -/
def twoTurns : List LoopInput :=
  [{ rx := [0xBB, 0x02, 0x07], ultra := some (-1), adc := none, bme := none },
    { rx := [0xD0, 0x66], ultra := some (4999 / 100), adc := none
      bme := some { status := [⟨1, #v[0x20]⟩, ⟨1, #v[0]⟩]
                    data := ⟨10, #v[0, 0, 0, 0, 0, 0x77, 0x00, 0x00, 0x4D, 0x00]⟩ } }]

theorem twoTurns_valid : ∀ i ∈ twoTurns, i.Valid someCalib := by
  intro i hi
  rcases List.mem_cons.mp hi with rfl | hi
  · exact ⟨fun d hd => Or.inl (Option.some.inj hd).symm, fun _ hv => (by cases hv),
      fun _ hio => (by cases hio)⟩
  · rcases List.mem_singleton.mp hi with rfl
    refine ⟨fun d hd => Or.inr ?_, fun _ hv => (by cases hv), fun io hio => ?_⟩
    · obtain rfl := Option.some.inj hd
      norm_num
    · obtain rfl := Option.some.inj hio
      exact ⟨{ temperature := 431 / 20, humidity := 37301 / 1000 },
        { someCalib with tFine := 110361 }, by decide +kernel, by norm_num, by norm_num⟩

theorem loop_agrees_twoTurns :
    ∃ s' outs, run (mainStep .wrapping) (.initial someCalib) twoTurns = some (s', outs) ∧
      outs.length = 2 ∧ ∀ out, outs[1]? = some out → ∀ base : SensorNodeData,
        Agrees twoTurns out (parseFrame base out.frame) := by
  obtain ⟨s', outs, h1, h2, h3⟩ := loop_agrees .wrapping someCalib twoTurns twoTurns_valid
  exact ⟨s', outs, h1, h2, fun out hj base => h3 1 out hj base⟩

end HomeAlert.Link
