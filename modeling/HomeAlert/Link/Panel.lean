/-
  File:      HomeAlert/Link/Panel.lean
  Subject:   WHAT THE ALARM PANEL IS FOR: the four LEDs, as statements about readings and settings.

  `Panel` is the abstract model: which LED is lit, in terms of the latest readings of the sensors
  and the thresholds, with no byte and no flag in it. The alarm logic of the sensor node computes
  it (`panel_holds`), and over a whole run of the loop readings and thresholds are those of its
  turns and of the requests that reached it in full (`panel_run`).
-/
import HomeAlert.Base.Report
import HomeAlert.Link.Alarms
import HomeAlert.Link.CommandLink
import HomeAlert.Node.Readings
import Mathlib.Data.Nat.Bitwise

namespace HomeAlert.Link

open Machine Registers Base Node

/-! ## 1. The abstract panel -/

/-- **The panel shows the readings `R` under the thresholds `thr`.** Temperature and humidity are
    compared in hundredths, sound on the scale of the sample's upper bits. -/
structure Panel (R : Readings) (thr : SensorNodeAttr → ℚ) (leds : Leds) : Prop where
  motion : leds.motion = true ↔ ∃ d, R.dist = some d ∧ 0 < d ∧ d < thr .distThresh
  temp : leds.temp = true ↔ ∃ b, R.bme = some b ∧ thr .tempMax < b.temperature * 100
  sound : leds.sound = true ↔
    ∃ v, R.sound = some v ∧ thr .soundThresh < ((v >>> 6).toUInt8.toNat : ℚ)
  humidity : leds.humidity = true ↔
    ∃ b, R.bme = some b ∧ (thr .humMax < b.humidity * 100 ∨ b.humidity * 100 < thr .humMin)

/-- Readings and thresholds determine the panel. -/
theorem Panel.unique {R : Readings} {thr : SensorNodeAttr → ℚ} {l l' : Leds} (h : Panel R thr l)
    (h' : Panel R thr l') : l = l' := by
  obtain ⟨m, t, s, u⟩ := l
  obtain ⟨m', t', s', u'⟩ := l'
  obtain rfl : m = m' := Bool.eq_iff_iff.mpr (h.motion.trans h'.motion.symm)
  obtain rfl : t = t' := Bool.eq_iff_iff.mpr (h.temp.trans h'.temp.symm)
  obtain rfl : s = s' := Bool.eq_iff_iff.mpr (h.sound.trans h'.sound.symm)
  obtain rfl : u = u' := Bool.eq_iff_iff.mpr (h.humidity.trans h'.humidity.symm)
  rfl

/-- All four LEDs off. -/
def Leds.off : Leds := ⟨false, false, false, false⟩

/-- What the four LEDs show of an alarm byte. -/
def ledsOf (alarm : UInt8) : Leds where
  motion := alarm &&& alarmMotionBit ≠ 0
  temp := alarm &&& alarmTempBit ≠ 0
  sound := alarm &&& alarmSoundBit ≠ 0
  humidity := alarm &&& alarmHumidityBit ≠ 0

theorem ledsOf_zero : ledsOf 0 = Leds.off := rfl

/-- A report sets the LEDs to its frame's alarm byte. -/
theorem report_leds {r : Report} {v : Fields} (h : r.Of v) : r.leds = ledsOf v.alarmStatus := by
  unfold Report.leds ledsOf
  rw [h.alarm]

/-- A mask of one bit selects that bit. -/
theorem mask_iff {alarm mask : UInt8} {n : Nat} (hmask : mask.toNat = 2 ^ n) :
    alarm &&& mask ≠ 0 ↔ bit alarm n := by
  have hand : (alarm &&& mask).toNat = (alarm.toNat.testBit n).toNat * 2 ^ n := by
    rw [UInt8.toNat_and, hmask, Nat.and_two_pow]
  have hpos := Nat.two_pow_pos n
  unfold bit
  rw [Ne, ← UInt8.toNat_inj, hand]
  cases alarm.toNat.testBit n <;> simp

theorem ledsOf_iff (alarm : UInt8) :
    ((ledsOf alarm).motion = true ↔ bit alarm 0) ∧ ((ledsOf alarm).temp = true ↔ bit alarm 1) ∧
      ((ledsOf alarm).sound = true ↔ bit alarm 2) ∧
      ((ledsOf alarm).humidity = true ↔ bit alarm 4) := by
  refine ⟨?_, ?_, ?_, ?_⟩
  · exact decide_eq_true_iff.trans (mask_iff rfl)
  · exact decide_eq_true_iff.trans (mask_iff rfl)
  · exact decide_eq_true_iff.trans (mask_iff rfl)
  · exact decide_eq_true_iff.trans (mask_iff rfl)

theorem and_or_left (a b c : UInt8) : a &&& (b ||| c) = a &&& b ||| a &&& c := by
  rw [← UInt8.toNat_inj]
  exact Nat.and_or_distrib_left a.toNat b.toNat c.toNat

/-- The initial mask selects all four bits: of an alarm byte that has no other, it takes nothing. -/
theorem selected_zero_iff {alarm : UInt8} (h : alarm &&& 0xE8 = 0) :
    alarm &&& 0x17 = 0 ↔ alarm = 0 := by
  have hall : alarm = alarm &&& 0x17 := by
    calc alarm = alarm &&& -1 := UInt8.and_neg_one.symm
      _ = alarm &&& (0xE8 ||| 0x17) := rfl
      _ = alarm &&& 0x17 := by rw [and_or_left, h, UInt8.zero_or]
  rw [← hall]

/-- An alarm byte of the four bits is 0 exactly when all LEDs are off. -/
theorem ledsOf_off_iff {alarm : UInt8} (h : alarm &&& 0xE8 = 0) :
    ledsOf alarm = Leds.off ↔ alarm = 0 := by
  constructor
  · intro e
    have hnot : ∀ {mask : UInt8}, decide (alarm &&& mask ≠ 0) = false → alarm &&& mask = 0 :=
      fun hd => not_not.mp (of_decide_eq_false hd)
    have h0 := hnot (congrArg Leds.motion e)
    have h1 := hnot (congrArg Leds.temp e)
    have h2 := hnot (congrArg Leds.sound e)
    have h4 := hnot (congrArg Leds.humidity e)
    refine (selected_zero_iff h).mp ?_
    calc alarm &&& 0x17
        = alarm &&& (alarmMotionBit ||| alarmTempBit ||| alarmSoundBit ||| alarmHumidityBit) := rfl
      _ = 0 := by
        rw [and_or_left, and_or_left, and_or_left, h0, h1, h2, h4]
        rfl
  · intro e
    rw [e, ledsOf_zero]

/-! ## 2. The alarm logic computes it -/

/-- **The alarm logic shows the readings that the variables hold**, under the thresholds in
    force. -/
theorem panel_holds {R : Readings} {s : LoopState} (h : Holds R s) :
    Panel R (thresholds s.link.cfg) (ledsOf (alarmLogic s)) := by
  obtain ⟨b0, b1, b2, b4, -⟩ := alarmLogic_bits s
  obtain ⟨l0, l1, l2, l4⟩ := ledsOf_iff (alarmLogic s)
  obtain ⟨dist, sound, bme⟩ := R
  refine ⟨l0.trans (b0.trans ?_), l1.trans (b1.trans ?_), l2.trans (b2.trans ?_),
    l4.trans (b4.trans ?_)⟩
  · rw [h.distReady, h.dist]
    rcases dist with _ | d
    · simp
    · simp [thresholds]
  · rw [h.bmeReady, h.temp]
    rcases bme with _ | b
    · simp
    · simp [thresholds, div_lt_iff₀]
  · rw [h.soundReady, h.soundI]
    rcases sound with _ | v
    · simp
    · simp [thresholds, UInt8.lt_iff_toNat_lt]
  · rw [h.bmeReady, h.hum]
    rcases bme with _ | b
    · simp
    · simp [thresholds]

/-! ## 3. Settings -/

/-- What a request leaves in its threshold. -/
def Request.written (r : Request) : SensorNodeAttr × ℚ := (r.attr, r.installed)

/-- **The thresholds that the requests `rs` leave**, the initial ones where none wrote. -/
def settings (rs : List Request) : SensorNodeAttr → ℚ :=
  writes (thresholds .initial) (rs.map Request.written)

/-- **Any requests** write the thresholds as registers, and leave the interrupt settings. -/
theorem apply_written (rs : List Request) (cfg : Config) :
    thresholds (applyCommands cfg (rs.map Request.command)) =
        writes (thresholds cfg) (rs.map Request.written) ∧
      (applyCommands cfg (rs.map Request.command)).irqEnabled = cfg.irqEnabled ∧
      (applyCommands cfg (rs.map Request.command)).irqMask = cfg.irqMask := by
  induction rs generalizing cfg with
  | nil => exact ⟨rfl, rfl, rfl⟩
  | cons r rs ih =>
    obtain ⟨h1, h2, h3⟩ := apply_installed r cfg
    obtain ⟨h4, h5, h6⟩ := ih (applyCommand cfg r.command.1 r.command.2)
    rw [h1] at h4
    exact ⟨h4, h5.trans h2, h6.trans h3⟩

/-- The requests whose bytes are all among the first `n` of their stream. -/
def received (rs : List Request) (n : Nat) : List Request := rs.take (n / 5)

/-- The number of bytes that the turns `is` polled. -/
def polled (is : List LoopInput) : Nat := (is.flatMap (·.rx)).length

section Runs

variable {conv : FloatConv} {cal : BmeCalib} {is : List LoopInput} {s : LoopState}
  {outs : List LoopOutput}

/-- **The settings behind a run** whose polls cut a stream of requests: those of the requests that
    were received in full. The interrupt settings are never changed. -/
theorem settings_run (h : run (mainStep conv) (.initial cal) is = some (s, outs))
    {rs : List Request} (hrx : is.flatMap (·.rx) <+: commandStream rs) :
    thresholds s.link.cfg = settings (received rs (polled is)) ∧
      s.link.cfg.irqEnabled = true ∧ s.link.cfg.irqMask = 0x17 := by
  obtain ⟨calls, hlink⟩ := link_run h
  have hflat : (is.map (·.rx)).flatten = is.flatMap (·.rx) := List.flatMap_def.symm
  obtain ⟨link, hlink', hcfg⟩ := poll_stream (s := .initial) rfl rs (is.map (·.rx))
    (hflat ▸ hrx)
  rw [show (LoopState.initial cal).link = .initial from rfl, hlink'] at hlink
  obtain rfl : link = s.link := congrArg Prod.fst (Option.some.inj hlink)
  rw [hflat] at hcfg
  rw [hcfg]
  exact apply_written _ _

/-- **The panel behind a run**: it shows the latest readings of the turns under the settings of the
    requests received in full. -/
theorem panel_run (h : run (mainStep conv) (.initial cal) is = some (s, outs))
    {rs : List Request} (hrx : is.flatMap (·.rx) <+: commandStream rs) :
    Panel (readings cal is) (settings (received rs (polled is))) (ledsOf (alarmLogic s)) := by
  rw [← (settings_run h hrx).1]
  exact panel_holds (readings_run h)

end Runs

end HomeAlert.Link
