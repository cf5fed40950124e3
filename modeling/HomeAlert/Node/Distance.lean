/-
  File:      HomeAlert/Node/Distance.lean
  Subject:   THE DISTANCE MEASUREMENT AND THE CONVERSIONS INTO THE DATA FRAME (sensor_node/main.c:
             read_distance, main, send_uart_frame).

  `read_distance` answers -1 where one of its two waits passes the deadline, and `main` converts
  the answer to `uint16_t` all the same: `dist_ready` guards the alarm, not the frame. Temperature
  and humidity cannot leave their ranges.

  * `readDistance_inRange` -- when the answer can be converted;
  * `conversions_inRange_iff` -- in every turn of every run, all three conversions are in range
    just when the latest measurement of the distance was heard in time.
-/
import HomeAlert.Node.Compensation
import HomeAlert.Node.Turns

namespace HomeAlert.Node

open Machine Fixed

/-! ## 1. read_distance -/

/-- What one `read_distance` finds, in microseconds: the clock when the deadline is set, its
    readings in the turns of the wait for the echo and of the wait for its end (one for each turn
    that found the pin unchanged), and the two readings around the echo. -/
structure Echo where
  now : Int
  low : List Int
  start : Int
  high : List Int
  stop : Int
  start_le_stop : start ≤ stop
  deriving DecidableEq, Repr

/-- A wait: whether each turn of it found the deadline still ahead. -/
def waitInTime (timeout : Int) : List Int → Bool
  | [] => true
  | t :: ts => if timeout - t < 0 then false else waitInTime timeout ts

/-- `read_distance`, in centimetres. -/
def readDistance (e : Echo) : ℚ :=
  let timeout := e.now + 30 * 1000
  if waitInTime timeout e.low = false then -1
  else if waitInTime timeout e.high = false then -1
  else (e.stop - e.start : Int) / 58

/-- A wait passed the deadline. -/
def Echo.TimedOut (e : Echo) : Prop := ∃ t, (t ∈ e.low ∨ t ∈ e.high) ∧ e.now + 30000 < t

theorem waitInTime_iff {timeout : Int} {ts : List Int} :
    waitInTime timeout ts = false ↔ ∃ t ∈ ts, timeout < t := by
  induction ts with
  | nil => simp [waitInTime]
  | cons t ts ih =>
    rw [List.exists_mem_cons_iff, ← ih]
    show (if timeout - t < 0 then false else waitInTime timeout ts) = false ↔ _
    split
    · exact iff_of_true rfl (Or.inl (by omega))
    · exact (or_iff_right (by omega)).symm

/-- **The two results of `read_distance`.** -/
theorem readDistance_cases (e : Echo) :
    (e.TimedOut ∧ readDistance e = -1) ∨
      (¬ e.TimedOut ∧ readDistance e = ((e.stop - e.start : Int) : ℚ) / 58) := by
  have hout : e.TimedOut ↔ waitInTime (e.now + 30 * 1000) e.low = false ∨
      waitInTime (e.now + 30 * 1000) e.high = false := by
    rw [waitInTime_iff, waitInTime_iff]
    constructor
    · intro h
      rcases h with ⟨t, ht | ht, hlt⟩
      · exact Or.inl ⟨t, ht, hlt⟩
      · exact Or.inr ⟨t, ht, hlt⟩
    · intro h
      rcases h with ⟨t, ht, hlt⟩ | ⟨t, ht, hlt⟩
      · exact ⟨t, Or.inl ht, hlt⟩
      · exact ⟨t, Or.inr ht, hlt⟩
  rw [hout]
  simp only [readDistance]
  split_ifs with h1 h2
  · exact Or.inl ⟨Or.inl h1, rfl⟩
  · exact Or.inl ⟨Or.inr h2, rfl⟩
  · exact Or.inr ⟨not_or.mpr ⟨h1, h2⟩, rfl⟩

/-- The echo was heard before the deadline, and is not longer than a word of centimetres. -/
def Echo.Heard (e : Echo) : Prop := ¬ e.TimedOut ∧ e.stop - e.start < 65536 * 58

/-- **The answer can be converted to `uint16_t`** just when the echo was heard. -/
theorem readDistance_inRange (e : Echo) :
    (0 ≤ trunc (readDistance e) ∧ trunc (readDistance e) < 65536) ↔ e.Heard := by
  rcases readDistance_cases e with ⟨hout, hd⟩ | ⟨hin, hd⟩
  · have hm : trunc (readDistance e) = -1 := by
      rw [hd]
      exact_mod_cast trunc_intCast (-1)
    rw [hm]
    exact iff_of_false (by omega) fun h => h.1 hout
  · have hdur : (0 : ℚ) ≤ (e.stop - e.start : Int) := by
      have := e.start_le_stop
      exact_mod_cast (by omega : 0 ≤ e.stop - e.start)
    have h0 : 0 ≤ readDistance e := by
      rw [hd]
      positivity
    have hlt : trunc (readDistance e) < 65536 ↔ e.stop - e.start < 65536 * 58 := by
      rw [trunc_lt_iff h0 65536, hd, div_lt_iff₀ (by norm_num)]
      exact_mod_cast Iff.rfl
    rw [hlt]
    exact ⟨fun h => ⟨hin, h.2⟩, fun h => ⟨trunc_nonneg h0, h.2⟩⟩

/-! ## 2. The conversions of a turn -/

/-- What a turn finds, with the echo that its `read_distance` times. -/
structure Turn where
  rx : List UInt8
  echo : Option Echo
  adc : Option UInt16
  bme : Option BmeReads
  deriving DecidableEq, Repr

/-- The turn as input of the loop. -/
def Turn.input (t : Turn) : LoopInput :=
  { rx := t.rx, ultra := t.echo.map readDistance, adc := t.adc, bme := t.bme }

/-- The latest echo that the turns timed. -/
def lastEcho (turns : List Turn) : Option Echo := (turns.filterMap (·.echo)).getLast?

theorem lastDist_input (turns : List Turn) :
    lastDist (turns.map Turn.input) = (lastEcho turns).map readDistance := by
  have h : (turns.map Turn.input).filterMap (·.ultra) =
      (turns.filterMap (·.echo)).map readDistance := by
    rw [List.filterMap_map, List.map_filterMap]
    rfl
  unfold lastDist lastEcho
  rw [h, List.getLast?_map]

/-- The truncated numbers are values of the types they are converted to. -/
structure ConversionsInRange (s : LoopState) : Prop where
  dist : 0 ≤ trunc s.dist ∧ trunc s.dist < 65536
  temp : -32768 ≤ trunc (s.temp * 100) ∧ trunc (s.temp * 100) < 32768
  hum : -32768 ≤ trunc (s.hum * 100) ∧ trunc (s.hum * 100) < 32768

/-- **Temperature and humidity are always in range**, behind every defined run. -/
theorem TurnsInv.bme_inRange {cal : BmeCalib} {past : List LoopInput} {s : LoopState}
    (h : TurnsInv cal past s) :
    (-32768 ≤ trunc (s.temp * 100) ∧ trunc (s.temp * 100) < 32768) ∧
      -32768 ≤ trunc (s.hum * 100) ∧ trunc (s.hum * 100) < 32768 := by
  rcases e : lastBme past with _ | io
  · obtain ⟨ht, hh⟩ := h.unread e
    have h0 : trunc ((0 : ℚ) * 100) = 0 := by
      rw [zero_mul]
      exact_mod_cast trunc_intCast 0
    rw [ht, hh, h0]
    omega
  · obtain ⟨data, cal', hread, ht, hh⟩ := h.read io e
    obtain ⟨-, t, n, hcomp, rfl⟩ := readBme680_some.mp ⟨cal', hread⟩
    obtain ⟨⟨h1, h2⟩, h3, h4⟩ := compensate_range hcomp
    have ht' : s.temp * 100 = (t : ℚ) := by
      rw [ht]
      exact div_mul_cancel₀ _ (by norm_num)
    have hn0 : (0 : ℚ) ≤ n := by exact_mod_cast h3
    have hn1 : (n : ℚ) ≤ 100000 := by exact_mod_cast h4
    have hh' : s.hum * 100 = (n : ℚ) / 10 := by
      rw [hh]
      ring
    have hpos : 0 ≤ (n : ℚ) / 10 := by positivity
    have hlt : trunc ((n : ℚ) / 10) < 32768 := by
      rw [trunc_lt_iff hpos 32768]
      push_cast
      linarith
    have hge := trunc_nonneg hpos
    rw [ht', hh', trunc_intCast]
    omega

/-- **When the conversions into the data frame are in range.** In every turn of every run of the
    main loop, `(uint16_t)dist` and the two `(int16_t)` conversions of `send_uart_frame` are
    applied to numbers they can represent, truncated, if and only if the latest distance
    measurement, if there was one, was heard. Then the fields of the frame are the measured
    numbers, truncated. -/
theorem conversions_inRange_iff (conv : FloatConv) (cal : BmeCalib) (turns : List Turn) (t : Turn)
    {s : LoopState} {outs : List LoopOutput}
    (hrun : run (mainStep conv) (.initial cal) ((turns ++ [t]).map Turn.input) = some (s, outs)) :
    s.dist = ((lastEcho (turns ++ [t])).map readDistance).getD 0 ∧
      (ConversionsInRange s ↔ ∀ e, lastEcho (turns ++ [t]) = some e → e.Heard) ∧
      ((∀ e, lastEcho (turns ++ [t]) = some e → e.Heard) →
        ∃ (tempI humI : Int16) (dist : UInt16),
          (outs.getLast?.map (·.frame)) =
            some (packFrame tempI humI s.sound dist (alarmLogic s)) ∧
          tempI.toInt = trunc (s.temp * 100) ∧ humI.toInt = trunc (s.hum * 100) ∧
          (dist.toNat : Int) = trunc s.dist) := by
  have hinv := turns_run hrun
  obtain ⟨htemp, hhum⟩ := hinv.bme_inRange
  have hdist := hinv.dist
  rw [lastDist_input] at hdist
  have hiff : ConversionsInRange s ↔ ∀ e, lastEcho (turns ++ [t]) = some e → e.Heard := by
    have hd : (0 ≤ trunc s.dist ∧ trunc s.dist < 65536) ↔
        ∀ e, lastEcho (turns ++ [t]) = some e → e.Heard := by
      rcases he : lastEcho (turns ++ [t]) with _ | e
      · rw [hdist, he]
        have h0 : trunc 0 = 0 := by exact_mod_cast trunc_intCast 0
        simp [h0]
      · rw [hdist, he]
        show (0 ≤ trunc (readDistance e) ∧ trunc (readDistance e) < 65536) ↔ _
        rw [readDistance_inRange]
        simp
    exact ⟨fun h => hd.mp h.dist, fun h => ⟨hd.mpr h, htemp, hhum⟩⟩
  refine ⟨hdist, hiff, fun hheard => ?_⟩
  obtain ⟨hd, ht, hh⟩ := hiff.mpr hheard
  rw [List.map_append, List.map_singleton] at hrun
  obtain ⟨s₁, o₁, o₂, -, hstep, rfl⟩ := run_concat.mp hrun
  have hout := (mainStep_cases hstep).out
  refine ⟨conv.toInt16 (s.temp * 100), conv.toInt16 (s.hum * 100), conv.toUInt16 s.dist, ?_,
    conv.toInt16_eq _ ht.1 ht.2, conv.toInt16_eq _ hh.1 hh.2, conv.toUInt16_eq _ hd.1 hd.2⟩
  rw [hout, List.getLast?_append]
  rfl

/-- An echo of 2900 microseconds, 50 cm, in the first turn. -/
theorem conversions_inRange_iff_heard :
    let t : Turn := ⟨[], some ⟨0, [12, 40], 50, [900, 2940], 2950, by decide⟩, none, none⟩
    ∃ s outs, run (mainStep .wrapping) (.initial commonCalib) (([] ++ [t]).map Turn.input) =
        some (s, outs) ∧ s.dist = 50 ∧ ConversionsInRange s := by
  intro t
  obtain ⟨s, h⟩ := mainStep_defined .wrapping (i := t.input) (turnsInv_initial commonCalib).asm
    (fun _ hio => (by cases hio))
  have hrun := (run_singleton _ _).trans h
  obtain ⟨h1, h2, -⟩ := conversions_inRange_iff .wrapping commonCalib [] t hrun
  refine ⟨s, _, hrun, h1.trans (by decide +kernel), h2.mpr fun e he => ?_⟩
  obtain rfl := Option.some.inj he
  refine ⟨?_, by decide⟩
  intro hout
  rcases hout with ⟨t, ht, hlt⟩
  simp at ht hlt
  omega

/-- **A measurement that times out**: the echo never comes, the distance is -1, and the first
    frame already converts it to `uint16_t`. -/
theorem conversions_timeout :
    let t : Turn := ⟨[], some ⟨0, [10, 30001], 30001, [], 30001, by decide⟩, none, none⟩
    ∃ s outs, run (mainStep .wrapping) (.initial commonCalib) [t.input] = some (s, outs) ∧
      s.dist = -1 ∧ trunc s.dist = -1 ∧ ¬ ConversionsInRange s := by
  intro t
  obtain ⟨s, h⟩ := mainStep_defined .wrapping (i := t.input) (turnsInv_initial commonCalib).asm
    (fun _ hio => (by cases hio))
  have hd : s.dist = -1 := (mainStep_cases h).dist.trans (by decide +kernel)
  have ht : trunc s.dist = -1 := by
    rw [hd]
    exact_mod_cast trunc_intCast (-1)
  refine ⟨s, _, (run_singleton _ _).trans h, hd, ht, fun hr => ?_⟩
  have := hr.dist.1
  omega

end HomeAlert.Node
