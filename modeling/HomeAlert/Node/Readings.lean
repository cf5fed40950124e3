/-
  File:      HomeAlert/Node/Readings.lean
  Subject:   THE LATEST READINGS, and what a whole run of the main loop leaves of what it found
             (sensor_node/main.c).

  The variables of `main` hold the latest reading of each sensor and nothing older. So a run of the
  loop is described by its turns alone: what it knows of the sensors (`readings_run`), the settings
  its polls made (`link_run`), and in each turn the alarms of the state it leaves (`shown_run`).
-/
import HomeAlert.Node.Turns

namespace HomeAlert.Node

open Machine

/-! ## 1. Readings -/

/-- The latest sample of the sound sensor in the turns `past`. -/
def lastSound (past : List LoopInput) : Option UInt16 := (past.filterMap (·.adc)).getLast?

theorem lastSound_concat (past : List LoopInput) (i : LoopInput) :
    lastSound (past ++ [i]) = i.adc.or (lastSound past) := by
  unfold lastSound
  rw [List.filterMap_append, List.getLast?_append]
  cases h : i.adc <;> simp [h]

/-- What is known of the sensors: the latest distance, sound sample and reading of the BME680. -/
structure Readings where
  dist : Option ℚ
  sound : Option UInt16
  bme : Option Bme680Data
  deriving DecidableEq, Repr

/-- The latest readings in the turns `past`. -/
def readings (cal : BmeCalib) (past : List LoopInput) : Readings where
  dist := lastDist past
  sound := lastSound past
  bme := (lastBme past).bind fun io => (readBme680 cal io).map Prod.fst

/-- **The variables of the loop hold the readings `R`**, and its flags say which there are. -/
structure Holds (R : Readings) (s : LoopState) : Prop where
  dist : s.dist = R.dist.getD 0
  distReady : s.distReady = decide (0 < R.dist.getD 0)
  sound : s.sound = R.sound.getD 0
  soundI : s.soundI = (R.sound.getD 0 >>> 6).toUInt8
  soundReady : s.soundReady = R.sound.isSome
  temp : s.temp = (R.bme.map (·.temperature)).getD 0
  hum : s.hum = (R.bme.map (·.humidity)).getD 0
  bmeReady : s.bmeReady = R.bme.isSome

theorem holds_initial (cal : BmeCalib) : Holds (readings cal []) (.initial cal) where
  dist := rfl
  distReady := rfl
  sound := rfl
  soundI := (by decide : (0 : UInt8) = ((0 : UInt16) >>> 6).toUInt8)
  soundReady := rfl
  temp := rfl
  hum := rfl
  bmeReady := rfl

/-! ## 2. One turn -/

/-- What a turn does to the variables that distance and sound are kept in. -/
theorem mainStep_sensors {conv : FloatConv} {s s' : LoopState} {i : LoopInput}
    {o : List LoopOutput} (h : mainStep conv s i = some (s', o)) :
    s'.distReady = (i.ultra.map fun d => decide (0 < d)).getD s.distReady ∧
      s'.sound = i.adc.getD s.sound ∧
      s'.soundI = (i.adc.map fun v : UInt16 => (v >>> 6).toUInt8).getD s.soundI ∧
      s'.soundReady = (i.adc.isSome || s.soundReady) := by
  simp only [mainStep, Option.bind_eq_bind, Option.bind_eq_some_iff, Option.some.injEq,
    Prod.mk.injEq] at h
  obtain ⟨⟨link, calls⟩, -, s₁, h2, rfl, -⟩ := h
  have hbme : ∀ {t t' : LoopState} {u : Option BmeReads}, t.measureBme u = some t' →
      t'.distReady = t.distReady ∧ t'.sound = t.sound ∧ t'.soundI = t.soundI ∧
        t'.soundReady = t.soundReady := by
    intro t t' u e
    rcases u with _ | io
    · obtain rfl := Option.some.inj e
      exact ⟨rfl, rfl, rfl, rfl⟩
    · simp only [LoopState.measureBme, Option.bind_eq_bind, Option.bind_eq_some_iff] at e
      obtain ⟨r, -, e⟩ := e
      cases e
      exact ⟨rfl, rfl, rfl, rfl⟩
  obtain ⟨h3, h4, h5, h6⟩ := hbme h2
  rw [h3, h4, h5, h6]
  rcases i.ultra with _ | d <;> rcases i.adc with _ | v <;> exact ⟨rfl, rfl, rfl, rfl⟩

/-- A turn that takes a reading of the BME680 holds what `read_bme680` made of it. -/
theorem readings_bme {cal : BmeCalib} {io : BmeReads} {data : Bme680Data} {cal' : BmeCalib}
    (h : readBme680 cal io = some (data, cal')) :
    ((some io).bind fun io => (readBme680 cal io).map Prod.fst) = some data := by
  rw [Option.bind_some, h]
  rfl

/-- **One turn** keeps what the variables hold up to date. -/
theorem Holds.step {conv : FloatConv} {cal : BmeCalib} {past : List LoopInput}
    {s s' : LoopState} {i : LoopInput} {o : List LoopOutput} (h : Holds (readings cal past) s)
    (hinv : TurnsInv cal past s) (hs : mainStep conv s i = some (s', o)) :
    Holds (readings cal (past ++ [i])) s' := by
  obtain ⟨hdr, hso, hsi, hsr⟩ := mainStep_sensors hs
  obtain ⟨-, -, hdist, hbme⟩ := mainStep_cases hs
  have hD : (readings cal (past ++ [i])).dist = i.ultra.or (readings cal past).dist :=
    lastDist_concat past i
  have hS : (readings cal (past ++ [i])).sound = i.adc.or (readings cal past).sound :=
    lastSound_concat past i
  have hB : s'.temp = ((readings cal (past ++ [i])).bme.map (·.temperature)).getD 0 ∧
      s'.hum = ((readings cal (past ++ [i])).bme.map (·.humidity)).getD 0 ∧
      s'.bmeReady = (readings cal (past ++ [i])).bme.isSome := by
    unfold readings
    rw [lastBme_concat]
    rcases hbme with ⟨hi, ht, hh, hb, -⟩ | ⟨io, data, cal', hi, hread, ht, hh, hb, -⟩
    · rw [hi, ht, hh, hb]
      exact ⟨h.temp, h.hum, h.bmeReady⟩
    · rw [hinv.readBme680_eq] at hread
      rw [hi, ht, hh, hb, Option.some_or, readings_bme hread]
      exact ⟨rfl, rfl, rfl⟩
  obtain ⟨htemp, hhum, hready⟩ := hB
  refine ⟨?_, ?_, ?_, ?_, ?_, htemp, hhum, hready⟩
  · rw [hD, hdist, h.dist]
    cases i.ultra <;> rfl
  · rw [hD, hdr, h.distReady]
    cases i.ultra <;> rfl
  · rw [hS, hso, h.sound]
    cases i.adc <;> rfl
  · rw [hS, hsi, h.soundI]
    cases i.adc <;> rfl
  · rw [hS, hsr, h.soundReady]
    cases i.adc <;> rfl

/-! ## 3. Runs -/

section Runs

variable {conv : FloatConv} {cal : BmeCalib} {is : List LoopInput} {s : LoopState}
  {outs : List LoopOutput}

/-- **Behind any defined run** the variables hold the latest readings of its turns. -/
theorem readings_run (h : run (mainStep conv) (.initial cal) is = some (s, outs)) :
    Holds (readings cal is) s := by
  have hboth := run_history (P := fun past s => TurnsInv cal past s ∧ Holds (readings cal past) s)
    (fun _ _ _ _ _ hinv hs => ⟨hinv.1.step hs, hinv.2.step hinv.1 hs⟩)
    ⟨turnsInv_initial cal, holds_initial cal⟩ h
  exact hboth.2

/-- **The link state behind a run** is the command parser's, over the bytes its turns polled. -/
theorem link_run {s₀ : LoopState} (h : run (mainStep conv) s₀ is = some (s, outs)) :
    ∃ calls, run pollCommands s₀.link (is.map (·.rx)) = some (s.link, calls) := by
  induction is generalizing s₀ outs with
  | nil =>
    cases h
    exact ⟨[], rfl⟩
  | cons i is ih =>
    obtain ⟨s₁, o₁, o₂, h1, h2, -⟩ := run_cons.mp h
    obtain ⟨calls₁, hpoll⟩ := (mainStep_cases h1).link
    obtain ⟨calls₂, hrest⟩ := ih h2
    exact ⟨calls₁ ++ calls₂, run_cons.mpr ⟨s₁.link, calls₁, calls₂, hpoll, hrest, rfl⟩⟩

theorem mainStep_one (conv : FloatConv) (s : LoopState) (i : LoopInput) (s' : LoopState)
    (o : List LoopOutput) (h : mainStep conv s i = some (s', o)) : o.length = 1 := by
  rw [(mainStep_cases h).out]
  rfl

/-- The first `k` turns of a run are a run. -/
theorem turns_take {s₀ : LoopState} (h : run (mainStep conv) s₀ is = some (s, outs)) (k : Nat) :
    outs.length = is.length ∧
      ∃ t, run (mainStep conv) s₀ (is.take k) = some (t, outs.take k) :=
  run_take (mainStep_one conv) h k

/-- **Each turn shows a state**: the one the run is in behind it. -/
theorem shown_run {s₀ : LoopState} (h : run (mainStep conv) s₀ is = some (s, outs)) {j : Nat}
    {out : LoopOutput} (hj : outs[j]? = some out) :
    ∃ t, run (mainStep conv) s₀ (is.take (j + 1)) = some (t, outs.take (j + 1)) ∧
      out = shown conv t := by
  obtain ⟨hlen, t, ht⟩ := turns_take h (j + 1)
  obtain ⟨hlt, -⟩ := List.getElem?_eq_some_iff.mp hj
  rw [List.take_add_one, List.getElem?_eq_getElem (hlen ▸ hlt), Option.toList_some] at ht
  obtain ⟨t₁, o₁, o₂, h1, h2, he⟩ := run_concat.mp ht
  obtain ⟨-, t₂, h3⟩ := turns_take h j
  rw [h1] at h3
  obtain rfl : o₁ = outs.take j := congrArg Prod.snd (Option.some.inj h3)
  have hout := (mainStep_cases h2).out
  rw [List.take_add_one, hj, Option.toList_some, List.append_cancel_left_eq, hout] at he
  refine ⟨t, ?_, List.singleton_inj.mp he⟩
  rw [List.take_add_one, List.getElem?_eq_getElem (hlen ▸ hlt), Option.toList_some]
  exact ht

/-- No alarm is active before the first turn. -/
theorem alarmLogic_initial (cal : BmeCalib) : alarmLogic (.initial cal) = 0 := by
  simp [alarmLogic, LoopState.initial]

/-- **The alarm byte of the newest turn** is that of the state behind the run. -/
theorem newest_alarm (h : run (mainStep conv) (.initial cal) is = some (s, outs)) :
    (outs.getLast?.map (·.alarm)).getD 0 = alarmLogic s := by
  rcases List.eq_nil_or_concat is with rfl | ⟨past, i, rfl⟩
  · cases h
    exact (alarmLogic_initial cal).symm
  · rw [List.concat_eq_append] at h
    obtain ⟨t, o₁, o₂, -, h2, rfl⟩ := run_concat.mp h
    rw [(mainStep_cases h2).out, List.getLast?_append]
    rfl

end Runs

end HomeAlert.Node
