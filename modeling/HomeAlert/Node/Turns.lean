/-
  File:      HomeAlert/Node/Turns.lean
  Subject:   WHAT EVERY DEFINED TURN OF THE MAIN LOOP DOES, whatever it finds (sensor_node/main.c).

  Loop.lean follows runs of valid measurements. Here nothing is assumed of the inputs: a turn is
  undefined only where the compensation overflows, and every variable behind a defined run is what
  the latest input of its kind made it.

  * `mainStep_cases` -- the one inversion of a turn: each variable after it;
  * `mainStep_defined` -- a turn is defined where its reading of the BME680 is;
  * `turns_run` -- the history of any defined run.
-/
import HomeAlert.Node.Loop

namespace HomeAlert.Node

open Machine

/-! ## 1. One turn -/

/-- **What a turn does**: the frame it sends shows the state it leaves; its commands, its distance
    and its reading of the BME680 are those of the input. -/
structure TurnEffect (conv : FloatConv) (s : LoopState) (i : LoopInput) (s' : LoopState)
    (o : List LoopOutput) : Prop where
  out : o = [shown conv s']
  link : ∃ calls, pollCommands s.link i.rx = some (s'.link, calls)
  dist : s'.dist = i.ultra.getD s.dist
  bme : (i.bme = none ∧ s'.temp = s.temp ∧ s'.hum = s.hum ∧ s'.bmeReady = s.bmeReady ∧
      s'.cal = s.cal) ∨
    ∃ io data cal', i.bme = some io ∧ readBme680 s.cal io = some (data, cal') ∧
      s'.temp = data.temperature ∧ s'.hum = data.humidity ∧ s'.bmeReady = true ∧ s'.cal = cal'

/-- The measurements before the BME680 leave the rest alone. -/
theorem measureDist_measureSound (s : LoopState) (u : Option ℚ) (v : Option UInt16) :
    let s' := (s.measureDist u).measureSound v
    s'.link = s.link ∧ s'.cal = s.cal ∧ s'.dist = u.getD s.dist ∧ s'.temp = s.temp ∧
      s'.hum = s.hum ∧ s'.bmeReady = s.bmeReady := by
  rcases u with _ | d <;> rcases v with _ | v <;> exact ⟨rfl, rfl, rfl, rfl, rfl, rfl⟩

/-- **Inversion of a turn.** -/
theorem mainStep_cases {conv : FloatConv} {s s' : LoopState} {i : LoopInput} {o : List LoopOutput}
    (h : mainStep conv s i = some (s', o)) : TurnEffect conv s i s' o := by
  simp only [mainStep, Option.bind_eq_bind, Option.bind_eq_some_iff, Option.some.injEq,
    Prod.mk.injEq] at h
  obtain ⟨⟨link, calls⟩, h1, s₁, h2, rfl, rfl⟩ := h
  obtain ⟨hl, hc, hd, ht, hh, hb⟩ :=
    measureDist_measureSound { s with link := link } i.ultra i.adc
  rcases e : i.bme with _ | io
  · rw [e] at h2
    obtain rfl := Option.some.inj h2
    exact ⟨rfl, ⟨calls, hl.symm ▸ h1⟩, hd, Or.inl ⟨e, ht, hh, hb, hc⟩⟩
  · rw [e] at h2
    simp only [LoopState.measureBme, Option.bind_eq_bind, Option.bind_eq_some_iff] at h2
    obtain ⟨⟨data, cal'⟩, h3, h4⟩ := h2
    cases h4
    rw [hc] at h3
    exact ⟨rfl, ⟨calls, hl.symm ▸ h1⟩, hd, Or.inr ⟨io, data, cal', e, h3, rfl, rfl, rfl, rfl⟩⟩

theorem measureBme_some {s : LoopState} {io : BmeReads} {data : Bme680Data} {cal' : BmeCalib}
    (h : readBme680 s.cal io = some (data, cal')) :
    s.measureBme (some io) = some { s with
      cal := cal', temp := data.temperature, hum := data.humidity, bmeReady := true } := by
  simp only [LoopState.measureBme, h, Option.bind_eq_bind, Option.bind_some]

/-- **A turn is defined** where its reading is: the parser always is. -/
theorem mainStep_defined (conv : FloatConv) {s : LoopState} (hasm : ∃ p, s.link.cs.Assembling p)
    {i : LoopInput} (hbme : ∀ io, i.bme = some io → ∃ r, readBme680 s.cal io = some r) :
    ∃ s', mainStep conv s i = some (s', [shown conv s']) := by
  obtain ⟨p, hp⟩ := hasm
  obtain ⟨link, calls, h1, -⟩ := poll_run hp i.rx
  obtain ⟨-, hc, -⟩ := measureDist_measureSound { s with link := link } i.ultra i.adc
  obtain ⟨s₁, h2⟩ : ∃ s₁, ((({ s with link := link } : LoopState).measureDist
      i.ultra).measureSound i.adc).measureBme i.bme = some s₁ := by
    rcases e : i.bme with _ | io
    · exact ⟨_, rfl⟩
    · obtain ⟨⟨data, cal'⟩, h3⟩ := hbme io e
      exact ⟨_, measureBme_some (hc.symm ▸ h3)⟩
  refine ⟨{ s₁ with intrPin := intrLevel s₁.link.cfg (alarmLogic s₁) }, ?_⟩
  simp only [mainStep, h1, h2, Option.bind_eq_bind, Option.bind_some]
  rfl

/-! ## 2. The history of a run -/

/-- The latest reading of the BME680 in the turns `past`. -/
def lastBme (past : List LoopInput) : Option BmeReads := (past.filterMap (·.bme)).getLast?

theorem lastBme_concat (past : List LoopInput) (i : LoopInput) :
    lastBme (past ++ [i]) = i.bme.or (lastBme past) := by
  unfold lastBme
  rw [List.filterMap_append, List.getLast?_append]
  cases h : i.bme <;> simp [h]

/-- **Behind the turns `past`**, whatever they found: the parser is assembling, and distance,
    temperature and humidity are those of the latest input of their kind. -/
structure TurnsInv (cal : BmeCalib) (past : List LoopInput) (s : LoopState) : Prop where
  asm : ∃ p, s.link.cs.Assembling p
  cal_eq : s.cal = { cal with tFine := s.cal.tFine }
  dist : s.dist = (lastDist past).getD 0
  bmeReady : s.bmeReady = (lastBme past).isSome
  unread : lastBme past = none → s.temp = 0 ∧ s.hum = 0
  read : ∀ io, lastBme past = some io → ∃ data cal', readBme680 cal io = some (data, cal') ∧
    s.temp = data.temperature ∧ s.hum = data.humidity

theorem turnsInv_initial (cal : BmeCalib) : TurnsInv cal [] (.initial cal) where
  asm := ⟨[], CmdState.assembling_idle rfl⟩
  cal_eq := rfl
  dist := rfl
  bmeReady := rfl
  unread := fun _ => ⟨rfl, rfl⟩
  read := fun _ h => (by cases h)

/-- The calibration registers of the state are those the loop started with. -/
theorem TurnsInv.readBme680_eq {cal : BmeCalib} {past : List LoopInput} {s : LoopState}
    (h : TurnsInv cal past s) (io : BmeReads) : readBme680 s.cal io = readBme680 cal io := by
  rw [h.cal_eq, readBme680_tFine]

theorem TurnsInv.step {conv : FloatConv} {cal : BmeCalib} {past : List LoopInput}
    {s s' : LoopState} {i : LoopInput} {o : List LoopOutput} (h : TurnsInv cal past s)
    (hs : mainStep conv s i = some (s', o)) : TurnsInv cal (past ++ [i]) s' := by
  obtain ⟨-, ⟨calls, hpoll⟩, hdist, hbme⟩ := mainStep_cases hs
  obtain ⟨p, hp⟩ := h.asm
  obtain ⟨link, calls', h1, h2, -⟩ := poll_run hp i.rx
  obtain ⟨rfl, -⟩ : link = s'.link ∧ calls' = calls := by
    rw [hpoll] at h1
    exact ⟨(congrArg Prod.fst (Option.some.inj h1)).symm,
      (congrArg Prod.snd (Option.some.inj h1)).symm⟩
  have hd : s'.dist = (lastDist (past ++ [i])).getD 0 := by
    rw [hdist, lastDist_concat, h.dist]
    cases i.ultra <;> rfl
  rcases hbme with ⟨hi, ht, hh, hb, hc⟩ | ⟨io, data, cal', hi, hread, ht, hh, hb, hc⟩
  · refine ⟨⟨_, h2⟩, by rw [hc]; exact h.cal_eq, hd, ?_, ?_, ?_⟩
    · rw [lastBme_concat, hi, hb]
      exact h.bmeReady
    · rw [lastBme_concat, hi, ht, hh]
      exact h.unread
    · rw [lastBme_concat, hi, ht, hh]
      exact h.read
  · rw [h.readBme680_eq] at hread
    refine ⟨⟨_, h2⟩, ?_, hd, ?_, ?_, ?_⟩
    · rw [hc]
      exact (readBme680_spec hread).1
    · rw [lastBme_concat, hi, hb]
      rfl
    · intro hnone
      rw [lastBme_concat, hi] at hnone
      cases hnone
    · intro io' hio'
      rw [lastBme_concat, hi] at hio'
      obtain rfl := Option.some.inj hio'
      exact ⟨data, cal', hread, ht, hh⟩

/-- **Any defined run** from the start of the loop. -/
theorem turns_run {conv : FloatConv} {cal : BmeCalib} {is : List LoopInput} {s : LoopState}
    {outs : List LoopOutput} (h : run (mainStep conv) (.initial cal) is = some (s, outs)) :
    TurnsInv cal is s :=
  run_history (P := TurnsInv cal) (fun _ _ _ _ _ hinv hs => hinv.step hs) (turnsInv_initial cal) h

end HomeAlert.Node
