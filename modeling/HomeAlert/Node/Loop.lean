/-
  File:      HomeAlert/Node/Loop.lean
  Subject:   THE MAIN LOOP OF THE SENSOR NODE (sensor_node/main.c: main, from the loop on).

  One step is one turn of the loop. Its input is what the turn finds outside: the bytes
  `poll_commands` can read, and for each timer that is due the measurement it makes. Its output
  is what the turn leaves outside: the frame it sends and the level of the interrupt line, together
  with the settings in force and the alarm byte.

  * `LoopInv` -- the history invariant: each variable is what the latest measurement made it, each
    `ready` flag says whether there was one, and `threshold_dist` is a natural number;
  * `mainStep_spec` -- one turn keeps it and shows the alarms of the state it leaves;
  * `loop_run` -- so does any run, turn by turn.
-/
import HomeAlert.Node.Bme680
import HomeAlert.Node.Commands
import HomeAlert.Node.Transmit

namespace HomeAlert.Node

open Machine

/-! ## 1. State, input, output -/

/-- The variables of `main` and the level of `INTR_PIN`. -/
structure LoopState where
  link : LinkState
  cal : BmeCalib
  dist : ℚ
  sound : UInt16
  temp : ℚ
  hum : ℚ
  soundI : UInt8
  distReady : Bool
  soundReady : Bool
  bmeReady : Bool
  intrPin : Bool
  deriving DecidableEq, Repr

/-- The state in which `main` enters the loop. -/
def LoopState.initial (cal : BmeCalib) : LoopState where
  link := .initial
  cal := cal
  dist := 0
  sound := 0
  temp := 0
  hum := 0
  soundI := 0
  distReady := false
  soundReady := false
  bmeReady := false
  intrPin := false

/-- What one turn finds: readable bytes, and what `read_distance`, `read_sound` and the register
    reads of `read_bme680` return where the timer is due. -/
structure LoopInput where
  rx : List UInt8
  ultra : Option ℚ
  adc : Option UInt16
  bme : Option BmeReads
  deriving DecidableEq, Repr

/-- What one turn leaves: the settings after `poll_commands`, the alarm byte, the level of the
    interrupt line and the frame sent. -/
structure LoopOutput where
  cfg : Config
  alarm : UInt8
  intrPin : Bool
  frame : Vector UInt8 10
  deriving DecidableEq, Repr

/-! ## 2. One turn -/

def LoopState.measureDist (s : LoopState) : Option ℚ → LoopState
  | none => s
  | some d => { s with dist := d, distReady := decide (0 < d) }

def LoopState.measureSound (s : LoopState) : Option UInt16 → LoopState
  | none => s
  | some v => { s with sound := v, soundI := (v >>> 6).toUInt8, soundReady := true }

def LoopState.measureBme (s : LoopState) : Option BmeReads → Option LoopState
  | none => some s
  | some io => do
      let (data, cal) ← readBme680 s.cal io
      some { s with cal := cal, temp := data.temperature, hum := data.humidity, bmeReady := true }

/-- The alarm logic of the loop. -/
def alarmLogic (s : LoopState) : UInt8 :=
  let cfg := s.link.cfg
  let alarm : UInt8 := 0
  let alarm :=
    if s.distReady ∧ s.dist < cfg.thresholdDist then alarm ||| (1 : UInt8) <<< 0 else alarm
  let alarm :=
    if s.bmeReady ∧ s.temp > (cfg.thresholdTemp.toInt : ℚ) / 100 then alarm ||| (1 : UInt8) <<< 1
    else alarm
  let alarm :=
    if s.soundReady ∧ s.soundI > cfg.thresholdSound then alarm ||| (1 : UInt8) <<< 2 else alarm
  if s.bmeReady ∧ (s.hum * 100 > (cfg.thresholdHumMax.toNat : ℚ) ∨
      s.hum * 100 < (cfg.thresholdHumMin.toNat : ℚ)) then alarm ||| (1 : UInt8) <<< 4
  else alarm

/-- The level of `INTR_PIN`. -/
def intrLevel (cfg : Config) (alarm : UInt8) : Bool := cfg.irqEnabled && alarm &&& cfg.irqMask != 0

/-- One turn of the loop. -/
def mainStep (conv : FloatConv) (s : LoopState) (i : LoopInput) :
    Option (LoopState × List LoopOutput) := do
  let (link, _) ← pollCommands s.link i.rx
  let s := { s with link := link }
  let s := s.measureDist i.ultra
  let s := s.measureSound i.adc
  let s ← s.measureBme i.bme
  let alarm := alarmLogic s
  let s := { s with intrPin := intrLevel s.link.cfg alarm }
  some (s, [{ cfg := s.link.cfg, alarm := alarm, intrPin := s.intrPin,
              frame := sendUartFrame conv s.temp s.hum s.sound (conv.toUInt16 s.dist) alarm }])

/-! ## 3. The alarm byte -/

/-- Four conditions or-ed into bits 0, 1, 2 and 4 can be read off the byte, and no other is set. -/
theorem bits_iff (p0 p1 p2 p4 : Prop) [Decidable p0] [Decidable p1] [Decidable p2] [Decidable p4] :
    let a : UInt8 := 0
    let a := if p0 then a ||| (1 : UInt8) <<< 0 else a
    let a := if p1 then a ||| (1 : UInt8) <<< 1 else a
    let a := if p2 then a ||| (1 : UInt8) <<< 2 else a
    let a := if p4 then a ||| (1 : UInt8) <<< 4 else a
    (a.toNat.testBit 0 = true ↔ p0) ∧ (a.toNat.testBit 1 = true ↔ p1) ∧
      (a.toNat.testBit 2 = true ↔ p2) ∧ (a.toNat.testBit 4 = true ↔ p4) ∧ a &&& 0xE8 = 0 := by
  by_cases h0 : p0 <;> by_cases h1 : p1 <;> by_cases h2 : p2 <;> by_cases h4 : p4 <;>
    simp only [h0, h1, h2, h4, if_true, if_false, iff_true, iff_false] <;> decide

/-- **The alarm byte, bit by bit.** -/
theorem alarmLogic_bits (s : LoopState) :
    ((alarmLogic s).toNat.testBit 0 = true ↔
      s.distReady ∧ s.dist < s.link.cfg.thresholdDist) ∧
    ((alarmLogic s).toNat.testBit 1 = true ↔
      s.bmeReady ∧ s.temp > (s.link.cfg.thresholdTemp.toInt : ℚ) / 100) ∧
    ((alarmLogic s).toNat.testBit 2 = true ↔
      s.soundReady ∧ s.soundI > s.link.cfg.thresholdSound) ∧
    ((alarmLogic s).toNat.testBit 4 = true ↔
      s.bmeReady ∧ (s.hum * 100 > (s.link.cfg.thresholdHumMax.toNat : ℚ) ∨
        s.hum * 100 < (s.link.cfg.thresholdHumMin.toNat : ℚ))) ∧
    alarmLogic s &&& 0xE8 = 0 :=
  bits_iff _ _ _ _

/-! ## 4. The history invariant -/

/-- The measurements a turn may make: a distance of `-1` (no echo) or below `65536`, a 12-bit
    sound sample, and a reading of the BME680 whose temperature fits 16 bits. -/
structure LoopInput.Valid (cal : BmeCalib) (i : LoopInput) : Prop where
  ultra : ∀ d, i.ultra = some d → d = -1 ∨ 0 ≤ d ∧ d < 65536
  adc : ∀ v, i.adc = some v → v.toNat < 4096
  bme : ∀ io, i.bme = some io → ∃ data cal', readBme680 cal io = some (data, cal') ∧
    -32768 ≤ data.temperature * 100 ∧ data.temperature * 100 ≤ 32767

/-- The latest distance reading of the turns `past`. -/
def lastDist (past : List LoopInput) : Option ℚ := (past.filterMap (·.ultra)).getLast?

/-- Whether they took a sound sample. -/
def soundTaken (past : List LoopInput) : Bool := past.any (·.adc.isSome)

/-- Whether they took a reading of the BME680. -/
def bmeTaken (past : List LoopInput) : Bool := past.any (·.bme.isSome)

/-- **The history invariant**, for what was measured so far: the latest distance, and whether
    there was a sound sample and a BME680 reading. -/
structure LoopInv (cal : BmeCalib) (lastD : Option ℚ) (snd bme : Bool) (s : LoopState) :
    Prop where
  asm : ∃ p, s.link.cs.Assembling p
  thrDist : ∃ n : Nat, s.link.cfg.thresholdDist = n
  cal_eq : s.cal = { cal with tFine := s.cal.tFine }
  dist_eq : s.dist = lastD.getD 0
  dist_range : s.dist = -1 ∨ 0 ≤ s.dist ∧ s.dist < 65536
  distReady : s.distReady = decide (0 < lastD.getD 0)
  soundReady : s.soundReady = snd
  sound_lt : s.sound.toNat < 4096
  soundI_eq : s.soundI = (s.sound >>> 6).toUInt8
  bmeReady : s.bmeReady = bme
  temp_eq : ∃ t : Int, -32768 ≤ t ∧ t ≤ 32767 ∧ s.temp = (t : ℚ) / 100
  hum_eq : ∃ n : Int, 0 ≤ n ∧ n ≤ 100000 ∧ s.hum = (n : ℚ) / 1000

theorem loopInv_initial (cal : BmeCalib) : LoopInv cal none false false (.initial cal) where
  asm := ⟨[], CmdState.assembling_idle rfl⟩
  thrDist := ⟨50, rfl⟩
  cal_eq := rfl
  dist_eq := rfl
  dist_range := Or.inr (by simp [LoopState.initial])
  distReady := rfl
  soundReady := rfl
  sound_lt := (by decide : (0 : UInt16).toNat < 4096)
  soundI_eq := (by decide : (0 : UInt8) = ((0 : UInt16) >>> 6).toUInt8)
  bmeReady := rfl
  temp_eq := ⟨0, by decide, by decide, by simp [LoopState.initial]⟩
  hum_eq := ⟨0, by decide, by decide, by simp [LoopState.initial]⟩

/-- Commands keep `threshold_dist` a natural number. -/
theorem applyCommands_thresholdDist {cfg : Config} (h : ∃ n : Nat, cfg.thresholdDist = n)
    (calls : List (UInt8 × UInt16)) : ∃ n : Nat, (applyCommands cfg calls).thresholdDist = n := by
  induction calls generalizing cfg with
  | nil => exact h
  | cons c calls ih =>
    have hc : ∃ n : Nat, (applyCommand cfg c.1 c.2).thresholdDist = n := by
      unfold applyCommand
      split
      · exact ⟨c.2.toNat, rfl⟩
      · split_ifs <;> exact h
    exact ih hc

section Phases

variable {cal : BmeCalib} {lastD : Option ℚ} {snd bme : Bool} {s : LoopState}

theorem LoopInv.poll (h : LoopInv cal lastD snd bme s) (rx : List UInt8) :
    ∃ link calls, pollCommands s.link rx = some (link, calls) ∧
      LoopInv cal lastD snd bme { s with link := link } := by
  obtain ⟨p, hp⟩ := h.asm
  obtain ⟨link, calls, h1, h2, -⟩ := poll_run hp rx
  refine ⟨link, calls, h1, { h with asm := ⟨_, h2⟩, thrDist := ?_ }⟩
  show ∃ n : Nat, link.cfg.thresholdDist = n
  rw [poll_config h1]
  exact applyCommands_thresholdDist h.thrDist calls

theorem LoopInv.measureDist (h : LoopInv cal lastD snd bme s) {u : Option ℚ}
    (hu : ∀ d, u = some d → d = -1 ∨ 0 ≤ d ∧ d < 65536) :
    LoopInv cal (u.or lastD) snd bme (s.measureDist u) := by
  cases u with
  | none => exact h
  | some d => exact { h with dist_eq := rfl, dist_range := hu d rfl, distReady := rfl }

theorem LoopInv.measureSound (h : LoopInv cal lastD snd bme s) {u : Option UInt16}
    (hu : ∀ v, u = some v → v.toNat < 4096) :
    LoopInv cal lastD (snd || u.isSome) bme (s.measureSound u) := by
  cases u with
  | none =>
    rw [Option.isSome_none, Bool.or_false]
    exact h
  | some v =>
    rw [Option.isSome_some, Bool.or_true]
    exact { h with soundReady := rfl, sound_lt := hu v rfl, soundI_eq := rfl }

theorem LoopInv.measureBme (h : LoopInv cal lastD snd bme s) {u : Option BmeReads}
    (hu : ∀ io, u = some io → ∃ data cal', readBme680 cal io = some (data, cal') ∧
      -32768 ≤ data.temperature * 100 ∧ data.temperature * 100 ≤ 32767) :
    ∃ s', s.measureBme u = some s' ∧ s'.link = s.link ∧
      LoopInv cal lastD snd (bme || u.isSome) s' := by
  cases u with
  | none =>
    rw [Option.isSome_none, Bool.or_false]
    exact ⟨s, rfl, rfl, h⟩
  | some io =>
    obtain ⟨data, cal', hread, h1, h2⟩ := hu io rfl
    obtain ⟨hcal, ⟨t, ht⟩, hhum⟩ := readBme680_spec hread
    have hread' : readBme680 s.cal io = some (data, cal') := by
      rw [h.cal_eq, readBme680_tFine, hread]
    have ht' : data.temperature * 100 = t := by
      rw [ht]
      exact div_mul_cancel₀ _ (by norm_num)
    rw [ht'] at h1 h2
    rw [Option.isSome_some, Bool.or_true]
    refine ⟨{ s with
        cal := cal', temp := data.temperature, hum := data.humidity, bmeReady := true },
      ?_, rfl, ?_⟩
    · simp only [LoopState.measureBme, hread', Option.bind_eq_bind, Option.bind_some]
    · exact { h with cal_eq := hcal, bmeReady := rfl, hum_eq := hhum,
                     temp_eq := ⟨t, by exact_mod_cast h1, by exact_mod_cast h2, ht⟩ }

end Phases

/-! ## 5. Turns and runs -/

/-- What a turn that leaves `s` shows. -/
def shown (conv : FloatConv) (s : LoopState) : LoopOutput where
  cfg := s.link.cfg
  alarm := alarmLogic s
  intrPin := intrLevel s.link.cfg (alarmLogic s)
  frame := sendUartFrame conv s.temp s.hum s.sound (conv.toUInt16 s.dist) (alarmLogic s)

/-- **One turn** keeps the history invariant, and shows the state it leaves. -/
theorem mainStep_spec (conv : FloatConv) {cal : BmeCalib} {lastD : Option ℚ} {snd bme : Bool}
    {s : LoopState} (h : LoopInv cal lastD snd bme s) {i : LoopInput} (hi : i.Valid cal) :
    ∃ s', mainStep conv s i = some (s', [shown conv s']) ∧
      LoopInv cal (i.ultra.or lastD) (snd || i.adc.isSome) (bme || i.bme.isSome) s' := by
  obtain ⟨link, calls, h1, h2⟩ := h.poll i.rx
  obtain ⟨s', h3, -, h4⟩ := ((h2.measureDist hi.ultra).measureSound hi.adc).measureBme hi.bme
  refine ⟨{ s' with intrPin := intrLevel s'.link.cfg (alarmLogic s') }, ?_, { h4 with }⟩
  simp only [mainStep, h1, h3, Option.bind_eq_bind, Option.bind_some]
  rfl

theorem lastDist_concat (past : List LoopInput) (i : LoopInput) :
    lastDist (past ++ [i]) = i.ultra.or (lastDist past) := by
  unfold lastDist
  rw [List.filterMap_append, List.getLast?_append]
  cases h : i.ultra <;> simp [h]

theorem soundTaken_concat (past : List LoopInput) (i : LoopInput) :
    soundTaken (past ++ [i]) = (soundTaken past || i.adc.isSome) := by
  simp [soundTaken]

theorem bmeTaken_concat (past : List LoopInput) (i : LoopInput) :
    bmeTaken (past ++ [i]) = (bmeTaken past || i.bme.isSome) := by
  simp [bmeTaken]

/-- The invariant behind the turns `past`. -/
def LoopAt (cal : BmeCalib) (past : List LoopInput) (s : LoopState) : Prop :=
  LoopInv cal (lastDist past) (soundTaken past) (bmeTaken past) s

theorem LoopAt.step (conv : FloatConv) {cal : BmeCalib} {past : List LoopInput} {s : LoopState}
    (h : LoopAt cal past s) {i : LoopInput} (hi : i.Valid cal) :
    ∃ s', mainStep conv s i = some (s', [shown conv s']) ∧ LoopAt cal (past ++ [i]) s' := by
  obtain ⟨s', h1, h2⟩ := mainStep_spec conv h hi
  refine ⟨s', h1, ?_⟩
  unfold LoopAt
  rw [lastDist_concat, soundTaken_concat, bmeTaken_concat]
  exact h2

/-- **Any run** is defined, and every turn of it shows a state that the invariant describes by the
    turns up to then. -/
theorem loop_run (conv : FloatConv) {cal : BmeCalib} (is : List LoopInput)
    (his : ∀ i ∈ is, i.Valid cal) {past : List LoopInput} {s : LoopState} (h : LoopAt cal past s) :
    ∃ s' outs, run (mainStep conv) s is = some (s', outs) ∧ outs.length = is.length ∧
      ∀ (j : Nat) (out : LoopOutput), outs[j]? = some out →
        ∃ t, out = shown conv t ∧ LoopAt cal (past ++ is.take (j + 1)) t := by
  induction is generalizing past s with
  | nil => exact ⟨s, [], rfl, rfl, fun j out hj => by simp at hj⟩
  | cons i is ih =>
    obtain ⟨s₁, h1, h2⟩ := h.step conv (his i List.mem_cons_self)
    obtain ⟨s', outs, h3, h4, h5⟩ := ih (fun k hk => his k (List.mem_cons_of_mem i hk)) h2
    refine ⟨s', shown conv s₁ :: outs, run_cons.mpr ⟨s₁, _, outs, h1, h3, rfl⟩, by simp [h4],
      fun j out hj => ?_⟩
    cases j with
    | zero =>
      obtain rfl : shown conv s₁ = out := by simpa using hj
      exact ⟨s₁, rfl, h2⟩
    | succ j =>
      obtain ⟨t, ht, hinv⟩ := h5 j out (by simpa using hj)
      refine ⟨t, ht, ?_⟩
      rwa [List.append_assoc, List.singleton_append] at hinv

end HomeAlert.Node
