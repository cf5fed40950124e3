/-
  File:      HomeAlert/Node/BusFailure.lean
  Subject:   WHAT THE MAIN LOOP MAKES OF A FAILED READ OF THE BME680 (sensor_node/main.c: read_reg,
             read_bme680, main).

  `read_reg` returns what `i2c_read_blocking` returned, and nothing looks at it: a turn whose reads
  fail compensates whatever the buffer holds, and sets `bme_ready`. So the readings outlive a
  failed read only where the buffer still holds the bytes that were last read.

  * `Intact` -- a turn leaves the readings and their alarms as they were, and raises none that the
    latest reading whose reads all succeeded does not give;
  * `ReadInv`, `failedRead_intact` -- every turn with a failed read is intact, in every run all of
    whose failed reads leave those bytes; and none is where nothing has been read yet;
  * `failedRead_alarm` -- otherwise it may raise both alarms.
-/
import HomeAlert.Node.Turns

namespace HomeAlert.Node

open Machine

/-! ## 1. Failed reads -/

/-- A read made by this `read_bme680` failed. -/
def BmeReads.Failed (io : BmeReads) : Prop := (∃ r ∈ io.status, r.ret < 0) ∨ io.data.ret < 0

instance (io : BmeReads) : Decidable io.Failed :=
  inferInstanceAs (Decidable ((∃ r ∈ io.status, r.ret < 0) ∨ io.data.ret < 0))

/-- **The latest reading whose reads all succeeded** in the turns `past`. -/
def lastRead (past : List LoopInput) : Option BmeReads :=
  ((past.filterMap (·.bme)).filter fun io => ¬ io.Failed).getLast?

/-- What it gives. -/
def lastData (cal : BmeCalib) (past : List LoopInput) : Option Bme680Data :=
  (lastRead past).bind fun io => (readBme680 cal io).map Prod.fst

theorem lastRead_quiet (past : List LoopInput) {i : LoopInput}
    (h : ∀ io, i.bme = some io → io.Failed) : lastRead (past ++ [i]) = lastRead past := by
  unfold lastRead
  rw [List.filterMap_append, List.filter_append]
  rcases hi : i.bme with _ | io
  · simp [hi]
  · simp [hi, h io hi]

theorem lastRead_read (past : List LoopInput) {i : LoopInput} {io : BmeReads}
    (hi : i.bme = some io) (h : ¬ io.Failed) : lastRead (past ++ [i]) = some io := by
  unfold lastRead
  rw [List.filterMap_append, List.filter_append]
  simp [hi, h]

/-! ## 2. The bytes of a measurement -/

/-- Two buffers hold the same measurement: 20 bits of temperature and 16 of humidity. -/
structure SameBytes (d e : Vector UInt8 bmeDataLen) : Prop where
  tempMsb : d[5] = e[5]
  tempLsb : d[6] = e[6]
  tempXlsb : d[7] >>> 4 = e[7] >>> 4
  humMsb : d[8] = e[8]
  humLsb : d[9] = e[9]

theorem SameBytes.refl (d : Vector UInt8 bmeDataLen) : SameBytes d d := ⟨rfl, rfl, rfl, rfl, rfl⟩

theorem SameBytes.compensate {d e : Vector UInt8 bmeDataLen} (h : SameBytes d e)
    (cal : BmeCalib) : Node.compensate cal d = Node.compensate cal e := by
  have hx : d[7].toNat >>> 4 = e[7].toNat >>> 4 := by
    simpa using congrArg UInt8.toNat h.tempXlsb
  have ht : rawTemp d = rawTemp e := by
    unfold rawTemp
    rw [h.tempMsb, h.tempLsb, hx]
  have hh : rawHum d = rawHum e := by
    unfold rawHum
    rw [h.humMsb, h.humLsb]
  unfold Node.compensate
  rw [ht, hh]

/-- **What a turn may assume of its failed reads**: an earlier turn had a reading whose reads all
    succeeded, and the buffer holds the measurement of the latest such reading. -/
def Remembered (past : List LoopInput) (i : LoopInput) : Prop :=
  ∀ io, i.bme = some io → io.Failed →
    ∃ io₀, lastRead past = some io₀ ∧ SameBytes io.data.buf io₀.data.buf

/-! ## 3. A turn with a failed read -/

/-- **The turn leaves the readings intact**: temperature, humidity and `bme_ready` are as they
    were; bits 1 and 4 of the alarm byte in its frame are those that these give under the settings
    in force; and neither is raised but by data that was read. -/
structure Kept (cal : BmeCalib) (past : List LoopInput) (s s' : LoopState) (out : LoopOutput) :
    Prop where
  temp : s'.temp = s.temp
  hum : s'.hum = s.hum
  bmeReady : s'.bmeReady = s.bmeReady
  tempAlarm : (out.frame.toList.getD 8 0).toNat.testBit 1 = true ↔
    s.bmeReady ∧ s.temp > (out.cfg.thresholdTemp.toInt : ℚ) / 100
  humAlarm : (out.frame.toList.getD 8 0).toNat.testBit 4 = true ↔
    s.bmeReady ∧ (s.hum * 100 > (out.cfg.thresholdHumMax.toNat : ℚ) ∨
      s.hum * 100 < (out.cfg.thresholdHumMin.toNat : ℚ))
  tempRead : (out.frame.toList.getD 8 0).toNat.testBit 1 = true →
    ∃ data, lastData cal past = some data ∧
      data.temperature > (out.cfg.thresholdTemp.toInt : ℚ) / 100
  humRead : (out.frame.toList.getD 8 0).toNat.testBit 4 = true →
    ∃ data, lastData cal past = some data ∧
      (data.humidity * 100 > (out.cfg.thresholdHumMax.toNat : ℚ) ∨
        data.humidity * 100 < (out.cfg.thresholdHumMin.toNat : ℚ))

def Intact (conv : FloatConv) (cal : BmeCalib) (past : List LoopInput) (s : LoopState)
    (i : LoopInput) : Prop :=
  ∃ s' out, mainStep conv s i = some (s', [out]) ∧ Kept cal past s s' out

/-! ## 4. Runs -/

/-- **Behind the turns `past`** the readings are those of the latest reading whose reads all
    succeeded. -/
structure ReadInv (cal : BmeCalib) (past : List LoopInput) (s : LoopState) : Prop where
  bmeReady : s.bmeReady = (lastRead past).isSome
  read : ∀ io, lastRead past = some io → ∃ data cal', readBme680 cal io = some (data, cal') ∧
    s.temp = data.temperature ∧ s.hum = data.humidity

theorem readInv_initial (cal : BmeCalib) : ReadInv cal [] (.initial cal) where
  bmeReady := rfl
  read := fun _ h => (by cases h)

section Steps

variable {conv : FloatConv} {cal : BmeCalib} {past : List LoopInput} {s s' : LoopState}
  {i : LoopInput} {o : List LoopOutput}

theorem ReadInv.data (h : ReadInv cal past s) (hb : s.bmeReady = true) :
    ∃ data, lastData cal past = some data ∧ s.temp = data.temperature ∧ s.hum = data.humidity := by
  obtain ⟨io, hio⟩ := Option.isSome_iff_exists.mp (h.bmeReady.symm.trans hb)
  obtain ⟨data, cal', hread, ht, hh⟩ := h.read io hio
  refine ⟨data, ?_, ht, hh⟩
  rw [lastData, hio, Option.bind_some, hread]
  rfl

/-- **A failed read over the bytes that were last read** gives what these gave. -/
theorem ReadInv.again (h : ReadInv cal past s) (hrem : Remembered past i) {io : BmeReads}
    (hi : i.bme = some io) (hfailed : io.Failed) (hloop : statusLoop io.status = true) :
    s.bmeReady = true ∧ ∃ data cal', readBme680 cal io = some (data, cal') ∧
      s.temp = data.temperature ∧ s.hum = data.humidity := by
  obtain ⟨io₀, hlast, hsame⟩ := hrem io hi hfailed
  obtain ⟨data, cal', hread, ht, hh⟩ := h.read io₀ hlast
  obtain ⟨-, t, n, hcomp, hdata⟩ := readBme680_some.mp ⟨cal', hread⟩
  obtain ⟨cal'', hread'⟩ :=
    readBme680_some.mpr ⟨hloop, t, n, (hsame.compensate cal).trans hcomp, hdata⟩
  refine ⟨?_, data, cal'', hread', ht, hh⟩
  rw [h.bmeReady, hlast, Option.isSome_some]

/-- Where nothing has been read, a reading is not intact: it sets `bme_ready`. -/
theorem ReadInv.not_intact (h : ReadInv cal past s) {io : BmeReads} (hi : i.bme = some io)
    (hnone : lastRead past = none) : ¬ Intact conv cal past s i := by
  rintro ⟨s', out, hstep, hkept⟩
  rcases (mainStep_cases hstep).bme with ⟨hno, -⟩ | ⟨_, _, _, -, -, -, -, hb, -⟩
  · cases hno.symm.trans hi
  · have hready := hkept.bmeReady
    rw [hb, h.bmeReady, hnone] at hready
    cases hready

/-- Nor is one that raises a temperature alarm. -/
theorem not_intact_of_alarm (hnone : lastRead past = none)
    (halarm : ∀ s' out, mainStep conv s i = some (s', [out]) →
      (out.frame.toList.getD 8 0).toNat.testBit 1 = true) : ¬ Intact conv cal past s i := by
  rintro ⟨s', out, hstep, hkept⟩
  obtain ⟨data, hdata, -⟩ := hkept.tempRead (halarm s' out hstep)
  rw [lastData, hnone] at hdata
  cases hdata

/-- **One turn** whose failed reads leave the bytes that were last read. -/
theorem ReadInv.step (hinv : TurnsInv cal past s) (h : ReadInv cal past s)
    (hrem : Remembered past i) (hs : mainStep conv s i = some (s', o)) :
    ReadInv cal (past ++ [i]) s' := by
  rcases (mainStep_cases hs).bme with
    ⟨hi, ht, hh, hb, -⟩ | ⟨io, data, cal', hi, hread, ht, hh, hb, -⟩
  · have hlast := lastRead_quiet past (i := i) fun io hio => by cases hi.symm.trans hio
    constructor
    · rw [hlast, hb]
      exact h.bmeReady
    · rw [hlast, ht, hh]
      exact h.read
  · rw [hinv.readBme680_eq] at hread
    by_cases hfailed : io.Failed
    · obtain ⟨hloop, -⟩ := readBme680_some.mp ⟨cal', hread⟩
      obtain ⟨hready, data₀, cal₀, hread₀, ht₀, hh₀⟩ := h.again hrem hi hfailed hloop
      obtain ⟨rfl, -⟩ := Prod.mk.inj (Option.some.inj (hread₀.symm.trans hread))
      have hlast := lastRead_quiet past (i := i) fun io' hio' => by
        obtain rfl := Option.some.inj (hi.symm.trans hio')
        exact hfailed
      constructor
      · rw [hlast, hb, ← h.bmeReady, hready]
      · rw [hlast, ht, hh, ← ht₀, ← hh₀]
        exact h.read
    · have hlast := lastRead_read past hi hfailed
      constructor
      · rw [hlast, hb, Option.isSome_some]
      · intro io' hio'
        obtain rfl := Option.some.inj (hlast.symm.trans hio')
        exact ⟨data, cal', hread, ht, hh⟩

/-- **Any run** all of whose failed reads leave them. -/
theorem read_run (h : run (mainStep conv) (.initial cal) past = some (s, o))
    (hrem : ∀ p j, p ++ [j] <+: past → Remembered p j) : ReadInv cal past s := by
  refine (run_history (P := fun is t => TurnsInv cal is t ∧
    ((∀ p j, p ++ [j] <+: is → Remembered p j) → ReadInv cal is t)) ?_
    ⟨turnsInv_initial cal, fun _ => readInv_initial cal⟩ h).2 hrem
  rintro is t j t' o' ⟨hinv, hread⟩ hs
  refine ⟨hinv.step hs, fun hall => ?_⟩
  refine (hread fun p k hp => hall p k (hp.trans (List.prefix_append is [j]))).step hinv ?_ hs
  exact hall is j (List.prefix_refl _)

end Steps

/-- **When a failed read leaves the readings intact.** In every run of the main loop all of whose
    failed reads leave in the buffer the measurement that was last read in full, each turn in
    which a read made by `read_bme680` fails is intact, if that one does as well; and it is not
    where nothing has been read in full yet. -/
theorem failedRead_intact (conv : FloatConv) (cal : BmeCalib) {past : List LoopInput}
    {s : LoopState} {outs : List LoopOutput}
    (hrun : run (mainStep conv) (.initial cal) past = some (s, outs))
    (hpast : ∀ p j, p ++ [j] <+: past → Remembered p j) {i : LoopInput} {io : BmeReads}
    (hio : i.bme = some io) (hloop : statusLoop io.status = true) (hfailed : io.Failed) :
    (Remembered past i → Intact conv cal past s i) ∧
      (lastRead past = none → ¬ Intact conv cal past s i) := by
  have hinv := turns_run hrun
  have hread := read_run hrun hpast
  constructor
  · intro hrem
    obtain ⟨hready, data, cal', hdata, ht, hh⟩ := hread.again hrem hio hfailed hloop
    obtain ⟨s', hstep⟩ := mainStep_defined conv hinv.asm fun io' hio' => by
      obtain rfl : io = io' := Option.some.inj (hio.symm.trans hio')
      exact ⟨_, (hinv.readBme680_eq io).trans hdata⟩
    rcases (mainStep_cases hstep).bme with ⟨hno, -⟩ | ⟨io', data', _, hi, hr, ht', hh', hb', -⟩
    · cases hno.symm.trans hio
    · obtain rfl : io = io' := Option.some.inj (hio.symm.trans hi)
      rw [hinv.readBme680_eq, hdata] at hr
      obtain rfl := (Prod.mk.inj (Option.some.inj hr)).1
      -- the alarms are those of the state left, which has the readings it found
      have hb := hb'.trans hready.symm
      obtain ⟨last, hlast, hlt, hlh⟩ := hread.data hready
      obtain ⟨-, b1, -, b4, -⟩ := alarmLogic_bits s'
      rw [ht'.trans ht.symm, hb] at b1
      rw [hh'.trans hh.symm, hb] at b4
      refine ⟨s', shown conv s', hstep, ht'.trans ht.symm, hh'.trans hh.symm, hb, b1, b4,
        fun h => ⟨last, hlast, ?_⟩, fun h => ⟨last, hlast, ?_⟩⟩
      · rw [← hlt]
        exact (b1.mp h).2
      · rw [← hlh]
        exact (b4.mp h).2
  · exact hread.not_intact hio

/-- A turn that reads the BME680 and nothing else. -/
def readTurn (io : BmeReads) : LoopInput := { rx := [], ultra := none, adc := none, bme := some io }

/-- A failed read that leaves the bytes of the reading before in the buffer. -/
theorem failedRead_intact_same :
    let good : BmeReads := ⟨[⟨1, #v[0]⟩], ⟨10, Vector.replicate 10 0x80⟩⟩
    let failed : BmeReads := ⟨[⟨1, #v[0]⟩], ⟨-1, Vector.replicate 10 0x80⟩⟩
    ∃ s outs, run (mainStep .wrapping) (.initial commonCalib) [readTurn good] = some (s, outs) ∧
      Intact .wrapping commonCalib [readTurn good] s (readTurn failed) := by
  intro good failed
  obtain ⟨s, h⟩ := mainStep_defined .wrapping (s := .initial commonCalib) (i := readTurn good)
    (turnsInv_initial commonCalib).asm fun io hio => by
      obtain rfl := Option.some.inj hio
      exact Option.isSome_iff_exists.mp (by decide +kernel)
  have hrun := (run_singleton _ _).trans h
  have hfirst : ∀ p j, p ++ [j] <+: [readTurn good] → Remembered p j := by
    intro p j hp io hio hfailed
    obtain ⟨rfl, rfl⟩ : p = [] ∧ j = readTurn good := by
      rcases p with _ | ⟨a, p⟩
      · exact ⟨rfl, (List.cons_prefix_cons.mp hp).1⟩
      · have := (List.cons_prefix_cons.mp hp).2.length_le
        simp at this
    obtain rfl := Option.some.inj hio
    exact absurd hfailed (by decide)
  refine ⟨s, _, hrun, (failedRead_intact .wrapping commonCalib hrun hfirst
    (show (readTurn failed).bme = some failed from rfl) rfl (Or.inr (by decide))).1 ?_⟩
  intro io hio _
  obtain rfl := Option.some.inj hio
  exact ⟨good, lastRead_read [] rfl (by decide), SameBytes.refl _⟩

/-- **Alarms from data that was never read**: in the first turn both reads fail and the buffer
    holds `0xA0` throughout; temperature and humidity alarm are raised. A second such turn leaves
    the readings as they are, and raises both again. -/
theorem failedRead_alarm :
    let failed : BmeReads := ⟨[⟨-1, #v[0]⟩], ⟨-1, Vector.replicate 10 0xA0⟩⟩
    failed.Failed ∧ statusLoop failed.status = true ∧
      ¬ Intact .wrapping commonCalib [] (.initial commonCalib) (readTurn failed) ∧
      (mainStep .wrapping (.initial commonCalib) (readTurn failed)).map
        (fun x => (x.1.bmeReady, x.1.temp, x.1.hum, x.2.map (·.alarm))) =
          some (true, 1904 / 25, 100, [0x12]) ∧
      ∀ s outs, run (mainStep .wrapping) (.initial commonCalib) [readTurn failed] = some (s, outs) →
        ¬ Intact .wrapping commonCalib [readTurn failed] s (readTurn failed) := by
  intro failed
  have hfailed : failed.Failed := Or.inr (by decide)
  have hio : (readTurn failed).bme = some failed := rfl
  refine ⟨hfailed, rfl, (readInv_initial commonCalib).not_intact hio rfl, by decide +kernel, ?_⟩
  intro s outs hrun
  have hnone : lastRead [readTurn failed] = none := lastRead_quiet [] fun io hio => by
    obtain rfl := Option.some.inj hio
    exact hfailed
  refine not_intact_of_alarm hnone fun s' out hstep => ?_
  -- both frames of the two turns carry bit 1
  have htwice := run_append_eq hrun ((run_singleton _ _).trans hstep)
  have hbits : (run (mainStep .wrapping) (.initial commonCalib)
      ([readTurn failed] ++ [readTurn failed])).map (fun r : LoopState × List LoopOutput =>
        r.2.all fun o => (o.frame.toList.getD 8 0).toNat.testBit 1) = some true := by
    decide +kernel
  rw [htwice, Option.map_some, Option.some.injEq, List.all_append, Bool.and_eq_true] at hbits
  simpa using hbits.2

end HomeAlert.Node
