/-
  File:      HomeAlert/Node/Schedule.lean
  Subject:   THE TIMERS OF THE MAIN LOOP (sensor_node/main.c: t_ultra, t_sound, t_bme, sleep_ms).

  Loop.lean leaves open when a timer is due. Here a turn reads the clock as the source does: before
  each sensor to compare it with the timer, and behind the measurement to set the timer anew. Of
  the clock only this is known: it never goes back, and `sleep_ms(500)` lies between two turns.

  * `timedStep_eq` -- the timed turn refines `mainStep`, whatever the clock says;
  * `schedule_run` -- when each sensor is read: distance and sound in every turn but the first, the
    BME680 in any six turns, and never twice within three seconds;
  * `frames_fresh` -- so the frame of every turn but the first carries distance and sound of that
    very turn, and from the seventh on the BME680's of the last six turns.
-/
import HomeAlert.Library.Timer
import HomeAlert.Node.Readings
import Mathlib.Algebra.Order.Ring.Nat

namespace HomeAlert.Node

open Machine Timer

/-! ## 1. The clock -/

def distInterval : Nat := 500
def bmeInterval : Nat := 3000
def soundInterval : Nat := 200

/-- `absolute_time_diff_us`, of two readings of the clock in microseconds. -/
def absoluteTimeDiffUs (start finish : Nat) : Int := (finish : Int) - (start : Int)

/-- `make_timeout_time_ms`, when the clock reads `now`. -/
def makeTimeoutTimeMs (now ms : Nat) : Nat := now + ms * 1000

/-- The three timers. -/
structure Timers where
  ultra : Nat
  sound : Nat
  bme : Nat
  deriving DecidableEq, Repr

/-- The timers as `main` sets them before the loop, from three readings of the clock. -/
def Timers.initial (n₁ n₂ n₃ : Nat) : Timers where
  ultra := makeTimeoutTimeMs n₁ distInterval
  sound := makeTimeoutTimeMs n₂ soundInterval
  bme := makeTimeoutTimeMs n₃ bmeInterval

/-- What the clock reads in a turn: for each sensor at the check and, if it is due, behind its
    measurement. -/
structure Clock where
  ultra : Poll Nat
  sound : Poll Nat
  bme : Poll Nat
  deriving DecidableEq, Repr

/-- What a turn finds: the clock, readable bytes, and what each sensor would give. -/
structure TimedInput where
  clock : Clock
  rx : List UInt8
  dist : ℚ
  adc : UInt16
  bme : BmeReads
  deriving DecidableEq, Repr

/-! ## 2. One turn -/

/-- The three checks of a turn: where a timer is due, the sensor is read and the timer set anew. -/
def checkUltra (i : TimedInput) (s : LoopState × Timers) : LoopState × Timers :=
  if absoluteTimeDiffUs i.clock.ultra.check s.2.ultra ≤ 0 then
    (s.1.measureDist (some i.dist),
      { s.2 with ultra := makeTimeoutTimeMs i.clock.ultra.arm distInterval })
  else s

def checkSound (i : TimedInput) (s : LoopState × Timers) : LoopState × Timers :=
  if absoluteTimeDiffUs i.clock.sound.check s.2.sound ≤ 0 then
    (s.1.measureSound (some i.adc),
      { s.2 with sound := makeTimeoutTimeMs i.clock.sound.arm soundInterval })
  else s

def checkBme (i : TimedInput) (s : LoopState × Timers) : Option (LoopState × Timers) :=
  if absoluteTimeDiffUs i.clock.bme.check s.2.bme ≤ 0 then
    (s.1.measureBme (some i.bme)).map fun l =>
      (l, { s.2 with bme := makeTimeoutTimeMs i.clock.bme.arm bmeInterval })
  else some s

/-- One turn of the loop with its timers. -/
def timedStep (conv : FloatConv) (s : LoopState × Timers) (i : TimedInput) :
    Option ((LoopState × Timers) × List LoopOutput) := do
  let (link, _) ← pollCommands s.1.link i.rx
  let s := ({ s.1 with link := link }, s.2)
  let (l, t) ← checkBme i (checkSound i (checkUltra i s))
  let alarm := alarmLogic l
  let l := { l with intrPin := intrLevel l.link.cfg alarm }
  some ((l, t), [{ cfg := l.link.cfg, alarm := alarm, intrPin := l.intrPin,
                   frame := sendUartFrame conv l.temp l.hum l.sound (conv.toUInt16 l.dist) alarm }])

/-- The timers behind a turn, each a polled timer of its own. -/
def Timers.next (t : Timers) (c : Clock) : Timers where
  ultra := Timer.next (distInterval * 1000) t.ultra c.ultra
  sound := Timer.next (soundInterval * 1000) t.sound c.sound
  bme := Timer.next (bmeInterval * 1000) t.bme c.bme

/-- What a turn measures: what is due. -/
def TimedInput.found (t : Timers) (i : TimedInput) : LoopInput where
  rx := i.rx
  ultra := if fires t.ultra i.clock.ultra then some i.dist else none
  adc := if fires t.sound i.clock.sound then some i.adc else none
  bme := if fires t.bme i.clock.bme then some i.bme else none

/-- The comparison of the source: the timer fires. -/
theorem due_iff (p : Poll Nat) (t : Nat) : absoluteTimeDiffUs p.check t ≤ 0 ↔ fires t p = true := by
  unfold absoluteTimeDiffUs fires
  rw [decide_eq_true_iff]
  omega

theorem checkUltra_eq (i : TimedInput) (l : LoopState) (t : Timers) :
    checkUltra i (l, t) =
      (l.measureDist (i.found t).ultra, { t with ultra := (t.next i.clock).ultra }) := by
  unfold checkUltra TimedInput.found Timers.next Timer.next
  by_cases h : fires t.ultra i.clock.ultra = true
  · rw [if_pos ((due_iff _ _).mpr h), if_pos h, if_pos h]
    rfl
  · rw [if_neg (mt (due_iff _ _).mp h), if_neg h, if_neg h]
    rfl

theorem checkSound_eq (i : TimedInput) (l : LoopState) (t : Timers) :
    checkSound i (l, t) =
      (l.measureSound (i.found t).adc, { t with sound := (t.next i.clock).sound }) := by
  unfold checkSound TimedInput.found Timers.next Timer.next
  by_cases h : fires t.sound i.clock.sound = true
  · rw [if_pos ((due_iff _ _).mpr h), if_pos h, if_pos h]
    rfl
  · rw [if_neg (mt (due_iff _ _).mp h), if_neg h, if_neg h]
    rfl

theorem checkBme_eq (i : TimedInput) (l : LoopState) (t : Timers) :
    checkBme i (l, t) =
      (l.measureBme (i.found t).bme).map fun l => (l, { t with bme := (t.next i.clock).bme }) := by
  unfold checkBme TimedInput.found Timers.next Timer.next
  by_cases h : fires t.bme i.clock.bme = true
  · rw [if_pos ((due_iff _ _).mpr h), if_pos h, if_pos h]
    rfl
  · rw [if_neg (mt (due_iff _ _).mp h), if_neg h, if_neg h]
    rfl

/-- The three checks, one after the other: no timer waits for another. -/
theorem checks_eq (i : TimedInput) (l : LoopState) (t : Timers) :
    checkBme i (checkSound i (checkUltra i (l, t))) =
      (((l.measureDist (i.found t).ultra).measureSound (i.found t).adc).measureBme
        (i.found t).bme).map fun l => (l, t.next i.clock) := by
  rw [checkUltra_eq, checkSound_eq, checkBme_eq]
  rfl

/-- **The timed turn refines `mainStep`**: it is the turn that finds what is due. -/
theorem timedStep_eq (conv : FloatConv) (s : LoopState × Timers) (i : TimedInput) :
    timedStep conv s i =
      (mainStep conv s.1 (i.found s.2)).map fun r => ((r.1, s.2.next i.clock), r.2) := by
  obtain ⟨l, t⟩ := s
  simp only [timedStep, mainStep, checks_eq]
  rw [show (i.found t).rx = i.rx from rfl]
  cases pollCommands l.link i.rx with
  | none => rfl
  | some r =>
    simp only [Option.bind_eq_bind, Option.bind_some]
    cases ((({ l with link := r.1 } : LoopState).measureDist
        (i.found t).ultra).measureSound (i.found t).adc).measureBme (i.found t).bme with
    | none => rfl
    | some l' => rfl

/-! ## 3. Runs -/

/-- What the turns of a run measure. -/
def measured : Timers → List TimedInput → List LoopInput
  | _, [] => []
  | t, i :: is => i.found t :: measured (t.next i.clock) is

/-- **A timed run is a run of `mainStep`** over what is due. -/
theorem timed_run {conv : FloatConv} {is : List TimedInput} : ∀ {s s' : LoopState × Timers}
    {outs : List LoopOutput}, run (timedStep conv) s is = some (s', outs) →
      run (mainStep conv) s.1 (measured s.2 is) = some (s'.1, outs) := by
  induction is with
  | nil =>
    intro s s' outs h
    cases h
    rfl
  | cons i is ih =>
    intro s s' outs h
    obtain ⟨s₁, o₁, o₂, h1, h2, rfl⟩ := run_cons.mp h
    rw [timedStep_eq] at h1
    obtain ⟨⟨l, o⟩, h3, e⟩ := Option.map_eq_some_iff.mp h1
    cases e
    exact run_cons.mpr ⟨l, o, o₂, h3, ih h2, rfl⟩

/-- **The measurements of turn `j`** are those whose timer fires there. -/
theorem measured_get {is : List TimedInput} : ∀ {t : Timers} {j : Nat} {i : TimedInput},
    is[j]? = some i → ∃ x u a b, (measured t is)[j]? = some x ∧ x.rx = i.rx ∧
      (firings (distInterval * 1000) t.ultra (is.map (·.clock.ultra)))[j]? = some u ∧
      x.ultra = (if u then some i.dist else none) ∧
      (firings (soundInterval * 1000) t.sound (is.map (·.clock.sound)))[j]? = some a ∧
      x.adc = (if a then some i.adc else none) ∧
      (firings (bmeInterval * 1000) t.bme (is.map (·.clock.bme)))[j]? = some b ∧
      x.bme = (if b then some i.bme else none) := by
  induction is with
  | nil => exact fun h => by simp at h
  | cons k is ih =>
    intro t j i hj
    rcases j with _ | j
    · obtain rfl : k = i := by simpa using hj
      exact ⟨k.found t, _, _, _, rfl, rfl, rfl, rfl, rfl, rfl, rfl, rfl⟩
    · exact ih (t := t.next k.clock) (by simpa using hj)

/-- **The clock of a run**, the first turn of which begins at `t` or later: it never goes back,
    and a turn begins half a second behind the end of the one before it. -/
def Runs : Nat → List Clock → Prop
  | _, [] => True
  | t, c :: cs =>
      t ≤ c.ultra.check ∧ c.ultra.check ≤ c.ultra.arm ∧ c.ultra.arm ≤ c.sound.check ∧
        c.sound.check ≤ c.sound.arm ∧ c.sound.arm ≤ c.bme.check ∧ c.bme.check ≤ c.bme.arm ∧
        Runs (c.bme.arm + 500 * 1000) cs

instance decidableRuns : (t : Nat) → (cs : List Clock) → Decidable (Runs t cs)
  | _, [] => .isTrue trivial
  | _, c :: cs =>
      have : Decidable (Runs (c.bme.arm + 500 * 1000) cs) := decidableRuns _ cs
      inferInstanceAs (Decidable (_ ∧ _))

/-- Each timer is polled twice a second at most. -/
theorem Runs.spaced {cs : List Clock} : ∀ {t : Nat}, Runs t cs → ∀ {t₁ t₂ t₃ : Nat}, t₁ ≤ t →
    t₂ ≤ t → t₃ ≤ t → Spaced (500 * 1000) t₁ (cs.map (·.ultra)) ∧
      Spaced (500 * 1000) t₂ (cs.map (·.sound)) ∧ Spaced (500 * 1000) t₃ (cs.map (·.bme)) := by
  induction cs with
  | nil => exact fun _ _ _ _ _ _ _ => ⟨trivial, trivial, trivial⟩
  | cons c cs ih =>
    intro _ h t₁ t₂ t₃ h₁ h₂ h₃
    obtain ⟨hu, hua, hs, hsa, hb, hba, hrest⟩ := h
    obtain ⟨i₁, i₂, i₃⟩ := @ih _ hrest (c.ultra.arm + 500 * 1000) (c.sound.arm + 500 * 1000)
      (c.bme.arm + 500 * 1000) (by omega) (by omega) (Nat.le_refl _)
    have hsound := hu.trans (hua.trans hs)
    have hbme := hsound.trans (hsa.trans hb)
    exact ⟨⟨h₁.trans hu, hua, i₁⟩, ⟨h₂.trans hsound, hsa, i₂⟩, ⟨h₃.trans hbme, hba, i₃⟩⟩

/-! ## 4. When each sensor is read -/

/-- **What the turns `xs` of a timed run find** of its inputs `is`. -/
structure Scheduled (is : List TimedInput) (xs : List LoopInput) : Prop where
  /-- Each turn polls what it finds; each but the first measures distance and sound. -/
  found : ∀ (j : Nat) (i : TimedInput), is[j]? = some i → ∃ x, xs[j]? = some x ∧ x.rx = i.rx ∧
    (0 < j → x.ultra = some i.dist ∧ x.adc = some i.adc) ∧ (x.bme = none ∨ x.bme = some i.bme)
  /-- Six turns behind another contain a reading of the BME680. -/
  often : ∀ j : Nat, j + 6 < is.length → ∃ k x, j < k ∧ k ≤ j + 6 ∧ xs[k]? = some x ∧
    x.bme.isSome = true
  /-- Two readings are three seconds apart. -/
  seldom : ∀ (j k : Nat) (i i' : TimedInput) (x x' : LoopInput), j < k → is[j]? = some i →
    is[k]? = some i' → xs[j]? = some x → xs[k]? = some x' → x.bme.isSome = true →
    x'.bme.isSome = true → i.clock.bme.arm + bmeInterval * 1000 ≤ i'.clock.bme.check
  /-- Where none is made the last is less than three seconds old. -/
  young : ∀ (j k : Nat) (i i' : TimedInput) (x : LoopInput), j < k → is[j]? = some i →
    is[k]? = some i' → xs[j]? = some x → x.bme.isSome = true →
    (∀ m y, j < m → m ≤ k → xs[m]? = some y → y.bme = none) →
    i'.clock.bme.check < i.clock.bme.arm + bmeInterval * 1000

section Measured

variable {is : List TimedInput} {t : Timers}

/-- A turn reads the BME680 exactly where its timer fires. -/
theorem measured_bme {j : Nat} {i : TimedInput} {x : LoopInput} (hi : is[j]? = some i)
    (hx : (measured t is)[j]? = some x) :
    (firings (bmeInterval * 1000) t.bme (is.map (·.clock.bme)))[j]? = some x.bme.isSome := by
  obtain ⟨y, -, -, b, hy, -, -, -, -, -, hb, hbme⟩ := measured_get (t := t) hi
  obtain rfl : y = x := Option.some.inj (hy.symm.trans hx)
  rw [hb, hbme]
  cases b <;> rfl

theorem clock_get {j : Nat} {i : TimedInput} (hi : is[j]? = some i) :
    (is.map (·.clock.bme))[j]? = some i.clock.bme := by
  rw [List.getElem?_map, hi]
  rfl

/-- **The schedule**: it follows from the three timers and the half second between two turns. -/
theorem scheduled {n₁ n₂ n₃ : Nat} (h₁ : n₁ ≤ n₂) (h₂ : n₂ ≤ n₃)
    (hclock : Runs n₃ (is.map (·.clock))) :
    Scheduled is (measured (.initial n₁ n₂ n₃) is) := by
  obtain ⟨hU, hS, hB⟩ := hclock.spaced (Nat.le_refl n₃) (Nat.le_refl n₃) (Nat.le_refl n₃)
  rw [List.map_map] at hU hS hB
  have hlen : ∀ {α : Type} (f : TimedInput → α), (is.map f).length = is.length :=
    fun f => List.length_map f
  refine ⟨?_, ?_, ?_, ?_⟩
  · intro j i hi
    obtain ⟨x, u, a, b, hx, hrx, hu, hux, ha, hax, -, hbx⟩ :=
      measured_get (t := .initial n₁ n₂ n₃) hi
    obtain ⟨hlt, -⟩ := List.getElem?_eq_some_iff.mp hi
    refine ⟨x, hx, hrx, fun hj => ⟨?_, ?_⟩, ?_⟩
    · obtain ⟨k, hk1, hk2, hk⟩ := fires_within (n := 1) (Nat.zero_le _) Nat.one_pos
        (Nat.le_of_eq (one_nsmul _).symm) hU (Nat.le_refl (n₁ + distInterval * 1000))
        (h₁.trans h₂) (j := j - 1) (by rw [hlen]; omega)
      obtain rfl : k = j := by omega
      obtain rfl : u = true := Option.some.inj (hu.symm.trans hk)
      exact hux
    · obtain ⟨k, hk1, hk2, hk⟩ := fires_within (n := 1) (Nat.zero_le _) Nat.one_pos
        (le_trans (by decide) (Nat.le_of_eq (one_nsmul _).symm)) hS
        (Nat.le_refl (n₂ + soundInterval * 1000)) h₂ (j := j - 1) (by rw [hlen]; omega)
      obtain rfl : k = j := by omega
      obtain rfl : a = true := Option.some.inj (ha.symm.trans hk)
      exact hax
    · cases b
      · exact Or.inl hbx
      · exact Or.inr hbx
  · intro j hj
    obtain ⟨k, hk1, hk2, hk⟩ := fires_within (n := 6) (Nat.zero_le _) (by decide)
      (by decide : bmeInterval * 1000 ≤ 6 • (500 * 1000)) hB
      (Nat.le_refl (n₃ + bmeInterval * 1000)) (Nat.le_refl n₃) (j := j) (by rw [hlen]; omega)
    obtain ⟨i, hi⟩ : ∃ i, is[k]? = some i := ⟨_, List.getElem?_eq_getElem (by omega)⟩
    obtain ⟨x, -, -, b, hx, -, -, -, -, -, hb, hbx⟩ :=
      measured_get (t := .initial n₁ n₂ n₃) hi
    obtain rfl : b = true := Option.some.inj (hb.symm.trans hk)
    exact ⟨k, x, hk1, hk2, hx, by rw [hbx]; rfl⟩
  · intro j k i i' x x' hjk hi hi' hx hx' hread hread'
    have hj := measured_bme hi hx
    have hk := measured_bme hi' hx'
    rw [hread] at hj
    rw [hread'] at hk
    exact fires_apart (Nat.zero_le _) hB hjk (clock_get hi) (clock_get hi') hj hk
  · intro j k i i' x hjk hi hi' hx hread hnone
    have hj := measured_bme hi hx
    rw [hread] at hj
    refine silent_age hjk (clock_get hi) (clock_get hi') hj fun m hm1 hm2 => ?_
    obtain ⟨hlt, -⟩ := List.getElem?_eq_some_iff.mp hi'
    obtain ⟨i'', hi''⟩ : ∃ i'', is[m]? = some i'' := ⟨_, List.getElem?_eq_getElem (by omega)⟩
    obtain ⟨y, -, -, -, hy, -⟩ := measured_get (t := .initial n₁ n₂ n₃) hi''
    have hm := measured_bme hi'' hy
    rw [hnone m y hm1 hm2 hy] at hm
    exact hm

end Measured

/-- **When each sensor is read.** In every run of the loop from its start, on a clock that never
    goes back, with half a second between two turns, what the turns measure is on schedule: every
    turn but the first measures distance and sound (so `SOUND_INTERVAL` matters in the first only),
    any six turns behind another contain a reading of the BME680, two such readings are three
    seconds apart, and where none is made the last one is younger. -/
theorem schedule_run (conv : FloatConv) (cal : BmeCalib) (n₁ n₂ n₃ : Nat) (h₁ : n₁ ≤ n₂)
    (h₂ : n₂ ≤ n₃) (is : List TimedInput) (hclock : Runs n₃ (is.map (·.clock))) (s : LoopState)
    (t : Timers) (outs : List LoopOutput)
    (hrun : run (timedStep conv) (.initial cal, .initial n₁ n₂ n₃) is = some ((s, t), outs)) :
    run (mainStep conv) (.initial cal) (measured (.initial n₁ n₂ n₃) is) = some (s, outs) ∧
      Scheduled is (measured (.initial n₁ n₂ n₃) is) :=
  ⟨timed_run hrun, scheduled h₁ h₂ hclock⟩

/-- Turn `n` of a loop that does nothing but sleep: somebody stands at 40 cm, and the BME680 would
    read 21 degrees. -/
def steadyTurn (n : Nat) : TimedInput where
  clock := ⟨⟨n * 500000 + 3, n * 500000 + 3⟩, ⟨n * 500000 + 3, n * 500000 + 3⟩,
    ⟨n * 500000 + 3, n * 500000 + 3⟩⟩
  rx := []
  dist := 40
  adc := 1000
  bme := { status := [⟨1, .replicate 1 0x20⟩, ⟨1, .replicate 1 0⟩]
           data := ⟨10, ((Vector.replicate 10 0).setIfInBounds 5 0x77).setIfInBounds 8 0x4D⟩ }

/-- Eight such turns. -/
def steadyTurns : List TimedInput := (List.range 8).map steadyTurn

theorem steadyTurns_run : ∃ s t outs, run (timedStep .wrapping)
    (.initial commonCalib, .initial 1 2 3) steadyTurns = some ((s, t), outs) := by
  have h : (run (timedStep .wrapping) (.initial commonCalib, .initial 1 2 3)
      steadyTurns).isSome = true := by decide +kernel
  obtain ⟨⟨⟨s, t⟩, outs⟩, hrun⟩ := Option.isSome_iff_exists.mp h
  exact ⟨s, t, outs, hrun⟩

theorem schedule_run_steady :
    ∃ s outs, run (mainStep .wrapping) (.initial commonCalib)
        (measured (.initial 1 2 3) steadyTurns) = some (s, outs) ∧
      Scheduled steadyTurns (measured (.initial 1 2 3) steadyTurns) := by
  obtain ⟨s, t, outs, hrun⟩ := steadyTurns_run
  exact ⟨s, outs, schedule_run .wrapping commonCalib 1 2 3 (by decide) (by decide) steadyTurns
    (by decide +kernel) s t outs hrun⟩

/-! ## 5. How fresh a frame is -/

/-- The latest reading of the BME680 in the first `j + 1` turns, and where it was made. -/
theorem lastBme_take {xs : List LoopInput} {j : Nat}
    (h : ∃ k x, k ≤ j ∧ xs[k]? = some x ∧ x.bme.isSome = true) :
    ∃ k x io, k ≤ j ∧ xs[k]? = some x ∧ x.bme = some io ∧ lastBme (xs.take (j + 1)) = some io ∧
      ∀ m y, k < m → m ≤ j → xs[m]? = some y → y.bme = none := by
  induction j with
  | zero =>
    obtain ⟨k, x, hk, hx, hsome⟩ := h
    obtain rfl : k = 0 := by omega
    obtain ⟨io, hio⟩ := Option.isSome_iff_exists.mp hsome
    refine ⟨0, x, io, Nat.le_refl 0, hx, hio, ?_, fun m _ h1 h2 => by omega⟩
    rw [List.take_add_one, hx, Option.toList_some, lastBme_concat, hio]
    rfl
  | succ j ih =>
    obtain ⟨k, x, hk, hx, hsome⟩ := h
    rcases hj : xs[j + 1]? with _ | y
    · -- the run is over before
      have hkj : k ≤ j := by
        rcases Nat.lt_or_eq_of_le hk with h1 | rfl
        · omega
        · rw [hj] at hx
          cases hx
      obtain ⟨k', x', io, h1, h2, h3, h4, h5⟩ := ih ⟨k, x, hkj, hx, hsome⟩
      refine ⟨k', x', io, by omega, h2, h3, ?_, fun m y hm1 hm2 hy => ?_⟩
      · rw [List.take_add_one, hj, Option.toList_none, List.append_nil]
        exact h4
      · rcases Nat.lt_or_eq_of_le hm2 with hlt | rfl
        · exact h5 m y hm1 (by omega) hy
        · rw [hj] at hy
          cases hy
    · rcases hy : y.bme with _ | io
      · have hkj : k ≤ j := by
          rcases Nat.lt_or_eq_of_le hk with h1 | rfl
          · omega
          · obtain rfl := Option.some.inj (hj.symm.trans hx)
            rw [hy] at hsome
            cases hsome
        obtain ⟨k', x', io, h1, h2, h3, h4, h5⟩ := ih ⟨k, x, hkj, hx, hsome⟩
        refine ⟨k', x', io, by omega, h2, h3, ?_, fun m z hm1 hm2 hz => ?_⟩
        · rw [List.take_add_one, hj, Option.toList_some, lastBme_concat, hy]
          exact h4
        · rcases Nat.lt_or_eq_of_le hm2 with hlt | rfl
          · exact h5 m z hm1 (by omega) hz
          · obtain rfl := Option.some.inj (hj.symm.trans hz)
            exact hy
      · refine ⟨j + 1, y, io, Nat.le_refl _, hj, hy, ?_, fun m _ h1 h2 => by omega⟩
        rw [List.take_add_one, hj, Option.toList_some, lastBme_concat, hy]
        rfl

/-- **What the frame of turn `j` shows**, `i` being what that turn found: the turn's own distance
    and sound; and from the seventh turn on temperature and humidity of one of the last six turns,
    read less than three seconds before this turn looked at the timer. -/
structure Fresh (conv : FloatConv) (cal : BmeCalib) (is : List TimedInput) (j : Nat)
    (i : TimedInput) (out : LoopOutput) : Prop where
  motion : out.alarm.toNat.testBit 0 = true ↔ 0 < i.dist ∧ i.dist < out.cfg.thresholdDist
  sound : out.alarm.toNat.testBit 2 = true ↔ (i.adc >>> 6).toUInt8 > out.cfg.thresholdSound
  payload : ∃ temp hum,
    out.frame = sendUartFrame conv temp hum i.adc (conv.toUInt16 i.dist) out.alarm
  climate : 6 ≤ j → ∃ k i' data cal', j < k + 6 ∧ k ≤ j ∧ is[k]? = some i' ∧
    readBme680 cal i'.bme = some (data, cal') ∧
    out.frame = sendUartFrame conv data.temperature data.humidity i.adc (conv.toUInt16 i.dist)
      out.alarm ∧
    (out.alarm.toNat.testBit 1 = true ↔
      data.temperature > (out.cfg.thresholdTemp.toInt : ℚ) / 100) ∧
    (out.alarm.toNat.testBit 4 = true ↔
      data.humidity * 100 > (out.cfg.thresholdHumMax.toNat : ℚ) ∨
        data.humidity * 100 < (out.cfg.thresholdHumMin.toNat : ℚ)) ∧
    (k < j → i.clock.bme.check < i'.clock.bme.arm + bmeInterval * 1000)

/-- A turn that measures distance and sound shows them. -/
theorem fresh_state {cal : BmeCalib} {xs : List LoopInput} {j : Nat} {x : LoopInput} {d : ℚ}
    {v : UInt16} {s : LoopState} (h : Holds (readings cal (xs.take (j + 1))) s)
    (hx : xs[j]? = some x) (hd : x.ultra = some d) (hv : x.adc = some v) :
    s.dist = d ∧ s.distReady = decide (0 < d) ∧ s.sound = v ∧ s.soundI = (v >>> 6).toUInt8 ∧
      s.soundReady = true := by
  have hD : (readings cal (xs.take (j + 1))).dist = some d := by
    show lastDist _ = _
    rw [List.take_add_one, hx, Option.toList_some, lastDist_concat, hd]
    rfl
  have hS : (readings cal (xs.take (j + 1))).sound = some v := by
    show lastSound _ = _
    rw [List.take_add_one, hx, Option.toList_some, lastSound_concat, hv]
    rfl
  have h1 := h.dist
  have h2 := h.distReady
  have h3 := h.sound
  have h4 := h.soundI
  have h5 := h.soundReady
  rw [hD] at h1 h2
  rw [hS] at h3 h4 h5
  exact ⟨h1, h2, h3, h4, h5⟩

/-- **How fresh a frame is.** In every run of the loop from its start, on a clock that never goes
    back, with half a second between two turns: the frame of every turn but the first shows the
    distance and the sound of that very turn, and its alarm bits for them depend on nothing older;
    from the seventh turn on temperature and humidity and their bits come from one reading, made in
    the last six turns and less than three seconds old. -/
theorem frames_fresh (conv : FloatConv) (cal : BmeCalib) (n₁ n₂ n₃ : Nat) (h₁ : n₁ ≤ n₂)
    (h₂ : n₂ ≤ n₃) (is : List TimedInput) (hclock : Runs n₃ (is.map (·.clock))) (s : LoopState)
    (t : Timers) (outs : List LoopOutput)
    (hrun : run (timedStep conv) (.initial cal, .initial n₁ n₂ n₃) is = some ((s, t), outs)) :
    ∀ (j : Nat) (i : TimedInput) (out : LoopOutput), 0 < j → is[j]? = some i →
      outs[j]? = some out → Fresh conv cal is j i out := by
  intro j i out hj hi hout
  have hturns := timed_run hrun
  have hsched := scheduled h₁ h₂ hclock
  obtain ⟨x, hx, -, hmeas, -⟩ := hsched.found j i hi
  obtain ⟨hultra, hadc⟩ := hmeas hj
  obtain ⟨l, hl, rfl⟩ := shown_run hturns hout
  have hholds := readings_run hl
  obtain ⟨hdist, hdr, hsound, hsi, hsr⟩ := fresh_state hholds hx hultra hadc
  obtain ⟨b0, b1, b2, b4, -⟩ := alarmLogic_bits l
  have hframe : (shown conv l).frame =
      sendUartFrame conv l.temp l.hum i.adc (conv.toUInt16 i.dist) (shown conv l).alarm := by
    rw [← hsound, ← hdist]
    rfl
  refine ⟨?_, ?_, ⟨l.temp, l.hum, hframe⟩, fun h6 => ?_⟩
  · refine b0.trans ?_
    rw [hdr, hdist, decide_eq_true_iff]
    exact Iff.rfl
  · refine b2.trans ?_
    rw [hsr, hsi]
    exact and_iff_right rfl
  · have hlt := (List.getElem?_eq_some_iff.mp hi).1
    obtain ⟨k₀, y₀, hk₀, hk₀', hy₀, hread₀⟩ := hsched.often (j - 6) (by omega)
    obtain ⟨k, y, io, hkj, hy, hio, hlast, hnone⟩ :=
      lastBme_take (j := j) ⟨k₀, y₀, by omega, hy₀, hread₀⟩
    have hkk : k₀ ≤ k := by
      by_contra hlt'
      have hbme := hnone k₀ y₀ (by omega) (by omega) hy₀
      rw [hbme] at hread₀
      cases hread₀
    obtain ⟨i', hi'⟩ : ∃ i', is[k]? = some i' := ⟨_, List.getElem?_eq_getElem (by omega)⟩
    have hbmeSome : y.bme.isSome = true := by
      rw [hio]
      rfl
    have hio' : io = i'.bme := by
      obtain ⟨y', hy', -, -, hor⟩ := hsched.found k i' hi'
      obtain rfl := Option.some.inj (hy.symm.trans hy')
      rcases hor with hno | hyes
      · rw [hno] at hio
        cases hio
      · rw [hyes] at hio
        exact (Option.some.inj hio).symm
    obtain ⟨data, cal', hread, htemp, hhum⟩ := (turns_run hl).read io hlast
    have hready : l.bmeReady = true := by
      rw [(turns_run hl).bmeReady, hlast]
      rfl
    refine ⟨k, i', data, cal', by omega, hkj, hi', hio' ▸ hread, ?_, ?_, ?_, fun hlt' => ?_⟩
    · rw [hframe, htemp, hhum]
    · refine b1.trans ?_
      rw [hready, htemp]
      exact and_iff_right rfl
    · refine b4.trans ?_
      rw [hready, hhum]
      exact and_iff_right rfl
    · exact hsched.young k j i' i y hlt' hi' hi hy hbmeSome fun m z hm1 hm2 hz =>
        hnone m z hm1 hm2 hz

theorem frames_fresh_steady :
    ∃ s t outs, run (timedStep .wrapping) (.initial commonCalib, .initial 1 2 3) steadyTurns =
        some ((s, t), outs) ∧
      ∀ out, outs[7]? = some out → Fresh .wrapping commonCalib steadyTurns 7 (steadyTurn 7) out := by
  obtain ⟨s, t, outs, hrun⟩ := steadyTurns_run
  exact ⟨s, t, outs, hrun, fun out hout => frames_fresh .wrapping commonCalib 1 2 3 (by decide)
    (by decide) steadyTurns (by decide +kernel) s t outs hrun 7 (steadyTurn 7) out (by decide) rfl
    hout⟩

end HomeAlert.Node
