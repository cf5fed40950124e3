/-
  File:      HomeAlert/Link/Notification.lean
  Subject:   THE INTERRUPT LINE BETWEEN THE NODES: which alarms reach the registered handler.

  The sensor node drives one line with the OR of the selected alarm bits; the base node's driver
  arms its pin for rising edges and calls the handler from there. So a selected alarm that becomes
  active is notified exactly when no other selected one was active in the turn before
  (`notify_iff`), and one that becomes active beside another is not (`notify_missed`).
-/
import HomeAlert.Link.Alarms

namespace HomeAlert.Link

open Machine Base Node

/-! ## 1. The line -/

/-- The GPIO: while the pin is armed for rising edges the driver's callback runs on them, and on
    nothing else. -/
def gpioEdge (mode : GpioIntMode) (data : SensorNodeData) (old new : Bool) : List HandlerCall :=
  if mode = .edgeRising ∧ old = false ∧ new = true then sensorNodeIntrGpioCb data else []

/-- One turn of the sensor node's loop, with the calls of the handler it causes at the base. -/
def notifyStep (conv : FloatConv) (mode : GpioIntMode) (data : SensorNodeData) (s : LoopState)
    (i : LoopInput) : Option (LoopState × List (LoopOutput × List HandlerCall)) :=
  (mainStep conv s i).map fun r =>
    (r.1, r.2.map fun out => (out, gpioEdge mode data s.intrPin out.intrPin))

/-- **An armed trigger**: rising edges are enabled, and the callback calls the handler with the
    device and trigger it was registered with. -/
theorem trigger_armed {cfg : SensorNodeConfig} {dev : Device} {data₀ data : SensorNodeData}
    {mode₀ mode : GpioIntMode} {trig : SensorTrigger} {h : Handler}
    (harm : sensorNodeTriggerSet cfg true dev data₀ mode₀ trig (some h) = (.ok (), data, mode)) :
    mode = .edgeRising ∧
      sensorNodeIntrGpioCb data = [{ handler := h, dev := some dev, trig := trig }] := by
  unfold sensorNodeTriggerSet at harm
  split at harm
  · cases harm
  · split at harm
    · cases harm
    · cases harm
      exact ⟨rfl, rfl⟩

/-- The line after a turn is what its output says, and that is what settings and alarms say. -/
theorem mainStep_line {conv : FloatConv} {s s' : LoopState} {i : LoopInput}
    {outs : List LoopOutput} (h : mainStep conv s i = some (s', outs)) :
    ∃ out, outs = [out] ∧ s'.intrPin = out.intrPin ∧
      out.intrPin = intrLevel out.cfg out.alarm := by
  simp only [mainStep, Option.bind_eq_bind, Option.bind_eq_some_iff] at h
  obtain ⟨-, -, s₁, -, e⟩ := h
  cases e
  exact ⟨_, rfl, rfl, rfl⟩

/-! ## 2. Runs -/

/-- A log in which every entry's calls are those of the edge from the line before it. -/
def LineLog (mode : GpioIntMode) (data : SensorNodeData) :
    Bool → List (LoopOutput × List HandlerCall) → Prop
  | _, [] => True
  | old, x :: log =>
      x.2 = gpioEdge mode data old x.1.intrPin ∧ x.1.intrPin = intrLevel x.1.cfg x.1.alarm ∧
        LineLog mode data x.1.intrPin log

theorem notify_run {conv : FloatConv} {mode : GpioIntMode} {data : SensorNodeData}
    {is : List LoopInput} : ∀ {s s' : LoopState} {log : List (LoopOutput × List HandlerCall)},
      run (notifyStep conv mode data) s is = some (s', log) →
      LineLog mode data s.intrPin log := by
  induction is with
  | nil =>
    intro s s' log h
    cases h
    trivial
  | cons i is ih =>
    intro s s' log h
    obtain ⟨s₁, o₁, o₂, h1, h2, rfl⟩ := run_cons.mp h
    obtain ⟨⟨s₂, outs⟩, h3, e⟩ := Option.map_eq_some_iff.mp h1
    obtain ⟨out, rfl, hpin, hlevel⟩ := mainStep_line h3
    cases e
    have hrest := ih h2
    rw [hpin] at hrest
    exact ⟨rfl, hlevel, hrest⟩

/-- Two consecutive entries. -/
theorem LineLog.next {mode : GpioIntMode} {data : SensorNodeData}
    {log : List (LoopOutput × List HandlerCall)} : ∀ {old : Bool}, LineLog mode data old log →
      ∀ {k : Nat} {x y : LoopOutput × List HandlerCall}, log[k]? = some x → log[k + 1]? = some y →
        y.2 = gpioEdge mode data x.1.intrPin y.1.intrPin ∧
          x.1.intrPin = intrLevel x.1.cfg x.1.alarm ∧
          y.1.intrPin = intrLevel y.1.cfg y.1.alarm := by
  induction log with
  | nil => intro old _ k x y hx; simp at hx
  | cons z log ih =>
    intro old h k x y hx hy
    obtain ⟨-, h2, h3⟩ := h
    cases k with
    | zero =>
      obtain rfl : z = x := by simpa using hx
      cases log with
      | nil => simp at hy
      | cons w log =>
        obtain rfl : w = y := by simpa using hy
        exact ⟨h3.1, h2, h3.2.1⟩
    | succ k => exact ih h3 (by simpa using hx) (by simpa using hy)

/-! ## 3. Which alarms are notified -/

/-- An alarm bit that the mask selects. -/
theorem selected_ne_zero {alarm mask : UInt8} {n : Nat} (h1 : bit alarm n) (h2 : bit mask n) :
    alarm &&& mask ≠ 0 := by
  intro e
  have h3 : (alarm &&& mask).toNat.testBit n = true := by
    rw [UInt8.toNat_and, Nat.testBit_and, h1, h2]
    rfl
  rw [e] at h3
  simp at h3

/-- Bit `n` is selected by the mask, 0 in the one turn and 1 in the other. -/
def Rises (m : UInt8) (x y : LoopOutput) (n : Nat) : Prop :=
  bit m n ∧ ¬ bit x.alarm n ∧ bit y.alarm n

/-- **Notification.** The trigger is armed, interrupts are enabled and the mask is constant. In
    every run of the sensor node's loop from its start, whenever a selected alarm becomes active:
    the handler is called in that turn, once and with the registered arguments, exactly when no
    selected alarm was active in the turn before; otherwise it is not called at all. -/
theorem notify_iff (cfg : SensorNodeConfig) (dev : Device) (data₀ data : SensorNodeData)
    (mode₀ mode : GpioIntMode) (trig : SensorTrigger) (h : Handler)
    (harm : sensorNodeTriggerSet cfg true dev data₀ mode₀ trig (some h) = (.ok (), data, mode))
    (conv : FloatConv) (cal : BmeCalib) (is : List LoopInput) (s' : LoopState)
    (log : List (LoopOutput × List HandlerCall))
    (hrun : run (notifyStep conv mode data) (.initial cal) is = some (s', log)) (m : UInt8)
    (hirq : ∀ x ∈ log, x.1.cfg.irqEnabled = true ∧ x.1.cfg.irqMask = m) :
    ∀ (k : Nat) (x y : LoopOutput × List HandlerCall), log[k]? = some x → log[k + 1]? = some y →
      ∀ n, Rises m x.1 y.1 n →
        (y.2 = [{ handler := h, dev := some dev, trig := trig }] ↔ x.1.alarm &&& m = 0) ∧
          (x.1.alarm &&& m ≠ 0 → y.2 = []) := by
  intro k x y hx hy n hrise
  obtain ⟨hm, -, h1⟩ := hrise
  obtain ⟨hmode, hcb⟩ := trigger_armed harm
  obtain ⟨hcalls, hpx, hpy⟩ := (notify_run hrun).next hx hy
  obtain ⟨hex, hmx⟩ := hirq x (List.mem_of_getElem? hx)
  obtain ⟨hey, hmy⟩ := hirq y (List.mem_of_getElem? hy)
  have hhigh : y.1.intrPin = true := by
    rw [hpy, intrLevel, hey, hmy, Bool.true_and, bne_iff_ne]
    exact selected_ne_zero h1 hm
  have hold : x.1.intrPin = true ↔ x.1.alarm &&& m ≠ 0 := by
    rw [hpx, intrLevel, hex, hmx, Bool.true_and, bne_iff_ne]
  rw [hhigh] at hcalls
  by_cases hz : x.1.alarm &&& m = 0
  · have hlow : x.1.intrPin = false := by
      refine Bool.eq_false_iff.mpr fun ht => ?_
      exact hold.mp ht hz
    rw [hlow, gpioEdge, if_pos ⟨hmode, rfl, rfl⟩, hcb] at hcalls
    exact ⟨⟨fun _ => hz, fun _ => hcalls⟩, fun hne => absurd hz hne⟩
  · rw [hold.mpr hz, gpioEdge, if_neg (by simp)] at hcalls
    refine ⟨⟨fun e => ?_, fun e => absurd e hz⟩, fun _ => hcalls⟩
    rw [hcalls] at e
    cases e

/-- The alarm trigger of the base node's `main`. -/
def alarmTrig : SensorTrigger := { type := .threshold, chan := .alarmStatus }

/-- The driver once `main` has registered its callback. -/
def armedData : SensorNodeData :=
  { SensorNodeData.initial ⟨0⟩ with
    trig := alarmTrig, triggerDev := some ⟨1⟩, triggerHandler := some ⟨2⟩ }

theorem armedData_armed :
    sensorNodeTriggerSet { uartDev := some ⟨0⟩, intrGpioPort := some ⟨3⟩ } true ⟨1⟩ (.initial ⟨0⟩)
      .disabled alarmTrig (some ⟨2⟩) = (.ok (), armedData, .edgeRising) := rfl

/-- Somebody comes near, and then makes a noise. -/
def nearAndLoud : List LoopInput :=
  [{ rx := [], ultra := none, adc := none, bme := none },
    { rx := [], ultra := some 20, adc := none, bme := none },
    { rx := [], ultra := none, adc := some 4000, bme := none }]

/-- What an entry of the log shows: settings, alarm byte and calls. -/
def view (x : LoopOutput × List HandlerCall) : Config × UInt8 × List HandlerCall :=
  (x.1.cfg, x.1.alarm, x.2)

theorem nearAndLoud_run :
    ∃ s' x y z, run (notifyStep .wrapping .edgeRising armedData) (.initial someCalib)
        nearAndLoud = some (s', [x, y, z]) ∧
      view x = (.initial, 0, []) ∧
      view y = (.initial, 1, [{ handler := ⟨2⟩, dev := some ⟨1⟩, trig := alarmTrig }]) ∧
      view z = (.initial, 5, []) := by
  have h : (run (notifyStep .wrapping .edgeRising armedData) (.initial someCalib)
      nearAndLoud).map (fun r => r.2.map view) =
      some [(.initial, 0, []),
        (.initial, 1, [{ handler := ⟨2⟩, dev := some ⟨1⟩, trig := alarmTrig }]),
        (.initial, 5, [])] := by decide +kernel
  obtain ⟨⟨s', log⟩, hrun, hview⟩ := Option.map_eq_some_iff.mp h
  obtain ⟨x, l₁, rfl, hx, h₁⟩ := List.map_eq_cons_iff.mp hview
  obtain ⟨y, l₂, rfl, hy, h₂⟩ := List.map_eq_cons_iff.mp h₁
  obtain ⟨z, l₃, rfl, hz, h₃⟩ := List.map_eq_cons_iff.mp h₂
  obtain rfl := List.map_eq_nil_iff.mp h₃
  exact ⟨s', x, y, z, hrun, hx, hy, hz⟩

theorem view_irq {x : LoopOutput × List HandlerCall} {a : UInt8} {calls : List HandlerCall}
    (h : view x = (.initial, a, calls)) :
    x.1.cfg.irqEnabled = true ∧ x.1.cfg.irqMask = 0x17 := by
  have hcfg : x.1.cfg = .initial := congrArg Prod.fst h
  rw [hcfg]
  exact ⟨rfl, rfl⟩

theorem view_alarm {x : LoopOutput × List HandlerCall} {cfg : Config} {a : UInt8}
    {calls : List HandlerCall} (h : view x = (cfg, a, calls)) : x.1.alarm = a :=
  congrArg (fun v => v.2.1) h

/-- **An alarm beside another is not notified**: in the third turn the sound alarm becomes active
    while the distance alarm still is, and the handler is not called. -/
theorem notify_missed :
    ∃ s' x y z, run (notifyStep .wrapping .edgeRising armedData) (.initial someCalib)
        nearAndLoud = some (s', [x, y, z]) ∧
      (∀ w ∈ [x, y, z], w.1.cfg.irqEnabled = true ∧ w.1.cfg.irqMask = 0x17) ∧
      Rises 0x17 y.1 z.1 2 ∧ z.2 = [] := by
  obtain ⟨s', x, y, z, hrun, hx, hy, hz⟩ := nearAndLoud_run
  refine ⟨s', x, y, z, hrun, ?_, ⟨by decide, ?_, ?_⟩, congrArg (fun v => v.2.2) hz⟩
  · simpa using ⟨view_irq hx, view_irq hy, view_irq hz⟩
  · rw [view_alarm hy]
    decide
  · rw [view_alarm hz]
    decide

/-- In the second turn of the same run the distance alarm is the first: the handler is called. -/
theorem notify_first :
    ∃ s' x y z, run (notifyStep .wrapping .edgeRising armedData) (.initial someCalib)
        nearAndLoud = some (s', [x, y, z]) ∧
      y.2 = [{ handler := ⟨2⟩, dev := some ⟨1⟩, trig := alarmTrig }] := by
  obtain ⟨s', x, y, z, hrun, hx, hy, hz⟩ := nearAndLoud_run
  have hirq : ∀ w ∈ [x, y, z], w.1.cfg.irqEnabled = true ∧ w.1.cfg.irqMask = 0x17 := by
    simpa using ⟨view_irq hx, view_irq hy, view_irq hz⟩
  have hrise : Rises 0x17 x.1 y.1 0 := by
    unfold Rises
    rw [view_alarm hx, view_alarm hy]
    decide
  obtain ⟨hiff, -⟩ := notify_iff _ ⟨1⟩ _ _ _ _ _ _ armedData_armed .wrapping someCalib nearAndLoud
    s' [x, y, z] hrun 0x17 hirq 0 x y rfl rfl 0 hrise
  refine ⟨s', x, y, z, hrun, hiff.mpr ?_⟩
  rw [view_alarm hx]
  rfl

end HomeAlert.Link
