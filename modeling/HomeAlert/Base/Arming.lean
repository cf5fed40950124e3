/-
  File:      HomeAlert/Base/Arming.lean
  Subject:   A TRIGGER_SET THAT THE INTERRUPT LINE MAY INTERRUPT.

  `sensor_node_trigger_set` stores the trigger (two words), the device and the handler one by one
  and then configures the pin; `sensor_node_intr_gpio_cb` reads all four from interrupt context,
  and may run between any two of these steps. Nothing but the call behind them orders the stores,
  so here they take effect in any order; that of the source is one of these.

  * `ArmInv`, `ArmInv.step` -- the invariant: behind a call that returned, the driver is where the
    uninterrupted `trigger_set` leaves it, and inside one each word is old or new;
  * `arming_run` -- so a handler is called only while the pin is armed, with the driver's device and
    a threshold trigger; only inside another `trigger_set` can its handler and its channel be those
    of two registrations;
  * `arming_torn` -- there they can.
-/
import HomeAlert.Base.Driver

namespace HomeAlert.Base

open Machine

/-! ## 1. Steps -/

/-- The words that `sensor_node_trigger_set` writes. -/
inductive TriggerWord where
  | type | chan | dev | handler
  deriving DecidableEq, Repr

def allWords : List TriggerWord := [.type, .chan, .dev, .handler]

/-- The arguments of a call of `sensor_node_trigger_set`. -/
structure TriggerSet where
  trig : SensorTrigger
  handler : Option Handler
  deriving DecidableEq, Repr

/-- One of its stores. -/
def TriggerSet.store (c : TriggerSet) (dev : Device) (data : SensorNodeData) :
    TriggerWord → SensorNodeData
  | .type => { data with trig := { data.trig with type := c.trig.type } }
  | .chan => { data with trig := { data.trig with chan := c.trig.chan } }
  | .dev => { data with triggerDev := some dev }
  | .handler => { data with triggerHandler := c.handler }

/-- The driver with a `trigger_set` in progress, and the words it has still to write. -/
structure ArmState where
  data : SensorNodeData
  mode : GpioIntMode
  active : Option (TriggerSet × List TriggerWord)
  deriving DecidableEq, Repr

def ArmState.initial (uart : Device) : ArmState where
  data := .initial uart
  mode := .disabled
  active := none

/-- A call of `trigger_set`, one of its stores, its configuration of the pin, which the GPIO driver
    accepts or refuses, and a rising edge of the interrupt line. -/
inductive ArmEvent where
  | call (c : TriggerSet)
  | store (w : TriggerWord)
  | configure (accepts : Bool)
  | edge
  deriving DecidableEq, Repr

/-- What can be observed: a `trigger_set` past its checks, one that returns, and a call of a
    handler. -/
inductive ArmObs where
  | entered (c : TriggerSet)
  | returned (accepts : Bool) (c : TriggerSet) (ret : Except Errno Unit)
  | called (call : HandlerCall)

/-- One step. The pin is configured behind the stores; the application makes one call at a time. -/
def armStep (cfg : SensorNodeConfig) (dev : Device) (s : ArmState) :
    ArmEvent → Option (ArmState × List ArmObs)
  | .call c =>
      match s.active with
      | some _ => none
      | none =>
          if c.trig.type ≠ .threshold then some (s, [.returned true c (.error .enotsup)])
          else if cfg.intrGpioPort = none then some (s, [.returned true c (.error .enodev)])
          else some ({ s with active := some (c, allWords) }, [.entered c])
  | .store w =>
      match s.active with
      | some (c, left) =>
          if w ∈ left then
            some ({ s with data := c.store dev s.data w
                           active := some (c, left.filter (· ≠ w)) }, [])
          else none
      | none => none
  | .configure accepts =>
      match s.active with
      | some (c, []) =>
          let mode := if c.handler.isSome then GpioIntMode.edgeRising else .disabled
          some ({ s with mode := gpioPinInterruptConfigureDt accepts mode s.mode, active := none },
            [.returned accepts c (.ok ())])
      | _ => none
  | .edge =>
      some (s, if s.mode = .edgeRising then (sensorNodeIntrGpioCb s.data).map .called else [])

/-! ## 2. What is registered -/

/-- What the calls that returned have registered, one after the other and without interruption,
    and the one in progress. -/
structure Registry where
  data : SensorNodeData
  mode : GpioIntMode
  active : Option TriggerSet

def Registry.step (cfg : SensorNodeConfig) (dev : Device) (g : Registry) : ArmObs → Registry
  | .entered c => { g with active := some c }
  | .returned accepts c _ =>
      let r := sensorNodeTriggerSet cfg accepts dev g.data g.mode c.trig c.handler
      { data := r.2.1, mode := r.2.2, active := none }
  | .called _ => g

def registry (cfg : SensorNodeConfig) (dev uart : Device) (log : List ArmObs) : Registry :=
  log.foldl (Registry.step cfg dev) { data := .initial uart, mode := .disabled, active := none }

/-- The driver inside a call: the words of `left` are still those of `data`. -/
def TriggerSet.mixed (c : TriggerSet) (dev : Device) (left : List TriggerWord)
    (data : SensorNodeData) : SensorNodeData :=
  { data with
    trig := { type := if .type ∈ left then data.trig.type else c.trig.type
              chan := if .chan ∈ left then data.trig.chan else c.trig.chan }
    triggerDev := if .dev ∈ left then data.triggerDev else some dev
    triggerHandler := if .handler ∈ left then data.triggerHandler else c.handler }

/-- One more store. -/
theorem mixed_store (c : TriggerSet) (dev : Device) (left : List TriggerWord)
    (data : SensorNodeData) (w : TriggerWord) :
    c.store dev (c.mixed dev left data) w = c.mixed dev (left.filter (· ≠ w)) data := by
  rcases w with _ | _ | _ | _
  · simp [TriggerSet.store, TriggerSet.mixed]
  · simp [TriggerSet.store, TriggerSet.mixed]
  · simp [TriggerSet.store, TriggerSet.mixed]
  · simp [TriggerSet.store, TriggerSet.mixed]

/-- **What a call of a handler may be**: its handler was registered and the pin armed, by a call
    that had returned; device and kind of trigger are right; and unless another call is in progress
    so is the channel. -/
structure CallOk (dev : Device) (g : Registry) (call : HandlerCall) : Prop where
  armed : g.mode = .edgeRising
  dev : call.dev = some dev
  type : call.trig.type = .threshold
  whole : g.active = none → g.data.triggerHandler = some call.handler ∧ call.trig = g.data.trig
  mixed : ∀ c, g.active = some c →
    (g.data.triggerHandler = some call.handler ∨ c.handler = some call.handler) ∧
      (call.trig.chan = g.data.trig.chan ∨ call.trig.chan = c.trig.chan)

/-! ## 3. The invariant -/

/-- **The invariant**, with `g` registered. -/
structure ArmInv (cfg : SensorNodeConfig) (dev : Device) (g : Registry) (s : ArmState) : Prop where
  mode : s.mode = g.mode
  idle : s.active = none → g.active = none ∧ s.data = g.data
  busy : ∀ c left, s.active = some (c, left) → g.active = some c ∧ c.trig.type = .threshold ∧
    cfg.intrGpioPort ≠ none ∧ s.data = c.mixed dev left g.data
  armed : g.mode = .edgeRising → g.data.trig.type = .threshold ∧ g.data.triggerDev = some dev

/-- The calls of handlers in a log are as they may be. -/
def CallsOk (cfg : SensorNodeConfig) (dev uart : Device) (log : List ArmObs) : Prop :=
  ∀ past call later, log = past ++ .called call :: later → CallOk dev (registry cfg dev uart past) call

section Steps

variable {cfg : SensorNodeConfig} {dev uart : Device} {g : Registry} {s s' : ArmState}

/-- An uninterrupted `trigger_set` past its checks. -/
theorem triggerSet_checked {c : TriggerSet} (htype : c.trig.type = .threshold)
    (hport : cfg.intrGpioPort ≠ none) (accepts : Bool) (data : SensorNodeData)
    (mode : GpioIntMode) :
    sensorNodeTriggerSet cfg accepts dev data mode c.trig c.handler =
      (.ok (), c.mixed dev [] data, gpioPinInterruptConfigureDt accepts
        (if c.handler.isSome then GpioIntMode.edgeRising else .disabled) mode) := by
  unfold sensorNodeTriggerSet
  rw [if_neg (not_not.mpr htype), if_neg hport]
  rcases h : c.handler with _ | f
  · simp [TriggerSet.mixed, h]
  · simp [TriggerSet.mixed, h]

/-- **An edge** calls what may be called. -/
theorem ArmInv.edge (h : ArmInv cfg dev g s) {call : HandlerCall} (hmode : s.mode = .edgeRising)
    (hcall : call ∈ sensorNodeIntrGpioCb s.data) : CallOk dev g call := by
  have harmed := h.mode.symm.trans hmode
  obtain ⟨htype, hdev⟩ := h.armed harmed
  unfold sensorNodeIntrGpioCb at hcall
  rcases hh : s.data.triggerHandler with _ | f
  · rw [hh] at hcall
    cases hcall
  · rw [hh] at hcall
    obtain rfl := List.mem_singleton.mp hcall
    rcases ha : s.active with _ | ⟨c, left⟩
    · obtain ⟨hg, hdata⟩ := h.idle ha
      rw [hdata] at hh ⊢
      exact ⟨harmed, hdev, htype, fun _ => ⟨hh, rfl⟩, fun c hc => (by
        rw [hg] at hc
        cases hc)⟩
    · obtain ⟨hg, hctype, -, hdata⟩ := h.busy c left ha
      rw [hdata] at hh ⊢
      refine ⟨harmed, ?_, ?_, fun hn => ?_, fun c' hc => ?_⟩
      · show (if _ then g.data.triggerDev else some dev) = some dev
        rw [hdev, ite_self]
      · show (if _ then g.data.trig.type else c.trig.type) = .threshold
        rw [htype, hctype, ite_self]
      · rw [hg] at hn
        cases hn
      · obtain rfl : c = c' := Option.some.inj (hg.symm.trans hc)
        refine ⟨?_, ?_⟩
        · change (if _ then g.data.triggerHandler else c.handler) = some f at hh
          split at hh
          · exact Or.inl hh
          · exact Or.inr hh
        · by_cases hleft : TriggerWord.chan ∈ left
          · exact Or.inl (if_pos hleft)
          · exact Or.inr (if_neg hleft)

/-- **One step** keeps the invariant, and calls what may be called. -/
theorem ArmInv.step {ev : ArmEvent} {obs : List ArmObs} (h : ArmInv cfg dev g s)
    (hs : armStep cfg dev s ev = some (s', obs)) :
    ArmInv cfg dev (obs.foldl (Registry.step cfg dev) g) s' ∧
      ∀ past call later, obs = past ++ .called call :: later →
        CallOk dev (past.foldl (Registry.step cfg dev) g) call := by
  have hnone : ∀ {o : ArmObs}, (∀ call, o ≠ .called call) → ∀ past call later,
      [o] = past ++ .called call :: later →
      CallOk dev (past.foldl (Registry.step cfg dev) g) call := by
    intro o ho past call later e
    have hmem : ArmObs.called call ∈ [o] := by
      rw [e]
      exact List.mem_append_right _ List.mem_cons_self
    exact absurd (List.mem_singleton.mp hmem).symm (ho call)
  rcases ev with c | w | accepts | _
  · rcases ha : s.active with _ | p
    · simp only [armStep, ha] at hs
      obtain ⟨hg, hdata⟩ := h.idle ha
      -- a call that is refused registers nothing
      have hrefused : ∀ ret, (sensorNodeTriggerSet cfg true dev g.data g.mode c.trig c.handler).2 =
          (g.data, g.mode) → ArmInv cfg dev (g.step cfg dev (.returned true c ret)) s := by
        intro ret hsame
        obtain ⟨h1, h2⟩ := Prod.mk.inj hsame
        refine ⟨h.mode.trans h2.symm, fun _ => ⟨rfl, hdata.trans h1.symm⟩, fun c' left hc => ?_, ?_⟩
        · rw [ha] at hc
          cases hc
        · intro harmed
          rw [show (g.step cfg dev (.returned true c ret)).data = g.data from h1]
          exact h.armed (h2.symm.trans harmed)
      split at hs
      · rename_i htype
        cases hs
        refine ⟨hrefused (.error .enotsup) ?_, hnone fun _ e => by cases e⟩
        unfold sensorNodeTriggerSet
        rw [if_pos htype]
      · rename_i htype
        split at hs
        · rename_i hport
          cases hs
          refine ⟨hrefused (.error .enodev) ?_, hnone fun _ e => by cases e⟩
          unfold sensorNodeTriggerSet
          rw [if_neg htype, if_pos hport]
        · rename_i hport
          cases hs
          refine ⟨⟨h.mode, fun hn => (by cases hn), fun c' left hc => ?_, h.armed⟩,
            hnone fun _ e => by cases e⟩
          cases hc
          refine ⟨rfl, not_not.mp htype, hport, hdata.trans ?_⟩
          simp [TriggerSet.mixed, allWords, Registry.step]
    · simp [armStep, ha] at hs
  · rcases ha : s.active with _ | ⟨c, left⟩
    · simp [armStep, ha] at hs
    · simp only [armStep, ha] at hs
      split at hs
      · cases hs
        obtain ⟨hg, htype, hport, hdata⟩ := h.busy c left ha
        refine ⟨⟨h.mode, fun hn => (by cases hn), fun c' left' hc => ?_, h.armed⟩, ?_⟩
        · cases hc
          refine ⟨hg, htype, hport, ?_⟩
          show c.store dev s.data w = _
          rw [hdata, mixed_store]
          rfl
        · intro past call later e
          cases past with
          | nil => cases e
          | cons o past => cases e
      · cases hs
  · rcases ha : s.active with _ | ⟨c, left⟩
    · simp [armStep, ha] at hs
    · cases left with
      | cons w left => simp [armStep, ha] at hs
      | nil =>
        simp only [armStep, ha] at hs
        cases hs
        obtain ⟨hg, htype, hport, hdata⟩ := h.busy c [] ha
        have hset : sensorNodeTriggerSet cfg accepts dev g.data g.mode c.trig c.handler = _ :=
          triggerSet_checked htype hport accepts g.data g.mode
        refine ⟨?_, hnone fun _ e => by cases e⟩
        simp only [List.foldl_cons, List.foldl_nil, Registry.step, hset]
        refine ⟨?_, fun _ => ⟨rfl, hdata⟩, fun c' left' hc => (by cases hc), fun _ => ?_⟩
        · show gpioPinInterruptConfigureDt accepts _ s.mode = _
          rw [h.mode]
        · exact ⟨htype, rfl⟩
  · cases hs
    have hobs : ∀ o ∈ (if s.mode = .edgeRising then (sensorNodeIntrGpioCb s.data).map .called
        else [] : List ArmObs), ∃ call, o = .called call ∧ s.mode = .edgeRising ∧
          call ∈ sensorNodeIntrGpioCb s.data := by
      intro o ho
      split at ho
      · rename_i hmode
        obtain ⟨call, hcall, rfl⟩ := List.mem_map.mp ho
        exact ⟨call, rfl, hmode, hcall⟩
      · cases ho
    have hfold : ∀ l : List ArmObs, (∀ o ∈ l, ∃ call, o = .called call) →
        l.foldl (Registry.step cfg dev) g = g := by
      intro l hl
      induction l with
      | nil => rfl
      | cons o l ih =>
        obtain ⟨call, rfl⟩ := hl o List.mem_cons_self
        exact ih fun o' ho' => hl o' (List.mem_cons_of_mem _ ho')
    have hcalls : ∀ o ∈ (if s.mode = .edgeRising then (sensorNodeIntrGpioCb s.data).map .called
        else [] : List ArmObs), ∃ call, o = .called call := by
      intro o ho
      obtain ⟨call, e, -⟩ := hobs o ho
      exact ⟨call, e⟩
    refine ⟨by rwa [hfold _ hcalls], fun past call later e => ?_⟩
    rw [hfold past fun o ho => hcalls o (by
      rw [e]
      exact List.mem_append_left _ ho)]
    obtain ⟨call', e', hmode, hmem⟩ := hobs (.called call) (by
      rw [e]
      exact List.mem_append_right _ List.mem_cons_self)
    cases e'
    exact h.edge hmode hmem

/-- **A run** keeps the invariant, with what its log has registered. -/
theorem arm_run {evs : List ArmEvent} {log : List ArmObs}
    (hr : run (armStep cfg dev) (.initial uart) evs = some (s, log)) :
    ArmInv cfg dev (registry cfg dev uart log) s ∧ CallsOk cfg dev uart log := by
  have hinit : ArmInv cfg dev (registry cfg dev uart []) (.initial uart) ∧
      CallsOk cfg dev uart [] := by
    refine ⟨⟨rfl, fun _ => ⟨rfl, rfl⟩, fun c left hc => (by cases hc), fun h => (by cases h)⟩, ?_⟩
    intro past call later e
    cases past with
    | nil => cases e
    | cons o past => cases e
  have hlog := run_log (P := fun log s => ArmInv cfg dev (registry cfg dev uart log) s ∧
    CallsOk cfg dev uart log) ?_ hinit hr
  · rwa [List.nil_append] at hlog
  rintro log s ev s' obs ⟨hinv, hcalls⟩ hs
  obtain ⟨hinv', hnew⟩ := hinv.step hs
  refine ⟨by rwa [registry, List.foldl_append], fun past call later e => ?_⟩
  -- the call is one of this step, or an earlier one
  rcases List.append_eq_append_iff.mp e with ⟨mid, rfl, e'⟩ | ⟨mid, rfl, e'⟩
  · rw [registry, List.foldl_append]
    exact hnew mid call later e'
  · cases mid with
    | nil =>
      have h := hnew [] call later e'.symm
      rwa [List.append_nil] at h
    | cons o mid =>
      cases e'
      exact hcalls past call mid rfl

/-- **No half-made registration is acted on**, wherever the interrupt line strikes the calls of
    `trigger_set`, in every run: a handler is called only behind a call that armed the pin, with the
    driver's device and a threshold trigger; with no `trigger_set` in progress, with the handler and
    the trigger of the last registration; inside one, with its handler or the last, and its channel
    or the last. And behind a call the driver is where the uninterrupted calls leave it. -/
theorem arming_run {evs : List ArmEvent} {log : List ArmObs}
    (hr : run (armStep cfg dev) (.initial uart) evs = some (s, log)) :
    CallsOk cfg dev uart log ∧
      (s.active = none → s.data = (registry cfg dev uart log).data ∧
        s.mode = (registry cfg dev uart log).mode) :=
  have h := arm_run hr
  ⟨h.2, fun hidle => ⟨(h.1.idle hidle).2, h.1.mode⟩⟩

end Steps

/-- Two registrations, with edges before the first, inside both and behind both. -/
def rearmEvents : List ArmEvent :=
  [.edge, .call { trig := { type := .threshold, chan := .distance }, handler := some ⟨1⟩ },
    .store .type, .store .chan, .store .dev, .edge, .store .handler, .configure true, .edge,
    .call { trig := { type := .threshold, chan := .ambientTemp }, handler := some ⟨2⟩ },
    .store .type, .store .chan, .edge, .store .dev, .store .handler, .configure true, .edge]

def rearmConfig : SensorNodeConfig := { uartDev := some ⟨0⟩, intrGpioPort := some ⟨3⟩ }

theorem arming_run_demo :
    ∃ s log, run (armStep rearmConfig ⟨1⟩) (.initial ⟨0⟩) rearmEvents = some (s, log) ∧
      CallsOk rearmConfig ⟨1⟩ ⟨0⟩ log ∧ s.mode = (registry rearmConfig ⟨1⟩ ⟨0⟩ log).mode := by
  have h : (run (armStep rearmConfig ⟨1⟩) (.initial ⟨0⟩) rearmEvents).map
      (fun r : ArmState × List ArmObs => r.1.active) = some none := by decide +kernel
  obtain ⟨⟨s, log⟩, hrun, hidle⟩ := Option.map_eq_some_iff.mp h
  obtain ⟨hcalls, hend⟩ := arming_run hrun
  exact ⟨s, log, hrun, hcalls, (hend hidle).2⟩

/-- The calls of handlers in a log: the handler and the channel it is told. -/
def told (log : List ArmObs) : List (Nat × SensorChannel) :=
  log.filterMap fun
    | .called call => some (call.handler.id, call.trig.chan)
    | _ => none

/-- **A registration behind another can be torn**: the second edge inside a call reaches the handler
    of the first registration with the channel of the second, one that was never registered. -/
theorem arming_torn :
    (run (armStep rearmConfig ⟨1⟩) (.initial ⟨0⟩) rearmEvents).map (fun r => told r.2) =
      some [(1, .distance), (1, .ambientTemp), (2, .ambientTemp)] := by
  decide +kernel

end HomeAlert.Base
