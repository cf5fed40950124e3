/-
  File:      HomeAlert/Base/Instance.lean
  Subject:   A DRIVER INSTANCE OVER ITS LIFE (sensor_node.c: sensor_node_init and the operations of
             the sensor API), and which of its operations are all-or-nothing.

  The instance is the driver's data with what its calls have set up outside it: the UART callback
  and receive interrupt, the interrupt pin, and the bytes sent. What Zephyr's calls answer is an
  input of each operation. `Visible` is what a failed operation should leave as it was.

  * `sensorNodeInit_ready` -- an initialisation that finds everything ready;
  * `instance_run` -- over any run: callback and receive interrupt go together, and nothing is
    being assembled before they are set up;
  * `allOrNothing_iff` -- in every reachable state, which operations keep the law.
-/
import HomeAlert.Base.Driver

namespace HomeAlert.Base

open Machine

/-! ## 1. The instance -/

/-- The instance data before any call: the zeroed static structure. -/
def SensorNodeData.zeroed : SensorNodeData where
  uartDev := none
  rxBuf := Vector.replicate 10 0
  rxIdx := 0
  readyBuf := Vector.replicate 10 0
  frameSem := { count := 0, limit := 0 }
  temperature := 0
  humidity := 0
  sound := 0
  distance := 0
  alarmStatus := 0
  triggerHandler := none
  triggerDev := none
  trig := { type := .other 0, chan := .other 0 }

/-- The data, whether the UART has `sensor_node_uart_isr` as its callback and its receive
    interrupt enabled, the state of the interrupt pin, and the bytes given to `uart_poll_out`. -/
structure Instance where
  data : SensorNodeData
  uartCallback : Bool
  rxEnabled : Bool
  intrInput : Bool
  intrCallback : Bool
  intrMode : GpioIntMode
  sent : List UInt8
  deriving DecidableEq, Repr

def Instance.zeroed : Instance where
  data := .zeroed
  uartCallback := false
  rxEnabled := false
  intrInput := false
  intrCallback := false
  intrMode := .disabled
  sent := []

/-! ## 2. sensor_node_init -/

/-- What the calls of one `sensor_node_init` answer: `device_is_ready` of the UART and of the
    interrupt port, and the three GPIO calls. -/
structure InitOutcome where
  uartReady : Bool
  portReady : Bool
  pinConfigured : Bool
  callbackAdded : Bool
  modeAccepted : Bool
  deriving DecidableEq, Repr

/-- `sensor_node_init`. The answers of the three GPIO calls are not looked at. -/
def sensorNodeInit (cfg : SensorNodeConfig) (env : InitOutcome) (s : Instance) :
    Except Errno Unit × Instance :=
  let s := { s with data := { s.data with uartDev := cfg.uartDev, rxIdx := 0 } }
  if s.data.uartDev = none then (.error .enodev, s)
  else
    let s := { s with data := { s.data with frameSem := { count := 0, limit := 1 } } }
    if env.uartReady = false then (.error .enodev, s)
    else
      let s := { s with uartCallback := true, rxEnabled := true }
      if cfg.intrGpioPort ≠ none then
        if env.portReady = false then (.error .enodev, s)
        else
          let s := { s with intrInput := s.intrInput || env.pinConfigured }
          let s := { s with intrCallback := s.intrCallback || env.callbackAdded }
          let s := { s with
            intrMode := gpioPinInterruptConfigureDt env.modeAccepted .disabled s.intrMode }
          (.ok (), s)
      else (.ok (), s)

/-- The UART is missing or not ready. -/
def UartFails (cfg : SensorNodeConfig) (env : InitOutcome) : Prop :=
  cfg.uartDev = none ∨ env.uartReady = false

/-- The UART is ready, and the interrupt line is wired to a port that is not. -/
def PortFails (cfg : SensorNodeConfig) (env : InitOutcome) : Prop :=
  ¬ UartFails cfg env ∧ cfg.intrGpioPort ≠ none ∧ env.portReady = false

/-- **What an initialisation does**: to the data the same in every case, and to what lies outside
    it one of three things. -/
structure InitEffect (cfg : SensorNodeConfig) (env : InitOutcome) (s : Instance)
    (r : Except Errno Unit × Instance) : Prop where
  data : ∃ sem, r.2.data = { s.data with uartDev := cfg.uartDev, rxIdx := 0, frameSem := sem }
  sent : r.2.sent = s.sent
  outcome :
    (UartFails cfg env ∧ r.1 = .error .enodev ∧ r.2.uartCallback = s.uartCallback ∧
      r.2.rxEnabled = s.rxEnabled ∧ r.2.intrMode = s.intrMode) ∨
    (PortFails cfg env ∧ r.1 = .error .enodev ∧ r.2.uartCallback = true ∧
      r.2.rxEnabled = true ∧ r.2.intrMode = s.intrMode) ∨
    (¬ UartFails cfg env ∧ ¬ PortFails cfg env ∧ r.1 = .ok () ∧ r.2.uartCallback = true ∧
      r.2.rxEnabled = true)

theorem sensorNodeInit_effect (cfg : SensorNodeConfig) (env : InitOutcome) (s : Instance) :
    InitEffect cfg env s (sensorNodeInit cfg env s) := by
  simp only [sensorNodeInit]
  split_ifs with h1 h2 h3 h4
  · exact ⟨⟨_, rfl⟩, rfl, Or.inl ⟨Or.inl h1, rfl, rfl, rfl, rfl⟩⟩
  · exact ⟨⟨_, rfl⟩, rfl, Or.inl ⟨Or.inr h2, rfl, rfl, rfl, rfl⟩⟩
  · exact ⟨⟨_, rfl⟩, rfl, Or.inr (Or.inl ⟨⟨not_or.mpr ⟨h1, h2⟩, h3, h4⟩, rfl, rfl, rfl, rfl⟩)⟩
  · exact ⟨⟨_, rfl⟩, rfl, Or.inr (Or.inr ⟨not_or.mpr ⟨h1, h2⟩, fun h => h4 h.2.2, rfl, rfl, rfl⟩)⟩
  · exact ⟨⟨_, rfl⟩, rfl, Or.inr (Or.inr ⟨not_or.mpr ⟨h1, h2⟩, fun h => h3 h.2.1, rfl, rfl, rfl⟩)⟩

/-- **An initialisation that finds everything ready** succeeds, and leaves the zeroed data in its
    initial state. -/
theorem sensorNodeInit_ready {cfg : SensorNodeConfig} {uart : Device}
    (huart : cfg.uartDev = some uart) {env : InitOutcome} (hready : env.uartReady = true)
    (hport : env.portReady = true) :
    (sensorNodeInit cfg env .zeroed).1 = .ok () ∧
      (sensorNodeInit cfg env .zeroed).2.data = .initial uart := by
  simp only [sensorNodeInit, huart, hready, hport, ne_eq, reduceCtorEq, if_false]
  split
  · exact ⟨rfl, rfl⟩
  · exact ⟨rfl, rfl⟩

/-! ## 3. Operations and runs -/

/-- The operations of the driver, with the answers that Zephyr's calls give in each. -/
inductive Operation where
  | init (env : InitOutcome)
  | sampleFetch (chan : SensorChannel)
  | channelGet (chan : SensorChannel)
  | attrSet (chan : SensorChannel) (attr : SensorAttribute) (val : SensorValue)
  | triggerSet (accepts : Bool) (trig : SensorTrigger) (handler : Option Handler)

/-- One operation of the instance of `dev`: its result, and the instance after it. Bytes given to
    a UART that is a null pointer are undefined. -/
def Instance.call (cfg : SensorNodeConfig) (dev : Device) (s : Instance) :
    Operation → Option (Except Errno Unit × Instance)
  | .init env => some (sensorNodeInit cfg env s)
  | .sampleFetch chan =>
      let r := sensorNodeSampleFetch s.data chan
      some (r.1, { s with data := r.2 })
  | .channelGet chan => some ((sensorNodeChannelGet s.data chan).map fun _ => (), s)
  | .attrSet chan attr val =>
      let r := sensorNodeAttrSet chan attr val
      if s.data.uartDev = none ∧ r.2 ≠ [] then none
      else some (r.1, { s with sent := s.sent ++ r.2 })
  | .triggerSet accepts trig handler =>
      let r := sensorNodeTriggerSet cfg accepts dev s.data s.intrMode trig handler
      some (r.1, { s with data := r.2.1, intrMode := r.2.2 })

/-- What happens to an instance: an operation is called, or the UART invokes its callback. -/
inductive InstanceEvent where
  | call (op : Operation)
  | isr (reads : List (Option UInt8))

/-- One event. The interrupt routine is invoked only where it is installed and enabled. -/
def instanceStep (cfg : SensorNodeConfig) (dev : Device) (s : Instance) :
    InstanceEvent → Option (Instance × List (Except Errno Unit))
  | .call op => (s.call cfg dev op).map fun r => (r.2, [r.1])
  | .isr reads =>
      if s.uartCallback && s.rxEnabled then
        (sensorNodeUartIsr s.data reads).map fun r => ({ s with data := r.1 }, [])
      else none

/-- Callback and receive interrupt are set up together, and nothing is assembled before. -/
structure InstanceInv (s : Instance) : Prop where
  together : s.uartCallback = s.rxEnabled
  idle : s.rxEnabled = false → s.data.rxIdx = 0

theorem instanceInv_zeroed : InstanceInv .zeroed := ⟨rfl, fun _ => rfl⟩

/-- The other operations leave the block being assembled alone. -/
theorem sampleFetch_rxIdx (data : SensorNodeData) (chan : SensorChannel) :
    (sensorNodeSampleFetch data chan).2.rxIdx = data.rxIdx := by
  unfold sensorNodeSampleFetch
  split
  · rfl
  · rfl

theorem triggerSet_rxIdx (cfg : SensorNodeConfig) (accepts : Bool) (dev : Device)
    (data : SensorNodeData) (mode : GpioIntMode) (trig : SensorTrigger)
    (handler : Option Handler) :
    (sensorNodeTriggerSet cfg accepts dev data mode trig handler).2.1.rxIdx = data.rxIdx := by
  unfold sensorNodeTriggerSet
  split_ifs
  · rfl
  · rfl
  · rcases handler with _ | h
    · rfl
    · rfl

theorem InstanceInv.call {cfg : SensorNodeConfig} {dev : Device} {s s' : Instance}
    (h : InstanceInv s) {op : Operation} {r : Except Errno Unit}
    (e : s.call cfg dev op = some (r, s')) : InstanceInv s' := by
  rcases op with env | chan | chan | ⟨chan, attr, val⟩ | ⟨accepts, trig, handler⟩
  · obtain rfl : (sensorNodeInit cfg env s).2 = s' := congrArg Prod.snd (Option.some.inj e)
    obtain ⟨⟨sem, hdata⟩, -, hout⟩ := sensorNodeInit_effect cfg env s
    have hidx : (sensorNodeInit cfg env s).2.data.rxIdx = 0 := by rw [hdata]
    rcases hout with ⟨-, -, hc, hx, -⟩ | ⟨-, -, hc, hx, -⟩ | ⟨-, -, -, hc, hx⟩
    · exact ⟨by rw [hc, hx, h.together], fun _ => hidx⟩
    · exact ⟨by rw [hc, hx], fun _ => hidx⟩
    · exact ⟨by rw [hc, hx], fun _ => hidx⟩
  · cases e
    exact ⟨h.together, fun hx => (sampleFetch_rxIdx s.data chan).trans (h.idle hx)⟩
  · cases e
    exact h
  · simp only [Instance.call] at e
    split at e
    · cases e
    · cases e
      exact ⟨h.together, h.idle⟩
  · cases e
    exact ⟨h.together, fun hx => (triggerSet_rxIdx _ _ _ _ _ _ _).trans (h.idle hx)⟩

theorem InstanceInv.step {cfg : SensorNodeConfig} {dev : Device} {s s' : Instance}
    (h : InstanceInv s) {ev : InstanceEvent} {o : List (Except Errno Unit)}
    (e : instanceStep cfg dev s ev = some (s', o)) : InstanceInv s' := by
  rcases ev with op | reads
  · obtain ⟨⟨r, t⟩, h1, h2⟩ := Option.map_eq_some_iff.mp e
    cases h2
    exact h.call h1
  · simp only [instanceStep] at e
    split at e
    · rename_i hon
      obtain ⟨⟨data, out⟩, -, h2⟩ := Option.map_eq_some_iff.mp e
      cases h2
      refine ⟨h.together, fun hx => ?_⟩
      rw [show s.rxEnabled = false from hx, Bool.and_false] at hon
      cases hon
    · cases e

/-- **Any run** of an instance from the zeroed structure. -/
theorem instance_run {cfg : SensorNodeConfig} {dev : Device} {evs : List InstanceEvent}
    {s : Instance} {outs : List (Except Errno Unit)}
    (h : run (instanceStep cfg dev) .zeroed evs = some (s, outs)) : InstanceInv s :=
  run_invariant (fun _ _ _ _ hinv e => InstanceInv.step hinv e) instanceInv_zeroed h

/-! ## 4. All or nothing -/

/-- What a failed operation should leave as it was. -/
structure Visible where
  sent : List UInt8
  rxBuf : Vector UInt8 10
  rxIdx : UInt8
  readyBuf : DataFrame
  fields : Fields
  trig : SensorTrigger
  triggerHandler : Option Handler
  triggerDev : Option Device
  uartCallback : Bool
  rxEnabled : Bool
  intrMode : GpioIntMode
  deriving DecidableEq, Repr

def Instance.visible (s : Instance) : Visible where
  sent := s.sent
  rxBuf := s.data.rxBuf
  rxIdx := s.data.rxIdx
  readyBuf := s.data.readyBuf
  fields := s.data.fields
  trig := s.data.trig
  triggerHandler := s.data.triggerHandler
  triggerDev := s.data.triggerDev
  uartCallback := s.uartCallback
  rxEnabled := s.rxEnabled
  intrMode := s.intrMode

/-- **The law of an operation**: where it fails, nothing visible changes; and a `trigger_set` that
    succeeds had its interrupt mode accepted. -/
def AllOrNothing (cfg : SensorNodeConfig) (dev : Device) (s : Instance) (op : Operation) : Prop :=
  ∀ r s', s.call cfg dev op = some (r, s') →
    (∀ err, r = .error err → s'.visible = s.visible) ∧
    ∀ accepts trig handler, op = .triggerSet accepts trig handler → r = .ok () → accepts = true

/-- **When the law holds**: a failing initialisation finds no block being assembled, one that
    fails at the interrupt port finds the UART set up already, and a threshold trigger with a wired
    line has its mode accepted. -/
def Spared (cfg : SensorNodeConfig) (s : Instance) : Operation → Prop
  | .init env => (UartFails cfg env ∨ PortFails cfg env → s.data.rxIdx = 0) ∧
      (PortFails cfg env → s.uartCallback = true)
  | .sampleFetch _ => True
  | .channelGet _ => True
  | .attrSet _ _ _ => True
  | .triggerSet accepts trig _ =>
      trig.type = .threshold → cfg.intrGpioPort ≠ none → accepts = true

/-- What a failing initialisation leaves visible. -/
theorem init_visible {cfg : SensorNodeConfig} {env : InitOutcome} {s : Instance}
    (h : InitEffect cfg env s (sensorNodeInit cfg env s))
    (hmode : (sensorNodeInit cfg env s).2.intrMode = s.intrMode) :
    (sensorNodeInit cfg env s).2.visible = { s.visible with
      rxIdx := 0
      uartCallback := (sensorNodeInit cfg env s).2.uartCallback
      rxEnabled := (sensorNodeInit cfg env s).2.rxEnabled } := by
  obtain ⟨⟨sem, hdata⟩, hsent, -⟩ := h
  simp only [Instance.visible, hdata, hsent, hmode]
  rfl

/-- Writing what was there. -/
theorem visible_same {s : Instance} {idx : UInt8} {cb rx : Bool} (h1 : s.data.rxIdx = idx)
    (h2 : s.uartCallback = cb) (h3 : s.rxEnabled = rx) :
    ({ s.visible with rxIdx := idx, uartCallback := cb, rxEnabled := rx } : Visible) =
      s.visible := by
  cases h1
  cases h2
  cases h3
  rfl

theorem init_allOrNothing {cfg : SensorNodeConfig} {dev : Device} {s : Instance}
    (hinv : InstanceInv s) (env : InitOutcome) :
    AllOrNothing cfg dev s (.init env) ↔ Spared cfg s (.init env) := by
  have heff := sensorNodeInit_effect cfg env s
  constructor
  · intro h
    have hcall := (h (sensorNodeInit cfg env s).1 (sensorNodeInit cfg env s).2 rfl).1
    rcases heff.outcome with ⟨hf, hr, hc, hx, hm⟩ | ⟨hf, hr, hc, hx, hm⟩ | ⟨hu, hp, -⟩
    · have hvis := (init_visible heff hm).symm.trans (hcall _ hr)
      exact ⟨fun _ => (congrArg Visible.rxIdx hvis).symm, fun hp => absurd hf hp.1⟩
    · have hvis := (init_visible heff hm).symm.trans (hcall _ hr)
      refine ⟨fun _ => (congrArg Visible.rxIdx hvis).symm, fun _ => ?_⟩
      exact (congrArg Visible.uartCallback hvis).symm.trans hc
    · exact ⟨fun hf => absurd hf (not_or.mpr ⟨hu, hp⟩), fun hf => absurd hf hp⟩
  · intro h r s' e
    obtain ⟨hidx, hcb⟩ := h
    obtain rfl : (sensorNodeInit cfg env s).1 = r := congrArg Prod.fst (Option.some.inj e)
    obtain rfl : (sensorNodeInit cfg env s).2 = s' := congrArg Prod.snd (Option.some.inj e)
    refine ⟨fun err herr => ?_, fun _ _ _ hop => (by cases hop)⟩
    rcases heff.outcome with ⟨hf, -, hc, hx, hm⟩ | ⟨hf, -, hc, hx, hm⟩ | ⟨-, -, hr, -⟩
    · exact (init_visible heff hm).trans (visible_same (hidx (Or.inl hf)) hc.symm hx.symm)
    · have hon := (hcb hf).trans hc.symm
      have hrx := (hinv.together.symm.trans (hcb hf)).trans hx.symm
      exact (init_visible heff hm).trans (visible_same (hidx (Or.inr hf)) hon hrx)
    · rw [hr] at herr
      cases herr

/-- `trigger_set` fails before it stores anything. -/
theorem triggerSet_allOrNothing {cfg : SensorNodeConfig} {dev : Device} {s : Instance}
    (accepts : Bool) (trig : SensorTrigger) (handler : Option Handler) :
    AllOrNothing cfg dev s (.triggerSet accepts trig handler) ↔
      Spared cfg s (.triggerSet accepts trig handler) := by
  by_cases ht : trig.type = .threshold
  · by_cases hp : cfg.intrGpioPort = none
    · refine iff_of_true (fun r s' e => ?_) (fun _ hp' => absurd hp hp')
      simp only [Instance.call, sensorNodeTriggerSet, ht, hp] at e
      cases e
      exact ⟨fun _ _ => rfl, fun _ _ _ _ hr => (by cases hr)⟩
    · have hok : ∃ s', s.call cfg dev (.triggerSet accepts trig handler) = some (.ok (), s') := by
        rcases handler with _ | h
        · exact ⟨_, by simp [Instance.call, sensorNodeTriggerSet, ht, hp]; rfl⟩
        · exact ⟨_, by simp [Instance.call, sensorNodeTriggerSet, ht, hp]; rfl⟩
      obtain ⟨s', hok⟩ := hok
      constructor
      · intro h _ _
        exact (h _ _ hok).2 accepts trig handler rfl rfl
      · intro h r t e
        obtain ⟨rfl, rfl⟩ : Except.ok () = r ∧ s' = t :=
          Prod.mk.inj (Option.some.inj (hok.symm.trans e))
        refine ⟨fun _ herr => (by cases herr), fun _ _ _ hop _ => ?_⟩
        cases hop
        exact h ht hp
  · refine iff_of_true (fun r s' e => ?_) (fun ht' => absurd ht' ht)
    simp only [Instance.call, sensorNodeTriggerSet, ne_eq, ht, not_false_eq_true, if_true] at e
    cases e
    exact ⟨fun _ _ => rfl, fun _ _ _ _ hr => (by cases hr)⟩

/-- The other operations keep the law in every state: a fetch that times out, an unknown channel
    and an unknown attribute touch nothing. -/
theorem allOrNothing_other {cfg : SensorNodeConfig} {dev : Device} {s : Instance}
    {op : Operation} (hop : ∀ accepts trig handler, op ≠ .triggerSet accepts trig handler)
    (hfail : ∀ err s', s.call cfg dev op = some (.error err, s') → s' = s) :
    AllOrNothing cfg dev s op := by
  intro r s' e
  refine ⟨fun err herr => ?_, fun accepts trig handler h => absurd h (hop _ _ _)⟩
  rw [herr] at e
  rw [hfail err s' e]

theorem sampleFetch_fails {data : SensorNodeData} {chan : SensorChannel} {err : Errno}
    (h : (sensorNodeSampleFetch data chan).1 = .error err) :
    (sensorNodeSampleFetch data chan).2 = data := by
  unfold sensorNodeSampleFetch at h ⊢
  split at h
  · rfl
  · cases h

theorem attrSet_fails {chan : SensorChannel} {attr : SensorAttribute} {val : SensorValue}
    {err : Errno} (h : (sensorNodeAttrSet chan attr val).1 = .error err) :
    (sensorNodeAttrSet chan attr val).2 = [] := by
  rcases attr with a | id
  · cases h
  · rfl

/-- **Which operations are all-or-nothing.** In every state that any run of operations and
    interrupts reaches from the zeroed structure, and for every operation, arguments and answers:
    the law holds if and only if the operation is spared. -/
theorem allOrNothing_iff (cfg : SensorNodeConfig) (dev : Device) {evs : List InstanceEvent}
    {s : Instance} {outs : List (Except Errno Unit)}
    (hrun : run (instanceStep cfg dev) .zeroed evs = some (s, outs)) (op : Operation) :
    AllOrNothing cfg dev s op ↔ Spared cfg s op := by
  rcases op with env | chan | chan | ⟨chan, attr, val⟩ | ⟨accepts, trig, handler⟩
  · exact init_allOrNothing (instance_run hrun) env
  · refine iff_of_true (allOrNothing_other (fun _ _ _ h => (by cases h)) ?_) trivial
    intro err s' e
    obtain ⟨h1, rfl⟩ := Prod.mk.inj (Option.some.inj e)
    rw [sampleFetch_fails h1]
  · refine iff_of_true (allOrNothing_other (fun _ _ _ h => (by cases h)) ?_) trivial
    intro err s' e
    exact (congrArg Prod.snd (Option.some.inj e)).symm
  · refine iff_of_true (allOrNothing_other (fun _ _ _ h => (by cases h)) ?_) trivial
    intro err s' e
    simp only [Instance.call] at e
    split at e
    · cases e
    · obtain ⟨h1, rfl⟩ := Prod.mk.inj (Option.some.inj e)
      rw [attrSet_fails h1, List.append_nil]
  · exact triggerSet_allOrNothing accepts trig handler

/-- The instance of the application: both devices wired, and every call answered with success. -/
def demoConfig : SensorNodeConfig := { uartDev := some ⟨1⟩, intrGpioPort := some ⟨2⟩ }

def allReady : InitOutcome := ⟨true, true, true, true, true⟩

/-- Arming the trigger of an initialised instance, with the interrupt mode accepted. -/
theorem allOrNothing_iff_armed :
    ∃ s outs, run (instanceStep demoConfig ⟨0⟩) .zeroed [.call (.init allReady)] =
        some (s, outs) ∧
      AllOrNothing demoConfig ⟨0⟩ s
        (.triggerSet true ⟨.threshold, .alarmStatus⟩ (some ⟨7⟩)) := by
  have hrun : run (instanceStep demoConfig ⟨0⟩) .zeroed [.call (.init allReady)] =
    some (_, _) := rfl
  exact ⟨_, _, hrun, (allOrNothing_iff demoConfig ⟨0⟩ hrun _).mpr fun _ _ => rfl⟩

/-- **Operations that are not all-or-nothing**: the first initialisation, with the interrupt port
    not ready, fails and leaves the UART callback installed and enabled; a `trigger_set` whose
    interrupt mode is rejected reports success, and stores the handler; and an initialisation that
    fails while a block is being assembled drops it. -/
theorem allOrNothing_broken :
    (¬ AllOrNothing demoConfig ⟨0⟩ .zeroed (.init { allReady with portReady := false }) ∧
      ∃ s, Instance.zeroed.call demoConfig ⟨0⟩ (.init { allReady with portReady := false }) =
        some (.error .enodev, s) ∧ s.uartCallback = true ∧ s.rxEnabled = true) ∧
    (∃ s outs s', run (instanceStep demoConfig ⟨0⟩) .zeroed [.call (.init allReady)] =
        some (s, outs) ∧
      s.call demoConfig ⟨0⟩ (.triggerSet false ⟨.threshold, .alarmStatus⟩ (some ⟨7⟩)) =
        some (.ok (), s') ∧ s'.intrMode = .disabled ∧ s'.data.triggerHandler = some ⟨7⟩) ∧
    ∃ s outs s', run (instanceStep demoConfig ⟨0⟩) .zeroed
        [.call (.init allReady), .isr [some 0xAA]] = some (s, outs) ∧ s.data.rxIdx = 1 ∧
      s.call demoConfig ⟨0⟩ (.init { allReady with uartReady := false }) =
        some (.error .enodev, s') ∧ s'.data.rxIdx = 0 := by
  refine ⟨⟨fun h => ?_, _, rfl, rfl, rfl⟩, ⟨_, _, _, rfl, rfl, rfl, rfl⟩,
    _, _, _, rfl, rfl, rfl, rfl⟩
  have hvis := (h (.error .enodev) _ rfl).1 .enodev rfl
  have : true = false := congrArg Visible.uartCallback hvis
  cases this

end HomeAlert.Base
