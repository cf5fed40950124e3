/-
  File:      HomeAlert/Link/Shipped.lean
  Subject:   THE SYSTEM AS IT IS SHIPPED, IN TIME (base_node/src/main.c: main; the pauses of
             sensor_node/main.c and sensor_node.c).

  System.lean leaves open what the application of the base node asks for, and when. Here its thread
  is the one of `main`: it starts, registers `alarm_trigger_cb`, asks for 30 cm, and then fetches,
  reports and sleeps. The moments are microseconds: `k_sleep`, `k_msleep` and `sleep_ms` return no
  earlier than asked, and `k_sem_take` gives up after two seconds. How late a thread may be, and
  how long the bytes of a frame may travel, is the `Pace` of the hardware; time does not pass it.

  * `Shipped.Effect`, `shippedStep_cases` -- inversion of a step;
  * `shipped_system` -- the moments forgotten, a run is one of System.lean;
  * `shipped_settings` -- in every turn the thresholds are the initial ones, but for the 30 cm once
    the sensor node has polled the five bytes of that request.
-/
import HomeAlert.Library.Urgent
import HomeAlert.Link.Supervision

namespace HomeAlert.Link

open Framing Machine Mailbox Registers Urgent Base Node

/-! ## 1. The thread of main -/

/-- Where `main` stands, and since when. -/
inductive Phase where
  | starting
  | booting (since : Nat)
  | arming
  | configuring
  | fetching (since : Nat)
  | reading (since : Nat)
  | sleeping (since : Nat)
  | returned
  deriving DecidableEq, Repr

/-- The pauses of the two programs, in microseconds. -/
def bootPause : Nat := (1 + 2) * 1000 * 1000
def fetchTimeout : Nat := 2 * 1000 * 1000
def reportPause : Nat := 300 * 1000
def turnPause : Nat := 500 * 1000

/-- `alarm_trigger_cb`. -/
def alarmTriggerCb : Handler := { id := 0 }

/-- `dist_thresh`, the 30 cm that `main` asks for. -/
def distThresh : SensorValue := { val1 := 30, val2 := 0 }

/-- **What the hardware grants**: how late a thread may take a step it is ready for, and within
    what time the bytes of a frame have been read by the interrupt routine. -/
structure Pace where
  slack : Nat
  travel : Nat
  deriving DecidableEq, Repr

/-- Both nodes, the thread of `main`, the moment of the last turn of the sensor node, and the
    moment at which `frame_sem` was last given. -/
structure Shipped where
  sys : System
  phase : Phase
  turned : Option Nat
  given : Nat
  deriving DecidableEq, Repr

/-- The sensor node enters its loop, and the driver of the base node has been initialised. -/
def Shipped.initial (cal : BmeCalib) (uart : Device) : Shipped where
  sys := .initial cal uart
  phase := .starting
  turned := none
  given := 0

/-- A turn of the sensor node, an invocation of the interrupt routine, or the next step of `main`;
    `answer` is what the call it makes there answers (`device_is_ready`, the GPIO driver). -/
inductive ShippedEvent where
  | turn (n : Nat) (ultra : Option ℚ) (adc : Option UInt16) (bme : Option BmeReads)
  | isr (reads : List (Option UInt8))
  | main (answer : Bool)

/-- The next step of `main`, at the moment `t`. -/
def applicationStep (conv : FloatConv) (cfg : SensorNodeConfig) (dev : Device) (s : Shipped)
    (t : Nat) (answer : Bool) : Option (Shipped × List SystemObs) :=
  match s.phase with
  | .starting =>
      if answer then some ({ s with phase := .booting t }, [])
      else some ({ s with phase := .returned }, [])
  | .booting since =>
      if since + bootPause ≤ t then some ({ s with phase := .arming }, []) else none
  | .arming => do
      let (sys, obs) ← systemStep conv cfg dev s.sys
        (.triggerSet answer alarmTrig (some alarmTriggerCb))
      some ({ s with sys := sys, phase := .configuring }, obs)
  | .configuring => do
      let (sys, obs) ← systemStep conv cfg dev s.sys
        (.attrSet .distance (.node .distThresh) distThresh)
      some ({ s with sys := sys, phase := .fetching t }, obs)
  | .fetching since =>
      -- `k_sem_take` waits until the semaphore is there, or two seconds
      if (box s.sys.base.data).unread || decide (since + fetchTimeout ≤ t) then do
        let (sys, obs) ← systemStep conv cfg dev s.sys .take
        let phase := if sys.base.reading.isSome then .reading t else .sleeping t
        some ({ s with sys := sys, phase := phase }, obs)
      else none
  | .reading since => do
      let (sys, obs) ← systemStep conv cfg dev s.sys .read
      let phase := if sys.base.reading.isSome then .reading since else .sleeping t
      some ({ s with sys := sys, phase := phase }, obs)
  | .sleeping since =>
      if since + reportPause ≤ t then some ({ s with phase := .fetching t }, []) else none
  | .returned => none

/-- One step, at the moment `t`. Between two turns the sensor node sleeps. -/
def shippedStep (conv : FloatConv) (cfg : SensorNodeConfig) (dev : Device) (s : Shipped)
    (t : Nat) : ShippedEvent → Option (Shipped × List SystemObs)
  | .turn n ultra adc bme =>
      if s.turned.all fun u => u + turnPause ≤ t then do
        let (sys, obs) ← systemStep conv cfg dev s.sys (.turn n ultra adc bme)
        some ({ s with sys := sys, turned := some t }, obs)
      else none
  | .isr reads => do
      let (sys, obs) ← systemStep conv cfg dev s.sys (.isr reads)
      some ({ s with sys := sys, given := if obs.isEmpty then s.given else t }, obs)
  | .main answer => applicationStep conv cfg dev s t answer

/-- `main` cannot wait until `t`: a step it is ready for would be late. -/
def Phase.late (slack : Nat) (unread : Bool) (given t : Nat) : Phase → Bool
  | .fetching since =>
      if unread then max since given + slack < t else since + fetchTimeout + slack < t
  | .reading since => since + slack < t
  | .sleeping since => since + reportPause + slack < t
  | _ => false

/-- The state cannot wait until `t`: bytes of the last frame, or a step of `main`, are due. -/
def overdue (pace : Pace) (s : Shipped) (t : Nat) : Bool :=
  (!s.sys.up.isEmpty && s.turned.any fun u => u + pace.travel < t) ||
    s.phase.late pace.slack (box s.sys.base.data).unread s.given t

/-- **The shipped system.** -/
def shipped (pace : Pace) (conv : FloatConv) (cfg : SensorNodeConfig) (dev : Device) :
    Timed Shipped ShippedEvent SystemObs Nat where
  step := shippedStep conv cfg dev
  overdue := overdue pace

/-! ## 2. What a step does -/

section Steps

variable {conv : FloatConv} {cfg : SensorNodeConfig} {dev : Device}

/-- **What a step does**, guards included. -/
inductive Shipped.Effect (conv : FloatConv) (cfg : SensorNodeConfig) (dev : Device) (s : Shipped)
    (t : Nat) : Shipped → List SystemObs → Prop where
  | turn (i : SystemEvent) (sys : System) (obs : List SystemObs)
      (hi : ∃ n ultra adc bme, i = .turn n ultra adc bme)
      (hpause : ∀ u, s.turned = some u → u + turnPause ≤ t)
      (hs : systemStep conv cfg dev s.sys i = some (sys, obs)) :
      s.Effect conv cfg dev t { s with sys := sys, turned := some t } obs
  | isr (reads : List (Option UInt8)) (sys : System) (obs : List SystemObs)
      (hs : systemStep conv cfg dev s.sys (.isr reads) = some (sys, obs)) :
      s.Effect conv cfg dev t
        { s with sys := sys, given := if obs.isEmpty then s.given else t } obs
  | boot (phase : Phase) (hphase : s.phase = .starting ∨ ∃ since, s.phase = .booting since)
      (hnext : phase = .booting t ∨ phase = .returned ∨ phase = .arming) :
      s.Effect conv cfg dev t { s with phase := phase } []
  | arm (answer : Bool) (sys : System) (obs : List SystemObs) (hphase : s.phase = .arming)
      (hs : systemStep conv cfg dev s.sys
        (.triggerSet answer alarmTrig (some alarmTriggerCb)) = some (sys, obs)) :
      s.Effect conv cfg dev t { s with sys := sys, phase := .configuring } obs
  | configure (sys : System) (obs : List SystemObs) (hphase : s.phase = .configuring)
      (hs : systemStep conv cfg dev s.sys
        (.attrSet .distance (.node .distThresh) distThresh) = some (sys, obs)) :
      s.Effect conv cfg dev t { s with sys := sys, phase := .fetching t } obs
  | take (since : Nat) (sys : System) (obs : List SystemObs) (hphase : s.phase = .fetching since)
      (hwait : (box s.sys.base.data).unread = false → since + fetchTimeout ≤ t)
      (hs : systemStep conv cfg dev s.sys .take = some (sys, obs)) :
      s.Effect conv cfg dev t
        { s with sys := sys
                 phase := if sys.base.reading.isSome then .reading t else .sleeping t } obs
  | read (since : Nat) (sys : System) (obs : List SystemObs) (hphase : s.phase = .reading since)
      (hs : systemStep conv cfg dev s.sys .read = some (sys, obs)) :
      s.Effect conv cfg dev t
        { s with sys := sys
                 phase := if sys.base.reading.isSome then .reading since else .sleeping t } obs
  | wake (since : Nat) (hphase : s.phase = .sleeping since) (hpause : since + reportPause ≤ t) :
      s.Effect conv cfg dev t { s with phase := .fetching t } []

/-- **Inversion of a step.** -/
theorem shippedStep_cases {s s' : Shipped} {t : Nat} {ev : ShippedEvent} {obs : List SystemObs}
    (h : shippedStep conv cfg dev s t ev = some (s', obs)) : s.Effect conv cfg dev t s' obs := by
  rcases ev with ⟨n, ultra, adc, bme⟩ | reads | answer
  · simp only [shippedStep] at h
    split at h
    · rename_i hpause
      simp only [Option.bind_eq_bind, Option.bind_eq_some_iff] at h
      obtain ⟨⟨sys, o⟩, h1, e⟩ := h
      cases e
      refine .turn _ sys o ⟨n, ultra, adc, bme, rfl⟩ (fun u hu => ?_) h1
      rw [hu, Option.all_some, decide_eq_true_iff] at hpause
      exact hpause
    · cases h
  · simp only [shippedStep, Option.bind_eq_bind, Option.bind_eq_some_iff] at h
    obtain ⟨⟨sys, o⟩, h1, e⟩ := h
    cases e
    exact .isr reads sys o h1
  · simp only [shippedStep, applicationStep] at h
    split at h
    · rename_i hp
      split at h
      · cases h
        exact .boot _ (Or.inl hp) (Or.inl rfl)
      · cases h
        exact .boot _ (Or.inl hp) (Or.inr (Or.inl rfl))
    · rename_i since hp
      split at h
      · cases h
        exact .boot _ (Or.inr ⟨since, hp⟩) (Or.inr (Or.inr rfl))
      · cases h
    · rename_i hp
      simp only [Option.bind_eq_bind, Option.bind_eq_some_iff] at h
      obtain ⟨⟨sys, o⟩, h1, e⟩ := h
      cases e
      exact .arm answer sys o hp h1
    · rename_i hp
      simp only [Option.bind_eq_bind, Option.bind_eq_some_iff] at h
      obtain ⟨⟨sys, o⟩, h1, e⟩ := h
      cases e
      exact .configure sys o hp h1
    · rename_i since hp
      split at h
      · rename_i hwait
        simp only [Option.bind_eq_bind, Option.bind_eq_some_iff] at h
        obtain ⟨⟨sys, o⟩, h1, e⟩ := h
        cases e
        refine .take since sys o hp (fun hun => ?_) h1
        rw [hun, Bool.false_or, decide_eq_true_iff] at hwait
        exact hwait
      · cases h
    · rename_i since hp
      simp only [Option.bind_eq_bind, Option.bind_eq_some_iff] at h
      obtain ⟨⟨sys, o⟩, h1, e⟩ := h
      cases e
      exact .read since sys o hp h1
    · rename_i since hp
      split at h
      · rename_i hpause
        cases h
        exact .wake since hp hpause
      · cases h
    · cases h

/-- A step is at most one event of the system. -/
theorem Shipped.Effect.system {s s' : Shipped} {t : Nat} {obs : List SystemObs}
    (h : s.Effect conv cfg dev t s' obs) :
    ∃ evs, run (systemStep conv cfg dev) s.sys evs = some (s'.sys, obs) := by
  cases h with
  | turn i sys obs hi hpause hs => exact ⟨[i], (run_singleton _ _).trans hs⟩
  | isr reads sys obs hs => exact ⟨[_], (run_singleton _ _).trans hs⟩
  | boot phase hphase hnext => exact ⟨[], rfl⟩
  | arm answer sys obs hphase hs => exact ⟨[_], (run_singleton _ _).trans hs⟩
  | configure sys obs hphase hs => exact ⟨[_], (run_singleton _ _).trans hs⟩
  | take since sys obs hphase hwait hs => exact ⟨[_], (run_singleton _ _).trans hs⟩
  | read since sys obs hphase hs => exact ⟨[_], (run_singleton _ _).trans hs⟩
  | wake since hphase hpause => exact ⟨[], rfl⟩

/-- No event but `sensor_node_attr_set` makes a request. -/
theorem requests_quiet {s s' : System} {ev : SystemEvent} {obs : List SystemObs}
    (h : systemStep conv cfg dev s ev = some (s', obs))
    (hev : ∀ chan attr val, ev ≠ .attrSet chan attr val) : requests obs = [] := by
  rcases ev with ⟨n, ultra, adc, bme⟩ | reads | _ | _ | ⟨chan, attr, val⟩ |
    ⟨accepts, trig, handler⟩
  · simp only [systemStep, Option.bind_eq_bind, Option.bind_eq_some_iff] at h
    obtain ⟨⟨node, outs⟩, -, e⟩ := h
    cases e
    simp [requests, List.filterMap_flatMap, List.filterMap_map]
  · simp only [systemStep] at h
    split at h
    · simp only [Option.bind_eq_bind, Option.bind_eq_some_iff] at h
      obtain ⟨⟨base, fobs⟩, -, e⟩ := h
      cases e
      simp [requests, List.filterMap_map]
    · cases h
  · simp only [systemStep, Option.bind_eq_bind, Option.bind_eq_some_iff] at h
    obtain ⟨⟨base, fobs⟩, -, e⟩ := h
    cases e
    simp [requests, List.filterMap_map]
  · simp only [systemStep, Option.bind_eq_bind, Option.bind_eq_some_iff] at h
    obtain ⟨⟨base, fobs⟩, -, e⟩ := h
    split at e
    · cases e
      simp [requests, List.filterMap_map]
    · obtain ⟨r, -, e⟩ := Option.bind_eq_some_iff.mp e
      cases e
      simp [requests, List.filterMap_map]
  · exact absurd rfl (hev chan attr val)
  · cases h
    rfl

end Steps

/-! ## 3. Runs -/

/-- The one request that `main` makes. -/
def proximity : Request := { chan := .distance, attr := .distThresh, val := distThresh }

/-- What has been asked for when `main` stands where it does. -/
def Phase.asked : Phase → List Request
  | .starting | .booting _ | .arming | .configuring | .returned => []
  | .fetching _ | .reading _ | .sleeping _ => [proximity]

/-- **The thresholds of the shipped system** at a sensor node that has polled `n` bytes. -/
def shippedSettings (n : Nat) : SensorNodeAttr → ℚ :=
  if 5 ≤ n then Function.update (thresholds .initial) .distThresh 30 else thresholds .initial

section Runs

variable {pace : Pace} {conv : FloatConv} {cfg : SensorNodeConfig} {dev : Device}

/-- **The moments forgotten, a run of the shipped system is one of the two nodes.** -/
theorem shipped_system {s s' : Shipped × Nat} {evs : List (Nat × ShippedEvent)}
    {log : List (Nat × SystemObs)}
    (h : run (timed (shipped pace conv cfg dev)) s evs = some (s', log)) :
    ∃ evs', run (systemStep conv cfg dev) s.1.sys evs' = some (s'.1.sys, log.map Prod.snd) :=
  timed_refines Shipped.sys (fun _ _ _ _ _ hs => (shippedStep_cases hs).system) h

theorem Shipped.Effect.asked {s s' : Shipped} {t : Nat} {obs : List SystemObs}
    (h : s.Effect conv cfg dev t s' obs) :
    s'.phase.asked = s.phase.asked ++ requests obs := by
  cases h with
  | turn i sys obs hi hpause hs =>
    obtain ⟨n, ultra, adc, bme, rfl⟩ := hi
    rw [requests_quiet hs (fun _ _ _ e => by cases e)]
    exact (List.append_nil _).symm
  | isr reads sys obs hs =>
    rw [requests_quiet hs (fun _ _ _ e => by cases e)]
    exact (List.append_nil _).symm
  | boot phase hphase hnext =>
    have hnone : s.phase.asked = [] := by
      rcases hphase with e | ⟨since, e⟩
      · rw [e]
        rfl
      · rw [e]
        rfl
    rw [hnone]
    rcases hnext with rfl | rfl | rfl
    · rfl
    · rfl
    · rfl
  | arm answer sys obs hphase hs =>
    rw [requests_quiet hs (fun _ _ _ e => by cases e), hphase]
    rfl
  | configure sys obs hphase hs =>
    rw [hphase]
    cases hs
    rfl
  | take since sys obs hphase hwait hs =>
    rw [requests_quiet hs (fun _ _ _ e => by cases e), hphase]
    show (ite _ _ _ : Phase).asked = _
    split
    · rfl
    · rfl
  | read since sys obs hphase hs =>
    rw [requests_quiet hs (fun _ _ _ e => by cases e), hphase]
    show (ite _ _ _ : Phase).asked = _
    split
    · rfl
    · rfl
  | wake since hphase hpause =>
    rw [hphase]
    rfl

/-- **The requests of a run** are those that `main` has come past. -/
theorem shipped_requests {cal : BmeCalib} {uart : Device} {s : Shipped × Nat}
    {evs : List (Nat × ShippedEvent)} {log : List (Nat × SystemObs)}
    (h : run (timed (shipped pace conv cfg dev)) (.initial cal uart, 0) evs = some (s, log)) :
    requests (log.map Prod.snd) = s.1.phase.asked := by
  refine timed_log (P := fun log s _ => requests (log.map Prod.snd) = s.phase.asked) [] ?_ rfl h
  intro log s now t i s' out hP hle hdue hs
  rw [List.map_append, requests_append, hP, (shippedStep_cases hs).asked, List.map_map]
  congr 2
  exact List.map_id out

/-- What the thresholds are where the polls have cut the bytes of what was asked for. -/
theorem settings_asked {p : Phase} {is : List LoopInput}
    (hrx : is.flatMap (·.rx) <+: commandStream p.asked) :
    settings (received p.asked (polled is)) = shippedSettings (polled is) := by
  have hlen : polled is ≤ 5 * p.asked.length := by
    rw [← commandStream_length]
    exact hrx.length_le
  have hnone : polled is ≤ 0 →
      settings (received [] (polled is)) = shippedSettings (polled is) := by
    intro h0
    rw [Nat.le_zero.mp h0]
    rfl
  have hone : polled is ≤ 5 →
      settings (received [proximity] (polled is)) = shippedSettings (polled is) := by
    intro h5
    unfold shippedSettings received
    by_cases hall : polled is = 5
    · rw [hall]
      funext a
      rcases a <;> decide +kernel
    · rw [if_neg (by omega), Nat.div_eq_of_lt (by omega)]
      rfl
  rcases p with _ | _ | _ | _ | _ | _ | _ | _
  · exact hnone hlen
  · exact hnone hlen
  · exact hnone hlen
  · exact hnone hlen
  · exact hone hlen
  · exact hone hlen
  · exact hone hlen
  · exact hnone hlen

/-- **The thresholds of the shipped system.** In every run of it, whatever the interleaving and
    the pace: in each turn of the sensor node the thresholds are the initial ones, except that the
    distance threshold is 30 cm once the turns have polled five bytes; the interrupt settings are
    never touched; and `main` makes that one request and no other. -/
theorem shipped_settings (pace : Pace) (conv : FloatConv) (cal : BmeCalib)
    (cfg : SensorNodeConfig) (dev uart : Device) (evs : List (Nat × ShippedEvent))
    (s : Shipped × Nat) (log : List (Nat × SystemObs))
    (hrun : run (timed (shipped pace conv cfg dev)) (.initial cal uart, 0) evs = some (s, log)) :
    requests (log.map Prod.snd) = s.1.phase.asked ∧
      ∀ (j : Nat) (out : LoopOutput), (outputs (log.map Prod.snd))[j]? = some out →
        thresholds out.cfg =
            shippedSettings (polled ((inputs (log.map Prod.snd)).take (j + 1))) ∧
          out.cfg.irqEnabled = true ∧ out.cfg.irqMask = 0x17 := by
  have hreq := shipped_requests hrun
  obtain ⟨evs', hsys⟩ := shipped_system hrun
  have h := system_run hsys
  refine ⟨hreq, fun j out hj => ?_⟩
  obtain ⟨t, ht, rfl⟩ := shown_run h.node hj
  have hrx := h.polled_prefix (j + 1)
  obtain ⟨hthr, hirq⟩ := settings_run ht hrx
  rw [hreq] at hrx hthr
  exact ⟨hthr.trans (settings_asked hrx), hirq⟩

end Runs

/-- Hardware that is quick. -/
def quickPace : Pace := { slack := 1000, travel := 5000 }

/-- The base node starts up and asks for 30 cm. The sensor node finds that request and somebody at
    20 cm, its frame arrives a millisecond later, and is fetched and shown. -/
def startEvents : List (Nat × ShippedEvent) :=
  [(0, .main true), (3000000, .main true), (3000000, .main true), (3000000, .main true),
    (3000200, .turn 5 (some 20) none none),
    (3001000, .isr [some 0xAA, some 0, some 0, some 0, some 0, some 0, some 0, some 20, some 1,
      some 0x55]),
    (3001100, .main true)] ++ List.replicate 8 (3001200, .main true)

theorem start_run :
    ∃ s log, run (timed (shipped quickPace .wrapping wired ⟨1⟩)) (.initial someCalib ⟨0⟩, 0)
        startEvents = some (s, log) ∧ s.1.phase = .sleeping 3001200 := by
  have h : (run (timed (shipped quickPace .wrapping wired ⟨1⟩)) (.initial someCalib ⟨0⟩, 0)
      startEvents).map (fun r => r.1.1.phase) = some (.sleeping 3001200) := by decide +kernel
  obtain ⟨⟨s, log⟩, hrun, hphase⟩ := Option.map_eq_some_iff.mp h
  exact ⟨s, log, hrun, hphase⟩

theorem shipped_settings_demo :
    ∃ s log, run (timed (shipped quickPace .wrapping wired ⟨1⟩)) (.initial someCalib ⟨0⟩, 0)
        startEvents = some (s, log) ∧ requests (log.map Prod.snd) = [proximity] := by
  obtain ⟨s, log, hrun, hphase⟩ := start_run
  have h := (shipped_settings quickPace .wrapping someCalib wired ⟨1⟩ ⟨0⟩ startEvents s log hrun).1
  rw [hphase] at h
  exact ⟨s, log, hrun, h⟩

end HomeAlert.Link
