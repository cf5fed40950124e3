/-
  File:      HomeAlert/Link/AlarmLine.lean
  Subject:   THE INTERRUPT LINE AS ITS USER SEES IT, in every run of both nodes.

  `AlarmLine` is the abstract model: whether any alarm is active, and what is registered; a turn
  that makes an alarm active calls the handler if the trigger is armed. It knows no mask, no pin
  level and no driver. The system refines it (`calls_run`): whatever is requested, fetched and
  received in between, no request reaches the interrupt settings, so all alarms drive the line.
-/
import HomeAlert.Link.Supervision

namespace HomeAlert.Link

open Machine Base Node

/-! ## 1. The abstract line -/

/-- Whether an alarm is active, whether the trigger is armed, and the call it makes. -/
structure AlarmLine where
  active : Bool
  armed : Bool
  call : Option HandlerCall
  deriving DecidableEq, Repr

/-- Nothing active, nothing registered. -/
def AlarmLine.quiet : AlarmLine := { active := false, armed := false, call := none }

/-- One observation: a turn may make an alarm active, a trigger that the driver accepts replaces
    what is registered (and arms or disarms the pin if the GPIO driver lets it), and nothing else
    matters to the line. -/
def AlarmLine.step (dev : Device) (l : AlarmLine) : SystemObs → AlarmLine × List HandlerCall
  | .turned _ out =>
      ({ l with active := out.alarm != 0 },
        if l.armed && !l.active && out.alarm != 0 then l.call.toList else [])
  | .triggered accepts trig handler (.ok ()) =>
      ({ l with armed := if accepts then handler.isSome else l.armed
                call := handler.map fun h => { handler := h, dev := some dev, trig := trig } },
        [])
  | _ => (l, [])

/-- The calls of handlers in a log. -/
def calls (log : List SystemObs) : List HandlerCall :=
  log.filterMap fun o => match o with
    | .called c => some c
    | _ => none

theorem calls_append (a b : List SystemObs) : calls (a ++ b) = calls a ++ calls b :=
  List.filterMap_append

/-! ## 2. Refinement -/

/-- The line of a state of the system. -/
structure LineOf (l : AlarmLine) (s : System) : Prop where
  active : l.active = s.node.intrPin
  armed : l.armed = decide (s.mode = .edgeRising)
  call : l.call.toList = sensorNodeIntrGpioCb s.base.data

/-- What matters to the line besides the node: the pin's mode and the registered trigger. -/
theorem LineOf.frame {l : AlarmLine} {s s' : System} (h : LineOf l s) (hnode : s'.node = s.node)
    (hmode : s'.mode = s.mode)
    (hcb : sensorNodeIntrGpioCb s'.base.data = sensorNodeIntrGpioCb s.base.data) : LineOf l s' :=
  ⟨by rw [h.active, hnode], by rw [h.armed, hmode], by rw [h.call, hcb]⟩

/-- Observations of the driver, reports and requests do not matter to the line. -/
theorem exec_step_skip (dev : Device) {obs : List SystemObs}
    (h : ∀ o ∈ obs, ∀ l : AlarmLine, l.step dev o = (l, [])) (l : AlarmLine) :
    exec (AlarmLine.step dev) l obs = (l, []) := by
  induction obs with
  | nil => rfl
  | cons o obs ih =>
    rw [exec_cons, h o List.mem_cons_self l, ih fun o' ho' => h o' (List.mem_cons_of_mem o ho')]
    rfl

/-- The interrupt routine leaves the trigger alone. -/
theorem isr_callback {data data' : SensorNodeData} {reads : List (Option UInt8)}
    {out : List DataFrame} (h : sensorNodeUartIsr data reads = some (data', out)) :
    sensorNodeIntrGpioCb data' = sensorNodeIntrGpioCb data := by
  have hpub := isr_published h
  unfold Published at hpub
  rw [hpub]
  rfl

/-- `sensor_node_trigger_set`, as the line sees it. -/
theorem LineOf.triggerSet {l : AlarmLine} {s : System} (h : LineOf l s) (cfg : SensorNodeConfig)
    (accepts : Bool) (dev : Device) (trig : SensorTrigger) (handler : Option Handler) :
    let r := sensorNodeTriggerSet cfg accepts dev s.base.data s.mode trig handler
    LineOf (l.step dev (.triggered accepts trig handler r.1)).1
      { s with base := { s.base with data := r.2.1 }, mode := r.2.2 } := by
  have harmed := h.armed
  simp only [sensorNodeTriggerSet]
  split_ifs
  · exact h
  · exact h
  · rcases handler with _ | f
    · cases accepts
      · exact ⟨h.active, harmed, rfl⟩
      · exact ⟨h.active, rfl, rfl⟩
    · cases accepts
      · exact ⟨h.active, harmed, rfl⟩
      · exact ⟨h.active, rfl, rfl⟩

/-- **A turn, as the line sees it**: the edge of the pin is the start of an alarm. -/
theorem LineOf.turn {l : AlarmLine} {s : System} (h : LineOf l s) (dev : Device) (i : LoopInput)
    {out : LoopOutput} (halarm : out.intrPin = (out.alarm != 0)) :
    (l.step dev (.turned i out)).2 =
        gpioEdge s.mode s.base.data s.node.intrPin out.intrPin ∧
      (l.step dev (.turned i out)).1 = { l with active := out.intrPin } := by
  refine ⟨?_, by rw [halarm]; rfl⟩
  show (if l.armed && !l.active && out.alarm != 0 then l.call.toList else []) = _
  rw [h.armed, h.active, h.call, ← halarm, gpioEdge]
  by_cases hmode : s.mode = .edgeRising
  · cases s.node.intrPin <;> cases out.intrPin <;> simp [hmode]
  · simp [hmode]

/-- The state of the refinement behind the observations `log`. -/
structure LineInv (conv : FloatConv) (cal : BmeCalib) (dev : Device) (log : List SystemObs)
    (s : System) : Prop where
  system : SystemInv conv cal log s
  line : LineOf (exec (AlarmLine.step dev) .quiet log).1 s
  calls : calls log = (exec (AlarmLine.step dev) .quiet log).2

theorem LineInv.step {conv : FloatConv} {cal : BmeCalib} {cfg : SensorNodeConfig} {dev : Device}
    {log : List SystemObs} {s s' : System} {ev : SystemEvent} {obs : List SystemObs}
    (h : LineInv conv cal dev log s) (hs : systemStep conv cfg dev s ev = some (s', obs)) :
    LineInv conv cal dev (log ++ obs) s' := by
  have hsys := h.system.step hs
  -- what neither matters to the line nor calls
  have hskip : (∀ o ∈ obs, ∀ l : AlarmLine, l.step dev o = (l, [])) → Link.calls obs = [] →
      s'.node = s.node → s'.mode = s.mode →
      sensorNodeIntrGpioCb s'.base.data = sensorNodeIntrGpioCb s.base.data →
      LineInv conv cal dev (log ++ obs) s' := by
    intro hobs hnone hnode hmode hcb
    refine ⟨hsys, ?_, ?_⟩
    · rw [exec_append, exec_step_skip dev hobs]
      exact h.line.frame hnode hmode hcb
    · rw [exec_append, exec_step_skip dev hobs, calls_append, hnone, h.calls]
  cases systemStep_cases hs with
  | turn i n node hrx h1 =>
    have hpin := intrPin_run hsys
    have hline : (shown conv node).intrPin = node.intrPin := by
      obtain ⟨out, ho, hl, -⟩ := mainStep_line h1
      rw [List.singleton_inj.mp ho, hl]
    have halarm : (shown conv node).intrPin = ((shown conv node).alarm != 0) := by
      rw [Bool.eq_iff_iff, bne_iff_ne, hline]
      exact hpin
    obtain ⟨hcall, hnext⟩ := h.line.turn dev i halarm
    have hexec : exec (AlarmLine.step dev) (exec (AlarmLine.step dev) .quiet log).1
        (.turned i (shown conv node) ::
          (gpioEdge s.mode s.base.data s.node.intrPin node.intrPin).map .called) =
        ({ (exec (AlarmLine.step dev) .quiet log).1 with active := node.intrPin },
          gpioEdge s.mode s.base.data s.node.intrPin node.intrPin) := by
      rw [exec_cons, exec_step_skip dev (fun o ho l => ?_), hnext, hcall, hline, List.append_nil]
      obtain ⟨c, -, rfl⟩ := List.mem_map.mp ho
      rfl
    have hcalled : ∀ cs : List HandlerCall, Link.calls (cs.map SystemObs.called) = cs := by
      intro cs
      simp [Link.calls, List.filterMap_map]
    refine ⟨hsys, ?_, ?_⟩
    · rw [exec_append, hexec]
      exact ⟨rfl, h.line.armed, h.line.call⟩
    · rw [exec_append, hexec, calls_append, h.calls]
      exact congrArg (_ ++ ·) (hcalled _)
  | isr reads data out hpre h1 =>
    refine hskip (fun o ho l => ?_) ?_ rfl rfl (isr_callback h1)
    · rw [List.map_map, List.mem_map] at ho
      obtain ⟨f, -, rfl⟩ := ho
      rfl
    · simp [Link.calls, List.filterMap_map]
  | timedOut =>
    refine hskip (fun o ho l => ?_) rfl rfl rfl rfl
    rw [List.mem_singleton.mp ho]
    rfl
  | take sem ht => exact hskip (fun o ho => by cases ho) rfl rfl rfl rfl
  | read bs b v hbs hne => exact hskip (fun o ho => by cases ho) rfl rfl rfl rfl
  | report v r halarm hof =>
    refine hskip (fun o ho l => ?_) rfl rfl rfl rfl
    rcases List.mem_cons.mp ho with rfl | ho
    · rfl
    · rw [List.mem_singleton.mp ho]
      rfl
  | request r =>
    refine hskip (fun o ho l => ?_) rfl rfl rfl rfl
    rw [List.mem_singleton.mp ho]
    rfl
  | refused chan id val =>
    refine hskip (fun o ho l => ?_) rfl rfl rfl rfl
    rw [List.mem_singleton.mp ho]
    rfl
  | trigger accepts trig handler r hr =>
    subst hr
    refine ⟨hsys, ?_, ?_⟩
    · rw [exec_append, exec_singleton]
      exact h.line.triggerSet cfg accepts dev trig handler
    · rw [exec_append, exec_singleton, calls_append, h.calls]
      have hnone : ∀ (l : AlarmLine) (ret : Except Errno Unit),
          (l.step dev (.triggered accepts trig handler ret)).2 = [] := by
        intro l ret
        rcases ret with _ | _
        · rfl
        · rfl
      rw [hnone]
      rfl

/-- **The registered handler is called when an alarm starts, and at no other moment.** In every run
    of both nodes, in any order of their events, the calls made are those of the abstract line:
    one in each turn whose alarm byte is not 0 where that of the turn before was, while the trigger
    is armed, with the handler, device and trigger registered then. -/
theorem calls_run (conv : FloatConv) (cal : BmeCalib) (cfg : SensorNodeConfig)
    (dev uart : Device) (evs : List SystemEvent) (s : System) (log : List SystemObs)
    (hrun : run (systemStep conv cfg dev) (.initial cal uart) evs = some (s, log)) :
    calls log = (exec (AlarmLine.step dev) .quiet log).2 := by
  have h := run_log (P := LineInv conv cal dev) (fun _ _ _ _ _ hinv hs => hinv.step hs)
    ⟨systemInv_initial conv cal uart, ⟨rfl, rfl, rfl⟩, rfl⟩ hrun
  exact h.calls

/-- Two alarms, with one turn between them that has none: two calls. -/
theorem calls_run_demo :
    ∃ s log, run (systemStep .wrapping wired ⟨1⟩) (.initial someCalib ⟨0⟩)
        (firstEvents ++ moreEvents) = some (s, log) ∧
      calls log = [⟨⟨2⟩, some ⟨1⟩, alarmTrig⟩, ⟨⟨2⟩, some ⟨1⟩, alarmTrig⟩] ∧
      calls log = (exec (AlarmLine.step ⟨1⟩) .quiet log).2 := by
  have h : (run (systemStep .wrapping wired ⟨1⟩) (.initial someCalib ⟨0⟩)
      (firstEvents ++ moreEvents)).map (fun r => calls r.2) =
      some [⟨⟨2⟩, some ⟨1⟩, alarmTrig⟩, ⟨⟨2⟩, some ⟨1⟩, alarmTrig⟩] := by decide +kernel
  obtain ⟨⟨s, log⟩, hrun, hcalls⟩ := Option.map_eq_some_iff.mp h
  exact ⟨s, log, hrun, hcalls, calls_run .wrapping someCalib wired ⟨1⟩ ⟨0⟩ _ s log hrun⟩

end HomeAlert.Link
