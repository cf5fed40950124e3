/-
  File:      HomeAlert/Link/System.lean
  Subject:   BOTH NODES AND THE WIRES BETWEEN THEM, under any interleaving.

  The state holds the sensor node's loop, the base node's driver with a fetch that the interrupt
  routine may interrupt, its LEDs, and what is on the three wires: bytes sent upward and downward
  and not yet received, and the level of the interrupt line (`node.intrPin`). The UARTs lose
  nothing; how long a byte travels, how the interrupt routine and the polls cut the bytes, and when
  each node takes its next step is left open, so a run is any order of `SystemEvent`s.

  A turn of the sensor node is one event: its poll, its edge of the interrupt line and its frame
  meet the base node through the wires only, and `n` is any number of bytes that have arrived.

  * `BaseInv`, `BaseInv.step` -- what the base node knows comes from the bytes it has received, and
    the LEDs show the newest frame there was at the last report;
  * `SystemInv` -- the invariant, for the observations `log` made so far: the sensor node is where
    its turns alone lead it, and both streams are cut in two by what was received of them;
  * `system_run` -- every run keeps it.
-/
import HomeAlert.Base.Preemption
import HomeAlert.Link.Notification
import HomeAlert.Link.Panel

namespace HomeAlert.Link

open Framing Machine Mailbox Base Node

/-! ## 1. State, events, observations -/

/-- Both nodes and the wires; the oldest byte of a wire comes first. -/
structure System where
  node : LoopState
  up : List UInt8
  base : FetchState
  leds : Leds
  down : List UInt8
  mode : GpioIntMode
  deriving DecidableEq, Repr

/-- The sensor node enters its loop, the base node has initialised its driver and its LEDs. -/
def System.initial (cal : BmeCalib) (uart : Device) : System where
  node := .initial cal
  up := []
  base := .initial uart
  leds := Leds.off
  down := []
  mode := .disabled

/-- A turn of the sensor node that finds at most `n` bytes and these measurements; at the base node
    an invocation of the interrupt routine, the take or a read of a fetch, and the two operations
    by which the application configures. -/
inductive SystemEvent where
  | turn (n : Nat) (ultra : Option ℚ) (adc : Option UInt16) (bme : Option BmeReads)
  | isr (reads : List (Option UInt8))
  | take
  | read
  | attrSet (chan : SensorChannel) (attr : SensorAttribute) (val : SensorValue)
  | triggerSet (accepts : Bool) (trig : SensorTrigger) (handler : Option Handler)

/-- What can be observed: a turn with what it found and left, a call of the registered handler,
    what the driver did, a report that was printed and shown, and the two operations with their
    results. -/
inductive SystemObs where
  | turned (i : LoopInput) (out : LoopOutput)
  | called (c : HandlerCall)
  | driver (o : FetchObs)
  | showed (r : Report)
  | configured (chan : SensorChannel) (attr : SensorAttribute) (val : SensorValue)
      (ret : Except Errno Unit)
  | triggered (accepts : Bool) (trig : SensorTrigger) (handler : Option Handler)
      (ret : Except Errno Unit)

/-- One event. The interrupt routine reads bytes that have been sent, in order. Behind the last
    read of a fetch the application gets the channels and sets the LEDs. -/
def systemStep (conv : FloatConv) (cfg : SensorNodeConfig) (dev : Device) (s : System) :
    SystemEvent → Option (System × List SystemObs)
  | .turn n ultra adc bme => do
      let i : LoopInput := { rx := s.down.take n, ultra := ultra, adc := adc, bme := bme }
      let (node, outs) ← mainStep conv s.node i
      some ({ s with node := node, down := s.down.drop n,
                     up := s.up ++ outs.flatMap fun out => out.frame.toList },
        outs.flatMap fun out => .turned i out ::
          (gpioEdge s.mode s.base.data s.node.intrPin out.intrPin).map .called)
  | .isr reads =>
      if (fifoBytes reads).isPrefixOf s.up then do
        let (base, obs) ← preemptStep s.base (.isr reads)
        some ({ s with base := base, up := s.up.drop (fifoBytes reads).length }, obs.map .driver)
      else none
  | .take => do
      let (base, obs) ← preemptStep s.base .take
      some ({ s with base := base }, obs.map .driver)
  | .read => do
      let (base, obs) ← preemptStep s.base .read
      if base.reading.isSome then some ({ s with base := base }, obs.map .driver)
      else do
        let r ← report base.data
        some ({ s with base := base, leds := r.leds }, obs.map .driver ++ [.showed r])
  | .attrSet chan attr val =>
      let r := sensorNodeAttrSet chan attr val
      some ({ s with down := s.down ++ r.2 }, [.configured chan attr val r.1])
  | .triggerSet accepts trig handler =>
      let r := sensorNodeTriggerSet cfg accepts dev s.base.data s.mode trig handler
      some ({ s with base := { s.base with data := r.2.1 }, mode := r.2.2 },
        [.triggered accepts trig handler r.1])

/-- **What an event does**, guards included: a turn of the sensor node, bytes received, a fetch
    that times out, starts, goes on or ends with a report, a request sent or refused, and
    `sensor_node_trigger_set`. -/
inductive SystemEffect (conv : FloatConv) (cfg : SensorNodeConfig) (dev : Device) (s : System) :
    System → List SystemObs → Prop where
  | turn (i : LoopInput) (n : Nat) (node : LoopState) (hrx : i.rx = s.down.take n)
      (hs : mainStep conv s.node i = some (node, [shown conv node])) :
      SystemEffect conv cfg dev s
        { s with node := node, down := s.down.drop n
                 up := s.up ++ (shown conv node).frame.toList }
        (.turned i (shown conv node) ::
          (gpioEdge s.mode s.base.data s.node.intrPin node.intrPin).map .called)
  | isr (reads : List (Option UInt8)) (data : SensorNodeData) (out : List DataFrame)
      (hpre : fifoBytes reads <+: s.up)
      (hs : sensorNodeUartIsr s.base.data reads = some (data, out)) :
      SystemEffect conv cfg dev s
        { s with base := { s.base with data := data }, up := s.up.drop (fifoBytes reads).length }
        ((out.map FetchObs.completed).map .driver)
  | timedOut : SystemEffect conv cfg dev s s [.driver .timedOut]
  | take (sem : KSem) (hs : s.base.data.frameSem.take = some sem) :
      SystemEffect conv cfg dev s
        { s with base := { data := { s.base.data with frameSem := sem }, reading := some [] } } []
  | read (bs : List UInt8) (b : UInt8) (v : Fields) (hbs : s.base.reading = some bs)
      (hne : bs.length + 1 ≠ 8) :
      SystemEffect conv cfg dev s
        { s with base := { data := s.base.data.withFields v, reading := some (bs ++ [b]) } } []
  | report (v : Fields) (r : Report)
      (halarm : v.alarmStatus = (frameFields s.base.data.readyBuf).alarmStatus) (hof : r.Of v) :
      SystemEffect conv cfg dev s
        { s with base := { data := s.base.data.withFields v, reading := none }, leds := r.leds }
        [.driver (.reported v), .showed r]
  | request (r : Request) :
      SystemEffect conv cfg dev s { s with down := s.down ++ r.bytes }
        [.configured r.chan (.node r.attr) r.val (.ok ())]
  | refused (chan : SensorChannel) (id : Nat) (val : SensorValue) :
      SystemEffect conv cfg dev s s [.configured chan (.other id) val (.error .enotsup)]
  | trigger (accepts : Bool) (trig : SensorTrigger) (handler : Option Handler)
      (r : Except Errno Unit × SensorNodeData × GpioIntMode)
      (hr : r = sensorNodeTriggerSet cfg accepts dev s.base.data s.mode trig handler) :
      SystemEffect conv cfg dev s
        { s with base := { s.base with data := r.2.1 }, mode := r.2.2 }
        [.triggered accepts trig handler r.1]

/-- **Inversion of an event.** -/
theorem systemStep_cases {conv : FloatConv} {cfg : SensorNodeConfig} {dev : Device}
    {s s' : System} {ev : SystemEvent} {obs : List SystemObs}
    (h : systemStep conv cfg dev s ev = some (s', obs)) : SystemEffect conv cfg dev s s' obs := by
  rcases ev with ⟨n, ultra, adc, bme⟩ | reads | _ | _ | ⟨chan, attr, val⟩ |
    ⟨accepts, trig, handler⟩
  · simp only [systemStep, Option.bind_eq_bind, Option.bind_eq_some_iff] at h
    obtain ⟨⟨node, outs⟩, h1, e⟩ := h
    obtain rfl := (mainStep_cases h1).out
    obtain ⟨out, ho, hline, -⟩ := mainStep_line h1
    obtain rfl := List.singleton_inj.mp ho
    cases e
    have hturn : SystemEffect conv cfg dev s _ _ := .turn _ n node rfl h1
    rw [hline] at hturn
    simpa using hturn
  · simp only [systemStep] at h
    split at h
    · rename_i hpre
      simp only [preemptStep, Option.bind_eq_bind, Option.bind_eq_some_iff,
        Option.map_eq_some_iff] at h
      obtain ⟨-, ⟨⟨data, out⟩, h1, rfl⟩, e⟩ := h
      cases e
      exact .isr reads data out (List.isPrefixOf_iff_prefix.mp hpre) h1
    · cases h
  · simp only [systemStep, Option.bind_eq_bind, Option.bind_eq_some_iff] at h
    obtain ⟨⟨base, fobs⟩, h1, e⟩ := h
    cases e
    rcases hr : s.base.reading with _ | bs
    · rcases ht : s.base.data.frameSem.take with _ | sem
      · simp only [preemptStep, hr, ht] at h1
        cases h1
        exact .timedOut
      · simp only [preemptStep, hr, ht] at h1
        cases h1
        exact .take sem ht
    · simp [preemptStep, hr] at h1
  · simp only [systemStep, Option.bind_eq_bind, Option.bind_eq_some_iff] at h
    obtain ⟨⟨⟨data, reading⟩, fobs⟩, h1, e⟩ := h
    obtain ⟨hdata, hout⟩ := read_effect h1
    rcases hout with ⟨bs, b, hbs, hne, hreading, rfl⟩ | ⟨bs, -, -, hreading, rfl, halarm⟩
    · obtain rfl : reading = some (bs ++ [b]) := hreading
      rw [show data = s.base.data.withFields data.fields from hdata] at e
      cases e
      exact .read bs b _ hbs hne
    · obtain rfl : reading = none := hreading
      rcases report_of data with ⟨r, hr, hof⟩
      simp only [Option.isSome_none, Bool.false_eq_true, if_false, hr, Option.bind_some] at e
      rw [show data = s.base.data.withFields data.fields from hdata] at e
      cases e
      exact .report _ r halarm hof
  · rcases attr with a | id
    · cases h
      exact .request ⟨chan, a, val⟩
    · cases h
      rw [show s.down ++ (sensorNodeAttrSet chan (.other id) val).2 = s.down from
        List.append_nil s.down]
      exact .refused chan id val
  · cases h
    exact .trigger accepts trig handler _ rfl

/-! ## 2. Reading a log -/

/-- What the turns found, in order. -/
def inputs (log : List SystemObs) : List LoopInput :=
  log.filterMap fun o => match o with
    | .turned i _ => some i
    | _ => none

/-- What they left. -/
def outputs (log : List SystemObs) : List LoopOutput :=
  log.filterMap fun o => match o with
    | .turned _ out => some out
    | _ => none

/-- The frames the driver completed. -/
def frames (log : List SystemObs) : List DataFrame :=
  log.filterMap fun o => match o with
    | .driver (.completed f) => some f
    | _ => none

/-- The requests that `sensor_node_attr_set` accepted. -/
def requests (log : List SystemObs) : List Request :=
  log.filterMap fun o => match o with
    | .configured chan (.node attr) val (.ok ()) => some ⟨chan, attr, val⟩
    | _ => none

/-- Frames completed so far, and at the last report. -/
def look : Nat × Nat → SystemObs → Nat × Nat
  | t, .driver (.completed _) => (t.1 + 1, t.2)
  | t, .showed _ => (t.1, t.1)
  | t, _ => t

/-- **How many frames there were at the last report** (0 where there was none). -/
def seen (log : List SystemObs) : Nat := (log.foldl look (0, 0)).2

theorem inputs_append (a b : List SystemObs) : inputs (a ++ b) = inputs a ++ inputs b :=
  List.filterMap_append

theorem outputs_append (a b : List SystemObs) : outputs (a ++ b) = outputs a ++ outputs b :=
  List.filterMap_append

theorem frames_append (a b : List SystemObs) : frames (a ++ b) = frames a ++ frames b :=
  List.filterMap_append

theorem requests_append (a b : List SystemObs) : requests (a ++ b) = requests a ++ requests b :=
  List.filterMap_append

theorem look_fst (log : List SystemObs) (t : Nat × Nat) :
    (log.foldl look t).1 = t.1 + (frames log).length := by
  induction log generalizing t with
  | nil => rfl
  | cons o log ih =>
    rw [List.foldl_cons, ih, ← List.singleton_append, frames_append, List.length_append]
    rcases o with _ | _ | ⟨_ | _ | _⟩ | _ | _ | _
    · exact congrArg (_ + ·) (Nat.zero_add _).symm
    · exact congrArg (_ + ·) (Nat.zero_add _).symm
    · exact Nat.add_assoc _ _ _
    · exact congrArg (_ + ·) (Nat.zero_add _).symm
    · exact congrArg (_ + ·) (Nat.zero_add _).symm
    · exact congrArg (_ + ·) (Nat.zero_add _).symm
    · exact congrArg (_ + ·) (Nat.zero_add _).symm
    · exact congrArg (_ + ·) (Nat.zero_add _).symm

/-- Observations that are no report leave the count of the last report. -/
theorem seen_append {a b : List SystemObs} (h : ∀ o ∈ b, ∀ r, o ≠ .showed r) :
    seen (a ++ b) = seen a := by
  unfold seen
  rw [List.foldl_append]
  generalize List.foldl look (0, 0) a = t
  induction b generalizing t with
  | nil => rfl
  | cons o b ih =>
    rw [List.foldl_cons, ih fun o' ho' => h o' (List.mem_cons_of_mem o ho')]
    rcases o with _ | _ | ⟨_ | _ | _⟩ | r | _ | _
    · rfl
    · rfl
    · rfl
    · rfl
    · rfl
    · exact absurd rfl (h (.showed r) List.mem_cons_self r)
    · rfl
    · rfl

/-- A report looks at all frames completed so far. -/
theorem seen_showed (log : List SystemObs) (v : Fields) (r : Report) :
    seen (log ++ [.driver (.reported v), .showed r]) = (frames log).length := by
  unfold seen
  rw [List.foldl_append]
  show (log.foldl look (0, 0)).1 = _
  rw [look_fst]
  exact Nat.zero_add _

/-! ## 3. What an event does to the sensor node -/

/-- What completed frames add to a log. -/
theorem completed_append (a : List SystemObs) (out : List DataFrame) :
    let b := a ++ (out.map FetchObs.completed).map SystemObs.driver
    inputs b = inputs a ∧ outputs b = outputs a ∧ frames b = frames a ++ out ∧
      requests b = requests a ∧ seen b = seen a := by
  refine ⟨?_, ?_, ?_, ?_, seen_append ?_⟩
  · simp [inputs, List.filterMap_map]
  · simp [outputs, List.filterMap_map]
  · simp [frames, List.filterMap_map]
  · simp [requests, List.filterMap_map]
  · intro o ho r e
    rw [List.map_map, List.mem_map] at ho
    obtain ⟨f, -, rfl⟩ := ho
    cases e

/-- What a report adds to a log. -/
theorem showed_append (a : List SystemObs) (v : Fields) (r : Report) :
    let b := a ++ [.driver (.reported v), .showed r]
    inputs b = inputs a ∧ outputs b = outputs a ∧ frames b = frames a ∧
      requests b = requests a ∧ seen b = (frames a).length := by
  refine ⟨?_, ?_, ?_, ?_, seen_showed a v r⟩
  · exact (inputs_append _ _).trans (List.append_nil _)
  · exact (outputs_append _ _).trans (List.append_nil _)
  · exact (frames_append _ _).trans (List.append_nil _)
  · exact (requests_append _ _).trans (List.append_nil _)

section Node

variable {conv : FloatConv} {cfg : SensorNodeConfig} {dev : Device} {obs : List SystemObs}
  {s s' : System}

/-- **An event** is a turn of the sensor node, or leaves it and sends requests. -/
theorem event_split {ev : SystemEvent} {obs : List SystemObs}
    (hs : systemStep conv cfg dev s ev = some (s', obs)) :
    (∃ (i : LoopInput) (n : Nat) (calls : List HandlerCall), i.rx = s.down.take n ∧
        mainStep conv s.node i = some (s'.node, [shown conv s'.node]) ∧
        s'.down = s.down.drop n ∧ obs = .turned i (shown conv s'.node) :: calls.map .called) ∨
      (s'.node = s.node ∧ inputs obs = [] ∧ outputs obs = [] ∧
        s'.down = s.down ++ commandStream (requests obs)) := by
  have hnone : ∀ {l : List UInt8}, l = l ++ commandStream [] := fun {l} => (List.append_nil l).symm
  cases systemStep_cases hs with
  | turn i n node hrx h1 => exact Or.inl ⟨i, n, _, hrx, h1, rfl, rfl⟩
  | isr reads data out hpre h1 =>
    obtain ⟨hI, hO, -, hR, -⟩ := completed_append [] out
    rw [List.nil_append] at hI hO hR
    refine Or.inr ⟨rfl, hI, hO, ?_⟩
    rw [hR]
    exact hnone
  | timedOut => exact Or.inr ⟨rfl, rfl, rfl, hnone⟩
  | take sem ht => exact Or.inr ⟨rfl, rfl, rfl, hnone⟩
  | read bs b v hbs hne => exact Or.inr ⟨rfl, rfl, rfl, hnone⟩
  | report v r halarm hof => exact Or.inr ⟨rfl, rfl, rfl, hnone⟩
  | request r =>
    refine Or.inr ⟨rfl, rfl, rfl, ?_⟩
    show s.down ++ r.bytes = s.down ++ (r.bytes ++ [])
    rw [List.append_nil]
  | refused chan id val => exact Or.inr ⟨rfl, rfl, rfl, hnone⟩
  | trigger accepts trig handler r hr => exact Or.inr ⟨rfl, rfl, rfl, hnone⟩

/-- **The sensor node** takes a turn or stays where it is. -/
theorem node_step {ev : SystemEvent} (hs : systemStep conv cfg dev s ev = some (s', obs)) :
    run (mainStep conv) s.node (inputs obs) = some (s'.node, outputs obs) := by
  rcases event_split hs with ⟨i, n, calls, -, hmain, -, rfl⟩ | ⟨hnode, hI, hO, -⟩
  · have hI : inputs (.turned i (shown conv s'.node) :: calls.map .called) = [i] := by
      simp [inputs, List.filterMap_map]
    have hO : outputs (.turned i (shown conv s'.node) :: calls.map .called) =
        [shown conv s'.node] := by
      simp [outputs, List.filterMap_map]
    rw [hI, hO]
    exact (run_singleton _ _).trans hmain
  · rw [hI, hO, hnode]
    rfl

/-- **The command wire**: the turns take its oldest bytes, and the requests go behind the others. -/
theorem down_step {ev : SystemEvent} (hs : systemStep conv cfg dev s ev = some (s', obs)) :
    (inputs obs).flatMap (·.rx) ++ s'.down = s.down ++ commandStream (requests obs) := by
  rcases event_split hs with ⟨i, n, calls, hrx, -, hdown, rfl⟩ | ⟨-, hI, -, hdown⟩
  · have hI : inputs (.turned i (shown conv s'.node) :: calls.map .called) = [i] := by
      simp [inputs, List.filterMap_map]
    have hR : requests (.turned i (shown conv s'.node) :: calls.map .called) = [] := by
      simp [requests, List.filterMap_map]
    rw [hI, hR, hdown, List.flatMap_singleton, hrx, List.take_append_drop]
    exact (List.append_nil _).symm
  · rw [hI, hdown]
    rfl

end Node

/-! ## 4. What the base node knows -/

/-- The newest of some frames, where there is none the zeroed buffer. -/
def newestFrame (fs : List DataFrame) : DataFrame := fs.getLast?.getD (Vector.replicate 10 0)

/-- The bytes of the frames that the turns sent. -/
def sentBytes (outs : List LoopOutput) : List UInt8 := outs.flatMap fun out => out.frame.toList

theorem sentBytes_append (a b : List LoopOutput) :
    sentBytes (a ++ b) = sentBytes a ++ sentBytes b :=
  List.flatMap_append

/-- **The invariant of the base node**, behind the bytes `got` and the observations `log` since it
    came up: the completed frames are those that an idle receiver makes of `got`, the newest is in
    the ready buffer, and the LEDs show the newest there was at the last report. -/
structure BaseInv (log : List SystemObs) (got : List UInt8) (s : System) : Prop where
  asm : Assembling s.base.data (receive dataGrammar [] got).1
  accepted : (frames log).map Vector.toList = (receive dataGrammar [] got).2
  sem : SemOk s.base.data
  newest : s.base.data.readyBuf = newestFrame (frames log)
  seen_le : seen log ≤ (frames log).length
  leds : s.leds = ledsOf (frameFields (newestFrame ((frames log).take (seen log)))).alarmStatus
  idle : s.base.reading = none → (box s.base.data).unread = false →
    seen log = (frames log).length
  reading : ∀ bs, s.base.reading = some bs → bs.length < 8

theorem baseInv_initial {s : System} {uart : Device} (hbase : s.base = .initial uart)
    (hleds : s.leds = Leds.off) : BaseInv [] [] s where
  asm := by
    rw [hbase]
    exact assembling_idle rfl
  accepted := rfl
  sem := by
    rw [hbase]
    exact semOk_initial uart
  newest := by
    rw [hbase]
    rfl
  seen_le := Nat.le_refl 0
  leds := hleds
  idle _ _ := rfl
  reading bs hbs := by
    rw [hbase] at hbs
    cases hbs

/-- `sensor_node_trigger_set` leaves the receiver and the mailbox. -/
theorem triggerSet_receiver (cfg : SensorNodeConfig) (accepts : Bool) (dev : Device)
    (data : SensorNodeData) (mode : GpioIntMode) (trig : SensorTrigger)
    (handler : Option Handler) :
    let data' := (sensorNodeTriggerSet cfg accepts dev data mode trig handler).2.1
    box data' = box data ∧ (∀ p, Assembling data p → Assembling data' p) ∧
      (SemOk data → SemOk data') := by
  have hset : ∀ data' : SensorNodeData,
      data' = { data with trig := trig, triggerDev := some dev, triggerHandler := handler } →
      box data' = box data ∧ (∀ p, Assembling data p → Assembling data' p) ∧
        (SemOk data → SemOk data') := by
    rintro data' rfl
    exact ⟨rfl, fun _ h => h, fun h => ⟨h.limit_eq, h.count_le⟩⟩
  simp only [sensorNodeTriggerSet]
  split_ifs
  · exact ⟨rfl, fun _ h => h, id⟩
  · exact ⟨rfl, fun _ h => h, id⟩
  · rcases handler with _ | f
    · exact hset _ rfl
    · exact hset _ rfl

section Base

variable {conv : FloatConv} {cfg : SensorNodeConfig} {dev : Device} {log obs : List SystemObs}
  {got : List UInt8} {s s' : System}

/-- Observations that are neither frames nor reports, with the driver's mailbox as it was. -/
theorem BaseInv.quiet (h : BaseInv log got s) (hF : frames obs = [])
    (hS : ∀ o ∈ obs, ∀ r, o ≠ .showed r)
    (hasm : ∀ p, Assembling s.base.data p → Assembling s'.base.data p)
    (hsem : SemOk s'.base.data) (hbuf : s'.base.data.readyBuf = s.base.data.readyBuf)
    (hidle : s'.base.reading = none → (box s'.base.data).unread = false →
      s.base.reading = none ∧ (box s.base.data).unread = false)
    (hreading : ∀ bs, s'.base.reading = some bs → bs.length < 8) (hleds : s'.leds = s.leds) :
    BaseInv (log ++ obs) got s' := by
  have hframes : frames (log ++ obs) = frames log := by
    rw [frames_append, hF, List.append_nil]
  have hseen := seen_append (a := log) hS
  constructor
  · exact hasm _ h.asm
  · rw [hframes]
    exact h.accepted
  · exact hsem
  · rw [hframes, hbuf]
    exact h.newest
  · rw [hframes, hseen]
    exact h.seen_le
  · rw [hframes, hseen, hleds]
    exact h.leds
  · intro h1 h2
    rw [hframes, hseen]
    obtain ⟨h3, h4⟩ := hidle h1 h2
    exact h.idle h3 h4
  · exact hreading

/-- The base node stays where it is. -/
theorem BaseInv.same (h : BaseInv log got s) (hF : frames obs = [])
    (hS : ∀ o ∈ obs, ∀ r, o ≠ .showed r) (hbase : s'.base = s.base) (hleds : s'.leds = s.leds) :
    BaseInv (log ++ obs) got s' := by
  refine h.quiet hF hS ?_ ?_ ?_ ?_ ?_ hleds
  · exact fun _ hasm => hbase ▸ hasm
  · exact hbase ▸ h.sem
  · rw [hbase]
  · rw [hbase]
    exact fun h1 h2 => ⟨h1, h2⟩
  · rw [hbase]
    exact h.reading

/-- **One event**: the base node takes bytes off the wire, and its invariant holds behind them. -/
theorem BaseInv.step {ev : SystemEvent} (h : BaseInv log got s)
    (hs : systemStep conv cfg dev s ev = some (s', obs)) :
    ∃ more, more ++ s'.up = s.up ++ sentBytes (outputs obs) ∧
      BaseInv (log ++ obs) (got ++ more) s' := by
  have hno : ∀ {o : SystemObs}, (∀ r, o ≠ .showed r) → ∀ o' ∈ [o], ∀ r, o' ≠ .showed r := by
    intro o ho o' ho'
    rw [List.mem_singleton.mp ho']
    exact ho
  cases systemStep_cases hs with
  | turn i n node hrx h1 =>
    refine ⟨[], ?_, ?_⟩
    · simp [outputs, sentBytes, List.filterMap_map]
    · rw [List.append_nil got]
      refine h.same ?_ ?_ rfl rfl
      · simp [frames, List.filterMap_map]
      · intro o ho r e
        rw [e] at ho
        simp at ho
  | isr reads data out hpre h1 =>
    obtain ⟨-, hO, hF, -, hS⟩ := completed_append log out
    obtain ⟨d, o, h2, h3, h4⟩ := isr_run h.asm reads
    cases h1.symm.trans h2
    obtain ⟨hsem, hbox⟩ := box_published h.sem (isr_published h1)
    obtain ⟨rest, hrest⟩ := hpre
    rw [posts_eq] at hbox
    refine ⟨fifoBytes reads, ?_, ?_, ?_, hsem, ?_, ?_, ?_, ?_, h.reading⟩
    · rw [← hrest, List.drop_left]
      simp [outputs, sentBytes, List.filterMap_map]
    · rw [receive_append]
      exact h3
    · rw [hF, List.map_append, receive_append, h.accepted, h4]
    · show (box data).newest = _
      rw [hbox, hF, newestFrame, List.getLast?_append]
      show out.getLast?.getD s.base.data.readyBuf = _
      rw [h.newest]
      cases out.getLast? <;> rfl
    · rw [hF, hS, List.length_append]
      exact Nat.le_add_right_of_le h.seen_le
    · rw [hF, hS, List.take_append_of_le_length h.seen_le]
      exact h.leds
    · intro hidle hun
      rw [show (box data).unread = _ from congrArg Box.unread hbox, Bool.or_eq_false_iff,
        Bool.not_eq_false'] at hun
      rw [hF, hS, List.isEmpty_iff.mp hun.2, List.append_nil]
      exact h.idle hidle hun.1
  | timedOut =>
    refine ⟨[], (List.append_nil _).symm, ?_⟩
    rw [List.append_nil got]
    exact h.same rfl (hno fun _ e => by cases e) rfl rfl
  | take sem ht =>
    refine ⟨[], (List.append_nil _).symm, ?_⟩
    rw [List.append_nil got]
    refine h.quiet rfl ?_ (fun _ hasm => hasm) ?_ rfl ?_ ?_ rfl
    · exact fun _ ho => by cases ho
    · exact (box_take h.sem ht).2.1
    · exact fun hn => by cases hn
    · intro bs hbs
      cases hbs
      exact (by decide : 0 < 8)
  | read bs b v hbs hne =>
    refine ⟨[], (List.append_nil _).symm, ?_⟩
    rw [List.append_nil got]
    refine h.quiet rfl ?_ (fun _ hasm => hasm) ?_ rfl ?_ ?_ rfl
    · exact fun _ ho => by cases ho
    · exact ⟨h.sem.limit_eq, h.sem.count_le⟩
    · exact fun hn => by cases hn
    · intro bs' hbs'
      cases hbs'
      have hlt := h.reading bs hbs
      rw [List.length_append, List.length_singleton]
      omega
  | report v r halarm hof =>
    obtain ⟨-, -, hF, -, hS⟩ := showed_append log v r
    refine ⟨[], (List.append_nil _).symm, ?_⟩
    rw [List.append_nil got]
    constructor
    · exact h.asm
    · rw [hF]
      exact h.accepted
    · exact ⟨h.sem.limit_eq, h.sem.count_le⟩
    · rw [hF]
      exact h.newest
    · rw [hF, hS]
    · rw [hF, hS, List.take_length, ← h.newest, ← halarm]
      exact report_leds hof
    · intro _ _
      rw [hF, hS]
    · intro bs hbs
      cases hbs
  | request r =>
    refine ⟨[], (List.append_nil _).symm, ?_⟩
    rw [List.append_nil got]
    exact h.same rfl (hno fun _ e => by cases e) rfl rfl
  | refused chan id val =>
    refine ⟨[], (List.append_nil _).symm, ?_⟩
    rw [List.append_nil got]
    exact h.same rfl (hno fun _ e => by cases e) rfl rfl
  | trigger accepts trig handler r hr =>
    refine ⟨[], (List.append_nil _).symm, ?_⟩
    rw [List.append_nil got]
    obtain ⟨hbox, hasm, hsem⟩ := triggerSet_receiver cfg accepts dev s.base.data s.mode trig handler
    rw [← hr] at hbox hasm hsem
    exact h.quiet rfl (hno fun _ e => by cases e) hasm (hsem h.sem) (congrArg Box.newest hbox)
      (fun h1 h2 => ⟨h1, (congrArg Box.unread hbox).symm.trans h2⟩) h.reading rfl

end Base

/-! ## 5. Both nodes -/

/-- **The invariant**, for the observations `log` made so far. -/
structure SystemInv (conv : FloatConv) (cal : BmeCalib) (log : List SystemObs) (s : System) :
    Prop where
  node : run (mainStep conv) (.initial cal) (inputs log) = some (s.node, outputs log)
  down : (inputs log).flatMap (·.rx) ++ s.down = commandStream (requests log)
  base : ∃ got, got ++ s.up = sentBytes (outputs log) ∧ BaseInv log got s

theorem systemInv_initial (conv : FloatConv) (cal : BmeCalib) (uart : Device) :
    SystemInv conv cal [] (.initial cal uart) where
  node := rfl
  down := rfl
  base := ⟨[], rfl, baseInv_initial rfl rfl⟩

section Runs

variable {conv : FloatConv} {cal : BmeCalib} {cfg : SensorNodeConfig} {dev uart : Device}
  {log obs : List SystemObs} {s s' : System}

theorem SystemInv.sem (h : SystemInv conv cal log s) : SemOk s.base.data := by
  obtain ⟨_, -, hbase⟩ := h.base
  exact hbase.sem

theorem SystemInv.seen_le (h : SystemInv conv cal log s) : seen log ≤ (frames log).length := by
  obtain ⟨_, -, hbase⟩ := h.base
  exact hbase.seen_le

theorem SystemInv.leds (h : SystemInv conv cal log s) :
    s.leds = ledsOf (frameFields (newestFrame ((frames log).take (seen log)))).alarmStatus := by
  obtain ⟨_, -, hbase⟩ := h.base
  exact hbase.leds

theorem SystemInv.idle (h : SystemInv conv cal log s) (hidle : s.base.reading = none)
    (hread : (box s.base.data).unread = false) : seen log = (frames log).length := by
  obtain ⟨_, -, hbase⟩ := h.base
  exact hbase.idle hidle hread

theorem SystemInv.reading (h : SystemInv conv cal log s) :
    ∀ bs, s.base.reading = some bs → bs.length < 8 := by
  obtain ⟨_, -, hbase⟩ := h.base
  exact hbase.reading

/-- **One event** keeps the invariant. -/
theorem SystemInv.step {ev : SystemEvent} (h : SystemInv conv cal log s)
    (hs : systemStep conv cfg dev s ev = some (s', obs)) : SystemInv conv cal (log ++ obs) s' := by
  obtain ⟨got, hgot, hbase⟩ := h.base
  obtain ⟨more, hmore, hnext⟩ := hbase.step hs
  constructor
  · rw [inputs_append, outputs_append]
    exact run_append_eq h.node (node_step hs)
  · rw [inputs_append, requests_append, List.flatMap_append, List.append_assoc, down_step hs,
      ← List.append_assoc, h.down, commandStream_append]
  · refine ⟨got ++ more, ?_, hnext⟩
    rw [outputs_append, sentBytes_append, ← hgot, List.append_assoc, hmore, List.append_assoc]

/-- **Any run** from the start, in any order of events. -/
theorem system_run {evs : List SystemEvent}
    (h : run (systemStep conv cfg dev) (.initial cal uart) evs = some (s, log)) :
    SystemInv conv cal log s :=
  run_log (P := SystemInv conv cal) (fun _ _ _ _ _ hinv hs => hinv.step hs)
    (systemInv_initial conv cal uart) h

end Runs

end HomeAlert.Link
