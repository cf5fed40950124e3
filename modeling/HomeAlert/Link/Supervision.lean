/-
  File:      HomeAlert/Link/Supervision.lean
  Subject:   WHAT THE BASE NODE SHOWS OF THE HOUSE, in every run of both nodes and their wires.

  * `system_delivery` -- nothing is lost, invented, repeated or reordered on either link: the frames
    the driver completes are the first of those sent, and each turn's settings are those of the
    requests it had received in full;
  * `leds_past` -- the LEDs always show the panel of one past moment, the same for all four, and
    they only go forward in time;
  * `leds_current` -- once the base node has taken everything that was sent, they show the panel
    of now, and the interrupt line is high exactly when one of them is lit;
  * `leds_catchUp` -- from every reachable state it can get there alone, in 18 steps.
-/
import HomeAlert.Link.System

namespace HomeAlert.Link

open Framing Machine Mailbox Base Node

/-! ## 1. The frames of a run -/

section Turns

variable {conv : FloatConv} {cal : BmeCalib} {is : List LoopInput} {s : LoopState}
  {outs : List LoopOutput}

theorem shown_alarm (conv : FloatConv) (t : LoopState) :
    (frameFields (shown conv t).frame).alarmStatus = alarmLogic t := by
  rw [shown_frame]
  exact (parse_fields (.initial ⟨0⟩) (turnPacket conv t)).2.2.2

/-- **The LEDs of a turn's frame** show the panel behind that turn. -/
theorem panel_shown (h : run (mainStep conv) (.initial cal) is = some (s, outs)) :
    Panel (readings cal is) (thresholds s.link.cfg)
      (ledsOf (frameFields (shown conv s).frame).alarmStatus) := by
  rw [shown_alarm]
  exact panel_holds (readings_run h)

/-- Every turn sends a well-formed frame that carries its alarm byte. -/
theorem outputs_frame (h : run (mainStep conv) (.initial cal) is = some (s, outs)) :
    ∀ out ∈ outs, IsFrame dataGrammar out.frame.toList ∧
      (frameFields out.frame).alarmStatus = out.alarm ∧ out.alarm &&& 0xE8 = 0 ∧
      out.intrPin = intrLevel out.cfg out.alarm := by
  intro out hout
  obtain ⟨j, hj⟩ := List.getElem?_of_mem hout
  obtain ⟨t, -, rfl⟩ := shown_run h hj
  refine ⟨?_, shown_alarm conv t, (alarmLogic_bits t).2.2.2.2, rfl⟩
  rw [shown_frame]
  exact packet_isFrame _

/-- The alarm byte of the newest frame is that of the newest turn. -/
theorem newestFrame_alarm (h : run (mainStep conv) (.initial cal) is = some (s, outs)) :
    (frameFields (newestFrame (outs.map (·.frame)))).alarmStatus = alarmLogic s := by
  rw [← newest_alarm h, newestFrame, List.getLast?_map]
  cases hlast : outs.getLast? with
  | none => rfl
  | some out => exact (outputs_frame h out (List.mem_of_getLast? hlast)).2.1

/-- The line behind a run is what settings and alarms say. -/
theorem line_run (h : run (mainStep conv) (.initial cal) is = some (s, outs)) :
    s.intrPin = intrLevel s.link.cfg (alarmLogic s) := by
  rcases List.eq_nil_or_concat is with rfl | ⟨past, i, rfl⟩
  · cases h
    rw [alarmLogic_initial, intrLevel, UInt8.zero_and]
    rfl
  · rw [List.concat_eq_append] at h
    obtain ⟨t, o₁, o₂, -, h2, -⟩ := run_concat.mp h
    obtain ⟨out, rfl, hpin, hlevel⟩ := mainStep_line h2
    obtain rfl := List.singleton_inj.mp (mainStep_cases h2).out
    exact hpin.trans hlevel

end Turns

section Reached

variable {conv : FloatConv} {cal : BmeCalib} {log : List SystemObs} {s : System}

theorem sentBytes_eq (outs : List LoopOutput) :
    sentBytes outs = ((outs.map (·.frame)).map Vector.toList).flatten := by
  rw [List.map_map, sentBytes, List.flatMap_def]
  rfl

/-- **The completed frames are the first of those sent**, as many as have arrived in full. -/
theorem SystemInv.frames_eq (h : SystemInv conv cal log s) :
    ∃ got, got ++ s.up = sentBytes (outputs log) ∧
      frames log = ((outputs log).map (·.frame)).take (got.length / 10) := by
  obtain ⟨got, hgot, hbase⟩ := h.base
  refine ⟨got, hgot, ?_⟩
  have hall : ∀ f ∈ ((outputs log).map (·.frame)).map Vector.toList, IsFrame dataGrammar f := by
    intro f hf
    rw [List.map_map, List.mem_map] at hf
    obtain ⟨out, hout, rfl⟩ := hf
    exact (outputs_frame h.node out hout).1
  have hpre : got <+: (((outputs log).map (·.frame)).map Vector.toList).flatten := by
    rw [← sentBytes_eq, ← hgot]
    exact List.prefix_append got s.up
  have hframes := hbase.accepted
  rw [receive_cut hall hpre, ← List.map_take] at hframes
  exact List.map_injective_iff.mpr (fun _ _ hab => Vector.toList_inj.mp hab) hframes

theorem SystemInv.frames_prefix (h : SystemInv conv cal log s) :
    frames log <+: (outputs log).map (·.frame) := by
  obtain ⟨got, -, he⟩ := h.frames_eq
  rw [he]
  exact List.take_prefix _ _

/-- With nothing on the wire all of them have arrived. -/
theorem SystemInv.frames_all (h : SystemInv conv cal log s) (hup : s.up = []) :
    frames log = (outputs log).map (·.frame) := by
  obtain ⟨got, hgot, he⟩ := h.frames_eq
  have hlen : got.length = 10 * (outputs log).length := by
    rw [hup, List.append_nil] at hgot
    rw [hgot, sentBytes, List.length_flatMap]
    simp [Nat.mul_comm]
  rw [he, hlen, List.take_of_length_le]
  rw [List.length_map]
  omega

/-- Completed frames come from turns. -/
theorem SystemInv.frames_le (h : SystemInv conv cal log s) :
    (frames log).length ≤ (inputs log).length := by
  have hle := h.frames_prefix.length_le
  rw [List.length_map, (turns_take h.node 0).1] at hle
  exact hle

/-- The bytes polled in the first turns are the first of the requests'. -/
theorem SystemInv.polled_prefix (h : SystemInv conv cal log s) (k : Nat) :
    ((inputs log).take k).flatMap (·.rx) <+: commandStream (requests log) := by
  rw [← h.down]
  conv_rhs => rw [← List.take_append_drop k (inputs log), List.flatMap_append, List.append_assoc]
  exact List.prefix_append _ _

/-- **The panel behind the first `k` turns** of a log. -/
def PanelAt (cal : BmeCalib) (log : List SystemObs) (k : Nat) (leds : Leds) : Prop :=
  Panel (readings cal ((inputs log).take k))
    (settings (received (requests log) (polled ((inputs log).take k)))) leds

/-- The LEDs of the newest of the first `k` frames show the panel behind the first `k` turns. -/
theorem SystemInv.panelAt (h : SystemInv conv cal log s) (k : Nat) :
    PanelAt cal log k
      (ledsOf (frameFields (newestFrame (((outputs log).map (·.frame)).take k))).alarmStatus) := by
  obtain ⟨-, t, ht⟩ := turns_take h.node k
  rw [← List.map_take, newestFrame_alarm ht]
  exact panel_run ht (h.polled_prefix k)

/-- **In every reachable state** the LEDs show the panel behind the turns seen. -/
theorem SystemInv.leds_seen (h : SystemInv conv cal log s) :
    PanelAt cal log (seen log) s.leds := by
  have hp := h.panelAt (seen log)
  have hle := h.seen_le
  obtain ⟨rest, hrest⟩ := h.frames_prefix
  rwa [← hrest, List.take_append_of_le_length hle, ← h.leds] at hp

end Reached

/-! ## 2. Both links -/

/-- The base node has taken everything that was sent to it. -/
structure Settled (s : System) : Prop where
  up : s.up = []
  read : (box s.base.data).unread = false
  idle : s.base.reading = none

/-- **Both links in one run**, whatever the interleaving: the frames the driver completes are the
    first of the frames sent, all of them once nothing is on the wire; and in every turn the
    thresholds are those of the requests of which it had polled all bytes, the interrupt settings
    the initial ones. -/
theorem system_delivery (conv : FloatConv) (cal : BmeCalib) (cfg : SensorNodeConfig)
    (dev uart : Device) (evs : List SystemEvent) (s : System) (log : List SystemObs)
    (hrun : run (systemStep conv cfg dev) (.initial cal uart) evs = some (s, log)) :
    frames log <+: (outputs log).map (·.frame) ∧
      (s.up = [] → frames log = (outputs log).map (·.frame)) ∧
      ∀ (j : Nat) (out : LoopOutput), (outputs log)[j]? = some out →
        thresholds out.cfg =
            settings (received (requests log) (polled ((inputs log).take (j + 1)))) ∧
          out.cfg.irqEnabled = true ∧ out.cfg.irqMask = 0x17 := by
  have h := system_run hrun
  refine ⟨h.frames_prefix, h.frames_all, fun j out hj => ?_⟩
  obtain ⟨t, ht, rfl⟩ := shown_run h.node hj
  exact settings_run ht (h.polled_prefix (j + 1))

/-- A driver whose interrupt line is wired. -/
def wired : SensorNodeConfig := { uartDev := some ⟨0⟩, intrGpioPort := some ⟨3⟩ }

/-- The base node's `main` registers its callback and asks for 30 cm. Somebody stands at 40 cm when
    three bytes of that have arrived, and the frame is fetched. -/
def firstEvents : List SystemEvent :=
  [.triggerSet true alarmTrig (some ⟨2⟩), .attrSet .distance (.node .distThresh) ⟨30, 0⟩,
    .turn 3 (some 40) none none,
    .isr [some 0xAA, some 0, some 0, some 0, some 0, none, some 0],
    .take, .isr [some 0, some 40, some 1, some 0x55]] ++ .take :: List.replicate 8 .read

/-- The rest of the request arrives, the next frame completes inside a fetch. -/
def moreEvents : List SystemEvent :=
  [.turn 2 (some 40) none none, .turn 0 (some 20) none none, .isr [some 0xAA, some 0, some 0],
    .isr [some 0, some 0, some 0, some 0, some 40, some 0, some 0x55], .take, .read, .read,
    .isr [some 0xAA, some 0, some 0, some 0, some 0, some 0, some 0, some 20, some 1, some 0x55]] ++
    List.replicate 6 .read ++ .take :: List.replicate 8 .read

/-- The run of both parts is defined, and leaves nothing to be taken or polled. -/
theorem demo_run :
    ∃ s log s' log', run (systemStep .wrapping wired ⟨1⟩) (.initial someCalib ⟨0⟩) firstEvents =
        some (s, log) ∧
      run (systemStep .wrapping wired ⟨1⟩) s moreEvents = some (s', log') ∧
      Settled s' ∧ s'.down = [] ∧ s'.leds.motion = true := by
  have h : (run (systemStep .wrapping wired ⟨1⟩) (.initial someCalib ⟨0⟩)
      (firstEvents ++ moreEvents)).map (fun r =>
        (r.1.up, (box r.1.base.data).unread, r.1.base.reading, r.1.down, r.1.leds.motion)) =
      some ([], false, none, [], true) := by decide +kernel
  obtain ⟨⟨s', log''⟩, hrun, hend⟩ := Option.map_eq_some_iff.mp h
  obtain ⟨s, log, log', h1, h2, rfl⟩ := run_split hrun
  simp only [Prod.mk.injEq] at hend
  obtain ⟨hup, hread, hidle, hdown, hmotion⟩ := hend
  exact ⟨s, log, s', log', h1, h2, ⟨hup, hread, hidle⟩, hdown, hmotion⟩

theorem system_delivery_demo :
    ∃ s log, run (systemStep .wrapping wired ⟨1⟩) (.initial someCalib ⟨0⟩) firstEvents =
        some (s, log) ∧ frames log <+: (outputs log).map (·.frame) := by
  obtain ⟨s, log, -, -, h1, -⟩ := demo_run
  exact ⟨s, log, h1, (system_delivery .wrapping someCalib wired ⟨1⟩ ⟨0⟩ firstEvents s log h1).1⟩

/-! ## 3. The LEDs -/

theorem look_snd_le (log : List SystemObs) {t : Nat × Nat} (h : t.2 ≤ t.1) :
    t.2 ≤ (log.foldl look t).2 := by
  have hall : t.2 ≤ (log.foldl look t).2 ∧ (log.foldl look t).2 ≤ (log.foldl look t).1 := by
    induction log generalizing t with
    | nil => exact ⟨Nat.le_refl _, h⟩
    | cons o log ih =>
      have hstep : t.2 ≤ (look t o).2 ∧ (look t o).2 ≤ (look t o).1 := by
        rcases o with _ | _ | ⟨_ | _ | _⟩ | _ | _ | _
        · exact ⟨Nat.le_refl _, h⟩
        · exact ⟨Nat.le_refl _, h⟩
        · exact ⟨Nat.le_refl _, Nat.le_succ_of_le h⟩
        · exact ⟨Nat.le_refl _, h⟩
        · exact ⟨Nat.le_refl _, h⟩
        · exact ⟨h, Nat.le_refl _⟩
        · exact ⟨Nat.le_refl _, h⟩
        · exact ⟨Nat.le_refl _, h⟩
      obtain ⟨h1, h2⟩ := ih hstep.2
      exact ⟨hstep.1.trans h1, h2⟩
  exact hall.1

/-- The frames seen only grow. -/
theorem seen_mono {conv : FloatConv} {cal : BmeCalib} {a : List SystemObs} {s : System}
    (h : SystemInv conv cal a s) (b : List SystemObs) : seen a ≤ seen (a ++ b) := by
  have hle : (a.foldl look (0, 0)).2 ≤ (a.foldl look (0, 0)).1 := by
    rw [look_fst, Nat.zero_add]
    exact h.seen_le
  have hmono := look_snd_le b hle
  rw [← List.foldl_append] at hmono
  exact hmono

/-- **The LEDs always show one past moment, and only go forward.** In every state of every run
    there is a number of turns such that all four LEDs show the readings of these turns under the
    thresholds of the requests received in them, although fields of a fetch may be torn. The turns
    have been sent and their frames completed, and later in the run they are never fewer. The four
    `gpio_pin_set_dt` and the prints behind the last read of a fetch are one step with it: a state
    stands before or behind all of them. -/
theorem leds_past (conv : FloatConv) (cal : BmeCalib) (cfg : SensorNodeConfig)
    (dev uart : Device) (evs more : List SystemEvent) (s s' : System) (log log' : List SystemObs)
    (hrun : run (systemStep conv cfg dev) (.initial cal uart) evs = some (s, log))
    (hmore : run (systemStep conv cfg dev) s more = some (s', log')) :
    ∃ k k', k ≤ k' ∧ k ≤ (frames log).length ∧ k' ≤ (frames (log ++ log')).length ∧
      (frames (log ++ log')).length ≤ (inputs (log ++ log')).length ∧
      PanelAt cal log k s.leds ∧ PanelAt cal (log ++ log') k' s'.leds := by
  have h := system_run hrun
  have h' := system_run (run_append_eq hrun hmore)
  exact ⟨seen log, seen (log ++ log'), seen_mono h log', h.seen_le, h'.seen_le, h'.frames_le,
    h.leds_seen, h'.leds_seen⟩

theorem leds_past_demo :
    ∃ s log s' log', run (systemStep .wrapping wired ⟨1⟩) (.initial someCalib ⟨0⟩) firstEvents =
        some (s, log) ∧
      run (systemStep .wrapping wired ⟨1⟩) s moreEvents = some (s', log') ∧
      ∃ k k', k ≤ k' ∧ PanelAt someCalib log k s.leds ∧
        PanelAt someCalib (log ++ log') k' s'.leds := by
  obtain ⟨s, log, s', log', h1, h2, -⟩ := demo_run
  obtain ⟨k, k', hle, -, -, -, hk, hk'⟩ := leds_past .wrapping someCalib wired ⟨1⟩ ⟨0⟩
    firstEvents moreEvents s s' log log' h1 h2
  exact ⟨s, log, s', log', h1, h2, k, k', hle, hk, hk'⟩

/-- Where nothing is left to take, all turns have been seen. -/
theorem SystemInv.settled {conv : FloatConv} {cal : BmeCalib} {log : List SystemObs} {s : System}
    (h : SystemInv conv cal log s) (hs : Settled s) :
    Panel (readings cal (inputs log))
        (settings (received (requests log) (polled (inputs log)))) s.leds ∧
      s.leds = ledsOf (alarmLogic s.node) := by
  have hseen := h.idle hs.idle hs.read
  have hall := h.frames_all hs.up
  have hleds := h.leds
  rw [hseen, List.take_length, hall, newestFrame_alarm h.node] at hleds
  refine ⟨?_, hleds⟩
  rw [hleds]
  have hrx := h.polled_prefix (inputs log).length
  rw [List.take_length] at hrx
  exact panel_run h.node hrx

/-- The line of the state behind a run is high exactly when an alarm is active. -/
theorem intrPin_run {conv : FloatConv} {cal : BmeCalib} {log : List SystemObs} {s : System}
    (h : SystemInv conv cal log s) : s.node.intrPin = true ↔ alarmLogic s.node ≠ 0 := by
  have hrx := h.polled_prefix (inputs log).length
  rw [List.take_length] at hrx
  obtain ⟨-, hen, hmask⟩ := settings_run h.node hrx
  have hbits := (alarmLogic_bits s.node).2.2.2.2
  rw [line_run h.node, intrLevel, hen, hmask, Bool.true_and, bne_iff_ne]
  exact not_congr (selected_zero_iff hbits)

/-- With nothing on the wire every request has been received. -/
theorem SystemInv.received_all {conv : FloatConv} {cal : BmeCalib} {log : List SystemObs}
    {s : System} (h : SystemInv conv cal log s) (hdown : s.down = []) :
    received (requests log) (polled (inputs log)) = requests log := by
  have hrx := h.down
  rw [hdown, List.append_nil] at hrx
  have hlen : polled (inputs log) = 5 * (requests log).length := by
    rw [polled, hrx, commandStream_length]
  rw [received, hlen, List.take_of_length_le]
  omega

/-- **A settled base node shows now.** In every reachable state in which it has taken all that was
    sent, the LEDs show the latest readings of all turns under the thresholds of the requests
    received, of all requests if none is on the wire; and the interrupt line is high exactly when
    an LED is lit. -/
theorem leds_current (conv : FloatConv) (cal : BmeCalib) (cfg : SensorNodeConfig)
    (dev uart : Device) (evs : List SystemEvent) (s : System) (log : List SystemObs)
    (hrun : run (systemStep conv cfg dev) (.initial cal uart) evs = some (s, log))
    (hs : Settled s) :
    Panel (readings cal (inputs log))
        (settings (received (requests log) (polled (inputs log)))) s.leds ∧
      (s.down = [] → Panel (readings cal (inputs log)) (settings (requests log)) s.leds) ∧
      (s.node.intrPin = true ↔ s.leds ≠ Leds.off) := by
  have h := system_run hrun
  obtain ⟨hpanel, hleds⟩ := h.settled hs
  refine ⟨hpanel, fun hdown => ?_, ?_⟩
  · rwa [h.received_all hdown] at hpanel
  · rw [intrPin_run h, hleds]
    exact not_congr (ledsOf_off_iff (alarmLogic_bits s.node).2.2.2.2).symm

theorem leds_current_demo :
    ∃ s log, run (systemStep .wrapping wired ⟨1⟩) (.initial someCalib ⟨0⟩)
        (firstEvents ++ moreEvents) = some (s, log) ∧
      Panel (readings someCalib (inputs log)) (settings (requests log)) s.leds ∧
      s.node.intrPin = true := by
  obtain ⟨s, log, s', log', h1, h2, hset, hdown, hmotion⟩ := demo_run
  obtain ⟨-, hpanel, hline⟩ := leds_current .wrapping someCalib wired ⟨1⟩ ⟨0⟩
    (firstEvents ++ moreEvents) s' (log ++ log') (run_append_eq h1 h2) hset
  refine ⟨s', log ++ log', run_append_eq h1 h2, hpanel hdown, hline.mpr fun e => ?_⟩
  rw [e] at hmotion
  cases hmotion

/-! ## 4. Catching up -/

/-- The events of the base node's driver. -/
def SystemEvent.Driver : SystemEvent → Prop
  | .isr _ | .take | .read => True
  | _ => False

section CatchUp

variable {conv : FloatConv} {cfg : SensorNodeConfig} {dev : Device} {s : System}

/-- A read of the driver is a read of the system: it can always report. -/
theorem read_lift (conv : FloatConv) (cfg : SensorNodeConfig) (dev : Device)
    {base : FetchState} {obs : List FetchObs} (h : preemptStep s.base .read = some (base, obs)) :
    ∃ leds o, systemStep conv cfg dev s .read =
      some ({ s with base := base, leds := leds }, o) := by
  simp only [systemStep, h, Option.bind_eq_bind, Option.bind_some]
  split
  · exact ⟨s.leds, _, rfl⟩
  · obtain ⟨r, hr, -⟩ := report_of base.data
    rw [hr]
    exact ⟨r.leds, _, rfl⟩

theorem reads_lift (conv : FloatConv) (cfg : SensorNodeConfig) (dev : Device) {n : Nat} :
    ∀ {s : System} {base : FetchState} {obs : List FetchObs},
    run preemptStep s.base (List.replicate n .read) = some (base, obs) →
    ∃ leds o, run (systemStep conv cfg dev) s (List.replicate n .read) =
      some ({ s with base := base, leds := leds }, o) := by
  induction n with
  | zero =>
    intro s base obs h
    cases h
    exact ⟨s.leds, [], rfl⟩
  | succ n ih =>
    intro s base obs h
    rw [List.replicate_succ] at h
    obtain ⟨base₁, o₁, o₂, h1, h2, -⟩ := run_cons.mp h
    obtain ⟨leds₁, p₁, h3⟩ := read_lift conv cfg dev h1
    obtain ⟨leds, p₂, h4⟩ := ih (s := { s with base := base₁, leds := leds₁ }) h2
    exact ⟨leds, p₁ ++ p₂, run_cons.mpr ⟨_, p₁, p₂, h3, h4, rfl⟩⟩

/-- Only the driver and the LEDs have moved. -/
structure SameNode (s s' : System) : Prop where
  node : s'.node = s.node
  down : s'.down = s.down

/-- **A fetch in progress is brought to its end.** -/
theorem catchUp_finish (hlt : ∀ bs, s.base.reading = some bs → bs.length < 8) :
    ∃ n s' o, n ≤ 8 ∧
      run (systemStep conv cfg dev) s (List.replicate n .read) = some (s', o) ∧
      s'.base.reading = none ∧ s'.up = s.up ∧ SameNode s s' := by
  rcases hr : s.base.reading with _ | bs
  · exact ⟨0, s, [], Nat.zero_le 8, rfl, hr, rfl, rfl, rfl⟩
  · have hbs := hlt bs hr
    obtain ⟨v, hrun, -⟩ := finish_reads (n := 7 - bs.length) s.base.data bs (by omega)
    have hbase : s.base = ⟨s.base.data, some bs⟩ := by rw [← hr]
    rw [← hbase] at hrun
    obtain ⟨leds, o, h⟩ := reads_lift conv cfg dev hrun
    exact ⟨7 - bs.length + 1, _, o, by omega, h, rfl, rfl, rfl, rfl⟩

/-- **What is on the wire is received.** -/
theorem catchUp_receive {p : List UInt8} (hasm : Assembling s.base.data p) :
    ∃ s' o, systemStep conv cfg dev s (.isr (s.up.map some)) = some (s', o) ∧ s'.up = [] ∧
      s'.base.reading = s.base.reading ∧ SameNode s s' := by
  have hbytes : fifoBytes (s.up.map some) = s.up := by
    rw [fifoBytes_eq_flatMap, List.flatMap_map]
    exact List.flatMap_singleton' s.up
  obtain ⟨data, out, h1, -, -⟩ := isr_run hasm (s.up.map some)
  refine ⟨{ s with base := { s.base with data := data }, up := [] },
    (out.map FetchObs.completed).map .driver, ?_, rfl, rfl, rfl, rfl⟩
  have hpre : s.up.isPrefixOf s.up = true := List.isPrefixOf_iff_prefix.mpr (List.prefix_refl _)
  simp only [systemStep, hbytes, hpre, if_true, preemptStep, h1, Option.map_some,
    Option.bind_eq_bind, Option.bind_some, List.drop_length]

/-- **A frame that waits is fetched.** -/
theorem catchUp_fetch (hsem : SemOk s.base.data) (hidle : s.base.reading = none)
    (hun : (box s.base.data).unread = true) :
    ∃ s' o, run (systemStep conv cfg dev) s (.take :: List.replicate 8 .read) = some (s', o) ∧
      s'.base.reading = none ∧ (box s'.base.data).unread = false ∧ s'.up = s.up ∧
      SameNode s s' := by
  have hpos : 0 < s.base.data.frameSem.count := of_decide_eq_true hun
  have htake : s.base.data.frameSem.take =
      some { s.base.data.frameSem with count := s.base.data.frameSem.count - 1 } := if_pos hpos
  obtain ⟨-, -, hbox⟩ := box_take hsem htake
  generalize { s.base.data.frameSem with count := s.base.data.frameSem.count - 1 } = sem at *
  have hstep : systemStep conv cfg dev s .take =
      some ({ s with base := ⟨{ s.base.data with frameSem := sem }, some []⟩ }, []) := by
    simp only [systemStep, preemptStep, hidle, htake, Option.bind_eq_bind, Option.bind_some,
      List.map_nil]
  obtain ⟨v, hrun, -⟩ := finish_reads (n := 7) { s.base.data with frameSem := sem } [] rfl
  obtain ⟨leds, o, h⟩ := reads_lift conv cfg dev
    (s := { s with base := ⟨{ s.base.data with frameSem := sem }, some []⟩ }) hrun
  refine ⟨_, o, run_cons.mpr ⟨_, [], o, hstep, h, rfl⟩, rfl, ?_, rfl, rfl, rfl⟩
  show (box { s.base.data with frameSem := sem }).unread = false
  rw [hbox, Box.fetch, if_pos hun]

end CatchUp

/-- **The base node can always catch up, alone.** From every reachable state at most 18 events of
    its driver lead to a settled state, whatever was on the wire and wherever a fetch was; there
    the LEDs show the latest readings of all turns, and the sensor node is where it was. -/
theorem leds_catchUp (conv : FloatConv) (cal : BmeCalib) (cfg : SensorNodeConfig)
    (dev uart : Device) (evs : List SystemEvent) (s : System) (log : List SystemObs)
    (hrun : run (systemStep conv cfg dev) (.initial cal uart) evs = some (s, log)) :
    ∃ more s' log', (∀ ev ∈ more, ev.Driver) ∧ more.length ≤ 18 ∧
      run (systemStep conv cfg dev) s more = some (s', log') ∧ Settled s' ∧
      s'.node = s.node ∧ s'.down = s.down ∧
      Panel (readings cal (inputs log))
        (settings (received (requests log) (polled (inputs log)))) s'.leds := by
  have h := system_run hrun
  have hpanel : Panel (readings cal (inputs log))
      (settings (received (requests log) (polled (inputs log)))) (ledsOf (alarmLogic s.node)) := by
    have hrx := h.polled_prefix (inputs log).length
    rw [List.take_length] at hrx
    exact panel_run h.node hrx
  -- the fetch in progress, the bytes on the wire, and then a frame that waits
  obtain ⟨n, s₁, o₁, hn, h1, hidle₁, -, hsame₁⟩ := catchUp_finish h.reading
  have hinv₁ := system_run (run_append_eq hrun h1)
  obtain ⟨got, -, hbase⟩ := hinv₁.base
  obtain ⟨s₂, o₂, h2, hup₂, hidle₂, hsame₂⟩ := catchUp_receive hbase.asm
  have h12 := run_append_eq h1 ((run_singleton s₁ _).trans h2)
  have hinv₂ := system_run (run_append_eq hrun h12)
  have hdriver : ∀ ev ∈ List.replicate n SystemEvent.read ++ [.isr (s₁.up.map some)],
      ev.Driver := by
    intro ev hev
    rcases List.mem_append.mp hev with hev | hev
    · rw [List.eq_of_mem_replicate hev]
      trivial
    · rw [List.mem_singleton.mp hev]
      trivial
  cases hun : (box s₂.base.data).unread with
  | false =>
    have hset : Settled s₂ := ⟨hup₂, hun, hidle₂.trans hidle₁⟩
    refine ⟨_, s₂, _, hdriver, ?_, h12, hset, hsame₂.node.trans hsame₁.node,
      hsame₂.down.trans hsame₁.down, ?_⟩
    · rw [List.length_append, List.length_replicate, List.length_singleton]
      omega
    · rw [(hinv₂.settled hset).2, hsame₂.node, hsame₁.node]
      exact hpanel
  | true =>
    obtain ⟨s₃, o₃, h3, hidle₃, hun₃, hup₃, hsame₃⟩ :=
      catchUp_fetch hinv₂.sem (hidle₂.trans hidle₁) hun
    have h123 := run_append_eq h12 h3
    have hinv₃ := system_run (run_append_eq hrun h123)
    have hset : Settled s₃ := ⟨hup₃.trans hup₂, hun₃, hidle₃⟩
    refine ⟨_, s₃, _, ?_, ?_, h123, hset,
      hsame₃.node.trans (hsame₂.node.trans hsame₁.node),
      hsame₃.down.trans (hsame₂.down.trans hsame₁.down), ?_⟩
    · intro ev hev
      rcases List.mem_append.mp hev with hev | hev
      · exact hdriver ev hev
      · rcases List.mem_cons.mp hev with rfl | hev
        · trivial
        · rw [List.eq_of_mem_replicate hev]
          trivial
    · simp only [List.length_append, List.length_replicate, List.length_cons, List.length_nil]
      omega
    · rw [(hinv₃.settled hset).2, hsame₃.node, hsame₂.node, hsame₁.node]
      exact hpanel

theorem leds_catchUp_demo :
    ∃ s log more s' log', run (systemStep .wrapping wired ⟨1⟩) (.initial someCalib ⟨0⟩)
        firstEvents = some (s, log) ∧
      run (systemStep .wrapping wired ⟨1⟩) s more = some (s', log') ∧ Settled s' := by
  obtain ⟨s, log, -, -, h1, -⟩ := demo_run
  obtain ⟨more, s', log', -, -, hrun, hset, -⟩ :=
    leds_catchUp .wrapping someCalib wired ⟨1⟩ ⟨0⟩ firstEvents s log h1
  exact ⟨s, log, more, s', log', h1, hrun, hset⟩

end HomeAlert.Link
