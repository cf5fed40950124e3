/-
  File:      HomeAlert/Link/Restart.lean
  Subject:   THE BASE NODE RESTARTS, at any moment, and the sensor node runs on.

  A restart initialises the driver and the LEDs, forgets a fetch in progress, and drops any number
  of the bytes on their way up, so that the receiver may come up inside a frame; whatever is on its
  way down then is what the sensor node polls next. There may be any number of restarts.

  * `RestartInv`, `RestartInv.step` -- the invariant: what the base node knows comes from the part
    of the stream that it has received since its last restart;
  * `restart_genuine` -- over frames in their ranges it takes nothing for a frame that is none, and
    the LEDs are off or show the panel of one past turn;
  * `restart_recovers` -- one frame without `0xAA` behind its marker, sent since, and the LEDs show
    the panel of now, whatever the frames carry.
-/
import HomeAlert.Link.Alignment
import HomeAlert.Link.Supervision
import HomeAlert.Node.Distance

namespace HomeAlert.Link

open Framing Machine Mailbox Base Node

/-! ## 1. Restarts -/

/-- An event of both nodes, or a restart of the base node that loses the first `lost` bytes on
    their way up; `down` is what is on its way down behind it. -/
inductive RestartEvent where
  | event (ev : SystemEvent)
  | restart (lost : Nat) (down : List UInt8)

inductive RestartObs where
  | seen (o : SystemObs)
  | restarted

def restartStep (conv : FloatConv) (cfg : SensorNodeConfig) (dev uart : Device) (s : System) :
    RestartEvent → Option (System × List RestartObs)
  | .event ev => (systemStep conv cfg dev s ev).map fun r => (r.1, r.2.map .seen)
  | .restart lost down =>
      some ({ s with base := .initial uart, leds := Leds.off, mode := .disabled
                     up := s.up.drop lost, down := down }, [.restarted])

/-- All that was observed of the two nodes. -/
def whole (log : List RestartObs) : List SystemObs :=
  log.filterMap fun o => match o with
    | .seen o => some o
    | .restarted => none

/-- What was observed behind the last restart. -/
def fresh (log : List RestartObs) : List SystemObs :=
  log.foldl (fun past o => match o with
    | .seen o => past ++ [o]
    | .restarted => []) []

theorem whole_seen (log : List RestartObs) (obs : List SystemObs) :
    whole (log ++ obs.map .seen) = whole log ++ obs := by
  unfold whole
  rw [List.filterMap_append, List.filterMap_map]
  congr 1
  exact List.filterMap_some

theorem whole_restarted (log : List RestartObs) : whole (log ++ [.restarted]) = whole log :=
  List.filterMap_append.trans (List.append_nil _)

theorem fresh_seen (log : List RestartObs) (obs : List SystemObs) :
    fresh (log ++ obs.map .seen) = fresh log ++ obs := by
  unfold fresh
  rw [List.foldl_append]
  generalize log.foldl _ [] = past
  induction obs generalizing past with
  | nil => exact (List.append_nil past).symm
  | cons o obs ih =>
    rw [List.map_cons, List.foldl_cons, ih, List.append_assoc]
    rfl

theorem fresh_restarted (log : List RestartObs) : fresh (log ++ [.restarted]) = [] := by
  unfold fresh
  rw [List.foldl_append]
  rfl

/-! ## 2. Both nodes -/

/-- **The invariant.** Of the bytes sent, `gone` came before the last restart or were lost in it,
    `left` were still on their way up, and the base node has received `got` since. -/
structure RestartInv (conv : FloatConv) (cal : BmeCalib) (log : List RestartObs) (s : System) :
    Prop where
  node : run (mainStep conv) (.initial cal) (inputs (whole log)) =
    some (s.node, outputs (whole log))
  base : ∃ gone left got,
    gone ++ left ++ sentBytes (outputs (fresh log)) = sentBytes (outputs (whole log)) ∧
      got ++ s.up = left ++ sentBytes (outputs (fresh log)) ∧ BaseInv (fresh log) got s

theorem restartInv_initial (conv : FloatConv) (cal : BmeCalib) (uart : Device) :
    RestartInv conv cal [] (.initial cal uart) where
  node := rfl
  base := ⟨[], [], [], rfl, rfl, baseInv_initial rfl rfl⟩

section Runs

variable {conv : FloatConv} {cal : BmeCalib} {cfg : SensorNodeConfig} {dev uart : Device}
  {log : List RestartObs} {s s' : System} {obs : List RestartObs}

/-- **One event, or a restart**, keeps it. -/
theorem RestartInv.step {ev : RestartEvent} (h : RestartInv conv cal log s)
    (hs : restartStep conv cfg dev uart s ev = some (s', obs)) :
    RestartInv conv cal (log ++ obs) s' := by
  obtain ⟨gone, left, got, hsent, hwire, hbase⟩ := h.base
  rcases ev with ev | ⟨lost, down⟩
  · obtain ⟨⟨t, o⟩, h1, e⟩ := Option.map_eq_some_iff.mp hs
    cases e
    obtain ⟨more, hmore, hnext⟩ := hbase.step h1
    constructor
    · rw [whole_seen, inputs_append, outputs_append]
      exact run_append_eq h.node (node_step h1)
    · rw [whole_seen, fresh_seen, outputs_append, outputs_append, sentBytes_append,
        sentBytes_append]
      refine ⟨gone, left, got ++ more, ?_, ?_, hnext⟩
      · rw [← hsent]
        simp only [List.append_assoc]
      · rw [List.append_assoc, hmore, ← List.append_assoc, hwire, List.append_assoc]
  · cases hs
    constructor
    · rw [whole_restarted]
      exact h.node
    · rw [whole_restarted, fresh_restarted]
      refine ⟨gone ++ got ++ s.up.take lost, s.up.drop lost, [], ?_, ?_, baseInv_initial rfl rfl⟩
      · calc gone ++ got ++ s.up.take lost ++ s.up.drop lost ++ sentBytes []
            = gone ++ (got ++ s.up) := by
              rw [show sentBytes [] = [] from rfl, List.append_nil,
                List.append_assoc _ (s.up.take lost), List.take_append_drop, List.append_assoc]
          _ = sentBytes (outputs (whole log)) := by rw [hwire, ← hsent, List.append_assoc]
      · exact (List.append_nil _).symm

/-- **Any run** from the start, with any restarts. -/
theorem restart_run {evs : List RestartEvent}
    (h : run (restartStep conv cfg dev uart) (.initial cal uart) evs = some (s, log)) :
    RestartInv conv cal log s :=
  run_log (P := RestartInv conv cal) (fun _ _ _ _ _ hinv hs => hinv.step hs)
    (restartInv_initial conv cal uart) h

end Runs

/-! ## 3. Nothing is taken for a frame that is none -/

/-- **A frame in its ranges**, as far as the code does not see to it: no `0x55` as high byte of
    temperature or distance, and a sound field of six bits. -/
structure Plain (f : DataFrame) : Prop where
  temp : f.get 1 ≠ sensorNodeFrameEnd
  sound : f.get 5 ≤ 63
  dist : f.get 6 ≠ sensorNodeFrameEnd

instance (f : DataFrame) : Decidable (Plain f) :=
  decidable_of_iff (f.get 1 ≠ sensorNodeFrameEnd ∧ f.get 5 ≤ 63 ∧ f.get 6 ≠ sensorNodeFrameEnd)
    ⟨fun h => ⟨h.1, h.2.1, h.2.2⟩, fun h => ⟨h.temp, h.sound, h.dist⟩⟩

section Frames

variable {conv : FloatConv} {cal : BmeCalib} {is : List LoopInput} {s : LoopState}
  {outs : List LoopOutput}

/-- The humidity field behind any run is what the clamp of `calc_hum` leaves. -/
theorem hum_clamped {past : List LoopInput} (h : TurnsInv cal past s) :
    0 ≤ (turnPacket conv s).humI.toInt ∧ (turnPacket conv s).humI.toInt ≤ 10000 := by
  obtain ⟨-, hrange⟩ := h.bme_inRange
  have hfield : (turnPacket conv s).humI.toInt = Fixed.trunc (s.hum * 100) :=
    conv.toInt16_eq _ hrange.1 hrange.2
  rw [hfield]
  rcases e : lastBme past with _ | io
  · rw [(h.unread e).2, zero_mul]
    have h0 : Fixed.trunc 0 = 0 := by exact_mod_cast Fixed.trunc_intCast 0
    omega
  · obtain ⟨data, cal', hread, -, hh⟩ := h.read io e
    obtain ⟨-, t, n, hcomp, rfl⟩ := readBme680_some.mp ⟨cal', hread⟩
    obtain ⟨-, h3, h4⟩ := compensate_range hcomp
    have hn0 : (0 : ℚ) ≤ n := by exact_mod_cast h3
    have hn1 : (n : ℚ) ≤ 100000 := by exact_mod_cast h4
    have hh' : s.hum * 100 = (n : ℚ) / 10 := by
      rw [hh]
      ring
    have hpos : 0 ≤ (n : ℚ) / 10 := by positivity
    have hlt : Fixed.trunc ((n : ℚ) / 10) < 10001 := by
      rw [Fixed.trunc_lt_iff hpos 10001]
      push_cast
      linarith
    have hge := Fixed.trunc_nonneg hpos
    rw [hh']
    omega

/-- **The frame of every turn is in its ranges** if the rest of it is. -/
theorem plain_ranged (h : run (mainStep conv) (.initial cal) is = some (s, outs))
    {out : LoopOutput} (hout : out ∈ outs) (hplain : Plain out.frame) :
    RangedFrame out.frame.toList := by
  obtain ⟨j, hj⟩ := List.getElem?_of_mem hout
  obtain ⟨t, ht, rfl⟩ := shown_run h hj
  have hhum : 0 ≤ (turnPacket conv t).humI.toInt ∧ (turnPacket conv t).humI.toInt ≤ 10000 :=
    hum_clamped (turns_run ht)
  exact ⟨turnPacket conv t, ⟨hhum.1, hhum.2, hplain.sound, (alarmLogic_bits t).2.2.2.2, hplain.temp,
    hplain.dist⟩, rfl⟩

end Frames

theorem sublist_of_toList {fs gs : List DataFrame}
    (h : (fs.map Vector.toList).Sublist (gs.map Vector.toList)) : fs.Sublist gs := by
  obtain ⟨l, hl, e⟩ := List.sublist_map_iff.mp h
  rwa [List.map_injective_iff.mpr (fun _ _ hab => Vector.toList_inj.mp hab) e]

section Reached

variable {conv : FloatConv} {cal : BmeCalib} {log : List RestartObs} {s : System}

/-- Over frames in their ranges the completed ones have been sent, in this order. -/
theorem RestartInv.frames_sublist (h : RestartInv conv cal log s)
    (hplain : ∀ out ∈ outputs (whole log), Plain out.frame) :
    (frames (fresh log)).Sublist ((outputs (whole log)).map (·.frame)) := by
  obtain ⟨gone, left, got, hsent, hwire, hbase⟩ := h.base
  have hranged : ∀ f ∈ ((outputs (whole log)).map (·.frame)).map Vector.toList, RangedFrame f := by
    intro f hf
    rw [List.map_map, List.mem_map] at hf
    obtain ⟨out, hout, rfl⟩ := hf
    exact plain_ranged h.node hout (hplain out hout)
  have hcut : gone ++ got ++ s.up =
      (((outputs (whole log)).map (·.frame)).map Vector.toList).flatten := by
    rw [← sentBytes_eq, ← hsent, List.append_assoc, hwire, List.append_assoc]
  have hsub := receive_part rangedFrame_confined hranged hcut
  have hall : ∀ l : List (List UInt8), l.filter (fun _ => !false) = l := fun _ =>
    List.filter_eq_self.mpr fun _ _ => rfl
  rw [← hbase.accepted, hall] at hsub
  exact sublist_of_toList hsub

/-- What was observed behind the last restart is the end of all that was. -/
theorem fresh_suffix (log : List RestartObs) : fresh log <:+ whole log := by
  induction log using List.reverseRecOn with
  | nil => exact List.suffix_refl []
  | append_singleton log o ih =>
    rcases o with o | _
    · obtain ⟨past, hpast⟩ := ih
      refine ⟨past, ?_⟩
      have h1 := fresh_seen log [o]
      have h2 := whole_seen log [o]
      rw [List.map_singleton] at h1 h2
      rw [h1, h2, ← hpast, List.append_assoc]
    · rw [fresh_restarted]
      exact List.nil_suffix

/-- **Aligned again** behind a frame without `0xAA` past its marker: with nothing on the wire all
    later frames have been completed. -/
theorem RestartInv.frames_later (h : RestartInv conv cal log s) (hup : s.up = []) {i : Nat}
    {out : LoopOutput} (hi : (outputs (fresh log))[i]? = some out)
    (hclean : ∀ b ∈ out.frame.toList.tail, b ≠ sensorNodeFrameStart) :
    ∃ early, frames (fresh log) = early ++ ((outputs (fresh log)).map (·.frame)).drop (i + 1) := by
  obtain ⟨gone, left, got, -, hwire, hbase⟩ := h.base
  obtain ⟨past, hpast⟩ := fresh_suffix log
  generalize hfs : (outputs (fresh log)).map (·.frame) = fs at *
  have hall : ∀ f ∈ fs.map Vector.toList, IsFrame dataGrammar f := by
    intro f hf
    rw [← hfs, List.map_map, List.mem_map] at hf
    obtain ⟨o, ho, rfl⟩ := hf
    refine (outputs_frame h.node o ?_).1
    rw [← hpast, outputs_append]
    exact List.mem_append_right _ ho
  have hget : (fs.map Vector.toList)[i]? = some out.frame.toList := by
    rw [← hfs, List.getElem?_map, List.getElem?_map, hi]
    rfl
  have hp : (receive dataGrammar [] left).1.length < dataGrammar.len :=
    receive_length_lt dataGrammar (by decide) left
  have hzero := foldl_carry_clean hget hall hp
    (fun b hb => by simpa [dataGrammar] using hclean b hb) (Nat.lt_succ_self i)
  have halign := receive_aligned (fun f hf => hall f (List.mem_of_mem_take hf))
    (fun f hf => hall f (List.mem_of_mem_drop (i := i + 1) hf)) hp hzero
  rw [List.take_append_drop] at halign
  have haccepted := hbase.accepted
  rw [hup, List.append_nil, sentBytes_eq, hfs] at hwire
  rw [hwire, receive_append, halign, ← List.append_assoc, ← List.map_drop] at haccepted
  obtain ⟨early, late, hsplit, -, hlate⟩ := List.map_eq_append_iff.mp haccepted
  refine ⟨early, ?_⟩
  rw [hsplit, List.map_injective_iff.mpr (fun _ _ hab => Vector.toList_inj.mp hab) hlate]

end Reached

/-- **No restart makes the LEDs lie.** In every run with any restarts, over frames in their ranges:
    what the driver completes since it came up are frames that were sent, in that order; and the
    LEDs are off, or show the latest readings of some number of turns under the thresholds in
    force in the last of them. -/
theorem restart_genuine (conv : FloatConv) (cal : BmeCalib) (cfg : SensorNodeConfig)
    (dev uart : Device) (evs : List RestartEvent) (s : System) (log : List RestartObs)
    (hrun : run (restartStep conv cfg dev uart) (.initial cal uart) evs = some (s, log))
    (hplain : ∀ out ∈ outputs (whole log), Plain out.frame) :
    (frames (fresh log)).Sublist ((outputs (whole log)).map (·.frame)) ∧
      (s.leds = Leds.off ∨ ∃ (j : Nat) (out : LoopOutput),
        (outputs (whole log))[j]? = some out ∧
          Panel (readings cal ((inputs (whole log)).take (j + 1))) (thresholds out.cfg) s.leds) := by
  have h := restart_run hrun
  have hsub := h.frames_sublist hplain
  refine ⟨hsub, ?_⟩
  obtain ⟨_, _, _, -, -, hbase⟩ := h.base
  rw [hbase.leds, newestFrame]
  rcases hlast : ((frames (fresh log)).take (seen (fresh log))).getLast? with _ | f
  · exact Or.inl rfl
  · have hmem := hsub.subset (List.mem_of_mem_take (List.mem_of_getLast? hlast))
    obtain ⟨out, hout, rfl⟩ := List.mem_map.mp hmem
    obtain ⟨j, hj⟩ := List.getElem?_of_mem hout
    obtain ⟨t, ht, rfl⟩ := shown_run h.node hj
    exact Or.inr ⟨j, _, hj, panel_shown ht⟩

/-- A restart inside a frame that carries `0xAA` as its distance: the receiver comes up on that
    byte and misses the next frame, in which it finds its way back. -/
def restartEvents : List RestartEvent :=
  [.event (.turn 0 (some 170) none none), .event (.isr [some 0xAA, some 0, some 0, some 0]),
    .restart 3 [0xBB, 1], .event (.turn 2 (some 40) none none),
    .event (.turn 0 (some 20) none none),
    .event (.isr [some 0xAA, some 0, some 0x55, some 0xAA, some 0, some 0, some 0, some 0, some 0,
      some 0, some 40, some 1, some 0x55]),
    .event (.isr [some 0xAA, some 0, some 0, some 0, some 0, some 0, some 0, some 20, some 1,
      some 0x55])] ++ .event .take :: List.replicate 8 (.event .read)

theorem restartEvents_run :
    ∃ s log, run (restartStep .wrapping wired ⟨1⟩ ⟨0⟩) (.initial someCalib ⟨0⟩) restartEvents =
        some (s, log) ∧ Settled s ∧ s.leds.motion = true ∧
      (∀ out ∈ outputs (whole log), Plain out.frame) ∧
      (outputs (fresh log)).map (fun out => out.frame.toList) =
        [[0xAA, 0, 0, 0, 0, 0, 0, 40, 1, 0x55], [0xAA, 0, 0, 0, 0, 0, 0, 20, 1, 0x55]] := by
  have h : (run (restartStep .wrapping wired ⟨1⟩ ⟨0⟩) (.initial someCalib ⟨0⟩) restartEvents).map
      (fun r : System × List RestartObs =>
        ((r.1.up, (box r.1.base.data).unread, r.1.base.reading, r.1.leds.motion),
        decide (∀ out ∈ outputs (whole r.2), Plain out.frame),
        (outputs (fresh r.2)).map (fun out => out.frame.toList))) =
      some (([], false, none, true), true,
        [[0xAA, 0, 0, 0, 0, 0, 0, 40, 1, 0x55], [0xAA, 0, 0, 0, 0, 0, 0, 20, 1, 0x55]]) := by
    decide +kernel
  obtain ⟨⟨s, log⟩, hrun, hend⟩ := Option.map_eq_some_iff.mp h
  simp only [Prod.mk.injEq, decide_eq_true_iff] at hend
  obtain ⟨⟨hup, hread, hidle, hmotion⟩, hplain, hfresh⟩ := hend
  exact ⟨s, log, hrun, ⟨hup, hread, hidle⟩, hmotion, hplain, hfresh⟩

theorem restart_genuine_demo :
    ∃ s log, run (restartStep .wrapping wired ⟨1⟩ ⟨0⟩) (.initial someCalib ⟨0⟩) restartEvents =
        some (s, log) ∧
      (frames (fresh log)).Sublist ((outputs (whole log)).map (·.frame)) := by
  obtain ⟨s, log, hrun, -, -, hplain, -⟩ := restartEvents_run
  exact ⟨s, log, hrun, (restart_genuine .wrapping someCalib wired ⟨1⟩ ⟨0⟩ restartEvents s log hrun
    hplain).1⟩

/-- **One clean frame brings the panel back.** In every run with any restarts, whatever the frames
    carry: once the base node has taken all that was sent, and a turn behind the last restart, not
    the last one, sent a frame without `0xAA` past its marker, all later frames have been
    completed, and the LEDs show the latest readings of all turns under the thresholds in force. -/
theorem restart_recovers (conv : FloatConv) (cal : BmeCalib) (cfg : SensorNodeConfig)
    (dev uart : Device) (evs : List RestartEvent) (s : System) (log : List RestartObs)
    (hrun : run (restartStep conv cfg dev uart) (.initial cal uart) evs = some (s, log))
    (hset : Settled s) (i : Nat) (out : LoopOutput)
    (hi : (outputs (fresh log))[i]? = some out) (hnext : i + 1 < (outputs (fresh log)).length)
    (hclean : ∀ b ∈ out.frame.toList.tail, b ≠ sensorNodeFrameStart) :
    (∃ early, frames (fresh log) =
        early ++ ((outputs (fresh log)).map (·.frame)).drop (i + 1)) ∧
      Panel (readings cal (inputs (whole log))) (thresholds s.node.link.cfg) s.leds := by
  have h := restart_run hrun
  have hlater := h.frames_later hset.up hi hclean
  refine ⟨hlater, ?_⟩
  obtain ⟨early, hearly⟩ := hlater
  obtain ⟨past, hpast⟩ := fresh_suffix log
  obtain ⟨_, _, _, -, -, hbase⟩ := h.base
  -- the newest of the completed frames is that of the newest turn
  have hnewest : newestFrame (frames (fresh log)) =
      newestFrame ((outputs (whole log)).map (·.frame)) := by
    have hne : ((outputs (fresh log)).map (·.frame)).drop (i + 1) ≠ [] := by
      rw [Ne, List.drop_eq_nil_iff, List.length_map]
      omega
    unfold newestFrame
    rw [hearly, List.getLast?_append_of_ne_nil _ hne, List.getLast?_drop, if_neg (by
      rw [List.length_map]
      omega), ← hpast, outputs_append, List.map_append, List.getLast?_append_of_ne_nil _ (by
      intro e
      rw [e] at hne
      exact hne (List.drop_nil))]
  rw [hbase.leds, hbase.idle hset.idle hset.read, List.take_length, hnewest,
    newestFrame_alarm h.node]
  exact panel_holds (readings_run h.node)

theorem restart_recovers_demo :
    ∃ s log, run (restartStep .wrapping wired ⟨1⟩ ⟨0⟩) (.initial someCalib ⟨0⟩) restartEvents =
        some (s, log) ∧
      Panel (readings someCalib (inputs (whole log))) (thresholds s.node.link.cfg) s.leds ∧
      s.leds.motion = true := by
  obtain ⟨s, log, hrun, hset, hmotion, -, hfresh⟩ := restartEvents_run
  have hlen : (outputs (fresh log)).length = 2 := by
    have hl := congrArg List.length hfresh
    rwa [List.length_map] at hl
  obtain ⟨out, hi⟩ : ∃ out, (outputs (fresh log))[0]? = some out :=
    ⟨_, List.getElem?_eq_getElem (by omega)⟩
  have hbytes : out.frame.toList = [0xAA, 0, 0, 0, 0, 0, 0, 40, 1, 0x55] := by
    have hget := congrArg (·[0]?) hfresh
    rw [List.getElem?_map, hi] at hget
    exact Option.some.inj hget
  refine ⟨s, log, hrun, (restart_recovers .wrapping someCalib wired ⟨1⟩ ⟨0⟩ restartEvents s log hrun
    hset 0 out hi (by omega) ?_).2, hmotion⟩
  rw [hbytes]
  decide +kernel

end HomeAlert.Link
