/-
  File:      HomeAlert/Link/NodeRestart.lean
  Subject:   THE SENSOR NODE RESTARTS, at any moment, and the base node runs on.

  Behind a restart the variables of `main` are the initial ones and `INTR_PIN` is low. It may cut a
  frame off, of which some bytes have been sent, and what was on its way down is partly gone. The
  first turn behind it reads no sensor (`prompt_iff`: the timers have just been set), so that its
  frame is all zeros between the markers. That frame wakes the base node: no block that the cut
  left open can end in it, and behind it the receiver is idle.

  * `NodeInv`, `NodeInv.step` -- the invariant, over what each turn of each life found and sent;
  * `nodeRestart_frames` -- so the driver completes frames that were sent in full and nothing else,
    and misses none but the first ones of a life; and the LEDs show a turn's panel;
  * `nodeRestart_settings` -- but what had been configured before a life is lost to it, and nobody
    asks again.
-/
import HomeAlert.Link.Restart
import HomeAlert.Link.CommandLoss
import HomeAlert.Node.Schedule

namespace HomeAlert.Link

open Framing Machine Mailbox Base Node

/-! ## 1. Restarts -/

/-- An event of both nodes, or a restart of the sensor node: outside a frame (also in a turn that
    has not set `INTR_PIN` yet), or inside the frame of a turn that has polled `n` bytes and sent
    the first `sent` of its own. The next `lost` bytes that arrive before it polls again are
    gone. -/
inductive NodeEvent where
  | event (ev : SystemEvent)
  | reset (lost : Nat)
  | cut (n : Nat) (ultra : Option ℚ) (adc : Option UInt16) (bme : Option BmeReads)
      (sent lost : Nat)

/-- An observation, or a restart, with the turn that was cut off and the bytes that were gone. -/
inductive NodeObs where
  | seen (o : SystemObs)
  | reset (gone : List UInt8)
  | cut (i : LoopInput) (out : LoopOutput) (sent : Nat) (gone : List UInt8)

def nodeStep (conv : FloatConv) (cal : BmeCalib) (cfg : SensorNodeConfig) (dev : Device)
    (s : System) : NodeEvent → Option (System × List NodeObs)
  | .event ev => (systemStep conv cfg dev s ev).map fun r => (r.1, r.2.map .seen)
  | .reset lost =>
      some ({ s with node := .initial cal, down := s.down.drop lost }, [.reset (s.down.take lost)])
  | .cut n ultra adc bme sent lost =>
      if sent < 10 then do
        let i : LoopInput := { rx := s.down.take n, ultra := ultra, adc := adc, bme := bme }
        let (_, outs) ← mainStep conv s.node i
        some ({ s with node := .initial cal, down := (s.down.drop n).drop lost
                       up := s.up ++ outs.flatMap fun out => out.frame.toList.take sent },
          outs.flatMap fun out =>
            ((gpioEdge s.mode s.base.data s.node.intrPin out.intrPin).map .called).map .seen ++
              [.cut i out sent ((s.down.drop n).take lost)])
      else none

/-- All that was observed of the two nodes. -/
def history (log : List NodeObs) : List SystemObs :=
  log.filterMap fun o => match o with
    | .seen o => some o
    | _ => none

/-- A turn: what the turns of its life found up to it, what it left, how many bytes of its frame
    were sent, and how many bytes had been polled or were gone before that life. -/
structure Entry where
  past : List LoopInput
  out : LoopOutput
  sent : Nat
  offset : Nat

/-- The frame was sent in full. -/
def Entry.whole (e : Entry) : Bool := e.sent = 10

/-- It was, and the turn was not the first of its life. -/
def Entry.later (e : Entry) : Bool := e.whole && decide (1 < e.past.length)

/-- The turns of all lives, with what the present one has found and where it began. -/
structure Chronicle where
  past : List LoopInput
  offset : Nat
  entries : List Entry

def Chronicle.note (c : Chronicle) : NodeObs → Chronicle
  | .seen (.turned i out) =>
      { c with past := c.past ++ [i], entries := c.entries ++ [⟨c.past ++ [i], out, 10, c.offset⟩] }
  | .seen _ => c
  | .reset gone => { c with past := [], offset := c.offset + polled c.past + gone.length }
  | .cut i out sent gone =>
      { past := [], offset := c.offset + polled (c.past ++ [i]) + gone.length
        entries := c.entries ++ [⟨c.past ++ [i], out, sent, c.offset⟩] }

def chronicle (log : List NodeObs) : Chronicle := log.foldl Chronicle.note ⟨[], 0, []⟩

/-- The bytes that went up. -/
def onWire (es : List Entry) : List UInt8 := es.flatMap fun e => e.out.frame.toList.take e.sent

theorem history_append (a b : List NodeObs) : history (a ++ b) = history a ++ history b :=
  List.filterMap_append

theorem history_seen (obs : List SystemObs) : history (obs.map .seen) = obs := by
  unfold history
  rw [List.filterMap_map]
  exact List.filterMap_some

theorem chronicle_append (a b : List NodeObs) :
    chronicle (a ++ b) = b.foldl Chronicle.note (chronicle a) :=
  List.foldl_append

/-- Observations other than turns are no entries. -/
theorem note_quiet (c : Chronicle) {obs : List SystemObs} (h : inputs obs = []) :
    (obs.map NodeObs.seen).foldl Chronicle.note c = c := by
  induction obs with
  | nil => rfl
  | cons o obs ih =>
    rw [List.map_cons, List.foldl_cons]
    rcases o with ⟨i, out⟩ | c | o | r | ⟨chan, attr, val, ret⟩ | ⟨accepts, trig, handler, ret⟩
    · cases h
    · exact ih h
    · exact ih h
    · exact ih h
    · exact ih h
    · exact ih h

theorem inputs_called (calls : List HandlerCall) : inputs (calls.map .called) = [] := by
  simp [inputs, List.filterMap_map]

theorem onWire_concat (es : List Entry) (e : Entry) :
    onWire (es ++ [e]) = onWire es ++ e.out.frame.toList.take e.sent := by
  unfold onWire
  rw [List.flatMap_append, List.flatMap_singleton]

theorem onWire_whole (es : List Entry) (past : List LoopInput) (out : LoopOutput) (off : Nat) :
    onWire (es ++ [⟨past, out, 10, off⟩]) = onWire es ++ out.frame.toList := by
  rw [onWire_concat]
  exact congrArg (onWire es ++ ·) (List.take_of_length_le (Nat.le_of_eq out.frame.length_toList))

/-! ## 2. The first frame of a life -/

/-- A turn in which no sensor is read. -/
structure Bare (i : LoopInput) : Prop where
  ultra : i.ultra = none
  adc : i.adc = none
  bme : i.bme = none

instance (i : LoopInput) : Decidable (Bare i) :=
  decidable_of_iff (i.ultra = none ∧ i.adc = none ∧ i.bme = none)
    ⟨fun h => ⟨h.1, h.2.1, h.2.2⟩, fun h => ⟨h.ultra, h.adc, h.bme⟩⟩

/-- A turn that looks at its timers within `SOUND_INTERVAL` of their first setting, as the first
    turn of a life does: only a poll of the UART lies between. -/
def Prompt (i : LoopInput) : Prop :=
  ∃ (n₁ n₂ n₃ : Nat) (t : TimedInput), n₁ ≤ n₂ ∧ n₂ ≤ n₃ ∧
    (∀ p ∈ [t.clock.ultra, t.clock.sound, t.clock.bme], p.check < n₁ + soundInterval * 1000) ∧
    i = t.found (.initial n₁ n₂ n₃)

/-- **It reads no sensor**: none of its timers is due. -/
theorem prompt_iff {i : LoopInput} : Prompt i ↔ Bare i := by
  constructor
  · rintro ⟨n₁, n₂, n₃, t, h₁, h₂, hsoon, rfl⟩
    have hnot : ∀ {d : Nat} {p : Timer.Poll Nat}, p.check < d → Timer.fires d p = false :=
      fun h => decide_eq_false (not_le.mpr h)
    have hu := hsoon t.clock.ultra (by simp)
    have hs := hsoon t.clock.sound (by simp)
    have hb := hsoon t.clock.bme (by simp)
    unfold soundInterval at hu hs hb
    have h1 : Timer.fires (Timers.initial n₁ n₂ n₃).ultra t.clock.ultra = false :=
      hnot (show _ < n₁ + 500 * 1000 by omega)
    have h2 : Timer.fires (Timers.initial n₁ n₂ n₃).sound t.clock.sound = false :=
      hnot (show _ < n₂ + 200 * 1000 by omega)
    have h3 : Timer.fires (Timers.initial n₁ n₂ n₃).bme t.clock.bme = false :=
      hnot (show _ < n₃ + 3000 * 1000 by omega)
    unfold TimedInput.found
    rw [h1, h2, h3]
    exact ⟨rfl, rfl, rfl⟩
  · intro h
    obtain ⟨rx, ultra, adc, bme⟩ := i
    obtain ⟨rfl, rfl, rfl⟩ := h
    -- a clock that stands still
    refine ⟨0, 0, 0, ⟨⟨⟨0, 0⟩, ⟨0, 0⟩, ⟨0, 0⟩⟩, rx, 0, 0, ⟨[], ⟨0, .replicate bmeDataLen 0⟩⟩⟩,
      Nat.le_refl 0, Nat.le_refl 0, ?_, rfl⟩
    intro p hp
    simp only [List.mem_cons, List.not_mem_nil, or_false, or_self] at hp
    rw [hp]
    exact (by decide : 0 < 0 + soundInterval * 1000)

section First

variable {conv : FloatConv} {cal : BmeCalib} {t : LoopState} {i : LoopInput}
  {outs : List LoopOutput}

/-- **Its frame is all zeros**, whatever its poll has found. -/
theorem bare_frame (hbare : Bare i)
    (h : mainStep conv (.initial cal) i = some (t, outs)) :
    (shown conv t).frame.toList = [0xAA, 0, 0, 0, 0, 0, 0, 0, 0, 0x55] := by
  obtain ⟨rx, ultra, adc, bme⟩ := i
  obtain ⟨rfl, rfl, rfl⟩ := hbare
  simp only [mainStep, Option.bind_eq_bind, Option.bind_eq_some_iff] at h
  obtain ⟨⟨link, calls⟩, -, s₁, h2, e⟩ := h
  cases h2
  cases e
  have h0 : Fixed.trunc 0 = 0 := by exact_mod_cast Fixed.trunc_intCast 0
  have htemp : conv.toInt16 (0 * 100) = 0 := by
    rw [← Int16.toInt_inj, zero_mul,
      conv.toInt16_eq 0 (by rw [h0]; decide) (by rw [h0]; decide), h0]
    rfl
  have hdist : conv.toUInt16 0 = 0 := by
    rw [← UInt16.toNat_inj]
    have := conv.toUInt16_eq 0 (by rw [h0]) (by rw [h0]; decide)
    rw [h0] at this
    exact Int.ofNat_eq_zero.mp this
  show (sendUartFrame conv 0 0 0 (conv.toUInt16 0) (alarmLogic _)).toList = _
  have halarm : ∀ s : LoopState, s.distReady = false → s.soundReady = false →
      s.bmeReady = false → alarmLogic s = 0 := by
    intro s h1 h2 h3
    simp [alarmLogic, h1, h2, h3]
  rw [halarm _ rfl rfl rfl, sendUartFrame, htemp, hdist]
  rfl

theorem zeros_blank : Blank dataGrammar [0xAA, 0, 0, 0, 0, 0, 0, 0, 0, 0x55] where
  frame := ⟨rfl, rfl, rfl⟩
  unstarted := by decide +kernel
  unstopped := by decide +kernel

end First

/-! ## 3. The stream upward -/

/-- **What an idle receiver makes of the turns `es`**, of which the present life has `past`: whole
    frames in order, all but first ones of a life, and behind a whole one it is idle. -/
structure Stream (past : List LoopInput) (es : List Entry) : Prop where
  idle : past ≠ [] → (receive dataGrammar [] (onWire es)).1 = []
  whole : (receive dataGrammar [] (onWire es)).2.Sublist
    ((es.filter Entry.whole).map fun e => e.out.frame.toList)
  later : ((es.filter Entry.later).map fun e => e.out.frame.toList).Sublist
    (receive dataGrammar [] (onWire es)).2
  newest : 1 < past.length → ∃ e ∈ es, e.past = past ∧
    (receive dataGrammar [] (onWire es)).2.getLast? = some e.out.frame.toList

theorem stream_initial : Stream [] [] where
  idle h := absurd rfl h
  whole := List.Sublist.refl []
  later := List.Sublist.refl []
  newest h := absurd h (by decide)

/-- A restart outside a frame. -/
theorem Stream.reset {past : List LoopInput} {es : List Entry} (h : Stream past es) :
    Stream [] es where
  idle hne := absurd rfl hne
  whole := h.whole
  later := h.later
  newest hlt := absurd hlt (by decide)

section Streams

variable {past : List LoopInput} {es : List Entry} {i : LoopInput} {out : LoopOutput} {off : Nat}

/-- **A frame sent in full** finds the receiver idle, or it is blank. -/
theorem Stream.sent (h : Stream past es) (hf : IsFrame dataGrammar out.frame.toList)
    (hblank : past = [] → Blank dataGrammar out.frame.toList) :
    Stream (past ++ [i]) (es ++ [⟨past ++ [i], out, 10, off⟩]) := by
  have hlt := receive_length_lt dataGrammar (p := []) (by decide) (onWire es)
  -- behind it the receiver is idle; it is delivered, unless something was pending before a blank
  have hnext : receive dataGrammar (receive dataGrammar [] (onWire es)).1 out.frame.toList =
      ([], if (receive dataGrammar [] (onWire es)).1 = [] then [out.frame.toList] else []) := by
    by_cases hp : past = []
    · exact receive_blank hlt (hblank hp)
    · rw [h.idle hp, if_pos rfl]
      exact receive_frame hf
  have hrecv : receive dataGrammar [] (onWire (es ++ [⟨past ++ [i], out, 10, off⟩])) =
      ([], (receive dataGrammar [] (onWire es)).2 ++
        if (receive dataGrammar [] (onWire es)).1 = [] then [out.frame.toList] else []) := by
    rw [onWire_whole, receive_append, hnext]
  constructor
  · intro _
    rw [hrecv]
  · rw [hrecv, List.filter_append, List.map_append]
    refine h.whole.append ?_
    split
    · exact List.Sublist.refl _
    · exact List.nil_sublist _
  · rw [hrecv, List.filter_append, List.map_append]
    by_cases hp : past = []
    · subst hp
      exact (List.append_nil _).symm ▸ h.later.trans (List.sublist_append_left _ _)
    · rw [if_pos (h.idle hp)]
      refine h.later.append ?_
      exact List.filter_sublist.map _
  · intro hone
    rw [List.length_append, List.length_singleton] at hone
    have hp : past ≠ [] := List.ne_nil_of_length_pos (by omega)
    refine ⟨_, List.mem_append_right es List.mem_cons_self, rfl, ?_⟩
    rw [hrecv, if_pos (h.idle hp)]
    exact List.getLast?_concat

/-- **A frame cut off** is not delivered, and completes nothing. -/
theorem Stream.cut (h : Stream past es) (hf : IsFrame dataGrammar out.frame.toList)
    (hblank : past = [] → Blank dataGrammar out.frame.toList) {sent : Nat} (hsent : sent < 10) :
    Stream [] (es ++ [⟨past ++ [i], out, sent, off⟩]) := by
  have hnone : (receive dataGrammar (receive dataGrammar [] (onWire es)).1
      (out.frame.toList.take sent)).2 = [] := by
    by_cases hp : past = []
    · exact receive_unstopped ((hblank hp).take hsent)
    · rw [h.idle hp, receive_take hf hsent]
  have hrecv : (receive dataGrammar [] (onWire (es ++ [⟨past ++ [i], out, sent, off⟩]))).2 =
      (receive dataGrammar [] (onWire es)).2 := by
    rw [onWire_concat, receive_append, hnone, List.append_nil]
  have hno : Entry.whole ⟨past ++ [i], out, sent, off⟩ = false :=
    decide_eq_false (Nat.ne_of_lt hsent)
  have hno' : Entry.later ⟨past ++ [i], out, sent, off⟩ = false := by
    unfold Entry.later
    rw [hno, Bool.false_and]
  constructor
  · exact fun hne => absurd rfl hne
  · rw [hrecv, List.filter_append, List.filter_cons_of_neg (by rw [hno]; decide)]
    simpa using h.whole
  · rw [hrecv, List.filter_append, List.filter_cons_of_neg (by rw [hno']; decide)]
    simpa using h.later
  · exact fun hlt => absurd hlt (by decide)

end Streams

/-! ## 4. Both nodes -/

/-- **A turn of a life**: it left what the turns of that life lead to, and they polled a piece of
    the requests' stream. -/
structure Took (conv : FloatConv) (cal : BmeCalib) (rs : List Request) (e : Entry) : Prop where
  run : ∃ t outs, run (mainStep conv) (.initial cal) e.past = some (t, outs) ∧
    e.out = shown conv t
  polls : ∃ gone rest, gone.length = e.offset ∧
    gone ++ e.past.flatMap (·.rx) ++ rest = commandStream rs

/-- The first turn of each life reads no sensor. -/
def BareStarts (es : List Entry) : Prop := ∀ e ∈ es, ∀ i, e.past = [i] → Bare i

instance : ∀ past : List LoopInput, Decidable (∀ i, past = [i] → Bare i)
  | [] => isTrue fun _ h => nomatch h
  | [i] => decidable_of_iff (Bare i) ⟨fun h _ e => (List.cons.inj e).1 ▸ h, fun h => h i rfl⟩
  | _ :: _ :: _ => isTrue fun _ h => nomatch h

instance (es : List Entry) : Decidable (BareStarts es) :=
  inferInstanceAs (Decidable (∀ e ∈ es, ∀ i, e.past = [i] → Bare i))

/-- **The invariant.** The sensor node is where the turns of its present life lead it; the base
    node has taken `got` of what went up; and of what came down `gone` was before that life. -/
structure NodeInv (conv : FloatConv) (cal : BmeCalib) (log : List NodeObs) (s : System) :
    Prop where
  node : ∃ outs, run (mainStep conv) (.initial cal) (chronicle log).past = some (s.node, outs)
  base : ∃ got, got ++ s.up = onWire (chronicle log).entries ∧ BaseInv (history log) got s
  down : ∃ gone, gone.length = (chronicle log).offset ∧
    gone ++ ((chronicle log).past.flatMap (·.rx) ++ s.down) =
      commandStream (requests (history log))
  entries : ∀ e ∈ (chronicle log).entries, Took conv cal (requests (history log)) e
  stream : BareStarts (chronicle log).entries →
    Stream (chronicle log).past (chronicle log).entries

theorem nodeInv_initial (conv : FloatConv) (cal : BmeCalib) (uart : Device) :
    NodeInv conv cal [] (.initial cal uart) where
  node := ⟨[], rfl⟩
  base := ⟨[], rfl, baseInv_initial rfl rfl⟩
  down := ⟨[], rfl, rfl⟩
  entries _ he := by cases he
  stream _ := stream_initial

section Steps

variable {conv : FloatConv} {cal : BmeCalib} {cfg : SensorNodeConfig} {dev uart : Device}
  {log : List NodeObs} {s s' : System}

/-- More requests do not change what a turn took. -/
theorem Took.mono {rs : List Request} {e : Entry} (h : Took conv cal rs e) (more : List Request) :
    Took conv cal (rs ++ more) e := by
  obtain ⟨gone, rest, hgone, heq⟩ := h.polls
  refine ⟨h.run, gone, rest ++ commandStream more, hgone, ?_⟩
  rw [commandStream_append, ← heq]
  simp only [List.append_assoc]

/-- What a turn of the present life leaves: its frame is one, and blank where the turn is the
    first and bare. -/
theorem NodeInv.turn (h : NodeInv conv cal log s) {i : LoopInput} {n : Nat} {t : LoopState}
    (hrx : i.rx = s.down.take n) (hs : mainStep conv s.node i = some (t, [shown conv t]))
    (sent : Nat) :
    (∃ outs, run (mainStep conv) (.initial cal) ((chronicle log).past ++ [i]) = some (t, outs)) ∧
      (∃ gone, gone.length = (chronicle log).offset ∧
        gone ++ (((chronicle log).past ++ [i]).flatMap (·.rx) ++ s.down.drop n) =
          commandStream (requests (history log))) ∧
      Took conv cal (requests (history log))
        ⟨(chronicle log).past ++ [i], shown conv t, sent, (chronicle log).offset⟩ ∧
      IsFrame dataGrammar (shown conv t).frame.toList ∧
      (BareStarts ((chronicle log).entries ++
          [⟨(chronicle log).past ++ [i], shown conv t, sent, (chronicle log).offset⟩]) →
        (chronicle log).past = [] → Blank dataGrammar (shown conv t).frame.toList) := by
  obtain ⟨outs, hrun⟩ := h.node
  obtain ⟨gone, hgone, hdown⟩ := h.down
  have hrun' := run_append_eq hrun ((run_singleton _ _).trans hs)
  have hdown' : gone ++ (((chronicle log).past ++ [i]).flatMap (·.rx) ++ s.down.drop n) =
      commandStream (requests (history log)) := by
    rw [List.flatMap_append, List.flatMap_singleton, hrx, List.append_assoc, List.take_append_drop,
      hdown]
  refine ⟨⟨_, hrun'⟩, ⟨gone, hgone, hdown'⟩, ⟨⟨t, _, hrun', rfl⟩, gone, s.down.drop n, hgone, ?_⟩,
    (outputs_frame hrun' (shown conv t) (List.mem_append_right _ List.mem_cons_self)).1, ?_⟩
  · rw [List.append_assoc]
    exact hdown'
  · intro hbare hpast
    have hfirst : Bare i := hbare _ (List.mem_append_right _ List.mem_cons_self) i (by
      rw [hpast, List.nil_append])
    rw [hpast] at hrun
    obtain ⟨hnode, -⟩ := Prod.mk.inj (Option.some.inj hrun)
    rw [← hnode] at hs
    rw [bare_frame hfirst hs]
    exact zeros_blank

/-- A turn whose frame is sent in full. -/
theorem NodeInv.turned (h : NodeInv conv cal log s) {i : LoopInput} {n : Nat}
    {calls : List HandlerCall} (hrx : i.rx = s.down.take n)
    (hs : mainStep conv s.node i = some (s'.node, [shown conv s'.node]))
    (hdown : s'.down = s.down.drop n)
    (hbase : ∀ got, BaseInv (history log) got s → ∃ more,
      more ++ s'.up = s.up ++ (shown conv s'.node).frame.toList ∧
        BaseInv (history log ++ (.turned i (shown conv s'.node) :: calls.map .called))
          (got ++ more) s') :
    NodeInv conv cal
      (log ++ (SystemObs.turned i (shown conv s'.node) :: calls.map .called).map .seen) s' := by
  obtain ⟨hrun, hpoll, htook, hframe, hblank⟩ := h.turn hrx hs 10
  have hC : chronicle (log ++
      (SystemObs.turned i (shown conv s'.node) :: calls.map .called).map .seen) =
      { (chronicle log) with
        past := (chronicle log).past ++ [i]
        entries := (chronicle log).entries ++
          [⟨(chronicle log).past ++ [i], shown conv s'.node, 10, (chronicle log).offset⟩] } := by
    rw [chronicle_append, List.map_cons, List.foldl_cons, note_quiet _ (inputs_called calls)]
    rfl
  have hR : requests (history (log ++
      (SystemObs.turned i (shown conv s'.node) :: calls.map .called).map .seen)) =
      requests (history log) := by
    rw [history_append, history_seen, requests_append]
    simp [requests, List.filterMap_map]
  obtain ⟨got, hgot, hinv⟩ := h.base
  obtain ⟨more, hmore, hnext⟩ := hbase got hinv
  constructor
  · rw [hC]
    exact hrun
  · rw [hC, history_append, history_seen, onWire_whole]
    exact ⟨got ++ more, by rw [List.append_assoc, hmore, ← List.append_assoc, hgot], hnext⟩
  · rw [hC, hR, hdown]
    exact hpoll
  · rw [hC, hR]
    exact List.forall_mem_append.mpr ⟨h.entries, List.forall_mem_singleton.mpr htook⟩
  · rw [hC]
    intro hbare
    exact (h.stream (List.forall_mem_append.mp hbare).1).sent hframe (hblank hbare)

/-- An event without a turn. -/
theorem NodeInv.quiet (h : NodeInv conv cal log s) {obs : List SystemObs} (hI : inputs obs = [])
    (hnode : s'.node = s.node) (hdown : s'.down = s.down ++ commandStream (requests obs))
    (hbase : ∀ got, BaseInv (history log) got s → ∃ more, more ++ s'.up = s.up ∧
      BaseInv (history log ++ obs) (got ++ more) s') :
    NodeInv conv cal (log ++ obs.map .seen) s' := by
  have hC : chronicle (log ++ obs.map .seen) = chronicle log := by
    rw [chronicle_append, note_quiet _ hI]
  have hH : history (log ++ obs.map .seen) = history log ++ obs := by
    rw [history_append, history_seen]
  obtain ⟨got, hgot, hinv⟩ := h.base
  obtain ⟨more, hmore, hnext⟩ := hbase got hinv
  obtain ⟨gone, hgone, hpoll⟩ := h.down
  constructor
  · rw [hC, hnode]
    exact h.node
  · rw [hC, hH]
    exact ⟨got ++ more, by rw [List.append_assoc, hmore, hgot], hnext⟩
  · rw [hC, hH, requests_append, commandStream_append, ← hpoll, hdown]
    exact ⟨gone, hgone, by simp only [List.append_assoc]⟩
  · rw [hC, hH, requests_append]
    exact fun e he => (h.entries e he).mono _
  · rw [hC]
    exact h.stream

/-- A restart outside a frame. -/
theorem NodeInv.reset (h : NodeInv conv cal log s) (lost : Nat) :
    NodeInv conv cal (log ++ [.reset (s.down.take lost)])
      { s with node := .initial cal, down := s.down.drop lost } := by
  have hC : chronicle (log ++ [.reset (s.down.take lost)]) =
      { (chronicle log) with
        past := []
        offset := (chronicle log).offset + polled (chronicle log).past +
          (s.down.take lost).length } := by
    rw [chronicle_append]
    rfl
  have hH : history (log ++ [.reset (s.down.take lost)]) = history log := by
    rw [history_append]
    exact List.append_nil _
  obtain ⟨got, hgot, hinv⟩ := h.base
  obtain ⟨gone, hgone, hpoll⟩ := h.down
  constructor
  · rw [hC]
    exact ⟨[], rfl⟩
  · rw [hC, hH]
    exact ⟨got, hgot, ⟨hinv.asm, hinv.accepted, hinv.sem, hinv.newest, hinv.seen_le, hinv.leds,
      hinv.idle, hinv.reading⟩⟩
  · rw [hC, hH, ← hpoll]
    refine ⟨gone ++ (chronicle log).past.flatMap (·.rx) ++ s.down.take lost, ?_, ?_⟩
    · rw [List.length_append, List.length_append, hgone]
      rfl
    · show _ ++ ([] ++ s.down.drop lost) = _
      rw [List.nil_append, List.append_assoc, List.take_append_drop, List.append_assoc]
  · rw [hC, hH]
    exact h.entries
  · rw [hC]
    exact fun hbare => (h.stream hbare).reset

/-- A turn whose frame is cut off. -/
theorem NodeInv.cut (h : NodeInv conv cal log s) {i : LoopInput} {n : Nat} {t : LoopState}
    (calls : List HandlerCall) (hrx : i.rx = s.down.take n)
    (hs : mainStep conv s.node i = some (t, [shown conv t])) {sent : Nat} (hsent : sent < 10)
    (lost : Nat) :
    NodeInv conv cal
      (log ++ ((calls.map .called).map .seen ++
        [.cut i (shown conv t) sent ((s.down.drop n).take lost)]))
      { s with node := .initial cal, down := (s.down.drop n).drop lost
               up := s.up ++ (shown conv t).frame.toList.take sent } := by
  obtain ⟨hrun, ⟨gone, hgone, hpoll⟩, htook, hframe, hblank⟩ := h.turn hrx hs sent
  have hC : chronicle (log ++ ((calls.map SystemObs.called).map .seen ++
      [.cut i (shown conv t) sent ((s.down.drop n).take lost)])) =
      { past := []
        offset := (chronicle log).offset + polled ((chronicle log).past ++ [i]) +
          ((s.down.drop n).take lost).length
        entries := (chronicle log).entries ++
          [⟨(chronicle log).past ++ [i], shown conv t, sent, (chronicle log).offset⟩] } := by
    rw [chronicle_append, List.foldl_append, note_quiet _ (inputs_called calls)]
    rfl
  have hH : history (log ++ ((calls.map SystemObs.called).map .seen ++
      [.cut i (shown conv t) sent ((s.down.drop n).take lost)])) =
      history log ++ calls.map .called := by
    rw [history_append, history_append, history_seen]
    exact congrArg (history log ++ ·) (List.append_nil _)
  have hR : requests (history log ++ calls.map .called) = requests (history log) := by
    rw [requests_append]
    simp [requests, List.filterMap_map]
  obtain ⟨got, hgot, hinv⟩ := h.base
  constructor
  · rw [hC]
    exact ⟨[], rfl⟩
  · rw [hC, hH, onWire_concat]
    refine ⟨got, by rw [← hgot, List.append_assoc], ?_⟩
    refine hinv.same ?_ ?_ rfl rfl
    · simp [frames, List.filterMap_map]
    · intro o ho r e
      rw [e] at ho
      simp at ho
  · rw [hC, hH, hR, ← hpoll]
    refine ⟨gone ++ ((chronicle log).past ++ [i]).flatMap (·.rx) ++ (s.down.drop n).take lost,
      ?_, ?_⟩
    · rw [List.length_append, List.length_append, hgone]
      rfl
    · show _ ++ ([] ++ (s.down.drop n).drop lost) = _
      rw [List.nil_append, List.append_assoc, List.take_append_drop, List.append_assoc]
  · rw [hC, hH, hR]
    exact List.forall_mem_append.mpr ⟨h.entries, List.forall_mem_singleton.mpr htook⟩
  · rw [hC]
    intro hbare
    exact (h.stream (List.forall_mem_append.mp hbare).1).cut hframe (hblank hbare) hsent

/-- **One event, or a restart**, keeps it. -/
theorem NodeInv.step {ev : NodeEvent} {obs : List NodeObs} (h : NodeInv conv cal log s)
    (hs : nodeStep conv cal cfg dev s ev = some (s', obs)) : NodeInv conv cal (log ++ obs) s' := by
  rcases ev with ev | lost | ⟨n, ultra, adc, bme, sent, lost⟩
  · obtain ⟨⟨t, o⟩, h1, e⟩ := Option.map_eq_some_iff.mp hs
    cases e
    rcases event_split h1 with ⟨i, n, calls, hrx, hmain, hdown, rfl⟩ | ⟨hnode, hI, hO, hdown⟩
    · refine h.turned hrx hmain hdown fun got hbase => ?_
      obtain ⟨more, hmore, hnext⟩ := hbase.step h1
      refine ⟨more, hmore.trans ?_, hnext⟩
      simp [outputs, sentBytes, List.filterMap_map]
    · refine h.quiet hI hnode hdown fun got hbase => ?_
      obtain ⟨more, hmore, hnext⟩ := hbase.step h1
      refine ⟨more, hmore.trans ?_, hnext⟩
      rw [hO]
      exact List.append_nil _
  · cases hs
    exact h.reset lost
  · simp only [nodeStep] at hs
    split at hs
    · rename_i hsent
      simp only [Option.bind_eq_bind, Option.bind_eq_some_iff] at hs
      obtain ⟨⟨t, outs⟩, hmain, e⟩ := hs
      obtain rfl := (mainStep_cases hmain).out
      cases e
      have hcut := h.cut (gpioEdge s.mode s.base.data s.node.intrPin (shown conv t).intrPin) rfl
        hmain hsent lost
      simpa using hcut
    · cases hs

/-- **Any run** from the start, with any restarts. -/
theorem nodeRestart_run {evs : List NodeEvent}
    (h : run (nodeStep conv cal cfg dev) (.initial cal uart) evs = some (s, log)) :
    NodeInv conv cal log s :=
  run_log (P := NodeInv conv cal) (fun _ _ _ _ _ hinv hs => hinv.step hs)
    (nodeInv_initial conv cal uart) h

end Steps

/-! ## 5. What the base node shows -/

section Reached

variable {conv : FloatConv} {cal : BmeCalib} {log : List NodeObs} {s : System}

/-- The completed frames are whole ones of the turns, in order. -/
theorem NodeInv.frames_whole (h : NodeInv conv cal log s)
    (hbare : BareStarts (chronicle log).entries) :
    (frames (history log)).Sublist
      (((chronicle log).entries.filter Entry.whole).map (·.out.frame)) := by
  obtain ⟨got, hgot, hbase⟩ := h.base
  have hstream := (h.stream hbare).whole
  have hpart : (receive dataGrammar [] got).2.Sublist
      (receive dataGrammar [] (onWire (chronicle log).entries)).2 := by
    rw [← hgot, receive_append]
    exact List.sublist_append_left _ _
  refine sublist_of_toList ?_
  rw [hbase.accepted, List.map_map]
  exact hpart.trans hstream

/-- With nothing on the wire none is missing behind the first of a life. -/
theorem NodeInv.frames_later (h : NodeInv conv cal log s)
    (hbare : BareStarts (chronicle log).entries) (hup : s.up = []) :
    (((chronicle log).entries.filter Entry.later).map (·.out.frame)).Sublist
      (frames (history log)) := by
  obtain ⟨got, hgot, hbase⟩ := h.base
  rw [hup, List.append_nil] at hgot
  refine sublist_of_toList ?_
  rw [hbase.accepted, hgot, List.map_map]
  exact (h.stream hbare).later

end Reached

/-- **No restart of the sensor node makes the LEDs lie.** In every run with any restarts, inside
    frames or not, if the first turn of each life is prompt: the completed frames are such as were
    sent in full, in that order; once nothing is left on the wire, the only ones missing are first
    ones of a life; the LEDs are off, or show the latest readings that one life had at some turn,
    under the thresholds in force there; and once the base node has taken all, from the second
    turn of the present life on they show its latest readings under its thresholds. -/
theorem nodeRestart_frames (conv : FloatConv) (cal : BmeCalib) (cfg : SensorNodeConfig)
    (dev uart : Device) (evs : List NodeEvent) (s : System) (log : List NodeObs)
    (hrun : run (nodeStep conv cal cfg dev) (.initial cal uart) evs = some (s, log))
    (hprompt : ∀ e ∈ (chronicle log).entries, ∀ i, e.past = [i] → Prompt i) :
    (frames (history log)).Sublist
        (((chronicle log).entries.filter Entry.whole).map (·.out.frame)) ∧
      (s.up = [] → (((chronicle log).entries.filter Entry.later).map (·.out.frame)).Sublist
        (frames (history log))) ∧
      (s.leds = Leds.off ∨ ∃ e ∈ (chronicle log).entries, e.whole = true ∧
        Panel (readings cal e.past) (thresholds e.out.cfg) s.leds) ∧
      (Settled s → 1 < (chronicle log).past.length →
        Panel (readings cal (chronicle log).past) (thresholds s.node.link.cfg) s.leds) := by
  have h := nodeRestart_run hrun
  have hbare : BareStarts (chronicle log).entries :=
    fun e he i hi => prompt_iff.mp (hprompt e he i hi)
  have hwhole := h.frames_whole hbare
  refine ⟨hwhole, h.frames_later hbare, ?_, ?_⟩
  · obtain ⟨_, -, hbase⟩ := h.base
    rw [hbase.leds, newestFrame]
    rcases hlast : ((frames (history log)).take (seen (history log))).getLast? with _ | f
    · exact Or.inl rfl
    · have hmem := hwhole.subset (List.mem_of_mem_take (List.mem_of_getLast? hlast))
      obtain ⟨e, he, rfl⟩ := List.mem_map.mp hmem
      obtain ⟨he, hw⟩ := List.mem_filter.mp he
      obtain ⟨t, outs, ht, hout⟩ := (h.entries e he).run
      refine Or.inr ⟨e, he, hw, ?_⟩
      rw [hout]
      exact panel_shown ht
  · intro hset hlen
    obtain ⟨got, hgot, hbase⟩ := h.base
    obtain ⟨e, he, hpast, hnewest⟩ := (h.stream hbare).newest hlen
    rw [hset.up, List.append_nil] at hgot
    -- the newest of the completed frames is that of the newest turn
    have hframe : newestFrame (frames (history log)) = e.out.frame := by
      rw [← hgot, ← hbase.accepted, List.getLast?_map] at hnewest
      obtain ⟨f, hf, hfe⟩ := Option.map_eq_some_iff.mp hnewest
      unfold newestFrame
      rw [hf, Option.getD_some, Vector.toList_inj.mp hfe]
    obtain ⟨outs, hnode⟩ := h.node
    obtain ⟨t, outs', ht, hout⟩ := (h.entries e he).run
    rw [hpast] at ht
    obtain ⟨rfl, -⟩ := Prod.mk.inj (Option.some.inj (hnode.symm.trans ht))
    rw [hbase.leds, hbase.idle hset.idle hset.read, List.take_length, hframe, hout]
    exact panel_shown hnode

/-- The base node asks for a distance threshold of 10 cm, so that 20 cm are no alarm. The sensor
    node restarts inside a frame, and its second turn then finds 20 cm again. -/
def nodeRestartEvents : List NodeEvent :=
  [.event (.attrSet .distance (.node .distThresh) ⟨10, 0⟩), .event (.turn 5 none none none),
    .event (.turn 0 (some 20) none none), .cut 0 (some 20) none none 4 0,
    .event (.turn 0 none none none), .event (.turn 0 (some 20) none none),
    .event (.isr [some 0xAA, some 0, some 0, some 0, some 0, some 0, some 0, some 0, some 0,
      some 0x55]),
    .event (.isr [some 0xAA, some 0, some 0, some 0, some 0, some 0, some 0, some 20, some 0,
      some 0x55, some 0xAA, some 0, some 0, some 0]),
    .event (.isr [some 0xAA, some 0, some 0, some 0, some 0, some 0, some 0, some 0, some 0,
      some 0x55]),
    .event (.isr [some 0xAA, some 0, some 0, some 0, some 0, some 0, some 0, some 20, some 1,
      some 0x55]),
    .event .take] ++ List.replicate 8 (.event .read)

theorem nodeRestartEvents_run :
    ∃ s log, run (nodeStep .wrapping someCalib wired ⟨1⟩) (.initial someCalib ⟨0⟩)
        nodeRestartEvents = some (s, log) ∧ Settled s ∧ s.leds.motion = true ∧
      (BareStarts (chronicle log).entries ∧ (chronicle log).past.length = 2) ∧
      (chronicle log).entries.map (·.offset) = [0, 0, 0, 5, 5] := by
  have h : (run (nodeStep .wrapping someCalib wired ⟨1⟩) (.initial someCalib ⟨0⟩)
      nodeRestartEvents).map (fun r : System × List NodeObs =>
        ((r.1.up, (box r.1.base.data).unread, r.1.base.reading, r.1.leds.motion),
          decide (BareStarts (chronicle r.2).entries ∧ (chronicle r.2).past.length = 2),
          (chronicle r.2).entries.map (·.offset))) =
      some (([], false, none, true), true, [0, 0, 0, 5, 5]) := by
    decide +kernel
  obtain ⟨⟨s, log⟩, hrun, hend⟩ := Option.map_eq_some_iff.mp h
  simp only [Prod.mk.injEq, decide_eq_true_iff] at hend
  obtain ⟨⟨hup, hread, hidle, hmotion⟩, hbare, hentries⟩ := hend
  exact ⟨s, log, hrun, ⟨hup, hread, hidle⟩, hmotion, hbare, hentries⟩

/-- The alarm of the present life is shown, although the request was there before it. -/
theorem nodeRestart_frames_demo :
    ∃ s log, run (nodeStep .wrapping someCalib wired ⟨1⟩) (.initial someCalib ⟨0⟩)
        nodeRestartEvents = some (s, log) ∧
      Panel (readings someCalib (chronicle log).past) (thresholds s.node.link.cfg) s.leds ∧
      s.leds.motion = true := by
  obtain ⟨s, log, hrun, hset, hmotion, ⟨hbare, hpast⟩, -⟩ := nodeRestartEvents_run
  exact ⟨s, log, hrun, (nodeRestart_frames .wrapping someCalib wired ⟨1⟩ ⟨0⟩ nodeRestartEvents s log
    hrun fun e he i hi => prompt_iff.mpr (hbare e he i hi)).2.2.2 hset (by omega), hmotion⟩

/-! ## 6. What the settings are -/

/-- **The settings behind a run** whose polls got any part of a stream of requests: those of some
    of these requests, in order. -/
theorem settings_part {conv : FloatConv} {cal : BmeCalib} {is : List LoopInput} {t : LoopState}
    {outs : List LoopOutput} (h : run (mainStep conv) (.initial cal) is = some (t, outs))
    {rs : List Request} {part rest : List UInt8}
    (hstream : part ++ is.flatMap (·.rx) ++ rest = commandStream rs) :
    ∃ got : List Request, got.Sublist rs ∧ thresholds t.link.cfg = settings got ∧
      t.link.cfg.irqEnabled = true ∧ t.link.cfg.irqMask = 0x17 := by
  have hsub := (receive_part command_confined (commandFrames rs) hstream).map commandOf
  rw [map_commandOf, ← stray_calls] at hsub
  obtain ⟨got, hgot, hcalls⟩ := List.sublist_map_iff.mp hsub
  -- the polls of all turns are one poll of all their bytes
  obtain ⟨calls, hlink⟩ := link_run h
  obtain ⟨link, calls', hpoll, -, rfl⟩ :=
    poll_run (s := .initial) (CmdState.assembling_idle rfl) (is.flatMap (·.rx))
  have hflat : run pollCommands LinkState.initial (is.map (·.rx)) =
      run pollByte LinkState.initial (is.map (·.rx)).flatten := run_run _ _
  rw [← List.flatMap_def] at hflat
  obtain rfl : link = t.link :=
    congrArg Prod.fst (Option.some.inj ((hflat.trans hpoll).symm.trans hlink))
  refine ⟨got, hgot, ?_⟩
  rw [poll_config hpoll, ← applyCommands_filter, hcalls]
  exact apply_written got .initial

section Settings

variable {conv : FloatConv} {cal : BmeCalib} {rs : List Request} {e : Entry}

/-- The requests not received in full before a life, and the bytes of the first of them that
    were. -/
theorem Took.rest (h : Took conv cal rs e) :
    ∃ part rest, part.length = e.offset % 5 ∧
      part ++ e.past.flatMap (·.rx) ++ rest = commandStream (rs.drop (e.offset / 5)) := by
  obtain ⟨gone, rest, hgone, hstream⟩ := h.polls
  have hle : gone.length ≤ 5 * rs.length := by
    rw [← commandStream_length, ← hstream, List.length_append, List.length_append]
    omega
  have hmul : 5 * (e.offset / 5) ≤ gone.length := by
    rw [hgone]
    exact Nat.mul_div_le _ _
  refine ⟨gone.drop (5 * (e.offset / 5)), rest, ?_, ?_⟩
  · rw [List.length_drop, hgone]
    omega
  · have hsplit : commandStream (rs.take (e.offset / 5)) ++
        commandStream (rs.drop (e.offset / 5)) = commandStream rs := by
      rw [← commandStream_append, List.take_append_drop]
    have hlen : (commandStream (rs.take (e.offset / 5))).length = 5 * (e.offset / 5) := by
      rw [commandStream_length, List.length_take]
      omega
    rw [← hsplit] at hstream
    have hdrop := congrArg (List.drop (5 * (e.offset / 5))) hstream
    rwa [List.drop_left' hlen, List.append_assoc, List.drop_append_of_le_length hmul,
      ← List.append_assoc] at hdrop

/-- **What a life's polls apply**: of the requests that had not been received in full before it,
    some, in order. -/
theorem Took.applied (h : Took conv cal rs e) :
    ∃ got : List Request, got.Sublist (rs.drop (e.offset / 5)) ∧
      thresholds e.out.cfg = settings got ∧ e.out.cfg.irqEnabled = true ∧
      e.out.cfg.irqMask = 0x17 := by
  obtain ⟨t, outs, hrun, hout⟩ := h.run
  obtain ⟨part, rest, -, hstream⟩ := h.rest
  rw [hout]
  exact settings_part hrun hstream

/-- Exactly those received in full, where the restart did not cut a command off. -/
theorem Took.applied_whole (h : Took conv cal rs e) (hoff : e.offset % 5 = 0) :
    thresholds e.out.cfg = settings (received (rs.drop (e.offset / 5)) (polled e.past)) := by
  obtain ⟨t, outs, hrun, hout⟩ := h.run
  obtain ⟨part, rest, hpart, hstream⟩ := h.rest
  obtain rfl : part = [] := List.eq_nil_of_length_eq_zero (hpart.trans hoff)
  rw [hout]
  exact (settings_run hrun ⟨rest, hstream⟩).1

end Settings

/-- **Nothing configured before a life has an effect in it.** In every run with any restarts, the
    thresholds in force at a turn are what some of the requests left, in the order they were made,
    that had not been received in full before that life; where its restart did not cut a command
    off, they are what those received in full since left; and the interrupt settings are the
    initial ones. -/
theorem nodeRestart_settings (conv : FloatConv) (cal : BmeCalib) (cfg : SensorNodeConfig)
    (dev uart : Device) (evs : List NodeEvent) (s : System) (log : List NodeObs)
    (hrun : run (nodeStep conv cal cfg dev) (.initial cal uart) evs = some (s, log))
    (e : Entry) (he : e ∈ (chronicle log).entries) :
    (∃ got : List Request, got.Sublist ((requests (history log)).drop (e.offset / 5)) ∧
        thresholds e.out.cfg = settings got ∧ e.out.cfg.irqEnabled = true ∧
        e.out.cfg.irqMask = 0x17) ∧
      (e.offset % 5 = 0 → thresholds e.out.cfg =
        settings (received ((requests (history log)).drop (e.offset / 5)) (polled e.past))) := by
  have htook := (nodeRestart_run hrun).entries e he
  exact ⟨htook.applied, htook.applied_whole⟩

theorem nodeRestart_settings_demo :
    ∃ s log e, run (nodeStep .wrapping someCalib wired ⟨1⟩) (.initial someCalib ⟨0⟩)
        nodeRestartEvents = some (s, log) ∧ e ∈ (chronicle log).entries ∧ e.offset = 5 ∧
      thresholds e.out.cfg =
        settings (received ((requests (history log)).drop (e.offset / 5)) (polled e.past)) := by
  obtain ⟨s, log, hrun, -, -, -, hentries⟩ := nodeRestartEvents_run
  have hmem : 5 ∈ (chronicle log).entries.map (·.offset) := by
    rw [hentries]
    decide
  obtain ⟨e, he, hoff⟩ := List.mem_map.mp hmem
  exact ⟨s, log, e, hrun, he, hoff, (nodeRestart_settings .wrapping someCalib wired ⟨1⟩ ⟨0⟩
    nodeRestartEvents s log hrun e he).2 (by rw [hoff])⟩

end HomeAlert.Link
