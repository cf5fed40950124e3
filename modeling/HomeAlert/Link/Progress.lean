/-
  File:      HomeAlert/Link/Progress.lean
  Subject:   NOTHING GETS STUCK: what the two nodes can do next, and that `main` goes on.

  A step of the model is none where the code would write behind a buffer, overflow, or wait for
  ever. Here it is shown where that can be: only in a reading of the BME680.

  * `Possible`, `system_progress` -- in every reachable state, exactly when an event can happen;
  * `Ready`, `shipped_live` -- the shipped system never stops the clock, and from every state of it
    the base node alone gets `main` back to its fetch, past any moment.
-/
import HomeAlert.Link.Warnings

namespace HomeAlert.Link

open Framing Machine Mailbox Urgent Base Node

/-! ## 1. What can happen next -/

/-- An event that can happen: a turn whose reading of the BME680, if it makes one, returns without
    an overflow; bytes that have been sent; a take while no fetch is reading, and a read while one
    is; every request. -/
def Possible (cal : BmeCalib) (s : System) : SystemEvent → Prop
  | .turn _ _ _ bme => ∀ io, bme = some io → (readBme680 cal io).isSome = true
  | .isr reads => fifoBytes reads <+: s.up
  | .take => s.base.reading = none
  | .read => s.base.reading.isSome = true
  | .attrSet _ _ _ => True
  | .triggerSet _ _ _ => True

section System

variable {conv : FloatConv} {cal : BmeCalib} {log : List SystemObs} {s : System}

/-- A turn is defined where its reading is. -/
theorem SystemInv.turn_iff (h : SystemInv conv cal log s) (i : LoopInput) :
    (mainStep conv s.node i).isSome = true ↔
      ∀ io, i.bme = some io → (readBme680 cal io).isSome = true := by
  have hturns := turns_run h.node
  constructor
  · intro hsome io hio
    obtain ⟨⟨node, outs⟩, hs⟩ := Option.isSome_iff_exists.mp hsome
    rcases (mainStep_cases hs).bme with ⟨hnone, -⟩ | ⟨io', data, cal', hi, hread, -⟩
    · cases hnone.symm.trans hio
    · obtain rfl : io' = io := Option.some.inj (hi.symm.trans hio)
      rw [← hturns.readBme680_eq, hread]
      rfl
  · intro hbme
    obtain ⟨node, hs⟩ := mainStep_defined conv hturns.asm fun io hio => by
      rw [hturns.readBme680_eq]
      exact Option.isSome_iff_exists.mp (hbme io hio)
    rw [hs]
    rfl

/-- A read is defined while a fetch is reading. -/
theorem read_isSome (base : FetchState) (hlt : ∀ bs, base.reading = some bs → bs.length < 8) :
    (preemptStep base .read).isSome = base.reading.isSome := by
  obtain ⟨data, reading⟩ := base
  rcases reading with _ | bs
  · rfl
  · have hbs := hlt bs rfl
    obtain ⟨b, hb⟩ : ∃ b, data.readyBuf[bs.length + 1]? = some b :=
      ⟨_, Vector.getElem?_eq_getElem (by omega)⟩
    simp only [preemptStep, hb, Option.bind_eq_bind, Option.bind_some]
    split
    · rfl
    · rfl

/-- **What can happen in a state**, by its invariant. -/
theorem SystemInv.possible_iff (h : SystemInv conv cal log s) (cfg : SensorNodeConfig)
    (dev : Device) (ev : SystemEvent) :
    (systemStep conv cfg dev s ev).isSome = true ↔ Possible cal s ev := by
  rcases ev with ⟨n, ultra, adc, bme⟩ | reads | _ | _ | ⟨chan, attr, val⟩ |
    ⟨accepts, trig, handler⟩
  · refine Iff.trans ?_ (h.turn_iff { rx := s.down.take n, ultra := ultra, adc := adc, bme := bme })
    simp only [systemStep, Option.bind_eq_bind, Option.isSome_bind, Option.isSome_some,
      Option.any_true]
  · obtain ⟨got, -, hbase⟩ := h.base
    obtain ⟨data, out, h1, -, -⟩ := isr_run hbase.asm reads
    rw [Possible, ← List.isPrefixOf_iff_prefix]
    simp only [systemStep, preemptStep, h1, Option.map_some, Option.bind_eq_bind, Option.bind_some]
    split
    · rename_i hpre
      exact iff_of_true rfl hpre
    · rename_i hpre
      exact iff_of_false Bool.false_ne_true hpre
  · show _ ↔ s.base.reading = none
    rcases hr : s.base.reading with _ | bs
    · rcases ht : s.base.data.frameSem.take with _ | sem
      · simp [systemStep, preemptStep, hr, ht]
      · simp [systemStep, preemptStep, hr, ht]
    · simp [systemStep, preemptStep, hr]
  · have hread := read_isSome s.base h.reading
    show _ ↔ s.base.reading.isSome = true
    rw [← hread]
    rcases hs : preemptStep s.base .read with _ | ⟨base, obs⟩
    · simp [systemStep, hs]
    · obtain ⟨leds, o, hlift⟩ := read_lift conv cfg dev hs
      rw [hlift]
      exact iff_of_true rfl rfl
  · exact iff_of_true rfl trivial
  · exact iff_of_true rfl trivial

end System

/-- **Nothing gets stuck but on the BME680.** In every reachable state, whatever has happened: an
    invocation of the interrupt routine with bytes that were sent, a take or the next read, and any
    request are always defined; a turn is, too, unless its reading of the BME680 never ends or
    overflows, whatever bytes the poll finds. -/
theorem system_progress (conv : FloatConv) (cal : BmeCalib) (cfg : SensorNodeConfig)
    (dev uart : Device) (evs : List SystemEvent) (s : System) (log : List SystemObs)
    (hrun : run (systemStep conv cfg dev) (.initial cal uart) evs = some (s, log))
    (ev : SystemEvent) :
    (systemStep conv cfg dev s ev).isSome = true ↔ Possible cal s ev :=
  (system_run hrun).possible_iff cfg dev ev

/-- Behind these events a turn with a reading of the BME680 is defined; one whose status never
    clears is not. -/
theorem system_progress_demo :
    let reading (status : UInt8) : SystemEvent :=
      .turn 0 none none (some ⟨[⟨1, #v[status]⟩], ⟨10, Vector.replicate 10 0x80⟩⟩)
    ∃ s log, run (systemStep .wrapping wired ⟨1⟩) (.initial someCalib ⟨0⟩) firstEvents =
        some (s, log) ∧
      (systemStep .wrapping wired ⟨1⟩ s (reading 0)).isSome = true ∧
      (systemStep .wrapping wired ⟨1⟩ s (reading 0x20)).isSome = false := by
  intro reading
  obtain ⟨s, log, -, -, h1, -⟩ := demo_run
  have hiff := system_progress .wrapping someCalib wired ⟨1⟩ ⟨0⟩ firstEvents s log h1
  refine ⟨s, log, h1, (hiff (reading 0)).mpr ?_, ?_⟩
  · intro io hio
    obtain rfl := Option.some.inj hio
    decide +kernel
  · rw [← Bool.not_eq_true]
    exact fun h => Bool.false_ne_true ((hiff (reading 0x20)).mp h _ rfl)

/-! ## 2. What is not overdue -/

/-- The events of the base node. -/
def ShippedEvent.Base : ShippedEvent → Prop
  | .turn _ _ _ _ => False
  | _ => True

/-- **A state from which the system goes on**: nothing is overdue, and a fetch is reading exactly
    where `main` stands in one. -/
structure Ready (pace : Pace) (conv : FloatConv) (cal : BmeCalib) (s : Shipped) (now : Nat) :
    Prop where
  inv : ∃ log, SystemInv conv cal log s.sys
  due : overdue pace s now = false
  busy : s.sys.base.reading.isSome = true ↔ ∃ since, s.phase = .reading since

section Ready

variable {pace : Pace} {conv : FloatConv} {cal : BmeCalib} {cfg : SensorNodeConfig} {dev : Device}
  {s s' : Shipped} {now t : Nat} {obs : List SystemObs}

/-- What is not overdue: the bytes of the last turn, and the step of `main`. -/
theorem overdue_iff : overdue pace s t = false ↔
    (s.sys.up ≠ [] → ∀ u, s.turned = some u → t ≤ u + pace.travel) ∧
      s.phase.late pace.slack (box s.sys.base.data).unread s.given t = false := by
  unfold overdue
  rw [Bool.or_eq_false_iff]
  refine and_congr_left' ?_
  rcases hup : s.sys.up with _ | ⟨b, bs⟩
  · exact iff_of_true rfl fun hne => absurd rfl hne
  · rcases s.turned with _ | u
    · exact iff_of_true rfl fun _ u hu => by cases hu
    · simp

/-- With nothing on the wire only `main` can be late. -/
theorem overdue_empty (hup : s.sys.up = []) : overdue pace s t = false ↔
    s.phase.late pace.slack (box s.sys.base.data).unread s.given t = false :=
  overdue_iff.trans (and_iff_right fun hne => absurd hup hne)

/-- `frame_sem`, given now, leaves `main` its slack. -/
theorem late_given {slack given : Nat} {unread : Bool} {p : Phase}
    (h : p.late slack unread given t = false) : p.late slack true t t = false := by
  rcases p with _ | since | _ | _ | since | since | since | _
  · rfl
  · rfl
  · rfl
  · rfl
  · rw [Phase.late, if_pos rfl, decide_eq_false_iff_not]
    omega
  · exact h
  · exact h
  · rfl

/-- Where `main` stands since now it is not late. -/
theorem late_now (slack given : Nat) (unread : Bool) (busy : Bool) :
    (if busy = true then Phase.reading t else .sleeping t).late slack unread given t = false := by
  cases busy with
  | true => exact decide_eq_false (by omega)
  | false => exact decide_eq_false (by unfold reportPause; omega)

theorem late_fetching (slack : Nat) {given : Nat} (unread : Bool) :
    (Phase.fetching t).late slack unread given t = false := by
  rw [Phase.late]
  split
  · exact decide_eq_false (by omega)
  · exact decide_eq_false (by unfold fetchTimeout; omega)

/-- Where `main` does not stand in a fetch, none is reading. -/
theorem Ready.idle (h : Ready pace conv cal s now) (hp : ∀ since, s.phase ≠ .reading since) :
    s.sys.base.reading = none := by
  rw [← Option.not_isSome_iff_eq_none, h.busy]
  rintro ⟨since, e⟩
  exact hp since e

theorem busy_idle (hidle : s.sys.base.reading = none) (hp : ∀ since, s.phase ≠ .reading since) :
    s.sys.base.reading.isSome = true ↔ ∃ since, s.phase = .reading since := by
  rw [hidle]
  refine iff_of_false Bool.false_ne_true ?_
  rintro ⟨since, e⟩
  exact hp since e

theorem busy_reading (busy : Bool) (since t : Nat) : busy = true ↔
    ∃ u, (if busy = true then Phase.reading since else .sleeping t) = .reading u := by
  cases busy with
  | true => exact iff_of_true rfl ⟨since, rfl⟩
  | false =>
    refine iff_of_false Bool.false_ne_true ?_
    rintro ⟨u, e⟩
    cases e

/-- **A step leaves nothing overdue at its moment.** -/
theorem Ready.step (h : Ready pace conv cal s now) (hdue : overdue pace s t = false)
    (hs : s.Effect conv cfg dev t s' obs) : Ready pace conv cal s' t := by
  obtain ⟨log, hinv⟩ := h.inv
  obtain ⟨evs, hevs⟩ := hs.system
  have hinv' : ∃ log, SystemInv conv cal log s'.sys := ⟨log ++ obs, hinv.steps hevs⟩
  obtain ⟨hwire, hlate⟩ := overdue_iff.mp hdue
  cases hs with
  | turn i sys obs hi hpause hs =>
    obtain ⟨hbase, -, -⟩ := turn_effect hi hs
    refine ⟨hinv', overdue_iff.mpr ⟨fun _ u hu => ?_, ?_⟩, ?_⟩
    · cases hu
      exact Nat.le_add_right t pace.travel
    · show s.phase.late pace.slack (box sys.base.data).unread s.given t = false
      rw [hbase]
      exact hlate
    · show sys.base.reading.isSome = true ↔ _
      rw [hbase]
      exact h.busy
  | isr reads sys obs hs =>
    obtain ⟨data, out, -, hbox, rfl, rfl⟩ := isr_effect hinv.sem hs
    refine ⟨hinv', overdue_iff.mpr ⟨fun hne => hwire fun hnil => hne ?_, ?_⟩, h.busy⟩
    · show s.sys.up.drop _ = []
      rw [hnil, List.drop_nil]
    · show s.phase.late pace.slack (box data).unread _ t = false
      rw [hbox]
      rcases out with _ | ⟨f, fs⟩
      · rw [posts_nil]
        exact hlate
      · rw [posts_eq, List.isEmpty_cons, Bool.not_false, Bool.or_true]
        exact late_given hlate
  | boot phase hphase hnext =>
    have hidle : s.sys.base.reading = none := by
      refine h.idle fun since e => ?_
      rcases hphase with hp | ⟨since', hp⟩
      · cases hp.symm.trans e
      · cases hp.symm.trans e
    rcases hnext with rfl | rfl | rfl
    · exact ⟨hinv', overdue_iff.mpr ⟨hwire, rfl⟩, busy_idle hidle fun _ e => by cases e⟩
    · exact ⟨hinv', overdue_iff.mpr ⟨hwire, rfl⟩, busy_idle hidle fun _ e => by cases e⟩
    · exact ⟨hinv', overdue_iff.mpr ⟨hwire, rfl⟩, busy_idle hidle fun _ e => by cases e⟩
  | arm answer sys obs hp hs =>
    obtain ⟨hup, -, hreading, -⟩ := trigger_effect hs
    have hidle := hreading.trans (h.idle fun _ e => by cases hp.symm.trans e)
    exact ⟨hinv', overdue_iff.mpr ⟨fun hne => hwire (hup ▸ hne), rfl⟩,
      busy_idle hidle fun _ e => by cases e⟩
  | configure sys obs hp hs =>
    obtain ⟨hup, hbase, -⟩ := request_effect hs
    have hidle := (congrArg FetchState.reading hbase).trans
      (h.idle fun _ e => by cases hp.symm.trans e)
    exact ⟨hinv', overdue_iff.mpr ⟨fun hne => hwire (hup ▸ hne), late_fetching _ _⟩,
      busy_idle hidle fun _ e => by cases e⟩
  | take since sys obs hp hwait hs =>
    have hup : sys.up = s.sys.up := by
      obtain ⟨-, hcase⟩ := take_effect hinv.sem hs
      rcases hcase with ⟨-, rfl, -⟩ | ⟨-, -, sem, rfl, -⟩
      · rfl
      · rfl
    exact ⟨hinv', overdue_iff.mpr ⟨fun hne => hwire (hup ▸ hne), late_now _ _ _ _⟩,
      busy_reading _ t t⟩
  | read since sys obs hp hs =>
    obtain ⟨-, hup, -⟩ := system_read hs
    refine ⟨hinv', overdue_iff.mpr ⟨fun hne => hwire (hup ▸ hne), ?_⟩, busy_reading _ since t⟩
    show (ite _ _ _ : Phase).late _ _ _ _ = _
    split
    · rw [hp] at hlate
      exact hlate
    · exact late_now _ _ _ false
  | wake since hp hpause =>
    exact ⟨hinv', overdue_iff.mpr ⟨hwire, late_fetching _ _⟩,
      busy_idle (h.idle fun _ e => by cases hp.symm.trans e) fun _ e => by cases e⟩

end Ready

/-! ## 3. The thread of main goes on -/

section Main

variable {pace : Pace} {conv : FloatConv} {cal : BmeCalib} (cfg : SensorNodeConfig) (dev : Device)
  {s s' : Shipped} {now t : Nat} {obs : List SystemObs}

theorem ready_initial (pace : Pace) (conv : FloatConv) (cal : BmeCalib) (uart : Device) :
    Ready pace conv cal (.initial cal uart) 0 where
  inv := ⟨[], systemInv_initial conv cal uart⟩
  due := rfl
  busy := iff_of_false Bool.false_ne_true fun ⟨_, e⟩ => by cases e

/-- Any run leads to a state from which the system goes on. -/
theorem ready_run {s s' : Shipped × Nat} {evs : List (Nat × ShippedEvent)}
    {log : List (Nat × SystemObs)} (h : Ready pace conv cal s.1 s.2)
    (hr : run (timed (shipped pace conv cfg dev)) s evs = some (s', log)) :
    Ready pace conv cal s'.1 s'.2 :=
  timed_log (P := fun _ s now => Ready pace conv cal s now) []
    (fun _ _ _ _ _ _ _ hP _ hdue hs => hP.step hdue (shippedStep_cases hs)) h hr

/-- From one state to another by the base node alone. -/
abbrev Goes (pace : Pace) (conv : FloatConv) (cfg : SensorNodeConfig) (dev : Device) :
    Shipped × Nat → Shipped × Nat → Prop :=
  Leads (shipped pace conv cfg dev) ShippedEvent.Base

theorem Ready.goes {s s' : Shipped × Nat} (h : Ready pace conv cal s.1 s.2)
    (hg : Goes pace conv cfg dev s s') : Ready pace conv cal s'.1 s'.2 := by
  obtain ⟨is, o, -, hr⟩ := hg
  exact ready_run cfg dev h hr

/-- A step of `main`, where what it calls answers well. -/
theorem goes_main (hle : now ≤ t) (hdue : overdue pace s t = false)
    (hs : applicationStep conv cfg dev s t true = some (s', obs)) :
    Goes pace conv cfg dev (s, now) (s', t) :=
  leads_step (M := shipped pace conv cfg dev) (i := .main true) trivial hle hdue hs

/-- **What is on the wire arrives.** -/
theorem Ready.receive (h : Ready pace conv cal s now) :
    ∃ s', Goes pace conv cfg dev (s, now) (s', now) ∧ s'.sys.up = [] ∧ s'.phase = s.phase := by
  obtain ⟨log, hinv⟩ := h.inv
  obtain ⟨got, -, hbase⟩ := hinv.base
  obtain ⟨sys, o, hs, hup, -⟩ : ∃ sys o, systemStep conv cfg dev s.sys
      (.isr (s.sys.up.map some)) = some (sys, o) ∧ sys.up = [] ∧ _ := catchUp_receive hbase.asm
  have hstep : shippedStep conv cfg dev s now (.isr (s.sys.up.map some)) =
      some ({ s with sys := sys, given := if o.isEmpty then s.given else now }, o) := by
    simp only [shippedStep, hs, Option.bind_eq_bind, Option.bind_some]
  exact ⟨{ s with sys := sys, given := if o.isEmpty then s.given else now },
    leads_step (M := shipped pace conv cfg dev) (i := .isr (s.sys.up.map some)) trivial le_rfl
      h.due hstep, hup, rfl⟩

/-- **A read** goes on with the fetch or ends it. -/
theorem Ready.read (h : Ready pace conv cal s now) {since : Nat} (hp : s.phase = .reading since)
    {bs : List UInt8} (hbs : s.sys.base.reading = some bs) :
    ∃ s', Goes pace conv cfg dev (s, now) (s', now) ∧ s'.sys.up = s.sys.up ∧
      (s'.phase = .sleeping now ∨ s'.phase = .reading since ∧
        ∃ b, s'.sys.base.reading = some (bs ++ [b])) := by
  obtain ⟨log, hinv⟩ := h.inv
  have hsome : s.sys.base.reading.isSome = true := by rw [hbs]; rfl
  obtain ⟨⟨sys, obs⟩, hs⟩ :=
    Option.isSome_iff_exists.mp ((hinv.possible_iff cfg dev .read).mpr hsome)
  have hstep : applicationStep conv cfg dev s now true = some ({ s with
      sys := sys
      phase := if sys.base.reading.isSome then .reading since else .sleeping now }, obs) := by
    simp only [applicationStep, hp, hs, Option.bind_eq_bind, Option.bind_some]
  refine ⟨_, goes_main cfg dev le_rfl h.due hstep, (system_read hs).2.1, ?_⟩
  · simp only [systemStep, Option.bind_eq_bind, Option.bind_eq_some_iff] at hs
    obtain ⟨⟨base, fobs⟩, h1, e⟩ := hs
    have hout := (read_effect h1).outcome
    rcases hout with ⟨bs', b, hbs', -, hnext, -⟩ | ⟨bs', -, -, hnone, -, -⟩
    · obtain rfl : bs' = bs := Option.some.inj (hbs'.symm.trans hbs)
      have hnext' : base.reading = some (bs' ++ [b]) := hnext
      rw [if_pos (by rw [hnext']; rfl)] at e
      cases e
      refine Or.inr ⟨?_, b, hnext'⟩
      show (ite _ _ _ : Phase) = _
      rw [if_pos (by rw [hnext']; rfl)]
    · have hnone' : base.reading = none := hnone
      rw [if_neg (by rw [hnone']; exact Bool.false_ne_true)] at e
      obtain ⟨r, -, e⟩ := Option.bind_eq_some_iff.mp e
      cases e
      left
      show (ite _ _ _ : Phase) = _
      rw [if_neg (by rw [hnone']; exact Bool.false_ne_true)]

/-- **A fetch that is reading ends.** -/
theorem Ready.finish : ∀ (n : Nat) {s : Shipped} {since : Nat} {bs : List UInt8},
    Ready pace conv cal s now → s.phase = .reading since → s.sys.base.reading = some bs →
    8 ≤ bs.length + n →
    ∃ s', Goes pace conv cfg dev (s, now) (s', now) ∧ s'.sys.up = s.sys.up ∧
      s'.phase = .sleeping now := by
  intro n
  induction n with
  | zero =>
    intro s since bs h _ hbs hn
    obtain ⟨log, hinv⟩ := h.inv
    have hlt := hinv.reading bs hbs
    omega
  | succ n ih =>
    intro s since bs h hp hbs hn
    obtain ⟨s₁, h1, hup₁, hend | ⟨hp₁, b, hbs₁⟩⟩ := h.read cfg dev hp hbs
    · exact ⟨s₁, h1, hup₁, hend⟩
    · obtain ⟨s₂, h2, hup₂, hend⟩ := ih (h.goes cfg dev h1) hp₁ hbs₁ (by
        rw [List.length_append, List.length_singleton]
        omega)
      exact ⟨s₂, h1.trans h2, hup₂.trans hup₁, hend⟩

/-- **A fetch returns**: with the frame that waits, or after two seconds. -/
theorem Ready.fetch (h : Ready pace conv cal s now) (hup : s.sys.up = []) {since : Nat}
    (hp : s.phase = .fetching since) :
    ∃ s' t, Goes pace conv cfg dev (s, now) (s', t) ∧ s'.sys.up = [] ∧ now ≤ t ∧
      s'.phase = .sleeping t := by
  obtain ⟨log, hinv⟩ := h.inv
  have hidle : s.sys.base.reading = none := h.idle fun _ e => by cases hp.symm.trans e
  obtain ⟨⟨sys, obs⟩, hs⟩ :=
    Option.isSome_iff_exists.mp ((hinv.possible_iff cfg dev .take).mpr hidle)
  have hmain : ∀ t, (box s.sys.base.data).unread = true ∨ since + fetchTimeout ≤ t →
      applicationStep conv cfg dev s t true = some ({ s with
        sys := sys
        phase := if sys.base.reading.isSome then .reading t else .sleeping t }, obs) := by
    intro t hwait
    have hguard : ((box s.sys.base.data).unread || decide (since + fetchTimeout ≤ t)) = true := by
      rw [Bool.or_eq_true_iff, decide_eq_true_iff]
      exact hwait
    simp only [applicationStep, hp, hguard, if_true, hs, Option.bind_eq_bind, Option.bind_some]
  obtain ⟨-, hcase⟩ := take_effect hinv.sem hs
  rcases hcase with ⟨hun, rfl, -⟩ | ⟨hun, -, sem, rfl, -⟩
  · -- the moment at which `k_sem_take` gives up, unless it has passed
    refine ⟨_, max now (since + fetchTimeout), goes_main cfg dev (le_max_left _ _) ?_
      (hmain _ (Or.inr (le_max_right _ _))), hup, le_max_left _ _, ?_⟩
    · have hdue := (overdue_empty hup).mp h.due
      rw [overdue_empty hup, hp]
      rw [hp] at hdue
      simp only [Phase.late, hun, Bool.false_eq_true, if_false, decide_eq_false_iff_not] at hdue ⊢
      omega
    · show (ite _ _ _ : Phase) = _
      rw [hidle]
      rfl
  · have h1 := goes_main cfg dev (le_refl now) h.due (hmain now (Or.inl hun))
    obtain ⟨s₂, h2, hup₂, hend⟩ := (h.goes cfg dev h1).finish cfg dev 8 rfl rfl (Nat.le_refl 8)
    exact ⟨s₂, now, h1.trans h2, hup₂.trans hup, le_rfl, hend⟩

/-- **The pause ends.** -/
theorem Ready.wake (h : Ready pace conv cal s now) (hup : s.sys.up = []) {since : Nat}
    (hp : s.phase = .sleeping since) :
    ∃ s' t, Goes pace conv cfg dev (s, now) (s', t) ∧ s'.sys.up = [] ∧ since + reportPause ≤ t ∧
      s'.phase = .fetching t := by
  have hstep : applicationStep conv cfg dev s (max now (since + reportPause)) true =
      some ({ s with phase := .fetching (max now (since + reportPause)) }, []) := by
    simp only [applicationStep, hp]
    rw [if_pos (le_max_right _ _)]
  refine ⟨_, _, goes_main cfg dev (le_max_left _ _) ?_ hstep, hup, le_max_right _ _, rfl⟩
  have hdue := (overdue_empty hup).mp h.due
  rw [overdue_empty hup, hp]
  rw [hp] at hdue
  simp only [Phase.late, decide_eq_false_iff_not] at hdue ⊢
  omega

/-- `main` has just called its fetch, with nothing on the wire. -/
structure Calls (s : Shipped × Nat) : Prop where
  up : s.1.sys.up = []
  phase : s.1.phase = .fetching s.2

/-- **A round**: from one fetch to the next, with the pause between them. -/
theorem Ready.round {s : Shipped × Nat} (h : Ready pace conv cal s.1 s.2) (hs : Calls s) :
    ∃ s', Goes pace conv cfg dev s s' ∧ Calls s' ∧ s.2 + reportPause ≤ s'.2 := by
  obtain ⟨s₁, t₁, h1, hup₁, hle, hp₁⟩ := h.fetch cfg dev hs.up hs.phase
  obtain ⟨s₂, t₂, h2, hup₂, hpause, hp₂⟩ := (h.goes cfg dev h1).wake cfg dev hup₁ hp₁
  exact ⟨(s₂, t₂), h1.trans h2, ⟨hup₂, hp₂⟩, (Nat.add_le_add_right hle reportPause).trans hpause⟩

theorem Ready.configure (h : Ready pace conv cal s now) (hup : s.sys.up = [])
    (hp : s.phase = .configuring) : ∃ s', Goes pace conv cfg dev (s, now) s' ∧ Calls s' := by
  have hstep : applicationStep conv cfg dev s now true = some ({ s with
      sys := { s.sys with down := s.sys.down ++ proximity.bytes }
      phase := .fetching now },
        [.configured .distance (.node .distThresh) distThresh (.ok ())]) := by
    simp only [applicationStep, hp]
    rfl
  exact ⟨_, goes_main cfg dev le_rfl h.due hstep, hup, rfl⟩

theorem Ready.arm (h : Ready pace conv cal s now) (hup : s.sys.up = []) (hp : s.phase = .arming) :
    ∃ s', Goes pace conv cfg dev (s, now) s' ∧ Calls s' := by
  obtain ⟨log, hinv⟩ := h.inv
  obtain ⟨⟨sys, obs⟩, hs⟩ := Option.isSome_iff_exists.mp ((hinv.possible_iff cfg dev
    (.triggerSet true alarmTrig (some alarmTriggerCb))).mpr trivial)
  have hstep : applicationStep conv cfg dev s now true =
      some ({ s with sys := sys, phase := .configuring }, obs) := by
    simp only [applicationStep, hp, hs, Option.bind_eq_bind, Option.bind_some]
  have h1 := goes_main cfg dev le_rfl h.due hstep
  obtain ⟨s₂, h2, hcalls⟩ :=
    (h.goes cfg dev h1).configure cfg dev ((trigger_effect hs).1.trans hup) rfl
  exact ⟨s₂, h1.trans h2, hcalls⟩

theorem Ready.boot (h : Ready pace conv cal s now) (hup : s.sys.up = []) {since : Nat}
    (hp : s.phase = .booting since) : ∃ s', Goes pace conv cfg dev (s, now) s' ∧ Calls s' := by
  have hstep : applicationStep conv cfg dev s (max now (since + bootPause)) true =
      some ({ s with phase := .arming }, []) := by
    simp only [applicationStep, hp]
    rw [if_pos (le_max_right _ _)]
  have hdue : overdue pace s (max now (since + bootPause)) = false := by
    rw [overdue_empty hup, hp]
    rfl
  have h1 := goes_main cfg dev (le_max_left _ _) hdue hstep
  obtain ⟨s₂, h2, hcalls⟩ := (h.goes cfg dev h1).arm cfg dev hup rfl
  exact ⟨s₂, h1.trans h2, hcalls⟩

/-- **From wherever `main` stands**, if it has not returned, it gets to its fetch. -/
theorem Ready.reach (h : Ready pace conv cal s now) (hne : s.phase ≠ .returned) :
    ∃ s', Goes pace conv cfg dev (s, now) s' ∧ Calls s' := by
  obtain ⟨s₁, h0, hup, hp₁⟩ := h.receive cfg dev
  have hr := h.goes cfg dev h0
  suffices hcalls : ∃ s', Goes pace conv cfg dev (s₁, now) s' ∧ Calls s' by
    obtain ⟨s', h1, hcalls⟩ := hcalls
    exact ⟨s', h0.trans h1, hcalls⟩
  rcases hp : s.phase with _ | since | _ | _ | since | since | since | _ <;> rw [hp] at hp₁
  · have hstep : applicationStep conv cfg dev s₁ now true =
        some ({ s₁ with phase := .booting now }, []) := by
      simp only [applicationStep, hp₁, if_true]
    have h1 := goes_main cfg dev le_rfl hr.due hstep
    obtain ⟨s₂, h2, hcalls⟩ := (hr.goes cfg dev h1).boot cfg dev hup rfl
    exact ⟨s₂, h1.trans h2, hcalls⟩
  · exact hr.boot cfg dev hup hp₁
  · exact hr.arm cfg dev hup hp₁
  · exact hr.configure cfg dev hup hp₁
  · obtain ⟨s₂, t₂, h1, hup₂, -, hp₂⟩ := hr.fetch cfg dev hup hp₁
    obtain ⟨s₃, t₃, h2, hup₃, -, hp₃⟩ := (hr.goes cfg dev h1).wake cfg dev hup₂ hp₂
    exact ⟨(s₃, t₃), h1.trans h2, hup₃, hp₃⟩
  · obtain ⟨bs, hbs⟩ := Option.isSome_iff_exists.mp (hr.busy.mpr ⟨since, hp₁⟩)
    obtain ⟨s₂, h1, hup₂, hp₂⟩ := hr.finish cfg dev 8 hp₁ hbs (Nat.le_add_left 8 _)
    obtain ⟨s₃, t₃, h2, hup₃, -, hp₃⟩ := (hr.goes cfg dev h1).wake cfg dev (hup₂.trans hup) hp₂
    exact ⟨(s₃, t₃), h1.trans h2, hup₃, hp₃⟩
  · obtain ⟨s₃, t₃, h2, hup₃, -, hp₃⟩ := hr.wake cfg dev hup hp₁
    exact ⟨(s₃, t₃), h2, hup₃, hp₃⟩
  · exact absurd hp hne

/-- Where `main` has returned, time goes on. -/
theorem Ready.returned (h : Ready pace conv cal s now) (hp : s.phase = .returned) (t : Nat) :
    ∃ s', Goes pace conv cfg dev (s, now) s' ∧ t ≤ s'.2 ∧ s'.1.phase = .returned := by
  obtain ⟨s₁, h0, hup, hp₁⟩ := h.receive cfg dev
  have hr := h.goes cfg dev h0
  obtain ⟨log, hinv⟩ := hr.inv
  obtain ⟨⟨sys, obs⟩, hs⟩ := Option.isSome_iff_exists.mp
    ((hinv.possible_iff cfg dev (.isr [])).mpr (List.nil_prefix))
  have hstep : shippedStep conv cfg dev s₁ (max now t) (.isr []) =
      some ({ s₁ with sys := sys, given := if obs.isEmpty then s₁.given else max now t }, obs) := by
    simp only [shippedStep, hs, Option.bind_eq_bind, Option.bind_some]
  have hdue : overdue pace s₁ (max now t) = false := by
    rw [overdue_empty hup, hp₁, hp]
    rfl
  have h1 : Goes pace conv cfg dev (s₁, now) (_, max now t) :=
    leads_step (M := shipped pace conv cfg dev) (i := .isr []) trivial (le_max_left _ _) hdue hstep
  exact ⟨_, h0.trans h1, le_max_right _ _, hp₁.trans hp⟩

end Main

/-- **The base node never stops, nor does time.** In every run, whatever the interleaving and the
    pace, nothing is overdue at its last moment; and however long a time is wanted, the base node
    alone goes on that long from there, through its interrupt routine and the steps of `main`, and
    gets `main` back to the call of its fetch, unless `main` has returned. -/
theorem shipped_live (pace : Pace) (conv : FloatConv) (cal : BmeCalib) (cfg : SensorNodeConfig)
    (dev uart : Device) (evs : List (Nat × ShippedEvent)) (s : Shipped × Nat)
    (log : List (Nat × SystemObs))
    (hrun : run (timed (shipped pace conv cfg dev)) (.initial cal uart, 0) evs = some (s, log))
    (t : Nat) :
    overdue pace s.1 s.2 = false ∧
      ∃ more s' log', (∀ ev ∈ more, ev.2.Base) ∧
        run (timed (shipped pace conv cfg dev)) s more = some (s', log') ∧ t ≤ s'.2 ∧
        (s'.1.phase = .fetching s'.2 ∨ s.1.phase = .returned ∧ s'.1.phase = .returned) := by
  have h := ready_run cfg dev (ready_initial pace conv cal uart) hrun
  refine ⟨h.due, ?_⟩
  by_cases hp : s.1.phase = .returned
  · obtain ⟨s', ⟨more, log', hbase, hmore⟩, hle, hp'⟩ := h.returned cfg dev hp t
    exact ⟨more, s', log', hbase, hmore, hle, Or.inr ⟨hp, hp'⟩⟩
  · obtain ⟨s₁, h1, hcalls⟩ := h.reach cfg dev hp
    obtain ⟨s', h2, ⟨-, hcalls'⟩, hle⟩ := leads_diverges
      (P := fun s => Ready pace conv cal s.1 s.2 ∧ Calls s) (d := reportPause) (by decide)
      (fun s ⟨hr, hc⟩ => by
        obtain ⟨s', hg, hc', hlater⟩ := hr.round cfg dev hc
        exact ⟨s', hg, ⟨hr.goes cfg dev hg, hc'⟩, hlater⟩) t ⟨h.goes cfg dev h1, hcalls⟩
    obtain ⟨more, log', hbase, hmore⟩ := h1.trans h2
    exact ⟨more, s', log', hbase, hmore, hle, Or.inl hcalls'.phase⟩

/-- An hour behind the first report. -/
theorem shipped_live_demo :
    ∃ s log more s' log', run (timed (shipped quickPace .wrapping wired ⟨1⟩))
        (.initial someCalib ⟨0⟩, 0) startEvents = some (s, log) ∧
      run (timed (shipped quickPace .wrapping wired ⟨1⟩)) s more = some (s', log') ∧
      3600000000 ≤ s'.2 := by
  obtain ⟨s, log, hrun, -⟩ := start_run
  obtain ⟨-, more, s', log', -, hmore, hle, -⟩ := shipped_live quickPace .wrapping someCalib wired
    ⟨1⟩ ⟨0⟩ startEvents s log hrun 3600000000
  exact ⟨s, log, more, s', log', hrun, hmore, hle⟩

end HomeAlert.Link
