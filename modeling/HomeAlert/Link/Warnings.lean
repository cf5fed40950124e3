/-
  File:      HomeAlert/Link/Warnings.lean
  Subject:   WHAT AN EVENT DOES TO THE DRIVER OF THE BASE NODE, and when its application warns.

  `main` prints a warning when `k_sem_take` has waited two seconds in vain, and asks again three
  tenths of a second later.

  * `turn_effect`, `isr_effect`, `take_effect`, `system_read` -- wire, mailbox and fetch behind an
    event, and what the driver says of it;
  * `Warned`, `Warned.step` -- no frame was completed behind the last give of `frame_sem`;
  * `shipped_timeouts` -- a warning is true, at any pace: no frame was completed for two seconds.
-/
import HomeAlert.Link.Shipped

namespace HomeAlert.Link

open Framing Machine Mailbox Urgent Base Node

/-! ## 1. What the events of the system do to the base node -/

/-- The observations of the driver. -/
def driven (log : List SystemObs) : List FetchObs :=
  log.filterMap fun o => match o with
    | .driver o => some o
    | _ => none

/-- The fields that fetches reported. -/
def reported (log : List SystemObs) : List Fields := reports (driven log)

theorem driven_append (a b : List SystemObs) : driven (a ++ b) = driven a ++ driven b :=
  List.filterMap_append

theorem mem_driven {o : FetchObs} {log : List SystemObs} : o ∈ driven log ↔ .driver o ∈ log := by
  unfold driven
  rw [List.mem_filterMap]
  constructor
  · intro h
    obtain ⟨x, hx, e⟩ := h
    rcases x with _ | _ | o' | _ | _ | _
    · cases e
    · cases e
    · obtain rfl := Option.some.inj e
      exact hx
    · cases e
    · cases e
    · cases e
  · intro h
    exact ⟨_, h, rfl⟩

theorem driven_completed (out : List DataFrame) :
    driven ((out.map FetchObs.completed).map .driver) = out.map .completed := by
  simp [driven, List.filterMap_map]

theorem frames_driven (log : List SystemObs) : frames log = completions (driven log) := by
  unfold frames completions driven
  rw [List.filterMap_filterMap]
  congr 1
  funext o
  rcases o with _ | _ | ⟨_ | _ | _⟩ | _ | _ | _ <;> rfl

section Events

variable {conv : FloatConv} {cfg : SensorNodeConfig} {dev : Device} {s sys : System}
  {obs : List SystemObs}

/-- A turn puts the ten bytes of its frame on the wire. -/
theorem turn_effect {ev : SystemEvent} (hev : ∃ n ultra adc bme, ev = .turn n ultra adc bme)
    (h : systemStep conv cfg dev s ev = some (sys, obs)) :
    sys.base = s.base ∧ sys.up.length = s.up.length + 10 ∧ driven obs = [] := by
  obtain ⟨n, ultra, adc, bme, rfl⟩ := hev
  simp only [systemStep, Option.bind_eq_bind, Option.bind_eq_some_iff] at h
  obtain ⟨⟨node, outs⟩, h1, e⟩ := h
  obtain rfl := (mainStep_cases h1).out
  cases e
  refine ⟨rfl, by simp, ?_⟩
  simp [driven, List.filterMap_map]

/-- The interrupt routine takes bytes off the wire and posts what it completes. -/
theorem isr_effect (hsem : SemOk s.base.data) {reads : List (Option UInt8)}
    (h : systemStep conv cfg dev s (.isr reads) = some (sys, obs)) :
    ∃ data out, Published s.base.data out data ∧ box data = (box s.base.data).posts out ∧
      sys = { s with base := { s.base with data := data }
                     up := s.up.drop (fifoBytes reads).length } ∧
      obs = (out.map FetchObs.completed).map .driver := by
  simp only [systemStep] at h
  split at h
  · simp only [preemptStep, Option.bind_eq_bind, Option.bind_eq_some_iff,
      Option.map_eq_some_iff] at h
    obtain ⟨-, ⟨⟨data, out⟩, h1, rfl⟩, e⟩ := h
    cases e
    have hpub := isr_published h1
    exact ⟨data, out, hpub, (box_published hsem hpub).2, rfl, rfl⟩
  · cases h

/-- A take finds a frame, or ends the fetch. -/
theorem take_effect (hsem : SemOk s.base.data)
    (h : systemStep conv cfg dev s .take = some (sys, obs)) :
    s.base.reading = none ∧
      (((box s.base.data).unread = false ∧ sys = s ∧ driven obs = [.timedOut]) ∨
        ((box s.base.data).unread = true ∧ driven obs = [] ∧ ∃ sem,
          sys = { s with
            base := { data := { s.base.data with frameSem := sem }, reading := some [] } } ∧
          (box { s.base.data with frameSem := sem }).unread = false)) := by
  simp only [systemStep, Option.bind_eq_bind, Option.bind_eq_some_iff] at h
  obtain ⟨⟨base, fobs⟩, h1, e⟩ := h
  cases e
  rcases hr : s.base.reading with _ | bs
  · refine ⟨rfl, ?_⟩
    rcases ht : s.base.data.frameSem.take with _ | sem
    · simp only [preemptStep, hr, ht] at h1
      cases h1
      refine Or.inl ⟨?_, rfl, rfl⟩
      unfold KSem.take at ht
      split at ht
      · cases ht
      · rename_i h0
        exact decide_eq_false h0
    · simp only [preemptStep, hr, ht] at h1
      cases h1
      obtain ⟨hun, -, hbox⟩ := box_take hsem ht
      refine Or.inr ⟨hun, rfl, sem, rfl, ?_⟩
      rw [hbox, Box.fetch, if_pos hun]
  · simp [preemptStep, hr] at h1

/-- A read leaves the mailbox; the last one ends the fetch with a report. -/
theorem system_read (h : systemStep conv cfg dev s .read = some (sys, obs)) :
    s.base.reading.isSome = true ∧ sys.up = s.up ∧ box sys.base.data = box s.base.data ∧
      ((sys.base.reading.isSome = true ∧ driven obs = []) ∨
        (sys.base.reading = none ∧ ∃ v, driven obs = [.reported v])) ∧
      ∀ bs, s.base.reading = some bs → Reading s.base.data bs →
        (∀ bs', sys.base.reading = some bs' → Reading sys.base.data bs') ∧
          (sys.base.reading = none → reported obs = [frameFields s.base.data.readyBuf]) := by
  simp only [systemStep, Option.bind_eq_bind, Option.bind_eq_some_iff] at h
  obtain ⟨⟨base, fobs⟩, h1, e⟩ := h
  have hwhole : ∀ bs, s.base.reading = some bs → Reading s.base.data bs →
      (∀ bs', base.reading = some bs' → Reading base.data bs') ∧
        (base.reading = none → fobs = [.reported (frameFields s.base.data.readyBuf)]) := by
    intro bs hbs hread
    have hbase : s.base = ⟨s.base.data, some bs⟩ := by rw [← hbs]
    rw [hbase] at h1
    rcases read_step hread with ⟨-, e8⟩ | ⟨v, b, -, hnext, e8⟩
    · rw [e8] at h1
      cases h1
      exact ⟨fun bs' hb => (by cases hb), fun _ => rfl⟩
    · rw [e8] at h1
      cases h1
      refine ⟨fun bs' hb => ?_, fun hn => (by cases hn)⟩
      cases hb
      exact hnext
  obtain ⟨hdata, hout⟩ := read_effect h1
  rcases hout with ⟨bs, b, hbs, -, hreading, rfl⟩ | ⟨bs, hbs, -, hreading, rfl, -⟩
  · have hreading' : base.reading = some (bs ++ [b]) := hreading
    rw [if_pos (by rw [hreading']; rfl)] at e
    cases e
    refine ⟨by rw [hbs]; rfl, rfl, ?_, Or.inl ⟨by rw [hreading']; rfl, rfl⟩, ?_⟩
    · show box base.data = _
      rw [show base.data = s.base.data.withFields base.data.fields from hdata]
      rfl
    · intro bs' hbs' hread
      obtain ⟨hw, -⟩ := hwhole bs' hbs' hread
      exact ⟨hw, fun hn => by rw [hreading'] at hn; cases hn⟩
  · have hreading' : base.reading = none := hreading
    rw [if_neg (by rw [hreading']; exact Bool.false_ne_true)] at e
    obtain ⟨r, -, e⟩ := Option.bind_eq_some_iff.mp e
    cases e
    refine ⟨by rw [hbs]; rfl, rfl, ?_, Or.inr ⟨hreading', _, rfl⟩, ?_⟩
    · show box base.data = _
      rw [show base.data = s.base.data.withFields base.data.fields from hdata]
      rfl
    · intro bs' hbs' hread
      obtain ⟨hw, hv⟩ := hwhole bs' hbs' hread
      refine ⟨hw, fun hn => ?_⟩
      have hfobs := hv hn
      rw [hfobs]
      rfl

/-- Registering the trigger touches neither wire nor mailbox nor fetch. -/
theorem trigger_effect {accepts : Bool} {trig : SensorTrigger} {handler : Option Handler}
    (h : systemStep conv cfg dev s (.triggerSet accepts trig handler) = some (sys, obs)) :
    sys.up = s.up ∧ box sys.base.data = box s.base.data ∧ sys.base.reading = s.base.reading ∧
      driven obs = [] := by
  cases h
  refine ⟨rfl, ?_, rfl, rfl⟩
  simp only [sensorNodeTriggerSet]
  split_ifs
  · rfl
  · rfl
  · rcases handler with _ | f
    · rfl
    · rfl

/-- Neither does a request. -/
theorem request_effect {chan : SensorChannel} {attr : SensorAttribute} {val : SensorValue}
    (h : systemStep conv cfg dev s (.attrSet chan attr val) = some (sys, obs)) :
    sys.up = s.up ∧ sys.base = s.base ∧ driven obs = [] := by
  cases h
  exact ⟨rfl, rfl, rfl⟩

end Events

/-- A state's invariant behind several events. -/
theorem SystemInv.steps {conv : FloatConv} {cal : BmeCalib} {cfg : SensorNodeConfig}
    {dev : Device} {log obs : List SystemObs} {s s' : System} {evs : List SystemEvent}
    (h : SystemInv conv cal log s) (hs : run (systemStep conv cfg dev) s evs = some (s', obs)) :
    SystemInv conv cal (log ++ obs) s' :=
  run_log (P := SystemInv conv cal) (fun _ _ _ _ _ hinv hs => hinv.step hs) h hs

/-- Stamped observations are the observations, once the stamps are gone. -/
theorem map_snd_stamped (t : Nat) (obs : List SystemObs) :
    (obs.map fun a => (t, a)).map Prod.snd = obs := by
  rw [List.map_map]
  exact List.map_id obs

theorem mem_stamped {c t : Nat} {o : SystemObs} {obs : List SystemObs} :
    (c, o) ∈ (obs.map fun a => (t, a)) ↔ c = t ∧ o ∈ obs := by
  rw [List.mem_map]
  constructor
  · intro h
    obtain ⟨a, ha, e⟩ := h
    cases e
    exact ⟨rfl, ha⟩
  · intro h
    obtain ⟨rfl, ho⟩ := h
    exact ⟨o, ho, rfl⟩

/-! ## 2. Warnings are true -/

/-- A frame and a warning behind it are two seconds apart. -/
def Apart (a b : Nat × SystemObs) : Prop :=
  ∀ f, a.2 = .driver (.completed f) → b.2 = .driver .timedOut → a.1 + fetchTimeout ≤ b.1

/-- **The invariant of the warnings**: no frame was completed behind the moment `frame_sem` was last
    given, and a fetch that still waits was called behind that. -/
structure Warned (log : List (Nat × SystemObs)) (s : Shipped) (now : Nat) : Prop where
  given_le : s.given ≤ now
  completed : ∀ c f, (c, SystemObs.driver (.completed f)) ∈ log → c ≤ s.given
  waiting : ∀ since, s.phase = .fetching since → (box s.sys.base.data).unread = false →
    s.given ≤ since
  apart : log.Pairwise Apart

/-- What a step adds to a log keeps it, where a frame is stamped with the moment of the give and a
    warning comes two seconds behind the last. -/
theorem Warned.extend {log : List (Nat × SystemObs)} {s s' : Shipped} {now t : Nat}
    {obs : List SystemObs} (h : Warned log s now) (hle : s.given ≤ s'.given) (ht : s'.given ≤ t)
    (hc : ∀ f, .completed f ∈ driven obs → t ≤ s'.given)
    (hwait : ∀ since, s'.phase = .fetching since → (box s'.sys.base.data).unread = false →
      s'.given ≤ since)
    (hout : .timedOut ∈ driven obs →
      s.given + fetchTimeout ≤ t ∧ ∀ f, .completed f ∉ driven obs) :
    Warned (log ++ obs.map fun a => (t, a)) s' t where
  given_le := ht
  completed := by
    intro c f hcf
    rcases List.mem_append.mp hcf with hcf | hcf
    · exact (h.completed c f hcf).trans hle
    · obtain ⟨rfl, ho⟩ := mem_stamped.mp hcf
      exact hc f (mem_driven.mpr ho)
  waiting := hwait
  apart := by
    refine List.pairwise_append.mpr ⟨h.apart, ?_, ?_⟩
    · refine List.pairwise_of_forall_mem_list ?_
      intro a ha b hb f hf hw
      obtain ⟨ta, oa⟩ := a
      obtain ⟨tb, ob⟩ := b
      obtain rfl : oa = _ := hf
      obtain rfl : ob = _ := hw
      obtain ⟨-, hnone⟩ := hout (mem_driven.mpr (mem_stamped.mp hb).2)
      exact absurd (mem_driven.mpr (mem_stamped.mp ha).2) (hnone f)
    · intro a ha b hb f hf hw
      obtain ⟨ta, oa⟩ := a
      obtain ⟨tb, ob⟩ := b
      obtain rfl : oa = _ := hf
      obtain rfl : ob = _ := hw
      obtain ⟨rfl, ho⟩ := mem_stamped.mp hb
      obtain ⟨hgiven, -⟩ := hout (mem_driven.mpr ho)
      have hca := h.completed ta f ha
      show ta + fetchTimeout ≤ tb
      omega

section Runs

variable {pace : Pace} {conv : FloatConv} {cal : BmeCalib} {cfg : SensorNodeConfig}
  {dev uart : Device}

/-- **A step** keeps it. -/
theorem Warned.step {log : List (Nat × SystemObs)} {s s' : Shipped} {now t : Nat}
    {obs : List SystemObs} (h : Warned log s now) (hsem : SemOk s.sys.base.data) (hle : now ≤ t)
    (hs : s.Effect conv cfg dev t s' obs) : Warned (log ++ obs.map fun a => (t, a)) s' t := by
  have hnow := h.given_le.trans hle
  cases hs with
  | turn i sys obs hi hpause hs =>
    obtain ⟨hbase, -, hd⟩ := turn_effect hi hs
    refine h.extend (Nat.le_refl _) hnow ?_ ?_ ?_
    · simp [hd]
    · intro since hp hun
      exact h.waiting since hp (by rw [← hun, hbase])
    · simp [hd]
  | isr reads sys obs hs =>
    obtain ⟨data, out, -, hbox, rfl, rfl⟩ := isr_effect hsem hs
    rw [List.isEmpty_map, List.isEmpty_map]
    cases out with
    | nil =>
      refine h.extend (Nat.le_refl _) hnow (fun f hf => (by cases hf)) ?_ (fun hf => (by cases hf))
      intro since hp hun
      exact h.waiting since hp (by rw [← hun, hbox, posts_nil])
    | cons blk out =>
      refine h.extend hnow (Nat.le_refl t) (fun _ _ => Nat.le_refl t) ?_ ?_
      · intro since hp hun
        have hun' : (box data).unread = false := hun
        rw [hbox, posts_eq, Bool.or_eq_false_iff] at hun'
        cases hun'.2
      · intro hout
        rw [driven_completed] at hout
        obtain ⟨_, _, e⟩ := List.mem_map.mp hout
        cases e
  | boot phase hphase hnext =>
    refine h.extend (Nat.le_refl _) hnow (fun f hf => (by cases hf)) ?_ (fun hf => (by cases hf))
    intro since hp
    obtain rfl : phase = _ := hp
    rcases hnext with e | e | e
    · cases e
    · cases e
    · cases e
  | arm answer sys obs hphase hs =>
    obtain ⟨-, -, -, hd⟩ := trigger_effect hs
    refine h.extend (Nat.le_refl _) hnow ?_ (fun since hp => (by cases hp)) ?_
    · simp [hd]
    · simp [hd]
  | configure sys obs hphase hs =>
    obtain ⟨-, -, hd⟩ := request_effect hs
    refine h.extend (Nat.le_refl _) hnow ?_ ?_ ?_
    · simp [hd]
    · intro since hp _
      cases hp
      exact hnow
    · simp [hd]
  | take since sys obs hphase hwait hs =>
    obtain ⟨-, hcase⟩ := take_effect hsem hs
    have hnone : ∀ f, .completed f ∉ driven obs := by
      rcases hcase with ⟨-, -, hd⟩ | ⟨-, hd, -⟩
      · simp [hd]
      · simp [hd]
    refine h.extend (Nat.le_refl _) hnow (fun f hf => absurd hf (hnone f)) ?_ ?_
    · intro since' hp
      change (ite _ _ _ : Phase) = _ at hp
      split at hp
      · cases hp
      · cases hp
    · intro hout
      rcases hcase with ⟨hun, -, -⟩ | ⟨-, hd, -⟩
      · have hgiven := h.waiting since hphase hun
        have htime := hwait hun
        exact ⟨by omega, hnone⟩
      · rw [hd] at hout
        cases hout
  | read since sys obs hphase hs =>
    obtain ⟨-, -, -, hout, -⟩ := system_read hs
    have hnone : ∀ o ∈ driven obs, ∃ v, o = .reported v := by
      intro o ho
      rcases hout with ⟨-, hd⟩ | ⟨-, v, hd⟩
      · rw [hd] at ho
        cases ho
      · rw [hd] at ho
        exact ⟨v, List.mem_singleton.mp ho⟩
    refine h.extend (Nat.le_refl _) hnow (fun f hf => ?_) ?_ (fun hf => ?_)
    · obtain ⟨v, e⟩ := hnone _ hf
      cases e
    · intro since' hp
      change (ite _ _ _ : Phase) = _ at hp
      split at hp
      · cases hp
      · cases hp
    · obtain ⟨v, e⟩ := hnone _ hf
      cases e
  | wake since hphase hpause =>
    refine h.extend (Nat.le_refl _) hnow (fun f hf => (by cases hf)) ?_ (fun hf => (by cases hf))
    intro since' hp _
    cases hp
    exact hnow

/-- The invariant of the two nodes, over a stamped log. -/
theorem shipped_inv {s : Shipped × Nat} {evs : List (Nat × ShippedEvent)}
    {log : List (Nat × SystemObs)}
    (h : run (timed (shipped pace conv cfg dev)) (.initial cal uart, 0) evs = some (s, log)) :
    SystemInv conv cal (log.map Prod.snd) s.1.sys := by
  obtain ⟨evs', hsys⟩ := shipped_system h
  exact system_run hsys

theorem warned_initial (cal : BmeCalib) (uart : Device) :
    Warned [] (.initial cal uart) 0 where
  given_le := Nat.le_refl 0
  completed _ _ h := by cases h
  waiting _ h := by cases h
  apart := List.Pairwise.nil

/-- **Any run** keeps it. -/
theorem warned_run {s : Shipped × Nat} {evs : List (Nat × ShippedEvent)}
    {log : List (Nat × SystemObs)}
    (h : run (timed (shipped pace conv cfg dev)) (.initial cal uart, 0) evs = some (s, log)) :
    Warned log s.1 s.2 := by
  refine (timed_log (P := fun log s now =>
    SystemInv conv cal (log.map Prod.snd) s.sys ∧ Warned log s now) [] ?_ ?_ h).2
  · intro log s now t i s' out hP hle _ hs
    obtain ⟨hsys, hw⟩ := hP
    have heff := shippedStep_cases hs
    obtain ⟨evs', hevs⟩ := heff.system
    refine ⟨?_, hw.step hsys.sem hle heff⟩
    rw [List.map_append, map_snd_stamped]
    exact hsys.steps hevs
  · exact ⟨systemInv_initial conv cal uart, warned_initial cal uart⟩

end Runs

/-- **A warning is true.** In every run, whatever the interleaving and the pace: when a fetch times
    out, no frame has been completed for two seconds. -/
theorem shipped_timeouts (pace : Pace) (conv : FloatConv) (cal : BmeCalib)
    (cfg : SensorNodeConfig) (dev uart : Device) (evs : List (Nat × ShippedEvent))
    (s : Shipped × Nat) (log : List (Nat × SystemObs))
    (hrun : run (timed (shipped pace conv cfg dev)) (.initial cal uart, 0) evs = some (s, log)) :
    log.Pairwise fun a b => ∀ f, a.2 = .driver (.completed f) → b.2 = .driver .timedOut →
      a.1 + fetchTimeout ≤ b.1 :=
  (warned_run hrun).apart

/-- Behind the first report the next fetch waits in vain. -/
theorem shipped_timeouts_demo :
    ∃ s log, run (timed (shipped quickPace .wrapping wired ⟨1⟩)) (.initial someCalib ⟨0⟩, 0)
        (startEvents ++ [(3301200, .main true), (5301200, .main true)]) = some (s, log) ∧
      log.Pairwise fun a b => ∀ f, a.2 = .driver (.completed f) → b.2 = .driver .timedOut →
        a.1 + fetchTimeout ≤ b.1 := by
  have h : (run (timed (shipped quickPace .wrapping wired ⟨1⟩)) (.initial someCalib ⟨0⟩, 0)
      (startEvents ++ [(3301200, .main true), (5301200, .main true)])).isSome = true := by
    decide +kernel
  obtain ⟨⟨s, log⟩, hrun⟩ := Option.isSome_iff_exists.mp h
  exact ⟨s, log, hrun, shipped_timeouts quickPace .wrapping someCalib wired ⟨1⟩ ⟨0⟩ _ s log hrun⟩

end HomeAlert.Link
