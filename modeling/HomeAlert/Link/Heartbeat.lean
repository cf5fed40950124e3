/-
  File:      HomeAlert/Link/Heartbeat.lean
  Subject:   THE BASE NODE IS NEVER SILENT: a report or a warning at least every 2.3 seconds.

  Warnings.lean shows that a warning is true; here it comes. `sample_fetch` returns within two
  seconds, with a frame or without one, and `main` is back after the pause of a round, so a sensor
  node that has stopped is noticed, and the warnings go on.

  * `Beat`, `Beat.step` -- how long ago the last fetch ended, by where `main` stands;
  * `shipped_heartbeat` -- and so at every moment of every run on hardware that is quick enough.
-/
import HomeAlert.Link.Cadence

namespace HomeAlert.Link

open Machine Mailbox Urgent Base Node

/-! ## 1. The invariant -/

/-- A fetch has ended, with a report or with a warning. -/
def Ended (o : SystemObs) : Prop := (∃ v, o = .driver (.reported v)) ∨ o = .driver .timedOut

/-- **The longest round**: the pause, the wait of `k_sem_take`, and `main` late four times. -/
def Pace.round (pace : Pace) : Nat := reportPause + fetchTimeout + 4 * pace.slack

/-- The moment by which a turn at `last` has been reported. -/
def Pace.reported (pace : Pace) (last : Nat) : Nat :=
  last + pace.travel + reportPause + 4 * pace.slack

/-- Since when `main` stands where it does, if the last fetch ended at `b`. -/
def Phase.Behind (pace : Pace) (s : Shipped) (b : Nat) : Phase → Prop
  | .sleeping since => since ≤ b
  | .fetching since => since ≤ b + reportPause + pace.slack ∧
      (s.unread = true → s.given ≤ since + fetchTimeout + pace.slack)
  | .reading since => since ≤ b + reportPause + fetchTimeout + 3 * pace.slack
  | _ => False

/-- **The invariant**, `c` being a moment at which a fetch had returned: where the last fetch ended
    with a report behind it, it was that of a turn. -/
def Beat (pace : Pace) (c : Nat) (log : List (Nat × SystemObs)) (s : Shipped) : Prop :=
  ∃ b o, (b, o) ∈ log ∧ Ended o ∧ (o = .driver .timedOut ∨ b ≤ max c (pace.reported s.last)) ∧
    s.phase.Behind pace s b

section Steps

variable {pace : Pace} {conv : FloatConv} {cal : BmeCalib} {cfg : SensorNodeConfig}
  {dev uart : Device} {s s' : Shipped} {now t c : Nat} {obs : List SystemObs}

/-- Where nothing of the base node moves on, the last fetch is the same. -/
theorem Beat.still {log : List (Nat × SystemObs)} (h : Beat pace c log s)
    (obs : List (Nat × SystemObs)) (hlast : s.last ≤ s'.last)
    (hphase : ∀ b, s.phase.Behind pace s b → s'.phase.Behind pace s' b) :
    Beat pace c (log ++ obs) s' := by
  obtain ⟨b, o, hmem, hend, hturn, hbehind⟩ := h
  refine ⟨b, o, List.mem_append_left obs hmem, hend, hturn.imp_right fun hb => ?_,
    hphase b hbehind⟩
  unfold Pace.reported at hb ⊢
  omega

/-- A fetch ends now. -/
theorem beat_now {log : List (Nat × SystemObs)} {o : SystemObs} (ho : o ∈ obs) (hend : Ended o)
    (hturn : o = .driver .timedOut ∨ t ≤ max c (pace.reported s'.last))
    (hp : s'.phase = .sleeping t) : Beat pace c (log ++ obs.map fun a => (t, a)) s' := by
  refine ⟨t, o, List.mem_append_right log (mem_stamped.mpr ⟨rfl, ho⟩), hend, hturn, ?_⟩
  rw [hp]
  exact Nat.le_refl t

/-- **One step** keeps it. -/
theorem Beat.step {log : List (Nat × SystemObs)} {past : List SystemObs}
    (h : Beat pace c log s) (hpaced : Paced pace True s now) (hinv : SystemInv conv cal past s.sys)
    (hle : now ≤ t) (hdue : overdue pace s t = false) (hs : s.Effect conv cfg dev t s' obs) :
    Beat pace c (log ++ obs.map fun a => (t, a)) s' := by
  have hphase := hpaced.phase
  have hlate := (not_overdue hdue).2
  cases hs with
  | turn i sys obs hi hpause hs =>
    obtain ⟨hbase, -, -⟩ := turn_effect hi hs
    have hun : Shipped.unread { s with sys := sys, turned := some t } = s.unread := by
      show (box sys.base.data).unread = _
      rw [hbase]
      rfl
    refine h.still _ (hpaced.last_le.trans hle) fun b hb => ?_
    rcases hp : s.phase with _ | since | _ | _ | since | since | since | _ <;> rw [hp] at hb
    · exact hb
    · exact hb
    · exact hb
    · exact hb
    · exact ⟨hb.1, fun hun' => hb.2 (hun.symm.trans hun')⟩
    · exact hb
    · exact hb
    · exact hb
  | isr reads sys obs hs =>
    have hnext := hinv.step hs
    obtain ⟨data, out, -, hbox, rfl, rfl⟩ := isr_effect hinv.sem hs
    have hdrop : (s.sys.up.drop (fifoBytes reads).length).length ≤ s.sys.up.length := by
      rw [List.length_drop]
      exact Nat.sub_le _ _
    refine h.still _ (Nat.le_refl s.last) fun b hb => ?_
    rcases hp : s.phase with _ | since | _ | _ | since | since | since | _ <;> rw [hp] at hb hlate
    · exact hb
    · exact hb
    · exact hb
    · exact hb
    · refine ⟨hb.1, fun hun => ?_⟩
      rcases hinv.completes hnext hpaced.wire hdrop with rfl | ⟨hne, -, f, rfl⟩
      · rw [posts_nil] at hbox
        exact hb.2 ((congrArg Box.unread hbox).symm.trans hun)
      · -- nothing was waiting, so `k_sem_take` has not given up
        rw [Phase.late, (hpaced.free hne).1, if_neg Bool.false_ne_true,
          decide_eq_false_iff_not] at hlate
        show t ≤ _
        omega
    · exact hb
    · exact hb
    · exact hb
  | boot phase hbooting hnext =>
    rcases hbooting with hp | ⟨since, hp⟩
    · rw [hp] at hphase
      exact absurd trivial hphase.2
    · rw [hp] at hphase
      exact absurd trivial hphase.2
  | arm answer sys obs hp hs =>
    rw [hp] at hphase
    exact absurd trivial hphase.2
  | configure sys obs hp hs =>
    rw [hp] at hphase
    exact absurd trivial hphase.2
  | take since sys obs hp hwait hs =>
    obtain ⟨hidle, hcase⟩ := take_effect hinv.sem hs
    rw [hp] at hlate
    rcases hcase with ⟨hun, rfl, hd⟩ | ⟨hun, -, sem, rfl, -⟩
    · have hmem : FetchObs.timedOut ∈ driven obs := by
        rw [hd]
        exact List.mem_singleton_self _
      refine beat_now (mem_driven.mp hmem) (Or.inr rfl) (Or.inl rfl) ?_
      rw [hidle]
      rfl
    · refine h.still _ (Nat.le_refl s.last) fun b hb => ?_
      rw [hp] at hb
      obtain ⟨hsince, hgiven⟩ := hb
      have hgiven' := hgiven hun
      rw [Phase.late, if_pos (show s.unread = true from hun), decide_eq_false_iff_not] at hlate
      show t ≤ b + reportPause + fetchTimeout + 3 * pace.slack
      omega
  | read since sys obs hp hs =>
    obtain ⟨hbusy, -, -, hcase, -⟩ := system_read hs
    rcases hcase with ⟨hsome, -⟩ | ⟨hnone, v, hd⟩
    · refine h.still _ (Nat.le_refl s.last) fun b hb => ?_
      rw [hp] at hb
      rw [if_pos hsome]
      exact hb
    · have hmem : FetchObs.reported v ∈ driven obs := by
        rw [hd]
        exact List.mem_singleton_self _
      refine beat_now (mem_driven.mp hmem) (Or.inl ⟨v, rfl⟩) (Or.inr ?_) ?_
      · exact le_max_of_le_right
          ((hpaced.due hdue).2.2 trivial (Option.isSome_iff_ne_none.mp hbusy))
      · rw [hnone]
        rfl
  | wake since hp hpause =>
    refine h.still _ (Nat.le_refl s.last) fun b hb => ?_
    rw [hp] at hb hlate
    rw [Phase.late, decide_eq_false_iff_not] at hlate
    have hgiven := hpaced.given_le
    have hb' : since ≤ b := hb
    refine ⟨?_, fun _ => ?_⟩
    · show t ≤ b + reportPause + pace.slack
      omega
    · show s.given ≤ t + fetchTimeout + pace.slack
      omega

/-- **A round is not longer.** -/
theorem Beat.recent {log : List (Nat × SystemObs)} (h : Beat pace c log s)
    (hdue : overdue pace s t = false) :
    ∃ b o, (b, o) ∈ log ∧ Ended o ∧ (o = .driver .timedOut ∨ b ≤ max c (pace.reported s.last)) ∧
      t ≤ b + pace.round := by
  obtain ⟨b, o, hmem, hend, hturn, hbehind⟩ := h
  have hlate := (not_overdue hdue).2
  refine ⟨b, o, hmem, hend, hturn, ?_⟩
  unfold Pace.round
  rcases hp : s.phase with _ | since | _ | _ | since | since | since | _ <;>
    rw [hp] at hbehind hlate
  · exact hbehind.elim
  · exact hbehind.elim
  · exact hbehind.elim
  · exact hbehind.elim
  · obtain ⟨hsince, hgiven⟩ := hbehind
    rw [Phase.late] at hlate
    split at hlate
    · rename_i hun
      have hgiven' := hgiven hun
      rw [decide_eq_false_iff_not] at hlate
      omega
    · rw [decide_eq_false_iff_not] at hlate
      omega
  · rw [Phase.late, decide_eq_false_iff_not] at hlate
    have hsince : since ≤ b + reportPause + fetchTimeout + 3 * pace.slack := hbehind
    omega
  · rw [Phase.late, decide_eq_false_iff_not] at hlate
    have hsince : since ≤ b := hbehind
    omega
  · exact hbehind.elim

/-! ## 2. Runs -/

/-- `main` falls asleep where a fetch ends. -/
theorem Shipped.Effect.sleeps (hsem : SemOk s.sys.base.data)
    (hs : s.Effect conv cfg dev t s' obs) {since : Nat} (hp' : s'.phase = .sleeping since) :
    s.phase = .sleeping since ∨ since = t ∧ ∃ o ∈ obs, Ended o := by
  cases hs with
  | turn i sys obs hi hpause hs => exact Or.inl hp'
  | isr reads sys obs hs => exact Or.inl hp'
  | boot phase hphase hnext =>
    rcases hnext with rfl | rfl | rfl
    · cases hp'
    · cases hp'
    · cases hp'
  | arm answer sys obs hp hs => cases hp'
  | configure sys obs hp hs => cases hp'
  | take since' sys obs hp hwait hs =>
    obtain ⟨-, hcase⟩ := take_effect hsem hs
    rcases hcase with ⟨-, rfl, hd⟩ | ⟨-, -, sem, rfl, -⟩
    · have hmem : FetchObs.timedOut ∈ driven obs := by
        rw [hd]
        exact List.mem_singleton_self _
      split at hp'
      · cases hp'
      · cases hp'
        exact Or.inr ⟨rfl, _, mem_driven.mp hmem, Or.inr rfl⟩
    · cases hp'
  | read since' sys obs hp hs =>
    obtain ⟨-, -, -, hcase, -⟩ := system_read hs
    rcases hcase with ⟨hsome, -⟩ | ⟨hnone, v, hd⟩
    · rw [if_pos hsome] at hp'
      cases hp'
    · have hmem : FetchObs.reported v ∈ driven obs := by
        rw [hd]
        exact List.mem_singleton_self _
      rw [hnone] at hp'
      cases hp'
      exact Or.inr ⟨rfl, _, mem_driven.mp hmem, Or.inl ⟨v, rfl⟩⟩
  | wake since' hp hpause => cases hp'

theorem sleeps_run {s : Shipped × Nat} {evs : List (Nat × ShippedEvent)}
    {log : List (Nat × SystemObs)}
    (h : run (timed (shipped pace conv cfg dev)) (.initial cal uart, 0) evs = some (s, log))
    {since : Nat} (hp : s.1.phase = .sleeping since) : ∃ o, (since, o) ∈ log ∧ Ended o := by
  refine (timed_log (P := fun log s _ => SystemInv conv cal (log.map Prod.snd) s.sys ∧
    ∀ since, s.phase = .sleeping since → ∃ o, (since, o) ∈ log ∧ Ended o) [] ?_ ?_ h).2 since hp
  · intro log s now t i s' out hP _ _ hs
    obtain ⟨hinv, hsleeps⟩ := hP
    have heff := shippedStep_cases hs
    obtain ⟨evs', hevs⟩ := heff.system
    refine ⟨?_, fun since hp' => ?_⟩
    · rw [List.map_append, map_snd_stamped]
      exact hinv.steps hevs
    · rcases heff.sleeps hinv.sem hp' with hp | ⟨rfl, o, ho, hend⟩
      · obtain ⟨o, ho, hend⟩ := hsleeps since hp
        exact ⟨o, List.mem_append_left _ ho, hend⟩
      · exact ⟨o, List.mem_append_right _ (mem_stamped.mpr ⟨rfl, ho⟩), hend⟩
  · exact ⟨systemInv_initial conv cal uart, fun since hp' => by cases hp'⟩

/-- **Any run behind the first fetch** keeps the beat. -/
theorem beat_run {s s' : Shipped × Nat} {evs more : List (Nat × ShippedEvent)}
    {log log' : List (Nat × SystemObs)} {since : Nat} (hquick : pace.Quick)
    (hrun : run (timed (shipped pace conv cfg dev)) (.initial cal uart, 0) evs = some (s, log))
    (hslept : s.1.phase = .sleeping since)
    (hmore : run (timed (shipped pace conv cfg dev)) s more = some (s', log')) :
    Beat pace s.2 (log ++ log') s'.1 := by
  have hpaced := paced_run hquick hrun
  have hasleep := hpaced.asleep hslept
  refine (timed_log (P := fun log t now => SystemInv conv cal (log.map Prod.snd) t.sys ∧
    Paced pace True t now ∧ Beat pace s.2 log t) log ?_ ?_ hmore).2.2
  · intro log t now u i t' out hP hle hdue hs
    obtain ⟨hinv, hp, hbeat⟩ := hP
    have heff := shippedStep_cases hs
    obtain ⟨evs', hevs⟩ := heff.system
    refine ⟨?_, hp.step hinv hquick hle hdue heff, hbeat.step hp hinv hle hdue heff⟩
    rw [List.map_append, map_snd_stamped]
    exact hinv.steps hevs
  · obtain ⟨o, ho, hend⟩ := sleeps_run hrun hslept
    have hphase := hasleep.phase
    rw [hslept] at hphase
    refine ⟨shipped_inv hrun, hasleep, since, o, ho, hend, Or.inr ?_, ?_⟩
    · exact le_max_of_le_left hphase.2.1
    · rw [hslept]
      exact Nat.le_refl since

end Steps

/-- **The base node is never silent**, on hardware that is quick enough. In every run, from the
    moment its first fetch has returned, and at every moment that time gets to: a report or a
    warning came within the last round. And where all turns have long been reported, because the
    sensor node has stopped or its bytes do not arrive, it was a warning. -/
theorem shipped_heartbeat (pace : Pace) (conv : FloatConv) (cal : BmeCalib)
    (cfg : SensorNodeConfig) (dev uart : Device) (evs more : List (Nat × ShippedEvent))
    (s s' : Shipped × Nat) (log log' : List (Nat × SystemObs)) (since t : Nat)
    (hquick : pace.Quick)
    (hrun : run (timed (shipped pace conv cfg dev)) (.initial cal uart, 0) evs = some (s, log))
    (hslept : s.1.phase = .sleeping since)
    (hmore : run (timed (shipped pace conv cfg dev)) s more = some (s', log'))
    (hdue : overdue pace s'.1 t = false) :
    (∃ b o, (b, o) ∈ log ++ log' ∧ Ended o ∧ t ≤ b + pace.round) ∧
      (max s.2 (pace.reported s'.1.last) + pace.round < t →
        ∃ b, (b, .driver .timedOut) ∈ log ++ log' ∧ t ≤ b + pace.round) := by
  obtain ⟨b, o, hmem, hend, hturn, hle⟩ := (beat_run hquick hrun hslept hmore).recent hdue
  refine ⟨⟨b, o, hmem, hend, hle⟩, fun hsilent => ?_⟩
  rcases hturn with rfl | hb
  · exact ⟨b, hmem, hle⟩
  · omega

/-- Behind `startEvents` the sensor node has stopped. -/
def silentEvents : List (Nat × ShippedEvent) :=
  [(3301200, .main true), (5301200, .main true), (5601300, .main true)]

theorem shipped_heartbeat_silent :
    ∃ s log s' log', run (timed (shipped quickPace .wrapping wired ⟨1⟩))
        (.initial someCalib ⟨0⟩, 0) startEvents = some (s, log) ∧
      run (timed (shipped quickPace .wrapping wired ⟨1⟩)) s silentEvents = some (s', log') ∧
      ∃ b, (b, .driver .timedOut) ∈ log ++ log' ∧ 5700000 ≤ b + quickPace.round := by
  have h : (run (timed (shipped quickPace .wrapping wired ⟨1⟩)) (.initial someCalib ⟨0⟩, 0)
      startEvents).map (fun r => (r.1.1.phase, r.1.2)) = some (.sleeping 3001200, 3001200) := by
    decide +kernel
  obtain ⟨⟨s, log⟩, hrun, hs⟩ := Option.map_eq_some_iff.mp h
  have h' : (run (timed (shipped quickPace .wrapping wired ⟨1⟩)) (.initial someCalib ⟨0⟩, 0)
      (startEvents ++ silentEvents)).map
        (fun r => (overdue quickPace r.1.1 5700000, r.1.1.last)) = some (false, 3000200) := by
    decide +kernel
  obtain ⟨⟨s', log''⟩, hall, hend⟩ := Option.map_eq_some_iff.mp h'
  obtain ⟨s₁, log₁, log', h1, hmore, rfl⟩ := run_split hall
  cases h1.symm.trans hrun
  obtain ⟨hphase, hnow⟩ := Prod.mk.inj hs
  obtain ⟨hdue, hlast⟩ := Prod.mk.inj hend
  refine ⟨s, log, s', log', hrun, hmore, ?_⟩
  exact (shipped_heartbeat quickPace .wrapping someCalib wired ⟨1⟩ ⟨0⟩ startEvents silentEvents s s'
    log log' 3001200 5700000 quickPace_quick hrun hphase hmore hdue).2 (by rw [hnow, hlast]; decide)

end HomeAlert.Link
