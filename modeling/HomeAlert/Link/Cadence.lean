/-
  File:      HomeAlert/Link/Cadence.lean
  Subject:   WHY THE SHIPPED SYSTEM KEEPS UP: frames come every half second and a round of `main`
             takes three tenths of one.

  `sample_fetch` parses `ready_buf` where the interrupt routine writes it, and one place is all the
  room there is for frames: nothing in the code keeps a frame from being overwritten or torn. The
  pauses do, if the hardware is quick enough (`Pace.Quick`).

  * `Paced`, `Paced.step` -- from power-on: bytes of one frame at most are on the wire, and what
    waits to be fetched has not waited long; once a fetch has returned, a frame is never completed
    while another waits or is being read;
  * `shipped_lossless` -- so each completed frame is reported, whole, once, in order;
  * `shipped_response` -- and behind a turn the LEDs show it within a bound.
-/
import HomeAlert.Link.Warnings

namespace HomeAlert.Link

open Framing Machine Mailbox Urgent Base Node

/-! ## 1. The invariant -/

/-- **The condition on the hardware**: what is left of half a second behind the pause of a round is
    enough for the bytes of a frame and for four late steps of `main`. -/
def Pace.Quick (pace : Pace) : Prop := pace.travel + 4 * pace.slack + reportPause < turnPause

/-- The moment of the last turn. -/
def Shipped.last (s : Shipped) : Nat := s.turned.getD 0

/-- `frame_sem` can be taken. -/
def Shipped.unread (s : Shipped) : Bool := (box s.sys.base.data).unread

/-- **How long `main` has been where it stands**, with what is on the wire, and whether a frame is
    waiting; `slept` says that a fetch has returned. -/
def Phase.Keeps (pace : Pace) (slept : Prop) (s : Shipped) (now : Nat) : Phase → Prop
  | .fetching since =>
      s.sys.base.reading = none ∧ since ≤ now ∧ (slept → s.unread = true →
        s.sys.up = [] ∧ since ≤ s.last + pace.travel + reportPause + 2 * pace.slack)
  | .reading since =>
      s.sys.base.reading ≠ none ∧ since ≤ now ∧
        (s.unread = true → s.sys.up = [] ∧ since ≤ s.given) ∧
        (slept → s.unread = false ∧ s.sys.up = [] ∧
          since ≤ s.last + pace.travel + reportPause + 3 * pace.slack)
  | .sleeping since =>
      s.sys.base.reading = none ∧ since ≤ now ∧ (s.unread = true →
        s.sys.up = [] ∧ since ≤ s.last + pace.travel + pace.slack)
  | _ => s.sys.base.reading = none ∧ ¬ slept

/-- **The invariant.** -/
structure Paced (pace : Pace) (slept : Prop) (s : Shipped) (now : Nat) : Prop where
  wire : s.sys.up.length ≤ 10
  first : s.turned = none → Settled s.sys
  last_le : s.last ≤ now
  given_le : s.given ≤ now
  prompt : s.unread = true → s.given ≤ s.last + pace.travel
  phase : s.phase.Keeps pace slept s now

theorem paced_initial (pace : Pace) (cal : BmeCalib) (uart : Device) :
    Paced pace False (.initial cal uart) 0 where
  wire := Nat.zero_le 10
  first _ := ⟨rfl, rfl, rfl⟩
  last_le := Nat.le_refl 0
  given_le := Nat.le_refl 0
  prompt h := by cases h
  phase := ⟨rfl, not_false⟩

theorem sentBytes_length (outs : List LoopOutput) : (sentBytes outs).length = 10 * outs.length := by
  rw [sentBytes, List.length_flatMap]
  simp [Nat.mul_comm]

section Steps

variable {pace : Pace} {slept : Prop} {s s' : Shipped} {now t : Nat} {conv : FloatConv}
  {cal : BmeCalib} {cfg : SensorNodeConfig} {dev : Device} {obs : List SystemObs}

/-- Where `main` sleeps for the first time the strong form holds. -/
theorem Paced.asleep (h : Paced pace False s now) {since : Nat} (hp : s.phase = .sleeping since) :
    Paced pace True s now where
  wire := h.wire
  first := h.first
  last_le := h.last_le
  given_le := h.given_le
  prompt := h.prompt
  phase := by
    have hphase := h.phase
    rw [hp] at hphase ⊢
    exact hphase

/-- Neither bytes nor a step of `main` are overdue. -/
theorem not_overdue (h : overdue pace s t = false) :
    (s.turned.isSome = true → s.sys.up ≠ [] → t ≤ s.last + pace.travel) ∧
      s.phase.late pace.slack s.unread s.given t = false := by
  unfold overdue at h
  rw [Bool.or_eq_false_iff] at h
  obtain ⟨hwire, hlate⟩ := h
  refine ⟨fun hturned hup => ?_, hlate⟩
  obtain ⟨u, hu⟩ := Option.isSome_iff_exists.mp hturned
  rw [hu, Option.any_some] at hwire
  have hne : s.sys.up.isEmpty = false := List.isEmpty_eq_false_iff.mpr hup
  rw [hne, Bool.not_false, Bool.true_and, decide_eq_false_iff_not] at hwire
  unfold Shipped.last
  rw [hu, Option.getD_some]
  omega

/-- **What is left to do has a bound**: bytes on the wire, a frame that waits, and a fetch in
    progress. -/
theorem Paced.due (h : Paced pace slept s now) (hdue : overdue pace s t = false) :
    (s.sys.up ≠ [] → t ≤ s.last + pace.travel) ∧
      (slept ∨ (∃ since, s.phase = .reading since) ∨ (∃ since, s.phase = .sleeping since) →
        s.unread = true → t ≤ s.last + pace.travel + reportPause + 4 * pace.slack) ∧
      (slept → s.sys.base.reading ≠ none →
        t ≤ s.last + pace.travel + reportPause + 4 * pace.slack) := by
  obtain ⟨hwire, hlate⟩ := not_overdue hdue
  have hphase := h.phase
  refine ⟨fun hup => ?_, fun hslept hun => ?_, fun hslept hread => ?_⟩
  · refine hwire ?_ hup
    rw [Option.isSome_iff_ne_none]
    intro hnone
    exact hup (h.first hnone).up
  · have hgiven := h.prompt hun
    rw [hun] at hlate
    rcases hp : s.phase with _ | since | _ | _ | since | since | since | _ <;>
      rw [hp] at hphase hlate hslept
    · simp [hphase.2] at hslept
    · simp [hphase.2] at hslept
    · simp [hphase.2] at hslept
    · simp [hphase.2] at hslept
    · obtain ⟨-, -, hkeeps⟩ := hphase
      obtain ⟨-, hsince⟩ := hkeeps (by simpa using hslept) hun
      rw [Phase.late, if_pos rfl, decide_eq_false_iff_not] at hlate
      omega
    · obtain ⟨-, -, hkeeps, -⟩ := hphase
      obtain ⟨-, hsince⟩ := hkeeps hun
      rw [Phase.late, decide_eq_false_iff_not] at hlate
      omega
    · obtain ⟨-, -, hkeeps⟩ := hphase
      obtain ⟨-, hsince⟩ := hkeeps hun
      rw [Phase.late, decide_eq_false_iff_not] at hlate
      omega
    · simp [hphase.2] at hslept
  · rcases hp : s.phase with _ | since | _ | _ | since | since | since | _ <;>
      rw [hp] at hphase hlate
    · exact absurd hphase.1 hread
    · exact absurd hphase.1 hread
    · exact absurd hphase.1 hread
    · exact absurd hphase.1 hread
    · exact absurd hphase.1 hread
    · obtain ⟨-, -, -, hkeeps⟩ := hphase
      obtain ⟨-, -, hsince⟩ := hkeeps hslept
      rw [Phase.late, decide_eq_false_iff_not] at hlate
      omega
    · exact absurd hphase.1 hread
    · exact absurd hphase.1 hread

/-- **The interrupt routine completes at most one frame**, with the last byte on the wire. -/
theorem SystemInv.completes {log : List SystemObs} {s s' : System} {out : List DataFrame}
    (h : SystemInv conv cal log s)
    (h' : SystemInv conv cal (log ++ (out.map FetchObs.completed).map .driver) s')
    (hwire : s.up.length ≤ 10) (hle : s'.up.length ≤ s.up.length) :
    out = [] ∨ s.up ≠ [] ∧ s'.up = [] ∧ ∃ f, out = [f] := by
  obtain ⟨-, hO, hF, -, -⟩ := completed_append log out
  obtain ⟨got, hgot, hframes⟩ := h.frames_eq
  obtain ⟨got', hgot', hframes'⟩ := h'.frames_eq
  rw [hO] at hgot' hframes'
  rw [hF] at hframes'
  have hlen := congrArg List.length hgot
  have hlen' := congrArg List.length hgot'
  have hcount := congrArg List.length hframes
  have hcount' := congrArg List.length hframes'
  rw [List.length_append, sentBytes_length] at hlen hlen'
  rw [List.length_take, List.length_map] at hcount
  rw [List.length_append, List.length_take, List.length_map] at hcount'
  rcases Nat.eq_zero_or_pos out.length with h0 | hpos
  · exact Or.inl (List.length_eq_zero_iff.mp h0)
  · have hup : s'.up.length = 0 := by omega
    have hne : s.up.length ≠ 0 := by omega
    have hone : out.length = 1 := by omega
    exact Or.inr ⟨fun e => hne (by rw [e]; rfl), List.length_eq_zero_iff.mp hup,
      List.length_eq_one_iff.mp hone⟩

/-- **A turn** finds the wire empty, and what `main` had to do done. -/
theorem Paced.turn (h : Paced pace slept s now) (hquick : pace.Quick) (hle : now ≤ t)
    (hdue : overdue pace s t = false) (hpause : ∀ u, s.turned = some u → u + turnPause ≤ t)
    (hbase : s'.sys.base = s.sys.base) (hlen : s'.sys.up.length = s.sys.up.length + 10)
    (hturned : s'.turned = some t) (hgiven : s'.given = s.given) (hphase' : s'.phase = s.phase) :
    Paced pace slept s' t := by
  obtain ⟨hwire, hmail, hfetch⟩ := h.due hdue
  unfold Pace.Quick at hquick
  have hlast : s.turned ≠ none → s.last + turnPause ≤ t := by
    intro hsome
    obtain ⟨u, hu⟩ := Option.ne_none_iff_exists'.mp hsome
    unfold Shipped.last
    rw [hu, Option.getD_some]
    exact hpause u hu
  have hup : s.sys.up = [] := by
    by_contra hup
    have h1 := hlast fun hnone => hup (h.first hnone).up
    have h2 := hwire hup
    omega
  have hread : slept ∨ (∃ since, s.phase = .reading since) ∨ (∃ since, s.phase = .sleeping since) →
      s.unread = false := by
    intro hwhen
    by_contra hun
    rw [Bool.not_eq_false] at hun
    have h1 := hlast fun hnone => Bool.false_ne_true ((h.first hnone).read.symm.trans hun)
    have h2 := hmail hwhen hun
    omega
  have hunread : s'.unread = s.unread := by
    unfold Shipped.unread
    rw [hbase]
  have hlast' : s'.last = t := by
    unfold Shipped.last
    rw [hturned, Option.getD_some]
  have hphase := h.phase
  refine ⟨?_, ?_, hlast'.le, ?_, ?_, ?_⟩
  · rw [hlen, hup]
    exact Nat.le_refl 10
  · intro hnone
    rw [hturned] at hnone
    cases hnone
  · rw [hgiven]
    exact h.given_le.trans hle
  · intro _
    have hle' := h.given_le
    rw [hgiven, hlast']
    omega
  · rw [hphase']
    rcases hp : s.phase with _ | since | _ | _ | since | since | since | _ <;> rw [hp] at hphase
    · exact ⟨by rw [hbase, hphase.1], hphase.2⟩
    · exact ⟨by rw [hbase, hphase.1], hphase.2⟩
    · exact ⟨by rw [hbase, hphase.1], hphase.2⟩
    · exact ⟨by rw [hbase, hphase.1], hphase.2⟩
    · obtain ⟨hreading, hsince, -⟩ := hphase
      refine ⟨by rw [hbase, hreading], hsince.trans hle, fun hslept hun => ?_⟩
      rw [hunread, hread (Or.inl hslept)] at hun
      cases hun
    · obtain ⟨hreading, hsince, -, hkeeps⟩ := hphase
      refine ⟨by rwa [hbase], hsince.trans hle, fun hun => ?_, fun hslept => ?_⟩
      · rw [hunread, hread (Or.inr (Or.inl ⟨since, hp⟩))] at hun
        cases hun
      · -- the fetch would have ended
        have h2 := hfetch hslept hreading
        have h1 := hlast fun hnone => hreading (h.first hnone).idle
        omega
    · obtain ⟨hreading, hsince, -⟩ := hphase
      refine ⟨by rw [hbase, hreading], hsince.trans hle, fun hun => ?_⟩
      rw [hunread, hread (Or.inr (Or.inr ⟨since, hp⟩))] at hun
      cases hun
    · exact ⟨by rw [hbase, hphase.1], hphase.2⟩

/-- A step that gives no `frame_sem` and puts nothing on the wire keeps the invariant if it keeps
    what it says of the phase. -/
theorem Paced.move (h : Paced pace slept s now) (hle : now ≤ t)
    (hup : s'.sys.up.length ≤ s.sys.up.length) (hunread : s'.unread = true → s.unread = true)
    (hidle : s.turned = none → s'.sys.base.reading = none) (hturned : s'.turned = s.turned)
    (hgiven : s'.given = s.given) (hphase : s'.phase.Keeps pace slept s' t) :
    Paced pace slept s' t where
  wire := hup.trans h.wire
  first hnone := by
    rw [hturned] at hnone
    obtain ⟨h1, h2, -⟩ := h.first hnone
    refine ⟨?_, ?_, hidle hnone⟩
    · rw [h1] at hup
      exact List.length_eq_zero_iff.mp (Nat.le_zero.mp hup)
    · rw [Bool.eq_false_iff]
      intro hun
      exact Bool.false_ne_true (h2.symm.trans (hunread hun))
  last_le := by
    unfold Shipped.last
    rw [hturned]
    exact h.last_le.trans hle
  given_le := by
    rw [hgiven]
    exact h.given_le.trans hle
  prompt hun := by
    unfold Shipped.last
    rw [hgiven, hturned]
    exact h.prompt (hunread hun)
  phase := hphase

/-- So does one that leaves the phase. -/
theorem Paced.still (h : Paced pace slept s now) (hle : now ≤ t)
    (hup : s'.sys.up.length ≤ s.sys.up.length) (hunread : s'.unread = s.unread)
    (hreading : s'.sys.base.reading = s.sys.base.reading) (hturned : s'.turned = s.turned)
    (hgiven : s'.given = s.given) (hphase' : s'.phase = s.phase) : Paced pace slept s' t := by
  have hlast : s'.last = s.last := by
    unfold Shipped.last
    rw [hturned]
  have hnil : s.sys.up = [] → s'.sys.up = [] := by
    intro e
    rw [e] at hup
    exact List.length_eq_zero_iff.mp (Nat.le_zero.mp hup)
  refine h.move hle hup (fun hun => hunread.symm.trans hun)
    (fun hnone => hreading.trans (h.first hnone).idle) hturned hgiven ?_
  have hphase := h.phase
  rw [hphase']
  rcases hp : s.phase with _ | since | _ | _ | since | since | since | _ <;> rw [hp] at hphase
  · exact ⟨hreading.trans hphase.1, hphase.2⟩
  · exact ⟨hreading.trans hphase.1, hphase.2⟩
  · exact ⟨hreading.trans hphase.1, hphase.2⟩
  · exact ⟨hreading.trans hphase.1, hphase.2⟩
  · obtain ⟨hidle, hsince, hkeeps⟩ := hphase
    refine ⟨hreading.trans hidle, hsince.trans hle, fun hslept hun => ?_⟩
    rw [hunread] at hun
    rw [hlast]
    exact ⟨hnil (hkeeps hslept hun).1, (hkeeps hslept hun).2⟩
  · obtain ⟨hbusy, hsince, hkeeps, hstrong⟩ := hphase
    refine ⟨by rwa [hreading], hsince.trans hle, fun hun => ?_, fun hslept => ?_⟩
    · rw [hunread] at hun
      rw [hgiven]
      exact ⟨hnil (hkeeps hun).1, (hkeeps hun).2⟩
    · obtain ⟨h1, h2, h3⟩ := hstrong hslept
      rw [hlast]
      exact ⟨hunread.trans h1, hnil h2, h3⟩
  · obtain ⟨hidle, hsince, hkeeps⟩ := hphase
    refine ⟨hreading.trans hidle, hsince.trans hle, fun hun => ?_⟩
    rw [hunread] at hun
    rw [hlast]
    exact ⟨hnil (hkeeps hun).1, (hkeeps hun).2⟩
  · exact ⟨hreading.trans hphase.1, hphase.2⟩

/-- **A frame is completed** while its turn is recent. -/
theorem Paced.complete (h : Paced pace slept s now) (hle : now ≤ t)
    (hdue : overdue pace s t = false) (hne : s.sys.up ≠ []) (hempty : s'.sys.up = [])
    (hreading : s'.sys.base.reading = s.sys.base.reading) (hturned : s'.turned = s.turned)
    (hgiven : s'.given = t) (hphase' : s'.phase = s.phase) : Paced pace slept s' t := by
  have hrecent := (h.due hdue).1 hne
  have hlast : s'.last = s.last := by
    unfold Shipped.last
    rw [hturned]
  have hphase := h.phase
  refine ⟨?_, fun hnone => ?_, ?_, hgiven.le, fun _ => ?_, ?_⟩
  · rw [hempty]
    exact Nat.zero_le 10
  · rw [hturned] at hnone
    exact absurd (h.first hnone).up hne
  · rw [hlast]
    exact h.last_le.trans hle
  · rw [hgiven, hlast]
    exact hrecent
  · rw [hphase']
    rcases hp : s.phase with _ | since | _ | _ | since | since | since | _ <;> rw [hp] at hphase
    · exact ⟨hreading.trans hphase.1, hphase.2⟩
    · exact ⟨hreading.trans hphase.1, hphase.2⟩
    · exact ⟨hreading.trans hphase.1, hphase.2⟩
    · exact ⟨hreading.trans hphase.1, hphase.2⟩
    · obtain ⟨hidle, hsince, -⟩ := hphase
      refine ⟨hreading.trans hidle, hsince.trans hle, fun _ _ => ⟨hempty, ?_⟩⟩
      rw [hlast]
      omega
    · obtain ⟨hbusy, hsince, -, hstrong⟩ := hphase
      refine ⟨by rwa [hreading], hsince.trans hle, fun _ => ⟨hempty, ?_⟩, fun hslept => ?_⟩
      · rw [hgiven]
        exact hsince.trans hle
      · exact absurd (hstrong hslept).2.1 hne
    · obtain ⟨hidle, hsince, -⟩ := hphase
      refine ⟨hreading.trans hidle, hsince.trans hle, fun _ => ⟨hempty, ?_⟩⟩
      rw [hlast]
      omega
    · exact ⟨hreading.trans hphase.1, hphase.2⟩

/-- **One step** keeps the invariant. -/
theorem Paced.step {log : List SystemObs} (h : Paced pace slept s now)
    (hinv : SystemInv conv cal log s.sys) (hquick : pace.Quick) (hle : now ≤ t)
    (hdue : overdue pace s t = false) (hs : s.Effect conv cfg dev t s' obs) :
    Paced pace slept s' t := by
  have hphase := h.phase
  have hlate := (not_overdue hdue).2
  cases hs with
  | turn i sys obs hi hpause hs =>
    obtain ⟨hbase, hlen, -⟩ := turn_effect hi hs
    exact h.turn hquick hle hdue hpause hbase hlen rfl rfl rfl
  | isr reads sys obs hs =>
    have hnext := hinv.step hs
    obtain ⟨data, out, -, hbox, rfl, rfl⟩ := isr_effect hinv.sem hs
    have hdrop : (s.sys.up.drop (fifoBytes reads).length).length ≤ s.sys.up.length := by
      rw [List.length_drop]
      exact Nat.sub_le _ _
    rcases hinv.completes hnext h.wire hdrop with rfl | ⟨hne, hempty, f, rfl⟩
    · refine h.still hle hdrop ?_ rfl rfl rfl rfl
      show (box data).unread = _
      rw [hbox, posts_nil]
      rfl
    · exact h.complete hle hdue hne hempty rfl rfl rfl rfl
  | boot phase hbooting hnext =>
    have hidle : s.sys.base.reading = none ∧ ¬ slept := by
      rcases hbooting with hp | ⟨since, hp⟩ <;> rw [hp] at hphase
      · exact hphase
      · exact hphase
    refine h.move hle (Nat.le_refl _) id (fun _ => hidle.1) rfl rfl ?_
    rcases hnext with rfl | rfl | rfl
    · exact hidle
    · exact hidle
    · exact hidle
  | arm answer sys obs hp hs =>
    obtain ⟨hup, hbox, hreading, -⟩ := trigger_effect hs
    rw [hp] at hphase
    refine h.move hle (by rw [hup]) (fun hun => ?_) (fun _ => hreading.trans hphase.1) rfl rfl
      ⟨hreading.trans hphase.1, hphase.2⟩
    rw [← hun]
    exact congrArg Box.unread hbox.symm
  | configure sys obs hp hs =>
    obtain ⟨hup, hbase, -⟩ := request_effect hs
    rw [hp] at hphase
    have hidle : sys.base.reading = none := by rw [hbase, hphase.1]
    refine h.move hle (by rw [hup]) (fun hun => ?_) (fun _ => hidle) rfl rfl
      ⟨hidle, Nat.le_refl t, fun hslept => absurd hslept hphase.2⟩
    rw [← hun]
    show _ = (box sys.base.data).unread
    rw [hbase]
    rfl
  | take since sys obs hp hwait hs =>
    obtain ⟨hidle, hcase⟩ := take_effect hinv.sem hs
    rw [hp] at hphase hlate
    rcases hcase with ⟨hun, rfl, -⟩ | ⟨hun, -, sem, rfl, hun'⟩
    · rw [hidle]
      refine h.move hle (Nat.le_refl _) id (fun _ => hidle) rfl rfl
        ⟨hidle, Nat.le_refl t, fun hun' => ?_⟩
      exact absurd (hun.symm.trans hun') Bool.false_ne_true
    · have hun₁ : s.unread = true := hun
      have hgiven := h.prompt hun
      rw [Phase.late, if_pos hun₁, decide_eq_false_iff_not] at hlate
      refine h.move hle (Nat.le_refl _) (fun _ => hun) (fun hnone => ?_) rfl rfl
        ⟨fun hn => (by cases hn), Nat.le_refl t, fun hun₂ => ?_, fun hslept => ?_⟩
      · exact absurd ((h.first hnone).read.symm.trans hun) Bool.false_ne_true
      · exact absurd (hun'.symm.trans hun₂) Bool.false_ne_true
      · obtain ⟨-, -, hkeeps⟩ := hphase
        obtain ⟨hup, hsince⟩ := hkeeps hslept hun
        refine ⟨hun', hup, ?_⟩
        show t ≤ s.last + pace.travel + reportPause + 3 * pace.slack
        omega
  | read since sys obs hp hs =>
    obtain ⟨hbusy, hup, hbox, hcase, -⟩ := system_read hs
    rw [hp] at hphase hlate
    obtain ⟨hread, hsince, hkeeps, hstrong⟩ := hphase
    rw [Phase.late, decide_eq_false_iff_not] at hlate
    have hunread : (box sys.base.data).unread = s.unread := by
      rw [hbox]
      rfl
    rcases hcase with ⟨hsome, -⟩ | ⟨hnone, -⟩
    · rw [if_pos hsome]
      refine h.move hle (by rw [hup]) (fun hun => hunread.symm.trans hun)
        (fun hnone => absurd (h.first hnone).idle hread) rfl rfl
        ⟨fun hn => ?_, hsince.trans hle, fun hun => ?_, fun hslept => ?_⟩
      · rw [hn] at hsome
        cases hsome
      · obtain ⟨h1, h2⟩ := hkeeps (hunread.symm.trans hun)
        exact ⟨hup.trans h1, h2⟩
      · obtain ⟨h1, h2, h3⟩ := hstrong hslept
        exact ⟨hunread.trans h1, hup.trans h2, h3⟩
    · rw [hnone]
      refine h.move hle (by rw [hup]) (fun hun => hunread.symm.trans hun) (fun _ => hnone) rfl rfl
        ⟨hnone, Nat.le_refl t, fun hun => ?_⟩
      have hun₁ : s.unread = true := hunread.symm.trans hun
      obtain ⟨h1, h2⟩ := hkeeps hun₁
      have hgiven := h.prompt hun₁
      refine ⟨hup.trans h1, ?_⟩
      show t ≤ s.last + pace.travel + pace.slack
      omega
  | wake since hp hpause =>
    rw [hp] at hphase hlate
    obtain ⟨hidle, hsince, hkeeps⟩ := hphase
    rw [Phase.late, decide_eq_false_iff_not] at hlate
    refine h.move hle (Nat.le_refl _) id (fun _ => hidle) rfl rfl
      ⟨hidle, Nat.le_refl t, fun _ hun => ?_⟩
    obtain ⟨h1, h2⟩ := hkeeps hun
    refine ⟨h1, ?_⟩
    show t ≤ s.last + pace.travel + reportPause + 2 * pace.slack
    omega

/-- Bytes are on the wire only where nothing waits and no fetch is reading. -/
theorem Paced.free (h : Paced pace True s now) (hne : s.sys.up ≠ []) :
    s.unread = false ∧ s.sys.base.reading = none := by
  have hphase := h.phase
  have hun : ∀ {P : Prop}, (s.unread = true → s.sys.up = [] ∧ P) → s.unread = false := by
    intro P hkeeps
    rw [Bool.eq_false_iff]
    intro hun
    exact hne (hkeeps hun).1
  rcases hp : s.phase with _ | since | _ | _ | since | since | since | _ <;> rw [hp] at hphase
  · exact absurd trivial hphase.2
  · exact absurd trivial hphase.2
  · exact absurd trivial hphase.2
  · exact absurd trivial hphase.2
  · exact ⟨hun (hphase.2.2 trivial), hphase.1⟩
  · exact absurd (hphase.2.2.2 trivial).2.1 hne
  · exact ⟨hun hphase.2.2, hphase.1⟩
  · exact absurd trivial hphase.2

end Steps

/-! ## 2. What is reported -/

/-- The fields of the frame that waits or is being read. -/
def Shipped.outstanding (s : Shipped) : List Fields :=
  if s.unread || s.sys.base.reading.isSome then [frameFields s.sys.base.data.readyBuf] else []

/-- A fetch in progress has read from the frame in `ready_buf` and from no other. -/
def Shipped.Whole (s : Shipped) : Prop :=
  ∀ bs, s.sys.base.reading = some bs → Reading s.sys.base.data bs

/-- An invocation that completes nothing leaves what a fetch in progress reads. -/
theorem reading_published {data data' : SensorNodeData} (hp : Published data [] data')
    {bs : List UInt8} (h : Reading data bs) : Reading data' bs := by
  unfold Published at hp
  rw [hp]
  exact ⟨h.length_lt, h.bytes, { h.assigned with }⟩

section Reports

variable {pace : Pace} {s s' : Shipped} {now t : Nat} {conv : FloatConv} {cal : BmeCalib}
  {cfg : SensorNodeConfig} {dev uart : Device} {obs : List SystemObs}

theorem outstanding_none (hun : s.unread = false) (hidle : s.sys.base.reading = none) :
    s.outstanding = [] := by
  unfold Shipped.outstanding
  rw [hun, hidle]
  rfl

theorem outstanding_some (h : s.unread = true ∨ s.sys.base.reading.isSome = true) :
    s.outstanding = [frameFields s.sys.base.data.readyBuf] := by
  unfold Shipped.outstanding
  rw [if_pos (Bool.or_eq_true_iff.mpr h)]

theorem outstanding_eq (hun : s'.unread = s.unread)
    (hread : s'.sys.base.reading = s.sys.base.reading)
    (hbuf : s'.sys.base.data.readyBuf = s.sys.base.data.readyBuf) :
    s'.outstanding = s.outstanding := by
  unfold Shipped.outstanding
  rw [hun, hread, hbuf]

/-- What the driver does not say is neither a report nor a frame. -/
theorem quiet_driven (hd : driven obs = []) : reported obs = [] ∧ frames obs = [] := by
  unfold reported
  rw [frames_driven, hd]
  exact ⟨rfl, rfl⟩

/-- **One step**: what it reports was outstanding, and what it completes is. -/
theorem Paced.balance {log : List SystemObs} (h : Paced pace True s now)
    (hinv : SystemInv conv cal log s.sys) (hw : s.Whole) (hs : s.Effect conv cfg dev t s' obs) :
    s'.Whole ∧
      reported obs ++ s'.outstanding = s.outstanding ++ (frames obs).map frameFields := by
  have hphase := h.phase
  have hquiet : driven obs = [] → s'.outstanding = s.outstanding →
      reported obs ++ s'.outstanding = s.outstanding ++ (frames obs).map frameFields := by
    intro hd ho
    obtain ⟨hr, hf⟩ := quiet_driven hd
    rw [hr, hf, ho, List.map_nil, List.append_nil, List.nil_append]
  cases hs with
  | turn i sys obs hi hpause hs =>
    obtain ⟨hbase, -, hd⟩ := turn_effect hi hs
    refine ⟨?_, hquiet hd (outstanding_eq ?_ ?_ ?_)⟩
    · unfold Shipped.Whole
      rw [hbase]
      exact hw
    · unfold Shipped.unread
      rw [hbase]
    · rw [hbase]
    · rw [hbase]
  | isr reads sys obs hs =>
    have hnext := hinv.step hs
    obtain ⟨data, out, hpub, hbox, rfl, rfl⟩ := isr_effect hinv.sem hs
    have hdrop : (s.sys.up.drop (fifoBytes reads).length).length ≤ s.sys.up.length := by
      rw [List.length_drop]
      exact Nat.sub_le _ _
    rcases hinv.completes hnext h.wire hdrop with rfl | ⟨hne, -, f, rfl⟩
    · refine ⟨fun bs hbs => reading_published hpub (hw bs hbs), hquiet rfl ?_⟩
      exact outstanding_eq (congrArg Box.unread hbox) rfl (congrArg Box.newest hbox)
    · obtain ⟨hun, hidle⟩ := h.free hne
      refine ⟨fun bs hbs => ?_, ?_⟩
      · cases hidle.symm.trans hbs
      · refine (congrArg ([] ++ ·) (outstanding_some (Or.inl ?_))).trans ?_
        · exact congrArg Box.unread hbox
        · rw [outstanding_none hun hidle]
          exact congrArg (fun g => [frameFields g]) (congrArg Box.newest hbox)
  | boot phase hbooting hnext =>
    rcases hbooting with hp | ⟨since, hp⟩
    · rw [hp] at hphase
      exact absurd trivial hphase.2
    · rw [hp] at hphase
      exact absurd trivial hphase.2
  | arm answer sys obs hp hs =>
    rw [hp] at hphase
    exact absurd trivial hphase.2
  | configure sys obs hp hs =>
    rw [hp] at hphase
    exact absurd trivial hphase.2
  | take since sys obs hp hwait hs =>
    obtain ⟨hidle, hcase⟩ := take_effect hinv.sem hs
    rcases hcase with ⟨hun, rfl, hd⟩ | ⟨hun, hd, sem, rfl, hun'⟩
    · refine ⟨hw, ?_⟩
      refine (congrArg (reported obs ++ ·) (outstanding_none hun hidle)).trans ?_
      rw [outstanding_none hun hidle, frames_driven, reported, hd]
      rfl
    · refine ⟨fun bs hbs => ?_, hquiet hd ?_⟩
      · cases hbs
        exact reading_start _
      · rw [outstanding_some (Or.inl hun), outstanding_some (Or.inr rfl)]
  | read since sys obs hp hs =>
    obtain ⟨hbusy, -, hbox, hcase, hreads⟩ := system_read hs
    rw [hp] at hphase
    obtain ⟨bs, hbs⟩ := Option.isSome_iff_exists.mp hbusy
    obtain ⟨hwhole, hreport⟩ := hreads bs hbs (hw bs hbs)
    rcases hcase with ⟨hsome, hd⟩ | ⟨hnone, v, hd⟩
    · refine ⟨hwhole, hquiet hd ?_⟩
      rw [outstanding_some (Or.inr hbusy), outstanding_some (Or.inr hsome)]
      exact congrArg (fun f => [frameFields f]) (congrArg Box.newest hbox)
    · have hun := (congrArg Box.unread hbox).trans (hphase.2.2.2 trivial).1
      refine ⟨hwhole, ?_⟩
      refine (congrArg (reported obs ++ ·) (outstanding_none ?_ ?_)).trans ?_
      · exact hun
      · exact hnone
      · rw [outstanding_some (Or.inr hbusy), hreport hnone, frames_driven, hd]
        rfl
  | wake since hp hpause =>
    exact ⟨hw, hquiet rfl rfl⟩

/-! ## 3. Runs -/

/-- **From power-on.** -/
theorem paced_run {s : Shipped × Nat} {evs : List (Nat × ShippedEvent)}
    {log : List (Nat × SystemObs)} (hquick : pace.Quick)
    (h : run (timed (shipped pace conv cfg dev)) (.initial cal uart, 0) evs = some (s, log)) :
    Paced pace False s.1 s.2 := by
  refine (timed_log (P := fun log s now =>
    SystemInv conv cal (log.map Prod.snd) s.sys ∧ Paced pace False s now) [] ?_ ?_ h).2
  · intro log s now t i s' out hP hle hdue hs
    obtain ⟨hinv, hpaced⟩ := hP
    have heff := shippedStep_cases hs
    obtain ⟨evs', hevs⟩ := heff.system
    refine ⟨?_, hpaced.step hinv hquick hle hdue heff⟩
    rw [List.map_append, map_snd_stamped]
    exact hinv.steps hevs
  · exact ⟨systemInv_initial conv cal uart, paced_initial pace cal uart⟩

/-- **Once a fetch has returned**, with `log` observed before that. -/
theorem slept_run {log : List SystemObs} {s s' : Shipped × Nat} {evs : List (Nat × ShippedEvent)}
    {log' : List (Nat × SystemObs)} (hinv : SystemInv conv cal log s.1.sys)
    (hpaced : Paced pace True s.1 s.2) (hwhole : s.1.Whole) (hquick : pace.Quick)
    (h : run (timed (shipped pace conv cfg dev)) s evs = some (s', log')) :
    Paced pace True s'.1 s'.2 ∧
      reported (log'.map Prod.snd) ++ s'.1.outstanding =
        s.1.outstanding ++ (frames (log'.map Prod.snd)).map frameFields := by
  have hrun := timed_log (P := fun log' s' now =>
      SystemInv conv cal (log ++ log'.map Prod.snd) s'.sys ∧ Paced pace True s' now ∧ s'.Whole ∧
        reported (log'.map Prod.snd) ++ s'.outstanding =
          s.1.outstanding ++ (frames (log'.map Prod.snd)).map frameFields) [] ?_ ?_ h
  · exact ⟨hrun.2.1, hrun.2.2.2⟩
  · intro log' s' now t i s'' obs hP hle hdue hs
    obtain ⟨hinv', hpaced', hwhole', hbal⟩ := hP
    have heff := shippedStep_cases hs
    obtain ⟨evs', hevs⟩ := heff.system
    obtain ⟨hwhole'', hstep⟩ := hpaced'.balance hinv' hwhole' heff
    rw [List.map_append, map_snd_stamped]
    refine ⟨?_, hpaced'.step hinv' hquick hle hdue heff, hwhole'', ?_⟩
    · rw [← List.append_assoc]
      exact hinv'.steps hevs
    · calc reported (log'.map Prod.snd ++ obs) ++ s''.outstanding
          = reported (log'.map Prod.snd) ++ (reported obs ++ s''.outstanding) := by
            rw [reported, driven_append, reports_append, List.append_assoc]
            rfl
        _ = reported (log'.map Prod.snd) ++ s'.outstanding ++ (frames obs).map frameFields := by
            rw [hstep, List.append_assoc]
        _ = s.1.outstanding ++ (frames (log'.map Prod.snd ++ obs)).map frameFields := by
            rw [hbal, frames_append, List.map_append, List.append_assoc]
  · refine ⟨?_, hpaced, hwhole, ?_⟩
    · show SystemInv conv cal (log ++ []) s.1.sys
      rw [List.append_nil]
      exact hinv
    · exact (List.append_nil _).symm

/-- `main` asleep holds no fetch. -/
theorem Paced.whole {slept : Prop} (h : Paced pace slept s now) {since : Nat}
    (hp : s.phase = .sleeping since) : s.Whole := by
  have hphase := h.phase
  rw [hp] at hphase
  intro bs hbs
  cases hphase.1.symm.trans hbs

/-- **A state that is not overdue long after a turn has nothing left to take.** -/
theorem Paced.settled (h : Paced pace True s now) (hdue : overdue pace s t = false)
    (ht : s.last + pace.travel + reportPause + 4 * pace.slack < t) : Settled s.sys := by
  obtain ⟨hwire, hmail, hfetch⟩ := h.due hdue
  refine ⟨?_, ?_, ?_⟩
  · by_contra hne
    have hle := hwire hne
    omega
  · show s.unread = false
    rw [Bool.eq_false_iff]
    intro hun
    have hle := hmail (Or.inl trivial) hun
    omega
  · by_contra hne
    have hle := hfetch trivial hne
    omega

end Reports

/-- **The shipped system loses no frame**, on hardware that is quick enough. In every run, from the
    moment its first fetch has returned: the reports are, in order, those of the completed frames,
    each once and whole; what is still missing is the frame that waits or is being read. -/
theorem shipped_lossless (pace : Pace) (conv : FloatConv) (cal : BmeCalib)
    (cfg : SensorNodeConfig) (dev uart : Device) (evs more : List (Nat × ShippedEvent))
    (s s' : Shipped × Nat) (log log' : List (Nat × SystemObs)) (since : Nat)
    (hquick : pace.Quick)
    (hrun : run (timed (shipped pace conv cfg dev)) (.initial cal uart, 0) evs = some (s, log))
    (hslept : s.1.phase = .sleeping since)
    (hmore : run (timed (shipped pace conv cfg dev)) s more = some (s', log')) :
    reported (log'.map Prod.snd) ++ s'.1.outstanding =
      s.1.outstanding ++ (frames (log'.map Prod.snd)).map frameFields := by
  have hpaced := paced_run hquick hrun
  exact (slept_run (shipped_inv hrun) (hpaced.asleep hslept) (hpaced.whole hslept) hquick hmore).2

/-- Behind `startEvents`: the next turn finds nobody, its frame arrives in two invocations. -/
def roundEvents : List (Nat × ShippedEvent) :=
  [(3301200, .main true), (3500200, .turn 0 (some 200) none none),
    (3500600, .isr [some 0xAA, some 0, some 0, some 0, none]),
    (3501000, .isr [some 0, some 0, some 0, some 200, some 0, some 0x55]),
    (3501100, .main true)] ++ List.replicate 8 (3501200, .main true) ++ [(3801300, .main true)]

theorem quickPace_quick : quickPace.Quick := by
  unfold Pace.Quick
  decide

theorem round_run :
    ∃ s log s' log', run (timed (shipped quickPace .wrapping wired ⟨1⟩))
        (.initial someCalib ⟨0⟩, 0) startEvents = some (s, log) ∧
      s.1.phase = .sleeping 3001200 ∧
      run (timed (shipped quickPace .wrapping wired ⟨1⟩)) s roundEvents = some (s', log') ∧
      overdue quickPace s'.1 3900000 = false ∧ s'.1.last = 3500200 := by
  have h : (run (timed (shipped quickPace .wrapping wired ⟨1⟩)) (.initial someCalib ⟨0⟩, 0)
      (startEvents ++ roundEvents)).map (fun r => (overdue quickPace r.1.1 3900000, r.1.1.last)) =
      some (false, 3500200) := by decide +kernel
  obtain ⟨⟨s', log''⟩, hrun, hend⟩ := Option.map_eq_some_iff.mp h
  obtain ⟨s, log, log', h1, h2, rfl⟩ := run_split hrun
  obtain ⟨s₁, log₁, h3, hphase⟩ := start_run
  cases h1.symm.trans h3
  obtain ⟨hdue, hlast⟩ := Prod.mk.inj hend
  exact ⟨s, log, s', log', h1, hphase, h2, hdue, hlast⟩

theorem shipped_lossless_demo :
    ∃ s s' : Shipped × Nat, ∃ log',
      run (timed (shipped quickPace .wrapping wired ⟨1⟩)) s roundEvents = some (s', log') ∧
      reported (log'.map Prod.snd) ++ s'.1.outstanding =
        s.1.outstanding ++ (frames (log'.map Prod.snd)).map frameFields := by
  obtain ⟨s, log, s', log', hrun, hphase, hmore, -, -⟩ := round_run
  exact ⟨s, s', log', hmore, shipped_lossless quickPace .wrapping someCalib wired ⟨1⟩ ⟨0⟩
    startEvents roundEvents s s' log log' 3001200 quickPace_quick hrun hphase hmore⟩

/-- **Every turn is shown, and in time.** On such hardware, once a fetch has returned: when more
    than the travel, the pause of a round and four slacks have passed behind a turn, which is before
    the next one, the base node has taken everything, and the LEDs show the panel of all turns. -/
theorem shipped_response (pace : Pace) (conv : FloatConv) (cal : BmeCalib)
    (cfg : SensorNodeConfig) (dev uart : Device) (evs more : List (Nat × ShippedEvent))
    (s s' : Shipped × Nat) (log log' : List (Nat × SystemObs)) (since t : Nat)
    (hquick : pace.Quick)
    (hrun : run (timed (shipped pace conv cfg dev)) (.initial cal uart, 0) evs = some (s, log))
    (hslept : s.1.phase = .sleeping since)
    (hmore : run (timed (shipped pace conv cfg dev)) s more = some (s', log'))
    (hdue : overdue pace s'.1 t = false)
    (ht : s'.1.last + pace.travel + reportPause + 4 * pace.slack < t) :
    Settled s'.1.sys ∧
      Panel (readings cal (inputs ((log ++ log').map Prod.snd)))
        (shippedSettings (polled (inputs ((log ++ log').map Prod.snd)))) s'.1.sys.leds := by
  have hpaced := paced_run hquick hrun
  obtain ⟨hpaced', -⟩ :=
    slept_run (shipped_inv hrun) (hpaced.asleep hslept) (hpaced.whole hslept) hquick hmore
  have hset := hpaced'.settled hdue ht
  have hboth := run_append_eq hrun hmore
  have hinv := shipped_inv hboth
  have hpanel := (hinv.settled hset).1
  rw [shipped_requests hboth] at hpanel
  have hrx := hinv.polled_prefix (inputs ((log ++ log').map Prod.snd)).length
  rw [List.take_length, shipped_requests hboth] at hrx
  rw [settings_asked hrx] at hpanel
  exact ⟨hset, hpanel⟩

theorem shipped_response_demo :
    ∃ s log, run (timed (shipped quickPace .wrapping wired ⟨1⟩)) (.initial someCalib ⟨0⟩, 0)
        (startEvents ++ roundEvents) = some (s, log) ∧ Settled s.1.sys ∧
      Panel (readings someCalib (inputs (log.map Prod.snd)))
        (shippedSettings (polled (inputs (log.map Prod.snd)))) s.1.sys.leds := by
  obtain ⟨s, log, s', log', hrun, hphase, hmore, hdue, hlast⟩ := round_run
  refine ⟨s', log ++ log', run_append_eq hrun hmore, ?_⟩
  exact shipped_response quickPace .wrapping someCalib wired ⟨1⟩ ⟨0⟩ startEvents roundEvents s s'
    log log' 3001200 3900000 quickPace_quick hrun hphase hmore hdue
    (by rw [hlast]; decide)

end HomeAlert.Link
