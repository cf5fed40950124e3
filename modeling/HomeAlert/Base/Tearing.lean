/-
  File:      HomeAlert/Base/Tearing.lean
  Subject:   WHAT A TORN FETCH CAN REPORT (sensor_node_sample_fetch under the interrupt routine).

  Nothing keeps the interrupt routine from replacing `ready_buf` while a fetch reads it, so the
  eight bytes of a report may stem from different frames. They do so in order only: each byte
  comes from its place in a completed frame, no later byte from an earlier frame, the last from
  the newest, and none from a frame older than the last report before it (`report_mixed`).
-/
import HomeAlert.Base.Preemption

namespace HomeAlert.Base

open Machine Mailbox

/-! ## 1. Mixed frames -/

/-- The `n`-th of the frames `C`; before the first the zeroed buffer. -/
def frameNo (C : List DataFrame) (n : Nat) : DataFrame :=
  (C.take n).getLast?.getD (Vector.replicate 10 0)

theorem frameNo_append {C : List DataFrame} {n : Nat} (h : n ≤ C.length) (D : List DataFrame) :
    frameNo (C ++ D) n = frameNo C n := by
  rw [frameNo, List.take_append_of_le_length h]
  rfl

theorem frameNo_length (C : List DataFrame) :
    frameNo C C.length = C.getLast?.getD (Vector.replicate 10 0) := by
  rw [frameNo, List.take_length]

/-- The newest frame behind some more of them. -/
theorem frameNo_concat (C out : List DataFrame) :
    frameNo (C ++ out) (C ++ out).length = out.getLast?.getD (frameNo C C.length) := by
  rw [frameNo_length, frameNo_length, List.getLast?_append]
  cases out.getLast? <;> rfl

/-- The fields of the bytes 1 to 8 of a block. -/
def fieldsOfBytes (b : Nat → UInt8) : Fields where
  temperature := Int16.ofInt (Word.join (b 1) (b 2))
  humidity := UInt16.ofNat (Word.join (b 3) (b 4))
  sound := b 5
  distance := UInt16.ofNat (Word.join (b 6) (b 7))
  alarmStatus := b 8

theorem fieldsOfBytes_congr {b b' : Nat → UInt8} (h : ∀ i, 1 ≤ i → i ≤ 8 → b i = b' i) :
    fieldsOfBytes b = fieldsOfBytes b' := by
  unfold fieldsOfBytes
  rw [h 1 (by decide) (by decide), h 2 (by decide) (by decide), h 3 (by decide) (by decide),
    h 4 (by decide) (by decide), h 5 (by decide) (by decide), h 6 (by decide) (by decide),
    h 7 (by decide) (by decide), h 8 (by decide) (by decide)]

theorem frameFields_bytes (f : DataFrame) :
    frameFields f = fieldsOfBytes fun i => f.toList.getD i 0 := by
  simp [frameFields, fieldsOfBytes]

/-- **Fields mixed from several frames**: byte `i` is that of frame number `k i`. -/
def mixed (C : List DataFrame) (k : Nat → Nat) : Fields :=
  fieldsOfBytes fun i => (frameNo C (k i)).toList.getD i 0

/-- **What a report is of the frames `C` completed before its last read**: its bytes are those of
    frames in order, the last of them the newest. -/
structure MixedReport (C : List DataFrame) (k : Nat → Nat) (v : Fields) : Prop where
  ordered : ∀ i j, 1 ≤ i → i ≤ j → j ≤ 8 → k i ≤ k j
  first : 1 ≤ k 1
  last : k 8 = C.length
  fields : v = mixed C k

/-- A report all of whose bytes are those of one frame is not torn. -/
theorem MixedReport.whole {C : List DataFrame} {k : Nat → Nat} {v : Fields}
    (h : MixedReport C k v) (hk : k 1 = C.length) : v = frameFields (frameNo C C.length) := by
  have hall : ∀ i, 1 ≤ i → i ≤ 8 → k i = C.length := by
    intro i h1 h8
    refine Nat.le_antisymm ?_ ?_
    · rw [← h.last]
      exact h.ordered i 8 h1 h8 (Nat.le_refl 8)
    · rw [← hk]
      exact h.ordered 1 i (Nat.le_refl 1) h1 h8
  rw [h.fields, frameFields_bytes]
  refine fieldsOfBytes_congr fun i h1 h8 => ?_
  rw [hall i h1 h8]

/-! ## 2. The invariant -/

/-- What a fetch has read: byte `i` of the frame that was the newest then. -/
structure ReadSoFar (log : List FetchObs) (bs : List UInt8) (k : Nat → Nat) : Prop where
  ordered : ∀ i j, 1 ≤ i → i ≤ j → j ≤ bs.length → k i ≤ k j
  known : ∀ i, 1 ≤ i → i ≤ bs.length → 1 ≤ k i ∧ k i ≤ (completions log).length
  bytes : ∀ i, i < bs.length →
    bs.getD i 0 = (frameNo (completions log) (k (i + 1))).toList.getD (i + 1) 0
  behind : 1 ≤ bs.length → ∀ pre w post, log = pre ++ .reported w :: post →
    (completions pre).length ≤ k 1

/-- What every report of a log is. -/
def Reported (log : List FetchObs) : Prop :=
  ∀ pre v post, log = pre ++ .reported v :: post →
    ∃ k, MixedReport (completions pre) k v ∧
      ∀ pre' w post', pre = pre' ++ .reported w :: post' → (completions pre').length ≤ k 1

/-- **The invariant**, for the observations `log` made so far. -/
structure TearInv (log : List FetchObs) (s : FetchState) : Prop where
  sem : SemOk s.data
  newest : s.data.readyBuf = frameNo (completions log) (completions log).length
  posted : (box s.data).unread = true → 1 ≤ (completions log).length
  reading : ∀ bs, s.reading = some bs → bs.length < 8 ∧ Partial s.data bs ∧
    1 ≤ (completions log).length ∧ ∃ k, ReadSoFar log bs k
  reported : Reported log

theorem tearInv_initial (dev : Device) : TearInv [] (.initial dev) where
  sem := semOk_initial dev
  newest := rfl
  posted h := by cases h
  reading _ h := by cases h
  reported pre v post h := by simp at h

/-- A report in a log was there before observations that are none. -/
theorem split_reported {log o pre post : List FetchObs} {v : Fields}
    (h : log ++ o = pre ++ .reported v :: post) (ho : ∀ w, .reported w ∉ o) :
    ∃ post', log = pre ++ .reported v :: post' := by
  rcases List.append_eq_append_iff.mp h with ⟨as, -, ho'⟩ | ⟨cs, hlog, hrest⟩
  · exact absurd (ho' ▸ List.mem_append_right as List.mem_cons_self) (ho v)
  · rcases cs with _ | ⟨c, cs⟩
    · rw [List.nil_append] at hrest
      exact absurd (hrest ▸ List.mem_cons_self) (ho v)
    · obtain ⟨rfl, -⟩ := List.cons.inj hrest
      exact ⟨cs, hlog⟩

/-- The last report of a log is its newest observation, or was there before. -/
theorem split_concat {log pre post : List FetchObs} {v w : Fields}
    (h : log ++ [.reported w] = pre ++ .reported v :: post) :
    (log = pre ∧ w = v) ∨ ∃ post', log = pre ++ .reported v :: post' := by
  rcases List.append_eq_append_iff.mp h with ⟨as, hpre, ho⟩ | ⟨cs, hlog, hrest⟩
  · rcases as with _ | ⟨a, as⟩
    · obtain ⟨hw, -⟩ := List.cons.inj ho
      exact Or.inl ⟨by rw [hpre, List.append_nil], by injection hw⟩
    · obtain ⟨-, hnil⟩ := List.cons.inj ho
      simp at hnil
  · rcases cs with _ | ⟨c, cs⟩
    · obtain ⟨hw, -⟩ := List.cons.inj hrest
      exact Or.inl ⟨by rw [hlog, List.append_nil], by injection hw with e; exact e.symm⟩
    · obtain ⟨rfl, -⟩ := List.cons.inj hrest
      exact Or.inr ⟨cs, hlog⟩

/-- More observations that report nothing leave what was reported. -/
theorem Reported.append {log o : List FetchObs} (h : Reported log) (ho : ∀ w, .reported w ∉ o) :
    Reported (log ++ o) := by
  intro pre v post e
  obtain ⟨post', e'⟩ := split_reported e ho
  exact h pre v post' e'

theorem ReadSoFar.append {log o : List FetchObs} {bs : List UInt8} {k : Nat → Nat}
    (h : ReadSoFar log bs k) (ho : ∀ w, .reported w ∉ o) : ReadSoFar (log ++ o) bs k where
  ordered := h.ordered
  known i h1 h2 := by
    rw [completions_append, List.length_append]
    have := h.known i h1 h2
    omega
  bytes i hi := by
    rw [completions_append, frameNo_append (h.known (i + 1) (by omega) hi).2]
    exact h.bytes i hi
  behind h1 pre w post e := by
    obtain ⟨post', e'⟩ := split_reported e ho
    exact h.behind h1 pre w post' e'

/-! ## 3. Steps -/

/-- **The interrupt routine** may replace the buffer under a fetch: what was read was read. -/
theorem TearInv.isr {log : List FetchObs} {s : FetchState} (h : TearInv log s)
    {reads : List (Option UInt8)} {data : SensorNodeData} {out : List DataFrame}
    (hs : sensorNodeUartIsr s.data reads = some (data, out)) :
    TearInv (log ++ out.map .completed) { s with data := data } := by
  have hpub := isr_published hs
  obtain ⟨hsem, hbox⟩ := box_published h.sem hpub
  rw [posts_eq] at hbox
  have hno : ∀ w, FetchObs.reported w ∉ out.map .completed := by
    intro w hw
    obtain ⟨f, -, e⟩ := List.mem_map.mp hw
    cases e
  have hC : completions (log ++ out.map .completed) = completions log ++ out := by
    rw [completions_append, (completions_isr out).1]
  refine ⟨hsem, ?_, fun hun => ?_, fun bs hb => ?_, h.reported.append hno⟩
  · rw [hC, frameNo_concat, ← h.newest]
    exact congrArg Box.newest hbox
  · rw [hC, List.length_append]
    rw [show (box data).unread = _ from congrArg Box.unread hbox, Bool.or_eq_true,
      Bool.not_eq_true'] at hun
    rcases hun with hun | hun
    · exact Nat.le_add_right_of_le (h.posted hun)
    · have := List.length_pos_of_ne_nil (List.isEmpty_eq_false_iff.mp hun)
      omega
  · obtain ⟨hlt, hpart, hone, k, hk⟩ := h.reading bs hb
    refine ⟨hlt, ?_, ?_, k, hk.append hno⟩
    · unfold Published at hpub
      rw [hpub]
      exact { hpart with }
    · rw [hC, List.length_append]
      exact Nat.le_add_right_of_le hone

/-- **The take** finds a frame completed. -/
theorem TearInv.take {log : List FetchObs} {s : FetchState} (h : TearInv log s) {sem : KSem}
    (ht : s.data.frameSem.take = some sem) :
    TearInv log { data := { s.data with frameSem := sem }, reading := some [] } := by
  obtain ⟨hun, hsem, hbox⟩ := box_take h.sem ht
  refine ⟨hsem, h.newest, fun hun' => ?_, fun bs hb => ?_, h.reported⟩
  · exact h.posted hun
  · cases hb
    refine ⟨by decide, partial_nil _, h.posted hun, fun _ => 0, ?_⟩
    exact ⟨fun i j h1 h2 h3 => absurd (h1.trans (h2.trans h3)) (by decide),
      fun i h1 h2 => absurd (h1.trans h2) (by decide), fun i hi => absurd hi (Nat.not_lt_zero i),
      fun h1 => absurd h1 (by decide)⟩

/-- One more byte, of the frame in the buffer now. -/
theorem ReadSoFar.read {log : List FetchObs} {bs : List UInt8} {k : Nat → Nat}
    (h : ReadSoFar log bs k) (hone : 1 ≤ (completions log).length) {f : DataFrame}
    (hf : f = frameNo (completions log) (completions log).length) {b : UInt8}
    (hb : f[bs.length + 1]? = some b) :
    ReadSoFar log (bs ++ [b])
      fun i => if i ≤ bs.length then k i else (completions log).length := by
  have hlen : (bs ++ [b]).length = bs.length + 1 := by simp
  refine ⟨fun i j h1 h2 h3 => ?_, fun i h1 h2 => ?_, fun i hi => ?_, fun _ pre w post e => ?_⟩
  · by_cases hj : j ≤ bs.length
    · rw [if_pos (h2.trans hj), if_pos hj]
      exact h.ordered i j h1 h2 hj
    · rw [if_neg hj]
      by_cases hi : i ≤ bs.length
      · rw [if_pos hi]
        exact (h.known i h1 hi).2
      · rw [if_neg hi]
  · by_cases hi : i ≤ bs.length
    · rw [if_pos hi]
      exact h.known i h1 hi
    · rw [if_neg hi]
      exact ⟨hone, Nat.le_refl _⟩
  · rw [hlen] at hi
    rcases Nat.lt_or_ge i bs.length with hlt | hge
    · have hold := h.bytes i hlt
      rw [List.getD_eq_getElem?_getD] at hold
      rw [if_pos (by omega), ← hold, List.getD_eq_getElem?_getD, List.getElem?_append_left hlt]
    · obtain rfl : i = bs.length := by omega
      have hget : f.toList[bs.length + 1]? = some b := by simpa using hb
      rw [if_neg (by omega), ← hf, List.getD_eq_getElem?_getD, List.getElem?_concat_length,
        List.getD_eq_getElem?_getD, hget]
  · by_cases h0 : 1 ≤ bs.length
    · rw [if_pos h0]
      exact h.behind h0 pre w post e
    · rw [if_neg h0, e, completions_append, List.length_append]
      exact Nat.le_add_right _ _

/-- Eight bytes read make a report. -/
theorem ReadSoFar.mixed {log : List FetchObs} {bs : List UInt8} {k : Nat → Nat}
    (h : ReadSoFar log bs k) (h8 : bs.length = 8) (hlast : k 8 = (completions log).length)
    {data : SensorNodeData} (hp : Partial data bs) :
    MixedReport (completions log) k data.fields where
  ordered i j h1 h2 h3 := h.ordered i j h1 h2 (h8 ▸ h3)
  first := (h.known 1 (Nat.le_refl 1) (by omega)).1
  last := hlast
  fields := by
    obtain ⟨h1, h2, h3, h4, h5⟩ := hp
    rw [h8] at h1 h2 h3 h4 h5
    unfold SensorNodeData.fields Base.mixed fieldsOfBytes
    rw [h1 (by decide), h2 (by decide), h3 (by decide), h4 (by decide), h5 (by decide),
      h.bytes 0 (by omega), h.bytes 1 (by omega), h.bytes 2 (by omega), h.bytes 3 (by omega),
      h.bytes 4 (by omega), h.bytes 5 (by omega), h.bytes 6 (by omega), h.bytes 7 (by omega)]

theorem TearInv.read {log : List FetchObs} {s s' : FetchState} {obs : List FetchObs}
    (h : TearInv log s) (hs : preemptStep s .read = some (s', obs)) : TearInv (log ++ obs) s' := by
  obtain ⟨data, reading⟩ := s
  rcases reading with _ | bs
  · cases hs
  · obtain ⟨hlt, hpart, hone, k, hk⟩ := h.reading bs rfl
    simp only [preemptStep, Option.bind_eq_bind, Option.bind_eq_some_iff] at hs
    obtain ⟨b, hb, e⟩ := hs
    have hlen : (bs ++ [b]).length = bs.length + 1 := by simp
    have hnext := hk.read hone h.newest hb
    have hnew := hpart.read hlt b
    have hframe := assignRead_frame data (bs ++ [b])
    have hdata : ∀ d : SensorNodeData, d = data.withFields d.fields → SemOk d ∧
        d.readyBuf = data.readyBuf ∧ (box d).unread = (box data).unread := by
      intro d hd
      rw [hd]
      exact ⟨⟨h.sem.limit_eq, h.sem.count_le⟩, rfl, rfl⟩
    obtain ⟨hsem, hbuf, hun⟩ := hdata _ hframe
    by_cases h8 : (bs ++ [b]).length = 8
    · rw [if_pos h8] at e
      cases e
      have hC : completions (log ++ [.reported (assignRead data (bs ++ [b])).fields]) =
          completions log := (completions_append _ _).trans (List.append_nil _)
      refine ⟨hsem, ?_, fun hu => ?_, fun _ hn => (by cases hn), fun pre v post e => ?_⟩
      · rw [hC]
        exact hbuf.trans h.newest
      · rw [hC]
        exact hone
      · rcases split_concat e with ⟨rfl, rfl⟩ | ⟨post', e'⟩
        · refine ⟨_, hnext.mixed h8 ?_ hnew, hnext.behind (by omega)⟩
          exact if_neg (by omega)
        · exact h.reported pre v post' e'
    · rw [if_neg h8] at e
      cases e
      rw [List.append_nil]
      refine ⟨hsem, hbuf.trans h.newest, fun hu => h.posted (hun ▸ hu), fun bs' hbs => ?_,
        h.reported⟩
      cases hbs
      exact ⟨by omega, hnew, hone, _, hnext⟩

/-! ## 4. Runs -/

theorem TearInv.step {log : List FetchObs} {s s' : FetchState} {ev : FetchEvent}
    {obs : List FetchObs} (h : TearInv log s) (hs : preemptStep s ev = some (s', obs)) :
    TearInv (log ++ obs) s' := by
  cases ev with
  | isr reads =>
    obtain ⟨⟨data, out⟩, h1, e⟩ := Option.map_eq_some_iff.mp hs
    cases e
    exact h.isr h1
  | take =>
    cases hr : s.reading with
    | some bs => simp [preemptStep, hr] at hs
    | none =>
      cases ht : s.data.frameSem.take with
      | none =>
        simp only [preemptStep, hr, ht] at hs
        cases hs
        have hC : completions (log ++ [.timedOut]) = completions log :=
          (completions_append _ _).trans (List.append_nil _)
        have hno : ∀ w, FetchObs.reported w ∉ [FetchObs.timedOut] := by simp
        refine ⟨h.sem, ?_, ?_, fun bs hb => ?_, h.reported.append hno⟩
        · rw [hC]
          exact h.newest
        · rw [hC]
          exact h.posted
        · rw [hr] at hb
          cases hb
      | some sem =>
        simp only [preemptStep, hr, ht] at hs
        cases hs
        rw [List.append_nil]
        exact h.take ht
  | read => exact h.read hs

/-- **What a report can be, under any interruption.** In every run of the driver from its start,
    wherever the interrupt routine strikes: byte `i` of each report is byte `i` of a frame number
    `k i` that had been completed; the numbers do not go down from byte to byte, the last is that
    of the newest frame at the last read, and the first is not below the frame that was the newest
    at any report before. So a report may be torn, but never goes back in time. -/
theorem report_mixed (dev : Device) (evs : List FetchEvent) (s : FetchState) (obs : List FetchObs)
    (hrun : run preemptStep (.initial dev) evs = some (s, obs)) :
    ∀ pre v post, obs = pre ++ .reported v :: post →
      ∃ k, MixedReport (completions pre) k v ∧
        ∀ pre' w post', pre = pre' ++ .reported w :: post' →
          (completions pre').length ≤ k 1 := by
  have h := run_log (P := TearInv) (fun _ _ _ _ _ hinv hs => hinv.step hs) (tearInv_initial dev)
    hrun
  exact h.reported

/-- The torn fetch of Preemption.lean: its first two bytes are those of the first frame. -/
theorem report_mixed_torn :
    ∃ s pre v, run preemptStep (.initial ⟨0⟩)
        [.isr (frameA.map some), .take, .read, .read, .isr (frameB.map some), .read, .read, .read,
          .read, .read, .read] = some (s, pre ++ [.reported v]) ∧
      ∃ k, MixedReport (completions pre) k v := by
  obtain ⟨s, pre, v, hrun⟩ : ∃ s pre v, run preemptStep (.initial ⟨0⟩)
      [.isr (frameA.map some), .take, .read, .read, .isr (frameB.map some), .read, .read, .read,
        .read, .read, .read] = some (s, pre ++ [.reported v]) :=
    ⟨_, [.completed _, .completed _], _, rfl⟩
  obtain ⟨k, hk, -⟩ := report_mixed ⟨0⟩ _ s _ hrun pre v [] rfl
  exact ⟨s, pre, v, hrun, k, hk⟩

end HomeAlert.Base
