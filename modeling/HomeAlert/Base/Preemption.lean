/-
  File:      HomeAlert/Base/Preemption.lean
  Subject:   A FETCH THAT THE INTERRUPT ROUTINE MAY INTERRUPT.

  `sensor_node_sample_fetch` takes `frame_sem` and then reads `ready_buf[1]` .. `ready_buf[8]` one
  by one; the interrupt routine may run between any two of these steps and replaces `ready_buf`
  without regard to them. A run is a list of such steps. Its observations are the frames completed
  and the fields each successful fetch leaves.

  * `preempt_torn` -- a fetch can report fields of two frames;
  * `preempt_consistent` -- where the routine completes no frame between a fetch's take and the
    last of its reads, the reported frames are a subsequence of the completed ones;
  * `preempt_atomic` -- the steps of a fetch without interruption are `sensorNodeSampleFetch`.
-/
import HomeAlert.Base.Fetch

namespace HomeAlert.Base

open Machine Framing Mailbox

/-! ## 1. Steps -/

/-- The driver with a fetch in progress: `reading` holds the bytes read so far. -/
structure FetchState where
  data : SensorNodeData
  reading : Option (List UInt8)
  deriving DecidableEq, Repr

def FetchState.initial (dev : Device) : FetchState := { data := .initial dev, reading := none }

/-- An invocation of the interrupt routine, the take that starts a fetch, or one of its reads. -/
inductive FetchEvent where
  | isr (reads : List (Option UInt8))
  | take
  | read
  deriving DecidableEq, Repr

/-- What can be observed: a frame copied and signalled, a fetch that returns 0 with its fields, a
    fetch that times out. -/
inductive FetchObs where
  | completed (f : DataFrame)
  | reported (v : Fields)
  | timedOut
  deriving DecidableEq, Repr

/-- The assignment that the last of the bytes read so far completes. -/
def assignRead (data : SensorNodeData) : List UInt8 → SensorNodeData
  | [f1, f2] => { data with temperature := Int16.ofInt (Word.join f1 f2) }
  | [_, _, f3, f4] => { data with humidity := UInt16.ofNat (Word.join f3 f4) }
  | [_, _, _, _, f5] => { data with sound := f5 }
  | [_, _, _, _, _, f6, f7] => { data with distance := UInt16.ofNat (Word.join f6 f7) }
  | [_, _, _, _, _, _, _, f8] => { data with alarmStatus := f8 }
  | _ => data

/-- One step. A take with nothing to take ends the fetch; the eighth read does, too. -/
def preemptStep (s : FetchState) : FetchEvent → Option (FetchState × List FetchObs)
  | .isr reads =>
      (sensorNodeUartIsr s.data reads).map fun r => ({ s with data := r.1 }, r.2.map .completed)
  | .take =>
      match s.reading with
      | some _ => none
      | none =>
          match s.data.frameSem.take with
          | none => some (s, [.timedOut])
          | some sem => some ({ data := { s.data with frameSem := sem }, reading := some [] }, [])
  | .read =>
      match s.reading with
      | none => none
      | some bs => do
          let byte ← s.data.readyBuf[bs.length + 1]?
          let bs := bs ++ [byte]
          let data := assignRead s.data bs
          if bs.length = 8 then some ({ data := data, reading := none }, [.reported data.fields])
          else some ({ data := data, reading := some bs }, [])

/-- The frames completed, in order. -/
def completions (obs : List FetchObs) : List DataFrame :=
  obs.filterMap fun o => match o with
    | .completed f => some f
    | _ => none

/-- The fields reported by successful fetches, in order. -/
def reports (obs : List FetchObs) : List Fields :=
  obs.filterMap fun o => match o with
    | .reported v => some v
    | _ => none

theorem completions_append (a b : List FetchObs) :
    completions (a ++ b) = completions a ++ completions b := List.filterMap_append

theorem reports_append (a b : List FetchObs) : reports (a ++ b) = reports a ++ reports b :=
  List.filterMap_append

theorem completions_isr (out : List DataFrame) :
    completions (out.map .completed) = out ∧ reports (out.map .completed) = [] := by
  simp [completions, reports, List.filterMap_map]

/-! ## 2. The condition -/

/-- **The condition on a step**: while a fetch is reading, the bytes that arrive do not complete a
    frame with those that are pending. -/
def Quiet (s : FetchState) : FetchEvent → Prop
  | .isr reads =>
      s.reading = none ∨ (receive dataGrammar (pending s.data) (fifoBytes reads)).2 = []
  | _ => True

instance decidableQuiet (s : FetchState) : (ev : FetchEvent) → Decidable (Quiet s ev)
  | .isr _ => inferInstanceAs (Decidable (_ ∨ _))
  | .take => .isTrue trivial
  | .read => .isTrue trivial

/-- Every step of the run meets it. -/
def QuietRun : FetchState → List FetchEvent → Prop
  | _, [] => True
  | s, ev :: evs => Quiet s ev ∧ (preemptStep s ev).elim True fun r => QuietRun r.1 evs

instance decidableQuietRun : (s : FetchState) → (evs : List FetchEvent) → Decidable (QuietRun s evs)
  | _, [] => .isTrue trivial
  | s, ev :: evs =>
      have : Decidable ((preemptStep s ev).elim True fun r => QuietRun r.1 evs) :=
        match preemptStep s ev with
        | none => .isTrue trivial
        | some r => decidableQuietRun r.1 evs
      inferInstanceAs (Decidable (_ ∧ _))

/-! ## 3. The invariant -/

/-- The fields assigned so far are those of the bytes read so far. -/
structure Partial (data : SensorNodeData) (bs : List UInt8) : Prop where
  temperature : 2 ≤ bs.length →
    data.temperature = Int16.ofInt (Word.join (bs.getD 0 0) (bs.getD 1 0))
  humidity : 4 ≤ bs.length → data.humidity = UInt16.ofNat (Word.join (bs.getD 2 0) (bs.getD 3 0))
  sound : 5 ≤ bs.length → data.sound = bs.getD 4 0
  distance : 7 ≤ bs.length → data.distance = UInt16.ofNat (Word.join (bs.getD 5 0) (bs.getD 6 0))
  alarmStatus : 8 ≤ bs.length → data.alarmStatus = bs.getD 7 0

theorem partial_nil (data : SensorNodeData) : Partial data [] := by
  constructor <;> intro h <;> exact absurd h (by simp)

/-- **One more byte** completes at most one field and leaves the others. -/
theorem Partial.read {data : SensorNodeData} {bs : List UInt8} (h : Partial data bs)
    (hlt : bs.length < 8) (b : UInt8) : Partial (assignRead data (bs ++ [b])) (bs ++ [b]) := by
  match bs, hlt with
  | [], _ => exact ⟨by simp, by simp, by simp, by simp, by simp⟩
  | [_], _ => exact ⟨fun _ => rfl, by simp, by simp, by simp, by simp⟩
  | [_, _], _ =>
    exact ⟨fun _ => h.temperature (Nat.le_refl 2), by simp, by simp, by simp, by simp⟩
  | [_, _, _], _ =>
    exact ⟨fun _ => h.temperature (Nat.le_add_left 2 1), fun _ => rfl, by simp, by simp, by simp⟩
  | [_, _, _, _], _ =>
    exact ⟨fun _ => h.temperature (Nat.le_add_left 2 2), fun _ => h.humidity (Nat.le_refl 4),
      fun _ => rfl, by simp, by simp⟩
  | [_, _, _, _, _], _ =>
    exact ⟨fun _ => h.temperature (Nat.le_add_left 2 3), fun _ => h.humidity (Nat.le_add_left 4 1),
      fun _ => h.sound (Nat.le_refl 5), by simp, by simp⟩
  | [_, _, _, _, _, _], _ =>
    exact ⟨fun _ => h.temperature (Nat.le_add_left 2 4), fun _ => h.humidity (Nat.le_add_left 4 2),
      fun _ => h.sound (Nat.le_add_left 5 1), fun _ => rfl, by simp⟩
  | [_, _, _, _, _, _, _], _ =>
    exact ⟨fun _ => h.temperature (Nat.le_add_left 2 5), fun _ => h.humidity (Nat.le_add_left 4 3),
      fun _ => h.sound (Nat.le_add_left 5 2), fun _ => h.distance (Nat.le_refl 7), fun _ => rfl⟩

/-- What a fetch in progress has read: the first bytes of `ready_buf` behind the start marker. -/
structure Reading (data : SensorNodeData) (bs : List UInt8) : Prop where
  length_lt : bs.length < 8
  bytes : bs = (data.readyBuf.toList.drop 1).take bs.length
  assigned : Partial data bs

theorem reading_start (data : SensorNodeData) : Reading data [] :=
  ⟨by decide, rfl, partial_nil data⟩

/-- **The invariant**, with the frames `C` completed and the fields `R` reported so far: the
    mailbox has had `C` posted and the frames of `R` fetched; a fetch in progress has taken one
    more, the one in `ready_buf`, and reads it. -/
structure PreemptInv (C : List DataFrame) (R : List Fields) (s : FetchState) : Prop where
  sem : SemOk s.data
  idx : s.data.rxIdx.toNat < 10
  idle : s.reading = none → ∃ F, (box s.data).History C F ∧ R = F.map frameFields
  busy : ∀ bs, s.reading = some bs → Reading s.data bs ∧
    ∃ F, (box s.data).History C (F ++ [s.data.readyBuf]) ∧ R = F.map frameFields

theorem preemptInv_initial (dev : Device) : PreemptInv [] [] (.initial dev) where
  sem := semOk_initial dev
  idx := (by decide : (0 : UInt8).toNat < 10)
  idle _ := ⟨[], ⟨List.Sublist.refl [], fun h => by cases h⟩, rfl⟩
  busy bs h := by cases h

/-- The reported frames are a subsequence of the completed ones, in every state. -/
theorem PreemptInv.sublist {C : List DataFrame} {R : List Fields} {s : FetchState}
    (h : PreemptInv C R s) : R.Sublist (C.map frameFields) := by
  cases hr : s.reading with
  | none =>
    obtain ⟨F, hF, rfl⟩ := h.idle hr
    exact hF.sublist.map frameFields
  | some bs =>
    obtain ⟨-, F, hF, rfl⟩ := h.busy bs hr
    exact ((List.sublist_append_left F _).trans hF.sublist).map frameFields

/-- **The interrupt routine** posts what it completes; in the middle of a fetch it must not. -/
theorem PreemptInv.isr {C : List DataFrame} {R : List Fields} {s : FetchState}
    (h : PreemptInv C R s) {reads : List (Option UInt8)} (hq : Quiet s (.isr reads))
    {data' : SensorNodeData} {out : List DataFrame}
    (hs : sensorNodeUartIsr s.data reads = some (data', out)) :
    PreemptInv (C ++ out) R { s with data := data' } := by
  have hasm : Assembling s.data (pending s.data) := ⟨h.idx, rfl⟩
  obtain ⟨d, o, h1, h2, h3⟩ := isr_run hasm reads
  rw [hs] at h1
  cases h1
  have hpub := isr_published hs
  obtain ⟨h4, h5⟩ := box_published h.sem hpub
  refine ⟨h4, h2.1, fun hr => ?_, fun bs hr => ?_⟩
  · obtain ⟨F, hF, hR⟩ := h.idle hr
    exact ⟨F, by rw [h5]; exact hF.posts out, hR⟩
  · -- nothing is completed: `ready_buf` and the fields are as they were
    obtain ⟨hread, F, hF, hR⟩ := h.busy bs hr
    rcases hq with hn | hquiet
    · rw [hn] at hr
      cases hr
    · rw [hquiet] at h3
      obtain rfl := List.map_eq_nil_iff.mp h3
      have hbuf : data'.readyBuf = s.data.readyBuf := congrArg Box.newest h5
      unfold Published at hpub
      refine ⟨⟨hread.length_lt, ?_, ?_⟩, F, ?_, hR⟩
      · show bs = (data'.readyBuf.toList.drop 1).take bs.length
        rw [hbuf]
        exact hread.bytes
      · rw [hpub]
        exact { hread.assigned with }
      · show (box data').History (C ++ []) (F ++ [data'.readyBuf])
        rw [h5, hbuf, List.append_nil]
        exact hF

/-- Taking the semaphore is fetching from the mailbox. -/
theorem box_take {data : SensorNodeData} (h : SemOk data) {sem : KSem}
    (ht : data.frameSem.take = some sem) :
    (box data).unread = true ∧ SemOk { data with frameSem := sem } ∧
      box { data with frameSem := sem } = (box data).fetch.1 := by
  have h1 := h.limit_eq
  have h2 := h.count_le
  unfold KSem.take at ht
  split at ht
  · rename_i hpos
    cases ht
    have hun : (box data).unread = true := decide_eq_true hpos
    have h0 : data.frameSem.count - 1 = 0 := by omega
    refine ⟨hun, ⟨h1, ?_⟩, ?_⟩
    · show data.frameSem.count - 1 ≤ 1
      omega
    · simp [Box.fetch, hun]
      simp [box, h0]
  · cases ht

/-- **The take** fetches the frame in `ready_buf`. -/
theorem PreemptInv.take {C : List DataFrame} {R : List Fields} {s : FetchState}
    (h : PreemptInv C R s) (hr : s.reading = none) {sem : KSem}
    (ht : s.data.frameSem.take = some sem) :
    PreemptInv C R { data := { s.data with frameSem := sem }, reading := some [] } := by
  obtain ⟨hun, hsem, hbox⟩ := box_take h.sem ht
  obtain ⟨F, hF, hR⟩ := h.idle hr
  have hfetch := hF.fetch
  refine ⟨hsem, h.idx, fun hn => (by cases hn), fun bs hb => ?_⟩
  cases hb
  refine ⟨reading_start _, F, ?_, hR⟩
  rw [hbox]
  simp only [Box.fetch, hun, if_true] at hfetch ⊢
  exact hfetch

/-- A read changes parsed fields only: neither the mailbox nor the receiver. -/
theorem assignRead_frame (data : SensorNodeData) (bs : List UInt8) :
    assignRead data bs = data.withFields (assignRead data bs).fields := by
  unfold assignRead
  split <;> rfl

/-- One more byte of `ready_buf`. -/
theorem take_concat {f : DataFrame} {bs : List UInt8} {b : UInt8}
    (h : bs = (f.toList.drop 1).take bs.length) (hb : f[bs.length + 1]? = some b) :
    bs ++ [b] = (f.toList.drop 1).take (bs ++ [b]).length := by
  have hget : (f.toList.drop 1)[bs.length]? = some b := by
    rw [List.getElem?_drop, Nat.add_comm]
    simpa using hb
  rw [List.length_append, List.length_singleton, List.take_add_one, ← h, hget]
  rfl

/-- **With all eight bytes read the fields are the frame's.** -/
theorem fields_of_bytes {data : SensorNodeData} {f : DataFrame} {bs : List UInt8}
    (hlen : bs.length = 8) (h : bs = (f.toList.drop 1).take bs.length) (hp : Partial data bs) :
    data.fields = frameFields f := by
  obtain ⟨h1, h2, h3, h4, h5⟩ := hp
  rw [hlen] at h h1 h2 h3 h4 h5
  have hget : ∀ k, k < 8 → bs.getD k 0 = f.toList.getD (k + 1) 0 := by
    intro k hk
    rw [h, List.getD_eq_getElem?_getD, List.getD_eq_getElem?_getD, List.getElem?_take, if_pos hk,
      List.getElem?_drop, Nat.add_comm]
  unfold SensorNodeData.fields frameFields
  rw [h1 (by decide), h2 (by decide), h3 (by decide), h4 (by decide), h5 (by decide),
    hget 0 (by decide), hget 1 (by decide), hget 2 (by decide), hget 3 (by decide),
    hget 4 (by decide), hget 5 (by decide), hget 6 (by decide), hget 7 (by decide)]
  simp

/-- **A read** takes the next byte of `ready_buf` and changes parsed fields only. The eighth ends
    the fetch with the fields of that frame, any other leaves it reading. -/
theorem read_step {data : SensorNodeData} {bs : List UInt8} (h : Reading data bs) :
    (bs.length + 1 = 8 ∧ preemptStep { data := data, reading := some bs } .read =
        some ({ data := data.withFields (frameFields data.readyBuf), reading := none },
          [.reported (frameFields data.readyBuf)])) ∨
      ∃ v b, bs.length + 1 < 8 ∧ Reading (data.withFields v) (bs ++ [b]) ∧
        preemptStep { data := data, reading := some bs } .read =
          some ({ data := data.withFields v, reading := some (bs ++ [b]) }, []) := by
  have hlt := h.length_lt
  obtain ⟨b, hb⟩ : ∃ b, data.readyBuf[bs.length + 1]? = some b :=
    ⟨_, Vector.getElem?_eq_getElem (by omega)⟩
  have hlen : (bs ++ [b]).length = bs.length + 1 := by simp
  have hbytes := take_concat h.bytes hb
  have hpart := h.assigned.read hlt b
  have hframe := assignRead_frame data (bs ++ [b])
  by_cases h8 : bs.length + 1 = 8
  · refine Or.inl ⟨h8, ?_⟩
    have hfields := fields_of_bytes (hlen.trans h8) hbytes hpart
    rw [hfields] at hframe
    simp only [preemptStep, hb, Option.bind_eq_bind, Option.bind_some, hlen, if_pos h8, hframe]
    rfl
  · rw [hframe] at hpart
    refine Or.inr ⟨_, b, by omega, ⟨by omega, hbytes, hpart⟩, ?_⟩
    rw [← hframe]
    simp only [preemptStep, hb, Option.bind_eq_bind, Option.bind_some, hlen, if_neg h8]

theorem PreemptInv.read {C : List DataFrame} {R : List Fields} {s s' : FetchState}
    {obs : List FetchObs} (h : PreemptInv C R s) (hs : preemptStep s .read = some (s', obs)) :
    completions obs = [] ∧ PreemptInv C (R ++ reports obs) s' := by
  obtain ⟨data, reading⟩ := s
  cases reading with
  | none => cases hs
  | some bs =>
    obtain ⟨hread, F, hF, hR⟩ := h.busy bs rfl
    have hsem : ∀ v, SemOk (data.withFields v) := fun _ => ⟨h.sem.limit_eq, h.sem.count_le⟩
    rcases read_step hread with ⟨-, e⟩ | ⟨v, b, -, hnext, e⟩
    · rw [e] at hs
      cases hs
      refine ⟨rfl, hsem _, h.idx, fun _ => ⟨F ++ [data.readyBuf], hF, ?_⟩,
        fun _ hn => (by cases hn)⟩
      rw [List.map_append, ← hR]
      rfl
    · rw [e] at hs
      cases hs
      refine ⟨rfl, hsem v, h.idx, fun hn => (by cases hn), fun bs' hb => ?_⟩
      cases hb
      exact ⟨hnext, F, hF, by simpa [reports] using hR⟩

/-! ## 4. Runs -/

/-- **One step** of a run that meets the condition keeps the invariant. -/
theorem PreemptInv.step {C : List DataFrame} {R : List Fields} {s s' : FetchState}
    {ev : FetchEvent} {obs : List FetchObs} (h : PreemptInv C R s) (hq : Quiet s ev)
    (hs : preemptStep s ev = some (s', obs)) :
    PreemptInv (C ++ completions obs) (R ++ reports obs) s' := by
  cases ev with
  | isr reads =>
    obtain ⟨⟨data', out⟩, h1, e⟩ := Option.map_eq_some_iff.mp hs
    cases e
    obtain ⟨hc, hr⟩ := completions_isr out
    rw [hc, hr, List.append_nil]
    exact h.isr hq h1
  | take =>
    cases hr : s.reading with
    | some bs => simp [preemptStep, hr] at hs
    | none =>
      cases ht : s.data.frameSem.take with
      | none =>
        simp only [preemptStep, hr, ht] at hs
        cases hs
        simpa [completions, reports] using h
      | some sem =>
        simp only [preemptStep, hr, ht] at hs
        cases hs
        simpa [completions, reports] using h.take hr ht
  | read =>
    obtain ⟨hc, hinv⟩ := h.read hs
    rw [hc, List.append_nil]
    exact hinv

theorem preempt_run {C : List DataFrame} {R : List Fields} {s s' : FetchState}
    {evs : List FetchEvent} {obs : List FetchObs} (h : PreemptInv C R s) (hq : QuietRun s evs)
    (hrun : run preemptStep s evs = some (s', obs)) :
    PreemptInv (C ++ completions obs) (R ++ reports obs) s' := by
  induction evs generalizing C R s obs with
  | nil =>
    cases hrun
    simpa [completions, reports] using h
  | cons ev evs ih =>
    obtain ⟨s₁, o₁, o₂, h1, h2, rfl⟩ := run_cons.mp hrun
    obtain ⟨hq1, hq2⟩ := hq
    rw [h1] at hq2
    have := ih (h.step hq1 h1) hq2 h2
    rw [completions_append, reports_append, ← List.append_assoc, ← List.append_assoc]
    exact this

/-- **A fetch is consistent where no frame completes under it.** From the driver's start, in every
    run in which the bytes that arrive while a fetch is reading complete no frame: the reported
    fields are those of a subsequence of the completed frames, so each fetch reports one single
    frame, each frame is reported at most once, and in order. -/
theorem preempt_consistent (dev : Device) (evs : List FetchEvent) (s' : FetchState)
    (obs : List FetchObs) (hrun : run preemptStep (.initial dev) evs = some (s', obs))
    (hquiet : QuietRun (.initial dev) evs) :
    (reports obs).Sublist ((completions obs).map frameFields) := by
  have h := preempt_run (preemptInv_initial dev) hquiet hrun
  rw [List.nil_append, List.nil_append] at h
  exact h.sublist

/-- Two frames. -/
def frameA : List UInt8 := [0xAA, 9, 46, 21, 124, 5, 0, 42, 0, 0x55]
def frameB : List UInt8 := [0xAA, 8, 0, 20, 0, 7, 1, 1, 4, 0x55]

/-- The first bytes of the second frame arrive while the fetch is reading, the last behind it. -/
theorem preempt_consistent_late :
    ∃ s' obs, run preemptStep (.initial ⟨0⟩)
        [.take, .isr (frameA.map some), .take, .read, .read, .isr ((frameB.take 6).map some), .read,
          .read, .read, .read, .read, .read, .isr ((frameB.drop 6).map some)] = some (s', obs) ∧
      (reports obs).Sublist ((completions obs).map frameFields) := by
  obtain ⟨s', obs, h⟩ : ∃ s' obs, run preemptStep (.initial ⟨0⟩)
      [.take, .isr (frameA.map some), .take, .read, .read, .isr ((frameB.take 6).map some), .read,
        .read, .read, .read, .read, .read, .isr ((frameB.drop 6).map some)] = some (s', obs) :=
    ⟨_, _, rfl⟩
  exact ⟨s', obs, h, preempt_consistent ⟨0⟩ _ s' obs h (by decide)⟩

/-- **A torn fetch**: the second frame completes behind the second read, and the fetch reports the
    temperature of the first with the rest of the second. -/
theorem preempt_torn :
    ∃ s' obs, run preemptStep (.initial ⟨0⟩)
        [.isr (frameA.map some), .take, .read, .read, .isr (frameB.map some), .read, .read, .read,
          .read, .read, .read] = some (s', obs) ∧
      ¬ (reports obs).Sublist ((completions obs).map frameFields) :=
  ⟨_, _, rfl, by decide⟩

/-! ## 5. Without interruption -/

/-- The rest of the reads, one after the other. -/
theorem run_reads {data : SensorNodeData} {bs : List UInt8} (h : Reading data bs) {n : Nat}
    (hn : bs.length + n + 1 = 8) :
    run preemptStep { data := data, reading := some bs } (List.replicate (n + 1) .read) =
      some ({ data := data.withFields (frameFields data.readyBuf), reading := none },
        [.reported (frameFields data.readyBuf)]) := by
  induction n generalizing data bs with
  | zero =>
    rw [List.replicate_one, run_singleton]
    rcases read_step h with ⟨-, e⟩ | ⟨-, -, hlt, -⟩
    · exact e
    · omega
  | succ n ih =>
    rw [List.replicate_succ]
    rcases read_step h with ⟨h8, -⟩ | ⟨v, b, -, hnext, e⟩
    · omega
    · have hrest := ih hnext (by simp; omega)
      exact run_cons.mpr ⟨_, [], _, e, hrest, rfl⟩

/-- **Without interruption** the nine steps of a fetch are `sensor_node_sample_fetch`. -/
theorem preempt_atomic {data : SensorNodeData} (h : (box data).unread = true)
    (chan : SensorChannel) :
    run preemptStep { data := data, reading := none } (.take :: List.replicate 8 .read) =
      some ({ data := (sensorNodeSampleFetch data chan).2, reading := none },
        [.reported (sensorNodeSampleFetch data chan).2.fields]) := by
  have h0 : 0 < data.frameSem.count := of_decide_eq_true h
  have ht : data.frameSem.take = some { data.frameSem with count := data.frameSem.count - 1 } :=
    if_pos h0
  rw [sampleFetch_unread h]
  refine run_cons.mpr ⟨_, [], _, ?_, run_reads (reading_start _) rfl, rfl⟩
  simp only [preemptStep, ht]

/-! ## 6. A read, whatever interrupted the fetch before it -/

/-- **What a read does**: it changes parsed fields only, and the eighth ends the fetch with the
    alarm byte of the frame that is in `ready_buf` then. -/
structure ReadEffect (s s' : FetchState) (obs : List FetchObs) : Prop where
  data : s'.data = s.data.withFields s'.data.fields
  outcome :
    (∃ bs b, s.reading = some bs ∧ bs.length + 1 ≠ 8 ∧ s'.reading = some (bs ++ [b]) ∧
      obs = []) ∨
    (∃ bs, s.reading = some bs ∧ bs.length + 1 = 8 ∧ s'.reading = none ∧
      obs = [.reported s'.data.fields] ∧
      s'.data.alarmStatus = (frameFields s.data.readyBuf).alarmStatus)

theorem read_effect {s s' : FetchState} {obs : List FetchObs}
    (h : preemptStep s .read = some (s', obs)) : ReadEffect s s' obs := by
  obtain ⟨data, reading⟩ := s
  rcases reading with _ | bs
  · cases h
  · simp only [preemptStep, Option.bind_eq_bind, Option.bind_eq_some_iff] at h
    obtain ⟨b, hb, e⟩ := h
    have hframe := assignRead_frame data (bs ++ [b])
    by_cases h8 : (bs ++ [b]).length = 8
    · rw [if_pos h8] at e
      cases e
      rw [List.length_append, List.length_singleton] at h8
      refine ⟨hframe, Or.inr ⟨bs, rfl, h8, rfl, rfl, ?_⟩⟩
      rw [h8] at hb
      have hlast : data.readyBuf[8] = b := by simpa using hb
      match bs, h8 with
      | [_, _, _, _, _, _, _], _ => exact hlast.symm
    · rw [if_neg h8] at e
      cases e
      rw [List.length_append, List.length_singleton] at h8
      exact ⟨hframe, Or.inl ⟨bs, b, rfl, h8, rfl, rfl⟩⟩

/-- **A fetch in progress can always go on**: the reads that are left end it. -/
theorem finish_reads {n : Nat} : ∀ (data : SensorNodeData) (bs : List UInt8),
    bs.length + n + 1 = 8 →
    ∃ v, run preemptStep ⟨data, some bs⟩ (List.replicate (n + 1) .read) =
      some (⟨data.withFields v, none⟩, [.reported v]) ∧
      v.alarmStatus = (frameFields data.readyBuf).alarmStatus := by
  have hstep : ∀ (data : SensorNodeData) (bs : List UInt8), bs.length < 8 →
      ∃ s' obs, preemptStep ⟨data, some bs⟩ .read = some (s', obs) := by
    intro data bs hlt
    obtain ⟨b, hb⟩ : ∃ b, data.readyBuf[bs.length + 1]? = some b :=
      ⟨_, Vector.getElem?_eq_getElem (by omega)⟩
    simp only [preemptStep, hb, Option.bind_eq_bind, Option.bind_some]
    split
    · exact ⟨_, _, rfl⟩
    · exact ⟨_, _, rfl⟩
  induction n with
  | zero =>
    intro data bs hn
    obtain ⟨⟨data', reading'⟩, obs, h⟩ := hstep data bs (by omega)
    obtain ⟨hdata, hout⟩ := read_effect h
    rcases hout with ⟨bs', b, hbs, hne, -, -⟩ | ⟨bs', hbs, -, hnone, rfl, halarm⟩
    · cases hbs
      omega
    · obtain rfl : reading' = none := hnone
      refine ⟨data'.fields, ?_, halarm⟩
      rw [List.replicate_one, run_singleton, h]
      exact congrArg (fun d => some (FetchState.mk d none, [FetchObs.reported data'.fields])) hdata
  | succ n ih =>
    intro data bs hn
    obtain ⟨⟨data', reading'⟩, obs, h⟩ := hstep data bs (by omega)
    obtain ⟨hdata, hout⟩ := read_effect h
    rcases hout with ⟨bs', b, hbs, -, hsome, rfl⟩ | ⟨bs', hbs, h8, -, -, -⟩
    · cases hbs
      obtain rfl : reading' = some (bs ++ [b]) := hsome
      obtain ⟨v, hrun, halarm⟩ := ih data' (bs ++ [b]) (by simp; omega)
      have hdata' : data' = data.withFields data'.fields := hdata
      refine ⟨v, ?_, ?_⟩
      · rw [List.replicate_succ]
        rw [hdata'] at hrun h
        exact run_cons.mpr ⟨_, [], _, h, hrun, rfl⟩
      · rw [halarm, hdata']
        rfl
    · cases hbs
      omega

end HomeAlert.Base
