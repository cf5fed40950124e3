/-
  File:      HomeAlert/Link/DataLink.lean
  Subject:   THE DATA LINK END TO END: what the application of the base node reads is the newest
             frame the sensor node completed.

  The sender packs frames (`Packet.bytes`); the base node's interrupt routine takes the bytes in
  any pieces, and the application calls `sample_fetch` at any moments between them. A run is a
  list of `DriverEvent`s; its log says of every fetch how many bytes had arrived, what it returned
  and the instance data before and after it.

  The invariant (`LinkInv`) ties three layers at byte `n` of the stream: the assembly buffer holds
  what the framing receiver has pending there, the mailbox of ready buffer and semaphore has had
  `n / 10` posts, and the ready buffer is the newest of them.
-/
import HomeAlert.Base.Fetch
import HomeAlert.Library.Resync
import HomeAlert.Node.Transmit

namespace HomeAlert.Link

open Framing Machine Mailbox Base Node

/-! ## 1. Packets as frames of the grammar -/

/-- **Every packet is a well-formed frame** of the data link's grammar, whatever it carries. -/
theorem packet_isFrame (k : Packet) : IsFrame dataGrammar k.bytes.toList where
  length_eq := by simp
  start := by
    rw [k.bytes_toList]
    rfl
  stop := by
    rw [k.bytes_toList]
    rfl

theorem packets_isFrame (ks : List Packet) :
    ∀ f ∈ ks.map (fun k => k.bytes.toList), IsFrame dataGrammar f := by
  intro f hf
  obtain ⟨k, -, rfl⟩ := List.mem_map.mp hf
  exact packet_isFrame k

/-! ## 2. What the application reads -/

/-- `channel_get` reports the packet `k`, channel by channel. -/
structure Reports (data : SensorNodeData) (k : Packet) : Prop where
  temp : ∃ v, sensorNodeChannelGet data .ambientTemp = .ok v ∧ v.IsHundredths k.tempI.toInt
  hum : ∃ v, sensorNodeChannelGet data .humidity = .ok v ∧ v.IsHundredths k.humI.toInt
  sound : ∃ v, sensorNodeChannelGet data .sound = .ok v ∧
    v.val1.toInt = k.sound.toNat >>> 6 ∧ v.val2 = 0
  dist : ∃ v, sensorNodeChannelGet data .distance = .ok v ∧
    v.val1.toInt = k.dist.toNat ∧ v.val2 = 0
  alarm : ∃ v, sensorNodeChannelGet data .alarmStatus = .ok v ∧
    v.val1.toInt = k.alarm.toNat ∧ v.val2 = 0

/-- The ranges of the values a packet is made from: `calc_hum` clamps at `0`, and the ADC has
    twelve bits. -/
structure Measured (k : Packet) : Prop where
  hum_nonneg : 0 ≤ k.humI.toInt
  sound_lt : k.sound.toNat < 4096

theorem soundI_toNat {s : UInt16} (h : s.toNat < 4096) :
    ((s >>> 6).toUInt8.toNat : Int) = s.toNat >>> 6 := by
  have h1 : (s >>> 6).toNat = s.toNat >>> 6 := rfl
  rw [UInt16.toNat_toUInt8, h1, Nat.shiftRight_eq_div_pow]
  omega

/-- The fields that keep their type, parsed back. -/
theorem parse_fields (data : SensorNodeData) (k : Packet) :
    (parseFrame data k.bytes).temperature = k.tempI ∧
      (parseFrame data k.bytes).sound = (k.sound >>> 6).toUInt8 ∧
      (parseFrame data k.bytes).distance = k.dist ∧
      (parseFrame data k.bytes).alarmStatus = k.alarm :=
  ⟨Word.int16_join k.tempI, rfl, Word.uint16_join k.dist, rfl⟩

/-- Humidity is sent as a signed word and parsed as an unsigned one. -/
theorem parse_humidity (data : SensorNodeData) {k : Packet} (h : 0 ≤ k.humI.toInt) :
    ((parseFrame data k.bytes).humidity.toNat : Int) = k.humI.toInt :=
  Word.uint16_join_of_nonneg h (by have := k.humI.toInt_lt; omega)

/-- **Parsing a packet's bytes gives the packet back.** -/
theorem parse_packet (data : SensorNodeData) {k : Packet} (h : Measured k) :
    Reports (parseFrame data k.bytes) k := by
  obtain ⟨htemp, -, hdist, -⟩ := parse_fields data k
  have hhum := parse_humidity data h.hum_nonneg
  refine ⟨?_, ?_, ⟨_, rfl, ?_, rfl⟩, ⟨_, rfl, ?_, rfl⟩, ⟨_, rfl, ?_, rfl⟩⟩
  · obtain ⟨v, h1, h2, h3⟩ := channelGet_temp (parseFrame data k.bytes)
    rw [htemp] at h2 h3
    exact ⟨v, h1, isHundredths_of_split h2 h3⟩
  · obtain ⟨v, h1, h2, h3⟩ := channelGet_hum (parseFrame data k.bytes)
    rw [hhum] at h2 h3
    exact ⟨v, h1, isHundredths_of_split h2 h3⟩
  · have hs := soundI_toNat h.sound_lt
    have hlt := (k.sound >>> 6).toUInt8.toNat_lt
    rw [← hs]
    exact int32_toInt (n := (k.sound >>> 6).toUInt8.toNat) (by omega) (by omega)
  · have hlt := k.dist.toNat_lt
    rw [hdist]
    exact int32_toInt (n := k.dist.toNat) (by omega) (by omega)
  · have hlt := k.alarm.toNat_lt
    exact int32_toInt (n := k.alarm.toNat) (by omega) (by omega)

/-! ## 3. Runs of the base node -/

/-- What happens at the base node: an invocation of the interrupt routine, or a fetch. -/
inductive DriverEvent where
  | isr (reads : List (Option UInt8))
  | fetch (chan : SensorChannel)
  deriving DecidableEq, Repr

/-- One fetch: the bytes received before it, its result, and the instance data around it. -/
structure FetchRecord where
  received : Nat
  ret : Except Errno Unit
  before : SensorNodeData
  after : SensorNodeData

/-- One event, on the instance data and the number of bytes received so far. -/
def driverStep (s : SensorNodeData × Nat) :
    DriverEvent → Option ((SensorNodeData × Nat) × List FetchRecord)
  | .isr reads =>
      (sensorNodeUartIsr s.1 reads).map fun r => ((r.1, s.2 + (fifoBytes reads).length), [])
  | .fetch chan =>
      let r := sensorNodeSampleFetch s.1 chan
      some ((r.2, s.2), [{ received := s.2, ret := r.1, before := s.1, after := r.2 }])

/-- The bytes a list of events delivers. -/
def eventBytes : List DriverEvent → List UInt8
  | [] => []
  | .isr reads :: evs => fifoBytes reads ++ eventBytes evs
  | .fetch _ :: evs => eventBytes evs

/-- Frames completed after `n` bytes, `c₀` of them (0 or 1) unread before the first. -/
def completed (c₀ n : Nat) : Nat := c₀ + n / 10

/-- Frames completed at the last successful fetch of a log (`t` where there was none). -/
def fetchedBy (c₀ : Nat) (t : Nat) (log : List FetchRecord) : Nat :=
  log.foldl (fun t r => if r.ret.isOk then completed c₀ r.received else t) t

/-- The newest completed block after `n` bytes. -/
def newestBlock (first : DataFrame) (ks : List Packet) (n : Nat) : DataFrame :=
  ((ks.take (n / 10)).map Packet.bytes).getLast?.getD first

/-! ## 4. The invariant -/

/-- The driver at byte `n` of the stream of `ks`, `t` frames having been fetched; before the first
    byte `first` was in the ready buffer, unread iff `c₀ = 1`. -/
structure LinkInv (first : DataFrame) (c₀ : Nat) (ks : List Packet) (n t : Nat)
    (data : SensorNodeData) : Prop where
  asm : Assembling data (receive dataGrammar [] ((stream ks).take n)).1
  sem : SemOk data
  counts : (box data).Counts (completed c₀ n) t
  newest : data.readyBuf = newestBlock first ks n

theorem stream_length (ks : List Packet) : (stream ks).length = 10 * ks.length := by
  have h := flatten_length (packets_isFrame ks)
  rwa [List.length_map] at h

theorem stream_prefix (ks : List Packet) {l : List UInt8} (h : l <+: stream ks) :
    (receive dataGrammar [] l).2 = (ks.take (l.length / 10)).map fun k => k.bytes.toList := by
  rw [receive_cut (packets_isFrame ks) h, List.map_take]
  rfl

/-- The blocks completed between two cuts of the stream are the packets between them. -/
theorem stream_between {ks : List Packet} {n : Nat} (hn : n ≤ (stream ks).length) {b : List UInt8}
    (hb : (stream ks).take n ++ b <+: stream ks) {out : List DataFrame}
    (ho : out.map Vector.toList =
      (receive dataGrammar (receive dataGrammar [] ((stream ks).take n)).1 b).2) :
    (ks.take (n / 10)).map Packet.bytes ++ out =
      (ks.take ((n + b.length) / 10)).map Packet.bytes := by
  have hlen : ((stream ks).take n).length = n := by simp [hn]
  have e1 := stream_prefix ks hb
  have e2 := stream_prefix ks (List.take_prefix n (stream ks))
  rw [receive_append, ← ho, e2, hlen, List.length_append, hlen] at e1
  have hinj : Function.Injective (List.map (Vector.toList (α := UInt8) (n := 10))) :=
    List.map_injective_iff.mpr fun _ _ hab => Vector.toList_inj.mp hab
  refine hinj ?_
  simpa [Function.comp_def] using e1

/-- **The interrupt routine keeps the invariant**: it moves along the stream. -/
theorem linkInv_isr {first : DataFrame} {c₀ n t : Nat} {ks : List Packet} {data : SensorNodeData}
    (h : LinkInv first c₀ ks n t data) {reads : List (Option UInt8)}
    (hb : (stream ks).take n ++ fifoBytes reads <+: stream ks) (hn : n ≤ (stream ks).length) :
    ∃ data' out, sensorNodeUartIsr data reads = some (data', out) ∧
      LinkInv first c₀ ks (n + (fifoBytes reads).length) t data' := by
  obtain ⟨data', out, h1, h2, h3⟩ := isr_run h.asm reads
  obtain ⟨h4, h5⟩ := box_published h.sem (isr_published h1)
  have hlen : ((stream ks).take n).length = n := by simp [hn]
  have htake : (stream ks).take (n + (fifoBytes reads).length) =
      (stream ks).take n ++ fifoBytes reads := by
    have := List.prefix_iff_eq_take.mp hb
    rw [List.length_append, hlen] at this
    exact this.symm
  have hall := stream_between hn hb h3
  have hcount : completed c₀ (n + (fifoBytes reads).length) = completed c₀ n + out.length := by
    have e := congrArg List.length hall
    have hle := hb.length_le
    rw [List.length_append, hlen] at hle
    rw [stream_length] at hle hn
    simp only [List.length_append, List.length_map, List.length_take] at e
    unfold completed
    omega
  refine ⟨data', out, h1, ?_, h4, ?_, ?_⟩
  · rw [htake, receive_append]
    exact h2
  · rw [h5, hcount]
    exact h.counts.posts out
  · have e : data'.readyBuf = out.getLast?.getD data.readyBuf := by
      have := congrArg Box.newest h5
      rwa [posts_eq] at this
    rw [e, h.newest, newestBlock, newestBlock, ← hall, List.getLast?_append]
    cases out.getLast? <;> rfl

/-! ## 5. Fetches -/

/-- What a fetch does when `t` frames were completed at the last successful one. -/
structure RecordOk (first : DataFrame) (c₀ : Nat) (ks : List Packet) (t : Nat) (r : FetchRecord) :
    Prop where
  ok_iff : r.ret.isOk = true ↔ t < completed c₀ r.received
  received_le : r.received ≤ (stream ks).length
  fresh : r.ret.isOk = true →
    ∃ d, r.after = parseFrame d (newestBlock first ks r.received)
  stale : r.ret.isOk = false → r.ret = .error .eagain ∧ r.after = r.before

/-- **A fetch keeps the invariant** and does what its record promises. -/
theorem linkInv_fetch {first : DataFrame} {c₀ n t : Nat} {ks : List Packet} {data : SensorNodeData}
    (h : LinkInv first c₀ ks n t data) (hn : n ≤ (stream ks).length) (chan : SensorChannel) :
    let r := sensorNodeSampleFetch data chan
    LinkInv first c₀ ks n (if r.1.isOk then completed c₀ n else t) r.2 ∧
      RecordOk first c₀ ks t { received := n, ret := r.1, before := data, after := r.2 } := by
  obtain ⟨h1, h2, h3, h4⟩ := box_sampleFetch h.sem chan
  have hcounts := h.counts.fetch
  have hasm : Assembling (sensorNodeSampleFetch data chan).2
      (receive dataGrammar [] ((stream ks).take n)).1 := by
    unfold Assembling pending
    rw [h3, h4]
    exact h.asm
  rw [← h2] at hcounts
  cases hu : (box data).unread with
  | false =>
    have hnt : ¬ t < completed c₀ n := fun hlt => by
      rw [h.counts.2.mpr hlt] at hu
      cases hu
    rw [sampleFetch_read hu] at hasm h1 hcounts ⊢
    rw [hu] at hcounts
    refine ⟨⟨hasm, h1, hcounts, h.newest⟩, ⟨?_, hn, fun hc => ?_, fun _ => ⟨rfl, rfl⟩⟩⟩
    · simpa [Except.isOk, Except.toBool] using hnt
    · cases hc
  | true =>
    have hlt : t < completed c₀ n := h.counts.2.mp hu
    rw [sampleFetch_unread hu] at hasm h1 hcounts ⊢
    rw [hu] at hcounts
    refine ⟨⟨hasm, h1, hcounts, h.newest⟩, ⟨?_, hn, fun _ => ?_, fun hc => ?_⟩⟩
    · simpa [Except.isOk, Except.toBool] using hlt
    · exact ⟨_, congrArg (parseFrame _) h.newest⟩
    · cases hc

/-! ## 6. Runs -/

/-- Every record of a log is right, given the frames fetched before it. -/
def LogOk (first : DataFrame) (c₀ : Nat) (ks : List Packet) : Nat → List FetchRecord → Prop
  | _, [] => True
  | t, r :: log => RecordOk first c₀ ks t r ∧
      LogOk first c₀ ks (if r.ret.isOk then completed c₀ r.received else t) log

/-- **The run lemma**: from the invariant at byte `n`, every run along the stream is defined and
    its log is right. -/
theorem driver_run {first : DataFrame} {c₀ : Nat} {ks : List Packet} (evs : List DriverEvent) :
    ∀ {n t : Nat} {data : SensorNodeData}, LinkInv first c₀ ks n t data →
      n ≤ (stream ks).length → (stream ks).take n ++ eventBytes evs <+: stream ks →
      ∃ data' log,
        run driverStep (data, n) evs = some ((data', n + (eventBytes evs).length), log) ∧
        LogOk first c₀ ks t log := by
  induction evs with
  | nil => exact fun {n t data} _ _ _ => ⟨data, [], rfl, trivial⟩
  | cons ev evs ih =>
    intro n t data h hn hb
    cases ev with
    | isr reads =>
      rw [eventBytes, ← List.append_assoc] at hb
      have hb1 := (List.prefix_append _ (eventBytes evs)).trans hb
      obtain ⟨data₁, out, h1, h2⟩ := linkInv_isr h hb1 hn
      have hle := hb1.length_le
      have hlen : ((stream ks).take n).length = n := by simp [hn]
      have htake := List.prefix_iff_eq_take.mp hb1
      rw [List.length_append, hlen] at hle htake
      obtain ⟨data', log, h3, h4⟩ := ih h2 hle (by rw [← htake]; exact hb)
      rw [eventBytes, List.length_append, ← Nat.add_assoc]
      refine ⟨data', log, run_cons.mpr ⟨(data₁, _), [], log, ?_, h3, rfl⟩, h4⟩
      simp [driverStep, h1]
    | fetch chan =>
      obtain ⟨h1, h2⟩ := linkInv_fetch h hn chan
      obtain ⟨data', log, h3, h4⟩ := ih h1 hn hb
      exact ⟨data', _ :: log, run_cons.mpr ⟨_, [_], log, rfl, h3, rfl⟩, h2, h4⟩

theorem LogOk.get {first : DataFrame} {c₀ : Nat} {ks : List Packet} {log : List FetchRecord} :
    ∀ {t : Nat}, LogOk first c₀ ks t log → ∀ {j : Nat} {r : FetchRecord}, log[j]? = some r →
      RecordOk first c₀ ks (fetchedBy c₀ t (log.take j)) r := by
  induction log with
  | nil => intro t _ j r hj; simp at hj
  | cons r₀ log ih =>
    intro t h j r hj
    cases j with
    | zero =>
      obtain rfl : r₀ = r := by simpa using hj
      exact h.1
    | succ j => exact ih h.2 (by simpa using hj)

/-- The successful fetches of a right log report later and later frames. -/
theorem LogOk.increasing {first : DataFrame} {c₀ : Nat} {ks : List Packet}
    {log : List FetchRecord} : ∀ {t : Nat}, LogOk first c₀ ks t log →
      (t :: (log.filter (·.ret.isOk)).map fun r => completed c₀ r.received).Pairwise (· < ·) := by
  induction log with
  | nil => intro t _; simp
  | cons r log ih =>
    intro t h
    cases hr : r.ret.isOk with
    | false =>
      have := ih h.2
      rw [hr] at this
      simpa [hr] using this
    | true =>
      have hrec := ih h.2
      have hlt := h.1.ok_iff.mp hr
      rw [hr, if_pos rfl] at hrec
      rw [List.filter_cons_of_pos (by simpa using hr), List.map_cons, List.pairwise_cons]
      refine ⟨fun c hc => ?_, hrec⟩
      rcases List.mem_cons.mp hc with rfl | hc
      · exact hlt
      · exact hlt.trans ((List.pairwise_cons.mp hrec).1 c hc)

/-! ## 7. The data link -/

/-- From byte 10 on the newest block is that of a packet. -/
theorem newestBlock_packet (first : DataFrame) {ks : List Packet} {n : Nat} (h : 10 ≤ n)
    (hn : n ≤ (stream ks).length) :
    ∃ k, ks[n / 10 - 1]? = some k ∧ newestBlock first ks n = k.bytes := by
  rw [stream_length] at hn
  have hlt : n / 10 - 1 < ks.length := by omega
  have h0 : n / 10 ≠ 0 := by omega
  refine ⟨_, List.getElem?_eq_getElem hlt, ?_⟩
  rw [newestBlock, List.getLast?_map, List.getLast?_take, if_neg h0, List.getElem?_eq_getElem hlt]
  rfl

theorem newestBlock_first {first : DataFrame} {ks : List Packet} {n : Nat} (h : n < 10) :
    newestBlock first ks n = first := by
  have h0 : n / 10 = 0 := by omega
  rw [newestBlock, h0]
  rfl

/-- What the channels show depends on the parsed block alone. -/
theorem channelGet_parseFrame (d d' : SensorNodeData) (f : DataFrame) (chan : SensorChannel) :
    sensorNodeChannelGet (parseFrame d f) chan = sensorNodeChannelGet (parseFrame d' f) chan := by
  cases chan <;> rfl

/-- **The data link, end to end.** Packets `ks` are sent without loss to an idle receiver. In
    every run of interrupt invocations and fetches that delivers a part of the stream, cut and
    interleaved in any way, at every fetch:
    it returns 0 iff a frame was completed since the last successful fetch; then the channels
    report exactly the newest completed packet (before the first of `ks` is complete: the block
    that was waiting in the ready buffer at the start); otherwise it returns `-EAGAIN` and every
    channel reports what it reported before. The successful fetches report later and later
    frames, so none twice. -/
theorem dataLink_endToEnd (data : SensorNodeData) (hidle : data.rxIdx = 0) (hsem : SemOk data)
    (ks : List Packet) (hks : ∀ k ∈ ks, Measured k) (evs : List DriverEvent)
    (hevs : eventBytes evs <+: stream ks) :
    ∃ data' log, run driverStep (data, 0) evs = some ((data', (eventBytes evs).length), log) ∧
      (∀ (j : Nat) (r : FetchRecord), log[j]? = some r →
        (r.ret.isOk = true ↔ fetchedBy data.frameSem.count 0 (log.take j) <
          completed data.frameSem.count r.received) ∧
        (r.ret.isOk = true → 10 ≤ r.received →
          ∃ k, ks[r.received / 10 - 1]? = some k ∧ Reports r.after k) ∧
        (r.ret.isOk = true → r.received < 10 → ∀ chan,
          sensorNodeChannelGet r.after chan =
            sensorNodeChannelGet (parseFrame data data.readyBuf) chan) ∧
        (r.ret.isOk = false → r.ret = .error .eagain ∧ ∀ chan,
          sensorNodeChannelGet r.after chan = sensorNodeChannelGet r.before chan)) ∧
      ((log.filter (·.ret.isOk)).map
        fun r => completed data.frameSem.count r.received).Pairwise (· < ·) := by
  have h0 : LinkInv data.readyBuf data.frameSem.count ks 0 0 data := by
    refine ⟨assembling_idle hidle, hsem, ⟨Nat.zero_le _, ?_⟩, rfl⟩
    simp [box, completed]
  obtain ⟨data', log, h1, h2⟩ := driver_run evs h0 (Nat.zero_le _) (by simpa using hevs)
  rw [Nat.zero_add] at h1
  refine ⟨data', log, h1, fun j r hj => ?_, (List.pairwise_cons.mp h2.increasing).2⟩
  obtain ⟨hiff, hle, hfresh, hstale⟩ := h2.get hj
  refine ⟨hiff, fun hok h10 => ?_, fun hok h10 chan => ?_, fun hno => ?_⟩
  · obtain ⟨d, hd⟩ := hfresh hok
    obtain ⟨k, hk, hblk⟩ := newestBlock_packet data.readyBuf h10 hle
    refine ⟨k, hk, ?_⟩
    rw [hd, hblk]
    exact parse_packet d (hks k (List.mem_of_getElem? hk))
  · obtain ⟨d, hd⟩ := hfresh hok
    rw [hd, newestBlock_first h10]
    exact channelGet_parseFrame d data data.readyBuf chan
  · obtain ⟨hret, hafter⟩ := hstale hno
    exact ⟨hret, fun chan => by rw [hafter]⟩

/-- Two packets, the first with marker bytes inside and a negative temperature. -/
def twoPackets : List Packet :=
  [{ tempI := -21931, humI := 5500, sound := 4095, dist := 0x55AA, alarm := 0xAA },
    { tempI := -1, humI := 9999, sound := 2048, dist := 42, alarm := 1 }]

/-- The two packets arrive in three pieces; the first is overwritten before the only fetch. -/
theorem dataLink_endToEnd_overwritten :
    ∃ data' r, run driverStep (.initial ⟨0⟩, 0)
        [.isr (((stream twoPackets).take 4).map some), .isr [none],
          .isr (((stream twoPackets).drop 4).map some), .fetch .ambientTemp] =
          some ((data', 20), [r]) ∧
      r.ret.isOk = true ∧ r.received = 20 ∧
      Reports r.after { tempI := -1, humI := 9999, sound := 2048, dist := 42, alarm := 1 } := by
  obtain ⟨data', log, h1, h2, -⟩ := dataLink_endToEnd (.initial ⟨0⟩) rfl (semOk_initial ⟨0⟩)
    twoPackets (fun k hk => by
      rcases List.mem_cons.mp hk with rfl | hk
      · exact ⟨by decide, by decide⟩
      · rcases List.mem_singleton.mp hk with rfl
        exact ⟨by decide, by decide⟩)
    [.isr (((stream twoPackets).take 4).map some), .isr [none],
      .isr (((stream twoPackets).drop 4).map some), .fetch .ambientTemp] (by decide)
  have hlog : (run driverStep (.initial ⟨0⟩, 0)
      [.isr (((stream twoPackets).take 4).map some), .isr [none],
        .isr (((stream twoPackets).drop 4).map some), .fetch .ambientTemp]).map
      (fun x : (SensorNodeData × Nat) × List FetchRecord =>
        x.2.map fun r => (r.ret.isOk, r.received)) = some [(true, 20)] := by decide +kernel
  rw [h1, Option.map_some, Option.some.injEq] at hlog
  obtain ⟨r, rfl, hr⟩ := List.map_eq_singleton_iff.mp hlog
  obtain ⟨hok, h20⟩ := Prod.mk.inj hr
  refine ⟨data', r, h1, hok, h20, ?_⟩
  obtain ⟨k, hk, hrep⟩ := (h2 0 r rfl).2.1 hok (by omega)
  rw [h20] at hk
  obtain rfl := Option.some.inj hk
  exact hrep

end HomeAlert.Link
