/-
  File:      HomeAlert/Link/Alignment.lean
  Subject:   THE DATA LINK AFTER BYTES WERE LOST: when the receiver finds the frames again, and
             that over frames in their ranges it accepts nothing but frames.

  Frames carry no escapes, so an interrupt routine that was switched on inside a frame may take a
  payload byte `0xAA` for a start marker. Library/Resync.lean says what follows for any framing
  receiver; here it is read off for `sensor_node_uart_isr` and the frames of `send_uart_frame`.

  Blocks are placed by the number of the byte that completed them: the log of a run of the routine
  under the clock lists byte number and block.
-/
import HomeAlert.Link.DataLink

namespace HomeAlert.Link

open Framing Machine Base Node

/-! ## 1. The interrupt routine under the clock -/

/-- The routine works on the bytes it reads; a read without a byte changes nothing. -/
theorem run_isrRead (data : SensorNodeData) (reads : List (Option UInt8)) :
    sensorNodeUartIsr data reads = run isrByte data (fifoBytes reads) := by
  induction reads generalizing data with
  | nil => rfl
  | cons r reads ih =>
    cases r with
    | none =>
      have e : sensorNodeUartIsr data (none :: reads) = sensorNodeUartIsr data reads := by
        show run isrRead data (none :: reads) = run isrRead data reads
        simp [run, isrRead]
      rw [e, ih]
      rfl
    | some b =>
      have ih' : ∀ d, run isrRead d reads = run isrByte d (fifoBytes reads) := ih
      show run isrRead data (some b :: reads) = run isrByte data (b :: fifoBytes reads)
      simp only [run, isrRead, ih']

/-- An entry of a log with its block as a list of bytes. -/
def entryBytes : Nat × DataFrame → Nat × List UInt8 := Prod.map id Vector.toList

theorem entryBytes_injective : Function.Injective entryBytes :=
  Function.Injective.prodMap Function.injective_id fun _ _ h => Vector.toList_inj.mp h

theorem fifoBytes_map_some (bytes : List UInt8) : fifoBytes (bytes.map some) = bytes := by
  rw [fifoBytes_eq_flatMap, List.flatMap_map]
  exact List.flatMap_singleton' bytes

/-- Any sequence of invocations works on the bytes they read, however they are cut. -/
theorem run_invocations (data : SensorNodeData) (invs : List (List (Option UInt8))) :
    run sensorNodeUartIsr data invs = run isrByte data (fifoBytes invs.flatten) := by
  rw [← run_isrRead]
  exact run_run data invs

/-- **The log of a run**: from a receiver with `p` pending, the routine signals the blocks of the
    framing receiver, each at the same byte. -/
theorem isr_timed {data : SensorNodeData} {p : List UInt8} (h : Assembling data p) (n : Nat)
    (bytes : List UInt8) :
    ∃ data' log, run isrByte data bytes = some (data', log.map Prod.snd) ∧
      run (clocked isrByte) (data, n) bytes = some ((data', n + bytes.length), log) ∧
      Assembling data' (receive dataGrammar p bytes).1 ∧
      log.map entryBytes = timed dataGrammar n p bytes := by
  obtain ⟨⟨data', m⟩, log, h1, ⟨h2, -⟩, h3⟩ := run_simulates (clocked isrByte)
    (clock (recv dataGrammar)) (fun s t => Assembling s.1 t.1 ∧ s.2 = t.2) (fun b => [b])
    entryBytes id (s := (data, n)) (t := (p, n)) (by
      rintro ⟨d, m⟩ ⟨q, m'⟩ b ⟨hR, rfl⟩
      obtain ⟨d', out, e1, e2, e3⟩ := isrByte_spec hR b
      refine ⟨(d', m + 1), out.map fun o => (m, o), ?_, ?_, ?_⟩
      · simp [clocked, e1]
      · rw [exec_singleton]
        exact ⟨e2, rfl⟩
      · rw [exec_singleton, List.map_id, clock, ← e3, List.map_map, List.map_map]
        rfl) ⟨h, rfl⟩ bytes
  rw [List.flatMap_singleton', (exec_clock (recv dataGrammar) p n bytes).1] at h2
  rw [List.flatMap_singleton', List.map_id] at h3
  -- the run without the clock is the same run
  obtain ⟨d', out, e1, -, -⟩ := isr_run h (bytes.map some)
  rw [run_isrRead, fifoBytes_map_some] at e1
  obtain ⟨log', e2, e3⟩ := run_clocked isrByte (n := n) e1
  rw [h1] at e2
  cases e2
  exact ⟨data', log, e1.trans (by rw [e3]), h1, h2, h3⟩

/-- The frames of a stream, each with the number of its last byte; the first byte has number `n`. -/
def sentAt : Nat → List Packet → List (Nat × DataFrame)
  | _, [] => []
  | n, k :: ks => (n + 9, k.bytes) :: sentAt (n + 10) ks

theorem sentAt_ends (n : Nat) (ks : List Packet) :
    (sentAt n ks).map (entryBytes) =
      ends dataGrammar n (ks.map fun k => k.bytes.toList) := by
  induction ks generalizing n with
  | nil => rfl
  | cons k ks ih =>
    rw [sentAt, List.map_cons, ih]
    rfl

/-- A log is part of another as soon as its bytes are. -/
theorem log_sublist {a b : List (Nat × DataFrame)}
    (h : (a.map entryBytes).Sublist (b.map entryBytes)) : a.Sublist b := by
  obtain ⟨l, hl, e⟩ := List.sublist_map_iff.mp h
  rw [List.map_injective_iff.mpr entryBytes_injective e]
  exact hl

/-! ## 2. When the frames are found again -/

/-- How many bytes of the packet `k` the routine has pending behind it when it had `n` pending
    before it: from the first `0xAA` among the packet's last `n` bytes on, all of them. -/
def leftOver (n : Nat) (k : Packet) : Nat := carry dataGrammar n k.bytes.toList

theorem foldl_leftOver (n : Nat) (ks : List Packet) :
    ks.foldl leftOver n = (ks.map fun k => k.bytes.toList).foldl (carry dataGrammar) n := by
  rw [List.foldl_map]
  rfl

theorem foldl_leftOver_zero (ks : List Packet) : ks.foldl leftOver 0 = 0 := by
  rw [foldl_leftOver]
  exact foldl_carry_zero dataGrammar _

/-- What a reachable receiver has pending. -/
theorem assembling_reachable {data₀ data : SensorNodeData} (h : data₀.rxIdx = 0)
    {hist : List (List (Option UInt8))} {out : List DataFrame}
    (hr : run sensorNodeUartIsr data₀ hist = some (data, out)) :
    Assembling data (receive dataGrammar [] (fifoBytes hist.flatten)).1 := by
  obtain ⟨d, o, h1, h2, -⟩ := isr_run (assembling_idle h) hist.flatten
  have e : run sensorNodeUartIsr data₀ hist = some (d, o) := (run_run data₀ hist).trans h1
  rw [hr] at e
  cases e
  exact h2

/-- **Delivery**: with `p` pending before the stream, frame `j` is delivered exactly when nothing
    is left over behind the frames before it. -/
theorem timed_stream_iff {ks : List Packet} {p : List UInt8} (hp : p.length < 10) {j : Nat}
    {k : Packet} (hj : ks[j]? = some k) :
    (10 * j + 9, k.bytes.toList) ∈ timed dataGrammar 0 p (stream ks) ↔
      (ks.take j).foldl leftOver p.length = 0 := by
  have h := delivered_iff (packets_isFrame ks) (p := p) hp (j := j) (f := k.bytes.toList)
    (by rw [List.getElem?_map, hj]; rfl) 0
  have e : 0 + dataGrammar.len * j + dataGrammar.len - 1 = 10 * j + 9 := by
    rw [dataGrammar_len]
    omega
  rw [e, ← List.map_take, ← foldl_leftOver] at h
  exact h

/-- Behind a frame without `0xAA` past its start marker nothing is left over, ever. -/
theorem foldl_leftOver_clean {ks : List Packet} {i : Nat} {k : Packet} (hi : ks[i]? = some k)
    (hk : ∀ b ∈ k.bytes.toList.tail, b ≠ sensorNodeFrameStart) {n : Nat} (hn : n < 10) {j : Nat}
    (hij : i < j) : (ks.take j).foldl leftOver n = 0 := by
  rw [foldl_leftOver, List.map_take]
  refine foldl_carry_clean (f := k.bytes.toList) ?_ (packets_isFrame ks) hn (fun b hb => ?_) hij
  · rw [List.getElem?_map, hi]
    rfl
  · simpa [dataGrammar] using hk b hb

/-- **Aligned again**: where nothing is left over behind the first frames, the log goes on with
    exactly the others. -/
theorem timed_stream_aligned {as : List Packet} (bs : List Packet) {p : List UInt8}
    (hp : p.length < 10)
    (h0 : as.foldl leftOver p.length = 0) :
    timed dataGrammar 0 p (stream (as ++ bs)) = timed dataGrammar 0 p (stream as) ++
      (sentAt (10 * as.length) bs).map (entryBytes) := by
  rw [foldl_leftOver] at h0
  have h := timed_aligned (packets_isFrame as) (packets_isFrame bs) (p := p) hp h0 0
  rw [← List.map_append, List.length_map, Nat.zero_add] at h
  rw [sentAt_ends]
  exact h

/-- **Resynchronisation of the data link.** A receiver in any reachable state, behind it three or
    more undamaged frames. Every frame from the third on is delivered exactly when nothing is left
    over behind the first two; then nothing but these frames is signalled from byte 20 on. Behind
    a frame without `0xAA` past its start marker all frames are delivered, wherever it stands. -/
theorem isr_resync (data₀ : SensorNodeData) (hidle : data₀.rxIdx = 0)
    (hist : List (List (Option UInt8))) (data : SensorNodeData) (out₀ : List DataFrame)
    (hreach : run sensorNodeUartIsr data₀ hist = some (data, out₀))
    (k₁ k₂ k₃ : Packet) (ks : List Packet) (invs : List (List (Option UInt8)))
    (hinvs : fifoBytes invs.flatten = stream (k₁ :: k₂ :: k₃ :: ks)) :
    ∃ data' log, run sensorNodeUartIsr data invs = some (data', log.map Prod.snd) ∧
      run (clocked isrByte) (data, 0) (stream (k₁ :: k₂ :: k₃ :: ks)) =
        some ((data', (stream (k₁ :: k₂ :: k₃ :: ks)).length), log) ∧
      ((∀ (j : Nat) (k : Packet), 2 ≤ j → (k₁ :: k₂ :: k₃ :: ks)[j]? = some k →
          (10 * j + 9, k.bytes) ∈ log) ↔
        leftOver (leftOver data.rxIdx.toNat k₁) k₂ = 0) ∧
      (leftOver (leftOver data.rxIdx.toNat k₁) k₂ = 0 →
        ∃ early, log = early ++ sentAt 20 (k₃ :: ks) ∧ ∀ x ∈ early, x.1 < 20) ∧
      ∀ (i : Nat) (k : Packet), (k₁ :: k₂ :: k₃ :: ks)[i]? = some k →
        (∀ b ∈ k.bytes.toList.tail, b ≠ sensorNodeFrameStart) →
        ∀ (j : Nat) (k' : Packet), i < j → (k₁ :: k₂ :: k₃ :: ks)[j]? = some k' →
          (10 * j + 9, k'.bytes) ∈ log := by
  have hasm := assembling_reachable hidle hreach
  have hlen := hasm.length
  have hp := hasm.1
  rw [← hlen] at hp
  obtain ⟨data', log, h1, h2, -, h3⟩ := isr_timed hasm 0 (stream (k₁ :: k₂ :: k₃ :: ks))
  rw [← hinvs, ← run_invocations] at h1
  rw [Nat.zero_add] at h2
  have hmem : ∀ (j : Nat) (k : Packet), (k₁ :: k₂ :: k₃ :: ks)[j]? = some k →
      ((10 * j + 9, k.bytes) ∈ log ↔
        ((k₁ :: k₂ :: k₃ :: ks).take j).foldl leftOver data.rxIdx.toNat = 0) := by
    intro j k hj
    rw [← hlen, ← timed_stream_iff hp hj, ← h3]
    exact (List.mem_map_of_injective entryBytes_injective).symm
  refine ⟨data', log, h1, h2, ⟨fun h => ?_, fun h j k hj hk => ?_⟩, fun h => ?_, ?_⟩
  · exact (hmem 2 k₃ rfl).mp (h 2 k₃ (Nat.le_refl 2) rfl)
  · obtain ⟨j, rfl⟩ : ∃ m, j = m + 2 := ⟨j - 2, by omega⟩
    refine (hmem (j + 2) k hk).mpr ?_
    rw [List.take_succ_cons, List.take_succ_cons, List.foldl_cons, List.foldl_cons, h]
    exact foldl_leftOver_zero _
  · have h0 : [k₁, k₂].foldl leftOver data.rxIdx.toNat = 0 := h
    rw [← hlen] at h0
    have hsplit := timed_stream_aligned (k₃ :: ks) hp h0
    rw [List.cons_append, List.cons_append, List.nil_append, ← h3] at hsplit
    obtain ⟨early, late, rfl, he, hl⟩ := List.map_eq_append_iff.mp hsplit
    refine ⟨early, ?_, fun x hx => ?_⟩
    · rw [List.map_injective_iff.mpr entryBytes_injective hl]
      rfl
    · have hx' : entryBytes x ∈ timed dataGrammar 0 (pending data) (stream [k₁, k₂]) := by
        rw [hasm.2, ← he]
        exact List.mem_map_of_mem hx
      have := (timed_stamp (b := (entryBytes x).2) hx').2
      rw [stream_length] at this
      exact this
  · intro i k hi hclean j k' hij hj
    exact (hmem j k' hj).mpr (foldl_leftOver_clean hi hclean hasm.1 hij)

/-- A packet whose low distance byte is `0xAA`. -/
def aaPacket : Packet := { tempI := 2350, humI := 5500, sound := 1280, dist := 0xAA, alarm := 0 }

/-- **Frames can be missed for as long as they keep their bytes**: three bytes were pending, and
    behind each of three equal frames three bytes are pending again. None is delivered. -/
theorem isr_resync_stuck :
    ∃ data data',
      run sensorNodeUartIsr (.initial ⟨0⟩) [[some 0xAA, some 0, some 0]] = some (data, []) ∧
      run sensorNodeUartIsr data [(stream [aaPacket, aaPacket, aaPacket]).map some] =
        some (data', []) :=
  ⟨_, _, rfl, rfl⟩

/-- A receiver switched on four bytes before the end of a frame, then a frame with `0xAA` in it,
    then three without: the last two are delivered at their places. -/
theorem isr_resync_late :
    ∃ (data data' : SensorNodeData) (log : List (Nat × DataFrame)),
      run sensorNodeUartIsr (.initial ⟨0⟩) [[some 0xAA, some 0, some 0]] = some (data, []) ∧
      run sensorNodeUartIsr data [(stream [aaPacket, { aaPacket with dist := 42 },
        { aaPacket with dist := 43 }, { aaPacket with dist := 44 }]).map some] =
          some (data', log.map Prod.snd) ∧
      (29, { aaPacket with dist := 43 : Packet}.bytes) ∈ log ∧
      (39, { aaPacket with dist := 44 : Packet}.bytes) ∈ log := by
  obtain ⟨data, hreach⟩ : ∃ data, run sensorNodeUartIsr (.initial ⟨0⟩)
      [[some 0xAA, some 0, some 0]] = some (data, []) := ⟨_, rfl⟩
  obtain ⟨data', log, h1, -, -, -, h2⟩ := isr_resync (.initial ⟨0⟩) rfl _ data [] hreach
    aaPacket { aaPacket with dist := 42 } { aaPacket with dist := 43 }
    [{ aaPacket with dist := 44 }] [(stream [aaPacket, { aaPacket with dist := 42 },
      { aaPacket with dist := 43 }, { aaPacket with dist := 44 }]).map some] rfl
  have hclean : ∀ b ∈ ({ aaPacket with dist := 42 } : Packet).bytes.toList.tail,
      b ≠ sensorNodeFrameStart :=
    @of_decide_eq_true _ (List.decidableBAll _ _) rfl
  exact ⟨data, data', log, hreach, h1, h2 1 _ rfl hclean 2 _ (by decide) rfl,
    h2 1 _ rfl hclean 3 _ (by decide) rfl⟩

/-! ## 3. No ghost frames -/

/-- **A packet in its ranges**: humidity as `calc_hum` clamps it, a sound field of six bits, alarm
    bits 0, 1, 2 and 4 only, and no `0x55` as high byte of temperature or distance. -/
structure InRange (k : Packet) : Prop where
  hum_nonneg : 0 ≤ k.humI.toInt
  hum_le : k.humI.toInt ≤ 10000
  sound_le : (k.sound >>> 6).toUInt8 ≤ 63
  alarm_bits : k.alarm &&& 0xE8 = 0
  temp_hi : Word.hi k.tempI.toInt ≠ sensorNodeFrameEnd
  dist_hi : Word.hi k.dist.toNat ≠ sensorNodeFrameEnd

theorem InRange.hum_hi_lt {k : Packet} (h : InRange k) : (Word.hi k.humI.toInt).toNat < 40 := by
  have h1 := h.hum_nonneg
  have h2 := h.hum_le
  have h3 := Word.toNat_ofInt (k.humI.toInt >>> (8 : Nat))
  rw [Word.shiftRight_eight] at h3
  rw [Word.hi, Word.shiftRight_eight]
  omega

theorem InRange.sound_lt {k : Packet} (h : InRange k) : (k.sound >>> 6).toUInt8.toNat < 64 :=
  Nat.lt_succ_of_le (UInt8.le_iff_toNat_le.mp h.sound_le)

/-- Where a byte of a packet in its ranges can be taken for a start marker. -/
theorem InRange.start_place {k : Packet} (h : InRange k) {q : Nat} (hq : 0 < q)
    (ha : k.bytes.toList[q]? = some sensorNodeFrameStart) :
    q = 1 ∨ q = 2 ∨ q = 4 ∨ q = 6 ∨ q = 7 := by
  have h3 := h.hum_hi_lt
  have h5 := h.sound_lt
  have h8 := h.alarm_bits
  rw [k.bytes_toList] at ha
  match q, hq with
  | 1, _ | 2, _ | 4, _ | 6, _ | 7, _ => decide
  | 3, _ =>
    rw [Option.some.inj ha] at h3
    exact absurd h3 (by decide)
  | 5, _ =>
    rw [Option.some.inj ha] at h5
    exact absurd h5 (by decide)
  | 8, _ =>
    rw [Option.some.inj ha] at h8
    exact absurd h8 (by decide)
  | 9, _ => exact absurd (Option.some.inj ha) (by decide)
  | n + 10, _ => simp at ha

/-- Where a byte of a packet in its ranges can be taken for an end marker. -/
theorem InRange.stop_place {k : Packet} (h : InRange k) {i : Nat}
    (hb : k.bytes.toList[i]? = some sensorNodeFrameEnd) : i = 2 ∨ i = 4 ∨ 7 ≤ i := by
  have h3 := h.hum_hi_lt
  have h5 := h.sound_lt
  rw [k.bytes_toList] at hb
  match i with
  | 0 => exact absurd (Option.some.inj hb) (by decide)
  | 1 => exact absurd (Option.some.inj hb) h.temp_hi
  | 2 | 4 => decide
  | 3 =>
    rw [Option.some.inj hb] at h3
    exact absurd h3 (by decide)
  | 5 =>
    rw [Option.some.inj hb] at h5
    exact absurd h5 (by decide)
  | 6 => exact absurd (Option.some.inj hb) h.dist_hi
  | n + 7 => exact Or.inr (Or.inr (by omega))

/-- **No block that starts inside a packet ends inside the next one on an end marker**: a block
    that starts at place `q` ends at place `q - 1`. -/
theorem inRange_noStraddle {k k' : Packet} (h : InRange k) (h' : InRange k') :
    NoStraddle dataGrammar k.bytes.toList k'.bytes.toList := by
  intro q a b hq ha hs hb
  refine Bool.eq_false_iff.mpr fun ht => ?_
  obtain rfl : a = sensorNodeFrameStart := by simpa [dataGrammar] using hs
  obtain rfl : b = sensorNodeFrameEnd := by simpa [dataGrammar] using ht
  have h1 := h.start_place hq ha
  have h2 := h'.stop_place hb
  omega

/-- The bytes of a packet in its ranges. -/
def RangedFrame (f : List UInt8) : Prop := ∃ k, InRange k ∧ f = k.bytes.toList

/-- Packets in their ranges let nothing in across the boundary of two frames. -/
theorem rangedFrame_confined : Confined dataGrammar RangedFrame fun _ => false where
  frame := by
    rintro _ ⟨k, -, rfl⟩
    exact packet_isFrame k
  straddles := by
    rintro _ _ ⟨k, hk, rfl⟩ ⟨k', hk', rfl⟩
    exact (inRange_noStraddle hk hk').straddlesIn (by simp)

theorem rangedFrames {ks : List Packet} (h : ∀ k ∈ ks, InRange k) :
    ∀ f ∈ ks.map (fun k => k.bytes.toList), RangedFrame f := by
  intro f hf
  obtain ⟨k, hk, rfl⟩ := List.mem_map.mp hf
  exact ⟨k, h k hk, rfl⟩

theorem start_not_stop (b : UInt8) (h : dataGrammar.isStart b = true) :
    dataGrammar.isStop b = false := by
  obtain rfl : b = sensorNodeFrameStart := by simpa [dataGrammar] using h
  rfl

/-- **No ghost frames.** Packets in their ranges; an idle receiver gets any suffix of their bytes,
    or all bytes but one, in any invocations. Every block it signals is one of the frames, at that
    frame's own place in the stream, and in order; of the frame that lost a byte nothing is. -/
theorem isr_noGhosts (data : SensorNodeData) (hidle : data.rxIdx = 0) (ks : List Packet)
    (hks : ∀ k ∈ ks, InRange k) :
    (∀ (o : Nat) (invs : List (List (Option UInt8))),
      fifoBytes invs.flatten = (stream ks).drop o →
      ∃ data' log, run sensorNodeUartIsr data invs = some (data', log.map Prod.snd) ∧
        run (clocked isrByte) (data, o) ((stream ks).drop o) =
          some ((data', o + ((stream ks).drop o).length), log) ∧
        log.Sublist (sentAt 0 ks)) ∧
    ∀ (o : Nat) (invs : List (List (Option UInt8))), o < (stream ks).length →
      fifoBytes invs.flatten = (stream ks).eraseIdx o →
      ∃ data₁ data' log₁ log₂,
        run sensorNodeUartIsr data invs = some (data', (log₁ ++ log₂).map Prod.snd) ∧
        run (clocked isrByte) (data, 0) ((stream ks).take o) = some ((data₁, o), log₁) ∧
        run (clocked isrByte) (data₁, o + 1) ((stream ks).drop (o + 1)) =
          some ((data', (stream ks).length), log₂) ∧
        (log₁ ++ log₂).Sublist ((sentAt 0 ks).eraseIdx (o / 10)) := by
  have hr := rangedFrames hks
  have hasm := assembling_idle hidle
  constructor
  · intro o invs hinvs
    obtain ⟨data', log, h1, h2, -, h3⟩ := isr_timed hasm o ((stream ks).drop o)
    rw [← hinvs, ← run_invocations] at h1
    refine ⟨data', log, h1, h2, log_sublist ?_⟩
    rw [h3, sentAt_ends, ← genuine_none (timed dataGrammar o [] _)]
    exact timed_drop rangedFrame_confined hr o
  · intro o invs ho hinvs
    obtain ⟨data₁, log₁, h1, h2, h3, h4⟩ := isr_timed hasm 0 ((stream ks).take o)
    obtain ⟨data', log₂, h5, h6, -, h7⟩ := isr_timed h3 (o + 1) ((stream ks).drop (o + 1))
    have htake : 0 + ((stream ks).take o).length = o := by
      rw [List.length_take]
      omega
    have hdrop : o + 1 + ((stream ks).drop (o + 1)).length = (stream ks).length := by
      rw [List.length_drop]
      omega
    rw [htake] at h2
    rw [hdrop] at h6
    refine ⟨data₁, data', log₁, log₂, ?_, h2, h6, log_sublist ?_⟩
    · rw [run_invocations, hinvs, List.eraseIdx_eq_take_drop_succ, List.map_append]
      exact run_append_eq h1 h5
    · rw [List.map_append, h4, h7, ← List.eraseIdx_map, sentAt_ends,
        ← genuine_none (timed dataGrammar 0 [] _ ++ _)]
      exact timed_erase rangedFrame_confined start_not_stop hr ho

/-- Two packets in their ranges, the first with `0xAA` and `0x55` in the bytes where they may
    stand. The receiver is switched on before byte 2, and in another run loses byte 12. -/
theorem isr_noGhosts_marked :
    let ks : List Packet :=
      [{ tempI := 0x0955, humI := 0x15AA, sound := 1280, dist := 0xAA, alarm := 0x17 },
       { tempI := -200, humI := 10000, sound := 4095, dist := 0x0155, alarm := 0 }]
    (∃ (data' : SensorNodeData) (log : List (Nat × DataFrame)),
      run sensorNodeUartIsr (.initial ⟨0⟩) [((stream ks).drop 2).map some] =
        some (data', log.map Prod.snd) ∧ log.Sublist (sentAt 0 ks)) ∧
    ∃ (data' : SensorNodeData) (log : List (Nat × DataFrame)),
      run sensorNodeUartIsr (.initial ⟨0⟩) [((stream ks).eraseIdx 12).map some] =
        some (data', log.map Prod.snd) ∧ log.Sublist ((sentAt 0 ks).eraseIdx 1) := by
  intro ks
  have hks : ∀ k ∈ ks, InRange k := by
    intro k hk
    rcases List.mem_cons.mp hk with rfl | hk
    · exact ⟨by decide, by decide, by decide, by decide, by decide, by decide⟩
    · rcases List.mem_singleton.mp hk with rfl
      exact ⟨by decide, by decide, by decide, by decide, by decide, by decide⟩
  obtain ⟨h1, h2⟩ := isr_noGhosts (.initial ⟨0⟩) rfl ks hks
  obtain ⟨d, log, h3, -, h4⟩ := h1 2 [((stream ks).drop 2).map some] rfl
  obtain ⟨-, d', log₁, log₂, h5, -, -, h6⟩ :=
    h2 12 [((stream ks).eraseIdx 12).map some] (by decide) rfl
  exact ⟨⟨d, log, h3, h4⟩, d', log₁ ++ log₂, h5, h6⟩

end HomeAlert.Link
