/-
  File:      HomeAlert/Base/Fetch.lean
  Subject:   READY BUFFER AND SEMAPHORE AS A MAILBOX, and what the application reads.

  `ready_buf` with `frame_sem` (limit 1) is a one-place mailbox (Library/Mailbox.lean): `box` reads
  the instance data as one, the interrupt routine posts the blocks it completes
  (`box_published`), and an uninterrupted `sensor_node_sample_fetch` is a fetch followed by the
  parse of the newest block (`sampleFetch_unread`, `sampleFetch_read`).

  `channel_get` splits the hundredths of temperature and humidity with C's `/` and `%`;
  `channelGet_temp` and `channelGet_hum` give the two parts as integers, with no wrap-around.
-/
import HomeAlert.Base.Receiver
import HomeAlert.Library.Mailbox
import HomeAlert.Library.Fixed

namespace HomeAlert.Base

open Mailbox

/-! ## 1. The mailbox -/

/-- The instance data as a mailbox of blocks. -/
def box (data : SensorNodeData) : Box DataFrame where
  newest := data.readyBuf
  unread := decide (0 < data.frameSem.count)

/-- `frame_sem` as `k_sem_init(&frame_sem, 0, 1)` makes it and every operation keeps it. -/
structure SemOk (data : SensorNodeData) : Prop where
  limit_eq : data.frameSem.limit = 1
  count_le : data.frameSem.count ≤ 1

theorem semOk_initial (dev : Device) : SemOk (.initial dev) := ⟨rfl, Nat.zero_le 1⟩

/-- Copying a block and signalling it is a post. -/
theorem box_publish_one {data : SensorNodeData} (h : SemOk data) (blk : DataFrame) :
    SemOk (publish data [blk]) ∧ box (publish data [blk]) = (box data).post blk := by
  have hcount : data.frameSem.give.count = 1 := by
    have h1 := h.limit_eq
    have h2 := h.count_le
    simp only [KSem.give]
    split <;> omega
  refine ⟨⟨h.limit_eq, hcount.le⟩, ?_⟩
  show (⟨blk, decide (0 < data.frameSem.give.count)⟩ : Box DataFrame) = ⟨blk, true⟩
  rw [hcount]
  rfl

theorem box_publish {data : SensorNodeData} (h : SemOk data) (out : List DataFrame) :
    SemOk (publish data out) ∧ box (publish data out) = (box data).posts out := by
  induction out generalizing data with
  | nil => exact ⟨h, rfl⟩
  | cons blk out ih =>
    obtain ⟨h1, h2⟩ := box_publish_one h blk
    obtain ⟨h3, h4⟩ := ih h1
    rw [publish_append, List.singleton_append] at h3 h4
    rw [h2] at h4
    exact ⟨h3, h4⟩

/-- **A run of the interrupt routine posts the blocks it completes.** -/
theorem box_published {data data' : SensorNodeData} {out : List DataFrame} (h : SemOk data)
    (hp : Published data out data') : SemOk data' ∧ box data' = (box data).posts out := by
  obtain ⟨h1, h2⟩ := box_publish h out
  unfold Published at hp
  rw [hp]
  exact ⟨⟨h1.limit_eq, h1.count_le⟩, h2⟩

/-- A fetch with nothing to fetch times out and changes nothing. -/
theorem sampleFetch_read {data : SensorNodeData} (h : (box data).unread = false)
    (chan : SensorChannel) : sensorNodeSampleFetch data chan = (.error .eagain, data) := by
  have h0 : ¬ 0 < data.frameSem.count := of_decide_eq_false h
  simp [sensorNodeSampleFetch, KSem.take, h0]

/-- **A fetch with a block to fetch** takes the semaphore and parses the newest block. -/
theorem sampleFetch_unread {data : SensorNodeData} (h : (box data).unread = true)
    (chan : SensorChannel) :
    sensorNodeSampleFetch data chan = (.ok (),
      parseFrame { data with frameSem := { data.frameSem with count := data.frameSem.count - 1 } }
        data.readyBuf) := by
  have h0 : 0 < data.frameSem.count := of_decide_eq_true h
  simp only [sensorNodeSampleFetch, KSem.take, h0, if_true]
  rfl

/-- **A fetch is a fetch from the mailbox**, and it leaves the block being assembled alone. -/
theorem box_sampleFetch {data : SensorNodeData} (h : SemOk data) (chan : SensorChannel) :
    let data' := (sensorNodeSampleFetch data chan).2
    SemOk data' ∧ box data' = (box data).fetch.1 ∧
      data'.rxBuf = data.rxBuf ∧ data'.rxIdx = data.rxIdx := by
  have h1 := h.limit_eq
  have h2 := h.count_le
  cases hu : (box data).unread with
  | false =>
    rw [sampleFetch_read hu]
    refine ⟨h, ?_, rfl, rfl⟩
    simp [Box.fetch, hu]
  | true =>
    rw [sampleFetch_unread hu]
    have h0 : data.frameSem.count - 1 = 0 := by omega
    refine ⟨⟨h1, ?_⟩, ?_, rfl, rfl⟩
    · show data.frameSem.count - 1 ≤ 1
      omega
    · simp [Box.fetch, hu]
      simp [box, parseFrame, parseInto, h0]

/-! ## 2. What channel_get reports -/

theorem int32_toInt {n : Int} (h1 : -1000000 ≤ n) (h2 : n ≤ 1000000) : (Int32.ofInt n).toInt = n :=
  Int32.toInt_ofInt_of_le (by omega) (by omega)

/-- A number of hundredths of 16 bits, split into its two `int32` parts: neither wraps. -/
theorem split_int32 {n : Int} (h1 : -65536 < n) (h2 : n < 65536) :
    (Int32.ofInt (n.tdiv 100)).toInt = n.tdiv 100 ∧
      (Int32.ofInt (n.tmod 100 * 10000)).toInt = n.tmod 100 * 10000 := by
  obtain ⟨h3, h4⟩ := Fixed.tmod_bounds n
  have h5 := Int.mul_tdiv_add_tmod n 100
  exact ⟨int32_toInt (by omega) (by omega), int32_toInt (by omega) (by omega)⟩

theorem channelGet_temp (data : SensorNodeData) :
    ∃ v, sensorNodeChannelGet data .ambientTemp = .ok v ∧
      v.val1.toInt = data.temperature.toInt.tdiv 100 ∧
      v.val2.toInt = data.temperature.toInt.tmod 100 * 10000 := by
  have h1 := data.temperature.le_toInt
  have h2 := data.temperature.toInt_lt
  obtain ⟨h3, h4⟩ := split_int32 (n := data.temperature.toInt) (by omega) (by omega)
  exact ⟨_, rfl, h3, h4⟩

theorem channelGet_hum (data : SensorNodeData) :
    ∃ v, sensorNodeChannelGet data .humidity = .ok v ∧
      v.val1.toInt = (data.humidity.toNat : Int).tdiv 100 ∧
      v.val2.toInt = (data.humidity.toNat : Int).tmod 100 * 10000 := by
  have h2 := data.humidity.toNat_lt
  obtain ⟨h3, h4⟩ := split_int32 (n := data.humidity.toNat) (by omega) (by omega)
  exact ⟨_, rfl, h3, h4⟩

/-- `val` denotes `n / 100`: its parts are of one sign and the fraction is below one. -/
def SensorValue.IsHundredths (val : SensorValue) (n : Int) : Prop :=
  (val.val1.toInt : ℚ) + (val.val2.toInt : ℚ) / 10 ^ 6 = (n : ℚ) / 100 ∧
    0 ≤ val.val1.toInt * val.val2.toInt ∧ |val.val2.toInt| < 10 ^ 6

theorem isHundredths_of_split {val : SensorValue} {n : Int} (h1 : val.val1.toInt = n.tdiv 100)
    (h2 : val.val2.toInt = n.tmod 100 * 10000) : val.IsHundredths n := by
  unfold SensorValue.IsHundredths
  rw [h1, h2]
  exact ⟨Fixed.split_value n, Fixed.split_sign n, Fixed.split_frac n⟩

end HomeAlert.Base
