/-
  File:      HomeAlert/Base/Receiver.lean
  Subject:   THE UART INTERRUPT ROUTINE REFINES THE FRAMING RECEIVER.

  The routine works on `rx_buf`, `rx_idx`, `ready_buf` and the semaphore; the receiver of
  Library/Framing.lean on the pending symbols of the open block. They are related by
  `Assembling`: the index is below the frame length and the first `rx_idx` bytes of the buffer are
  what is pending.

  * `isrByte_spec` -- one byte: the write is in bounds, the pending part moves as the receiver
    moves it, the blocks put out are the receiver's;
  * `isr_run` -- any run of the routine over any bytes, from any related state;
  * `isr_published` -- the frame condition: apart from the assembly buffer, a run changes the
    ready buffer (to the newest block it completed) and the semaphore (one give a block), and
    nothing else.
-/
import HomeAlert.Base.Driver
import HomeAlert.Library.Framing
import Mathlib.Data.List.ReduceOption

namespace HomeAlert.Base

open Framing Machine

/-! ## 1. The data link's grammar -/

/-- The framing of the data link. -/
def dataGrammar : Grammar UInt8 where
  isStart b := b == sensorNodeFrameStart
  isStop b := b == sensorNodeFrameEnd
  len := 10
  two_le := by decide

@[simp] theorem dataGrammar_len : dataGrammar.len = 10 := rfl

/-- The bytes of the block being assembled. -/
def pending (data : SensorNodeData) : List UInt8 := Buffer.filled data.rxBuf data.rxIdx.toNat

/-- `data` is assembling a block of which `p` has arrived. -/
def Assembling (data : SensorNodeData) (p : List UInt8) : Prop :=
  data.rxIdx.toNat < 10 ∧ pending data = p

/-- A receiver with `rx_idx = 0` is idle, whatever its buffer holds. -/
theorem assembling_idle {data : SensorNodeData} (h : data.rxIdx = 0) : Assembling data [] := by
  unfold Assembling pending
  rw [h]
  exact Buffer.holds_zero data.rxBuf (by decide)

theorem Assembling.length {data : SensorNodeData} {p : List UInt8} (h : Assembling data p) :
    p.length = data.rxIdx.toNat := Buffer.Holds.length h

theorem Assembling.idle_iff {data : SensorNodeData} {p : List UInt8} (h : Assembling data p) :
    data.rxIdx = 0 ↔ p = [] := Buffer.Holds.index_zero_iff h

/-! ## 2. One byte -/

/-- With `rx_idx = 0`: the routine waits for a start marker, as the idle receiver does. -/
theorem isrByte_idle {data : SensorNodeData} (h0 : data.rxIdx = 0) (byte : UInt8) :
    ∃ data' out, isrByte data byte = some (data', out) ∧
      Assembling data' (recv dataGrammar [] byte).1 ∧
      out.map Vector.toList = (recv dataGrammar [] byte).2 := by
  by_cases hb : byte = sensorNodeFrameStart
  · have hs : dataGrammar.isStart byte = true := by simpa [dataGrammar] using hb
    obtain ⟨buf, hst, hholds⟩ := Buffer.holds_store_first data.rxBuf (by decide) byte
    refine ⟨{ data with rxBuf := buf, rxIdx := 1 }, [], ?_, ?_, by simp [recv, hs]⟩
    · simp only [isrByte, h0, hb, if_true, Option.bind_eq_bind]
      rw [← hb, hst]
      rfl
    · simp only [recv, hs, if_true]
      exact hholds
  · have hs : dataGrammar.isStart byte = false := by simpa [dataGrammar] using hb
    refine ⟨data, [], by simp [isrByte, h0, hb], ?_, by simp [recv, hs]⟩
    simpa [recv, hs] using assembling_idle h0

/-- Inside a block: the byte goes to place `rx_idx`, and the tenth byte closes the block. -/
theorem isrByte_open {data : SensorNodeData} {p : List UInt8} (h : Assembling data p)
    (h0 : data.rxIdx ≠ 0) (byte : UInt8) :
    ∃ data' out, isrByte data byte = some (data', out) ∧
      Assembling data' (recv dataGrammar p byte).1 ∧
      out.map Vector.toList = (recv dataGrammar p byte).2 := by
  rw [recv_open dataGrammar (mt h.idle_iff.mpr h0) byte, dataGrammar_len]
  obtain ⟨buf, hst, hwrite⟩ := Buffer.Holds.store h (by decide) byte
  rcases hwrite with ⟨hlen, hidx, hten⟩ | ⟨hlen, hidx, hholds⟩
  · have hidx' : data.rxIdx + 1 = sensorNodeFrameLen := hidx
    rw [if_pos hlen]
    by_cases hb : byte = sensorNodeFrameEnd
    · have hs : dataGrammar.isStop byte = true := by simpa [dataGrammar] using hb
      refine ⟨{ data with
          rxBuf := buf, readyBuf := buf, frameSem := data.frameSem.give, rxIdx := 0 }, [buf],
        ?_, assembling_idle rfl, ?_⟩
      · subst hb
        simp [isrByte, h0, hst, hidx']
      · simp [hs, hten]
    · have hs : dataGrammar.isStop byte = false := by simpa [dataGrammar] using hb
      refine ⟨{ data with rxBuf := buf, rxIdx := 0 }, [], ?_, assembling_idle rfl, ?_⟩
      · simp [isrByte, h0, hst, hidx', hb]
      · simp [hs]
  · have hidx' : ¬ data.rxIdx + 1 = sensorNodeFrameLen := hidx
    rw [if_neg hlen]
    refine ⟨{ data with rxBuf := buf, rxIdx := data.rxIdx + 1 }, [], ?_, hholds, rfl⟩
    simp [isrByte, h0, hst, hidx']

/-- **One byte refines one step of the receiver.** -/
theorem isrByte_spec {data : SensorNodeData} {p : List UInt8} (h : Assembling data p)
    (byte : UInt8) :
    ∃ data' out, isrByte data byte = some (data', out) ∧
      Assembling data' (recv dataGrammar p byte).1 ∧
      out.map Vector.toList = (recv dataGrammar p byte).2 := by
  by_cases h0 : data.rxIdx = 0
  · obtain rfl := h.idle_iff.mp h0
    exact isrByte_idle h0 byte
  · exact isrByte_open h h0 byte

/-! ## 3. Runs -/

/-- The bytes a list of `uart_fifo_read` results delivers. -/
def fifoBytes (reads : List (Option UInt8)) : List UInt8 := reads.reduceOption

theorem fifoBytes_eq_flatMap (reads : List (Option UInt8)) :
    fifoBytes reads = reads.flatMap Option.toList := by
  induction reads with
  | nil => rfl
  | cons r reads ih =>
    cases r with
    | none => simpa [fifoBytes, List.reduceOption_cons_of_none] using ih
    | some b => simpa [fifoBytes, List.reduceOption_cons_of_some] using ih

/-- **Any run of the routine is a run of the receiver**: it never writes out of bounds, it puts
    out the receiver's blocks, and it is left assembling what the receiver holds pending. -/
theorem isr_run {data : SensorNodeData} {p : List UInt8} (h : Assembling data p)
    (reads : List (Option UInt8)) :
    ∃ data' out, sensorNodeUartIsr data reads = some (data', out) ∧
      Assembling data' (receive dataGrammar p (fifoBytes reads)).1 ∧
      out.map Vector.toList = (receive dataGrammar p (fifoBytes reads)).2 := by
  rw [fifoBytes_eq_flatMap, ← List.map_id (receive dataGrammar p _).2]
  refine run_simulates isrRead (recv dataGrammar) Assembling Option.toList Vector.toList id
    (fun d p r hR => ?_) h reads
  cases r with
  | none => exact ⟨d, [], rfl, hR, rfl⟩
  | some b =>
    rw [Option.toList_some, exec_singleton, List.map_id]
    exact isrByte_spec hR b

/-! ## 4. What a run leaves alone -/

/-- The instance data once the blocks `out` have been copied and signalled, in order. -/
def publish (data : SensorNodeData) (out : List DataFrame) : SensorNodeData :=
  { data with
    readyBuf := out.getLast?.getD data.readyBuf
    frameSem := out.foldl (fun s _ => s.give) data.frameSem }

/-- `data'` is `data` with `out` published, up to the assembly buffer and its index. -/
def Published (data : SensorNodeData) (out : List DataFrame) (data' : SensorNodeData) : Prop :=
  data' = { publish data out with rxBuf := data'.rxBuf, rxIdx := data'.rxIdx }

theorem publish_append (data : SensorNodeData) (a b : List DataFrame) :
    publish (publish data a) b = publish data (a ++ b) := by
  simp only [publish, List.foldl_append, List.getLast?_append]
  cases b.getLast? <;> rfl

theorem Published.trans {d d' d'' : SensorNodeData} {a b : List DataFrame}
    (h1 : Published d a d') (h2 : Published d' b d'') : Published d (a ++ b) d'' := by
  unfold Published at *
  rw [← publish_append, h2, h1]
  rfl

theorem isrByte_published {data data' : SensorNodeData} {byte : UInt8} {out : List DataFrame}
    (h : isrByte data byte = some (data', out)) : Published data out data' := by
  unfold isrByte at h
  split at h
  · split at h
    · simp only [Option.bind_eq_bind, Option.bind_eq_some_iff] at h
      obtain ⟨buf, -, e⟩ := h
      cases e
      rfl
    · cases h
      rfl
  · simp only [Option.bind_eq_bind, Option.bind_eq_some_iff] at h
    obtain ⟨buf, -, e⟩ := h
    split at e
    · split at e <;> cases e <;> rfl
    · cases e
      rfl

/-- **The frame condition of a run.** -/
theorem isr_published {data data' : SensorNodeData} {reads : List (Option UInt8)}
    {out : List DataFrame} (h : sensorNodeUartIsr data reads = some (data', out)) :
    Published data out data' := by
  refine run_relates (P := Published) (fun _ => rfl) (fun _ _ _ _ _ => Published.trans) ?_ h
  intro d r d' o hs
  cases r with
  | none => cases hs; rfl
  | some b => exact isrByte_published hs

end HomeAlert.Base
