/-
  File:      HomeAlert/Node/Transmit.lean
  Subject:   THE DATA FRAME OF THE SENSOR NODE (sensor_node/main.c: send_uart_frame).

  Float arithmetic is read as exact rational arithmetic. What C leaves undefined, the conversion of
  a floating number that the integer type cannot hold, is left open: a `FloatConv` may answer
  anything there, and every theorem over one holds for each.
-/
import HomeAlert.Library.Fixed
import HomeAlert.Library.Word

namespace HomeAlert.Node

open Fixed

/-! ## 1. Conversions -/

/-- **The target's float-to-integer conversions.** In range they truncate, as C says; out of range
    nothing is assumed. -/
structure FloatConv where
  toInt16 : ℚ → Int16
  toUInt16 : ℚ → UInt16
  toInt16_eq : ∀ q, -32768 ≤ trunc q → trunc q < 32768 → (toInt16 q).toInt = trunc q
  toUInt16_eq : ∀ q, 0 ≤ trunc q → trunc q < 65536 → ((toUInt16 q).toNat : Int) = trunc q

/-- The conversions that keep the low 16 bits of the truncated number. -/
def FloatConv.wrapping : FloatConv where
  toInt16 q := Int16.ofInt (trunc q)
  toUInt16 q := UInt16.ofInt (trunc q)
  toInt16_eq _ h1 h2 := Int16.toInt_ofInt_of_le h1 h2
  toUInt16_eq q h1 h2 := by
    rw [Word.uint16_ofInt_toNat]
    omega

/-! ## 2. send_uart_frame -/

/-- The ten bytes of a frame, from the converted values. -/
def packFrame (tempI humI : Int16) (sound dist : UInt16) (alarm : UInt8) : Vector UInt8 10 :=
  let soundI := (sound >>> 6).toUInt8
  let distI := dist
  ⟨#[0xAA, Word.hi tempI.toInt, Word.lo tempI.toInt, Word.hi humI.toInt, Word.lo humI.toInt,
    soundI, Word.hi distI.toNat, Word.lo distI.toNat, alarm, 0x55], rfl⟩

/-- `send_uart_frame`: the bytes it gives to `uart_write_blocking`. -/
def sendUartFrame (conv : FloatConv) (temp humidity : ℚ) (sound dist : UInt16) (alarm : UInt8) :
    Vector UInt8 10 :=
  packFrame (conv.toInt16 (temp * 100)) (conv.toInt16 (humidity * 100)) sound dist alarm

/-- **What a frame carries**: the values `send_uart_frame` packs. -/
structure Packet where
  tempI : Int16
  humI : Int16
  sound : UInt16
  dist : UInt16
  alarm : UInt8
  deriving DecidableEq, Repr

def Packet.bytes (k : Packet) : Vector UInt8 10 := packFrame k.tempI k.humI k.sound k.dist k.alarm

/-- The bytes of a packet, spelled out. -/
theorem Packet.bytes_toList (k : Packet) : k.bytes.toList =
    [0xAA, Word.hi k.tempI.toInt, Word.lo k.tempI.toInt, Word.hi k.humI.toInt,
      Word.lo k.humI.toInt, (k.sound >>> 6).toUInt8, Word.hi k.dist.toNat, Word.lo k.dist.toNat,
      k.alarm, 0x55] := rfl

/-- The packets sent one after the other, as one stream of bytes. -/
def stream (ks : List Packet) : List UInt8 := (ks.map fun k => k.bytes.toList).flatten

end HomeAlert.Node
