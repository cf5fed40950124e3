/-
  File:      HomeAlert/Base/Format.lean
  Subject:   THE DATA FRAME AS A FORMAT (tests/test_frame_parser.c: build_frame; the driver's
             interrupt routine and parser).

  `build_frame` writes five values as ten bytes; the driver reads ten bytes as five values. A block
  with both markers is a `ValidFrame`, and on these the two are inverse to each other (`codec`).
  The interrupt routine delivers valid frames and nothing else, so whatever bytes it is given, what
  it publishes is rebuilt byte for byte from what is parsed (`format_roundTrip`).
-/
import HomeAlert.Base.Fetch
import HomeAlert.Node.Transmit
import Mathlib.Logic.Equiv.Defs

namespace HomeAlert.Base

open Framing Machine

/-! ## 1. build_frame -/

/-- `build_frame`, the helper of the driver's tests. -/
def buildFrame (tempX100 : Int16) (humX100 : UInt16) (sound : UInt8) (dist : UInt16)
    (alarm : UInt8) : DataFrame :=
  ⟨#[sensorNodeFrameStart, Word.hi tempX100.toInt, Word.lo (tempX100 &&& 0xFF).toInt,
    Word.hi humX100.toNat, Word.lo (humX100.toNat &&& 0xFF : Nat), sound, Word.hi dist.toNat,
    Word.lo (dist.toNat &&& 0xFF : Nat), alarm, sensorNodeFrameEnd], rfl⟩

def Fields.build (v : Fields) : DataFrame :=
  buildFrame v.temperature v.humidity v.sound v.distance v.alarmStatus

/-- **A valid frame**: a block with both markers. -/
def ValidFrame : Type :=
  { f : DataFrame // f[0] = sensorNodeFrameStart ∧ f[9] = sensorNodeFrameEnd }

/-- The bytes of a built frame, the masks left out. -/
theorem build_toList (v : Fields) : v.build.toList =
    [sensorNodeFrameStart, Word.hi v.temperature.toInt, Word.lo v.temperature.toInt,
      Word.hi v.humidity.toNat, Word.lo v.humidity.toNat, v.sound, Word.hi v.distance.toNat,
      Word.lo v.distance.toNat, v.alarmStatus, sensorNodeFrameEnd] := by
  show [_, _, Word.lo (v.temperature &&& 0xFF).toInt, _, Word.lo (v.humidity.toNat &&& 0xFF : Nat),
    _, _, Word.lo (v.distance.toNat &&& 0xFF : Nat), _, _] = _
  rw [Word.lo_mask16, Word.lo_mask, Word.lo_mask]

/-- **What was built is parsed back**, for all values. -/
theorem fields_build (v : Fields) : frameFields v.build = v := by
  have hmask := Word.lo_mask16 v.temperature
  have hhum := Word.lo_mask v.humidity.toNat
  have hdist := Word.lo_mask v.distance.toNat
  obtain ⟨temp, hum, sound, dist, alarm⟩ := v
  show (⟨Int16.ofInt (Word.join (Word.hi temp.toInt) (Word.lo (temp &&& 0xFF).toInt)),
    UInt16.ofNat (Word.join (Word.hi hum.toNat) (Word.lo (hum.toNat &&& 0xFF : Nat))), sound,
    UInt16.ofNat (Word.join (Word.hi dist.toNat) (Word.lo (dist.toNat &&& 0xFF : Nat))),
    alarm⟩ : Fields) = _
  rw [hmask, hhum, hdist, Word.int16_join, Word.uint16_join, Word.uint16_join]

/-- **What is parsed is rebuilt**, byte for byte, from every valid frame. -/
theorem build_fields (f : ValidFrame) : (frameFields f.1).build = f.1 := by
  obtain ⟨⟨⟨l⟩, hl⟩, h0, h9⟩ := f
  match l, hl, h0, h9 with
  | [b0, b1, b2, b3, b4, b5, b6, b7, b8, b9], _, h0, h9 =>
    obtain rfl : b0 = sensorNodeFrameStart := h0
    obtain rfl : b9 = sensorNodeFrameEnd := h9
    have htemp := Word.int16_emod (Word.join b1 b2)
    have hhum : ((UInt16.ofNat (Word.join b3 b4)).toNat : Int) % 65536 =
        (Word.join b3 b4 : Int) % 65536 := by
      rw [UInt16.toNat_ofNat']
      omega
    have hdist : ((UInt16.ofNat (Word.join b6 b7)).toNat : Int) % 65536 =
        (Word.join b6 b7 : Int) % 65536 := by
      rw [UInt16.toNat_ofNat']
      omega
    refine Vector.toList_inj.mp ?_
    rw [build_toList]
    show [_, Word.hi (Int16.ofInt (Word.join b1 b2)).toInt,
      Word.lo (Int16.ofInt (Word.join b1 b2)).toInt,
      Word.hi (UInt16.ofNat (Word.join b3 b4)).toNat,
      Word.lo (UInt16.ofNat (Word.join b3 b4)).toNat, b5,
      Word.hi (UInt16.ofNat (Word.join b6 b7)).toNat,
      Word.lo (UInt16.ofNat (Word.join b6 b7)).toNat, b8, _] = _
    rw [Word.hi_congr htemp, Word.lo_congr htemp, Word.hi_congr hhum, Word.lo_congr hhum,
      Word.hi_congr hdist, Word.lo_congr hdist, Word.hi_join, Word.lo_join, Word.hi_join,
      Word.lo_join, Word.hi_join, Word.lo_join]
    rfl

/-- **The format**: values and valid frames, one for one. -/
def codec : Fields ≃ ValidFrame where
  toFun v := ⟨v.build, rfl, rfl⟩
  invFun f := frameFields f.1
  left_inv := fields_build
  right_inv f := Subtype.ext (build_fields f)

/-- The sensor node packs what `build_frame` builds, from the scaled sound and with the humidity
    read as an unsigned word. -/
theorem packFrame_build (tempI humI : Int16) (sound dist : UInt16) (alarm : UInt8) :
    Node.packFrame tempI humI sound dist alarm =
      buildFrame tempI (UInt16.ofInt humI.toInt) (sound >>> 6).toUInt8 dist alarm := by
  have hhum : ((UInt16.ofInt humI.toInt).toNat : Int) % 65536 = humI.toInt % 65536 := by
    rw [Word.uint16_ofInt_toNat]
    omega
  refine Vector.toList_inj.mp ?_
  have hbuild := build_toList ⟨tempI, UInt16.ofInt humI.toInt, (sound >>> 6).toUInt8, dist, alarm⟩
  refine Eq.trans ?_ hbuild.symm
  rw [Word.hi_congr hhum, Word.lo_congr hhum]
  rfl

/-! ## 2. Streams -/

theorem valid_isFrame (f : ValidFrame) : IsFrame dataGrammar f.1.toList where
  length_eq := by simp
  start := by
    obtain ⟨⟨⟨l⟩, hl⟩, h0, h9⟩ := f
    match l, hl, h0, h9 with
    | [b0, _, _, _, _, _, _, _, _, _], _, h0, _ =>
      obtain rfl : b0 = sensorNodeFrameStart := h0
      rfl
  stop := by
    obtain ⟨⟨⟨l⟩, hl⟩, h0, h9⟩ := f
    match l, hl, h0, h9 with
    | [_, _, _, _, _, _, _, _, _, b9], _, _, h9 =>
      obtain rfl : b9 = sensorNodeFrameEnd := h9
      rfl

/-- A block that is a frame of the grammar is valid. -/
theorem valid_of_isFrame {f : DataFrame} (h : IsFrame dataGrammar f.toList) :
    f[0] = sensorNodeFrameStart ∧ f[9] = sensorNodeFrameEnd := by
  obtain ⟨⟨l⟩, hl⟩ := f
  match l, hl, h with
  | [b0, _, _, _, _, _, _, _, _, b9], _, h =>
    have hstart := h.start
    have hstop := h.stop
    simp [dataGrammar] at hstart hstop
    exact ⟨hstart, hstop⟩

/-- **The format's round trip through the interrupt routine.** From an idle receiver: whatever
    bytes arrive, each frame published is rebuilt byte for byte from its parsed values; and of
    frames built from any values, cut in any way, exactly the complete ones are published, in
    order, and parse to these values. -/
theorem format_roundTrip (data : SensorNodeData) (hidle : data.rxIdx = 0) :
    (∀ (reads : List (Option UInt8)) (data' : SensorNodeData) (out : List DataFrame),
      sensorNodeUartIsr data reads = some (data', out) →
      ∀ f ∈ out, (frameFields f).build = f) ∧
    ∀ (vs : List Fields) (reads : List (Option UInt8)),
      fifoBytes reads <+: vs.flatMap (fun v => v.build.toList) →
      ∃ data' out, sensorNodeUartIsr data reads = some (data', out) ∧
        out.map frameFields = vs.take ((fifoBytes reads).length / 10) := by
  have hinj : Function.Injective (List.map (Vector.toList (α := UInt8) (n := 10))) :=
    List.map_injective_iff.mpr fun _ _ hab => Vector.toList_inj.mp hab
  refine ⟨fun reads data' out hrun f hf => ?_, fun vs reads hpre => ?_⟩
  · obtain ⟨d, o, h1, -, h3⟩ := isr_run (assembling_idle hidle) reads
    rw [hrun] at h1
    cases h1
    have hmem : f.toList ∈ (receive dataGrammar [] (fifoBytes reads)).2 := by
      rw [← h3]
      exact List.mem_map_of_mem hf
    exact build_fields ⟨f, valid_of_isFrame (receive_isFrame (Or.inl rfl) _ _ hmem)⟩
  · obtain ⟨data', out, h1, -, h3⟩ := isr_run (assembling_idle hidle) reads
    have hframes : ∀ g ∈ vs.map (fun v => v.build.toList), IsFrame dataGrammar g := by
      intro g hg
      obtain ⟨v, -, rfl⟩ := List.mem_map.mp hg
      exact valid_isFrame (codec v)
    rw [List.flatMap_def] at hpre
    rw [receive_cut hframes hpre, ← List.map_take] at h3
    refine ⟨data', out, h1, ?_⟩
    have hout : out = (vs.take ((fifoBytes reads).length / 10)).map Fields.build := by
      refine hinj ?_
      rw [h3, List.map_map]
      rfl
    rw [hout, List.map_map]
    exact (List.map_congr_left fun v _ => fields_build v).trans (List.map_id _)

/-- Two frames of values from the tests, the second cut before its end marker. -/
theorem format_roundTrip_tests :
    ∃ data' out, sensorNodeUartIsr (.initial ⟨0⟩)
        ((buildFrame 2350 5500 80 42 0x01).toList.map some ++
          (buildFrame 2000 4000 20 100 0).toList.dropLast.map some) = some (data', out) ∧
      out.map frameFields = [⟨2350, 5500, 80, 42, 0x01⟩] := by
  obtain ⟨-, hbuilt⟩ := format_roundTrip (.initial ⟨0⟩) rfl
  exact hbuilt [⟨2350, 5500, 80, 42, 0x01⟩, ⟨2000, 4000, 20, 100, 0⟩]
    ((buildFrame 2350 5500 80 42 0x01).toList.map some ++
      (buildFrame 2000 4000 20 100 0).toList.dropLast.map some) (by decide)

end HomeAlert.Base
