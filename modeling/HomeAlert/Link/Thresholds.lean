/-
  File:      HomeAlert/Link/Thresholds.lean
  Subject:   WHAT ONE THRESHOLD REQUEST DOES, for every `sensor_value`.

  `sensor_node_attr_set` refuses unknown attributes, and no value of a known one: the conversions
  to the word sent keep 16 bits of its `int32` expression (the mask of the sound threshold six),
  and the idle parser installs what they kept.

  * `poll_request` -- one request to an idle parser;
  * `attr_set_installs` -- the threshold it leaves, for every value without `int32` overflow: the
    number asked for just when that fits the field;
  * `fixedPoint_coherent` -- for a value within the field's range that is the truncated
    hundredfold, in order; and a reading of `channel_get` sent back as a limit is the frame's word.
-/
import HomeAlert.Base.Fetch
import HomeAlert.Link.CommandLink
import HomeAlert.Node.Bme680

namespace HomeAlert.Link

open Framing Machine Registers Base Node

/-! ## 1. The expression behind a request -/

/-- The expression of `sensor_node_attr_set` for an attribute, in `int32_t` as far as the
    conversion to the word: `none` where one of its steps overflows. -/
def attrExpr (val : SensorValue) : SensorNodeAttr → Option Int
  | .distThresh => some val.val1.toInt
  | .soundThresh => some (val.val1 &&& 0x3F).toInt
  | .tempMax | .humMax | .humMin => do
      let m ← int32 (val.val1.toInt * 100)
      int32 (m + val.val2.toInt.tdiv 10000)

/-- The steps of the scaled attributes, where they stay within `int32`. -/
theorem scaled_expr {a b n : Int} (h : (do let m ← int32 (a * 100); int32 (m + b)) = some n) :
    n = a * 100 + b := by
  rw [Option.bind_eq_bind, Option.bind_eq_some_iff] at h
  obtain ⟨m, h1, h2⟩ := h
  rw [(int32_eq_some.mp h1).2, (int32_eq_some.mp h2).2]

/-- **The word sent is the expression, converted**: through `int16_t` for the temperature. -/
theorem attrCommand_expr {val : SensorValue} {a : SensorNodeAttr} {n : Int}
    (h : attrExpr val a = some n) :
    (attrCommand val a).2 =
      if a = .tempMax then UInt16.ofInt (Int16.ofInt n).toInt else UInt16.ofInt n := by
  rcases a with _ | _ | _ | _ | _
  · cases h
    rfl
  · rw [scaled_expr h]
    rfl
  · cases h
    rfl
  · rw [scaled_expr h]
    rfl
  · rw [scaled_expr h]
    rfl

/-- The quotient of the millionths is small, so a sum of 17 bits needs no more than 18 before. -/
theorem scaled_isSome {val : SensorValue}
    (h1 : -32768 ≤ val.val1.toInt * 100 + val.val2.toInt.tdiv 10000)
    (h2 : val.val1.toInt * 100 + val.val2.toInt.tdiv 10000 ≤ 65535) :
    (do let m ← int32 (val.val1.toInt * 100)
        int32 (m + val.val2.toInt.tdiv 10000)).isSome := by
  have h3 := val.val2.le_toInt
  have h4 := val.val2.toInt_lt
  have h5 := Int.mul_tdiv_add_tmod val.val2.toInt 10000
  have h6 := Int.tmod_lt_of_pos val.val2.toInt (show (0 : Int) < 10000 by omega)
  have h7 := Int.lt_tmod_of_pos val.val2.toInt (show (0 : Int) < 10000 by omega)
  rw [int32_eq_some.mpr ⟨⟨by omega, by omega⟩, rfl⟩, Option.bind_eq_bind, Option.bind_some,
    int32_eq_some.mpr ⟨⟨by omega, by omega⟩, rfl⟩]
  rfl

/-- **A number that fits its field was computed without overflow.** -/
theorem attrExpr_of_fits {r : Request} (h : r.Fits) : (attrExpr r.val r.attr).isSome := by
  obtain ⟨chan, attr, val⟩ := r
  rcases attr with _ | _ | _ | _ | _
  · rfl
  · obtain ⟨h1, h2⟩ : -32768 ≤ _ ∧ _ ≤ 32767 := h
    exact scaled_isSome h1 (Int.le_trans h2 (by omega))
  · rfl
  · obtain ⟨h1, h2⟩ : 0 ≤ _ ∧ _ ≤ 65535 := h
    exact scaled_isSome (Int.le_trans (by omega) h1) h2
  · obtain ⟨h1, h2⟩ : 0 ≤ _ ∧ _ ≤ 65535 := h
    exact scaled_isSome (Int.le_trans (by omega) h1) h2

/-! ## 2. One request to an idle parser -/

/-- **One request to an idle parser**: it is applied, once, and the parser is idle again. -/
theorem poll_request {s : LinkState} (hidle : s.cs.idx = 0) (r : Request) :
    ∃ s', pollCommands s r.bytes = some (s', [r.command]) ∧ s'.cs.idx = 0 ∧
      s'.cfg = applyCommand s.cfg r.command.1 r.command.2 := by
  obtain ⟨s', calls, h1, h2, h3⟩ := poll_run (CmdState.assembling_idle hidle) r.bytes
  rw [receive_frame (request_isFrame r)] at h2 h3
  have h4 : calls = [r.command] := by
    rw [h3, List.map_singleton, commandOf_bytes]
  rw [h4] at h1
  exact ⟨s', h1, h2.idle_iff.mpr rfl, poll_config h1⟩

/-- **A threshold request, for every value.** Where the `int32` arithmetic does not overflow, the
    call succeeds and sends five bytes, and from them an idle parser sets this one threshold, to
    what the conversions keep of the number asked for. That is the number itself if and only if
    it fits its field, and a number that fits is computed without overflow. Only attributes the
    driver does not know are refused, without a byte. -/
theorem attr_set_installs (s : LinkState) (hidle : s.cs.idx = 0) (r : Request) :
    ((attrExpr r.val r.attr).isSome →
      sensorNodeAttrSet r.chan (.node r.attr) r.val = (.ok (), r.bytes) ∧ r.bytes.length = 5 ∧
      ∃ s', pollCommands s r.bytes = some (s', [r.command]) ∧ s'.cs.idx = 0 ∧
        thresholds s'.cfg = Function.update (thresholds s.cfg) r.attr r.installed ∧
        s'.cfg.irqEnabled = s.cfg.irqEnabled ∧ s'.cfg.irqMask = s.cfg.irqMask ∧
        (thresholds s'.cfg r.attr = r.scaled ↔ r.Fits)) ∧
    (r.Fits → (attrExpr r.val r.attr).isSome) ∧
    ∀ id, sensorNodeAttrSet r.chan (.other id) r.val = (.error .enotsup, []) := by
  refine ⟨fun _ => ⟨rfl, rfl, ?_⟩, attrExpr_of_fits, fun _ => rfl⟩
  obtain ⟨s', h1, h2, h3⟩ := poll_request hidle r
  obtain ⟨h4, h5, h6⟩ := apply_installed r s.cfg
  rw [← h3] at h4 h5 h6
  refine ⟨s', h1, h2, h4, h5, h6, ?_⟩
  rw [h4, Function.update_self, Int.cast_inj]
  exact installed_eq_iff r

/-- A temperature of −5.25 degrees, to a parser at its start. -/
theorem attr_set_installs_negative :
    ∃ s', pollCommands .initial (Request.bytes ⟨.ambientTemp, .tempMax, ⟨-5, -250000⟩⟩) =
        some (s', [(2, 0xFDF3)]) ∧
      thresholds s'.cfg .tempMax = -525 ∧ thresholds s'.cfg .distThresh = 50 := by
  obtain ⟨-, -, s', h1, -, h2, -⟩ := (attr_set_installs .initial rfl
    ⟨.ambientTemp, .tempMax, ⟨-5, -250000⟩⟩).1 (by decide)
  refine ⟨s', h1, ?_, ?_⟩
  · rw [h2]
    decide +kernel
  · rw [h2]
    decide +kernel

/-- The threshold that a parser has behind the bytes of a request. -/
def Request.install (s : LinkState) (r : Request) : Option ℚ :=
  (pollCommands s r.bytes).map fun x => thresholds x.1.cfg r.attr

theorem install_eq {s : LinkState} (hidle : s.cs.idx = 0) (r : Request) :
    r.install s = some (r.installed : ℚ) := by
  obtain ⟨s', h1, -, h2⟩ := poll_request hidle r
  obtain ⟨h3, -⟩ := apply_installed r s.cfg
  unfold Request.install
  rw [h1, Option.map_some, h2, h3, Function.update_self]

/-- **Values that do not fit are not refused**: 65566 cm becomes 30 cm, 400 degrees a limit far
    below zero, and a sound level of 64 becomes 0; each call succeeds. -/
theorem attr_set_not_refused :
    let dist : Request := ⟨.distance, .distThresh, ⟨65566, 0⟩⟩
    let temp : Request := ⟨.ambientTemp, .tempMax, ⟨400, 0⟩⟩
    let sound : Request := ⟨.sound, .soundThresh, ⟨64, 0⟩⟩
    (∀ r ∈ [dist, temp, sound], sensorNodeAttrSet r.chan (.node r.attr) r.val =
        (.ok (), r.bytes) ∧ r.bytes.length = 5) ∧
      dist.install .initial = some 30 ∧ dist.scaled = 65566 ∧
      temp.install .initial = some (-25536) ∧ temp.scaled = 40000 ∧
      sound.install .initial = some 0 ∧ sound.scaled = 64 ∧
      attrExpr ⟨21474837, 0⟩ .tempMax = none := by
  refine ⟨fun r _ => ⟨rfl, rfl⟩, ?_, rfl, ?_, by decide, ?_, rfl, by decide⟩
  · rw [install_eq rfl]
    decide +kernel
  · rw [install_eq rfl]
    decide +kernel
  · rw [install_eq rfl]
    decide +kernel

/-! ## 3. Values of two parts -/

/-- The number a `sensor_value` denotes. -/
def toRat (val : SensorValue) : ℚ := (val.val1.toInt : ℚ) + (val.val2.toInt : ℚ) / 10 ^ 6

/-- The attributes in hundredths, with the range of the field each is sent in. -/
inductive HundredthsField : SensorNodeAttr → Int → Int → Prop
  | tempMax : HundredthsField .tempMax (-32768) 32767
  | humMax : HundredthsField .humMax 0 65535
  | humMin : HundredthsField .humMin 0 65535

/-- A `sensor_value` with parts of one sign and a fraction below one, whose hundredfold is in the
    range of the attribute's field. -/
structure InField (attr : SensorNodeAttr) (val : SensorValue) : Prop where
  frac : |val.val2.toInt| < 10 ^ 6
  sign : 0 ≤ val.val1.toInt * val.val2.toInt
  range : ∃ lo hi : Int, HundredthsField attr lo hi ∧ lo ≤ 100 * toRat val ∧ 100 * toRat val ≤ hi

/-- **The number asked for is the truncated hundredfold**, and it fits. -/
theorem InField.scaled {attr : SensorNodeAttr} {val : SensorValue} (h : InField attr val)
    (chan : SensorChannel) :
    Request.scaled ⟨chan, attr, val⟩ = Fixed.trunc (100 * toRat val) ∧
      Request.Fits ⟨chan, attr, val⟩ := by
  obtain ⟨lo, hi, hfield, h1, h2⟩ := h.range
  have h3 : Fixed.trunc (100 * toRat val) = val.val1.toInt * 100 + val.val2.toInt.tdiv 10000 :=
    Fixed.trunc_hundredfold h.sign
  have h4 := Fixed.trunc_mono h1
  have h5 := Fixed.trunc_mono h2
  rw [Fixed.trunc_intCast, h3] at h4 h5
  rcases hfield with _ | _ | _
  · exact ⟨h3.symm, h4, h5⟩
  · exact ⟨h3.symm, h4, h5⟩
  · exact ⟨h3.symm, h4, h5⟩

/-- **A value in range is installed as its truncated hundredfold.** -/
theorem install_inField {attr : SensorNodeAttr} {val : SensorValue} (h : InField attr val)
    {s : LinkState} (hidle : s.cs.idx = 0) (chan : SensorChannel) :
    Request.install s ⟨chan, attr, val⟩ = some (Fixed.trunc (100 * toRat val) : ℚ) := by
  obtain ⟨h1, h2⟩ := h.scaled chan
  rw [install_eq hidle, (installed_eq_iff _).mpr h2, h1]

/-- The parts of a number of hundredths: joined they are the number, and they denote a value in
    every range that holds it. -/
theorem parts_inField {val : SensorValue} {n : Int} (h1 : val.val1.toInt = n.tdiv 100)
    (h2 : val.val2.toInt = n.tmod 100 * 10000) :
    val.val1.toInt * 100 + val.val2.toInt.tdiv 10000 = n ∧
      ∀ {attr : SensorNodeAttr} {lo hi : Int}, HundredthsField attr lo hi → lo ≤ n → n ≤ hi →
        InField attr val := by
  obtain ⟨hval, hsign, hfrac⟩ := isHundredths_of_split h1 h2
  have hq : 100 * toRat val = (n : ℚ) := by
    unfold toRat
    rw [hval]
    ring
  refine ⟨by rw [h1, h2, Fixed.join_split], fun {attr lo hi} hfield hlo hhi => ?_⟩
  refine ⟨hfrac, hsign, lo, hi, hfield, ?_, ?_⟩
  · rw [hq]
    exact_mod_cast hlo
  · rw [hq]
    exact_mod_cast hhi

/-- The command frame of a word given by its two bytes. -/
theorem cmdFrame_join (cmd h l : UInt8) :
    cmdFrame cmd (UInt16.ofNat (Word.join h l)) = [sensorNodeCmdStart, cmd, h, l,
      sensorNodeCmdEnd] := by
  have h1 : (UInt16.ofNat (Word.join h l)).toNat = Word.join h l := by
    rw [UInt16.toNat_ofNat']
    exact Nat.mod_eq_of_lt (Word.join_lt h l)
  unfold cmdFrame
  rw [Word.lo_mask, h1, Word.hi_join, Word.lo_join]

/-- Two neighbouring bytes of a frame. -/
theorem take_pair (f : DataFrame) (i : Nat) (h : i + 1 < 10) :
    (f.toList.drop i).take 2 = [f[i], f[i + 1]] := by
  have hlen : f.toList.length = 10 := Vector.length_toList
  rw [List.drop_eq_getElem_cons (by omega), List.drop_eq_getElem_cons (by omega)]
  simp

/-- A word that was read as signed is sent as the same word. -/
theorem uint16_of_int16 (n : Nat) :
    UInt16.ofInt (Int16.ofInt (Int16.ofInt n).toInt).toInt = UInt16.ofNat n := by
  have h1 := Word.uint16_ofInt_toNat (Int16.ofInt n).toInt
  rw [Int16.toInt_ofInt] at h1
  rw [Int16.ofInt_toInt, ← UInt16.toNat_inj, UInt16.toNat_ofNat', Int16.toInt_ofInt]
  have h2 : ((n : Int).bmod Int16.size) % 65536 = (n : Int) % 65536 := Int.bmod_emod
  omega

/-- **A temperature read from a frame and sent back as a limit** is the frame's two bytes. -/
theorem resend_temp (data : SensorNodeData) (f : DataFrame) (chan : SensorChannel) :
    ∃ val, sensorNodeChannelGet (parseFrame data f) .ambientTemp = .ok val ∧
      InField .tempMax val ∧ sensorNodeAttrSet chan (.node .tempMax) val =
        (.ok (), [0xBB, 0x02] ++ (f.toList.drop 1).take 2 ++ [0x66]) := by
  obtain ⟨val, h1, h2, h3⟩ := channelGet_temp (parseFrame data f)
  obtain ⟨h4, hin⟩ := parts_inField h2 h3
  have h5 : (parseFrame data f).temperature = Int16.ofInt (Word.join f[1] f[2]) := rfl
  have hlo := (parseFrame data f).temperature.le_toInt
  have hhi := (parseFrame data f).temperature.toInt_lt
  refine ⟨val, h1, hin .tempMax (by omega) (by omega), ?_⟩
  rw [h5] at h4
  show (_, cmdFrame _ (UInt16.ofInt (Int16.ofInt _).toInt)) = _
  rw [h4, uint16_of_int16, cmdFrame_join, take_pair f 1 (by decide)]
  rfl

/-- **A humidity read from a frame and sent back as a limit**, likewise. -/
theorem resend_hum (data : SensorNodeData) (f : DataFrame) (chan : SensorChannel) :
    ∃ val, sensorNodeChannelGet (parseFrame data f) .humidity = .ok val ∧
      (InField .humMax val ∧ InField .humMin val) ∧
      sensorNodeAttrSet chan (.node .humMax) val =
        (.ok (), [0xBB, 0x04] ++ (f.toList.drop 3).take 2 ++ [0x66]) ∧
      sensorNodeAttrSet chan (.node .humMin) val =
        (.ok (), [0xBB, 0x05] ++ (f.toList.drop 3).take 2 ++ [0x66]) := by
  obtain ⟨val, h1, h2, h3⟩ := channelGet_hum (parseFrame data f)
  obtain ⟨h4, hin⟩ := parts_inField h2 h3
  have h8 := (parseFrame data f).humidity.toNat_lt
  have h5 : (parseFrame data f).humidity = UInt16.ofNat (Word.join f[3] f[4]) := rfl
  have h6 : UInt16.ofInt ((parseFrame data f).humidity.toNat : Int) =
      UInt16.ofNat (Word.join f[3] f[4]) := by
    have h7 := Word.uint16_ofInt_toNat (parseFrame data f).humidity.toNat
    rw [← h5, ← UInt16.toNat_inj]
    omega
  refine ⟨val, h1, ⟨hin .humMax (by omega) (by omega), hin .humMin (by omega) (by omega)⟩, ?_, ?_⟩
  · show (_, cmdFrame _ (UInt16.ofInt _)) = _
    rw [h4, h6, cmdFrame_join, take_pair f 3 (by decide)]
    rfl
  · show (_, cmdFrame _ (UInt16.ofInt _)) = _
    rw [h4, h6, cmdFrame_join, take_pair f 3 (by decide)]
    rfl

/-- **The conversions of the two directions are coherent.** A `sensor_value` in the range of the
    field is sent without overflow, and an idle parser installs its hundredfold, truncated toward
    zero; values in order are installed in order; and a temperature or humidity that `channel_get`
    reports of any frame a fetch took is in range, and sent back as a limit it is the two bytes of
    the frame. -/
theorem fixedPoint_coherent :
    (∀ (attr : SensorNodeAttr) (val : SensorValue), InField attr val →
      ∀ (s : LinkState), s.cs.idx = 0 → ∀ chan : SensorChannel,
        (attrExpr val attr).isSome ∧
        sensorNodeAttrSet chan (.node attr) val = (.ok (), Request.bytes ⟨chan, attr, val⟩) ∧
        Request.install s ⟨chan, attr, val⟩ = some (Fixed.trunc (100 * toRat val) : ℚ)) ∧
    (∀ (attr : SensorNodeAttr) (a b : SensorValue), InField attr a → InField attr b →
      toRat a ≤ toRat b → ∀ (s t : LinkState), s.cs.idx = 0 → t.cs.idx = 0 →
      ∀ chan chan' : SensorChannel, ∃ x y : ℚ, Request.install s ⟨chan, attr, a⟩ = some x ∧
        Request.install t ⟨chan', attr, b⟩ = some y ∧ x ≤ y) ∧
    ∀ (data data' : SensorNodeData) (chan chan' : SensorChannel),
      sensorNodeSampleFetch data chan = (.ok (), data') →
      let f := data.readyBuf
      (∃ val, sensorNodeChannelGet data' .ambientTemp = .ok val ∧
        InField .tempMax val ∧ sensorNodeAttrSet chan' (.node .tempMax) val =
          (.ok (), [0xBB, 0x02] ++ (f.toList.drop 1).take 2 ++ [0x66])) ∧
      ∃ val, sensorNodeChannelGet data' .humidity = .ok val ∧
        (InField .humMax val ∧ InField .humMin val) ∧
        sensorNodeAttrSet chan' (.node .humMax) val =
          (.ok (), [0xBB, 0x04] ++ (f.toList.drop 3).take 2 ++ [0x66]) ∧
        sensorNodeAttrSet chan' (.node .humMin) val =
          (.ok (), [0xBB, 0x05] ++ (f.toList.drop 3).take 2 ++ [0x66]) := by
  refine ⟨fun attr val h s hidle chan => ⟨attrExpr_of_fits (h.scaled chan).2, rfl,
      install_inField h hidle chan⟩,
    fun attr a b ha hb hab s t hs ht chan chan' => ?_, fun data data' chan chan' hfetch => ?_⟩
  · refine ⟨_, _, install_inField ha hs chan, install_inField hb ht chan', ?_⟩
    exact_mod_cast Fixed.trunc_mono (mul_le_mul_of_nonneg_left hab (by norm_num))
  · cases hu : (box data).unread with
    | false =>
      rw [sampleFetch_read hu] at hfetch
      cases hfetch
    | true =>
      rw [sampleFetch_unread hu] at hfetch
      obtain ⟨-, rfl⟩ := Prod.mk.inj hfetch
      exact ⟨resend_temp _ data.readyBuf chan', resend_hum _ data.readyBuf chan'⟩

/-- −5.25 and 20.005 degrees, and a frame with −0.50 degrees whose humidity word is `0xBB66`. -/
theorem fixedPoint_coherent_negative :
    let f : DataFrame := ⟨#[0xAA, 0xFF, 0xCE, 0xBB, 0x66, 0, 0, 42, 0, 0x55], rfl⟩
    let data : SensorNodeData := { SensorNodeData.initial ⟨0⟩ with
      readyBuf := f, frameSem := { count := 1, limit := 1 } }
    let low : SensorValue := ⟨-5, -250000⟩
    let high : SensorValue := ⟨20, 5000⟩
    let fetched := (sensorNodeSampleFetch data .humidity).2
    (sensorNodeSampleFetch data .humidity).1 = .ok () ∧
      sensorNodeChannelGet fetched .ambientTemp = .ok ⟨0, -500000⟩ ∧
      sensorNodeChannelGet fetched .humidity = .ok ⟨479, 740000⟩ ∧
      Request.install .initial ⟨.ambientTemp, .tempMax, low⟩ = some (-525) ∧
      (∃ x y : ℚ, Request.install .initial ⟨.ambientTemp, .tempMax, low⟩ = some x ∧
        Request.install .initial ⟨.ambientTemp, .tempMax, high⟩ = some y ∧ x ≤ y) ∧
      sensorNodeAttrSet .ambientTemp (.node .tempMax) ⟨0, -500000⟩ =
        (.ok (), [0xBB, 0x02, 0xFF, 0xCE, 0x66]) ∧
      sensorNodeAttrSet .humidity (.node .humMin) ⟨479, 740000⟩ =
        (.ok (), [0xBB, 0x05, 0xBB, 0x66, 0x66]) := by
  intro f data low high fetched
  have htemp : sensorNodeChannelGet fetched .ambientTemp = .ok ⟨0, -500000⟩ := by decide
  have hhum : sensorNodeChannelGet fetched .humidity = .ok ⟨479, 740000⟩ := by decide
  have hlow : InField .tempMax low := ⟨by decide, by decide, _, _, .tempMax, by decide +kernel,
    by decide +kernel⟩
  have hhigh : InField .tempMax high := ⟨by decide, by decide, _, _, .tempMax, by decide +kernel,
    by decide +kernel⟩
  obtain ⟨h1, h2, h3⟩ := fixedPoint_coherent
  obtain ⟨⟨t, ht, -, h4⟩, -⟩ := h3 data fetched .humidity .ambientTemp rfl
  obtain ⟨-, n, hn, -, -, h5⟩ := h3 data fetched .humidity .humidity rfl
  obtain rfl := Except.ok.inj (htemp.symm.trans ht)
  obtain rfl := Except.ok.inj (hhum.symm.trans hn)
  refine ⟨rfl, htemp, hhum, ?_, h2 .tempMax low high hlow hhigh (by decide +kernel) .initial
    .initial rfl rfl .ambientTemp .ambientTemp, h4, h5⟩
  rw [(h1 .tempMax low hlow .initial rfl .ambientTemp).2.2]
  decide +kernel

end HomeAlert.Link
