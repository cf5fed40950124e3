/-
  File:      HomeAlert/Base/Report.lean
  Subject:   WHAT THE APPLICATION OF THE BASE NODE REPORTS (base_node/src/main.c: the loop of main).

  A turn of the loop fetches, gets the five channels, prints them in one line and sets the LEDs.
  `printk` is C's printf (Library/Printf.lean).

  * `text_shows_iff` -- the line shows a temperature that is not negative, or a whole number of
    degrees, and always the humidity; any other temperature is printed as no decimal number;
  * `text_inj` -- the line determines all five fields, of negative temperatures too;
  * `console_denotes_iff` -- both, for the frame that a turn fetches.
-/
import HomeAlert.Base.Fetch
import HomeAlert.Library.Printf

namespace HomeAlert.Base

open Printf

/-! ## 1. The loop of main -/

def alarmMotionBit : UInt8 := 0x01
def alarmTempBit : UInt8 := 0x02
def alarmSoundBit : UInt8 := 0x04
def alarmHumidityBit : UInt8 := 0x10

/-- The levels of the four LEDs. -/
structure Leds where
  motion : Bool
  temp : Bool
  sound : Bool
  humidity : Bool
  deriving DecidableEq, Repr

/-- The five values that a turn gets. -/
structure Report where
  temp : SensorValue
  humidity : SensorValue
  sound : SensorValue
  dist : SensorValue
  alarm : SensorValue
  deriving DecidableEq, Repr

/-- The five `sensor_channel_get`. Their results are not looked at: where one fails, its value is
    not initialised, and there is no report. -/
def report (data : SensorNodeData) : Option Report := do
  let temp ← (sensorNodeChannelGet data .ambientTemp).toOption
  let humidity ← (sensorNodeChannelGet data .humidity).toOption
  let sound ← (sensorNodeChannelGet data .sound).toOption
  let dist ← (sensorNodeChannelGet data .distance).toOption
  let alarm ← (sensorNodeChannelGet data .alarmStatus).toOption
  some { temp, humidity, sound, dist, alarm }

def Report.alarmFlags (r : Report) : UInt8 := UInt8.ofInt r.alarm.val1.toInt

def tempFormat : List Piece := [.text "[BASE] Temp: ", .dec 0, .text ".", .dec 2, .text " C | "]
def humidityFormat : List Piece := [.text "Humidity: ", .dec 0, .text ".", .dec 2, .text " % | "]
def soundFormat : List Piece := [.text "Sound: ", .dec 0, .text " | "]
def distFormat : List Piece := [.text "Distance: ", .dec 0, .text " cm | "]
def alarmFormat : List Piece := [.text "Alarm: 0x", .hex 2, .text "\n"]

/-- The line, printed in five calls. -/
def Report.text (r : Report) : List Char :=
  printf tempFormat (r.temp.val1.toInt, r.temp.val2.toInt.tdiv 10000, ()) ++
  (printf humidityFormat (r.humidity.val1.toInt, r.humidity.val2.toInt.tdiv 10000, ()) ++
  (printf soundFormat (r.sound.val1.toInt, ()) ++
  (printf distFormat (r.dist.val1.toInt, ()) ++
  printf alarmFormat (r.alarmFlags.toNat, ()))))

def Report.leds (r : Report) : Leds where
  motion := r.alarmFlags &&& alarmMotionBit ≠ 0
  temp := r.alarmFlags &&& alarmTempBit ≠ 0
  sound := r.alarmFlags &&& alarmSoundBit ≠ 0
  humidity := r.alarmFlags &&& alarmHumidityBit ≠ 0

/-- What is printed behind the line. -/
def Report.notice (r : Report) : List Char :=
  if r.alarmFlags ≠ 0 then "ALARM ACTIVE\n".toList else []

/-- One turn of the loop: what it prints, the LEDs and the instance data after it. `errno` gives
    Zephyr's error numbers, `chanAll` is `SENSOR_CHAN_ALL`. -/
def mainTurn (errno : Errno → Int) (chanAll : SensorChannel) (leds : Leds)
    (data : SensorNodeData) : Option (List Char × Leds × SensorNodeData) :=
  match sensorNodeSampleFetch data chanAll with
  | (.ok (), data) => do
      let r ← report data
      some (r.text ++ r.notice, r.leds, data)
  | (.error .eagain, data) =>
      some ("WARNING: No data from sensor node (timeout)\n".toList, leds, data)
  | (.error err, data) =>
      some (printf [.text "ERROR: sensor_sample_fetch failed (", .dec 0, .text ")\n"]
        (errno err, ()), leds, data)

/-! ## 2. What a turn gets -/

/-- The report of five fields, as integers. -/
structure Report.Of (r : Report) (v : Fields) : Prop where
  temp_val1 : r.temp.val1.toInt = v.temperature.toInt.tdiv 100
  temp_val2 : r.temp.val2.toInt.tdiv 10000 = v.temperature.toInt.tmod 100
  hum_val1 : r.humidity.val1.toInt = (v.humidity.toNat : Int).tdiv 100
  hum_val2 : r.humidity.val2.toInt.tdiv 10000 = (v.humidity.toNat : Int).tmod 100
  sound : r.sound.val1.toInt = v.sound.toNat
  dist : r.dist.val1.toInt = v.distance.toNat
  alarm : r.alarmFlags = v.alarmStatus

/-- **Every channel is got**, whatever the instance data. -/
theorem report_of (data : SensorNodeData) : ∃ r, report data = some r ∧ r.Of data.fields := by
  rcases channelGet_temp data with ⟨temp, htemp, htemp1, htemp2⟩
  rcases channelGet_hum data with ⟨hum, hhum, hhum1, hhum2⟩
  have hsound := data.sound.toNat_lt
  have hdist := data.distance.toNat_lt
  have halarm := data.alarmStatus.toNat_lt
  refine ⟨⟨temp, hum, ⟨Int32.ofInt data.sound.toNat, 0⟩, ⟨Int32.ofInt data.distance.toNat, 0⟩,
    ⟨Int32.ofInt data.alarmStatus.toNat, 0⟩⟩, ?_, htemp1, ?_, hhum1, ?_, ?_, ?_, ?_⟩
  · rw [report, htemp, hhum]
    rfl
  · rw [htemp2]
    exact Int.mul_tdiv_cancel _ (by omega)
  · rw [hhum2]
    exact Int.mul_tdiv_cancel _ (by omega)
  · exact int32_toInt (by omega) (by omega)
  · exact int32_toInt (by omega) (by omega)
  · show UInt8.ofInt (Int32.ofInt data.alarmStatus.toNat).toInt = data.alarmStatus
    have hbyte := Word.toNat_ofInt data.alarmStatus.toNat
    rw [int32_toInt (by omega) (by omega), ← UInt8.toNat_inj]
    omega

/-- **A turn that has a block to fetch** prints the report of its fields. -/
theorem mainTurn_unread (errno : Errno → Int) (chanAll : SensorChannel) (leds : Leds)
    {data : SensorNodeData} (h : (box data).unread = true) :
    ∃ (r : Report) (data' : SensorNodeData),
      mainTurn errno chanAll leds data = some (r.text ++ r.notice, r.leds, data') ∧
      r.Of (frameFields data.readyBuf) := by
  rcases report_of (sensorNodeSampleFetch data chanAll).2 with ⟨r, hr, hof⟩
  refine ⟨r, (sensorNodeSampleFetch data chanAll).2, ?_, ?_⟩
  · unfold mainTurn
    rw [sampleFetch_unread h] at hr ⊢
    show (report _).bind _ = _
    rw [hr]
    rfl
  · rw [sampleFetch_unread h] at hof
    exact hof

/-! ## 3. What the line shows -/

/-- **The line shows a temperature and a humidity**: where it prints the two, there are decimal
    numbers that denote them. -/
def Shows (line : List Char) (temperature humidity : ℚ) : Prop :=
  ∃ t h rest, line = "[BASE] Temp: ".toList ++ (t ++ (" C | Humidity: ".toList ++
      (h ++ (" % | ".toList ++ rest)))) ∧
    read t = some temperature ∧ read h = some humidity

/-- The line begins with the two numbers, each printed around a point. -/
theorem text_point (r : Report) : ∃ rest, r.text = "[BASE] Temp: ".toList ++
    (point 2 r.temp.val1.toInt (r.temp.val2.toInt.tdiv 10000) ++ (" C | Humidity: ".toList ++
      (point 2 r.humidity.val1.toInt (r.humidity.val2.toInt.tdiv 10000) ++
        (" % | ".toList ++ rest)))) := by
  refine ⟨printf soundFormat (r.sound.val1.toInt, ()) ++
    (printf distFormat (r.dist.val1.toInt, ()) ++ printf alarmFormat (r.alarmFlags.toNat, ())), ?_⟩
  simp [Report.text, printf, tempFormat, humidityFormat, point]

/-- A decimal number in front of a text that begins with a blank is determined. -/
theorem blank_inj {text s t u v : List Char} (htext : text.head? = some ' ')
    (hs : ∀ c ∈ s, decimal c = true) (ht : ∀ c ∈ t, decimal c = true)
    (h : s ++ (text ++ u) = t ++ (text ++ v)) : s = t ∧ u = v := by
  rcases List.head?_eq_some_iff.mp htext with ⟨text', rfl⟩
  rcases append_inj_of_ends hs ht rfl rfl h with ⟨h1, h2⟩
  exact ⟨h1, List.append_cancel_left (List.cons.inj h2).2⟩

/-- **What is shown is what the two printed numbers read as.** -/
theorem shows_iff (r : Report) (more : List Char) (temperature humidity : ℚ) :
    Shows (r.text ++ more) temperature humidity ↔
      read (point 2 r.temp.val1.toInt (r.temp.val2.toInt.tdiv 10000)) = some temperature ∧
      read (point 2 r.humidity.val1.toInt (r.humidity.val2.toInt.tdiv 10000)) =
        some humidity := by
  rcases text_point r with ⟨rest, htext⟩
  constructor
  · intro h
    rcases h with ⟨t, h, rest', hline, ht, hh⟩
    simp only [htext, List.append_assoc] at hline
    rcases blank_inj rfl (decimal_point _ _ _) (decimal_of_read ht)
      (List.append_cancel_left hline) with ⟨rfl, h1⟩
    rcases blank_inj rfl (decimal_point _ _ _) (decimal_of_read hh) h1 with ⟨rfl, -⟩
    exact ⟨ht, hh⟩
  · intro h
    refine ⟨_, _, rest ++ more, ?_, h.1, h.2⟩
    rw [htext]
    simp only [List.append_assoc]

/-- A number of hundredths, printed as its two parts. -/
theorem read_hundredths (n : Int) :
    read (point 2 (n.tdiv 100) (n.tmod 100)) =
      if 0 ≤ n ∨ 100 ∣ n then some ((n : ℚ) / 100) else none := by
  have h := read_split (w := 2) (by omega) n
  rw [show (10 : Int) ^ 2 = 100 from rfl, show (10 : ℚ) ^ 2 = 100 by norm_num] at h
  exact h

/-- **What the line of a report shows**: the humidity always, the temperature where it is not
    negative or a whole number of degrees. Otherwise it shows nothing. -/
theorem text_shows_iff {r : Report} {v : Fields} (h : r.Of v) (more : List Char)
    (temperature humidity : ℚ) :
    Shows (r.text ++ more) temperature humidity ↔
      (0 ≤ v.temperature.toInt ∨ 100 ∣ v.temperature.toInt) ∧
      temperature = (v.temperature.toInt : ℚ) / 100 ∧ humidity = (v.humidity.toNat : ℚ) / 100 := by
  have hnonneg : (0 : Int) ≤ v.humidity.toNat := Int.natCast_nonneg _
  rw [shows_iff, h.temp_val1, h.temp_val2, h.hum_val1, h.hum_val2, read_hundredths,
    read_hundredths, if_pos (Or.inl hnonneg), Int.cast_natCast]
  by_cases hc : 0 ≤ v.temperature.toInt ∨ 100 ∣ v.temperature.toInt
  · rw [if_pos hc, Option.some_inj, Option.some_inj]
    exact ⟨fun he => ⟨hc, he.1.symm, he.2.symm⟩, fun he => ⟨he.2.1.symm, he.2.2.symm⟩⟩
  · rw [if_neg hc]
    exact iff_of_false (fun he => (by cases he.1)) fun he => hc he.1

/-! ## 4. The line determines the fields -/

theorem separated_temp : Separated tempFormat :=
  ⟨⟨'.', _, rfl, rfl⟩, ⟨' ', _, rfl, rfl⟩, trivial⟩

theorem separated_humidity : Separated humidityFormat :=
  ⟨⟨'.', _, rfl, rfl⟩, ⟨' ', _, rfl, rfl⟩, trivial⟩

theorem separated_sound : Separated soundFormat := ⟨⟨' ', _, rfl, rfl⟩, trivial⟩

theorem separated_dist : Separated distFormat := ⟨⟨' ', _, rfl, rfl⟩, trivial⟩

theorem separated_alarm : Separated alarmFormat := ⟨⟨Char.ofNat 10, _, rfl, rfl⟩, trivial⟩

/-- Quotient and remainder determine a number. -/
theorem eq_of_split {m n : Int} (h1 : m.tdiv 100 = n.tdiv 100) (h2 : m.tmod 100 = n.tmod 100) :
    m = n := by
  rw [← Int.mul_tdiv_add_tmod m 100, ← Int.mul_tdiv_add_tmod n 100, h1, h2]

/-- **The line determines the numbers printed in it**, whatever is printed behind it. -/
theorem text_numbers {r r' : Report} {more more' : List Char}
    (e : r.text ++ more = r'.text ++ more') :
    (r.temp.val1.toInt = r'.temp.val1.toInt ∧
      r.temp.val2.toInt.tdiv 10000 = r'.temp.val2.toInt.tdiv 10000) ∧
    (r.humidity.val1.toInt = r'.humidity.val1.toInt ∧
      r.humidity.val2.toInt.tdiv 10000 = r'.humidity.val2.toInt.tdiv 10000) ∧
    r.sound.val1.toInt = r'.sound.val1.toInt ∧ r.dist.val1.toInt = r'.dist.val1.toInt ∧
    r.alarmFlags = r'.alarmFlags := by
  unfold Report.text at e
  simp only [List.append_assoc] at e
  rcases printf_append_inj separated_temp e with ⟨htemp, e⟩
  rcases printf_append_inj separated_humidity e with ⟨hhum, e⟩
  rcases printf_append_inj separated_sound e with ⟨hsound, e⟩
  rcases printf_append_inj separated_dist e with ⟨hdist, e⟩
  rcases printf_append_inj separated_alarm e with ⟨halarm, -⟩
  rcases Prod.mk.inj htemp with ⟨htemp1, htemp2⟩
  rcases Prod.mk.inj hhum with ⟨hhum1, hhum2⟩
  exact ⟨⟨htemp1, (Prod.mk.inj htemp2).1⟩, ⟨hhum1, (Prod.mk.inj hhum2).1⟩,
    (Prod.mk.inj hsound).1, (Prod.mk.inj hdist).1, UInt8.toNat_inj.mp (Prod.mk.inj halarm).1⟩

/-- **The line of a report determines its fields**, whatever is printed behind it. -/
theorem text_inj {r r' : Report} {v v' : Fields} (h : r.Of v) (h' : r'.Of v')
    {more more' : List Char} (e : r.text ++ more = r'.text ++ more') : v = v' := by
  rcases text_numbers e with ⟨⟨htemp1, htemp2⟩, ⟨hhum1, hhum2⟩, hsound, hdist, halarm⟩
  rw [h.temp_val1, h'.temp_val1] at htemp1
  rw [h.temp_val2, h'.temp_val2] at htemp2
  rw [h.hum_val1, h'.hum_val1] at hhum1
  rw [h.hum_val2, h'.hum_val2] at hhum2
  rw [h.sound, h'.sound] at hsound
  rw [h.dist, h'.dist] at hdist
  rw [h.alarm, h'.alarm] at halarm
  rcases v with ⟨temp, hum, sound, dist, alarm⟩
  rcases v' with ⟨temp', hum', sound', dist', alarm'⟩
  obtain rfl : temp = temp' := Int16.toInt_inj.mp (eq_of_split htemp1 htemp2)
  obtain rfl : hum = hum' := UInt16.toNat_inj.mp (Int.ofNat.inj (eq_of_split hhum1 hhum2))
  obtain rfl : sound = sound' := UInt8.toNat_inj.mp (Int.ofNat.inj hsound)
  obtain rfl : dist = dist' := UInt16.toNat_inj.mp (Int.ofNat.inj hdist)
  obtain rfl : alarm = alarm' := halarm
  rfl

/-! ## 5. The console denotes the frame -/

/-- **When the printed line denotes the frame.** A turn that has a block to fetch prints a line
    that shows the block's temperature and humidity if and only if the temperature is not negative
    or a whole number of degrees. No other block's fields are printed the same, in either case. -/
theorem console_denotes_iff (errno : Errno → Int) (chanAll : SensorChannel) (leds : Leds)
    {data : SensorNodeData} (h : (box data).unread = true) :
    ∃ line leds' data', mainTurn errno chanAll leds data = some (line, leds', data') ∧
      (Shows line (((frameFields data.readyBuf).temperature.toInt : ℚ) / 100)
          (((frameFields data.readyBuf).humidity.toNat : ℚ) / 100) ↔
        0 ≤ (frameFields data.readyBuf).temperature.toInt ∨
          100 ∣ (frameFields data.readyBuf).temperature.toInt) ∧
      ∀ {other : SensorNodeData}, (box other).unread = true → ∀ leds₁ leds₂ data₂,
        mainTurn errno chanAll leds₁ other = some (line, leds₂, data₂) →
        frameFields other.readyBuf = frameFields data.readyBuf := by
  rcases mainTurn_unread errno chanAll leds h with ⟨r, data', hturn, hof⟩
  refine ⟨_, _, _, hturn, ?_, ?_⟩
  · rw [text_shows_iff hof]
    exact ⟨fun hs => hs.1, fun hc => ⟨hc, rfl, rfl⟩⟩
  · intro other hother leds₁ leds₂ data₂ hturn'
    rcases mainTurn_unread errno chanAll leds₁ hother with ⟨r', data₁, hturn₁, hof'⟩
    rw [hturn₁] at hturn'
    exact text_inj hof' hof (congrArg Prod.fst (Option.some.inj hturn'))

/-- The instance data once the frame `f` has been received. -/
def holding (f : DataFrame) : SensorNodeData :=
  { SensorNodeData.initial ⟨1⟩ with
    rxBuf := f
    readyBuf := f
    frameSem := { count := 1, limit := 1 } }

/-- The frame of 23.50 degrees and 55.00 percent, and one of -0.50 degrees. -/
def warmFrame : DataFrame := #v[0xAA, 0x09, 0x2E, 0x15, 0x7C, 80, 0, 42, 0x01, 0x55]
def coldFrame : DataFrame := #v[0xAA, 0xFF, 0xCE, 0x15, 0x7C, 80, 0, 42, 0x01, 0x55]

/-- The warm frame, received and fetched. -/
theorem console_denotes_iff_warm :
    sensorNodeUartIsr (.initial ⟨1⟩) (warmFrame.toList.map some) =
        some (holding warmFrame, [warmFrame]) ∧
      ∃ line leds data', mainTurn (fun _ => -1) (.other 0) ⟨false, false, false, false⟩
          (holding warmFrame) = some (line, leds, data') ∧
        Shows line (2350 / 100) (5500 / 100) := by
  have hunread : (box (holding warmFrame)).unread = true := rfl
  rcases console_denotes_iff (fun _ => -1) (.other 0) ⟨false, false, false, false⟩ hunread with
    ⟨line, leds, data', hturn, hshows, -⟩
  exact ⟨rfl, line, leds, data', hturn, hshows.mpr (Or.inl (by decide))⟩

/-- **A line that does not denote its frame**: -0.50 degrees are printed as `0.-50`, which is no
    decimal number. -/
theorem console_denotes_broken :
    sensorNodeUartIsr (.initial ⟨1⟩) (coldFrame.toList.map some) =
        some (holding coldFrame, [coldFrame]) ∧
      (frameFields coldFrame).temperature = -50 ∧ (frameFields coldFrame).humidity = 5500 ∧
      ∃ line leds data', mainTurn (fun _ => -1) (.other 0) ⟨false, false, false, false⟩
          (holding coldFrame) = some (line, leds, data') ∧
        line = ("[BASE] Temp: 0.-50 C | Humidity: 55.00 % | Sound: 80 | Distance: 42 cm | " ++
          "Alarm: 0x01\nALARM ACTIVE\n").toList ∧
        ¬ Shows line (-50 / 100) (5500 / 100) := by
  have hunread : (box (holding coldFrame)).unread = true := rfl
  have hline : (mainTurn (fun _ => -1) (.other 0) ⟨false, false, false, false⟩
      (holding coldFrame)).map Prod.fst =
    some ("[BASE] Temp: 0.-50 C | Humidity: 55.00 % | Sound: 80 | Distance: 42 cm | " ++
      "Alarm: 0x01\nALARM ACTIVE\n").toList := by
    decide +kernel
  rcases mainTurn_unread (fun _ => -1) (.other 0) ⟨false, false, false, false⟩ hunread with
    ⟨r, data', hturn, hof⟩
  rw [hturn] at hline
  refine ⟨rfl, rfl, rfl, _, _, _, hturn, Option.some.inj hline, fun hs => ?_⟩
  have hcond := ((text_shows_iff hof r.notice (-50 / 100) (5500 / 100)).mp hs).1
  exact absurd hcond (by decide)

end HomeAlert.Base
