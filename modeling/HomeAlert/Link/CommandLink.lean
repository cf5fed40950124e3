/-
  File:      HomeAlert/Link/CommandLink.lean
  Subject:   THE COMMAND LINK END TO END: what the base node requests is what the sensor node's
             thresholds become, and the parser's recovery from noise.

  `sensor_node_attr_set` (base node) encodes a request, `poll_commands` (sensor node) takes the
  bytes in any pieces. The settings are registers (Library/Registers.lean): the configuration,
  read as exact numbers (`Config.threshold`), is what the completely received requests write.
-/
import HomeAlert.Base.Driver
import HomeAlert.Library.Registers
import HomeAlert.Library.Resync
import HomeAlert.Node.Commands
import Mathlib.Data.Rat.Cast.Defs
import Mathlib.Tactic.Linarith

namespace HomeAlert.Link

open Framing Machine Registers Base Node

/-! ## 1. Requests -/

/-- One call of `sensor_node_attr_set` on an attribute it knows. -/
structure Request where
  chan : SensorChannel
  attr : SensorNodeAttr
  val : SensorValue
  deriving DecidableEq, Repr

/-- What the call gives to `uart_poll_out`. -/
def Request.bytes (r : Request) : List UInt8 := (sensorNodeAttrSet r.chan (.node r.attr) r.val).2

/-- The pair the request stands for. -/
def Request.command (r : Request) : UInt8 × UInt16 := attrCommand r.val r.attr

/-- The bytes of several calls. -/
def commandStream (rs : List Request) : List UInt8 := (rs.map Request.bytes).flatten

theorem Request.bytes_eq (r : Request) : r.bytes = cmdFrame r.command.1 r.command.2 := rfl

/-- **Every request is a well-formed frame** of the command link's grammar. -/
theorem request_isFrame (r : Request) : IsFrame cmdGrammar r.bytes where
  length_eq := rfl
  start := rfl
  stop := rfl

theorem requests_isFrame (rs : List Request) :
    ∀ f ∈ rs.map Request.bytes, IsFrame cmdGrammar f := by
  intro f hf
  obtain ⟨r, -, rfl⟩ := List.mem_map.mp hf
  exact request_isFrame r

/-- **The parser reads a request back** from its bytes. -/
theorem commandOf_bytes (r : Request) : commandOf r.bytes = r.command := by
  have hval : UInt16.ofNat (Word.join (Word.hi r.command.2.toNat)
      (Word.lo (r.command.2.toNat &&& 0xFF : Nat))) = r.command.2 := by
    rw [Word.lo_mask]
    exact Word.uint16_join r.command.2
  rw [r.bytes_eq]
  exact Prod.ext rfl hval

theorem map_commandOf (rs : List Request) :
    (rs.map Request.bytes).map commandOf = rs.map Request.command := by
  rw [List.map_map]
  exact List.map_congr_left fun r _ => commandOf_bytes r

theorem commandStream_append (a b : List Request) :
    commandStream (a ++ b) = commandStream a ++ commandStream b := by
  unfold commandStream
  rw [List.map_append, List.flatten_append]

theorem commandStream_length (rs : List Request) : (commandStream rs).length = 5 * rs.length := by
  have h := flatten_length (requests_isFrame rs)
  rwa [List.length_map] at h

/-! ## 2. What a request means -/

/-- **The number a request asks for**, in the unit of its threshold: hundredths for temperature
    and humidity. -/
def Request.scaled (r : Request) : Int :=
  match r.attr with
  | .distThresh | .soundThresh => r.val.val1.toInt
  | .tempMax | .humMax | .humMin => r.val.val1.toInt * 100 + r.val.val2.toInt.tdiv 10000

/-- The number fits the field it is sent in. -/
def Request.Fits (r : Request) : Prop :=
  match r.attr with
  | .distThresh | .humMax | .humMin => 0 ≤ r.scaled ∧ r.scaled ≤ 65535
  | .soundThresh => 0 ≤ r.scaled ∧ r.scaled ≤ 63
  | .tempMax => -32768 ≤ r.scaled ∧ r.scaled ≤ 32767

/-- **The thresholds as registers**: the exact number each variable holds. -/
def thresholds (cfg : Config) : SensorNodeAttr → ℚ
  | .distThresh => cfg.thresholdDist
  | .tempMax => cfg.thresholdTemp.toInt
  | .soundThresh => cfg.thresholdSound.toNat
  | .humMax => cfg.thresholdHumMax.toNat
  | .humMin => cfg.thresholdHumMin.toNat

/-- What a request writes. -/
def Request.write (r : Request) : SensorNodeAttr × ℚ := (r.attr, r.scaled)

/-- **The number a request leaves in its threshold**: what the conversions of the two ends and the
    sound threshold's mask keep of it. -/
def Request.installed (r : Request) : Int :=
  match r.attr with
  | .distThresh | .humMax | .humMin => r.scaled % 65536
  | .soundThresh => r.scaled % 64
  | .tempMax => r.scaled.bmod 65536

/-- The threshold holds the number asked for just when that number fits. -/
theorem installed_eq_iff (r : Request) : r.installed = r.scaled ↔ r.Fits := by
  obtain ⟨chan, attr, val⟩ := r
  rcases attr with _ | _ | _ | _ | _
  · show val.val1.toInt % 65536 = val.val1.toInt ↔ _ ∧ _
    simp only [Request.scaled]
    omega
  · show Int.bmod _ 65536 = _ ↔ _ ∧ _
    rw [Int.bmod_def]
    omega
  · show val.val1.toInt % 64 = val.val1.toInt ↔ _ ∧ _
    simp only [Request.scaled]
    omega
  · show _ % 65536 = _ ↔ _ ∧ _
    omega
  · show _ % 65536 = _ ↔ _ ∧ _
    omega

/-- What a word holds of a number, as an exact number. -/
theorem uint16_rat (n : Int) : (((UInt16.ofInt n).toNat : Nat) : ℚ) = ((n % 65536 : Int) : ℚ) := by
  rw [← Word.uint16_ofInt_toNat, Int.cast_natCast]

theorem sound_rat (v : Int32) :
    ((((UInt16.ofInt (v &&& 0x3F).toInt) &&& 0x3F).toUInt8.toNat : Nat) : ℚ) =
      ((v.toInt % 64 : Int) : ℚ) := by
  have h1 : ((UInt16.ofInt (v &&& 0x3F).toInt).toNat : Int) = v.toInt % 64 % 65536 := by
    rw [Word.uint16_ofInt_toNat, Word.int32_low6]
  have h2 : ((UInt16.ofInt (v &&& 0x3F).toInt).toNat % 64 : Nat) = v.toInt % 64 := by omega
  rw [Word.uint16_low6, ← h2, Int.cast_natCast]

/-- **Applying a request writes `installed` to its threshold** and touches nothing else. -/
theorem apply_installed (r : Request) (cfg : Config) :
    thresholds (applyCommand cfg r.command.1 r.command.2) =
        Function.update (thresholds cfg) r.attr r.installed ∧
      (applyCommand cfg r.command.1 r.command.2).irqEnabled = cfg.irqEnabled ∧
      (applyCommand cfg r.command.1 r.command.2).irqMask = cfg.irqMask := by
  obtain ⟨chan, attr, val⟩ := r
  cases attr with
  | distThresh =>
    refine ⟨?_, rfl, rfl⟩
    funext a
    cases a with
    | distThresh => exact uint16_rat val.val1.toInt
    | _ => rfl
  | tempMax =>
    refine ⟨?_, rfl, rfl⟩
    funext a
    cases a with
    | tempMax => exact congrArg (fun n : Int => (n : ℚ)) (Word.int16_word _)
    | _ => rfl
  | soundThresh =>
    refine ⟨?_, rfl, rfl⟩
    funext a
    cases a with
    | soundThresh => exact sound_rat val.val1
    | _ => rfl
  | humMax =>
    refine ⟨?_, rfl, rfl⟩
    funext a
    cases a with
    | humMax => exact uint16_rat _
    | _ => rfl
  | humMin =>
    refine ⟨?_, rfl, rfl⟩
    funext a
    cases a with
    | humMin => exact uint16_rat _
    | _ => rfl

/-- **Applying a fitting request writes its number** to its threshold and touches nothing else. -/
theorem apply_request {r : Request} (h : r.Fits) (cfg : Config) :
    thresholds (applyCommand cfg r.command.1 r.command.2) =
        Function.update (thresholds cfg) r.attr r.scaled ∧
      (applyCommand cfg r.command.1 r.command.2).irqEnabled = cfg.irqEnabled ∧
      (applyCommand cfg r.command.1 r.command.2).irqMask = cfg.irqMask := by
  have h1 := apply_installed r cfg
  rwa [(installed_eq_iff r).mpr h] at h1

/-- A run of requests writes the thresholds as registers, and leaves the interrupt settings. -/
theorem apply_requests {rs : List Request} (h : ∀ r ∈ rs, r.Fits) (cfg : Config) :
    thresholds (applyCommands cfg (rs.map Request.command)) =
        writes (thresholds cfg) (rs.map Request.write) ∧
      (applyCommands cfg (rs.map Request.command)).irqEnabled = cfg.irqEnabled ∧
      (applyCommands cfg (rs.map Request.command)).irqMask = cfg.irqMask := by
  induction rs generalizing cfg with
  | nil => exact ⟨rfl, rfl, rfl⟩
  | cons r rs ih =>
    obtain ⟨h1, h2, h3⟩ := apply_request (h r List.mem_cons_self) cfg
    obtain ⟨h4, h5, h6⟩ := ih (fun r' hr' => h r' (List.mem_cons_of_mem r hr'))
      (applyCommand cfg r.command.1 r.command.2)
    rw [h1] at h4
    exact ⟨h4, h5.trans h2, h6.trans h3⟩

/-! ## 3. The command link -/

/-- A cut stream of commands: the calls made are the commands that are complete. -/
theorem poll_stream {s : LinkState} (hidle : s.cs.idx = 0) (rs : List Request)
    (polls : List (List UInt8)) (hpolls : polls.flatten <+: commandStream rs) :
    ∃ s', run pollCommands s polls =
        some (s', (rs.take (polls.flatten.length / 5)).map Request.command) ∧
      s'.cfg = applyCommands s.cfg ((rs.take (polls.flatten.length / 5)).map Request.command) := by
  obtain ⟨s', calls, h1, -, h3⟩ := poll_run (CmdState.assembling_idle hidle) polls.flatten
  have h4 := poll_config h1
  rw [receive_cut (requests_isFrame rs) hpolls, cmdGrammar_len, ← List.map_take,
    map_commandOf] at h3
  rw [h3] at h1 h4
  exact ⟨s', (run_run s polls).trans h1, h4⟩

/-- **The command link, end to end.** Requests that fit their fields are sent without loss to an
    idle parser, their bytes cut into polls in any way. After these polls the thresholds are what
    the completely received requests, and no others, wrote: for each the exact number last
    requested, or the value before if none was. The interrupt settings are untouched. -/
theorem commandLink_endToEnd (s : LinkState) (hidle : s.cs.idx = 0) (rs : List Request)
    (hfit : ∀ r ∈ rs, r.Fits) (polls : List (List UInt8))
    (hpolls : polls.flatten <+: commandStream rs) :
    ∃ s' calls, run pollCommands s polls = some (s', calls) ∧
      thresholds s'.cfg =
        ((rs.take (polls.flatten.length / 5)).map Request.write).foldl
          (fun f w => Function.update f w.1 w.2) (thresholds s.cfg) ∧
      (∀ a, thresholds s'.cfg a =
        (((rs.take (polls.flatten.length / 5)).filter fun r => r.attr = a).getLast?.map
          fun r => (r.scaled : ℚ)).getD (thresholds s.cfg a)) ∧
      s'.cfg.irqEnabled = s.cfg.irqEnabled ∧ s'.cfg.irqMask = s.cfg.irqMask := by
  obtain ⟨s', h1, h2⟩ := poll_stream hidle rs polls hpolls
  have hdone : ∀ r ∈ rs.take (polls.flatten.length / 5), r.Fits :=
    fun r hr => hfit r (List.mem_of_mem_take hr)
  obtain ⟨h3, h4, h5⟩ := apply_requests hdone s.cfg
  rw [← h2] at h3 h4 h5
  refine ⟨s', _, h1, h3, fun a => ?_, h4, h5⟩
  rw [h3, writes_apply, lastWrite, List.filter_map, List.getLast?_map, Option.map_map]
  rfl

/-- Three requests, their bytes cut inside the second: a negative temperature, `0xBB66` as a
    humidity, and a temperature that does not arrive in full. -/
theorem commandLink_endToEnd_cut :
    let rs : List Request :=
      [⟨.ambientTemp, .tempMax, ⟨-5, -250000⟩⟩, ⟨.humidity, .humMax, ⟨479, 740000⟩⟩,
       ⟨.ambientTemp, .tempMax, ⟨20, 0⟩⟩]
    ∃ s' calls, run pollCommands .initial
        [(commandStream rs).take 7, [], ((commandStream rs).drop 7).take 6] = some (s', calls) ∧
      thresholds s'.cfg .tempMax = -525 ∧ thresholds s'.cfg .humMax = 47974 ∧
      thresholds s'.cfg .humMin = 2000 ∧ s'.cfg.irqMask = 0x17 := by
  intro rs
  obtain ⟨s', calls, h1, -, h2, -, h3⟩ := commandLink_endToEnd .initial rfl rs (by
    intro r hr
    rcases List.mem_cons.mp hr with rfl | hr
    · exact ⟨by decide, by decide⟩
    · rcases List.mem_cons.mp hr with rfl | hr
      · exact ⟨by decide, by decide⟩
      · rcases List.mem_singleton.mp hr with rfl
        exact ⟨by decide, by decide⟩)
    [(commandStream rs).take 7, [], ((commandStream rs).drop 7).take 6] (by decide)
  exact ⟨s', calls, h1, (h2 .tempMax).trans (by decide +kernel),
    (h2 .humMax).trans (by decide +kernel), (h2 .humMin).trans (by decide +kernel), h3⟩

/-! ## 4. Recovery from noise -/

/-- The three middle bytes of the request's frame contain no start byte. -/
def Request.Clean (r : Request) : Prop := ∀ b ∈ (r.bytes.drop 1).take 3, b ≠ cmdStart

instance (r : Request) : Decidable r.Clean := List.decidableBAll _ _

theorem Request.Clean.tail {r : Request} (h : r.Clean) :
    ∀ b ∈ r.bytes.tail, cmdGrammar.isStart b = false := by
  intro b hb
  have hsplit : r.bytes.tail = (r.bytes.drop 1).take 3 ++ [sensorNodeCmdEnd] := rfl
  rw [hsplit, List.mem_append, List.mem_singleton] at hb
  rcases hb with hb | rfl
  · simpa [cmdGrammar] using h b hb
  · rfl

/-- **Recovery from any noise.** Behind any bytes, one command whose middle bytes contain no
    `0xBB` leaves the parser idle. So every command sent behind it without loss is applied, once
    and in order, whatever it carries, and however all the bytes are cut into polls. -/
theorem poll_recovers (s₀ : LinkState) (hidle : s₀.cs.idx = 0) (noise : List UInt8) (r : Request)
    (hr : r.Clean) :
    ∃ s calls₀ s₁ early, pollCommands s₀ noise = some (s, calls₀) ∧
      pollCommands s r.bytes = some (s₁, early) ∧ s₁.cs.idx = 0 ∧
      ∀ (rs : List Request) (l : List UInt8) (polls : List (List UInt8)),
        l <+: commandStream rs → polls.flatten = noise ++ r.bytes ++ l →
        ∃ s', run pollCommands s₀ polls =
            some (s', calls₀ ++ early ++ (rs.take (l.length / 5)).map Request.command) ∧
          s'.cfg = applyCommands s₁.cfg ((rs.take (l.length / 5)).map Request.command) := by
  obtain ⟨s, calls₀, h1, h2, -⟩ := poll_run (CmdState.assembling_idle hidle) noise
  have hlt : (receive cmdGrammar [] noise).1.length < cmdGrammar.len :=
    receive_length_lt cmdGrammar (by decide) noise
  obtain ⟨s₁, early, h3, h4, -⟩ := poll_run h2 r.bytes
  rw [receive_resync hlt (request_isFrame r) hr.tail] at h4
  have hidle₁ := h4.idle_iff.mpr rfl
  refine ⟨s, calls₀, s₁, early, h1, h3, hidle₁, fun rs l polls hl hpolls => ?_⟩
  obtain ⟨s', h5, h6⟩ := poll_stream hidle₁ rs [l] (by simpa using hl)
  rw [List.flatten_singleton] at h5 h6
  rw [run_singleton] at h5
  refine ⟨s', ?_, h6⟩
  have hall : run pollByte s₀ (noise ++ r.bytes ++ l) = some (s', _) :=
    run_append_eq (run_append_eq h1 h3) h5
  rw [← hpolls] at hall
  exact (run_run s₀ polls).trans hall

/-- Noise that ends inside what looks like a command, then two commands: the second is applied,
    although both its value bytes are markers. -/
theorem poll_recovers_open :
    ∃ s calls₀ s₁ early s',
      pollCommands .initial [7, 0xBB, 0xBB] = some (s, calls₀) ∧
      pollCommands s (Request.bytes ⟨.distance, .distThresh, ⟨25, 0⟩⟩) = some (s₁, early) ∧
      s₁.cs.idx = 0 ∧
      run pollCommands .initial [[7, 0xBB, 0xBB] ++
        Request.bytes ⟨.distance, .distThresh, ⟨25, 0⟩⟩ ++ [0xBB, 1, 0xBB], [0x66, 0x66]] =
          some (s', calls₀ ++ early ++ [(1, 0xBB66)]) := by
  obtain ⟨s, calls₀, s₁, early, h1, h2, h3, h4⟩ := poll_recovers .initial rfl [7, 0xBB, 0xBB]
    ⟨.distance, .distThresh, ⟨25, 0⟩⟩ (by decide)
  obtain ⟨s', h5, -⟩ := h4 [⟨.distance, .distThresh, ⟨0xBB66, 0⟩⟩] [0xBB, 1, 0xBB, 0x66, 0x66]
    [[7, 0xBB, 0xBB] ++ Request.bytes ⟨.distance, .distThresh, ⟨25, 0⟩⟩ ++ [0xBB, 1, 0xBB],
      [0x66, 0x66]] (by decide) rfl
  exact ⟨s, calls₀, s₁, early, s', h1, h2, h3, h5⟩

end HomeAlert.Link
