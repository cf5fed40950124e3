/-
  File:      HomeAlert/Node/Commands.lean
  Subject:   THE SENSOR NODE'S CONFIGURATION AND ITS COMMAND PARSER (sensor_node/main.c:
             the threshold variables, cmd_state_t, apply_command, poll_commands), and that the
             parser refines the framing receiver.

  `threshold_dist` is a `float` that only ever holds the initial `50.0f` or a converted `uint16_t`;
  it is modelled by an exact rational.

  * `pollByte_spec` -- one byte refines one step of the receiver of Library/Framing.lean;
  * `poll_run` -- any run of the parser over any bytes: the pairs it passes to `apply_command` are
    those of the receiver's blocks;
  * `poll_config` -- the configuration after a run is the fold of `apply_command` over the pairs.
-/
import HomeAlert.Library.Buffer
import HomeAlert.Library.Framing
import HomeAlert.Library.Word
import Mathlib.Data.Rat.Defs

namespace HomeAlert.Node

open Framing Machine

/-! ## 1. Configuration -/

def cmdStart : UInt8 := 0xBB
def cmdEnd : UInt8 := 0x66
def cmdFrameLen : UInt8 := 5

def cmdDistThresh : UInt8 := 0x01
def cmdTempMax : UInt8 := 0x02
def cmdSoundThresh : UInt8 := 0x03
def cmdHumMax : UInt8 := 0x04
def cmdHumMin : UInt8 := 0x05

/-- The alarm thresholds and interrupt settings that commands change at run time. -/
structure Config where
  irqEnabled : Bool
  irqMask : UInt8
  thresholdDist : ℚ
  thresholdTemp : Int16
  thresholdSound : UInt8
  thresholdHumMax : UInt16
  thresholdHumMin : UInt16
  deriving DecidableEq, Repr

/-- The values at start. -/
def Config.initial : Config where
  irqEnabled := true
  irqMask := 0x17
  thresholdDist := 50
  thresholdTemp := 4000
  thresholdSound := 30
  thresholdHumMax := 8000
  thresholdHumMin := 2000

/-- `apply_command`: an unknown command id is ignored. -/
def applyCommand (cfg : Config) (cmd : UInt8) (val : UInt16) : Config :=
  if cmd = cmdDistThresh then { cfg with thresholdDist := (val.toNat : ℚ) }
  else if cmd = cmdTempMax then { cfg with thresholdTemp := Int16.ofInt val.toNat }
  else if cmd = cmdSoundThresh then { cfg with thresholdSound := (val &&& 0x3F).toUInt8 }
  else if cmd = cmdHumMax then { cfg with thresholdHumMax := val }
  else if cmd = cmdHumMin then { cfg with thresholdHumMin := val }
  else if cmd = 0x06 then { cfg with irqEnabled := val ≠ 0 }
  else if cmd = 0x07 then { cfg with irqMask := (val &&& 0xFF).toUInt8 }
  else cfg

/-- What the commands with ids from `0x08` on do: nothing. -/
theorem applyCommand_unknown (cfg : Config) {cmd : UInt8} (val : UInt16) (h : 7 < cmd) :
    applyCommand cfg cmd val = cfg := by
  have hne : ∀ c : UInt8, c ≤ 7 → cmd ≠ c := by
    rintro c hc rfl
    exact absurd hc (UInt8.not_le.mpr h)
  unfold applyCommand
  rw [if_neg (hne cmdDistThresh (by decide)), if_neg (hne cmdTempMax (by decide)),
    if_neg (hne cmdSoundThresh (by decide)), if_neg (hne cmdHumMax (by decide)),
    if_neg (hne cmdHumMin (by decide)), if_neg (hne 0x06 (by decide)),
    if_neg (hne 0x07 (by decide))]

/-! ## 2. poll_commands -/

/-- `cmd_state_t`. -/
structure CmdState where
  buf : Vector UInt8 5
  idx : UInt8
  deriving DecidableEq, Repr

/-- `cmd_state_t cs = {0}`. -/
def CmdState.initial : CmdState := { buf := Vector.replicate 5 0, idx := 0 }

/-- What `poll_commands` works on: the parser's state and the configuration. -/
structure LinkState where
  cs : CmdState
  cfg : Config
  deriving DecidableEq, Repr

def LinkState.initial : LinkState := { cs := .initial, cfg := .initial }

/-- One byte read by `poll_commands`. The second result lists the pairs the byte makes it pass to
    `apply_command`: none, or the one of the block it completed. -/
def pollByte (s : LinkState) (b : UInt8) : Option (LinkState × List (UInt8 × UInt16)) :=
  if s.cs.idx = 0 then
    if b = cmdStart then do
      let buf ← Buffer.store s.cs.buf 0 b
      some ({ s with cs := { buf := buf, idx := 1 } }, [])
    else some (s, [])
  else do
    let buf ← Buffer.store s.cs.buf s.cs.idx.toNat b
    let cs : CmdState := { buf := buf, idx := s.cs.idx + 1 }
    if cs.idx = cmdFrameLen then
      if cs.buf[4] = cmdEnd then
        let val := UInt16.ofNat (Word.join cs.buf[2] cs.buf[3])
        some ({ cs := { cs with idx := 0 }, cfg := applyCommand s.cfg cs.buf[1] val },
          [(cs.buf[1], val)])
      else some ({ s with cs := { cs with idx := 0 } }, [])
    else some ({ s with cs := cs }, [])

/-- `poll_commands`: `bytes` are the bytes `uart_getc` gives while `uart_is_readable`. -/
def pollCommands : LinkState → List UInt8 → Option (LinkState × List (UInt8 × UInt16)) :=
  run pollByte

/-! ## 3. The command link's grammar -/

/-- The framing of the command link. -/
def cmdGrammar : Grammar UInt8 where
  isStart b := b == cmdStart
  isStop b := b == cmdEnd
  len := 5
  two_le := by decide

@[simp] theorem cmdGrammar_len : cmdGrammar.len = 5 := rfl

/-- The pair a block stands for: its second byte, and its third and fourth as a word. -/
def commandOf (blk : List UInt8) : UInt8 × UInt16 :=
  (blk.getD 1 0, UInt16.ofNat (Word.join (blk.getD 2 0) (blk.getD 3 0)))

/-- `cs` is assembling a command of which `p` has arrived. -/
def CmdState.Assembling (cs : CmdState) (p : List UInt8) : Prop :=
  cs.idx.toNat < 5 ∧ Buffer.filled cs.buf cs.idx.toNat = p

theorem CmdState.assembling_idle {cs : CmdState} (h : cs.idx = 0) : cs.Assembling [] := by
  unfold CmdState.Assembling
  rw [h]
  exact Buffer.holds_zero cs.buf (by decide)

theorem CmdState.Assembling.idle_iff {cs : CmdState} {p : List UInt8} (h : cs.Assembling p) :
    cs.idx = 0 ↔ p = [] := Buffer.Holds.index_zero_iff h

/-! ## 4. One byte -/

/-- With `idx = 0`: everything but a start byte is discarded. -/
theorem pollByte_idle {s : LinkState} (h0 : s.cs.idx = 0) (b : UInt8) :
    ∃ s' out, pollByte s b = some (s', out) ∧
      s'.cs.Assembling (recv cmdGrammar [] b).1 ∧
      out = (recv cmdGrammar [] b).2.map commandOf := by
  by_cases hb : b = cmdStart
  · have hs : cmdGrammar.isStart b = true := by simpa [cmdGrammar] using hb
    obtain ⟨buf, hst, hholds⟩ := Buffer.holds_store_first s.cs.buf (by decide) b
    refine ⟨{ s with cs := { buf := buf, idx := 1 } }, [], ?_, ?_, by simp [recv, hs]⟩
    · simp only [pollByte, h0, hb, if_true, Option.bind_eq_bind]
      rw [← hb, hst]
      rfl
    · simp only [recv, hs, if_true]
      exact hholds
  · have hs : cmdGrammar.isStart b = false := by simpa [cmdGrammar] using hb
    refine ⟨s, [], by simp [pollByte, h0, hb], ?_, by simp [recv, hs]⟩
    simpa [recv, hs] using CmdState.assembling_idle h0

/-- The fields of a full buffer, read off its bytes. -/
theorem commandOf_full {buf : Vector UInt8 5} {p : List UInt8} {b : UInt8}
    (h : buf.toList = p ++ [b]) :
    buf[4] = b ∧ commandOf (p ++ [b]) = (buf[1], UInt16.ofNat (Word.join buf[2] buf[3])) := by
  have hp : p.length = 4 := by
    have := congrArg List.length h
    simp at this
    omega
  constructor
  · have h4 : buf.toList[4]? = some b := by
      rw [h, ← hp]
      exact List.getElem?_concat_length
    simpa using h4
  · rw [← h]
    simp [commandOf]

/-- Inside a command: the byte goes to place `idx`, and the fifth byte closes it. -/
theorem pollByte_open {s : LinkState} {p : List UInt8} (h : s.cs.Assembling p)
    (h0 : s.cs.idx ≠ 0) (b : UInt8) :
    ∃ s' out, pollByte s b = some (s', out) ∧
      s'.cs.Assembling (recv cmdGrammar p b).1 ∧
      out = (recv cmdGrammar p b).2.map commandOf := by
  rw [recv_open cmdGrammar (mt h.idle_iff.mpr h0) b, cmdGrammar_len]
  obtain ⟨buf, hst, hwrite⟩ := Buffer.Holds.store h (by decide) b
  rcases hwrite with ⟨hlen, hidx, hfive⟩ | ⟨hlen, hidx, hholds⟩
  · have hidx' : s.cs.idx + 1 = cmdFrameLen := hidx
    obtain ⟨hlast, hcmd⟩ := commandOf_full hfive
    rw [if_pos hlen]
    by_cases hb : b = cmdEnd
    · have hs : cmdGrammar.isStop b = true := by simpa [cmdGrammar] using hb
      refine ⟨{ cs := { buf := buf, idx := 0 }
                cfg := applyCommand s.cfg buf[1] (UInt16.ofNat (Word.join buf[2] buf[3])) },
        [(buf[1], UInt16.ofNat (Word.join buf[2] buf[3]))], ?_, CmdState.assembling_idle rfl, ?_⟩
      · have hlast' : buf[4] = cmdEnd := hlast.trans hb
        simp [pollByte, h0, hst, hidx', hlast']
      · simp [hs, hcmd]
    · have hs : cmdGrammar.isStop b = false := by simpa [cmdGrammar] using hb
      refine ⟨{ s with cs := { buf := buf, idx := 0 } }, [], ?_, CmdState.assembling_idle rfl, ?_⟩
      · simp [pollByte, h0, hst, hidx', hlast, hb]
      · simp [hs]
  · have hidx' : ¬ s.cs.idx + 1 = cmdFrameLen := hidx
    rw [if_neg hlen]
    refine ⟨{ s with cs := { buf := buf, idx := s.cs.idx + 1 } }, [], ?_, hholds, rfl⟩
    simp [pollByte, h0, hst, hidx']

/-- **One byte refines one step of the receiver.** -/
theorem pollByte_spec {s : LinkState} {p : List UInt8} (h : s.cs.Assembling p) (b : UInt8) :
    ∃ s' out, pollByte s b = some (s', out) ∧
      s'.cs.Assembling (recv cmdGrammar p b).1 ∧
      out = (recv cmdGrammar p b).2.map commandOf := by
  by_cases h0 : s.cs.idx = 0
  · obtain rfl := h.idle_iff.mp h0
    exact pollByte_idle h0 b
  · exact pollByte_open h h0 b

/-! ## 5. Runs -/

/-- **Any run of the parser is a run of the receiver**: it never writes out of bounds, and the
    pairs it passes to `apply_command` are those of the receiver's blocks. -/
theorem poll_run {s : LinkState} {p : List UInt8} (h : s.cs.Assembling p) (bytes : List UInt8) :
    ∃ s' out, pollCommands s bytes = some (s', out) ∧
      s'.cs.Assembling (receive cmdGrammar p bytes).1 ∧
      out = (receive cmdGrammar p bytes).2.map commandOf := by
  obtain ⟨s', out, h1, h2, h3⟩ := run_simulates pollByte (recv cmdGrammar)
    (fun s p => s.cs.Assembling p) (fun b => [b]) id commandOf
    (fun s p b hR => by
      obtain ⟨s', out, h1, h2, h3⟩ := pollByte_spec hR b
      rw [exec_singleton]
      exact ⟨s', out, h1, h2, (List.map_id out).trans h3⟩) h bytes
  rw [List.flatMap_singleton'] at h2 h3
  rw [List.map_id] at h3
  exact ⟨s', out, h1, h2, h3⟩

/-- The configuration once the pairs of `calls` have been applied, in order. -/
def applyCommands (cfg : Config) (calls : List (UInt8 × UInt16)) : Config :=
  calls.foldl (fun c x => applyCommand c x.1 x.2) cfg

theorem pollByte_config {s s' : LinkState} {b : UInt8} {out : List (UInt8 × UInt16)}
    (h : pollByte s b = some (s', out)) : s'.cfg = applyCommands s.cfg out := by
  unfold pollByte at h
  split at h
  · split at h
    · simp only [Option.bind_eq_bind, Option.bind_eq_some_iff] at h
      obtain ⟨buf, -, e⟩ := h
      cases e
      rfl
    · cases h
      rfl
  · simp only [Option.bind_eq_bind, Option.bind_eq_some_iff] at h
    obtain ⟨buf, -, e⟩ := h
    split at e
    · split at e <;> cases e <;> rfl
    · cases e
      rfl

/-- **The configuration after a run** is the fold of `apply_command` over its pairs. -/
theorem poll_config {s s' : LinkState} {bytes : List UInt8} {out : List (UInt8 × UInt16)}
    (h : pollCommands s bytes = some (s', out)) : s'.cfg = applyCommands s.cfg out := by
  refine run_relates (P := fun s o s' => s'.cfg = applyCommands s.cfg o) (fun _ => rfl) ?_
    (fun _ _ _ _ => pollByte_config) h
  intro s₁ s₂ s₃ o₁ o₂ h1 h2
  rw [h2, h1, applyCommands, applyCommands, applyCommands, List.foldl_append]

end HomeAlert.Node
