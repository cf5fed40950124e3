/-
  File:      HomeAlert/Link/Grammar.lean
  Subject:   BOTH RECEIVERS IMPLEMENT THE SAME FRAMING GRAMMAR.

  `sensor_node_uart_isr` (base node) and `poll_commands` (sensor node) were written separately.
  Each refines the symbol-at-a-time receiver (Base/Receiver.lean, Node/Commands.lean), and that
  receiver computes the whole-stream scanner (Library/Framing.lean). Cutting the stream into
  invocations changes nothing, because a run of invocations is a run over the concatenation
  (`Machine.run_run`).
-/
import HomeAlert.Base.Receiver
import HomeAlert.Node.Commands

namespace HomeAlert.Link

open Framing Machine Base Node

/-- Any sequence of invocations of the interrupt routine, from an idle receiver. -/
theorem isr_scan {data : SensorNodeData} (h : data.rxIdx = 0) (invs : List (List (Option UInt8))) :
    ∃ data' out, run sensorNodeUartIsr data invs = some (data', out) ∧
      Assembling data' (scan dataGrammar (fifoBytes invs.flatten)).2 ∧
      out.map Vector.toList = (scan dataGrammar (fifoBytes invs.flatten)).1 ∧
      Published data out data' := by
  obtain ⟨data', out, h1, h2, h3⟩ := isr_run (assembling_idle h) invs.flatten
  rw [receive_eq_scan] at h2 h3
  exact ⟨data', out, (run_run data invs).trans h1, h2, h3, isr_published h1⟩

/-- Any sequence of calls of `poll_commands`, from an idle parser. -/
theorem poll_scan {s : LinkState} (h : s.cs.idx = 0) (polls : List (List UInt8)) :
    ∃ s' calls, run pollCommands s polls = some (s', calls) ∧
      s'.cs.Assembling (scan cmdGrammar polls.flatten).2 ∧
      calls = (scan cmdGrammar polls.flatten).1.map commandOf ∧
      s'.cfg = applyCommands s.cfg calls := by
  obtain ⟨s', calls, h1, h2, h3⟩ := poll_run (CmdState.assembling_idle h) polls.flatten
  rw [receive_eq_scan] at h2 h3
  exact ⟨s', calls, (run_run s polls).trans h1, h2, h3, poll_config h1⟩

/-- **Both receivers are the scanner.** From idle, for every byte list and every split of it into
    invocations: no write falls outside of the buffer (the run is defined), the frames copied and
    signalled are those of `scan 0xAA 0x55 10`, the pairs given to `apply_command` are the image
    of `scan 0xBB 0x66 5`, and the pending bytes are the first `rx_idx` (`idx`) of the buffer. -/
theorem receivers_scan (data : SensorNodeData) (hdata : data.rxIdx = 0)
    (invs : List (List (Option UInt8))) (s : LinkState) (hs : s.cs.idx = 0)
    (polls : List (List UInt8)) :
    (∃ data' out, run sensorNodeUartIsr data invs = some (data', out) ∧
      data'.rxIdx.toNat < 10 ∧
      out.map Vector.toList = (scan dataGrammar (fifoBytes invs.flatten)).1 ∧
      data'.rxBuf.toList.take data'.rxIdx.toNat = (scan dataGrammar (fifoBytes invs.flatten)).2 ∧
      data'.readyBuf = out.getLast?.getD data.readyBuf ∧
      data'.frameSem = out.foldl (fun sem _ => sem.give) data.frameSem) ∧
    ∃ s' calls, run pollCommands s polls = some (s', calls) ∧
      s'.cs.idx.toNat < 5 ∧
      calls = (scan cmdGrammar polls.flatten).1.map commandOf ∧
      s'.cs.buf.toList.take s'.cs.idx.toNat = (scan cmdGrammar polls.flatten).2 ∧
      s'.cfg = calls.foldl (fun cfg x => applyCommand cfg x.1 x.2) s.cfg := by
  constructor
  · obtain ⟨data', out, h1, h2, h3, h4⟩ := isr_scan hdata invs
    unfold Published at h4
    refine ⟨data', out, h1, h2.1, h3, h2.2, ?_, ?_⟩
    · rw [h4]
      rfl
    · rw [h4]
      rfl
  · obtain ⟨s', calls, h1, h2, h3, h4⟩ := poll_scan hs polls
    exact ⟨s', calls, h1, h2.1, h3, h2.2, h4⟩

/-- Both receivers at work: a stray byte, a frame cut in two and a rejected block on the data
    link; a command cut in two on the command link. -/
theorem receivers_scan_cut :
    ∃ data' out s' calls,
      run sensorNodeUartIsr (.initial ⟨0⟩)
        [[some 0x07, none, some 0xAA, some 9, some 46], [some 21, some 124, some 5, some 0, some 42,
          some 0, some 0x55, some 0xAA, some 1, some 2, some 3, some 4, some 5, some 6, some 7,
          some 8, some 9, some 0xAA]] = some (data', out) ∧
      out.map Vector.toList = [[0xAA, 9, 46, 21, 124, 5, 0, 42, 0, 0x55]] ∧
      data'.rxBuf.toList.take data'.rxIdx.toNat = [0xAA] ∧
      run pollCommands .initial [[0xBB, 1, 0], [30, 0x66]] = some (s', calls) ∧
      calls = [(1, 30)] := by
  obtain ⟨⟨data', out, h1, -, h2, h3, -, -⟩, s', calls, h4, -, h5, -⟩ :=
    receivers_scan (.initial ⟨0⟩) rfl
      [[some 0x07, none, some 0xAA, some 9, some 46], [some 21, some 124, some 5, some 0, some 42,
        some 0, some 0x55, some 0xAA, some 1, some 2, some 3, some 4, some 5, some 6, some 7,
        some 8, some 9, some 0xAA]] .initial rfl [[0xBB, 1, 0], [30, 0x66]]
  refine ⟨data', out, s', calls, h1, h2.trans ?_, h3.trans ?_, h4, h5.trans ?_⟩
  · rw [scan_fst]
    decide
  · rw [scan_snd]
    decide
  · rw [scan_fst]
    decide

end HomeAlert.Link
