/-
  File:      HomeAlert/Link/CommandLoss.lean
  Subject:   ONE LOST BYTE ON THE COMMAND LINK: which commands the parser still applies.

  A command that lost a byte leaves the parser with an open block (or, where it was the start byte
  that got lost, with what looks like one). That block closes inside the next command, which is
  thereby lost as well, and so on while value bytes `0xBB` keep the parser off the frames. Blocks
  across two frames can be accepted, but only with `0x66` in the place of the command id, and
  `apply_command` ignores that id.
-/
import HomeAlert.Link.CommandLink

namespace HomeAlert.Link

open Framing Machine Base Node

/-! ## 1. Blocks across two commands -/

/-- A block with the end marker in the place of the command id. -/
def isStray (blk : List UInt8) : Bool := (commandOf blk).1 == cmdEnd

/-- The command ids are none of the markers, and `apply_command` knows them. -/
theorem command_id (r : Request) : r.command.1 ≠ cmdStart ∧ r.command.1 ≠ cmdEnd := by
  have hall : ∀ c ∈ [sensorNodeCmdDistThresh, sensorNodeCmdTempMax, sensorNodeCmdSoundThresh,
      sensorNodeCmdHumMax, sensorNodeCmdHumMin], c ≠ cmdStart ∧ c ≠ cmdEnd :=
    @of_decide_eq_true _ (List.decidableBAll _ _) rfl
  refine hall r.command.1 ?_
  obtain ⟨chan, attr, val⟩ := r
  cases attr <;> simp [Request.command, attrCommand]

theorem bytes_toList (r : Request) : ∃ h l, r.bytes = [cmdStart, r.command.1, h, l, cmdEnd] :=
  ⟨_, _, rfl⟩

/-- The bytes of a request. -/
def CommandFrame (f : List UInt8) : Prop := ∃ r : Request, f = r.bytes

theorem commandFrames (rs : List Request) : ∀ f ∈ rs.map Request.bytes, CommandFrame f := by
  intro f hf
  obtain ⟨r, -, rfl⟩ := List.mem_map.mp hf
  exact ⟨r, rfl⟩

/-- **Whatever is accepted across two commands is stray.** A block can start in a value byte only:
    from the high byte it would end on a command id, from the low byte it has the end marker of
    its first frame in the place of the id. -/
theorem command_confined : Confined cmdGrammar CommandFrame isStray where
  frame := by
    rintro _ ⟨r, rfl⟩
    exact request_isFrame r
  straddles := by
    rintro _ _ ⟨r, rfl⟩ ⟨r', rfl⟩ q a hq ha hs b hb
    obtain ⟨h, l, e⟩ := bytes_toList r
    obtain ⟨h', l', e'⟩ := bytes_toList r'
    obtain ⟨hid, -⟩ := command_id r
    obtain ⟨-, hid'⟩ := command_id r'
    obtain rfl : a = cmdStart := by simpa [cmdGrammar] using hs
    rw [e] at ha hb
    rw [e'] at hb
    obtain ⟨hlt, -⟩ := List.getElem?_eq_some_iff.mp ha
    have hq5 : q = 1 ∨ q = 2 ∨ q = 3 ∨ q = 4 := by
      simp only [List.length_cons, List.length_nil] at hlt
      omega
    rcases hq5 with rfl | rfl | rfl | rfl
    · exact absurd (Option.some.inj ha) hid
    · have hstop : cmdGrammar.isStop r'.command.1 = false := by simpa [cmdGrammar] using hid'
      simp [emit, hstop] at hb
    · have hmem : b = [l, cmdEnd, cmdStart, r'.command.1, h'] := by
        simp only [emit] at hb
        split at hb
        · simpa using hb
        · cases hb
      rw [hmem]
      rfl
    · exact absurd (Option.some.inj ha) (by decide)

theorem cmdStart_not_stop (b : UInt8) (h : cmdGrammar.isStart b = true) :
    cmdGrammar.isStop b = false := by
  obtain rfl : b = cmdStart := by simpa [cmdGrammar] using h
  rfl

/-- Stray calls have no effect. -/
theorem applyCommands_filter (cfg : Config) (calls : List (UInt8 × UInt16)) :
    applyCommands cfg (calls.filter fun c => c.1 ≠ cmdEnd) = applyCommands cfg calls := by
  induction calls generalizing cfg with
  | nil => rfl
  | cons c calls ih =>
    by_cases h : c.1 = cmdEnd
    · have hno : applyCommand cfg c.1 c.2 = cfg := applyCommand_unknown cfg c.2 (by rw [h]; decide)
      rw [List.filter_cons_of_neg (by simpa using h), ih]
      show _ = applyCommands (applyCommand cfg c.1 c.2) calls
      rw [hno]
    · rw [List.filter_cons_of_pos (by simpa using h)]
      exact ih (applyCommand cfg c.1 c.2)

/-- The calls that have an effect are those of the blocks that are not stray. -/
theorem stray_calls (blocks : List (List UInt8)) :
    ((blocks.map commandOf).filter fun c => c.1 ≠ cmdEnd) =
      (blocks.filter fun b => !isStray b).map commandOf := by
  rw [List.filter_map]
  have hfun : ((fun c : UInt8 × UInt16 => decide (c.1 ≠ cmdEnd)) ∘ commandOf) =
      fun b => !isStray b := by
    funext b
    by_cases hb : (commandOf b).1 = cmdEnd <;> simp [isStray, hb]
  rw [hfun]

/-! ## 2. A stream that lost a byte -/

/-- **What the parser calls after a loss**: the commands before the damaged one, and what it makes
    of the others with `afterLoss` pending. -/
theorem poll_lost {s : LinkState} (hidle : s.cs.idx = 0) {pre post : List Request} {r : Request}
    {d : Nat} (hd : d < 5) {polls : List (List UInt8)}
    (hpolls : polls.flatten = (commandStream (pre ++ r :: post)).eraseIdx (5 * pre.length + d)) :
    ∃ s', run pollCommands s polls = some (s', pre.map Request.command ++
        (receive cmdGrammar (afterLoss cmdGrammar r.bytes d) (commandStream post)).2.map
          commandOf) ∧
      s'.cfg = applyCommands s.cfg (pre.map Request.command ++
        (receive cmdGrammar (afterLoss cmdGrammar r.bytes d) (commandStream post)).2.map
          commandOf) := by
  have hpre := requests_isFrame pre
  have hr := request_isFrame r
  have hsplit : (commandStream (pre ++ r :: post)).eraseIdx (5 * pre.length + d) =
      (pre.map Request.bytes).flatten ++ r.bytes.take d ++
        (r.bytes.drop (d + 1) ++ (post.map Request.bytes).flatten) := by
    have h1 := take_frame_at hpre hr (post.map Request.bytes) hd.le
    have h2 := drop_frame_at hpre hr (post.map Request.bytes) (d := d + 1) hd
    rw [List.length_map, cmdGrammar_len] at h1 h2
    rw [List.eraseIdx_eq_take_drop_succ, commandStream, List.map_append, List.map_cons, h1,
      Nat.add_assoc, h2]
  obtain ⟨s', calls, h1, -, h3⟩ := poll_run (CmdState.assembling_idle hidle) polls.flatten
  have h4 := poll_config h1
  rw [hpolls, hsplit, receive_lost hpre hr hd, List.map_append, map_commandOf] at h3
  rw [h3] at h1 h4
  exact ⟨s', (run_run s polls).trans h1, h4⟩

/-- The commands behind the damaged one that are applied, in order, are among those sent. -/
theorem later_sublist {r : Request} {d : Nat} (hd : d < 5) (post : List Request) :
    (((receive cmdGrammar (afterLoss cmdGrammar r.bytes d) (commandStream post)).2.map
      commandOf).filter fun c => c.1 ≠ cmdEnd).Sublist (post.map Request.command) := by
  have hheld := held_afterLoss command_confined cmdStart_not_stop (f := r.bytes) ⟨r, rfl⟩ hd
  have h := (hheld.receive_frames command_confined (commandFrames post)).map commandOf
  rw [map_commandOf] at h
  rw [stray_calls]
  exact h

/-- **All the others are applied, and nothing else is called, exactly when** there are none, or
    nothing is pending behind the damaged command. -/
theorem later_all_iff {r : Request} {d : Nat} (hd : d < 5) (post : List Request) :
    (receive cmdGrammar (afterLoss cmdGrammar r.bytes d) (commandStream post)).2.map commandOf =
      post.map Request.command ↔ post = [] ∨ afterLoss cmdGrammar r.bytes d = [] := by
  constructor
  · intro h
    refine Classical.byContradiction fun hno => ?_
    rw [not_or] at hno
    obtain ⟨g, post, rfl⟩ := List.exists_cons_of_ne_nil hno.1
    have hheld := held_afterLoss command_confined cmdStart_not_stop (f := r.bytes) ⟨r, rfl⟩ hd
    have hsub := hheld.receive_frames_open command_confined (f := g.bytes) ⟨g, rfl⟩
      (commandFrames post) hno.2
    -- none of the calls is stray, so every block is one of the frames behind the first
    have hall : ∀ b ∈ (receive cmdGrammar (afterLoss cmdGrammar r.bytes d)
        (commandStream (g :: post))).2, (!isStray b) = true := by
      intro b hb
      have hmem := List.mem_map_of_mem (f := commandOf) hb
      rw [h] at hmem
      obtain ⟨r', -, e⟩ := List.mem_map.mp hmem
      simpa [isStray, ← e] using (command_id r').2
    have hle := hsub.length_le
    have hlen := congrArg List.length h
    rw [List.length_map, List.length_map, List.length_cons] at hlen
    rw [List.length_map] at hle
    have hfilter := List.filter_eq_self.mpr hall
    have : (commandStream (g :: post)) = (g.bytes :: post.map Request.bytes).flatten := rfl
    rw [← this, hfilter] at hle
    omega
  · rintro (rfl | h)
    · rfl
    · rw [h, commandStream, receive_frames (requests_isFrame post), map_commandOf]

/-- Behind the first clean command all are applied. -/
theorem later_resync {r : Request} {d : Nat} (hd : d < 5) {post : List Request} {j : Nat}
    {r' : Request} (hj : post[j]? = some r') (hclean : r'.Clean) :
    ∃ front, (receive cmdGrammar (afterLoss cmdGrammar r.bytes d) (commandStream post)).2.map
      commandOf = front ++ (post.drop (j + 1)).map Request.command := by
  have hlt := afterLoss_length_lt (request_isFrame r) hd
  have hget : (post.map Request.bytes)[j]? = some r'.bytes := by
    rw [List.getElem?_map, hj]
    rfl
  have h0 := foldl_carry_clean hget (requests_isFrame post) hlt hclean.tail (Nat.lt_succ_self j)
  have h := receive_aligned (requests_isFrame (post.take (j + 1)))
    (requests_isFrame (post.drop (j + 1))) hlt (by rw [List.map_take]; exact h0)
  rw [← List.map_append, List.take_append_drop] at h
  refine ⟨(receive cmdGrammar (afterLoss cmdGrammar r.bytes d)
    ((post.take (j + 1)).map Request.bytes).flatten).2.map commandOf, ?_⟩
  rw [commandStream, h, List.map_append, map_commandOf]

/-! ## 3. One lost byte -/

/-- Nothing is pending behind the damaged command exactly when it lost its start byte and has no
    other in it. -/
theorem afterLoss_command {r : Request} {d : Nat} (hd : d < 5) :
    afterLoss cmdGrammar r.bytes d = [] ↔ d = 0 ∧ r.Clean := by
  rw [afterLoss_eq_nil (request_isFrame r) hd]
  refine and_congr_right fun _ => ⟨fun h b hb => ?_, Request.Clean.tail⟩
  have hmem : b ∈ r.bytes.tail := by
    rw [← List.drop_one]
    exact List.mem_of_mem_take hb
  simpa [cmdGrammar] using h b hmem

/-- **One lost byte.** Commands are sent to an idle parser and byte `o` of their stream is lost;
    the rest is cut into polls in any way. The commands before the damaged one are applied, and:
    no command that was not sent has an effect (the only others passed to `apply_command` have
    the id `0x66`, which it ignores), and those sent take effect in order;
    all the others are applied, and nothing else is called, exactly when none is behind the
    damaged one or it lost its start byte and has no `0xBB` in its value;
    behind the first later command without `0xBB` in its value all are applied. -/
theorem poll_lostByte (s : LinkState) (hidle : s.cs.idx = 0) (rs : List Request) (o : Nat)
    (ho : o < (commandStream rs).length) (polls : List (List UInt8))
    (hpolls : polls.flatten = (commandStream rs).eraseIdx o) :
    ∃ s' later, run pollCommands s polls =
        some (s', (rs.take (o / 5)).map Request.command ++ later) ∧
      (later.filter fun c => c.1 ≠ cmdEnd).Sublist ((rs.drop (o / 5 + 1)).map Request.command) ∧
      s'.cfg = applyCommands s.cfg
        ((rs.take (o / 5)).map Request.command ++ later.filter fun c => c.1 ≠ cmdEnd) ∧
      (later = (rs.drop (o / 5 + 1)).map Request.command ↔ o / 5 + 1 = rs.length ∨
        o % 5 = 0 ∧ ∀ r, rs[o / 5]? = some r → r.Clean) ∧
      ∀ (j : Nat) (r : Request), o / 5 < j → rs[j]? = some r → r.Clean →
        ∃ front, later = front ++ (rs.drop (j + 1)).map Request.command := by
  rw [commandStream_length] at ho
  have hi : o / 5 < rs.length := by omega
  have hd : o % 5 < 5 := Nat.mod_lt o (by decide)
  obtain ⟨r₀, hget, hdrop⟩ : ∃ r, rs[o / 5]? = some r ∧
      rs.drop (o / 5) = r :: rs.drop (o / 5 + 1) :=
    ⟨_, List.getElem?_eq_getElem hi, List.drop_eq_getElem_cons hi⟩
  have hsplit : rs.take (o / 5) ++ r₀ :: rs.drop (o / 5 + 1) = rs := by
    rw [← hdrop, List.take_append_drop]
  have hpos : 5 * (rs.take (o / 5)).length + o % 5 = o := by
    rw [List.length_take]
    omega
  obtain ⟨s', h1, h2⟩ := poll_lost hidle hd (hpolls.trans (by rw [hsplit, hpos]))
  refine ⟨s', _, h1, later_sublist hd _, ?_, ?_, fun j r hj hr hclean => ?_⟩
  · rw [h2, applyCommands, applyCommands, List.foldl_append, List.foldl_append]
    exact (applyCommands_filter _ _).symm
  · rw [later_all_iff hd, afterLoss_command hd, List.drop_eq_nil_iff]
    refine or_congr (by omega) (and_congr_right fun _ => ?_)
    rw [hget]
    exact ⟨fun h r e => Option.some.inj e ▸ h, fun h => h _ rfl⟩
  · have hj' : (rs.drop (o / 5 + 1))[j - (o / 5 + 1)]? = some r := by
      rw [List.getElem?_drop, ← hr]
      congr 1
      omega
    have hdrop : (rs.drop (o / 5 + 1)).drop (j - (o / 5 + 1) + 1) = rs.drop (j + 1) := by
      rw [List.drop_drop]
      congr 1
      omega
    have := later_resync (r := r₀) hd hj' hclean
    rwa [hdrop] at this

/-- Three requests: the second has `0xBB` as its low value byte. -/
def threeRequests : List Request :=
  [⟨.distance, .distThresh, ⟨25, 0⟩⟩, ⟨.distance, .distThresh, ⟨0xBB, 0⟩⟩,
    ⟨.humidity, .humMin, ⟨30, 0⟩⟩]

/-- **A lost byte can cost every command behind it**: the first one loses its id, and the others
    go with it. -/
theorem poll_lostByte_all :
    ∃ s', run pollCommands .initial [(commandStream threeRequests).eraseIdx 1] = some (s', []) :=
  ⟨_, rfl⟩

/-- The first request loses its start byte and nothing else is lost. -/
theorem poll_lostByte_start :
    ∃ s' later, run pollCommands .initial [(commandStream threeRequests).eraseIdx 0] =
        some (s', later) ∧ later = [(1, 0xBB), (5, 3000)] := by
  obtain ⟨s', later, h1, -, -, h2, -⟩ := poll_lostByte .initial rfl threeRequests 0 (by decide)
    [(commandStream threeRequests).eraseIdx 0] rfl
  refine ⟨s', later, h1, h2.mpr (Or.inr ⟨rfl, fun r hr => ?_⟩)⟩
  obtain rfl := Option.some.inj hr
  decide

end HomeAlert.Link
