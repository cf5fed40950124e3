/-
  File:      HomeAlert/Library/Framing.lean
  Subject:   BLOCK FRAMING WITH A START AND A STOP MARKER, over any symbol type.

  A stream carries blocks of a fixed length that begin with a start symbol and end with a stop
  symbol; nothing is escaped, so both may occur inside a block. Two readings of one grammar:

  * `scan` -- the whole-stream reading: hunt for a start symbol, take a block, keep it iff its
    last symbol is a stop, go on behind the block;
  * `recv` -- the symbol-at-a-time machine: its state is the pending part of the open block
    (`[]` = idle), its outputs are the blocks it accepts;
  * `receive_eq_scan` -- from idle the machine computes the scanner, for every list;
  * `receive_frames`, `receive_cut` -- on a stream of well-formed frames it outputs the
    frames that are complete so far, wherever the stream is cut;
  * `receive_open` -- what a frame does to a receiver that is in the middle of a block: the open
    block closes inside the frame and the receiver hunts in what is left of it.
-/
import HomeAlert.Library.Machine
import Mathlib.Data.List.TakeDrop
import Mathlib.Data.List.Flatten
import Mathlib.Data.List.TakeWhile

namespace Framing

open Machine

universe u

/-- A framing grammar: which symbols start and stop a block, and how long a block is. -/
structure Grammar (α : Type u) where
  isStart : α → Bool
  isStop : α → Bool
  len : Nat
  two_le : 2 ≤ len

variable {α : Type u} (G : Grammar α)

/-! ## 1. The scanner -/

/-- What is left once the symbols before the first start symbol are dropped. -/
def hunt (l : List α) : List α := l.dropWhile fun a => !G.isStart a

/-- A full block is kept iff its last symbol is a stop. -/
def emit (blk : List α) : List (List α) := if blk.getLast?.any G.isStop then [blk] else []

theorem hunt_length_le (l : List α) : (hunt G l).length ≤ l.length :=
  List.length_dropWhile_le _ l

/-- **The grammar on whole streams**: the blocks kept, and the symbols left pending. -/
def scan (l : List α) : List (List α) × List α :=
  if (hunt G l).length < G.len then ([], hunt G l)
  else
    let t := scan ((hunt G l).drop G.len)
    (emit G ((hunt G l).take G.len) ++ t.1, t.2)
termination_by l.length
decreasing_by
  have h1 := hunt_length_le G l
  have h2 := G.two_le
  rw [List.length_drop]
  omega

@[simp] theorem hunt_nil : hunt G [] = [] := rfl

theorem hunt_cons_start {a : α} (h : G.isStart a = true) (l : List α) :
    hunt G (a :: l) = a :: l := by
  simp [hunt, h]

theorem hunt_cons_skip {a : α} (h : G.isStart a = false) (l : List α) :
    hunt G (a :: l) = hunt G l := by
  simp [hunt, h]

/-- What the hunt leaves is nothing, or a tail of the list that begins with a start symbol. -/
theorem hunt_cases (l : List α) :
    hunt G l = [] ∨ ∃ i a r, hunt G l = l.drop i ∧ l.drop i = a :: r ∧ G.isStart a = true := by
  induction l with
  | nil => exact Or.inl rfl
  | cons a l ih =>
    cases ha : G.isStart a with
    | true => exact Or.inr ⟨0, a, l, hunt_cons_start G ha l, rfl, ha⟩
    | false =>
      rw [hunt_cons_skip G ha]
      rcases ih with h | ⟨i, b, r, h1, h2, h3⟩
      · exact Or.inl h
      · exact Or.inr ⟨i + 1, b, r, h1, h2, h3⟩

theorem hunt_hunt (l : List α) : hunt G (hunt G l) = hunt G l := by
  rcases hunt_cases G l with h | ⟨i, a, r, h1, h2, h3⟩
  · rw [h, hunt_nil]
  · rw [h1, h2, hunt_cons_start G h3]

/-- The hunt finds nothing exactly where there is no start symbol. -/
theorem hunt_eq_nil {l : List α} : hunt G l = [] ↔ ∀ a ∈ l, G.isStart a = false := by
  simp [hunt, List.dropWhile_eq_nil_iff]

/-! ## 2. The receiver -/

/-- **One symbol into the receiver.** Idle, it waits for a start symbol; with a block open it
    takes every symbol, and on the last one it keeps or drops the block and is idle again. -/
def recv (p : List α) (a : α) : List α × List (List α) :=
  match p with
  | [] => if G.isStart a then ([a], []) else ([], [])
  | _ :: _ =>
      if p.length + 1 = G.len then ([], if G.isStop a then [p ++ [a]] else []) else (p ++ [a], [])

/-- The receiver over a list of symbols. -/
def receive : List α → List α → List α × List (List α) := exec (recv G)

@[simp] theorem receive_nil (p : List α) : receive G p [] = (p, []) := rfl

theorem receive_cons (p : List α) (a : α) (l : List α) :
    receive G p (a :: l) =
      ((receive G (recv G p a).1 l).1, (recv G p a).2 ++ (receive G (recv G p a).1 l).2) := rfl

theorem receive_append (p a b : List α) :
    receive G p (a ++ b) =
      ((receive G (receive G p a).1 b).1,
        (receive G p a).2 ++ (receive G (receive G p a).1 b).2) := exec_append p a b

theorem recv_open {p : List α} (hp : p ≠ []) (a : α) :
    recv G p a = if p.length + 1 = G.len then ([], if G.isStop a then [p ++ [a]] else [])
      else (p ++ [a], []) := by
  cases p with
  | nil => exact absurd rfl hp
  | cons b p => rfl

theorem emit_concat (l : List α) (a : α) :
    emit G (l ++ [a]) = if G.isStop a then [l ++ [a]] else [] := by
  simp [emit]

/-- Symbols that do not fill the open block are taken into it. -/
theorem receive_fill {p l : List α} (hp : p ≠ []) (h : p.length + l.length < G.len) :
    receive G p l = (p ++ l, []) := by
  induction l generalizing p with
  | nil => simp
  | cons a l ih =>
    rw [List.length_cons] at h
    have hne : ¬ p.length + 1 = G.len := by omega
    rw [receive_cons, recv_open G hp, if_neg hne,
      ih (p := p ++ [a]) (by simp) (by simp; omega)]
    simp

/-- **The symbols that fill the open block close it**: the receiver is idle again. -/
theorem receive_close {p q : List α} (hp : p ≠ []) (hq : q ≠ [])
    (h : p.length + q.length = G.len) : receive G p q = ([], emit G (p ++ q)) := by
  have hlast := List.dropLast_concat_getLast hq
  have hlen : q.dropLast.length + 1 = q.length := by
    have : 0 < q.length := List.length_pos_of_ne_nil hq
    rw [List.length_dropLast]
    omega
  have hfill := receive_fill G (l := q.dropLast) hp (by omega)
  have hfull : p.length + (q.length - 1) + 1 = G.len := by omega
  rw [← hlast, receive_append, hfill, ← List.append_assoc, emit_concat]
  simp [receive, recv_open G (p := p ++ q.dropLast) (by simp [hp]), hfull]

/-- Idle, the receiver drops what the hunt drops. -/
theorem receive_idle_hunt (l : List α) : receive G [] l = receive G [] (hunt G l) := by
  induction l with
  | nil => rfl
  | cons a l ih =>
    cases ha : G.isStart a with
    | true => rw [hunt_cons_start G ha]
    | false =>
      rw [hunt_cons_skip G ha, ← ih, receive_cons]
      simp [recv, ha]

/-- Fewer symbols than a block: the idle receiver is left with what the hunt leaves. -/
theorem receive_short {l : List α} (h : l.length < G.len) :
    receive G [] l = (hunt G l, []) := by
  rw [receive_idle_hunt]
  have hle := hunt_length_le G l
  rcases hunt_cases G l with e | ⟨i, a, r, h1, h2, h3⟩
  · rw [e]
    rfl
  · rw [h1, h2] at hle ⊢
    rw [receive_cons]
    simp only [recv, h3, if_true, List.nil_append]
    rw [receive_fill G (by simp) (by simp at hle ⊢; omega)]
    rfl

/-- A block that begins with a start symbol, read from idle. -/
theorem receive_block {a : α} {r : List α} (ha : G.isStart a = true)
    (h : (a :: r).length = G.len) : receive G [] (a :: r) = ([], emit G (a :: r)) := by
  have hr : r ≠ [] := by
    intro e
    subst e
    have := G.two_le
    simp at h
    omega
  rw [receive_cons]
  simp only [recv, ha, if_true, List.nil_append]
  rw [receive_close G (by simp) hr (by simpa [Nat.add_comm] using h)]
  rfl

/-- **The receiver is the scanner**: from idle, the blocks it outputs and the symbols it holds
    pending are the scanner's, for every list of symbols. -/
theorem receive_eq_scan (l : List α) : receive G [] l = ((scan G l).2, (scan G l).1) := by
  induction l using scan.induct G with
  | case1 l h => rw [scan, if_pos h, receive_idle_hunt, receive_short G h, hunt_hunt]
  | case2 l h ih =>
    rw [scan, if_neg h, receive_idle_hunt]
    rcases hunt_cases G l with e | ⟨i, a, t, h1, h2, h3⟩
    · rw [e] at h
      have := G.two_le
      simp at h
      omega
    · have hcons : hunt G l = a :: t := h1.trans h2
      have htake : ∃ t', (hunt G l).take G.len = a :: t' := by
        rw [hcons]
        exact ⟨t.take (G.len - 1), List.take_cons (by have := G.two_le; omega)⟩
      obtain ⟨t', ht'⟩ := htake
      have hlen : (a :: t').length = G.len := by
        rw [← ht', List.length_take]
        omega
      conv_lhs => rw [← List.take_append_drop G.len (hunt G l)]
      rw [receive_append, ht', receive_block G h3 hlen, ih]

/-- The scanner's results, by the receiver (which evaluates structurally). -/
theorem scan_fst (l : List α) : (scan G l).1 = (receive G [] l).2 := by rw [receive_eq_scan]

theorem scan_snd (l : List α) : (scan G l).2 = (receive G [] l).1 := by rw [receive_eq_scan]

/-- The pending part of a block is always shorter than a block. -/
theorem receive_length_lt {p : List α} (hp : p.length < G.len) (l : List α) :
    (receive G p l).1.length < G.len := by
  induction l generalizing p with
  | nil => exact hp
  | cons a l ih =>
    rw [receive_cons]
    refine ih ?_
    cases p with
    | nil =>
      have := G.two_le
      cases ha : G.isStart a <;> simp [recv, ha] <;> omega
    | cons b p =>
      have := G.two_le
      simp only [recv]
      split
      · simp; omega
      · simp at *; omega

/-! ## 3. Streams of frames -/

/-- **A well-formed frame**: of the block length, from a start symbol to a stop symbol. -/
structure IsFrame (f : List α) : Prop where
  length_eq : f.length = G.len
  start : f.head?.any G.isStart = true
  stop : f.getLast?.any G.isStop = true

variable {G}

theorem IsFrame.emit {f : List α} (h : IsFrame G f) : Framing.emit G f = [f] := by
  simp [Framing.emit, h.stop]

theorem IsFrame.cons {f : List α} (h : IsFrame G f) :
    ∃ a r, f = a :: r ∧ G.isStart a = true := by
  have hs := h.start
  cases f with
  | nil => simp at hs
  | cons a r => exact ⟨a, r, rfl, by simpa using hs⟩

/-- **A frame read from idle is delivered**, and the receiver is idle behind it. -/
theorem receive_frame {f : List α} (h : IsFrame G f) : receive G [] f = ([], [f]) := by
  obtain ⟨a, r, rfl, ha⟩ := h.cons
  rw [receive_block G ha h.length_eq, h.emit]

theorem receive_frames {fs : List (List α)} (h : ∀ f ∈ fs, IsFrame G f) :
    receive G [] fs.flatten = ([], fs) := by
  induction fs with
  | nil => rfl
  | cons f fs ih =>
    rw [List.flatten_cons, receive_append, receive_frame (h f List.mem_cons_self),
      ih fun g hg => h g (List.mem_cons_of_mem f hg)]
    rfl

/-- The first symbols of a frame, read from idle, are pending. -/
theorem receive_take {f : List α} (hf : IsFrame G f) {d : Nat} (hd : d < G.len) :
    receive G [] (f.take d) = (f.take d, []) := by
  have hlt : (f.take d).length < G.len := by
    rw [List.length_take]
    omega
  obtain ⟨a, r, rfl, ha⟩ := hf.cons
  rw [receive_short G hlt]
  cases d with
  | zero => rfl
  | succ d => rw [List.take_succ_cons, hunt_cons_start G ha]

/-- **A cut stream of frames**: what is delivered is exactly the frames that are complete, and
    what is pending is the part of the frame the cut falls into. -/
theorem receive_cut {fs : List (List α)} (h : ∀ f ∈ fs, IsFrame G f) {l : List α}
    (hl : l <+: fs.flatten) :
    receive G [] l = (l.drop (G.len * (l.length / G.len)), fs.take (l.length / G.len)) := by
  have h2 := G.two_le
  induction fs generalizing l with
  | nil =>
    have e : l = [] := by simpa using hl
    subst e
    simp
  | cons f fs ih =>
    have hf := h f List.mem_cons_self
    by_cases hlt : l.length < G.len
    · -- the cut falls into the first frame
      have hpre : l <+: f := by
        refine List.prefix_of_prefix_length_le hl (List.prefix_append f fs.flatten) ?_
        rw [hf.length_eq]
        exact hlt.le
      have htake := receive_take hf hlt
      rw [← List.prefix_iff_eq_take.mp hpre] at htake
      rw [htake, Nat.div_eq_of_lt hlt]
      simp
    · -- the first frame is complete
      have hle : G.len ≤ l.length := by omega
      obtain ⟨t, rfl⟩ : f <+: l := by
        refine List.prefix_of_prefix_length_le (List.prefix_append f fs.flatten) hl ?_
        rw [hf.length_eq]
        exact hle
      have ht : t <+: fs.flatten := by
        rw [List.flatten_cons] at hl
        exact (List.prefix_append_right_inj f).mp hl
      have hdiv : (f ++ t).length / G.len = t.length / G.len + 1 := by
        rw [List.length_append, hf.length_eq, Nat.add_comm, Nat.add_div_right _ (by omega)]
      have hdrop : (f ++ t).drop (G.len * (t.length / G.len + 1)) =
          t.drop (G.len * (t.length / G.len)) := by
        rw [Nat.mul_add, Nat.mul_one, Nat.add_comm, ← List.drop_drop, ← hf.length_eq,
          List.drop_left]
      rw [receive_append, receive_frame hf, ih (fun g hg => h g (List.mem_cons_of_mem f hg)) ht,
        hdiv, hdrop]
      rfl

/-- **Whatever the receiver delivers is a frame**, from every symbol it may read. -/
theorem receive_isFrame {p : List α} (hp : p = [] ∨ p.head?.any G.isStart = true) (l : List α) :
    ∀ f ∈ (receive G p l).2, IsFrame G f := by
  induction l generalizing p with
  | nil => exact fun f hf => by cases hf
  | cons a l ih =>
    intro f hf
    rw [receive_cons, List.mem_append] at hf
    have h2 := G.two_le
    by_cases hnil : p = []
    · subst hnil
      cases ha : G.isStart a with
      | true =>
        simp only [recv, ha, if_true, List.not_mem_nil, false_or] at hf
        exact ih (Or.inr (by simpa using ha)) f hf
      | false =>
        simp only [recv, ha, Bool.false_eq_true, if_false, List.not_mem_nil, false_or] at hf
        exact ih (Or.inl rfl) f hf
    · have hstart := hp.resolve_left hnil
      have hhead : (p ++ [a]).head? = p.head? := by
        cases p with
        | nil => exact absurd rfl hnil
        | cons b p => rfl
      rw [recv_open G hnil] at hf
      by_cases hlen : p.length + 1 = G.len
      · rw [if_pos hlen] at hf
        rcases hf with hf | hf
        · cases hstop : G.isStop a with
          | true =>
            simp only [hstop, if_true, List.mem_singleton] at hf
            subst hf
            exact ⟨by simpa using hlen, by rw [hhead]; exact hstart, by simpa using hstop⟩
          | false =>
            simp [hstop] at hf
        · exact ih (Or.inl rfl) f hf
      · rw [if_neg hlen] at hf
        rcases hf with hf | hf
        · cases hf
        · exact ih (Or.inr (by rw [hhead]; exact hstart)) f hf

/-- **A frame into an open block.** The block closes `len - p.length` symbols into the frame and
    the receiver hunts in what is left; behind the frame it holds what the hunt found. -/
theorem receive_open {p f : List α} (hp : p ≠ []) (hlt : p.length < G.len)
    (hf : f.length = G.len) :
    receive G p f = (hunt G (f.drop (G.len - p.length)),
      emit G (p ++ f.take (G.len - p.length))) := by
  have hpos : 0 < p.length := List.length_pos_of_ne_nil hp
  have htake : (f.take (G.len - p.length)).length = G.len - p.length := by
    rw [List.length_take]
    omega
  have hne : f.take (G.len - p.length) ≠ [] := by
    intro e
    rw [e] at htake
    simp at htake
    omega
  have hrest : (f.drop (G.len - p.length)).length < G.len := by
    rw [List.length_drop]
    omega
  conv_lhs => rw [← List.take_append_drop (G.len - p.length) f]
  rw [receive_append, receive_close G hp hne (by omega), receive_short G hrest]
  simp

end Framing
