/-
  File:      HomeAlert/Library/Resync.lean
  Subject:   ALIGNMENT OF A FRAMING RECEIVER: when it realigns, which frames it delivers from a
             misaligned start, and when it can never accept a block that straddles two frames.

  The receiver of Framing.lean hunts for an unescaped start symbol. Behind every frame it is
  either idle or holds a tail of that frame that begins with a start symbol; how long that tail
  is depends on the frame and on the length held before it (`carry`), on nothing else. So:

  * `delivered_iff` -- frame `j` of a stream is delivered, at its own last symbol, exactly when
    the carry over the frames before it has come down to `0`; once `0` it stays `0`;
  * `receive_resync` -- one frame with no start symbol behind its first realigns the receiver,
    whatever it held;
  * `timed_drop`, `timed_erase` -- switched on anywhere in a stream, or losing any one symbol, it
    accepts the stream's frames, each at its own place, and such blocks as can straddle two of
    them (`Confined`), nothing else;
  * `receive_blank` -- behind a frame that is blank it is idle, and no block ends inside that.

  Places are symbol numbers: `timed` is the receiver under the clock of Machine.lean.
-/
import HomeAlert.Library.Framing
import Mathlib.Data.List.Sublists

namespace Framing

open Machine

universe u

variable {α : Type u} (G : Grammar α)

/-! ## 1. What a frame leaves pending -/

/-- **The carry**: how many symbols a frame leaves pending when `k` were pending before it. The
    open block takes all but the last `k` symbols of the frame; the hunt is in those. -/
def carry (k : Nat) (f : List α) : Nat := (hunt G (f.drop (f.length - k))).length

@[simp] theorem carry_zero (f : List α) : carry G 0 f = 0 := by simp [carry]

theorem carry_le (k : Nat) (f : List α) : carry G k f ≤ k := by
  have h := hunt_length_le G (f.drop (f.length - k))
  rw [List.length_drop] at h
  unfold carry
  omega

theorem foldl_carry_zero (fs : List (List α)) : fs.foldl (carry G) 0 = 0 := by
  induction fs with
  | nil => rfl
  | cons f fs ih => rw [List.foldl_cons, carry_zero, ih]

/-- With no start symbol behind the first symbol a frame carries nothing over. -/
theorem carry_eq_zero {k : Nat} {f : List α} (hk : k < f.length)
    (h : ∀ a ∈ f.tail, G.isStart a = false) : carry G k f = 0 := by
  have hnil : hunt G (f.drop (f.length - k)) = [] := by
    refine (hunt_eq_nil G).mpr fun a ha => h a ?_
    have e : f.length - k = 1 + (f.length - k - 1) := by omega
    rw [e, ← List.drop_drop, List.drop_one] at ha
    exact List.mem_of_mem_drop ha
  rw [carry, hnil, List.length_nil]

variable {G}

theorem receive_carry {p f : List α} (hp : p.length < G.len) (hf : IsFrame G f) :
    (receive G p f).1.length = carry G p.length f := by
  by_cases h : p = []
  · subst h
    simp [receive_frame hf]
  · rw [receive_open h hp hf.length_eq, carry, hf.length_eq]

/-- What is pending behind a stream of frames has the length the carry gives. -/
theorem receive_carry_frames {fs : List (List α)} (h : ∀ f ∈ fs, IsFrame G f) {p : List α}
    (hp : p.length < G.len) :
    (receive G p fs.flatten).1.length = fs.foldl (carry G) p.length := by
  induction fs generalizing p with
  | nil => rfl
  | cons f fs ih =>
    have hf := h f List.mem_cons_self
    rw [List.flatten_cons, receive_append, List.foldl_cons, ← receive_carry hp hf]
    exact ih (fun g hg => h g (List.mem_cons_of_mem f hg)) (receive_length_lt G hp f)

/-- **Resynchronisation.** A frame without a start symbol behind its first leaves the receiver
    idle, whatever was pending before it. -/
theorem receive_resync {p f : List α} (hp : p.length < G.len) (hf : IsFrame G f)
    (h : ∀ a ∈ f.tail, G.isStart a = false) : (receive G p f).1 = [] := by
  have := G.two_le
  rw [← List.length_eq_zero_iff, receive_carry hp hf]
  exact carry_eq_zero G (by rw [hf.length_eq]; exact hp) h

/-! ## 2. The receiver under the clock -/

variable (G) in
/-- The accepted blocks with the number of the symbol that completed each, the first symbol of
    the list having number `n`. -/
def timed (n : Nat) (p l : List α) : List (Nat × List α) :=
  (exec (clock (recv G)) (p, n) l).2

variable (G) in
/-- The frames of a stream with the number of each frame's last symbol. -/
def ends : Nat → List (List α) → List (Nat × List α)
  | _, [] => []
  | n, f :: fs => (n + G.len - 1, f) :: ends (n + G.len) fs

theorem timed_append (n : Nat) (p a b : List α) :
    timed G n p (a ++ b) = timed G n p a ++ timed G (n + a.length) (receive G p a).1 b :=
  exec_clock_append (recv G) p n a b

/-- Without the numbers the log is what the receiver puts out. -/
theorem timed_snd (n : Nat) (p l : List α) : (timed G n p l).map Prod.snd = (receive G p l).2 :=
  (exec_clock (recv G) p n l).2

theorem ends_snd (n : Nat) (fs : List (List α)) : (ends G n fs).map Prod.snd = fs := by
  induction fs generalizing n with
  | nil => rfl
  | cons f fs ih => rw [ends, List.map_cons, ih]

theorem timed_quiet {p l : List α} (h : (receive G p l).2 = []) (n : Nat) : timed G n p l = [] :=
  exec_clock_quiet h n

theorem timed_stamp {n m : Nat} {p l b : List α} (h : (m, b) ∈ timed G n p l) :
    n ≤ m ∧ m < n + l.length :=
  exec_clock_stamp h

/-- Where all output comes with the last symbol, it carries that symbol's number. -/
theorem timed_close {p q : List α} (hp : p ≠ []) (hq : q ≠ [])
    (h : p.length + q.length = G.len) (n : Nat) :
    timed G n p q = (emit G (p ++ q)).map fun b => (n + q.length - 1, b) := by
  have hlast := List.dropLast_concat_getLast hq
  have hpos : 0 < q.length := List.length_pos_of_ne_nil hq
  have hfill := receive_fill G (l := q.dropLast) hp (by rw [List.length_dropLast]; omega)
  have hfull : p.length + (q.length - 1) + 1 = G.len := by omega
  have hstamp : n + (q.length - 1) = n + q.length - 1 := by omega
  conv_lhs => rw [← hlast]
  rw [timed_append, hfill, timed_quiet (by rw [hfill]), List.nil_append]
  conv_rhs => rw [← hlast, ← List.append_assoc, emit_concat]
  simp only [timed, exec_singleton, clock, recv_open G (p := p ++ q.dropLast) (by simp [hp]),
    List.length_append, List.length_dropLast, hfull, hstamp, List.append_assoc, if_true]
  split <;> simp_all

theorem timed_frame {f : List α} (hf : IsFrame G f) (n : Nat) :
    timed G n [] f = [(n + G.len - 1, f)] := by
  obtain ⟨a, r, rfl, ha⟩ := hf.cons
  have hlen := hf.length_eq
  have h2 := G.two_le
  have hr : r ≠ [] := by
    intro e
    subst e
    simp at hlen
    omega
  have hone : receive G [] [a] = ([a], []) := by simp [receive, recv, ha]
  have hstamp : n + 1 + r.length - 1 = n + G.len - 1 := by
    rw [List.length_cons] at hlen
    omega
  rw [← List.singleton_append, timed_append, timed_quiet (by rw [hone]), hone,
    timed_close (by simp) hr (by simpa [Nat.add_comm] using hlen)]
  simp only [List.length_singleton, List.singleton_append, hf.emit, hstamp, List.map_cons,
    List.map_nil, List.nil_append]

/-- **From idle every frame is delivered at its own last symbol.** -/
theorem timed_frames {fs : List (List α)} (h : ∀ f ∈ fs, IsFrame G f) (n : Nat) :
    timed G n [] fs.flatten = ends G n fs := by
  induction fs generalizing n with
  | nil => rfl
  | cons f fs ih =>
    have hf := h f List.mem_cons_self
    rw [List.flatten_cons, timed_append, timed_frame hf, receive_frame hf, hf.length_eq,
      ih fun g hg => h g (List.mem_cons_of_mem f hg)]
    rfl

/-- An open block closes inside the next frame; all that can be accepted there is that block. -/
theorem timed_open {p f : List α} (hp : p ≠ []) (hlt : p.length < G.len)
    (hf : f.length = G.len) (n : Nat) :
    timed G n p f = (emit G (p ++ f.take (G.len - p.length))).map
      fun b => (n + (G.len - p.length) - 1, b) := by
  have hpos : 0 < p.length := List.length_pos_of_ne_nil hp
  have htake : (f.take (G.len - p.length)).length = G.len - p.length := by
    rw [List.length_take]
    omega
  have hne : f.take (G.len - p.length) ≠ [] := by
    intro e
    rw [e] at htake
    simp at htake
    omega
  have hrest : (f.drop (G.len - p.length)).length < G.len := by
    rw [List.length_drop]
    omega
  conv_lhs => rw [← List.take_append_drop (G.len - p.length) f]
  rw [timed_append, receive_close G hp hne (by omega),
    timed_quiet (p := []) (by rw [receive_short G hrest]), List.append_nil,
    timed_close hp hne (by omega), htake]

/-! ## 3. Which frames are delivered -/

/-- **Delivery of one frame.** The frame is accepted at its own last symbol exactly when nothing
    was pending before it. -/
theorem timed_frame_iff {p f : List α} (hlt : p.length < G.len) (hf : IsFrame G f) (n : Nat) :
    (n + G.len - 1, f) ∈ timed G n p f ↔ p = [] := by
  constructor
  · intro h
    refine Classical.byContradiction fun hp => ?_
    have hpos : 0 < p.length := List.length_pos_of_ne_nil hp
    rw [timed_open hp hlt hf.length_eq, List.mem_map] at h
    obtain ⟨b, -, e⟩ := h
    have := (Prod.mk.injEq _ _ _ _ ▸ e).1
    omega
  · rintro rfl
    rw [timed_frame hf]
    exact List.mem_singleton_self _

theorem flatten_length {fs : List (List α)} (h : ∀ f ∈ fs, IsFrame G f) :
    fs.flatten.length = G.len * fs.length := by
  induction fs with
  | nil => rfl
  | cons f fs ih =>
    rw [List.flatten_cons, List.length_append, (h f List.mem_cons_self).length_eq,
      ih fun g hg => h g (List.mem_cons_of_mem f hg), List.length_cons, Nat.mul_add, Nat.mul_one,
      Nat.add_comm]

/-- **Delivery in a stream.** From a receiver with `p` pending, frame `j` of the stream is
    accepted at its own last symbol exactly when the carry over the frames before it is `0`. -/
theorem delivered_iff {fs : List (List α)} (h : ∀ f ∈ fs, IsFrame G f) {p : List α}
    (hp : p.length < G.len) {j : Nat} {f : List α} (hj : fs[j]? = some f) (n : Nat) :
    (n + G.len * j + G.len - 1, f) ∈ timed G n p fs.flatten ↔
      (fs.take j).foldl (carry G) p.length = 0 := by
  have h2 := G.two_le
  obtain ⟨hlt, rfl⟩ := List.getElem?_eq_some_iff.mp hj
  have hsplit : fs = fs.take j ++ fs[j] :: fs.drop (j + 1) := by
    rw [← List.drop_eq_getElem_cons hlt, List.take_append_drop]
  have hpre : ∀ g ∈ fs.take j, IsFrame G g := fun g hg => h g (List.mem_of_mem_take hg)
  have hf := h fs[j] (List.getElem_mem hlt)
  have hlen : (fs.take j).flatten.length = G.len * j := by
    rw [flatten_length hpre, List.length_take, Nat.min_eq_left (Nat.le_of_lt hlt)]
  have hflat : fs.flatten = (fs.take j).flatten ++ (fs[j] ++ (fs.drop (j + 1)).flatten) := by
    have e := congrArg List.flatten hsplit
    rwa [List.flatten_append, List.flatten_cons] at e
  have hq := receive_length_lt G hp (fs.take j).flatten
  rw [hflat, timed_append, timed_append, List.mem_append, List.mem_append, hlen,
    timed_frame_iff hq hf, ← receive_carry_frames hpre hp, List.length_eq_zero_iff]
  constructor
  · rintro (hm | hm | hm)
    · have := (timed_stamp hm).2
      omega
    · exact hm
    · have := (timed_stamp hm).1
      have := hf.length_eq
      omega
  · intro e
    exact Or.inr (Or.inl e)

/-- Where the carry over the first frames is `0`, all the others are accepted. -/
theorem receive_aligned {fs gs : List (List α)} (hf : ∀ f ∈ fs, IsFrame G f)
    (hg : ∀ g ∈ gs, IsFrame G g) {p : List α} (hp : p.length < G.len)
    (h0 : fs.foldl (carry G) p.length = 0) :
    receive G p (fs ++ gs).flatten = ([], (receive G p fs.flatten).2 ++ gs) := by
  have hidle : (receive G p fs.flatten).1 = [] := by
    rw [← List.length_eq_zero_iff, receive_carry_frames hf hp, h0]
  rw [List.flatten_append, receive_append, hidle, receive_frames hg]

/-- **Aligned again.** Where the carry over the first frames is `0`, every later frame is accepted
    at its own last symbol, and nothing else is from there on. -/
theorem timed_aligned {fs gs : List (List α)} (hf : ∀ f ∈ fs, IsFrame G f)
    (hg : ∀ g ∈ gs, IsFrame G g) {p : List α} (hp : p.length < G.len)
    (h0 : fs.foldl (carry G) p.length = 0) (n : Nat) :
    timed G n p (fs ++ gs).flatten =
      timed G n p fs.flatten ++ ends G (n + G.len * fs.length) gs := by
  have hidle : (receive G p fs.flatten).1 = [] := by
    rw [← List.length_eq_zero_iff, receive_carry_frames hf hp, h0]
  rw [List.flatten_append, timed_append, hidle, timed_frames hg, flatten_length hf]

/-- The carry over frames one of which has no start symbol behind its first is `0`. -/
theorem foldl_carry_clean {fs : List (List α)} {i : Nat} {f : List α} (hi : fs[i]? = some f)
    (h : ∀ f ∈ fs, IsFrame G f) {k : Nat} (hk : k < G.len)
    (hf : ∀ a ∈ f.tail, G.isStart a = false) {j : Nat} (hij : i < j) :
    (fs.take j).foldl (carry G) k = 0 := by
  induction fs generalizing i j k with
  | nil => simp at hi
  | cons g fs ih =>
    obtain ⟨j, rfl⟩ : ∃ m, j = m + 1 := ⟨j - 1, by omega⟩
    have hg := h g List.mem_cons_self
    rw [List.take_succ_cons, List.foldl_cons]
    cases i with
    | zero =>
      obtain rfl : g = f := by simpa using hi
      rw [carry_eq_zero G (by rw [hg.length_eq]; exact hk) hf]
      exact foldl_carry_zero G _
    | succ i =>
      exact ih (by simpa using hi) (fun a ha => h a (List.mem_cons_of_mem g ha))
        (Nat.lt_of_le_of_lt (carry_le G k g) hk) (by omega)

/-! ## 4. Blocks that straddle two frames -/

section Straddling

variable (G) in
/-- Every block that starts inside `f` (behind its first symbol), ends inside `g` when `g` follows
    `f`, and is accepted, is one of the blocks `ghost`. -/
def StraddlesIn (ghost : List α → Bool) (f g : List α) : Prop :=
  ∀ q a, 0 < q → f[q]? = some a → G.isStart a = true →
    ∀ b ∈ emit G (f.drop q ++ g.take q), ghost b = true

variable (G) in
/-- No block that starts inside `f` (behind its first symbol) ends inside `g` on a stop symbol
    when `g` follows `f`. -/
def NoStraddle (f g : List α) : Prop :=
  ∀ q a b, 0 < q → f[q]? = some a → G.isStart a = true → g[q - 1]? = some b → G.isStop b = false

/-- A block that starts at place `q` of a frame ends at place `q - 1` of the next. -/
theorem NoStraddle.straddlesIn {f g : List α} (h : NoStraddle G f g) (hg : f.length = g.length) :
    StraddlesIn G (fun _ => false) f g := by
  intro q a hq ha hs b hb
  have hqf : q < f.length := by
    refine Classical.byContradiction fun hn => ?_
    rw [List.getElem?_eq_none (Nat.le_of_not_lt hn)] at ha
    cases ha
  obtain ⟨c, hc⟩ : ∃ c, g[q - 1]? = some c :=
    ⟨_, List.getElem?_eq_getElem (show q - 1 < g.length by omega)⟩
  have hlast : (f.drop q ++ g.take q).getLast? = some c := by
    rw [List.getLast?_append, List.getLast?_take, if_neg (by omega), hc]
    rfl
  rw [emit, hlast, Option.any_some, h q a c hq ha hs hc] at hb
  cases hb

variable (G) in
/-- **Confined straddling**: of the frames `P` no two, one behind the other, let a receiver accept
    a block across their boundary, but for the blocks `ghost`. -/
structure Confined (P : List α → Prop) (ghost : List α → Bool) : Prop where
  frame : ∀ f, P f → IsFrame G f
  straddles : ∀ f g, P f → P g → StraddlesIn G ghost f g

variable (G) in
/-- What a receiver may hold before a frame of `P`: nothing, or an open block that is a ghost if
    it is accepted where it closes. -/
structure Held (P : List α → Prop) (ghost : List α → Bool) (p : List α) : Prop where
  length_lt : p.length < G.len
  closes : p ≠ [] → ∀ g, P g → ∀ b ∈ emit G (p ++ g.take (G.len - p.length)), ghost b = true

variable {P : List α → Prop} {ghost : List α → Bool}

theorem held_nil : Held G P ghost [] where
  length_lt := by
    have := G.two_le
    exact Nat.lt_of_lt_of_le Nat.two_pos this
  closes h := absurd rfl h

/-- What the hunt finds inside a frame may be held. -/
theorem held_hunt (h : Confined G P ghost) {f : List α} (hf : P f) {q : Nat} (hq : 0 < q) :
    Held G P ghost (hunt G (f.drop q)) := by
  rcases hunt_cases G (f.drop q) with e | ⟨i, a, r, h1, h2, h3⟩
  · rw [e]
    exact held_nil
  · rw [h1, List.drop_drop]
    rw [List.drop_drop] at h2
    have hlen := (h.frame f hf).length_eq
    have hlt : q + i < f.length := by
      refine Classical.byContradiction fun hn => ?_
      rw [List.drop_of_length_le (Nat.le_of_not_lt hn)] at h2
      cases h2
    have hcut : G.len - (f.drop (q + i)).length = q + i := by
      rw [List.length_drop]
      omega
    have hget : f[q + i]? = some a := by
      have := congrArg List.head? h2
      rwa [List.head?_drop, List.head?_cons] at this
    refine ⟨?_, fun _ g hg => ?_⟩
    · rw [List.length_drop]
      omega
    · rw [hcut]
      exact h.straddles f g hf hg (q + i) a (by omega) hget h3

/-- **Behind a frame** a receiver holds what it may hold. -/
theorem Held.receive (h : Confined G P ghost) {p g : List α} (hp : Held G P ghost p) (hg : P g) :
    Held G P ghost (receive G p g).1 := by
  have hgf := h.frame g hg
  by_cases hne : p = []
  · subst hne
    rw [receive_frame hgf]
    exact held_nil
  · rw [receive_open hne hp.length_lt hgf.length_eq]
    have := hp.length_lt
    exact held_hunt h hg (by omega)

variable (ghost) in
/-- The entries of a log that are not ghosts. -/
def genuine (log : List (Nat × List α)) : List (Nat × List α) := log.filter fun x => !ghost x.2

theorem genuine_append (a b : List (Nat × List α)) :
    genuine ghost (a ++ b) = genuine ghost a ++ genuine ghost b := List.filter_append a b

theorem genuine_snd (log : List (Nat × List α)) :
    (genuine ghost log).map Prod.snd = (log.map Prod.snd).filter fun b => !ghost b := by
  rw [genuine, List.filter_map]
  rfl

theorem genuine_none (log : List (Nat × List α)) : genuine (fun _ => false) log = log := by
  simp [genuine]

/-- In the frame in which an open block closes nothing genuine is accepted. -/
theorem Held.timed_nil {p g : List α} (hp : Held G P ghost p) (hne : p ≠ []) (hg : P g)
    (hlen : g.length = G.len) (n : Nat) : genuine ghost (timed G n p g) = [] := by
  rw [timed_open hne hp.length_lt hlen, genuine, List.filter_eq_nil_iff]
  intro x hx
  obtain ⟨b, hb, rfl⟩ := List.mem_map.mp hx
  simpa using hp.closes hne g hg b hb

/-- **No others than ghosts.** Whatever a receiver held before a stream of confined frames: every
    block it accepts is a ghost or a frame of the stream, at its place and in order. -/
theorem Held.timed_frames (h : Confined G P ghost) {fs : List (List α)} (hfs : ∀ f ∈ fs, P f)
    {p : List α} (hp : Held G P ghost p) (n : Nat) :
    (genuine ghost (timed G n p fs.flatten)).Sublist (ends G n fs) := by
  induction fs generalizing p n with
  | nil => exact List.Sublist.refl _
  | cons f fs ih =>
    have hf := hfs f List.mem_cons_self
    have hff := h.frame f hf
    have hrest := ih (fun g hg => hfs g (List.mem_cons_of_mem f hg)) (hp.receive h hf) (n + G.len)
    rw [List.flatten_cons, timed_append, genuine_append, hff.length_eq, ends]
    by_cases hne : p = []
    · subst hne
      rw [timed_frame hff] at *
      exact (List.filter_sublist (l := [(n + G.len - 1, f)])).append hrest
    · rw [hp.timed_nil hne hf hff.length_eq, List.nil_append]
      exact hrest.cons _

/-- **Not the first.** With a block open before the stream, its first frame is not accepted. -/
theorem Held.timed_frames_open (h : Confined G P ghost) {f : List α} {fs : List (List α)}
    (hf : P f) (hfs : ∀ g ∈ fs, P g) {p : List α} (hp : Held G P ghost p) (hne : p ≠ []) (n : Nat) :
    (genuine ghost (timed G n p (f :: fs).flatten)).Sublist (ends G (n + G.len) fs) := by
  have hlen := (h.frame f hf).length_eq
  rw [List.flatten_cons, timed_append, genuine_append, hp.timed_nil hne hf hlen, List.nil_append,
    hlen]
  exact (hp.receive h hf).timed_frames h hfs _

theorem Held.receive_frames (h : Confined G P ghost) {fs : List (List α)} (hfs : ∀ f ∈ fs, P f)
    {p : List α} (hp : Held G P ghost p) :
    ((Framing.receive G p fs.flatten).2.filter fun b => !ghost b).Sublist fs := by
  have := (hp.timed_frames h hfs 0).map Prod.snd
  rwa [genuine_snd, timed_snd, ends_snd] at this

theorem Held.receive_frames_open (h : Confined G P ghost) {f : List α} {fs : List (List α)}
    (hf : P f) (hfs : ∀ g ∈ fs, P g) {p : List α} (hp : Held G P ghost p) (hne : p ≠ []) :
    ((Framing.receive G p (f :: fs).flatten).2.filter fun b => !ghost b).Sublist fs := by
  have := (hp.timed_frames_open h hf hfs hne 0).map Prod.snd
  rwa [genuine_snd, timed_snd, ends_snd] at this

end Straddling

/-! ## 5. Places in a stream -/

theorem ends_append (n : Nat) (a b : List (List α)) :
    ends G n (a ++ b) = ends G n a ++ ends G (n + G.len * a.length) b := by
  induction a generalizing n with
  | nil => simp [ends]
  | cons f a ih =>
    have e : n + G.len + G.len * a.length = n + G.len * (a.length + 1) := by
      rw [Nat.mul_add]
      omega
    rw [List.cons_append, ends, ends, ih, List.length_cons, e, List.cons_append]

theorem ends_length (n : Nat) (fs : List (List α)) : (ends G n fs).length = fs.length := by
  induction fs generalizing n with
  | nil => rfl
  | cons f fs ih => rw [ends, List.length_cons, ih, List.length_cons]

/-- Every place of a stream of frames lies in one of them. -/
theorem exists_frame_at {fs : List (List α)} (h : ∀ f ∈ fs, IsFrame G f) {o : Nat}
    (ho : o < fs.flatten.length) :
    ∃ pre f post d, fs = pre ++ f :: post ∧ d < G.len ∧ o = G.len * pre.length + d := by
  have h2 := G.two_le
  rw [flatten_length h] at ho
  have hi : o / G.len < fs.length := Nat.div_lt_of_lt_mul ho
  refine ⟨fs.take (o / G.len), fs[o / G.len], fs.drop (o / G.len + 1), o % G.len, ?_,
    Nat.mod_lt _ (by omega), ?_⟩
  · rw [← List.drop_eq_getElem_cons hi, List.take_append_drop]
  · rw [List.length_take, Nat.min_eq_left (Nat.le_of_lt hi), Nat.div_add_mod]

theorem take_frame_at {pre : List (List α)} {f : List α} (hpre : ∀ g ∈ pre, IsFrame G g)
    (hf : IsFrame G f) (post : List (List α)) {d : Nat} (hd : d ≤ G.len) :
    (pre ++ f :: post).flatten.take (G.len * pre.length + d) = pre.flatten ++ f.take d := by
  rw [List.flatten_append, List.flatten_cons, ← flatten_length hpre, List.take_length_add_append,
    List.take_append_of_le_length (by rw [hf.length_eq]; exact hd)]

theorem drop_frame_at {pre : List (List α)} {f : List α} (hpre : ∀ g ∈ pre, IsFrame G g)
    (hf : IsFrame G f) (post : List (List α)) {d : Nat} (hd : d ≤ G.len) :
    (pre ++ f :: post).flatten.drop (G.len * pre.length + d) = f.drop d ++ post.flatten := by
  rw [List.flatten_append, List.flatten_cons, ← flatten_length hpre, List.drop_length_add_append,
    List.drop_append_of_le_length (by rw [hf.length_eq]; exact hd)]

/-! ## 6. Starting inside a frame, and losing a symbol -/

theorem receive_frames_take {pre : List (List α)} {f : List α} (hpre : ∀ g ∈ pre, IsFrame G g)
    (hf : IsFrame G f) {d : Nat} (hd : d < G.len) :
    receive G [] (pre.flatten ++ f.take d) = (f.take d, pre) := by
  rw [receive_append, receive_frames hpre, receive_take hf hd, List.append_nil]

variable (G) in
/-- What is pending behind a frame that lost its symbol `d`, read from idle: without the start
    symbol what the hunt finds in the rest, else an open block that is one symbol short. -/
def afterLoss (f : List α) (d : Nat) : List α :=
  if d = 0 then hunt G (f.drop 1) else f.take d ++ f.drop (d + 1)

/-- **A frame that lost a symbol** is not accepted. -/
theorem receive_afterLoss {f : List α} (hf : IsFrame G f) {d : Nat} (hd : d < G.len) :
    receive G (f.take d) (f.drop (d + 1)) = (afterLoss G f d, []) := by
  have hlen := hf.length_eq
  unfold afterLoss
  by_cases h0 : d = 0
  · subst h0
    have hshort : (f.drop 1).length < G.len := by
      rw [List.length_drop]
      omega
    rw [if_pos rfl, List.take_zero, receive_short G hshort]
  · have hne : f.take d ≠ [] := by
      intro e
      have := congrArg List.length e
      rw [List.length_take, List.length_nil] at this
      omega
    rw [if_neg h0, receive_fill G hne (by rw [List.length_take, List.length_drop]; omega)]

theorem afterLoss_length_lt {f : List α} (hf : IsFrame G f) {d : Nat} (hd : d < G.len) :
    (afterLoss G f d).length < G.len := by
  have h := receive_length_lt G (p := f.take d) (by rw [List.length_take]; omega) (f.drop (d + 1))
  rwa [receive_afterLoss hf hd] at h

/-- Nothing is pending behind the damaged frame exactly when its start symbol was lost and there
    is no other in it. -/
theorem afterLoss_eq_nil {f : List α} (hf : IsFrame G f) {d : Nat} (hd : d < G.len) :
    afterLoss G f d = [] ↔ d = 0 ∧ ∀ a ∈ f.tail, G.isStart a = false := by
  have hlen := hf.length_eq
  unfold afterLoss
  by_cases h0 : d = 0
  · rw [if_pos h0, hunt_eq_nil, List.drop_one]
    exact ⟨fun h => ⟨h0, h⟩, And.right⟩
  · rw [if_neg h0]
    refine ⟨fun e => ?_, fun h => absurd h.1 h0⟩
    have := congrArg List.length e
    rw [List.length_append, List.length_take, List.length_nil] at this
    omega

/-- A stream whose frame `f` lost its symbol `d`: the frames before it are accepted, and the
    others meet what `f` left pending. -/
theorem receive_lost {pre post : List (List α)} {f : List α} (hpre : ∀ g ∈ pre, IsFrame G g)
    (hf : IsFrame G f) {d : Nat} (hd : d < G.len) :
    receive G [] (pre.flatten ++ f.take d ++ (f.drop (d + 1) ++ post.flatten)) =
      ((receive G (afterLoss G f d) post.flatten).1,
        pre ++ (receive G (afterLoss G f d) post.flatten).2) := by
  rw [receive_append, receive_frames_take hpre hf hd, receive_append, receive_afterLoss hf hd,
    List.nil_append]

section Loss

variable {P : List α → Prop} {ghost : List α → Bool}

/-- With a start symbol that is no stop symbol, what a damaged frame leaves pending may be held:
    an open block one symbol short closes on the next frame's start symbol. -/
theorem held_afterLoss (h : Confined G P ghost)
    (hss : ∀ a, G.isStart a = true → G.isStop a = false) {f : List α} (hf : P f) {d : Nat}
    (hd : d < G.len) : Held G P ghost (afterLoss G f d) := by
  have hff := h.frame f hf
  have hlt := afterLoss_length_lt hff hd
  by_cases h0 : d = 0
  · unfold afterLoss
    rw [if_pos h0]
    exact held_hunt h hf Nat.one_pos
  · refine ⟨hlt, fun _ g hg b hb => ?_⟩
    have h2 := G.two_le
    have hlen := hff.length_eq
    obtain ⟨a, r, rfl, ha⟩ := (h.frame g hg).cons
    have hone : G.len - (afterLoss G f d).length = 1 := by
      unfold afterLoss
      rw [if_neg h0, List.length_append, List.length_take, List.length_drop]
      omega
    rw [hone, List.take_succ_cons, List.take_zero, emit_concat, hss a ha] at hb
    cases hb

/-- **Any suffix of a stream.** An idle receiver switched on before symbol `o` accepts ghosts and
    frames of the stream only, each at its place. -/
theorem timed_drop (h : Confined G P ghost) {fs : List (List α)} (hfs : ∀ f ∈ fs, P f) (o : Nat) :
    (genuine ghost (timed G o [] (fs.flatten.drop o))).Sublist (ends G 0 fs) := by
  by_cases ho : o < fs.flatten.length
  · obtain ⟨pre, f, post, d, rfl, hd, rfl⟩ := exists_frame_at (fun f hf => h.frame f (hfs f hf)) ho
    have hf := hfs f (by simp)
    have hff := h.frame f hf
    have hlen := hff.length_eq
    have hpre : ∀ g ∈ pre, IsFrame G g := fun g hg => h.frame g (hfs g (by simp [hg]))
    have hpost : ∀ g ∈ post, P g := fun g hg => hfs g (by simp [hg])
    rw [ends_append, Nat.zero_add]
    refine List.Sublist.trans ?_ (List.sublist_append_right _ _)
    rcases Nat.eq_zero_or_pos d with rfl | hpos
    · have hall : ∀ g ∈ f :: post, P g := by
        intro g hg
        rcases List.mem_cons.mp hg with rfl | hg
        · exact hf
        · exact hpost g hg
      rw [Nat.add_zero, ← flatten_length hpre, List.flatten_append, List.drop_left]
      exact held_nil.timed_frames h hall _
    · have hlt : (f.drop d).length < G.len := by
        rw [List.length_drop]
        omega
      have hn : G.len * pre.length + d + (f.drop d).length = G.len * pre.length + G.len := by
        rw [List.length_drop]
        omega
      rw [drop_frame_at hpre hff post hd.le, timed_append,
        timed_quiet (by rw [receive_short G hlt]), List.nil_append, hn, receive_short G hlt]
      exact ((held_hunt h hf hpos).timed_frames h hpost _).cons _
  · rw [List.drop_of_length_le (by omega)]
    exact List.nil_sublist _

/-- **Any part of a stream.** What an idle receiver accepts of it are ghosts and frames of the
    stream, in order. -/
theorem receive_part (h : Confined G P ghost) {fs : List (List α)} (hfs : ∀ f ∈ fs, P f)
    {a b c : List α} (he : a ++ b ++ c = fs.flatten) :
    ((receive G [] b).2.filter fun x => !ghost x).Sublist fs := by
  have hsub := (timed_drop h hfs a.length).map Prod.snd
  rw [← he, List.append_assoc, List.drop_left, timed_append, genuine_append, List.map_append,
    genuine_snd, timed_snd, ends_snd] at hsub
  exact (List.sublist_append_left _ _).trans hsub

/-- **One lost symbol.** Between the part before it and the part behind it the number of the lost
    symbol is skipped. Everything an idle receiver accepts is a ghost or one of the frames that
    did not lose it, each at its place. -/
theorem timed_erase (h : Confined G P ghost) (hss : ∀ a, G.isStart a = true → G.isStop a = false)
    {fs : List (List α)} (hfs : ∀ f ∈ fs, P f) {o : Nat} (ho : o < fs.flatten.length) :
    (genuine ghost (timed G 0 [] (fs.flatten.take o) ++
      timed G (o + 1) (receive G [] (fs.flatten.take o)).1 (fs.flatten.drop (o + 1)))).Sublist
      ((ends G 0 fs).eraseIdx (o / G.len)) := by
  obtain ⟨pre, f, post, d, rfl, hd, rfl⟩ := exists_frame_at (fun f hf => h.frame f (hfs f hf)) ho
  have h2 := G.two_le
  have hf := hfs f (by simp)
  have hff := h.frame f hf
  have hlen := hff.length_eq
  have hpre : ∀ g ∈ pre, IsFrame G g := fun g hg => h.frame g (hfs g (by simp [hg]))
  have hpost : ∀ g ∈ post, P g := fun g hg => hfs g (by simp [hg])
  have hdiv : (G.len * pre.length + d) / G.len = pre.length := by
    rw [Nat.mul_add_div (by omega), Nat.div_eq_of_lt hd, Nat.add_zero]
  have hrest : (ends G 0 (pre ++ f :: post)).eraseIdx pre.length =
      ends G 0 pre ++ ends G (G.len * pre.length + G.len) post := by
    rw [ends_append, List.eraseIdx_append_of_length_le (by rw [ends_length]), ends_length,
      Nat.sub_self, ends, List.eraseIdx_cons_zero, Nat.zero_add]
  have htake := receive_take hff hd
  have hbefore : timed G 0 [] (pre.flatten ++ f.take d) = ends G 0 pre := by
    rw [timed_append, timed_frames hpre, receive_frames hpre, timed_quiet (by rw [htake]),
      List.append_nil]
  have hlost := receive_afterLoss hff hd
  have hstamp : G.len * pre.length + d + 1 + (f.drop (d + 1)).length =
      G.len * pre.length + G.len := by
    rw [List.length_drop]
    omega
  rw [hdiv, hrest, take_frame_at hpre hff post hd.le, Nat.add_assoc,
    drop_frame_at hpre hff post (by omega), ← Nat.add_assoc, hbefore,
    receive_frames_take hpre hff hd, genuine_append, timed_append, timed_quiet (by rw [hlost]),
    List.nil_append, hlost, hstamp]
  exact List.filter_sublist.append ((held_afterLoss h hss hf hd).timed_frames h hpost _)

end Loss

/-! ## 7. Blank frames -/

/-- Symbols none of which is a stop symbol complete no block. -/
theorem receive_unstopped {p l : List α} (h : ∀ a ∈ l, G.isStop a = false) :
    (receive G p l).2 = [] := by
  induction l generalizing p with
  | nil => rfl
  | cons a l ih =>
    have ha := h a List.mem_cons_self
    have hnone : (recv G p a).2 = [] := by
      by_cases hp : p = []
      · subst hp
        show (if G.isStart a then ([a], []) else ([], [])).2 = ([] : List (List α))
        split
        · rfl
        · rfl
      · rw [recv_open G hp, ha]
        split
        · rfl
        · rfl
    rw [receive_cons, hnone, List.nil_append]
    exact ih fun b hb => h b (List.mem_cons_of_mem a hb)

/-- **A blank frame**: no start symbol behind its first, no stop symbol before its last. -/
structure Blank (G : Grammar α) (f : List α) : Prop where
  frame : IsFrame G f
  unstarted : ∀ a ∈ f.tail, G.isStart a = false
  unstopped : ∀ a ∈ f.dropLast, G.isStop a = false

/-- Cut short, a blank frame completes no block. -/
theorem Blank.take {f : List α} (h : Blank G f) {d : Nat} (hd : d < G.len) :
    ∀ a ∈ f.take d, G.isStop a = false := by
  intro a ha
  refine h.unstopped a ?_
  have hlen := h.frame.length_eq
  rw [List.dropLast_eq_take]
  exact List.take_subset_take_left f (by omega) ha

/-- **A blank frame wakes the receiver**: whatever was pending before it is dropped, and the
    receiver is idle behind it. It is delivered where nothing was pending. -/
theorem receive_blank {p f : List α} (hp : p.length < G.len) (hf : Blank G f) :
    receive G p f = ([], if p = [] then [f] else []) := by
  by_cases hnil : p = []
  · subst hnil
    exact receive_frame hf.frame
  · have hpos : 0 < p.length := List.length_pos_of_ne_nil hnil
    have hlen := hf.frame.length_eq
    have hne : f.take (G.len - p.length) ≠ [] := by
      intro e
      have := congrArg List.length e
      rw [List.length_take, List.length_nil] at this
      omega
    have hlast := List.dropLast_concat_getLast hne
    have hstop := hf.take (d := G.len - p.length) (by omega) _ (List.getLast_mem hne)
    rw [if_neg hnil, ← receive_resync hp hf.frame hf.unstarted, Prod.ext_iff]
    refine ⟨rfl, ?_⟩
    rw [receive_open hnil hp hlen, ← hlast, ← List.append_assoc, emit_concat, hstop]
    rfl

end Framing
