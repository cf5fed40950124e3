/-
  File:      HomeAlert/Library/Timer.lean
  Subject:   A PERIODIC TIMER THAT IS POLLED: it fires at a poll behind its deadline and is re-armed
             behind the work it started.

  Over any ordered type of times. The polls of a loop that pauses are spaced (`Spaced`): each is
  not before the pause behind the one before it. Three facts about when the timer fires:

  * `fires_within` -- if `n` pauses are a period, it fires in any `n` polls behind the first;
  * `fires_apart` -- two firings are a period apart, from re-arming to check;
  * `silent_age` -- at a poll where it does not fire, less than a period has passed since it did.
-/
import Mathlib.Algebra.Order.Monoid.Defs
import Mathlib.Algebra.Order.Monoid.NatCast
import Mathlib.Order.Lattice
import Mathlib.Tactic.Common

namespace Timer

universe u

/-- One poll: the clock when the deadline is checked, and when the timer would be re-armed. -/
structure Poll (τ : Type u) where
  check : τ
  arm : τ
  deriving DecidableEq, Repr

variable {τ : Type u} [AddCommMonoid τ] [LinearOrder τ]

/-- The timer fires at a poll behind its deadline. -/
def fires (deadline : τ) (p : Poll τ) : Bool := decide (deadline ≤ p.check)

/-- The deadline behind a poll. -/
def next (period deadline : τ) (p : Poll τ) : τ :=
  if fires deadline p then p.arm + period else deadline

/-- At which of the polls it fires. -/
def firings (period : τ) : τ → List (Poll τ) → List Bool
  | _, [] => []
  | d, p :: ps => fires d p :: firings period (next period d p) ps

/-- Polls from time `t` on, each re-arming behind its check and followed by a pause of `gap`. -/
def Spaced (gap : τ) : τ → List (Poll τ) → Prop
  | _, [] => True
  | t, p :: ps => t ≤ p.check ∧ p.check ≤ p.arm ∧ Spaced gap (p.arm + gap) ps

theorem firings_take (period d : τ) (ps : List (Poll τ)) (n : Nat) :
    firings period d (ps.take n) = (firings period d ps).take n := by
  induction ps generalizing d n with
  | nil => simp [firings]
  | cons p ps ih =>
    cases n with
    | zero => rfl
    | succ n => exact congrArg (fires d p :: ·) (ih _ n)

theorem Spaced.take {gap t : τ} {ps : List (Poll τ)} (h : Spaced gap t ps) (n : Nat) :
    Spaced gap t (ps.take n) := by
  induction ps generalizing t n with
  | nil => rwa [List.take_nil]
  | cons p ps ih =>
    cases n with
    | zero => trivial
    | succ n => exact ⟨h.1, h.2.1, ih h.2.2 n⟩

variable [IsOrderedAddMonoid τ] {period gap : τ}

/-- **Polls that cover the time to the deadline**, one pause each, make it fire. -/
theorem fires_of_long {ps : List (Poll τ)} : ∀ {d a : τ}, Spaced gap (a + gap) ps → ps ≠ [] →
    d ≤ a + ps.length • gap → true ∈ firings period d ps := by
  induction ps with
  | nil => exact fun _ hne _ => absurd rfl hne
  | cons p ps ih =>
    intro d a hs _ hd
    obtain ⟨hcheck, harm, hrest⟩ := hs
    rw [firings, List.mem_cons]
    by_cases hf : d ≤ p.check
    · exact Or.inl (decide_eq_true hf).symm
    · refine Or.inr ?_
      have hnext : next period d p = d := if_neg (by simpa [fires] using hf)
      have hlong : d ≤ p.arm + ps.length • gap := by
        calc d ≤ a + (ps.length + 1) • gap := hd
          _ = (a + gap) + ps.length • gap := by rw [succ_nsmul', add_assoc]
          _ ≤ p.arm + ps.length • gap := add_le_add_left (hcheck.trans harm) _
      have hne : ps ≠ [] := by
        rintro rfl
        rw [List.length_nil, zero_nsmul, add_zero] at hlong
        rw [List.length_singleton, one_nsmul] at hd
        exact hf (hd.trans hcheck)
      rw [hnext]
      exact ih hrest hne hlong

/-- The deadline behind a poll is at most a period behind its re-arming. -/
theorem next_le {d a t : τ} (hd : d ≤ a + period) (hat : a ≤ t) {p : Poll τ} (hcheck : t ≤ p.check)
    (harm : p.check ≤ p.arm) : next period d p ≤ p.arm + period := by
  unfold next
  split
  · exact le_refl _
  · exact hd.trans (add_le_add_left (hat.trans (hcheck.trans harm)) _)

/-- **In any `n` polls behind another it fires**, where `n` pauses are a period. -/
theorem fires_within (hgap : 0 ≤ gap) {n : Nat} (hn : 0 < n) (hlong : period ≤ n • gap)
    {ps : List (Poll τ)} : ∀ {d a t : τ}, Spaced gap t ps → d ≤ a + period → a ≤ t →
    ∀ {j : Nat}, j + n < ps.length →
      ∃ k, j < k ∧ k ≤ j + n ∧ (firings period d ps)[k]? = some true := by
  induction ps with
  | nil => exact fun _ _ _ _ hj => absurd hj (Nat.not_lt_zero _)
  | cons p ps ih =>
    intro d a t hs hd hat j hj
    obtain ⟨hcheck, harm, hrest⟩ := hs
    have hnext := next_le hd hat hcheck harm
    rw [List.length_cons] at hj
    rcases j with _ | j
    · have hlen : (ps.take n).length = n := by
        rw [List.length_take]
        omega
      have hmem : true ∈ firings period (next period d p) (ps.take n) := by
        refine fires_of_long (hrest.take n) (List.ne_nil_of_length_pos (by omega)) ?_
        rw [hlen]
        exact hnext.trans (add_le_add_right hlong _)
      rw [firings_take] at hmem
      obtain ⟨k, hk, hget⟩ := List.mem_take_iff_getElem.mp hmem
      refine ⟨k + 1, by omega, by omega, ?_⟩
      rw [firings, List.getElem?_cons_succ]
      exact List.getElem?_eq_some_iff.mpr ⟨by omega, hget⟩
    · obtain ⟨k, h1, h2, h3⟩ := ih hrest hnext (le_add_of_nonneg_right hgap) (j := j) (by omega)
      exact ⟨k + 1, by omega, by omega, h3⟩

/-- It fires at no poll before its deadline, and later deadlines are later. -/
theorem fires_ge (hperiod : 0 ≤ period) {ps : List (Poll τ)} : ∀ {d t : τ}, Spaced gap t ps →
    ∀ {k : Nat} {p : Poll τ}, ps[k]? = some p → (firings period d ps)[k]? = some true →
      d ≤ p.check := by
  induction ps with
  | nil => exact fun _ _ _ h => by simp at h
  | cons q ps ih =>
    intro d t hs k p hp hk
    obtain ⟨-, harm, hrest⟩ := hs
    rcases k with _ | k
    · obtain rfl : q = p := by simpa using hp
      simpa [firings, fires] using hk
    · refine le_trans ?_ (ih hrest (d := next period d q) (by simpa using hp)
        (by simpa [firings] using hk))
      unfold next
      split
      · rename_i hf
        exact ((of_decide_eq_true hf).trans harm).trans (le_add_of_nonneg_right hperiod)
      · exact le_refl d

/-- **Two firings are a period apart**, from the re-arming of the one to the check of the other. -/
theorem fires_apart (hperiod : 0 ≤ period) {ps : List (Poll τ)} : ∀ {d t : τ}, Spaced gap t ps →
    ∀ {j k : Nat}, j < k → ∀ {p q : Poll τ}, ps[j]? = some p → ps[k]? = some q →
      (firings period d ps)[j]? = some true → (firings period d ps)[k]? = some true →
      p.arm + period ≤ q.check := by
  induction ps with
  | nil => exact fun _ _ _ _ _ _ _ h => by simp at h
  | cons r ps ih =>
    intro d t hs j k hjk p q hp hq hj hk
    obtain ⟨-, -, hrest⟩ := hs
    rcases k with _ | k
    · omega
    · have hq' : ps[k]? = some q := by simpa using hq
      have hk' : (firings period (next period d r) ps)[k]? = some true := by
        simpa [firings] using hk
      rcases j with _ | j
      · obtain rfl : r = p := by simpa using hp
        have hf : fires d r = true := by simpa [firings] using hj
        have hge := fires_ge hperiod hrest hq' hk'
        rwa [next, if_pos hf] at hge
      · exact ih hrest (j := j) (by omega) (by simpa using hp) hq' (by simpa [firings] using hj) hk'

omit [IsOrderedAddMonoid τ] in
/-- As long as it does not fire, the deadline is ahead. -/
theorem silent_lt (period : τ) {ps : List (Poll τ)} :
    ∀ {d : τ} {k : Nat} {p : Poll τ}, ps[k]? = some p →
      (∀ i ≤ k, (firings period d ps)[i]? = some false) → p.check < d := by
  induction ps with
  | nil => exact fun h => by simp at h
  | cons q ps ih =>
    intro d k p hp hsilent
    have hq : ¬ d ≤ q.check := by
      have h0 := hsilent 0 (Nat.zero_le k)
      simpa [firings, fires] using h0
    rcases k with _ | k
    · obtain rfl : q = p := by simpa using hp
      exact not_le.mp hq
    · have hnext : next period d q = d := if_neg (by simpa [fires] using hq)
      refine ih (by simpa using hp) fun i hi => ?_
      have hi' := hsilent (i + 1) (by omega)
      rw [firings, List.getElem?_cons_succ, hnext] at hi'
      exact hi'

omit [IsOrderedAddMonoid τ] in
/-- **The age of a firing**: at the polls behind it where the timer does not fire, less than a
    period has passed since it was re-armed. -/
theorem silent_age {ps : List (Poll τ)} : ∀ {d : τ} {j k : Nat}, j < k → ∀ {p q : Poll τ},
    ps[j]? = some p → ps[k]? = some q → (firings period d ps)[j]? = some true →
    (∀ i, j < i → i ≤ k → (firings period d ps)[i]? = some false) → q.check < p.arm + period := by
  induction ps with
  | nil => exact fun _ _ _ h => by simp at h
  | cons r ps ih =>
    intro d j k hjk p q hp hq hj hsilent
    rcases k with _ | k
    · omega
    · rcases j with _ | j
      · obtain rfl : r = p := by simpa using hp
        have hf : fires d r = true := by simpa [firings] using hj
        have hlt : q.check < next period d r := by
          refine silent_lt period (k := k) (by simpa using hq) fun i hi => ?_
          have hi' := hsilent (i + 1) (by omega) (by omega)
          simpa [firings] using hi'
        rwa [next, if_pos hf] at hlt
      · refine ih (j := j) (k := k) (by omega) (by simpa using hp) (by simpa using hq)
          (by simpa [firings] using hj) fun i h1 h2 => ?_
        have hi' := hsilent (i + 1) (by omega) (by omega)
        simpa [firings] using hi'

end Timer
