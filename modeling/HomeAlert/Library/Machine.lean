/-
  File:      HomeAlert/Library/Machine.lean
  Subject:   STEP MACHINES WITH OUTPUT. Runs, chunking and simulation.

  A machine is a step function `σ → ι → Option (σ × List ο)`: it takes a state and one input to
  the next state and what the step puts out, `none` where the step has no defined result. A TOTAL
  machine is `σ → ι → σ × List ο`. Over any state, input and output types:

  * `run`, `exec` -- a run over a list of inputs, outputs in order; `run_append`, `exec_append`;
  * `run_run` -- CHUNKING: `run step` is itself a machine whose inputs are lists, and running it
    over chunks is running `step` over their concatenation;
  * `run_relates` -- what one step relates and what composes, a run relates;
  * `run_history`, `run_log`, `run_invariant` -- an invariant, which may speak about the inputs read
    or the outputs made so far; `run_take` -- the beginning of a run;
  * `run_refines` -- a machine each of whose steps is a run of another;
  * `run_lockstep` -- two machines that are defined together and go through related states;
  * `run_simulates` -- forward simulation of a total machine: where each concrete step is defined
    and matched, every concrete run is defined and matched;
  * `clocked` -- the machine that stamps each output with the number of the input it came with.
-/
import Mathlib.Data.List.Basic
import Mathlib.Data.List.Forall2
import Mathlib.Tactic.Common

namespace Machine

universe u v w

variable {σ : Type u} {ι : Type v} {ο : Type w}

/-! ## 1. Runs -/

/-- The run of a machine over a list of inputs, `none` as soon as one step is. -/
def run (step : σ → ι → Option (σ × List ο)) : σ → List ι → Option (σ × List ο)
  | s, [] => some (s, [])
  | s, i :: is => do
      let r ← step s i
      let t ← run step r.1 is
      some (t.1, r.2 ++ t.2)

/-- The run of a total machine. -/
def exec (step : σ → ι → σ × List ο) : σ → List ι → σ × List ο
  | s, [] => (s, [])
  | s, i :: is =>
      let r := step s i
      let t := exec step r.1 is
      (t.1, r.2 ++ t.2)

section Partial

variable {step : σ → ι → Option (σ × List ο)}

@[simp] theorem run_nil (s : σ) : run step s [] = some (s, []) := rfl

/-- A defined run over `i :: is` is a defined step and a defined run after it. -/
theorem run_cons {s s'' : σ} {i : ι} {is : List ι} {o : List ο} :
    run step s (i :: is) = some (s'', o) ↔
      ∃ s' o₁ o₂, step s i = some (s', o₁) ∧ run step s' is = some (s'', o₂) ∧ o = o₁ ++ o₂ := by
  constructor
  · intro h
    simp only [run, Option.bind_eq_bind, Option.bind_eq_some_iff] at h
    obtain ⟨⟨s', o₁⟩, h1, ⟨t, o₂⟩, h2, h3⟩ := h
    cases h3
    exact ⟨s', o₁, o₂, h1, h2, rfl⟩
  · rintro ⟨s', o₁, o₂, h1, h2, rfl⟩
    simp [run, h1, h2]

@[simp] theorem run_singleton (s : σ) (i : ι) : run step s [i] = step s i := by
  cases h : step s i with
  | none => simp [run, h]
  | some r => simp [run, h]

/-- **A run over a concatenation** is the run over the first part and then over the second. -/
theorem run_append (s : σ) (a b : List ι) :
    run step s (a ++ b) =
      (run step s a).bind fun r => (run step r.1 b).map fun t => (t.1, r.2 ++ t.2) := by
  induction a generalizing s with
  | nil => simp
  | cons i is ih =>
    cases h : step s i with
    | none => simp [run, h]
    | some r =>
      simp only [List.cons_append, run, h, Option.bind_eq_bind, Option.bind_some, ih]
      cases h' : run step r.1 is with
      | none => simp
      | some t =>
        cases h'' : run step t.1 b <;> simp [h'']

theorem run_append_eq {s s' s'' : σ} {a b : List ι} {o₁ o₂ : List ο}
    (ha : run step s a = some (s', o₁)) (hb : run step s' b = some (s'', o₂)) :
    run step s (a ++ b) = some (s'', o₁ ++ o₂) := by
  simp [run_append, ha, hb]

/-- A defined run over a concatenation has a defined first part. -/
theorem run_split {s s'' : σ} {a b : List ι} {o : List ο}
    (h : run step s (a ++ b) = some (s'', o)) :
    ∃ s' o₁ o₂, run step s a = some (s', o₁) ∧ run step s' b = some (s'', o₂) ∧ o = o₁ ++ o₂ := by
  rw [run_append] at h
  obtain ⟨⟨s', o₁⟩, h1, h2⟩ := Option.bind_eq_some_iff.mp h
  obtain ⟨⟨t, o₂⟩, h3, h4⟩ := Option.map_eq_some_iff.mp h2
  cases h4
  exact ⟨s', o₁, o₂, h1, h3, rfl⟩

/-- **Chunking**: running the machine chunk by chunk is running it over the concatenation. -/
theorem run_run (s : σ) (cs : List (List ι)) : run (run step) s cs = run step s cs.flatten := by
  induction cs generalizing s with
  | nil => rfl
  | cons c cs ih =>
    rw [List.flatten_cons, run_append]
    cases h : run step s c with
    | none => simp [run, h]
    | some r =>
      simp only [run, h, Option.bind_eq_bind, Option.bind_some, ih]
      cases run step r.1 cs.flatten <;> rfl

/-- **The relation rule**: what every step establishes between its two states and its outputs, and
    what composes, a run establishes. -/
theorem run_relates {P : σ → List ο → σ → Prop} (hnil : ∀ s, P s [] s)
    (hcomp : ∀ s s' s'' o₁ o₂, P s o₁ s' → P s' o₂ s'' → P s (o₁ ++ o₂) s'')
    (hstep : ∀ s i s' o, step s i = some (s', o) → P s o s')
    {s s' : σ} {is : List ι} {o : List ο} (hr : run step s is = some (s', o)) : P s o s' := by
  induction is generalizing s o with
  | nil => cases hr; exact hnil _
  | cons i is ih =>
    obtain ⟨s₁, o₁, o₂, h1, h2, rfl⟩ := run_cons.mp hr
    exact hcomp s s₁ s' o₁ o₂ (hstep s i s₁ o₁ h1) (ih h2)

/-- A defined run over `is ++ [i]` is a defined run and a defined step after it. -/
theorem run_concat {s s'' : σ} {is : List ι} {i : ι} {o : List ο} :
    run step s (is ++ [i]) = some (s'', o) ↔
      ∃ s' o₁ o₂, run step s is = some (s', o₁) ∧ step s' i = some (s'', o₂) ∧ o = o₁ ++ o₂ := by
  constructor
  · intro h
    rw [run_append] at h
    obtain ⟨⟨s', o₁⟩, h1, h2⟩ := Option.bind_eq_some_iff.mp h
    obtain ⟨⟨t, o₂⟩, h3, h4⟩ := Option.map_eq_some_iff.mp h2
    rw [run_singleton] at h3
    cases h4
    exact ⟨s', o₁, o₂, h1, h3, rfl⟩
  · intro h
    rcases h with ⟨s', o₁, o₂, h1, h2, rfl⟩
    exact run_append_eq h1 ((run_singleton s' i).trans h2)

/-- **The history rule**: what holds at the start of the inputs read so far, and what every
    defined step keeps with its input read, holds of every state a run reaches. -/
theorem run_history {P : List ι → σ → Prop}
    (hstep : ∀ past s i s' o, P past s → step s i = some (s', o) → P (past ++ [i]) s')
    {past : List ι} {s s' : σ} {is : List ι} {o : List ο} (h0 : P past s)
    (hr : run step s is = some (s', o)) : P (past ++ is) s' := by
  induction is generalizing past s o with
  | nil =>
    cases hr
    rwa [List.append_nil]
  | cons i is ih =>
    obtain ⟨s₁, o₁, o₂, h1, h2, -⟩ := run_cons.mp hr
    have h3 := ih (hstep past s i s₁ o₁ h0 h1) h2
    rwa [List.append_assoc, List.singleton_append] at h3

/-- **The log rule**: what holds at the start of what was put out so far, and what every defined
    step keeps with its outputs, holds of every state a run reaches. -/
theorem run_log {P : List ο → σ → Prop}
    (hstep : ∀ log s i s' o, P log s → step s i = some (s', o) → P (log ++ o) s')
    {log : List ο} {s s' : σ} {is : List ι} {o : List ο} (h0 : P log s)
    (hr : run step s is = some (s', o)) : P (log ++ o) s' := by
  induction is generalizing log s o with
  | nil =>
    cases hr
    rwa [List.append_nil]
  | cons i is ih =>
    obtain ⟨s₁, o₁, o₂, h1, h2, rfl⟩ := run_cons.mp hr
    have h3 := ih (hstep log s i s₁ o₁ h0 h1) h2
    rwa [List.append_assoc] at h3

/-- **The beginning of a run** whose steps put out one thing each: the first `k` outputs are those
    of the first `k` inputs. -/
theorem run_take (hone : ∀ s i s' o, step s i = some (s', o) → o.length = 1) {s s' : σ}
    {is : List ι} {o : List ο} (hr : run step s is = some (s', o)) (k : Nat) :
    o.length = is.length ∧ ∃ t, run step s (is.take k) = some (t, o.take k) := by
  induction is generalizing s o k with
  | nil =>
    cases hr
    exact ⟨rfl, s', by simp⟩
  | cons i is ih =>
    obtain ⟨s₁, o₁, o₂, h1, h2, rfl⟩ := run_cons.mp hr
    obtain ⟨x, rfl⟩ := List.length_eq_one_iff.mp (hone s i s₁ o₁ h1)
    obtain ⟨hlen, -⟩ := ih h2 k
    refine ⟨by simp [hlen], ?_⟩
    cases k with
    | zero => exact ⟨s, rfl⟩
    | succ k =>
      obtain ⟨-, t, ht⟩ := ih h2 k
      exact ⟨t, run_cons.mpr ⟨s₁, [x], o₂.take k, h1, ht, rfl⟩⟩

/-- **The invariant rule.** -/
theorem run_invariant {P : σ → Prop} (hstep : ∀ s i s' o, P s → step s i = some (s', o) → P s')
    {s s' : σ} {is : List ι} {o : List ο} (h0 : P s) (hr : run step s is = some (s', o)) : P s' :=
  @run_history σ ι ο step (fun _ => P) (fun _ => hstep) [] s s' is o h0 hr

/-- **Refinement of runs**: where every step is, through `proj` and with its outputs translated, a
    run of another machine, every run is one, too. -/
theorem run_refines {τ κ π : Type*} {astep : τ → κ → Option (τ × List π)} (proj : σ → τ)
    (out : ο → π) (hstep : ∀ s i s' o, step s i = some (s', o) →
      ∃ ks, run astep (proj s) ks = some (proj s', o.map out))
    {s s' : σ} {is : List ι} {o : List ο} (hr : run step s is = some (s', o)) :
    ∃ ks, run astep (proj s) ks = some (proj s', o.map out) := by
  induction is generalizing s o with
  | nil =>
    cases hr
    exact ⟨[], rfl⟩
  | cons i is ih =>
    obtain ⟨s₁, o₁, o₂, h1, h2, rfl⟩ := run_cons.mp hr
    obtain ⟨ks₁, hk₁⟩ := hstep s i s₁ o₁ h1
    obtain ⟨ks₂, hk₂⟩ := ih h2
    refine ⟨ks₁ ++ ks₂, ?_⟩
    rw [List.map_append]
    exact run_append_eq hk₁ hk₂

end Partial

section Total

variable {step : σ → ι → σ × List ο}

@[simp] theorem exec_nil (s : σ) : exec step s [] = (s, []) := rfl

theorem exec_cons (s : σ) (i : ι) (is : List ι) :
    exec step s (i :: is) =
      ((exec step (step s i).1 is).1, (step s i).2 ++ (exec step (step s i).1 is).2) := rfl

@[simp] theorem exec_singleton (s : σ) (i : ι) : exec step s [i] = step s i := by
  simp [exec_cons]

theorem exec_append (s : σ) (a b : List ι) :
    exec step s (a ++ b) =
      ((exec step (exec step s a).1 b).1,
        (exec step s a).2 ++ (exec step (exec step s a).1 b).2) := by
  induction a generalizing s with
  | nil => rfl
  | cons i is ih => simp [exec_cons, ih]

end Total

/-! ## 2. Simulation -/

/-- What two binds leave, where both sides of each are undefined together. -/
theorem rel_bind {α β γ δ : Type*} {P : α → β → Prop} {Q : γ → δ → Prop} {x : Option α}
    {y : Option β} {f : α → Option γ} {g : β → Option δ} (h : Option.Rel P x y)
    (hfg : ∀ a b, P a b → Option.Rel Q (f a) (g b)) : Option.Rel Q (x.bind f) (y.bind g) := by
  cases h with
  | some hab => exact hfg _ _ hab
  | none => exact .none

theorem rel_imp {α β : Type*} {P Q : α → β → Prop} {x : Option α} {y : Option β}
    (h : Option.Rel P x y) (hPQ : ∀ a b, P a b → Q a b) : Option.Rel Q x y := by
  cases h with
  | some hab => exact .some (hPQ _ _ hab)
  | none => exact .none

/-- **Lockstep.** Where the steps of two machines on related inputs are both undefined, or lead to
    related states with related outputs, so do their runs. -/
theorem run_lockstep {τ κ π : Type*} {step : σ → ι → Option (σ × List ο)}
    {step' : τ → κ → Option (τ × List π)} {R : σ → τ → Prop} {I : ι → κ → Prop} {O : ο → π → Prop}
    (hstep : ∀ s t i k, R s t → I i k → Option.Rel (fun a b => R a.1 b.1 ∧ List.Forall₂ O a.2 b.2)
      (step s i) (step' t k)) {s : σ} {t : τ} (h : R s t) {is : List ι} {ks : List κ}
    (hI : List.Forall₂ I is ks) :
    Option.Rel (fun a b => R a.1 b.1 ∧ List.Forall₂ O a.2 b.2) (run step s is)
      (run step' t ks) := by
  induction hI generalizing s t with
  | nil => exact .some ⟨h, .nil⟩
  | cons hi _ ih =>
    refine rel_bind (hstep s t _ _ h hi) fun a b hab => ?_
    refine rel_bind (ih hab.1) fun a' b' hab' => ?_
    exact .some ⟨hab'.1, List.rel_append hab.2 hab'.2⟩

/-- **Forward simulation.** Related states stay related, a concrete step is always defined, and
    its outputs agree with those of the abstract machine on the encoded input (`enc`) once both
    are read in a common type (`dec`, `adec`): then every concrete run from related states is
    defined and agrees with the abstract run. -/
theorem run_simulates {τ κ π ρ : Type*} (step : σ → ι → Option (σ × List ο))
    (astep : τ → κ → τ × List π) (R : σ → τ → Prop) (enc : ι → List κ) (dec : ο → ρ) (adec : π → ρ)
    (hstep : ∀ s t i, R s t → ∃ s' o, step s i = some (s', o) ∧
      R s' (exec astep t (enc i)).1 ∧ o.map dec = (exec astep t (enc i)).2.map adec)
    {s : σ} {t : τ} (h0 : R s t) (is : List ι) :
    ∃ s' o, run step s is = some (s', o) ∧ R s' (exec astep t (is.flatMap enc)).1 ∧
      o.map dec = (exec astep t (is.flatMap enc)).2.map adec := by
  induction is generalizing s t with
  | nil => exact ⟨s, [], rfl, h0, rfl⟩
  | cons i is ih =>
    obtain ⟨s₁, o₁, h1, hR1, ho1⟩ := hstep s t i h0
    obtain ⟨s₂, o₂, h2, hR2, ho2⟩ := ih hR1
    refine ⟨s₂, o₁ ++ o₂, run_cons.mpr ⟨s₁, o₁, o₂, h1, h2, rfl⟩, ?_, ?_⟩
    · rw [List.flatMap_cons, exec_append]
      exact hR2
    · rw [List.flatMap_cons, exec_append, List.map_append, List.map_append, ho1, ho2]

/-! ## 3. Clocked machines -/

/-- The machine with a clock: it counts its inputs and stamps every output with the number of
    the input that caused it. -/
def clocked (step : σ → ι → Option (σ × List ο)) :
    σ × Nat → ι → Option ((σ × Nat) × List (Nat × ο)) :=
  fun s i => (step s.1 i).map fun r => ((r.1, s.2 + 1), r.2.map fun o => (s.2, o))

/-- The total machine with a clock. -/
def clock (step : σ → ι → σ × List ο) : σ × Nat → ι → (σ × Nat) × List (Nat × ο) :=
  fun s i => (((step s.1 i).1, s.2 + 1), (step s.1 i).2.map fun o => (s.2, o))

/-- The clock changes neither the states nor the outputs. -/
theorem exec_clock (step : σ → ι → σ × List ο) (s : σ) (n : Nat) (is : List ι) :
    (exec (clock step) (s, n) is).1 = ((exec step s is).1, n + is.length) ∧
      (exec (clock step) (s, n) is).2.map Prod.snd = (exec step s is).2 := by
  induction is generalizing s n with
  | nil => exact ⟨rfl, rfl⟩
  | cons i is ih =>
    obtain ⟨h1, h2⟩ := ih (step s i).1 (n + 1)
    refine ⟨?_, ?_⟩
    · simp only [exec_cons, clock, h1, List.length_cons]
      congr 1
      omega
    · simp only [exec_cons, clock, List.map_append, h2]
      simp [Function.comp_def]

theorem exec_clock_append (step : σ → ι → σ × List ο) (s : σ) (n : Nat) (a b : List ι) :
    (exec (clock step) (s, n) (a ++ b)).2 = (exec (clock step) (s, n) a).2 ++
      (exec (clock step) ((exec step s a).1, n + a.length) b).2 := by
  rw [exec_append, (exec_clock step s n a).1]

/-- A run without output has no output under the clock either. -/
theorem exec_clock_quiet {step : σ → ι → σ × List ο} {s : σ} {is : List ι}
    (h : (exec step s is).2 = []) (n : Nat) : (exec (clock step) (s, n) is).2 = [] := by
  have := (exec_clock step s n is).2
  rw [h] at this
  exact List.map_eq_nil_iff.mp this

/-- Every stamp of a run lies among the numbers of its inputs. -/
theorem exec_clock_stamp {step : σ → ι → σ × List ο} {s : σ} {n m : Nat} {is : List ι} {o : ο}
    (h : (m, o) ∈ (exec (clock step) (s, n) is).2) : n ≤ m ∧ m < n + is.length := by
  induction is generalizing s n with
  | nil => cases h
  | cons i is ih =>
    rw [exec_cons, List.mem_append] at h
    rw [List.length_cons]
    rcases h with h | h
    · simp only [clock, List.mem_map, Prod.mk.injEq] at h
      obtain ⟨_, _, rfl, _⟩ := h
      omega
    · have := ih h
      omega

theorem run_clocked (step : σ → ι → Option (σ × List ο)) {s s' : σ} {n : Nat} {is : List ι}
    {o : List ο} (h : run step s is = some (s', o)) :
    ∃ o', run (clocked step) (s, n) is = some ((s', n + is.length), o') ∧
      o'.map Prod.snd = o := by
  induction is generalizing s n o with
  | nil => cases h; exact ⟨[], rfl, rfl⟩
  | cons i is ih =>
    obtain ⟨s₁, o₁, o₂, h1, h2, rfl⟩ := run_cons.mp h
    obtain ⟨o', ho', hm⟩ := ih (n := n + 1) h2
    refine ⟨o₁.map (fun x => (n, x)) ++ o', run_cons.mpr ⟨(s₁, n + 1), _, o', ?_, ?_, rfl⟩, ?_⟩
    · simp [clocked, h1]
    · rw [ho', List.length_cons]
      congr 3
      omega
    · simp [hm, Function.comp_def]

end Machine
