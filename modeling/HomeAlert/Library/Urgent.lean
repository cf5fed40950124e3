/-
  File:      HomeAlert/Library/Urgent.lean
  Subject:   MACHINES IN TIME, WITH URGENCY.

  A step is taken at a moment, and a state may have a deadline: a moment behind which it cannot
  wait for its next step. So what is due in time is no hypothesis on runs but a guard of the
  machine, and a run is any list of inputs with their moments, in order, none of them overdue.

  * `timed_cases` -- inversion of a timed step;
  * `timed_log` -- the log rule: an invariant may speak about the moment and the stamped outputs;
  * `timed_refines` -- forgetting the moments, a timed run is one of the untimed machine it moves;
  * `Leads`, `leads_diverges` -- where steps of some kind always lead on, they lead past any moment.
-/
import HomeAlert.Library.Machine

namespace Urgent

open Machine

universe u v w x

variable {σ : Type u} {ι : Type v} {ο : Type w} {τ : Type x} [LE τ] [DecidableLE τ]

/-- A step at a moment, and the moments that a state has no time for. -/
structure Timed (σ : Type u) (ι : Type v) (ο : Type w) (τ : Type x) where
  step : σ → τ → ι → Option (σ × List ο)
  overdue : σ → τ → Bool

/-- **The machine in time**: its state carries the moment of its last step. An input comes at a
    moment that is neither past nor overdue, and each output is stamped with it. -/
def timed (M : Timed σ ι ο τ) (s : σ × τ) (i : τ × ι) : Option ((σ × τ) × List (τ × ο)) :=
  if s.2 ≤ i.1 ∧ M.overdue s.1 i.1 = false then
    (M.step s.1 i.1 i.2).map fun r => ((r.1, i.1), r.2.map fun o => (i.1, o))
  else none

variable {M : Timed σ ι ο τ}

/-- **Inversion of a timed step.** -/
theorem timed_cases {s s' : σ × τ} {i : τ × ι} {o : List (τ × ο)}
    (h : timed M s i = some (s', o)) :
    s.2 ≤ i.1 ∧ M.overdue s.1 i.1 = false ∧ s'.2 = i.1 ∧
      ∃ out, M.step s.1 i.1 i.2 = some (s'.1, out) ∧ o = out.map fun a => (i.1, a) := by
  unfold timed at h
  split at h
  · rename_i hguard
    obtain ⟨⟨t, out⟩, h1, h2⟩ := Option.map_eq_some_iff.mp h
    cases h2
    exact ⟨hguard.1, hguard.2, rfl, out, h1, rfl⟩
  · cases h

/-- **The log rule in time**: what holds at the start of the outputs so far, and what every step
    keeps that is neither in the past nor overdue, holds of every state a timed run reaches. -/
theorem timed_log {P : List (τ × ο) → σ → τ → Prop} (log : List (τ × ο))
    (hstep : ∀ log s now t i s' out, P log s now → now ≤ t → M.overdue s t = false →
      M.step s t i = some (s', out) → P (log ++ out.map fun a => (t, a)) s' t)
    {s s' : σ × τ} {is : List (τ × ι)} {o : List (τ × ο)} (h0 : P log s.1 s.2)
    (hr : run (timed M) s is = some (s', o)) :
    P (log ++ o) s'.1 s'.2 := by
  refine run_log (P := fun log s => P log s.1 s.2) ?_ h0 hr
  intro log s i s' o hP hs
  obtain ⟨hle, hdue, hnow, out, h1, rfl⟩ := timed_cases hs
  rw [hnow]
  exact hstep log s.1 s.2 i.1 i.2 s'.1 out hP hle hdue h1

/-- **Time forgotten**: where each step, whenever it is taken, is a run of another machine, so is
    every timed run. -/
theorem timed_refines {ρ κ : Type*} {astep : ρ → κ → Option (ρ × List ο)} (proj : σ → ρ)
    (hstep : ∀ s t i s' out, M.step s t i = some (s', out) →
      ∃ ks, run astep (proj s) ks = some (proj s', out))
    {s s' : σ × τ} {is : List (τ × ι)} {o : List (τ × ο)}
    (hr : run (timed M) s is = some (s', o)) :
    ∃ ks, run astep (proj s.1) ks = some (proj s'.1, o.map Prod.snd) := by
  refine run_refines (fun s : σ × τ => proj s.1) Prod.snd (fun s i s' o hs => ?_) hr
  obtain ⟨-, -, -, out, h1, rfl⟩ := timed_cases hs
  obtain ⟨ks, hk⟩ := hstep s.1 i.1 i.2 s'.1 out h1
  refine ⟨ks, ?_⟩
  rw [hk, List.map_map]
  congr 2
  exact (List.map_id out).symm

/-- A step that is neither in the past nor overdue can be taken. -/
theorem timed_step {s s' : σ} {now t : τ} {i : ι} {out : List ο} (hle : now ≤ t)
    (hdue : M.overdue s t = false) (hs : M.step s t i = some (s', out)) :
    timed M (s, now) (t, i) = some ((s', t), out.map fun a => (t, a)) := by
  unfold timed
  rw [if_pos ⟨hle, hdue⟩, hs]
  rfl

/-- Inputs of the kind `Q` lead from one state to another. -/
def Leads (M : Timed σ ι ο τ) (Q : ι → Prop) (s s' : σ × τ) : Prop :=
  ∃ is o, (∀ i ∈ is, Q i.2) ∧ run (timed M) s is = some (s', o)

section Leads

variable {Q : ι → Prop}

theorem leads_refl (s : σ × τ) : Leads M Q s s := ⟨[], [], List.forall_mem_nil _, rfl⟩

theorem Leads.trans {s s' s'' : σ × τ} (h : Leads M Q s s') (h' : Leads M Q s' s'') :
    Leads M Q s s'' := by
  obtain ⟨is, o, hQ, hr⟩ := h
  obtain ⟨is', o', hQ', hr'⟩ := h'
  exact ⟨is ++ is', o ++ o', List.forall_mem_append.mpr ⟨hQ, hQ'⟩, run_append_eq hr hr'⟩

theorem leads_step {s s' : σ} {now t : τ} {i : ι} {out : List ο} (hQ : Q i) (hle : now ≤ t)
    (hdue : M.overdue s t = false) (hs : M.step s t i = some (s', out)) :
    Leads M Q (s, now) (s', t) :=
  ⟨[(t, i)], _, List.forall_mem_singleton.mpr hQ,
    (run_singleton _ _).trans (timed_step hle hdue hs)⟩

/-- **Time goes on**: where such inputs lead from each state of `P` to one of `P` that is later by
    `d`, they lead past any moment. -/
theorem leads_diverges {M : Timed σ ι ο Nat} {P : σ × Nat → Prop} {d : Nat} (hd : 0 < d)
    (hround : ∀ s, P s → ∃ s', Leads M Q s s' ∧ P s' ∧ s.2 + d ≤ s'.2) (t : Nat) :
    ∀ {s : σ × Nat}, P s → ∃ s', Leads M Q s s' ∧ P s' ∧ t ≤ s'.2 := by
  -- on what is left until `t`
  have hind : ∀ n, ∀ s : σ × Nat, P s → t ≤ s.2 + n → ∃ s', Leads M Q s s' ∧ P s' ∧ t ≤ s'.2 := by
    intro n
    induction n with
    | zero => exact fun s hP hle => ⟨s, leads_refl s, hP, hle⟩
    | succ n ih =>
      intro s hP hle
      obtain ⟨s₁, h1, hP₁, hlater⟩ := hround s hP
      obtain ⟨s₂, h2, hP₂, hend⟩ := ih s₁ hP₁ (by omega)
      exact ⟨s₂, h1.trans h2, hP₂, hend⟩
  exact fun {s} hP => hind t s hP (Nat.le_add_left t s.2)

end Leads

end Urgent
