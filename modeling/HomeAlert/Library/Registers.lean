/-
  File:      HomeAlert/Library/Registers.lean
  Subject:   REGISTERS THAT ARE WRITTEN ONE AT A TIME, over any names and any values.

  What a set of settings is for: a write replaces one value and leaves the others. After any
  sequence of writes each register holds the last value written to it (`writes_apply`), and the
  first value if there was none.
-/
import Mathlib.Data.List.Basic
import Mathlib.Logic.Function.Basic

namespace Registers

universe u v

variable {ι : Type u} {β : Type v} [DecidableEq ι]

/-- The registers after a sequence of writes, the oldest first. -/
def writes (f : ι → β) (ws : List (ι × β)) : ι → β :=
  ws.foldl (fun f w => Function.update f w.1 w.2) f

@[simp] theorem writes_nil (f : ι → β) : writes f [] = f := rfl

theorem writes_cons (f : ι → β) (w : ι × β) (ws : List (ι × β)) :
    writes f (w :: ws) = writes (Function.update f w.1 w.2) ws := rfl

/-- The last value written to register `i`. -/
def lastWrite (ws : List (ι × β)) (i : ι) : Option β :=
  ((ws.filter fun w => w.1 = i).getLast?).map Prod.snd

theorem lastWrite_cons (w : ι × β) (ws : List (ι × β)) (i : ι) :
    lastWrite (w :: ws) i = (lastWrite ws i).or (if w.1 = i then some w.2 else none) := by
  unfold lastWrite
  by_cases h : w.1 = i
  · rw [List.filter_cons_of_pos (by simpa using h), List.getLast?_cons, if_pos h]
    cases (ws.filter fun w => w.1 = i).getLast? <;> rfl
  · rw [List.filter_cons_of_neg (by simpa using h), if_neg h, Option.or_none]

/-- **The last write wins**, register by register. -/
theorem writes_apply (f : ι → β) (ws : List (ι × β)) (i : ι) :
    writes f ws i = (lastWrite ws i).getD (f i) := by
  induction ws generalizing f with
  | nil => rfl
  | cons w ws ih =>
    rw [writes_cons, ih, lastWrite_cons]
    cases lastWrite ws i with
    | some b => rfl
    | none =>
      by_cases h : w.1 = i
      · subst h
        simp
      · simp [h, Function.update_of_ne (Ne.symm h)]

end Registers
