/-
  File:      HomeAlert/Library/Buffer.lean
  Subject:   AN ARRAY FILLED FROM THE FRONT, with checked writes.

  A C array and the index of its next free place. `store` is the write `buf[i] = a`; it is `none`
  where the place is outside of the array, so a model that runs through `store` and never gets
  `none` never writes out of bounds. `filled` is the part written so far.

  `Holds` is the state of `buf[idx++] = a` with a `uint8_t` index: what stands below the index, and
  that there is room above it. A write is always in bounds; it fills the array or leaves room.
-/
import Mathlib.Data.List.TakeDrop

namespace Buffer

universe u

/-! ## 1. Checked writes -/

variable {α : Type u} {n : Nat}

/-- `buf[i] = a`, `none` where the write falls outside of the array. -/
def store (buf : Vector α n) (i : Nat) (a : α) : Option (Vector α n) :=
  if h : i < n then some (buf.set i a h) else none

/-- The first `i` elements. -/
def filled (buf : Vector α n) (i : Nat) : List α := buf.toList.take i

@[simp] theorem filled_zero (buf : Vector α n) : filled buf 0 = [] := List.take_zero

@[simp] theorem filled_full (buf : Vector α n) : filled buf n = buf.toList :=
  List.take_of_length_le (by simp)

theorem length_filled {buf : Vector α n} {i : Nat} (h : i ≤ n) : (filled buf i).length = i := by
  simp [filled, h]

/-- **A write at the next free place extends the filled part by what is written.** -/
theorem store_filled (buf : Vector α n) {i : Nat} (h : i < n) (a : α) :
    ∃ buf', store buf i a = some buf' ∧ filled buf' (i + 1) = filled buf i ++ [a] := by
  refine ⟨buf.set i a h, dif_pos h, ?_⟩
  have hi : i < (buf.toList.set i a).length := by simpa using h
  rw [filled, filled, Vector.toList_set, List.take_add_one, List.getElem?_eq_getElem hi,
    List.getElem_set_self, List.take_set_of_le (Nat.le_refl i)]
  rfl

/-! ## 2. A write index of one byte -/

/-- `p` is what stands below the index, and there is room above it. -/
def Holds (buf : Vector α n) (idx : UInt8) (p : List α) : Prop :=
  idx.toNat < n ∧ filled buf idx.toNat = p

theorem holds_zero (buf : Vector α n) (hn : 0 < n) : Holds buf 0 [] := ⟨hn, filled_zero buf⟩

section Index

variable {buf : Vector α n} {idx : UInt8} {p : List α}

theorem Holds.length (h : Holds buf idx p) : p.length = idx.toNat := by
  rw [← h.2, length_filled (Nat.le_of_lt h.1)]

theorem Holds.index_zero_iff (h : Holds buf idx p) : idx = 0 ↔ p = [] := by
  rw [← List.length_eq_zero_iff, h.length, ← UInt8.toNat_inj]
  rfl

/-- The first write, to place 0. -/
theorem holds_store_first (buf : Vector α n) (hn : 1 < n) (a : α) :
    ∃ buf', store buf 0 a = some buf' ∧ Holds buf' 1 [a] := by
  obtain ⟨buf', h1, h2⟩ := store_filled buf (by omega : 0 < n) a
  exact ⟨buf', h1, hn, h2⟩

/-- **A write at the index is in bounds.** Either it fills the array, and the index behind it is
    the length, or it leaves room. -/
theorem Holds.store (h : Holds buf idx p) (hn : n < 256) (a : α) :
    ∃ buf', store buf idx.toNat a = some buf' ∧
      ((p.length + 1 = n ∧ idx + 1 = UInt8.ofNat n ∧ buf'.toList = p ++ [a]) ∨
        (p.length + 1 ≠ n ∧ idx + 1 ≠ UInt8.ofNat n ∧ Holds buf' (idx + 1) (p ++ [a]))) := by
  obtain ⟨buf', hst, hfill⟩ := store_filled buf h.1 a
  have hlt := h.1
  -- the index does not wrap
  have hadd : (idx + 1).toNat = p.length + 1 := by
    rw [UInt8.toNat_add, h.length]
    exact Nat.mod_eq_of_lt (by simp; omega)
  have hfull : idx + 1 = UInt8.ofNat n ↔ p.length + 1 = n := by
    rw [← UInt8.toNat_inj, hadd, UInt8.toNat_ofNat_of_lt' hn]
  rw [h.2] at hfill
  refine ⟨buf', hst, ?_⟩
  by_cases hf : p.length + 1 = n
  · refine Or.inl ⟨hf, hfull.mpr hf, ?_⟩
    rw [← hfill, ← h.length, hf, filled_full]
  · refine Or.inr ⟨hf, mt hfull.mp hf, ?_, ?_⟩
    · have := h.length
      omega
    · rw [hadd, h.length]
      exact hfill

end Index

end Buffer
