/-
  File:      HomeAlert/Library/Word.lean
  Subject:   16-BIT WORDS AS TWO BYTES, big-endian, for signed and unsigned words alike.

  C widens a word to `int` before it shifts it, and stores the low eight bits of the result. So
  the two bytes of a word are functions of its mathematical value (`hi`, `lo` on `Int`, with the
  floor shift), and joining them gives that value modulo `65536` (`join_hi_lo`). Both readings of
  the joined value, `Int16.ofInt` and `UInt16.ofNat`, then undo the split.

  What a conversion or a mask keeps of a number is a remainder: `uint16_ofInt_toNat`,
  `int16_word` and the two `low6` lemmas.
-/
import Mathlib.Tactic.Common

namespace Word

/-! ## 1. Two bytes -/

/-- `(uint8_t)(n >> 8)`. -/
def hi (n : Int) : UInt8 := UInt8.ofInt (n >>> (8 : Nat))

/-- `(uint8_t)n`. -/
def lo (n : Int) : UInt8 := UInt8.ofInt n

/-- `(h << 8) | l`. -/
def join (h l : UInt8) : Nat := h.toNat <<< 8 ||| l.toNat

theorem toNat_ofInt (n : Int) : ((UInt8.ofInt n).toNat : Int) = n % 256 := by
  rw [UInt8.ofInt, UInt8.toNat_ofNat']
  omega

theorem shiftRight_eight (n : Int) : n >>> (8 : Nat) = n / 256 := by
  rw [Int.shiftRight_eq_div_pow]
  rfl

theorem join_eq (h l : UInt8) : join h l = h.toNat * 256 + l.toNat := by
  have hl : l.toNat < 2 ^ 8 := l.toNat_lt
  rw [join, ← Nat.shiftLeft_add_eq_or_of_lt hl, Nat.shiftLeft_eq]

/-- **Joining the two bytes of `n` gives `n` modulo `65536`.** -/
theorem join_hi_lo (n : Int) : (join (hi n) (lo n) : Int) = n % 65536 := by
  have h1 := toNat_ofInt (n >>> (8 : Nat))
  have h2 := toNat_ofInt n
  rw [shiftRight_eight] at h1
  rw [join_eq, hi, lo, shiftRight_eight]
  omega

/-- Masking the low byte before storing it changes nothing. -/
theorem lo_mask (n : Nat) : lo ((n &&& 0xFF : Nat) : Int) = lo n := by
  have h1 := toNat_ofInt ((n &&& 0xFF : Nat) : Int)
  have h2 := toNat_ofInt (n : Int)
  have h3 : n &&& 0xFF = n % 256 := Nat.and_two_pow_sub_one_eq_mod n 8
  rw [← UInt8.toNat_inj, lo, lo]
  omega

/-- **A signed word survives the split.** -/
theorem int16_join (x : Int16) : Int16.ofInt (join (hi x.toInt) (lo x.toInt)) = x := by
  have h1 := join_hi_lo x.toInt
  rw [← Int16.toInt_inj, Int16.toInt_ofInt, h1]
  show (x.toInt % ((65536 : Nat) : Int)).bmod 65536 = x.toInt
  rw [Int.emod_bmod, Int16.toInt_bmod]

/-- **An unsigned word survives the split.** -/
theorem uint16_join (x : UInt16) : UInt16.ofNat (join (hi x.toNat) (lo x.toNat)) = x := by
  have h1 := join_hi_lo x.toNat
  have h2 := x.toNat_lt
  rw [← UInt16.toNat_inj, UInt16.toNat_ofNat']
  omega

theorem join_lt (h l : UInt8) : join h l < 65536 := by
  have h1 := h.toNat_lt
  have h2 := l.toNat_lt
  rw [join_eq]
  omega

/-- **Two bytes survive the join.** -/
theorem hi_join (h l : UInt8) : hi (join h l) = h := by
  have h1 := toNat_ofInt ((join h l : Int) >>> (8 : Nat))
  have h2 := h.toNat_lt
  have h3 := l.toNat_lt
  rw [shiftRight_eight, join_eq] at h1
  rw [← UInt8.toNat_inj, hi, shiftRight_eight, join_eq]
  omega

theorem lo_join (h l : UInt8) : lo (join h l) = l := by
  have h1 := toNat_ofInt (join h l)
  have h3 := l.toNat_lt
  rw [join_eq] at h1
  rw [← UInt8.toNat_inj, lo, join_eq]
  omega

/-- The two bytes of a number depend on its low sixteen bits only. -/
theorem hi_congr {m n : Int} (h : m % 65536 = n % 65536) : hi m = hi n := by
  have h1 := toNat_ofInt (m >>> (8 : Nat))
  have h2 := toNat_ofInt (n >>> (8 : Nat))
  rw [shiftRight_eight] at h1 h2
  rw [← UInt8.toNat_inj, hi, hi, shiftRight_eight, shiftRight_eight]
  omega

theorem lo_congr {m n : Int} (h : m % 65536 = n % 65536) : lo m = lo n := by
  have h1 := toNat_ofInt m
  have h2 := toNat_ofInt n
  rw [← UInt8.toNat_inj, lo, lo]
  omega

/-- A number read as a signed word keeps its low sixteen bits. -/
theorem int16_emod (n : Int) : (Int16.ofInt n).toInt % 65536 = n % 65536 := by
  rw [Int16.toInt_ofInt]
  exact Int.bmod_emod

/-- A non-negative signed word reads as the same number when it is received as unsigned. -/
theorem uint16_join_of_nonneg {n : Int} (h0 : 0 ≤ n) (h1 : n < 65536) :
    ((UInt16.ofNat (join (hi n) (lo n))).toNat : Int) = n := by
  have h2 := join_hi_lo n
  rw [UInt16.toNat_ofNat']
  omega

/-! ## 2. What a conversion keeps -/

theorem uint16_ofInt_toNat (n : Int) : ((UInt16.ofInt n).toNat : Int) = n % 65536 := by
  rw [UInt16.ofInt, UInt16.toNat_ofNat']
  omega

/-- **A number sent as a signed word** and read as one, through an unsigned word: the
    representative of `n` modulo `65536` among the signed words. -/
theorem int16_word (n : Int) :
    (Int16.ofInt ((UInt16.ofInt (Int16.ofInt n).toInt).toNat : Int)).toInt = n.bmod 65536 := by
  have h1 := uint16_ofInt_toNat (Int16.ofInt n).toInt
  rw [Int16.toInt_ofInt, h1, Int16.toInt_ofInt]
  show (n.bmod 65536 % ((65536 : Nat) : Int)).bmod 65536 = n.bmod 65536
  rw [Int.emod_bmod, Int.bmod_bmod]

/-- The low six bits of an `int32`, also of a negative one. -/
theorem int32_low6 (v : Int32) : (v &&& 0x3F).toInt = v.toInt % 64 := by
  have h1 : (v &&& 0x3F).toBitVec.toNat = v.toBitVec.toNat % 64 := by
    show (v.toBitVec &&& 0x3F#32).toNat = v.toBitVec.toNat % 64
    rw [BitVec.toNat_and]
    exact Nat.and_two_pow_sub_one_eq_mod _ 6
  have h2 := v.toBitVec.isLt
  show (v &&& 0x3F).toBitVec.toInt = v.toBitVec.toInt % 64
  rw [BitVec.toInt_eq_toNat_cond, BitVec.toInt_eq_toNat_cond, h1]
  split <;> split <;> omega

/-- The low eight bits of a signed word, also of a negative one. -/
theorem int16_low8 (v : Int16) : (v &&& 0xFF).toInt = v.toInt % 256 := by
  have h1 : (v &&& 0xFF).toBitVec.toNat = v.toBitVec.toNat % 256 := by
    show (v.toBitVec &&& 0xFF#16).toNat = v.toBitVec.toNat % 256
    rw [BitVec.toNat_and]
    exact Nat.and_two_pow_sub_one_eq_mod _ 8
  have h2 := v.toBitVec.isLt
  show (v &&& 0xFF).toBitVec.toInt = v.toBitVec.toInt % 256
  rw [BitVec.toInt_eq_toNat_cond, BitVec.toInt_eq_toNat_cond, h1]
  split <;> split <;> omega

/-- Masking the low byte of a signed word before storing it changes nothing. -/
theorem lo_mask16 (v : Int16) : lo (v &&& 0xFF).toInt = lo v.toInt := by
  have h1 := toNat_ofInt (v &&& 0xFF).toInt
  have h2 := toNat_ofInt v.toInt
  rw [int16_low8] at h1
  rw [← UInt8.toNat_inj, lo, lo, int16_low8]
  omega

/-- The low six bits of a word, stored as a byte. -/
theorem uint16_low6 (w : UInt16) : (w &&& 0x3F).toUInt8.toNat = w.toNat % 64 := by
  have h : w.toNat &&& (0x3F : UInt16).toNat = w.toNat % 64 := Nat.and_two_pow_sub_one_eq_mod _ 6
  rw [UInt16.toNat_toUInt8, UInt16.toNat_and, h]
  omega

end Word
