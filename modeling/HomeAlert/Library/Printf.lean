/-
  File:      HomeAlert/Library/Printf.lean
  Subject:   WHAT C's PRINTF WRITES, and when its text can be read back.

  * `padded` is a natural number in a base up to 16 with leading zeros, `signed` C's `%0wd` (and
    `%d`, where `w` is zero). `value` and `integer` read them back (`value_padded`,
    `integer_signed`).
  * `read` reads a decimal number: a sign, digits and, behind a point, the digits of a fraction.
    Two conversions around a point are one where the second number is not negative
    (`read_point`), and no decimal number otherwise (`read_point_neg`).
  * A format is a list of pieces with its arguments typed along it. Where every conversion is
    followed by a character no conversion writes, the text determines the arguments
    (`printf_append_inj`).
-/
import HomeAlert.Library.Fixed

namespace Printf

/-! ## 1. Conversions -/

/-- `n` in base `b`, with zeros in front up to `w` characters. -/
def padded (b w n : Nat) : List Char :=
  List.replicate (w - (Nat.toDigits b n).length) '0' ++ Nat.toDigits b n

/-- C's `%0wd`: the minus sign is one of the `w` characters. `%d` is the case `w = 0`. -/
def signed (w : Nat) (n : Int) : List Char :=
  if n < 0 then '-' :: padded 10 (w - 1) n.natAbs else padded 10 w n.natAbs

/-- The digit a character stands for, in bases up to 16. -/
def digit (c : Char) : Nat := if c.isDigit then c.toNat - 48 else c.toNat - 87

/-- The number that digits in base `b` stand for. -/
def value (b : Nat) (s : List Char) : Nat := s.foldl (fun n c => b * n + digit c) 0

/-- The integer that digits with or without a minus sign stand for. -/
def integer : List Char → Int
  | '-' :: s => -value 10 s
  | s => value 10 s

/-- A text that does not begin with a minus sign has none. -/
theorem integer_of_ne {c : Char} (h : c ≠ '-') (s : List Char) :
    integer (c :: s) = value 10 (c :: s) := by
  unfold integer
  split
  · rename_i heq
    exact absurd (List.cons.inj heq).1 h
  · rfl

theorem digit_digitChar : ∀ d < 16, digit d.digitChar = d := by
  decide

theorem value_append (b : Nat) (s : List Char) (c : Char) :
    value b (s ++ [c]) = b * value b s + digit c := by
  rw [value, List.foldl_append]
  rfl

/-- **The digits of a number stand for it.** -/
theorem value_toDigits {b : Nat} (hb : 1 < b) (hb' : b ≤ 16) (n : Nat) :
    value b (Nat.toDigits b n) = n := by
  induction n using Nat.strong_induction_on with
  | _ n ih =>
    by_cases hn : n < b
    · rw [Nat.toDigits_of_lt_base hn]
      show b * 0 + digit n.digitChar = n
      rw [digit_digitChar n (by omega)]
      omega
    · have hdiv : n / b < n := Nat.div_lt_self (by omega) hb
      have hmod : n % b < b := Nat.mod_lt n (by omega)
      rw [Nat.toDigits_of_base_le hb (by omega), value_append, ih _ hdiv,
        digit_digitChar _ (by omega), Nat.div_add_mod]

theorem value_zeros (b k : Nat) (s : List Char) :
    value b (List.replicate k '0' ++ s) = value b s := by
  induction k with
  | zero => rfl
  | succ k ih =>
    rw [List.replicate_succ, List.cons_append, ← ih]
    show List.foldl _ (b * 0 + 0) _ = _
    rfl

/-- **Leading zeros change nothing.** -/
theorem value_padded {b : Nat} (hb : 1 < b) (hb' : b ≤ 16) (w n : Nat) :
    value b (padded b w n) = n := by
  rw [padded, value_zeros, value_toDigits hb hb']

theorem padded_ne_nil (b w n : Nat) : padded b w n ≠ [] := by
  simp [padded]

theorem isDigit_of_mem_padded {w n : Nat} {c : Char} (h : c ∈ padded 10 w n) :
    c.isDigit = true := by
  rcases List.mem_append.mp h with h | h
  · rw [List.eq_of_mem_replicate h]
    rfl
  · exact Nat.isDigit_of_mem_toDigits (by omega) (by omega) h

/-- Digits do not begin with a minus sign. -/
theorem padded_cons (w n : Nat) : ∃ c s, padded 10 w n = c :: s ∧ c ≠ '-' := by
  rcases List.exists_cons_of_ne_nil (padded_ne_nil 10 w n) with ⟨c, s, hs⟩
  refine ⟨c, s, hs, fun h => ?_⟩
  have hc : c.isDigit = true :=
    isDigit_of_mem_padded (w := w) (n := n) (hs ▸ List.mem_cons_self)
  rw [h] at hc
  cases hc

/-- A number that fits the width fills it. -/
theorem length_padded {b w n : Nat} (hb : 1 < b) (hw : 0 < w) (h : n < b ^ w) :
    (padded b w n).length = w := by
  have hlen := (Nat.length_toDigits_le_iff hb hw).mpr h
  rw [padded, List.length_append, List.length_replicate]
  omega

theorem signed_of_nonneg (w : Nat) {n : Int} (h : 0 ≤ n) :
    signed w n = padded 10 w n.natAbs := if_neg (by omega)

theorem signed_of_neg (w : Nat) {n : Int} (h : n < 0) :
    signed w n = '-' :: padded 10 (w - 1) n.natAbs := if_pos h

/-- **The text of `%0wd` stands for its argument.** -/
theorem integer_signed (w : Nat) (n : Int) : integer (signed w n) = n := by
  rcases Int.lt_or_le n 0 with h | h
  · rw [signed_of_neg w h]
    show -(value 10 (padded 10 (w - 1) n.natAbs) : Int) = n
    rw [value_padded (by omega) (by omega)]
    omega
  · rcases padded_cons w n.natAbs with ⟨c, s, hs, hc⟩
    have hv := value_padded (b := 10) (by omega) (by omega) w n.natAbs
    rw [signed_of_nonneg w h, hs, integer_of_ne hc, ← hs, hv]
    omega

/-! ## 2. The characters of a conversion -/

/-- The characters that conversions write are among these. -/
def numeral (c : Char) : Bool := c.isAlphanum || c == '-'

theorem numeral_of_isDigit {c : Char} (h : c.isDigit = true) : numeral c = true := by
  simp [numeral, Char.isAlphanum, h]

theorem numeral_digitChar : ∀ d < 16, numeral d.digitChar = true := by
  decide

theorem numeral_toDigits {b : Nat} (hb : 1 < b) (hb' : b ≤ 16) (n : Nat) :
    ∀ c ∈ Nat.toDigits b n, numeral c = true := by
  induction n using Nat.strong_induction_on with
  | _ n ih =>
    intro c hc
    by_cases hn : n < b
    · rw [Nat.toDigits_of_lt_base hn, List.mem_singleton] at hc
      rw [hc]
      exact numeral_digitChar n (by omega)
    · have hdiv : n / b < n := Nat.div_lt_self (by omega) hb
      have hmod : n % b < b := Nat.mod_lt n (by omega)
      rw [Nat.toDigits_of_base_le hb (by omega), List.mem_append, List.mem_singleton] at hc
      rcases hc with hc | hc
      · exact ih _ hdiv c hc
      · rw [hc]
        exact numeral_digitChar _ (by omega)

theorem numeral_padded {b : Nat} (hb : 1 < b) (hb' : b ≤ 16) (w n : Nat) :
    ∀ c ∈ padded b w n, numeral c = true := by
  intro c hc
  rcases List.mem_append.mp hc with h | h
  · rw [List.eq_of_mem_replicate h]
    rfl
  · exact numeral_toDigits hb hb' n c h

theorem numeral_signed (w : Nat) (n : Int) : ∀ c ∈ signed w n, numeral c = true := by
  intro c hc
  rcases Int.lt_or_le n 0 with h | h
  · rw [signed_of_neg w h] at hc
    rcases List.mem_cons.mp hc with hc | hc
    · rw [hc]
      rfl
    · exact numeral_padded (by omega) (by omega) _ _ c hc
  · rw [signed_of_nonneg w h] at hc
    exact numeral_padded (by omega) (by omega) _ _ c hc

/-! ## 3. Decimal numbers -/

/-- The natural number a text denotes: at least one character, all of them digits. -/
def readNat (s : List Char) : Option Nat :=
  if !s.isEmpty && s.all Char.isDigit then some (value 10 s) else none

/-- A decimal number without a sign: digits and, behind a point, the digits of a fraction. -/
def readUnsigned (s : List Char) : Option ℚ :=
  match s.dropWhile (· != '.') with
  | [] => (readNat s).map fun n : Nat => (n : ℚ)
  | _ :: frac => do
      let whole ← readNat (s.takeWhile (· != '.'))
      let part ← readNat frac
      some (whole + part / 10 ^ frac.length)

/-- **A decimal number**, with or without a minus sign. -/
def read : List Char → Option ℚ
  | '-' :: s => (readUnsigned s).map fun q => -q
  | s => readUnsigned s

/-- C's `%d.%0wd`. -/
def point (w : Nat) (a b : Int) : List Char := signed 0 a ++ '.' :: signed w b

theorem read_of_ne {c : Char} (h : c ≠ '-') (s : List Char) :
    read (c :: s) = readUnsigned (c :: s) := by
  unfold read
  split
  · rename_i heq
    exact absurd (List.cons.inj heq).1 h
  · rfl

/-- A text is read just when it has a character and all of them are digits. -/
theorem readNat_eq_some {s : List Char} {n : Nat} :
    readNat s = some n ↔ s ≠ [] ∧ (∀ c ∈ s, c.isDigit = true) ∧ value 10 s = n := by
  simp [readNat, List.all_eq_true, and_assoc]

theorem readNat_padded (w n : Nat) : readNat (padded 10 w n) = some n := by
  exact readNat_eq_some.mpr ⟨padded_ne_nil 10 w n, fun _ => isDigit_of_mem_padded,
    value_padded (by omega) (by omega) w n⟩

/-- A minus sign is no digit. -/
theorem readNat_minus (s : List Char) : readNat ('-' :: s) = none := rfl

/-- Reading across the point. -/
theorem readUnsigned_point (w n : Nat) (frac : List Char) :
    readUnsigned (padded 10 w n ++ '.' :: frac) =
      (readNat frac).map fun m : Nat => (n : ℚ) + m / 10 ^ frac.length := by
  have hdigits : ∀ c ∈ padded 10 w n, (c != '.') = true := by
    intro c hc
    rw [bne_iff_ne]
    intro h
    have := isDigit_of_mem_padded hc
    rw [h] at this
    cases this
  rw [readUnsigned, List.dropWhile_append_of_pos hdigits, List.takeWhile_append_of_pos hdigits]
  show ((readNat (padded 10 w n ++ [])).bind fun whole => (readNat frac).bind fun part =>
    some ((whole : ℚ) + part / 10 ^ frac.length)) = _
  rw [List.append_nil, readNat_padded, Option.bind_some]
  rcases readNat frac with _ | m
  · rfl
  · rfl

/-- What the text `%d.` begins reads as, from what stands behind the point. -/
theorem read_signed_point (a : Int) (frac : List Char) :
    read (signed 0 a ++ '.' :: frac) =
      (readNat frac).map fun m : Nat =>
        if a < 0 then (a : ℚ) - m / 10 ^ frac.length else (a : ℚ) + m / 10 ^ frac.length := by
  rcases Int.lt_or_le a 0 with h | h
  · have habs : ((a.natAbs : Nat) : ℚ) = -(a : ℚ) := by
      rw [Nat.cast_natAbs, abs_of_neg h, Int.cast_neg]
    rw [signed_of_neg 0 h]
    show (readUnsigned (padded 10 (0 - 1) a.natAbs ++ '.' :: frac)).map _ = _
    rw [readUnsigned_point, Option.map_map]
    congr 1
    funext m
    rw [if_pos h]
    simp only [Function.comp, habs]
    ring
  · have habs : ((a.natAbs : Nat) : ℚ) = (a : ℚ) := by
      rw [Nat.cast_natAbs, abs_of_nonneg h]
    rcases padded_cons 0 a.natAbs with ⟨c, s, hs, hc⟩
    have hread := readUnsigned_point 0 a.natAbs frac
    rw [hs, List.cons_append, ← read_of_ne hc] at hread
    rw [signed_of_nonneg 0 h, hs, List.cons_append, hread]
    congr 1
    funext m
    rw [if_neg (by omega), habs]

/-- **Two conversions around a point are a decimal number** where the second number is not
    negative and fits its width. -/
theorem read_point {w : Nat} (hw : 0 < w) (a : Int) {b : Int} (hb : 0 ≤ b)
    (hlt : b < 10 ^ w) :
    read (point w a b) =
      some (if a < 0 then (a : ℚ) - b / 10 ^ w else (a : ℚ) + b / 10 ^ w) := by
  have hnat : b.natAbs < 10 ^ w := by
    zify
    rw [abs_of_nonneg hb]
    exact hlt
  have hcast : ((b.natAbs : Nat) : ℚ) = (b : ℚ) := by
    rw [Nat.cast_natAbs, abs_of_nonneg hb]
  rw [point, read_signed_point, signed_of_nonneg w hb, readNat_padded,
    length_padded (by omega) hw hnat, Option.map_some, hcast]

/-- **They are none** where it is negative: its sign stands behind the point. -/
theorem read_point_neg (w : Nat) (a : Int) {b : Int} (hb : b < 0) :
    read (point w a b) = none := by
  rw [point, read_signed_point, signed_of_neg w hb, readNat_minus, Option.map_none]

/-- **A scaled number printed as its two parts** reads as what it denotes where it is not negative
    or has no fraction, and as no decimal number otherwise: its sign is then behind the point. -/
theorem read_split {w : Nat} (hw : 0 < w) (n : Int) :
    read (point w (n.tdiv (10 ^ w)) (n.tmod (10 ^ w))) =
      if 0 ≤ n ∨ (10 ^ w : Int) ∣ n then some ((n : ℚ) / 10 ^ w) else none := by
  have hpos : (0 : Int) < 10 ^ w := by positivity
  have hval := Fixed.quotient_value n hpos.ne'
  have hlt := Int.tmod_lt_of_pos n hpos
  push_cast at hval
  rcases Int.lt_or_le n 0 with hn | hn
  · have hsum := Int.tmod_add_mul_tdiv n (10 ^ w)
    have hle := Fixed.tmod_nonpos hn.le (10 ^ w)
    by_cases hdvd : (10 ^ w : Int) ∣ n
    · have hzero := Int.dvd_iff_tmod_eq_zero.mp hdvd
      rw [hzero, zero_add] at hsum
      have hneg : n.tdiv (10 ^ w) < 0 := by
        by_contra hge
        have := Int.mul_nonneg hpos.le (Int.not_lt.mp hge)
        omega
      rw [if_pos (Or.inr hdvd), read_point hw _ hzero.ge hlt, if_pos hneg, ← hval, hzero]
      simp
    · have hneg : n.tmod (10 ^ w) < 0 :=
        lt_of_le_of_ne hle fun h => hdvd (Int.dvd_iff_tmod_eq_zero.mpr h)
      rw [if_neg (by omega), read_point_neg w _ hneg]
  · have hge := Int.tdiv_nonneg hn hpos.le
    rw [if_pos (Or.inl hn), read_point hw _ (Int.tmod_nonneg _ hn) hlt, if_neg (by omega), hval]

example : (point 2 3 7, point 2 0 (-5), point 2 (-5) (-25)) =
    ("3.07".toList, "0.-5".toList, "-5.-25".toList) := by
  decide

/-! ## 4. The characters of a decimal number -/

/-- The characters that conversions around a point write are among these. -/
def decimal (c : Char) : Bool := numeral c || c == '.'

theorem decimal_of_numeral {c : Char} (h : numeral c = true) : decimal c = true := by
  rw [decimal, h]
  rfl

theorem decimal_of_readNat {s : List Char} {n : Nat} (h : readNat s = some n) :
    ∀ c ∈ s, decimal c = true := by
  intro c hc
  exact decimal_of_numeral (numeral_of_isDigit ((readNat_eq_some.mp h).2.1 c hc))

theorem decimal_of_readUnsigned {s : List Char} {q : ℚ} (h : readUnsigned s = some q) :
    ∀ c ∈ s, decimal c = true := by
  have hs := List.takeWhile_append_dropWhile (p := (· != '.')) (l := s)
  unfold readUnsigned at h
  split at h
  · rename_i hnil
    rw [hnil, List.append_nil] at hs
    rcases Option.map_eq_some_iff.mp h with ⟨n, hn, -⟩
    exact decimal_of_readNat hn
  · rename_i c frac hcons
    rcases Option.bind_eq_some_iff.mp h with ⟨whole, hwhole, h⟩
    rcases Option.bind_eq_some_iff.mp h with ⟨part, hpart, -⟩
    have hc : c = '.' := by
      have := List.head?_dropWhile_not (· != '.') s
      rw [hcons] at this
      simpa using this
    intro x hx
    rw [← hs, hcons] at hx
    rcases List.mem_append.mp hx with hx | hx
    · exact decimal_of_readNat hwhole x hx
    · rcases List.mem_cons.mp hx with hx | hx
      · rw [hx, hc]
        rfl
      · exact decimal_of_readNat hpart x hx

/-- **A text that reads as a decimal number has no other characters.** -/
theorem decimal_of_read {s : List Char} {q : ℚ} (h : read s = some q) :
    ∀ c ∈ s, decimal c = true := by
  unfold read at h
  split at h
  · rename_i s
    rcases Option.map_eq_some_iff.mp h with ⟨r, hr, -⟩
    intro c hc
    rcases List.mem_cons.mp hc with hc | hc
    · rw [hc]
      rfl
    · exact decimal_of_readUnsigned hr c hc
  · exact decimal_of_readUnsigned h

theorem decimal_point (w : Nat) (a b : Int) : ∀ c ∈ point w a b, decimal c = true := by
  intro c hc
  rcases List.mem_append.mp hc with hc | hc
  · exact decimal_of_numeral (numeral_signed 0 a c hc)
  · rcases List.mem_cons.mp hc with hc | hc
    · rw [hc]
      rfl
    · exact decimal_of_numeral (numeral_signed w b c hc)

/-! ## 5. Formats -/

/-- A piece of a format: text, `%d` or `%0wd`, `%0wx`. -/
inductive Piece where
  | text (s : String)
  | dec (w : Nat)
  | hex (w : Nat)

/-- The arguments of a format. -/
def Args : List Piece → Type
  | [] => Unit
  | .text _ :: fmt => Args fmt
  | .dec _ :: fmt => Int × Args fmt
  | .hex _ :: fmt => Nat × Args fmt

/-- What a format writes. -/
def printf : (fmt : List Piece) → Args fmt → List Char
  | [], _ => []
  | .text s :: fmt, args => s.toList ++ printf fmt args
  | .dec w :: fmt, args => signed w args.1 ++ printf fmt args.2
  | .hex w :: fmt, args => padded 16 w args.1 ++ printf fmt args.2

/-- The format goes on with text, and its first character is none that a conversion writes. -/
def Ends : List Piece → Prop
  | .text s :: _ => ∃ c t, s.toList = c :: t ∧ numeral c = false
  | _ => False

/-- Every conversion is followed by such text. -/
def Separated : List Piece → Prop
  | [] => True
  | .text _ :: fmt => Separated fmt
  | .dec _ :: fmt => Ends fmt ∧ Separated fmt
  | .hex _ :: fmt => Ends fmt ∧ Separated fmt

/-- **A text ends where a character stands that does not belong to it.** -/
theorem append_inj_of_ends {p : Char → Bool} {s t u v : List Char} {c d : Char}
    (hs : ∀ x ∈ s, p x = true) (ht : ∀ x ∈ t, p x = true) (hc : p c = false) (hd : p d = false)
    (h : s ++ c :: u = t ++ d :: v) : s = t ∧ c :: u = d :: v := by
  have hst : s = t := by
    have := congrArg (List.takeWhile p) h
    rw [List.takeWhile_append_of_pos hs, List.takeWhile_append_of_pos ht,
      List.takeWhile_cons_of_neg (by simp [hc]), List.takeWhile_cons_of_neg (by simp [hd]),
      List.append_nil, List.append_nil] at this
    exact this
  rw [hst] at h
  exact ⟨hst, List.append_cancel_left h⟩

/-- What is written behind a conversion begins with a character it does not write. -/
theorem printf_of_ends {fmt : List Piece} (h : Ends fmt) (args : Args fmt) (u : List Char) :
    ∃ c t, printf fmt args ++ u = c :: t ∧ numeral c = false := by
  rcases fmt with _ | ⟨_ | _ | _, fmt⟩
  · cases h
  · rcases h with ⟨c, t, hs, hc⟩
    refine ⟨c, t ++ printf fmt args ++ u, ?_, hc⟩
    rw [printf, hs]
    rfl
  · cases h
  · cases h

/-- One conversion behind another text: it and the rest are determined. -/
theorem conversion_inj {fmt : List Piece} (h : Ends fmt) {s t : List Char}
    (hs : ∀ c ∈ s, numeral c = true) (ht : ∀ c ∈ t, numeral c = true) {a b : Args fmt}
    {u v : List Char} (e : (s ++ printf fmt a) ++ u = (t ++ printf fmt b) ++ v) :
    s = t ∧ printf fmt a ++ u = printf fmt b ++ v := by
  rcases printf_of_ends h a u with ⟨c, x, hx, hc⟩
  rcases printf_of_ends h b v with ⟨d, y, hy, hd⟩
  rw [List.append_assoc, List.append_assoc, hx, hy] at e
  rw [hx, hy]
  exact append_inj_of_ends hs ht hc hd e

/-- **A separated format determines its arguments**, whatever is written behind it. -/
theorem printf_append_inj {fmt : List Piece} (hf : Separated fmt) {a b : Args fmt}
    {u v : List Char} (h : printf fmt a ++ u = printf fmt b ++ v) : a = b ∧ u = v := by
  induction fmt with
  | nil => exact ⟨rfl, h⟩
  | cons piece fmt ih =>
    rcases piece with s | w | w
    · rw [printf, printf, List.append_assoc, List.append_assoc] at h
      exact ih hf (List.append_cancel_left h)
    · rcases conversion_inj hf.1 (numeral_signed w a.1) (numeral_signed w b.1) h with ⟨h1, h2⟩
      rcases ih hf.2 h2 with ⟨h3, h4⟩
      have h5 := congrArg integer h1
      rw [integer_signed, integer_signed] at h5
      exact ⟨Prod.ext h5 h3, h4⟩
    · rcases conversion_inj hf.1 (numeral_padded (by omega) (by omega) w a.1)
        (numeral_padded (by omega) (by omega) w b.1) h with ⟨h1, h2⟩
      rcases ih hf.2 h2 with ⟨h3, h4⟩
      have h5 := congrArg (value 16) h1
      rw [value_padded (by omega) (by omega), value_padded (by omega) (by omega)] at h5
      exact ⟨Prod.ext h5 h3, h4⟩

end Printf
