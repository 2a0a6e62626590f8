import Mathlib.Algebra.Order.Field.Power
import Mathlib.Data.Int.Log
import Mathlib.Data.Rat.Floor
import Mathlib.Tactic.FieldSimp
import Mathlib.Tactic.Positivity

/-!
# Binary floating point, bit by bit

Floating-point numbers as bit patterns of a format with `fb` fraction bits and
`eb` exponent bits, and the rational number each finite pattern denotes. The
operations are computed on rationals and rounded once
(`Ieee.Pattern.ofRat`, to nearest, ties to even), so they are executable and a
test evaluates them in the kernel.

What rounds nothing is proved to round nothing. A number with 53 binary digits
within the exponent range is its own rounding (`Ieee.F64.ofRat_of_isDyadic`); the
cast to an integer and the rounding to one go through such numbers
(`Ieee.F64.magnitude_round`). Widening a 32-bit pattern to 64 bits keeps the
number it denotes, zeros of both signs, subnormals, infinities and not-a-number
patterns included (`Ieee.toRat_widen`).
-/

namespace Ieee

/-- A bit pattern of the format with `fb` fraction bits and `eb` exponent bits,
the sign being the top bit. -/
structure Pattern (fb eb : ℕ) where
  /-- The bits, as a number. -/
  bits : ℕ
  /-- There are one sign bit, `eb` exponent bits and `fb` fraction bits. -/
  lt : bits < 2 ^ (fb + eb + 1)
  deriving DecidableEq

/-- The 32-bit format. -/
abbrev F32 := Pattern 23 8

/-- The 64-bit format. -/
abbrev F64 := Pattern 52 11

namespace Pattern

variable {fb eb : ℕ}

/-- The exponent bias. -/
def bias (eb : ℕ) : ℤ := 2 ^ (eb - 1) - 1

/-- The fraction field. -/
def frac (x : Pattern fb eb) : ℕ := x.bits % 2 ^ fb

/-- The exponent field. -/
def expo (x : Pattern fb eb) : ℕ := x.bits / 2 ^ fb % 2 ^ eb

/-- The sign bit. -/
def neg (x : Pattern fb eb) : Bool := decide (2 ^ (fb + eb) ≤ x.bits)

/-- A pattern from its three fields. -/
def mk' (neg : Bool) (expo : Fin (2 ^ eb)) (frac : Fin (2 ^ fb)) : Pattern fb eb where
  bits := (if neg then 2 ^ (fb + eb) else 0) + expo.val * 2 ^ fb + frac.val
  lt := by
    have h1 : expo.val * 2 ^ fb + frac.val < 2 ^ (fb + eb) := by
      have h2 : (expo.val + 1) * 2 ^ fb ≤ 2 ^ eb * 2 ^ fb := Nat.mul_le_mul_right _ expo.isLt
      have h3 : 2 ^ (fb + eb) = 2 ^ eb * 2 ^ fb := by rw [pow_add, mul_comm]
      have h4 := frac.isLt
      rw [Nat.add_mul, one_mul] at h2
      omega
    have h5 : 2 ^ (fb + eb + 1) = 2 ^ (fb + eb) + 2 ^ (fb + eb) := by rw [pow_succ]; ring
    cases neg
    · simp only [Bool.false_eq_true, if_false]
      omega
    · simp only [if_true]
      omega

theorem frac_mk' (n : Bool) (e : Fin (2 ^ eb)) (f : Fin (2 ^ fb)) :
    (mk' n e f : Pattern fb eb).frac = f.val := by
  have hf := f.isLt
  unfold frac mk'
  cases n
  · simp only [Bool.false_eq_true, if_false, Nat.zero_add]
    rw [Nat.add_comm, Nat.add_mul_mod_self_right, Nat.mod_eq_of_lt hf]
  · have h : 2 ^ (fb + eb) + e.val * 2 ^ fb + f.val = f.val + (2 ^ eb + e.val) * 2 ^ fb := by
      rw [pow_add]
      ring
    simp only [if_true]
    rw [h, Nat.add_mul_mod_self_right, Nat.mod_eq_of_lt hf]

theorem expo_mk' (n : Bool) (e : Fin (2 ^ eb)) (f : Fin (2 ^ fb)) :
    (mk' n e f : Pattern fb eb).expo = e.val := by
  have he := e.isLt
  have hf := f.isLt
  unfold expo mk'
  cases n
  · simp only [Bool.false_eq_true, if_false, Nat.zero_add]
    rw [Nat.add_comm, Nat.add_mul_div_right _ _ (Nat.two_pow_pos fb), Nat.div_eq_of_lt hf,
      Nat.zero_add, Nat.mod_eq_of_lt he]
  · have h : 2 ^ (fb + eb) + e.val * 2 ^ fb + f.val = f.val + (e.val + 2 ^ eb) * 2 ^ fb := by
      rw [pow_add]
      ring
    simp only [if_true]
    rw [h, Nat.add_mul_div_right _ _ (Nat.two_pow_pos fb), Nat.div_eq_of_lt hf, Nat.zero_add,
      Nat.add_mod_right, Nat.mod_eq_of_lt he]

theorem neg_mk' (n : Bool) (e : Fin (2 ^ eb)) (f : Fin (2 ^ fb)) :
    (mk' n e f : Pattern fb eb).neg = n := by
  have h1 : e.val * 2 ^ fb + f.val < 2 ^ (fb + eb) := by
    have h2 : (e.val + 1) * 2 ^ fb ≤ 2 ^ eb * 2 ^ fb := Nat.mul_le_mul_right _ e.isLt
    have h3 : 2 ^ (fb + eb) = 2 ^ eb * 2 ^ fb := by rw [pow_add, mul_comm]
    have h4 := f.isLt
    rw [Nat.add_mul, one_mul] at h2
    omega
  unfold neg mk'
  cases n
  · simp only [Bool.false_eq_true, if_false, decide_eq_false_iff_not]
    omega
  · simp only [if_true, decide_eq_true_eq]
    omega

/-! ### What a pattern denotes -/

/-- The special patterns: the exponent field is all ones. -/
def isSpecial (x : Pattern fb eb) : Bool := decide (x.expo = 2 ^ eb - 1)

/-- A finite number, that is, neither an infinity nor not-a-number. -/
def isFinite (x : Pattern fb eb) : Bool := !x.isSpecial

/-- Not-a-number: a special pattern with a fraction. -/
def isNan (x : Pattern fb eb) : Bool := x.isSpecial && decide (x.frac ≠ 0)

/-- The size of the number a finite pattern denotes. -/
def magnitude (x : Pattern fb eb) : ℚ :=
  if x.expo = 0 then (x.frac : ℚ) * 2 ^ (1 - bias eb - fb)
  else ((2 : ℚ) ^ fb + x.frac) * 2 ^ ((x.expo : ℤ) - bias eb - fb)

/-- The number a finite pattern denotes. -/
def toRat (x : Pattern fb eb) : ℚ := if x.neg then -x.magnitude else x.magnitude

/-! ### Rounding -/

/-- The nearest integer, ties to even. -/
def roundHalfEven (q : ℚ) : ℤ :=
  let f := ⌊q⌋
  let r := q - f
  if r < 1 / 2 then f else if 1 / 2 < r then f + 1 else if f % 2 = 0 then f else f + 1

/-- The infinity of the given sign. -/
def infinity (n : Bool) (h : 0 < 2 ^ eb) : Pattern fb eb :=
  mk' n ⟨2 ^ eb - 1, Nat.sub_lt h one_pos⟩ ⟨0, Nat.two_pow_pos fb⟩

/-- A not-a-number pattern, the quiet one without payload. -/
def nan : Pattern (fb + 1) eb :=
  mk' false ⟨2 ^ eb - 1, Nat.sub_lt (Nat.two_pow_pos eb) one_pos⟩
    ⟨2 ^ fb, Nat.pow_lt_pow_right one_lt_two (Nat.lt_succ_self fb)⟩

/-- The pattern with the given exponent and fraction bits; an infinity when they
are beyond the largest finite number. -/
def ofBits (n : Bool) (bits : ℕ) : Pattern fb eb :=
  if h : bits < (2 ^ eb - 1) * 2 ^ fb then
    mk' n ⟨bits / 2 ^ fb, lt_of_lt_of_le
        (Nat.div_lt_of_lt_mul (h.trans_eq (Nat.mul_comm _ _))) (Nat.sub_le _ _)⟩
      ⟨bits % 2 ^ fb, Nat.mod_lt _ (Nat.two_pow_pos fb)⟩
  else infinity n (Nat.two_pow_pos eb)

/-- The pattern nearest to a non-negative number, with the given sign; a number
beyond the largest finite one becomes an infinity. A number of which nothing is
left has no bits. -/
def ofRat (fb eb : ℕ) (n : Bool) (q : ℚ) : Pattern fb eb :=
  if q ≤ 0 then mk' n ⟨0, Nat.two_pow_pos eb⟩ ⟨0, Nat.two_pow_pos fb⟩
  else
    let e := max (Int.log 2 q) (1 - bias eb)
    let m := roundHalfEven (q / 2 ^ (e - fb))
    ofBits n ((e + bias eb - 1) * 2 ^ fb + m).toNat

end Pattern

open Pattern

/-! ### Operations on 64-bit numbers -/

namespace F64

/-- The 64-bit number nearest to an integer: the cast from an integer type. -/
def ofInt (x : ℤ) : F64 := ofRat 52 11 (decide (x < 0)) |(x : ℚ)|

/-- There are bits for the exponent. -/
theorem exponents_pos : 0 < 2 ^ 11 := by decide

/-- The product, rounded to nearest. -/
def mul (x y : F64) : F64 :=
  if x.isNan || y.isNan then nan
  else if x.isSpecial || y.isSpecial then
    if x.magnitude = 0 && x.isFinite || y.magnitude = 0 && y.isFinite then nan
    else infinity (x.neg != y.neg) exponents_pos
  else ofRat 52 11 (x.neg != y.neg) (x.magnitude * y.magnitude)

/-- The nearest integer, ties away from zero; special patterns stay. -/
def round (x : F64) : F64 :=
  if x.isSpecial then x else ofRat 52 11 x.neg ⌊x.magnitude + 1 / 2⌋

/-- The number without its fraction. -/
def trunc (x : F64) : ℤ := if x.neg then -⌊x.magnitude⌋ else ⌊x.magnitude⌋

/-- The cast to an integer type with the given bounds: the fraction is cut off,
a number outside saturates, and not-a-number becomes zero. -/
def toIntSat (lo hi : ℤ) (x : F64) : ℤ :=
  if x.isNan then 0
  else if x.isSpecial then (if x.neg then lo else hi)
  else max lo (min hi x.trunc)

theorem toIntSat_mem {lo hi : ℤ} (hlo : lo ≤ 0) (hhi : 0 ≤ hi) (x : F64) :
    lo ≤ x.toIntSat lo hi ∧ x.toIntSat lo hi ≤ hi := by
  unfold toIntSat
  split
  · exact ⟨hlo, hhi⟩
  · split
    · split <;> omega
    · omega

/-! ### What rounds nothing -/

/-- A number with 53 binary digits within the exponent range. -/
def IsDyadic (q : ℚ) : Prop :=
  ∃ (m : ℕ) (k : ℤ), m < 2 ^ 53 ∧ -1074 ≤ k ∧ k ≤ 971 ∧ q = m * 2 ^ k

theorem bias_eq : bias 11 = 1023 := by norm_num [bias]

/-- A finite pattern denotes such a number. -/
theorem isDyadic_magnitude {x : F64} (hx : x.isSpecial = false) : IsDyadic x.magnitude := by
  have hf : x.frac < 2 ^ 52 := Nat.mod_lt _ (Nat.two_pow_pos 52)
  have he : x.expo < 2 ^ 11 := Nat.mod_lt _ (Nat.two_pow_pos 11)
  have hne : x.expo ≠ 2 ^ 11 - 1 := of_decide_eq_false hx
  unfold magnitude
  rw [bias_eq]
  split
  · exact ⟨x.frac, -1074, by omega, le_refl _, by norm_num, by norm_num⟩
  · refine ⟨2 ^ 52 + x.frac, (x.expo : ℤ) - 1023 - 52, by omega, by omega, by omega, ?_⟩
    push_cast
    rfl

/-- An integer nearest to a dyadic number, below or above, is one as well. -/
theorem isDyadic_floor {q c : ℚ} (hq : IsDyadic q) (h0 : 0 ≤ c) (h1 : c < 1) :
    IsDyadic (⌊q + c⌋ : ℤ) := by
  obtain ⟨m, k, hm, hk, hk', rfl⟩ := hq
  rcases le_or_gt 0 k with h | h
  · -- A whole number stays as it is.
    obtain ⟨j, rfl⟩ := Int.eq_ofNat_of_zero_le h
    have hfloor : ⌊(m : ℚ) * 2 ^ ((j : ℕ) : ℤ) + c⌋ = ((m * 2 ^ j : ℕ) : ℤ) := by
      rw [Int.floor_eq_iff]
      push_cast [zpow_natCast]
      constructor <;> linarith
    refine ⟨m, (j : ℕ), hm, hk, hk', ?_⟩
    rw [hfloor]
    push_cast [zpow_natCast]
    rfl
  · -- A number with a fraction is below half of the range of whole numbers.
    have hle : (2 : ℚ) ^ k ≤ 2 ^ (-1 : ℤ) := zpow_le_zpow_right₀ (by norm_num) (by omega)
    have hm' : (m : ℚ) < 2 ^ 53 := by exact_mod_cast hm
    have hv : (m : ℚ) * 2 ^ k < 2 ^ 52 := by
      calc (m : ℚ) * 2 ^ k ≤ m * 2 ^ (-1 : ℤ) := mul_le_mul_of_nonneg_left hle (by positivity)
        _ < 2 ^ 53 * 2 ^ (-1 : ℤ) := mul_lt_mul_of_pos_right hm' (by positivity)
        _ = 2 ^ 52 := by norm_num
    have hpos : (0 : ℚ) ≤ (m : ℚ) * 2 ^ k + c := add_nonneg (by positivity) h0
    have hlow : 0 ≤ ⌊(m : ℚ) * 2 ^ k + c⌋ := Int.floor_nonneg.mpr hpos
    have hhigh : ⌊(m : ℚ) * 2 ^ k + c⌋ < 2 ^ 52 + 1 := by
      rw [Int.floor_lt]
      push_cast
      linarith
    obtain ⟨N, hN⟩ := Int.eq_ofNat_of_zero_le hlow
    refine ⟨N, 0, by omega, by norm_num, by norm_num, ?_⟩
    rw [hN]
    simp

theorem roundHalfEven_natCast (n : ℕ) : roundHalfEven (n : ℚ) = n := by
  unfold roundHalfEven
  simp

/-- The binary digits of a dyadic number, aligned to the exponent at which it is
rounded. -/
theorem aligned_of_isDyadic {q : ℚ} (hq : IsDyadic q) (hpos : 0 < q) :
    ∃ (M : ℕ) (E : ℕ), max (Int.log 2 q) (1 - bias 11) = (E : ℤ) - 1022 ∧ M < 2 ^ 53 ∧
      E ≤ 2045 ∧ q = M * 2 ^ ((E : ℤ) - 1074) ∧ (M < 2 ^ 52 → E = 0) := by
  obtain ⟨m, k, hm, hk, hk', rfl⟩ := hq
  have hm' : (m : ℚ) < 2 ^ (53 : ℤ) := by exact_mod_cast hm
  have hlow := Int.zpow_log_le_self (b := 2) (by norm_num) hpos
  have hhigh := Int.lt_zpow_succ_log_self (b := 2) (by norm_num) ((m : ℚ) * 2 ^ k)
  rw [bias_eq]
  push_cast at hlow hhigh
  generalize Int.log 2 ((m : ℚ) * 2 ^ k) = l at *
  have hl : l < 53 + k := by
    have h : (2 : ℚ) ^ l < 2 ^ (53 + k) := by
      rw [zpow_add₀ (by norm_num)]
      exact lt_of_le_of_lt hlow (mul_lt_mul_of_pos_right hm' (by positivity))
    exact (zpow_lt_zpow_iff_right₀ (by norm_num)).mp h
  obtain ⟨E, hE⟩ := Int.eq_ofNat_of_zero_le (a := max l (1 - 1023) + 1022) (by omega)
  obtain ⟨j, hj⟩ := Int.eq_ofNat_of_zero_le (a := k - (E - 1074)) (by omega)
  have hval : (m : ℚ) * 2 ^ k = ((m * 2 ^ j : ℕ) : ℚ) * 2 ^ ((E : ℤ) - 1074) := by
    rw [show k = (j : ℤ) + (E - 1074) by omega, zpow_add₀ (by norm_num), zpow_natCast]
    push_cast
    ring
  have hM : ((m * 2 ^ j : ℕ) : ℚ) < 2 ^ (53 : ℕ) := by
    have h : (2 : ℚ) ^ (l + 1) ≤ 2 ^ ((53 : ℤ) + (E - 1074)) :=
      zpow_le_zpow_right₀ (by norm_num) (by omega)
    have h2 := lt_of_lt_of_le hhigh h
    rw [hval, zpow_add₀ (by norm_num) 53] at h2
    exact_mod_cast lt_of_mul_lt_mul_right h2 (by positivity)
  refine ⟨m * 2 ^ j, E, by omega, by exact_mod_cast hM, by omega, hval, fun hlt => ?_⟩
  by_contra hne
  have hlE : l = E - 1022 := by omega
  have h52 : ((m * 2 ^ j : ℕ) : ℚ) < 2 ^ (52 : ℤ) := by exact_mod_cast hlt
  have h : (m : ℚ) * 2 ^ k < 2 ^ l := by
    rw [hval, hlE, show (E : ℤ) - 1022 = 52 + (E - 1074) by omega, zpow_add₀ (by norm_num)]
    exact mul_lt_mul_of_pos_right h52 (by positivity)
  exact absurd hlow (not_le.mpr h)

/-- **A dyadic number is its own rounding.** -/
theorem ofRat_of_isDyadic {q : ℚ} (hq : IsDyadic q) (h0 : 0 ≤ q) (n : Bool) :
    (ofRat 52 11 n q).magnitude = q ∧ (ofRat 52 11 n q).isSpecial = false ∧
      (ofRat 52 11 n q).neg = n := by
  unfold ofRat
  split
  · rename_i hle
    refine ⟨?_, ?_, neg_mk' ..⟩
    · rw [magnitude, expo_mk', frac_mk', if_pos rfl, le_antisymm hle h0]
      simp
    · rw [isSpecial, expo_mk']
      norm_num
  · rename_i hpos
    obtain ⟨M, E, he, hM, hE, hval, hsub⟩ := aligned_of_isDyadic hq (not_le.mp hpos)
    have hround : roundHalfEven (q / 2 ^ ((E : ℤ) - 1022 - (52 : ℕ))) = M := by
      rw [hval, show (E : ℤ) - 1022 - (52 : ℕ) = E - 1074 by push_cast; ring,
        mul_div_cancel_right₀ _ (by positivity), roundHalfEven_natCast]
    have hbits : (((E : ℤ) - 1022 + bias 11 - 1) * 2 ^ 52 + (M : ℤ)).toNat = E * 2 ^ 52 + M := by
      rw [bias_eq]
      omega
    dsimp only
    rw [he, hround, hbits]
    have hlt : E * 2 ^ 52 + M < (2 ^ 11 - 1) * 2 ^ 52 := by omega
    unfold ofBits
    rw [dif_pos hlt]
    rcases Nat.lt_or_ge M (2 ^ 52) with h | h
    · -- A subnormal number.
      obtain rfl := hsub h
      have hdiv : (0 * 2 ^ 52 + M) / 2 ^ 52 = 0 := by omega
      have hmod : (0 * 2 ^ 52 + M) % 2 ^ 52 = M := by omega
      refine ⟨?_, ?_, neg_mk' ..⟩
      · rw [magnitude, expo_mk', frac_mk', if_pos hdiv]
        dsimp only
        rw [hmod, hval, bias_eq]
        norm_num
      · rw [isSpecial, expo_mk', decide_eq_false_iff_not]
        dsimp only
        omega
    · -- A number with its leading digit hidden.
      have hdiv : (E * 2 ^ 52 + M) / 2 ^ 52 = E + 1 := by omega
      have hmod : (E * 2 ^ 52 + M) % 2 ^ 52 = M - 2 ^ 52 := by omega
      refine ⟨?_, ?_, neg_mk' ..⟩
      · rw [magnitude, expo_mk', frac_mk', if_neg (by dsimp only; omega)]
        dsimp only
        rw [hdiv, hmod, hval, bias_eq, Nat.cast_sub h]
        push_cast
        rw [show (E : ℤ) + 1 - 1023 - 52 = E - 1074 by ring]
        ring
      · rw [isSpecial, expo_mk', decide_eq_false_iff_not]
        dsimp only
        omega

/-- **Rounding to an integer is exact.** -/
theorem magnitude_round {x : F64} (hx : x.isSpecial = false) :
    x.round.magnitude = (⌊x.magnitude + 1 / 2⌋ : ℤ) ∧ x.round.isSpecial = false ∧
      x.round.neg = x.neg := by
  have hd := isDyadic_floor (isDyadic_magnitude hx) (c := 1 / 2) (by norm_num) (by norm_num)
  have hpos : (0 : ℚ) ≤ (⌊x.magnitude + 1 / 2⌋ : ℤ) := by
    obtain ⟨m, k, -, -, -, hq⟩ := isDyadic_magnitude hx
    have h : 0 ≤ ⌊x.magnitude + 1 / 2⌋ := Int.floor_nonneg.mpr (by rw [hq]; positivity)
    exact_mod_cast h
  unfold round
  rw [hx, if_neg Bool.false_ne_true]
  exact ofRat_of_isDyadic hd hpos x.neg

end F64

/-! ### Widening -/

theorem Pattern.frac_lt {fb eb : ℕ} (x : Pattern fb eb) : x.frac < 2 ^ fb :=
  Nat.mod_lt _ (Nat.two_pow_pos fb)

theorem Pattern.expo_lt {fb eb : ℕ} (x : Pattern fb eb) : x.expo < 2 ^ eb :=
  Nat.mod_lt _ (Nat.two_pow_pos eb)

/-- The exponent field of a widened pattern: a normal number changes its bias, a
subnormal one gets the exponent of its leading one, a special one stays special. -/
def widenExpo (x : F32) : ℕ :=
  if x.expo = 255 then 2047
  else if x.expo = 0 then (if x.frac = 0 then 0 else Nat.log2 x.frac + 874)
  else x.expo + 896

/-- The fraction field of a widened pattern. The leading one of a subnormal number
becomes the hidden bit, and a not-a-number pattern becomes a quiet one. -/
def widenFrac (x : F32) : ℕ :=
  if x.expo = 255 then (if x.frac = 0 then 0 else 2 ^ 51 + x.frac % 2 ^ 22 * 2 ^ 29)
  else if x.expo = 0 then (x.frac - 2 ^ Nat.log2 x.frac) * 2 ^ (52 - Nat.log2 x.frac)
  else x.frac * 2 ^ 29

theorem log2_frac_lt (x : F32) : Nat.log2 x.frac < 23 := by
  by_cases hz : x.frac = 0
  · rw [hz]
    decide
  · exact (Nat.log2_lt hz).mpr x.frac_lt

theorem widenExpo_lt (x : F32) : widenExpo x < 2 ^ 11 := by
  have h := log2_frac_lt x
  have he : x.expo < 2 ^ 8 := x.expo_lt
  unfold widenExpo
  split <;> [skip; split] <;> [skip; split; skip] <;> omega

theorem widenFrac_lt (x : F32) : widenFrac x < 2 ^ 52 := by
  have hf : x.frac < 2 ^ 23 := x.frac_lt
  unfold widenFrac
  split
  · have h := Nat.mod_lt x.frac (show 0 < 2 ^ 22 by norm_num)
    split <;> omega
  · split
    · by_cases hz : x.frac = 0
      · simp [hz]
      · have h1 : x.frac - 2 ^ Nat.log2 x.frac < 2 ^ Nat.log2 x.frac := by
          have h2 : x.frac < 2 ^ (Nat.log2 x.frac + 1) := Nat.lt_log2_self
          rw [pow_succ] at h2
          omega
        have h3 : (2 : ℕ) ^ 52 = 2 ^ Nat.log2 x.frac * 2 ^ (52 - Nat.log2 x.frac) := by
          rw [← pow_add]
          have := log2_frac_lt x
          congr 1
          omega
        rw [h3]
        exact Nat.mul_lt_mul_of_pos_right h1 (Nat.two_pow_pos _)
    · omega

/-- Widening a 32-bit pattern to 64 bits. -/
def widen (x : F32) : F64 :=
  mk' x.neg ⟨widenExpo x, widenExpo_lt x⟩ ⟨widenFrac x, widenFrac_lt x⟩

/-- Widening keeps the sign. -/
theorem neg_widen (x : F32) : (widen x).neg = x.neg := neg_mk' ..

theorem expo_widen (x : F32) : (widen x).expo = widenExpo x := expo_mk' ..

theorem frac_widen (x : F32) : (widen x).frac = widenFrac x := frac_mk' ..

/-- Widening keeps what kind of pattern it is. -/
theorem isSpecial_widen (x : F32) : (widen x).isSpecial = x.isSpecial := by
  have he : x.expo < 2 ^ 8 := x.expo_lt
  have hl := log2_frac_lt x
  unfold isSpecial
  rw [expo_widen, decide_eq_decide]
  unfold widenExpo
  split <;> [skip; split] <;> [skip; split; skip] <;> omega

/-- Widening keeps what is not a number. -/
theorem isNan_widen (x : F32) : (widen x).isNan = x.isNan := by
  unfold isNan
  rw [isSpecial_widen, frac_widen]
  by_cases he : x.expo = 255
  · refine congrArg (x.isSpecial && ·) (decide_eq_decide.mpr (not_congr ?_))
    unfold widenFrac
    rw [if_pos he]
    split <;> omega
  · have hs : x.isSpecial = false := decide_eq_false he
    rw [hs]
    rfl

/-- The scaling of a subnormal number: the leading one becomes the hidden bit. -/
theorem subnormal_scale {f k : ℕ} (hk : k ≤ 52) (hf : 2 ^ k ≤ f) :
    ((2 : ℚ) ^ 52 + ((f - 2 ^ k) * 2 ^ (52 - k) : ℕ)) = f * 2 ^ (52 - k) := by
  have h : (2 : ℚ) ^ 52 = 2 ^ k * 2 ^ (52 - k) := by
    rw [← pow_add]
    congr 1
    omega
  rw [h]
  push_cast [Nat.cast_sub hf]
  ring

/-- **Widening a finite number rounds nothing.** -/
theorem magnitude_widen (x : F32) (hx : x.expo ≠ 255) : (widen x).magnitude = x.magnitude := by
  have hb1 : bias 11 = 1023 := by norm_num [bias]
  have hb2 : bias 8 = 127 := by norm_num [bias]
  rw [magnitude, magnitude, expo_widen, frac_widen, hb1, hb2]
  unfold widenExpo widenFrac
  rw [if_neg hx, if_neg hx]
  by_cases h0 : x.expo = 0
  · rw [if_pos h0, if_pos h0, if_pos h0]
    by_cases hz : x.frac = 0
    · simp [hz]
    · have hl := log2_frac_lt x
      have hle := Nat.log2_self_le hz
      rw [if_neg hz, if_neg (Nat.succ_ne_zero _)]
      generalize Nat.log2 x.frac = k at hl hle ⊢
      rw [subnormal_scale (by omega) hle, mul_assoc, ← zpow_natCast, ← zpow_add₀ two_ne_zero]
      refine congrArg (fun t : ℤ => (x.frac : ℚ) * 2 ^ t) ?_
      push_cast [show k ≤ 52 by omega]
      ring
  · rw [if_neg h0, if_neg h0, if_neg h0, if_neg (by omega)]
    have hfr : (2 : ℚ) ^ 52 + ((x.frac * 2 ^ 29 : ℕ) : ℚ) = (2 ^ 23 + x.frac) * 2 ^ (29 : ℤ) := by
      push_cast
      norm_num
      ring
    rw [hfr, mul_assoc, ← zpow_add₀ two_ne_zero]
    refine congrArg (fun t : ℤ => ((2 : ℚ) ^ 23 + x.frac) * 2 ^ t) ?_
    push_cast
    ring

/-- Widening keeps the number. -/
theorem toRat_widen (x : F32) (hx : x.isSpecial = false) : (widen x).toRat = x.toRat := by
  have h : x.expo ≠ 255 := by simpa [isSpecial] using hx
  rw [toRat, toRat, neg_widen, magnitude_widen x h]

end Ieee
