import Exarrow.Foundations.Rounding
import Mathlib.Data.Nat.Factorization.Basic

/-!
# Products of floats

A rounded number is near the one that is rounded (`Ieee.F64.ofRat_near`), and two floats
are never so near to each other (`Ieee.F64.IsDyadic.gap`). So a product that is rounded can
be the product with another factor only if this is the factor itself: **a rounded product
is a given multiple exactly if the factor is the given one**, when all these numbers are
floats (`Ieee.F64.magnitude_mul_eq_iff`).
-/

namespace Ieee

open Pattern

/-! ### Rounding is near -/

/-- The nearest integer is no further away than one half. -/
theorem abs_roundHalfEven_sub_le (q : ℚ) : |(roundHalfEven q : ℚ) - q| ≤ 1 / 2 := by
  have hfloor := Int.floor_le q
  have hlt := Int.lt_floor_add_one q
  unfold roundHalfEven
  rw [abs_le]
  dsimp only
  split_ifs <;> push_cast <;> constructor <;> linarith

theorem roundHalfEven_mono_natCast {q : ℚ} {m : ℕ} (h : (m : ℚ) ≤ q) :
    (m : ℤ) ≤ roundHalfEven q := by
  have hm : (m : ℤ) ≤ ⌊q⌋ := Int.le_floor.mpr (by exact_mod_cast h)
  unfold roundHalfEven
  dsimp only
  split_ifs <;> omega

theorem roundHalfEven_le_natCast {q : ℚ} {m : ℕ} (h : q < m) : roundHalfEven q ≤ m := by
  have hm : ⌊q⌋ < (m : ℤ) := Int.floor_lt.mpr (by exact_mod_cast h)
  unfold roundHalfEven
  dsimp only
  split_ifs <;> omega

namespace F64

/-- The number of exponent bits and of the digits below them; with all the digits set and
one more, the exponent is the next one. -/
theorem magnitude_ofBits {E M : ℕ} (hM : M ≤ 2 ^ 53) (hsub : M < 2 ^ 52 → E = 0) (n : Bool) :
    (ofBits n (E * 2 ^ 52 + M) : F64).isSpecial = true ∨
      ((ofBits n (E * 2 ^ 52 + M) : F64).isSpecial = false ∧
        (ofBits n (E * 2 ^ 52 + M) : F64).neg = n ∧
        (ofBits n (E * 2 ^ 52 + M) : F64).magnitude = M * 2 ^ ((E : ℤ) - 1074)) := by
  unfold ofBits
  by_cases hlt : E * 2 ^ 52 + M < (2 ^ 11 - 1) * 2 ^ 52
  · right
    rw [dif_pos hlt]
    refine ⟨?_, neg_mk' .., ?_⟩
    · rw [isSpecial, expo_mk', decide_eq_false_iff_not]
      dsimp only
      omega
    rw [magnitude, expo_mk', frac_mk', bias_eq]
    dsimp only
    rcases Nat.lt_or_ge M (2 ^ 52) with h | h
    · -- A subnormal number.
      obtain rfl := hsub h
      have hdiv : (0 * 2 ^ 52 + M) / 2 ^ 52 = 0 := by omega
      have hmod : (0 * 2 ^ 52 + M) % 2 ^ 52 = M := by omega
      rw [if_pos hdiv, hmod]
      norm_num
    rcases Nat.lt_or_ge M (2 ^ 53) with h' | h'
    · -- A number with its leading digit hidden.
      have hdiv : (E * 2 ^ 52 + M) / 2 ^ 52 = E + 1 := by omega
      have hmod : (E * 2 ^ 52 + M) % 2 ^ 52 = M - 2 ^ 52 := by omega
      rw [if_neg (by omega), hdiv, hmod, Nat.cast_sub h]
      push_cast
      rw [show (E : ℤ) + 1 - 1023 - 52 = E - 1074 by ring]
      ring
    · -- The digits are carried into the exponent.
      obtain rfl : M = 2 ^ 53 := le_antisymm hM h'
      have hdiv : (E * 2 ^ 52 + 2 ^ 53) / 2 ^ 52 = E + 2 := by omega
      have hmod : (E * 2 ^ 52 + 2 ^ 53) % 2 ^ 52 = 0 := by omega
      rw [if_neg (by omega), hdiv, hmod]
      push_cast
      rw [show (E : ℤ) + 2 - 1023 - 52 = 1 + (E - 1074) by ring, zpow_add₀ (by norm_num)]
      norm_num
      ring
  · left
    rw [dif_neg hlt, infinity, isSpecial, expo_mk', decide_eq_true_eq]

/-- **Rounding is near**: a float that is rounded to is off by no more than half of the last
digit of what is rounded, and keeps its leading digit. -/
theorem ofRat_near {q : ℚ} (hq : 0 < q) (n : Bool) :
    (ofRat 52 11 n q).isSpecial = true ∨
      ((ofRat 52 11 n q).isSpecial = false ∧ (ofRat 52 11 n q).neg = n ∧
        |(ofRat 52 11 n q).magnitude - q| ≤ 2 ^ (max (Int.log 2 q) (-1022) - 53) ∧
        (-1022 ≤ Int.log 2 q → (2 : ℚ) ^ Int.log 2 q ≤ (ofRat 52 11 n q).magnitude)) := by
  have hlow := Int.zpow_log_le_self (b := 2) (by norm_num) hq
  have hhigh := Int.lt_zpow_succ_log_self (b := 2) (by norm_num) q
  push_cast at hlow hhigh
  unfold ofRat
  rw [if_neg (not_le.mpr hq), bias_eq]
  dsimp only
  rw [show (1 : ℤ) - 1023 = -1022 by norm_num]
  generalize hl : Int.log 2 q = l at *
  obtain ⟨E, hE⟩ := Int.eq_ofNat_of_zero_le (a := max l (-1022) + 1022) (by omega)
  have he : max l (-1022) = (E : ℤ) - 1022 := by omega
  rw [he]
  rw [show (E : ℤ) - 1022 - (52 : ℕ) = E - 1074 by push_cast; ring]
  have hunit : (0 : ℚ) < 2 ^ ((E : ℤ) - 1074) := by positivity
  -- The digits of the number in units of the last one.
  have htop : q / 2 ^ ((E : ℤ) - 1074) < ((2 ^ 53 : ℕ) : ℚ) := by
    rw [div_lt_iff₀ hunit]
    rw [Nat.cast_pow, Nat.cast_ofNat, ← zpow_natCast, ← zpow_add₀ (by norm_num)]
    exact lt_of_lt_of_le hhigh (zpow_le_zpow_right₀ (by norm_num) (by push_cast; omega))
  have hbottom (hl : -1022 ≤ l) : ((2 ^ 52 : ℕ) : ℚ) ≤ q / 2 ^ ((E : ℤ) - 1074) := by
    rw [le_div_iff₀ hunit]
    rw [Nat.cast_pow, Nat.cast_ofNat, ← zpow_natCast, ← zpow_add₀ (by norm_num)]
    exact le_trans (zpow_le_zpow_right₀ (by norm_num) (by push_cast; omega)) hlow
  have hnear := abs_roundHalfEven_sub_le (q / 2 ^ ((E : ℤ) - 1074))
  have hM := roundHalfEven_le_natCast htop
  have hnonneg : 0 ≤ roundHalfEven (q / 2 ^ ((E : ℤ) - 1074)) := by
    have h := @roundHalfEven_mono_natCast (q / 2 ^ ((E : ℤ) - 1074)) 0 (by positivity)
    simpa using h
  have hsub : -1022 ≤ l → (2 ^ 52 : ℤ) ≤ roundHalfEven (q / 2 ^ ((E : ℤ) - 1074)) := fun hl => by
    exact_mod_cast roundHalfEven_mono_natCast (hbottom hl)
  obtain ⟨M, hMeq⟩ := Int.eq_ofNat_of_zero_le hnonneg
  rw [hMeq] at hnear hM hsub ⊢
  have hbits : ((E : ℤ) - 1022 + 1023 - 1) * 2 ^ 52 + (M : ℤ) = ((E * 2 ^ 52 + M : ℕ) : ℤ) := by
    push_cast
    ring
  rw [hbits, Int.toNat_natCast]
  rcases @magnitude_ofBits E M (by exact_mod_cast hM) (fun h => by omega) n with h | ⟨h, hn, hmag⟩
  · exact .inl h
  · refine .inr ⟨h, hn, ?_, fun hl => ?_⟩
    · rw [hmag]
      have hq' : q = q / 2 ^ ((E : ℤ) - 1074) * 2 ^ ((E : ℤ) - 1074) := by
        rw [div_mul_cancel₀ _ hunit.ne']
      rw [show (M : ℚ) * 2 ^ ((E : ℤ) - 1074) - q =
        ((M : ℤ) - q / 2 ^ ((E : ℤ) - 1074)) * 2 ^ ((E : ℤ) - 1074) by
          rw [sub_mul, ← hq']
          push_cast
          rfl, abs_mul, abs_of_pos hunit]
      refine le_trans (mul_le_mul_of_nonneg_right hnear hunit.le) ?_
      rw [show (E : ℤ) - 1022 - 53 = -1 + (E - 1074) by ring, zpow_add₀ (by norm_num)]
      norm_num
    · rw [hmag]
      have hM52 : ((2 : ℚ) ^ (52 : ℕ)) ≤ M := by exact_mod_cast hsub hl
      rw [show l = (52 : ℕ) + ((E : ℤ) - 1074) by push_cast; omega, zpow_add₀ (by norm_num),
        zpow_natCast]
      exact mul_le_mul_of_nonneg_right hM52 hunit.le

/-! ### Floats are apart -/

/-- **Two floats are apart** by more than half of the last digit of the smaller one. -/
theorem IsDyadic.gap {x y : ℚ} (hx : IsDyadic x) (hy : IsDyadic y) (h0 : 0 < x) (h : x < y) :
    x * 2 ^ (-53 : ℤ) < y - x := by
  obtain ⟨M, E, he, hM, -, rfl, -⟩ := aligned_of_isDyadic hx h0
  obtain ⟨N, F, hf, -, -, rfl, -⟩ := aligned_of_isDyadic hy (h0.trans h)
  have hlog := Int.log_mono_right (b := 2) h0 h.le
  obtain ⟨d, rfl⟩ : ∃ d, F = E + d := ⟨F - E, by omega⟩
  have hunit : (0 : ℚ) < 2 ^ ((E : ℤ) - 1074) := by positivity
  have hsplit : (N : ℚ) * 2 ^ (((E + d : ℕ) : ℤ) - 1074) =
      ((N * 2 ^ d : ℕ) : ℚ) * 2 ^ ((E : ℤ) - 1074) := by
    rw [show (((E + d : ℕ) : ℤ) - 1074) = (d : ℤ) + ((E : ℤ) - 1074) by push_cast; ring,
      zpow_add₀ (by norm_num), zpow_natCast]
    push_cast
    ring
  rw [hsplit] at h ⊢
  have hlt : M < N * 2 ^ d := by exact_mod_cast lt_of_mul_lt_mul_right h hunit.le
  have hone : (M : ℚ) + 1 ≤ ((N * 2 ^ d : ℕ) : ℚ) := by exact_mod_cast hlt
  have hsmall : (M : ℚ) * 2 ^ (-53 : ℤ) < 1 := by
    have hM' : (M : ℚ) < 2 ^ 53 := by exact_mod_cast hM
    rw [zpow_neg, ← div_eq_mul_inv, div_lt_one (by positivity)]
    exact_mod_cast hM'
  calc (M : ℚ) * 2 ^ ((E : ℤ) - 1074) * 2 ^ (-53 : ℤ)
      = M * 2 ^ (-53 : ℤ) * 2 ^ ((E : ℤ) - 1074) := by ring
    _ < 1 * 2 ^ ((E : ℤ) - 1074) := mul_lt_mul_of_pos_right hsmall hunit
    _ ≤ (((N * 2 ^ d : ℕ) : ℚ) - M) * 2 ^ ((E : ℤ) - 1074) :=
      mul_le_mul_of_nonneg_right (by linarith) hunit.le
    _ = _ := by ring

/-! ### Products -/

theorem magnitude_nonneg {x : F64} (hx : x.isSpecial = false) : 0 ≤ x.magnitude := by
  obtain ⟨m, k, -, -, -, hq⟩ := isDyadic_magnitude hx
  rw [hq]
  positivity

theorem toRat_of_neg_eq_false {x : F64} (hx : x.neg = false) : x.toRat = x.magnitude := by
  rw [toRat, hx, if_neg Bool.false_ne_true]

/-- The product of finite floats. -/
theorem mul_of_finite {a x : F64} (ha : a.isSpecial = false) (hx : x.isSpecial = false) :
    a.mul x = ofRat 52 11 (a.neg != x.neg) (a.magnitude * x.magnitude) := by
  unfold mul isNan
  rw [ha, hx]
  rfl

/-- A product with a special factor is special. -/
theorem mul_of_special {a x : F64} (hx : x.isSpecial = true) : (a.mul x).isSpecial = true := by
  have hnan : (nan : F64).isSpecial = true := by
    rw [nan, isSpecial, expo_mk', decide_eq_true_eq]
  have hinf (n : Bool) : (infinity n exponents_pos : F64).isSpecial = true := by
    rw [infinity, isSpecial, expo_mk', decide_eq_true_eq]
  unfold mul
  rw [hx]
  split
  · exact hnan
  · rw [Bool.or_true, if_pos rfl]
    split
    · exact hnan
    · exact hinf _

/-- **A rounded product is a given multiple exactly if the factor is the given one.** The
factor is a float, and so are the given one and the multiple. -/
theorem magnitude_mul_eq_iff {a x : F64} {y : ℚ} (ha : a.isSpecial = false)
    (hx : x.isSpecial = false) (ha1 : 1 ≤ a.magnitude) (hy1 : 1 ≤ y) (hy : IsDyadic y)
    (hay : IsDyadic (a.magnitude * y)) :
    ((a.mul x).isSpecial = false ∧ (a.mul x).magnitude = a.magnitude * y) ↔
      x.magnitude = y := by
  have hapos : 0 < a.magnitude := by linarith
  rw [mul_of_finite ha hx]
  constructor
  swap
  · rintro rfl
    obtain ⟨hm, hs, -⟩ := ofRat_of_isDyadic hay (by positivity) (a.neg != x.neg)
    exact ⟨hs, hm⟩
  rintro ⟨hs, hm⟩
  have hone : 1 ≤ a.magnitude * y := one_le_mul_of_one_le_of_one_le ha1 hy1
  rcases (magnitude_nonneg hx).eq_or_lt with hzero | hxpos
  · -- A product with zero is zero.
    have h0 : IsDyadic 0 := ⟨0, 0, by norm_num, by norm_num, by norm_num, by norm_num⟩
    rw [← hzero, mul_zero, (ofRat_of_isDyadic h0 le_rfl _).1] at hm
    linarith
  have hq : 0 < a.magnitude * x.magnitude := mul_pos hapos hxpos
  rcases ofRat_near hq (a.neg != x.neg) with h | ⟨-, -, hnear, hlead⟩
  · rw [hs] at h
    cases h
  rw [hm] at hnear hlead
  have hlow := Int.zpow_log_le_self (b := 2) (by norm_num) hq
  have hhigh := Int.lt_zpow_succ_log_self (b := 2) (by norm_num) (a.magnitude * x.magnitude)
  push_cast at hlow hhigh
  generalize Int.log 2 (a.magnitude * x.magnitude) = l at *
  have hnormal : -1022 ≤ l := by
    -- A smaller product would be rounded to less than one.
    by_contra hl
    rw [max_eq_right (by omega)] at hnear
    have h1 : (2 : ℚ) ^ (l + 1) ≤ 2 ^ (-1 : ℤ) := zpow_le_zpow_right₀ (by norm_num) (by omega)
    have h2 : (2 : ℚ) ^ ((-1022 : ℤ) - 53) ≤ 2 ^ (-1 : ℤ) :=
      zpow_le_zpow_right₀ (by norm_num) (by norm_num)
    have h3 := (abs_le.mp hnear).2
    have hhalf : (2 : ℚ) ^ (-1 : ℤ) = 1 / 2 := by norm_num
    rw [hhalf] at h1 h2
    linarith only [hone, lt_of_lt_of_le hhigh h1, le_trans h3 h2]
  rw [max_eq_left hnormal, show l - 53 = l + -53 by ring, zpow_add₀ (by norm_num)] at hnear
  have hlead' := hlead hnormal
  have heps : (0 : ℚ) < 2 ^ (-53 : ℤ) := by positivity
  obtain ⟨h1, h2⟩ := abs_le.mp hnear
  rcases lt_trichotomy x.magnitude y with hlt | heq | hgt
  · have hgap := mul_lt_mul_of_pos_left ((isDyadic_magnitude hx).gap hy hxpos hlt) hapos
    have hbound := mul_le_mul_of_nonneg_right hlow heps.le
    nlinarith
  · exact heq
  · have hgap := mul_lt_mul_of_pos_left (hy.gap (isDyadic_magnitude hx) (by linarith) hgt) hapos
    have hbound := mul_le_mul_of_nonneg_right hlead' heps.le
    nlinarith

/-- A dyadic number with no room for a fraction is whole. -/
theorem IsDyadic.floor_eq {q : ℚ} (hq : IsDyadic q) (h : 2 ^ 53 ≤ q) : (⌊q⌋ : ℚ) = q := by
  obtain ⟨m, k, hm, -, -, rfl⟩ := hq
  have hm' : (m : ℚ) < 2 ^ 53 := by exact_mod_cast hm
  have hk : 0 ≤ k := by
    by_contra hneg
    have hle : (2 : ℚ) ^ k ≤ 2 ^ (0 : ℤ) := zpow_le_zpow_right₀ (by norm_num) (by omega)
    rw [zpow_zero] at hle
    have := mul_le_mul_of_nonneg_left hle (Nat.cast_nonneg (α := ℚ) m)
    linarith
  obtain ⟨j, rfl⟩ := Int.eq_ofNat_of_zero_le hk
  have hcast : (m : ℚ) * 2 ^ ((j : ℕ) : ℤ) = ((m * 2 ^ j : ℤ) : ℚ) := by
    rw [zpow_natCast]
    push_cast
    rfl
  rw [hcast, Int.floor_intCast]

/-- The divisors of a number with few binary digits have few. -/
theorem isDyadic_of_dvd {a b : ℕ} (hab : a ∣ b) (hb0 : b ≠ 0) (hb : b < 2 ^ 200)
    (h : IsDyadic b) : IsDyadic a := by
  obtain ⟨m, k, hm, -, -, hq⟩ := h
  have ha0 : a ≠ 0 := by
    rintro rfl
    exact hb0 (zero_dvd_iff.mp hab)
  obtain ⟨j, d, hd, hadj⟩ := Nat.exists_eq_two_pow_mul_odd ha0
  have hcop (i : ℕ) : Nat.Coprime d (2 ^ i) := (Nat.Coprime.pow_left i
    (Nat.coprime_two_left.mpr hd)).symm
  have hdb : d ∣ b := (Dvd.intro_left _ hadj.symm).trans hab
  have hdm : d ∣ m := by
    rcases le_or_gt 0 k with hk | hk
    · obtain ⟨i, rfl⟩ := Int.eq_ofNat_of_zero_le hk
      have hbm : b = m * 2 ^ i := by
        rw [zpow_natCast] at hq
        exact_mod_cast hq
      rw [hbm] at hdb
      exact (hcop i).dvd_of_dvd_mul_right hdb
    · obtain ⟨i, hi⟩ := Int.eq_ofNat_of_zero_le (a := -k) (by omega)
      have hbm : b * 2 ^ i = m := by
        have : (b : ℚ) * 2 ^ i = m := by
          rw [hq, show k = -(i : ℤ) by omega, zpow_neg, zpow_natCast]
          field_simp
        exact_mod_cast this
      exact hdb.trans (Dvd.intro _ hbm)
  have hm0 : 0 < m := by
    rcases Nat.eq_zero_or_pos m with rfl | hpos
    · rw [Nat.cast_zero, zero_mul] at hq
      exact absurd (by exact_mod_cast hq) hb0
    · exact hpos
  have hj : j < 200 := by
    have hle : 2 ^ j ≤ a := Nat.le_of_dvd (Nat.pos_of_ne_zero ha0) (Dvd.intro _ hadj.symm)
    have := Nat.le_of_dvd (Nat.pos_of_ne_zero hb0) hab
    exact (Nat.pow_lt_pow_iff_right (by norm_num)).mp (lt_of_le_of_lt (hle.trans this) hb)
  refine ⟨d, j, lt_of_le_of_lt (Nat.le_of_dvd hm0 hdm) hm, by omega, by omega, ?_⟩
  rw [hadj, zpow_natCast]
  push_cast
  ring

end F64

end Ieee
