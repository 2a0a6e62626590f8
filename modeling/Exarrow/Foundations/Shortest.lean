import Exarrow.Foundations.FloatText
import Exarrow.Foundations.Products

/-!
# Shortest decimals denote their floats

A float is printed as the shortest decimal that rounds to it (`Ieee.F64.shortest`), which is
searched among the decimals of one to seventeen digits. **Seventeen digits always suffice**
(`Ieee.F64.shortestWith_seventeen`): the nearest decimal with so many digits is closer to the float
than half the way to its neighbours, so that it rounds to it (`Ieee.F64.ofRat_of_near`).

A decimal text therefore denotes a number that only one float is printed as, **and floats that are
printed alike are the same number** (`Ieee.F64.toRat_eq_of_display_eq`). The text is not long
(`Ieee.F64.length_display_le`).
-/

namespace Ieee

open Pattern Numeral

/-- What is closer than half to an integer is rounded to it. -/
theorem roundHalfEven_of_near {y : ℚ} {m : ℤ} (h : |y - m| < 1 / 2) : roundHalfEven y = m := by
  have hround := abs_le.mp (abs_roundHalfEven_sub_le y)
  obtain ⟨hlow, hhigh⟩ := abs_lt.mp h
  have h1 : (roundHalfEven y : ℚ) < m + 1 := by linarith
  have h2 : (m : ℚ) - 1 < roundHalfEven y := by linarith
  have h1' : roundHalfEven y < m + 1 := by exact_mod_cast h1
  have h2' : m - 1 < roundHalfEven y := by exact_mod_cast h2
  omega

namespace F64

/-! ### The digits of a float -/

/-- A finite pattern is made of its fields. -/
theorem ofBits_fields {x : F64} (hx : x.isSpecial = false) :
    ofBits x.neg (x.expo * 2 ^ 52 + x.frac) = x := by
  have hexpo := x.expo_lt
  have hfrac := x.frac_lt
  have hne : x.expo ≠ 2 ^ 11 - 1 := of_decide_eq_false hx
  have hlt : x.expo * 2 ^ 52 + x.frac < (2 ^ 11 - 1) * 2 ^ 52 := by omega
  unfold ofBits
  rw [dif_pos hlt]
  obtain ⟨bits, hbits⟩ := x
  unfold mk' neg expo frac
  simp only [Pattern.mk.injEq]
  split <;> rename_i h <;> simp only [decide_eq_true_eq] at h <;> omega

/-- The digits of a finite pattern and the place of the last one. -/
theorem exists_digits {x : F64} (hx : x.isSpecial = false) :
    ∃ E M : ℕ, M < 2 ^ 53 ∧ (M < 2 ^ 52 → E = 0) ∧ E ≤ 2045 ∧
      x.magnitude = M * 2 ^ ((E : ℤ) - 1074) ∧ ofBits x.neg (E * 2 ^ 52 + M) = x := by
  have hexpo := x.expo_lt
  have hfrac := x.frac_lt
  have hne : x.expo ≠ 2 ^ 11 - 1 := of_decide_eq_false hx
  have hfields := ofBits_fields hx
  unfold magnitude
  rw [bias_eq]
  by_cases hzero : x.expo = 0
  · rw [if_pos hzero]
    rw [hzero] at hfields
    exact ⟨0, x.frac, by omega, fun _ => rfl, by omega, by norm_num, hfields⟩
  · rw [if_neg hzero]
    obtain ⟨e, he⟩ := Nat.exists_eq_succ_of_ne_zero hzero
    rw [he] at hfields hne ⊢
    refine ⟨e, 2 ^ 52 + x.frac, by omega, fun h => by omega, by omega, ?_, ?_⟩
    · rw [show ((e.succ : ℕ) : ℤ) - 1023 - (52 : ℕ) = e - 1074 by push_cast; ring]
      push_cast
      norm_num
    · rw [show e * 2 ^ 52 + (2 ^ 52 + x.frac) = (e + 1) * 2 ^ 52 + x.frac by ring]
      exact hfields

/-- What is close to a number of units of the last digit is rounded to it. -/
theorem ofRat_of_digits {y : ℚ} {E M : ℕ} (hy : 0 < y)
    (he : max (Int.log 2 (y * 2 ^ ((E : ℤ) - 1074))) (-1022) = (E : ℤ) - 1022)
    (h : |y - M| < 1 / 2) (n : Bool) :
    ofRat 52 11 n (y * 2 ^ ((E : ℤ) - 1074)) = ofBits n (E * 2 ^ 52 + M) := by
  have hunit : (0 : ℚ) < 2 ^ ((E : ℤ) - 1074) := by positivity
  have hround : roundHalfEven y = (M : ℤ) := roundHalfEven_of_near (by exact_mod_cast h)
  unfold ofRat
  rw [if_neg (not_le.mpr (mul_pos hy hunit)), bias_eq]
  dsimp only
  rw [show (1 : ℤ) - 1023 = -1022 by norm_num, he,
    show (E : ℤ) - 1022 - (52 : ℕ) = E - 1074 by push_cast; ring,
    mul_div_cancel_right₀ _ hunit.ne', hround]
  congr 1
  omega

/-- The leading digit of a number below a power of two. -/
theorem log_two_lt {q : ℚ} {l : ℤ} (hq : 0 < q) (h : q < 2 ^ l) : Int.log 2 q < l :=
  (Int.lt_zpow_iff_log_lt (by norm_num) hq).mp (by rw [Nat.cast_ofNat]; exact h)

/-- The leading digit of a number from a power of two on. -/
theorem le_log_two {q : ℚ} {l : ℤ} (hq : 0 < q) (h : 2 ^ l ≤ q) : l ≤ Int.log 2 q :=
  (Int.zpow_le_iff_le_log (by norm_num) hq).mp (by rw [Nat.cast_ofNat]; exact h)

/-- **What is close to a float is rounded to it.** -/
theorem ofRat_of_near {x : F64} (hx : x.isSpecial = false) {q : ℚ}
    (h : |q - x.magnitude| < x.magnitude * 2 ^ (-54 : ℤ)) : ofRat 52 11 x.neg q = x := by
  obtain ⟨E, M, hM, hsub, hE, hmag, hbits⟩ := exists_digits hx
  have hunit : (0 : ℚ) < 2 ^ ((E : ℤ) - 1074) := by positivity
  obtain ⟨y, rfl⟩ : ∃ y, q = y * 2 ^ ((E : ℤ) - 1074) :=
    ⟨q / 2 ^ ((E : ℤ) - 1074), (div_mul_cancel₀ _ hunit.ne').symm⟩
  -- In units of the last digit.
  have hnear : |y - M| < M * 2 ^ (-54 : ℤ) := by
    rw [hmag, ← sub_mul, abs_mul, abs_of_pos hunit, mul_right_comm] at h
    exact lt_of_mul_lt_mul_right h hunit.le
  have hM' : (M : ℚ) ≤ 2 ^ 53 - 1 := by
    have : M + 1 ≤ 2 ^ 53 := hM
    have : (M : ℚ) + 1 ≤ 2 ^ 53 := by exact_mod_cast this
    linarith
  have hMpos : 0 < (M : ℚ) := by
    by_contra hzero
    have := abs_nonneg (y - M)
    have hle : (M : ℚ) * 2 ^ (-54 : ℤ) ≤ 0 := mul_nonpos_of_nonpos_of_nonneg (not_lt.mp hzero)
      (by positivity)
    linarith
  have heps : (2 : ℚ) ^ (-54 : ℤ) = 1 / 2 ^ 54 := by
    rw [zpow_neg, ← one_div]
    norm_cast
  rw [heps] at hnear
  obtain ⟨hlow, hhigh⟩ := abs_lt.mp hnear
  have hy : 0 < y := by linarith
  have hscale (k : ℤ) : (2 : ℚ) ^ (k + (E - 1074)) = 2 ^ k * 2 ^ ((E : ℤ) - 1074) :=
    zpow_add₀ (by norm_num) _ _
  have htop : y * 2 ^ ((E : ℤ) - 1074) < 2 ^ ((E : ℤ) - 1021) := by
    rw [show (E : ℤ) - 1021 = 53 + (E - 1074) by ring, hscale]
    exact mul_lt_mul_of_pos_right (by norm_num; linarith) hunit
  by_cases hcarry : 0 < E ∧ y < 2 ^ 52
  · -- The float is a power of two, and the number is below it.
    obtain ⟨hE0, hy52⟩ := hcarry
    have hMlow : 2 ^ 52 ≤ M := not_lt.mp fun h => by omega
    have hMhigh : M < 2 ^ 52 + 1 := by
      have : (M : ℚ) < 2 ^ 52 + 1 := by linarith
      exact_mod_cast this
    obtain rfl : M = 2 ^ 52 := by omega
    obtain ⟨e, rfl⟩ := Nat.exists_eq_succ_of_ne_zero hE0.ne'
    have hdouble : y * 2 ^ (((e.succ : ℕ) : ℤ) - 1074) = 2 * y * 2 ^ ((e : ℤ) - 1074) := by
      rw [show ((e.succ : ℕ) : ℤ) - 1074 = 1 + (e - 1074) by push_cast; ring,
        zpow_add₀ (by norm_num), zpow_one]
      ring
    have hscale' (k : ℤ) : (2 : ℚ) ^ (k + (e - 1074)) = 2 ^ k * 2 ^ ((e : ℤ) - 1074) :=
      zpow_add₀ (by norm_num) _ _
    have hunit' : (0 : ℚ) < 2 ^ ((e : ℤ) - 1074) := by positivity
    have hlog : Int.log 2 (2 * y * 2 ^ ((e : ℤ) - 1074)) = e - 1022 := by
      have hlower := @le_log_two (2 * y * 2 ^ ((e : ℤ) - 1074)) (e - 1022) (by positivity) (by
        rw [show (e : ℤ) - 1022 = 52 + (e - 1074) by ring, hscale']
        exact mul_le_mul_of_nonneg_right (by norm_num at hlow ⊢; linarith) hunit'.le)
      have hupper := @log_two_lt (2 * y * 2 ^ ((e : ℤ) - 1074)) (e - 1021) (by positivity) (by
        rw [show (e : ℤ) - 1021 = 53 + (e - 1074) by ring, hscale']
        exact mul_lt_mul_of_pos_right (by norm_num at hy52 ⊢; linarith) hunit')
      omega
    have hround := @ofRat_of_digits (2 * y) e (2 ^ 53) (by positivity) (by omega)
      (by rw [abs_lt]; norm_num at hlow hy52 ⊢; constructor <;> linarith) x.neg
    have hsum : e * 2 ^ 52 + 2 ^ 53 = e.succ * 2 ^ 52 + 2 ^ 52 := by omega
    rw [hdouble, hround, hsum, hbits]
  · have hlog : max (Int.log 2 (y * 2 ^ ((E : ℤ) - 1074))) (-1022) = (E : ℤ) - 1022 := by
      have hl := log_two_lt (mul_pos hy hunit) htop
      rcases Nat.eq_zero_or_pos E with rfl | hpos
      · generalize Int.log 2 (y * 2 ^ (((0 : ℕ) : ℤ) - 1074)) = l at *
        omega
      · have hlower := @le_log_two _ ((E : ℤ) - 1022) (mul_pos hy hunit) (by
          rw [show (E : ℤ) - 1022 = 52 + (E - 1074) by ring, hscale]
          exact mul_le_mul_of_nonneg_right (not_lt.mp fun h => hcarry ⟨hpos, h⟩) hunit.le)
        omega
    rw [@ofRat_of_digits y E M hy hlog (by rw [abs_lt]; constructor <;> linarith) x.neg, hbits]

/-! ### Enough digits -/

/-- A decimal next to a float that is close enough to it. -/
theorem ofRat_of_half {x : F64} (hx : x.isSpecial = false) {t : ℤ} {q : ℚ}
    (ht : 10 ^ (16 : ℤ) * 10 ^ t ≤ x.magnitude) (h : |q - x.magnitude| ≤ 10 ^ t / 2) :
    ofRat 52 11 x.neg q = x := by
  have hpos : (0 : ℚ) < 10 ^ t := by positivity
  refine ofRat_of_near hx (lt_of_le_of_lt h ?_)
  have hsmall : (10 : ℚ) ^ t / 2 < 10 ^ (16 : ℤ) * 10 ^ t * 2 ^ (-54 : ℤ) := by
    have hratio : (1 : ℚ) / 2 < 10 ^ (16 : ℤ) * 2 ^ (-54 : ℤ) := by norm_num
    nlinarith
  exact lt_of_lt_of_le hsmall (mul_le_mul_of_nonneg_right ht (by positivity))

/-- **Seventeen digits always suffice**: the nearest decimal with so many digits rounds to the
float. -/
theorem shortestWith_seventeen {x : F64} (hx : x.isSpecial = false) (h0 : x.magnitude ≠ 0) :
    shortestWith x (Int.log 10 x.magnitude) 17 ≠ none := by
  have hpos : 0 < x.magnitude := lt_of_le_of_ne (magnitude_nonneg hx) h0.symm
  have hlog := Int.zpow_log_le_self (b := 10) (by norm_num) hpos
  rw [Nat.cast_ofNat] at hlog
  unfold shortestWith
  dsimp only
  rw [show Int.log 10 x.magnitude - ((17 : ℕ) : ℤ) + 1 = Int.log 10 x.magnitude - 16 by
    push_cast; ring]
  have hlead : 10 ^ (16 : ℤ) * 10 ^ (Int.log 10 x.magnitude - 16) ≤ x.magnitude := by
    rw [← zpow_add₀ (by norm_num), show 16 + (Int.log 10 x.magnitude - 16) =
      Int.log 10 x.magnitude by ring]
    exact hlog
  generalize Int.log 10 x.magnitude - 16 = t at *
  have hten : (0 : ℚ) < 10 ^ t := by positivity
  -- The digits below the float and those above it.
  have hfloor : ((⌊x.magnitude / 10 ^ t⌋.toNat : ℕ) : ℚ) = (⌊x.magnitude / 10 ^ t⌋ : ℤ) := by
    have h : 0 ≤ ⌊x.magnitude / 10 ^ t⌋ := Int.floor_nonneg.mpr (by positivity)
    exact_mod_cast Int.toNat_of_nonneg h
  have hbelow := (le_div_iff₀ hten).mp (Int.floor_le (x.magnitude / 10 ^ t))
  have habove := (div_lt_iff₀ hten).mp (Int.lt_floor_add_one (x.magnitude / 10 ^ t))
  rw [← hfloor] at hbelow habove
  generalize ⌊x.magnitude / 10 ^ t⌋.toNat = d at *
  by_cases hmid : x.magnitude - d * 10 ^ t ≤ ((d + 1 : ℕ) : ℚ) * 10 ^ t - x.magnitude
  · have hback : ofRat 52 11 x.neg ((d : ℚ) * 10 ^ t) = x := by
      refine ofRat_of_half hx hlead (abs_le.mpr ⟨?_, ?_⟩)
      · push_cast at hmid
        linarith
      · linarith
    rw [if_pos (by rw [decide_eq_true hback, decide_eq_true hmid, Bool.or_true]; rfl)]
    exact Option.some_ne_none _
  · have hback : ofRat 52 11 x.neg (((d + 1 : ℕ) : ℚ) * 10 ^ t) = x := by
      refine ofRat_of_half hx hlead (abs_le.mpr ⟨?_, ?_⟩)
      · push_cast at habove hmid ⊢
        linarith
      · push_cast at hmid ⊢
        linarith
    split
    · exact Option.some_ne_none _
    · rw [if_pos (decide_eq_true hback)]
      exact Option.some_ne_none _

/-! ### What is printed -/

/-- The shortest decimal of a float: it rounds back, it has few digits, and they are where those
of the float are. -/
theorem shortest_of_finite {x : F64} (hx : x.isSpecial = false) (h0 : x.magnitude ≠ 0) :
    ofRat 52 11 x.neg ((shortest x).1 * 10 ^ (shortest x).2) = x ∧ (shortest x).1 ≤ 10 ^ 17 ∧
      Int.log 10 x.magnitude - 16 ≤ (shortest x).2 ∧
      (shortest x).2 ≤ Int.log 10 x.magnitude + 1 := by
  have hlog := Int.lt_zpow_succ_log_self (b := 10) (by norm_num) x.magnitude
  unfold shortest
  cases h : (List.range 17).findSome? fun k =>
      shortestWith x (Int.log 10 x.magnitude) (k + 1) with
  | none =>
    exact absurd (List.findSome?_eq_none_iff.mp h 16 (List.mem_range.mpr (by norm_num)))
      (shortestWith_seventeen hx h0)
  | some r =>
    obtain ⟨k, hk, hr⟩ := List.exists_of_findSome?_eq_some h
    have hk17 := List.mem_range.mp hk
    obtain ⟨hback, hd⟩ := shortestWith_eq_some (by exact_mod_cast hlog) hr
    refine ⟨hback, hd.trans (Nat.pow_le_pow_right (by norm_num) (by omega)), ?_⟩
    unfold shortestWith at hr
    dsimp only at hr
    split_ifs at hr
    all_goals
      obtain rfl := Option.some.inj hr
      dsimp only [Option.getD_some]
      push_cast
      omega

/-- A decimal that is printed without exponent and sign denotes its value. -/
theorem unsignedValue?_displayMagnitude (d : ℕ) (t : ℤ) :
    unsignedValue? (displayMagnitude d t) = some ((d : ℚ) * 10 ^ t) ∧
      ∃ i rest, i ≠ [] ∧ AllDigits i ∧ displayMagnitude d t = i ++ rest := by
  unfold displayMagnitude
  by_cases ht : 0 ≤ t
  · obtain ⟨j, rfl⟩ := Int.eq_ofNat_of_zero_le ht
    rw [if_pos ht, Int.toNat_natCast, zpow_natCast]
    refine ⟨?_, _, [], natText_ne_nil _, allDigits_natText _, (List.append_nil _).symm⟩
    rw [unsignedValue?_of_digits (natText_ne_nil _) (allDigits_natText _), ofDigits_natText]
    push_cast
    rfl
  · obtain ⟨j, hj⟩ := Int.eq_ofNat_of_zero_le (a := -t) (by omega)
    have hten : 0 < 10 ^ j := Nat.pow_pos (by norm_num)
    have hlen : (pad j (natText (d % 10 ^ j))).length = j := by
      refine length_pad (length_natText_le ?_ (Nat.mod_lt _ hten))
      omega
    rw [if_neg ht, hj, Int.toNat_natCast, show t = -(j : ℤ) by omega, zpow_neg, zpow_natCast]
    refine ⟨?_, _, _, natText_ne_nil _, allDigits_natText _, rfl⟩
    rw [unsignedValue?_point (natText_ne_nil _) (allDigits_natText _) (padded_ne_nil _ _)
      (allDigits_padded _ _), hlen, ofDigits_pad, ofDigits_natText, ofDigits_natText]
    have hsplit : ((d / 10 ^ j : ℕ) : ℚ) * 10 ^ j + (d % 10 ^ j : ℕ) = d := by
      exact_mod_cast Nat.div_add_mod' d (10 ^ j)
    have hten' : (10 : ℚ) ^ j ≠ 0 := by positivity
    congr 1
    field_simp
    exact hsplit

/-- **The text of a finite float denotes its shortest decimal.** -/
theorem value?_display {x : F64} (hx : x.isSpecial = false) :
    value? (display x) = some x.shortestValue := by
  have hnan : x.isNan = false := by rw [isNan, hx, Bool.false_and]
  unfold display shortestValue
  rw [hnan, if_neg Bool.false_ne_true, hx, if_neg Bool.false_ne_true]
  by_cases h0 : x.magnitude = 0
  · rw [if_pos h0, if_pos h0]
    split <;> decide
  · rw [if_neg h0, if_neg h0]
    obtain ⟨hvalue, i, rest, hne, hdigits, htext⟩ :=
      unsignedValue?_displayMagnitude (shortest x).1 (shortest x).2
    cases x.neg with
    | true =>
      change (unsignedValue? (displayMagnitude (shortest x).1 (shortest x).2)).map (fun q => -q) = _
      rw [hvalue, if_pos rfl, Option.map_some, neg_one_mul]
    | false =>
      rw [if_neg Bool.false_ne_true, List.nil_append, if_neg Bool.false_ne_true, one_mul, ← hvalue,
        htext]
      exact value?_of_digits_append hne hdigits

/-- A float that is not zero has a shortest decimal that is not zero. -/
theorem shortest_ne_zero {x : F64} (hx : x.isSpecial = false) (h0 : x.magnitude ≠ 0) :
    0 < (shortest x).1 * (10 : ℚ) ^ (shortest x).2 := by
  have hback := (shortest_of_finite hx h0).1
  refine lt_of_le_of_ne (by positivity) fun hzero => h0 ?_
  rw [← hzero] at hback
  rw [← hback]
  exact (ofRat_of_isDyadic ⟨0, 0, by norm_num, by norm_num, by norm_num, by norm_num⟩ le_rfl _).1

/-- Floats with the same shortest decimal are the same number. -/
theorem toRat_eq_of_shortestValue_eq {x y : F64} (hx : x.isSpecial = false)
    (hy : y.isSpecial = false) (h : x.shortestValue = y.shortestValue) : x.toRat = y.toRat := by
  have hzero {z : F64} (hz : z.magnitude = 0) : z.toRat = 0 := by
    unfold toRat
    rw [hz, neg_zero, ite_self]
  have hsign {z : F64} (hz : z.isSpecial = false) (hz0 : z.magnitude ≠ 0) :
      z.shortestValue = if z.neg then -((shortest z).1 * (10 : ℚ) ^ (shortest z).2)
        else (shortest z).1 * (10 : ℚ) ^ (shortest z).2 := by
    unfold shortestValue
    rw [if_neg hz0]
    split <;> ring
  by_cases hx0 : x.magnitude = 0 <;> by_cases hy0 : y.magnitude = 0
  · rw [hzero hx0, hzero hy0]
  · have hpos := shortest_ne_zero hy hy0
    rw [shortestValue, if_pos hx0, hsign hy hy0] at h
    split at h <;> linarith
  · have hpos := shortest_ne_zero hx hx0
    rw [hsign hx hx0, shortestValue, if_pos hy0] at h
    split at h <;> linarith
  · have hxpos := shortest_ne_zero hx hx0
    have hypos := shortest_ne_zero hy hy0
    have hxback := (shortest_of_finite hx hx0).1
    have hyback := (shortest_of_finite hy hy0).1
    rw [hsign hx hx0, hsign hy hy0] at h
    have hboth : x.neg = y.neg ∧ (shortest x).1 * (10 : ℚ) ^ (shortest x).2 =
        (shortest y).1 * (10 : ℚ) ^ (shortest y).2 := by
      cases hxn : x.neg <;> cases hyn : y.neg <;> rw [hxn, hyn] at h <;> simp at h
      · exact ⟨rfl, h⟩
      · linarith
      · linarith
      · exact ⟨rfl, h⟩
    rw [hboth.1, hboth.2, hyback] at hxback
    rw [hxback]

/-- **Floats that are printed alike are the same number.** -/
theorem toRat_eq_of_display_eq {x y : F64} (hx : x.isSpecial = false) (hy : y.isSpecial = false)
    (h : display x = display y) : x.toRat = y.toRat := by
  refine toRat_eq_of_shortestValue_eq hx hy (Option.some.inj ?_)
  rw [← value?_display hx, ← value?_display hy, h]

/-! ### How much is printed -/

/-- Where the leading decimal digit of a float can be. -/
theorem log_ten_mem {x : F64} (hx : x.isSpecial = false) (h0 : x.magnitude ≠ 0) :
    -1074 ≤ Int.log 10 x.magnitude ∧ Int.log 10 x.magnitude < 1024 := by
  obtain ⟨E, M, hM, -, hE, hmag, -⟩ := exists_digits hx
  have hpos : 0 < x.magnitude := lt_of_le_of_ne (magnitude_nonneg hx) h0.symm
  have hM0 : M ≠ 0 := by
    rintro rfl
    rw [Nat.cast_zero, zero_mul] at hmag
    exact h0 hmag
  have hM1 : (1 : ℚ) ≤ M := by exact_mod_cast Nat.one_le_iff_ne_zero.mpr hM0
  have hten (k : ℕ) : (10 : ℚ) ^ (-(k : ℤ)) ≤ 2 ^ (-(k : ℤ)) := by
    rw [zpow_neg, zpow_neg, zpow_natCast, zpow_natCast]
    exact inv_anti₀ (by positivity) (pow_le_pow_left₀ (by norm_num) (by norm_num) k)
  have htwo (k : ℕ) : (2 : ℚ) ^ (k : ℤ) ≤ 10 ^ (k : ℤ) := by
    rw [zpow_natCast, zpow_natCast]
    exact pow_le_pow_left₀ (by norm_num) (by norm_num) k
  have hlow : (10 : ℚ) ^ (-(1074 : ℕ) : ℤ) ≤ x.magnitude := by
    calc (10 : ℚ) ^ (-(1074 : ℕ) : ℤ) ≤ 2 ^ (-(1074 : ℕ) : ℤ) := hten 1074
      _ ≤ 2 ^ ((E : ℤ) - 1074) := zpow_le_zpow_right₀ (by norm_num) (by push_cast; omega)
      _ ≤ M * 2 ^ ((E : ℤ) - 1074) := le_mul_of_one_le_left (by positivity) hM1
      _ = x.magnitude := hmag.symm
  have hhigh : x.magnitude < 10 ^ ((1024 : ℕ) : ℤ) := by
    have hM' : (M : ℚ) < 2 ^ (53 : ℤ) := by exact_mod_cast hM
    calc x.magnitude = M * 2 ^ ((E : ℤ) - 1074) := hmag
      _ < 2 ^ (53 : ℤ) * 2 ^ ((E : ℤ) - 1074) := mul_lt_mul_of_pos_right hM' (by positivity)
      _ = 2 ^ ((E : ℤ) - 1021) := by rw [← zpow_add₀ (by norm_num)]; congr 1; ring
      _ ≤ 2 ^ ((1024 : ℕ) : ℤ) := zpow_le_zpow_right₀ (by norm_num) (by push_cast; omega)
      _ ≤ 10 ^ ((1024 : ℕ) : ℤ) := htwo 1024
  have h1 := (Int.zpow_le_iff_le_log (b := 10) (by norm_num) hpos).mp
    (by rw [Nat.cast_ofNat]; exact hlow)
  have h2 := (Int.lt_zpow_iff_log_lt (b := 10) (by norm_num) hpos).mp
    (by rw [Nat.cast_ofNat]; exact hhigh)
  push_cast at h1 h2
  exact ⟨h1, h2⟩

/-- A decimal with few digits near the point has a short text. -/
theorem length_displayMagnitude_le {d : ℕ} {t : ℤ} (hd : d ≤ 10 ^ 17) :
    (displayMagnitude d t).length ≤ 19 + t.natAbs := by
  unfold displayMagnitude
  by_cases ht : 0 ≤ t
  · obtain ⟨j, rfl⟩ := Int.eq_ofNat_of_zero_le ht
    rw [if_pos ht, Int.toNat_natCast, Int.natAbs_natCast]
    refine (length_natText_le (k := 18 + j) (by omega) ?_).trans (by omega)
    rw [pow_add]
    exact Nat.mul_lt_mul_of_pos_right (lt_of_le_of_lt hd (by norm_num)) (Nat.pow_pos (by norm_num))
  · obtain ⟨j, hj⟩ := Int.eq_ofNat_of_zero_le (a := -t) (by omega)
    have hfraction : (pad j (natText (d % 10 ^ j))).length = j :=
      length_pad (length_natText_le (by omega) (Nat.mod_lt _ (Nat.pow_pos (by norm_num))))
    have hinteger : (natText (d / 10 ^ j)).length ≤ 18 :=
      length_natText_le (by norm_num)
        (lt_of_le_of_lt (Nat.div_le_self _ _) (lt_of_le_of_lt hd (by norm_num)))
    rw [if_neg ht, hj, Int.toNat_natCast, List.length_append, List.length_cons, hfraction]
    omega

/-- **The text of a finite float is not long.** -/
theorem length_display_le {x : F64} (hx : x.isSpecial = false) : (display x).length ≤ 2000 := by
  have hnan : x.isNan = false := by rw [isNan, hx, Bool.false_and]
  unfold display
  rw [hnan, if_neg Bool.false_ne_true, hx, if_neg Bool.false_ne_true]
  by_cases h0 : x.magnitude = 0
  · rw [if_pos h0]
    split <;> decide
  · obtain ⟨-, hd, hlow, hhigh⟩ := shortest_of_finite hx h0
    obtain ⟨hlog, hlog'⟩ := log_ten_mem hx h0
    have hlen := length_displayMagnitude_le (t := (shortest x).2) hd
    have hsign : (if x.neg then ['-'] else []).length ≤ 1 := by split <;> decide
    rw [if_neg h0, List.length_append]
    omega

end F64

end Ieee
