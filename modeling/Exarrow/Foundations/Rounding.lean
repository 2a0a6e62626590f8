import Exarrow.Foundations.FloatText

/-!
# Rounding floats to whole numbers

A float is rounded, halves away from zero (`Ieee.roundAway`), and cast to an integer type,
which cuts off what lies outside (`Ieee.F64.saturated`). Rounding and cutting off commute
(`Ieee.F64.toIntSat_round`), and to limit a float before the cast changes nothing
(`Ieee.F64.toIntSat_clamp`).

Often the float is only near the number that should be rounded. **It is rounded to a
nearest whole number of that number exactly when there is no half between the two**
(`Ieee.abs_roundAway_sub_le_iff`).

An integer is the float that it is cast to exactly when it has 53 binary digits
(`Ieee.F64.toRat_ofInt_iff`).
-/

namespace Ieee

open Pattern

/-! ### Rounding rational numbers -/

/-- The nearest whole number, halves away from zero. -/
def roundAway (q : ℚ) : ℤ := if q < 0 then -⌊-q + 1 / 2⌋ else ⌊q + 1 / 2⌋

theorem roundAway_of_nonneg {q : ℚ} (h : 0 ≤ q) : roundAway q = ⌊q + 1 / 2⌋ :=
  if_neg (not_lt.mpr h)

theorem roundAway_of_neg {q : ℚ} (h : q < 0) : roundAway q = -⌊-q + 1 / 2⌋ := if_pos h

/-- The rounding is symmetric. -/
theorem roundAway_neg (q : ℚ) : roundAway (-q) = -roundAway q := by
  rcases lt_trichotomy q 0 with h | rfl | h
  · rw [roundAway_of_neg h, roundAway_of_nonneg (by linarith), neg_neg]
  · norm_num [roundAway]
  · rw [roundAway_of_nonneg h.le, roundAway_of_neg (by linarith), neg_neg]

/-- A whole number is its own rounding. -/
@[simp] theorem roundAway_intCast (n : ℤ) : roundAway n = n := by
  have hfloor (m : ℤ) : ⌊(m : ℚ) + 1 / 2⌋ = m := by
    rw [Int.floor_eq_iff]
    constructor <;> linarith
  unfold roundAway
  split
  · rw [← Int.cast_neg, hfloor, neg_neg]
  · exact hfloor n

theorem roundAway_mono {p q : ℚ} (h : p ≤ q) : roundAway p ≤ roundAway q := by
  rcases lt_or_ge q 0 with hq | hq
  · rw [roundAway_of_neg hq, roundAway_of_neg (lt_of_le_of_lt h hq)]
    exact neg_le_neg (Int.floor_le_floor (by linarith))
  · rw [roundAway_of_nonneg hq]
    have hq' : 0 ≤ ⌊q + 1 / 2⌋ := Int.floor_nonneg.mpr (by linarith)
    rcases lt_or_ge p 0 with hp | hp
    · have hp' : 0 ≤ ⌊-p + 1 / 2⌋ := Int.floor_nonneg.mpr (by linarith)
      rw [roundAway_of_neg hp]
      omega
    · rw [roundAway_of_nonneg hp]
      exact Int.floor_le_floor (by linarith)

/-- A number that is cut off at whole numbers is rounded as the number itself, cut off. -/
theorem roundAway_clamp (lo hi : ℤ) (q : ℚ) :
    roundAway (max (lo : ℚ) (min (hi : ℚ) q)) = max lo (min hi (roundAway q)) := by
  have hmono : Monotone roundAway := fun _ _ h => roundAway_mono h
  rw [hmono.map_max, hmono.map_min, roundAway_intCast, roundAway_intCast]

/-! ### Rounding a number next to another -/

/-- There is no half between the two numbers: none strictly between them, and if the first
is a half itself, the second is not nearer to zero. -/
structure SameRounding (c p : ℚ) : Prop where
  between : ∀ m : ℤ, ¬(min c p < m + 1 / 2 ∧ (m : ℚ) + 1 / 2 < max c p)
  half : ∀ m : ℤ, c = m + 1 / 2 → (0 ≤ c → c ≤ p) ∧ (c < 0 → p ≤ c)

/-- A number lies in the interval that is rounded to a whole number from zero upwards. -/
theorem sameRounding_iff_of_nonneg {c p : ℚ} (hc : 0 ≤ c) :
    SameRounding c p ↔ (⌊c + 1 / 2⌋ : ℚ) - 1 / 2 ≤ p ∧ p ≤ (⌊c + 1 / 2⌋ : ℚ) + 1 / 2 := by
  have hlow := Int.floor_le (c + 1 / 2)
  have hhigh := Int.lt_floor_add_one (c + 1 / 2)
  generalize ⌊c + 1 / 2⌋ = k at hlow hhigh ⊢
  constructor
  · rintro ⟨hbetween, hhalf⟩
    constructor
    · by_contra hlt
      push Not at hlt
      rcases (sub_le_iff_le_add.mpr hlow).lt_or_eq with h | h
      · refine hbetween (k - 1) ⟨min_lt_iff.mpr (.inr ?_), lt_max_iff.mpr (.inl ?_)⟩ <;>
          (push_cast; linarith)
      · have heq : c = ((k - 1 : ℤ) : ℚ) + 1 / 2 := by
          push_cast
          linarith
        have hle := (hhalf _ heq).1 hc
        linarith
    · by_contra hlt
      push Not at hlt
      refine hbetween k ⟨min_lt_iff.mpr (.inl ?_), lt_max_iff.mpr (.inr hlt)⟩
      linarith
  · rintro ⟨h1, h2⟩
    refine ⟨fun m hm => ?_, fun m hm => ⟨fun _ => ?_, fun h => absurd h (not_lt.mpr hc)⟩⟩
    · obtain ⟨hmin, hmax⟩ := hm
      rcases le_total c p with hcp | hcp
      · rw [min_eq_left hcp] at hmin
        rw [max_eq_right hcp] at hmax
        have hle : k ≤ m := by
          have : (k : ℚ) - 1 < m := by linarith
          have : (k : ℤ) - 1 < m := by exact_mod_cast this
          omega
        have : (k : ℚ) ≤ m := by exact_mod_cast hle
        linarith
      · rw [min_eq_right hcp] at hmin
        rw [max_eq_left hcp] at hmax
        have hle : m + 1 ≤ k := by
          have : (m : ℚ) < k := by linarith
          have : m < k := by exact_mod_cast this
          omega
        have : (m : ℚ) + 1 ≤ k := by exact_mod_cast hle
        linarith
    · have hk : m + 1 = k := by
        have hlt : (k : ℚ) < m + 2 := by linarith
        have hgt : (m : ℚ) < k := by linarith
        have hlt' : k < m + 2 := by exact_mod_cast hlt
        have hgt' : m < k := by exact_mod_cast hgt
        omega
      have : (m : ℚ) + 1 = k := by exact_mod_cast hk
      linarith

/-- The notion is symmetric. -/
theorem sameRounding_neg {c p : ℚ} (hc : c ≠ 0) (h : SameRounding c p) :
    SameRounding (-c) (-p) := by
  refine ⟨fun m => ?_, fun m hm => ?_⟩
  · rintro ⟨h1, h2⟩
    rw [min_lt_iff] at h1
    rw [lt_max_iff] at h2
    refine h.between (-m - 1) ⟨min_lt_iff.mpr (h2.imp ?_ ?_), lt_max_iff.mpr (h1.imp ?_ ?_)⟩ <;>
      (intro hlt; push_cast; linarith)
  · have heq : c = ((-m - 1 : ℤ) : ℚ) + 1 / 2 := by
      push_cast
      linarith
    obtain ⟨hpos, hneg⟩ := h.half _ heq
    constructor
    · intro h0
      have := hneg (lt_of_le_of_ne (by linarith) hc)
      linarith
    · intro h0
      have := hpos (by linarith)
      linarith

/-- **A number is rounded to a nearest whole number of another exactly when there is no
half between the two.** -/
theorem abs_roundAway_sub_le_iff (c p : ℚ) :
    |(roundAway c : ℚ) - p| ≤ 1 / 2 ↔ SameRounding c p := by
  have hnonneg {c p : ℚ} (hc : 0 ≤ c) : |(roundAway c : ℚ) - p| ≤ 1 / 2 ↔ SameRounding c p := by
    rw [sameRounding_iff_of_nonneg hc, roundAway_of_nonneg hc, abs_le]
    constructor
    · rintro ⟨h1, h2⟩
      constructor <;> linarith
    · rintro ⟨h1, h2⟩
      constructor <;> linarith
  rcases le_or_gt 0 c with hc | hc
  · exact hnonneg hc
  · have hswap : |(roundAway c : ℚ) - p| = |(roundAway (-c) : ℚ) - -p| := by
      rw [roundAway_neg, Int.cast_neg, neg_sub_neg, abs_sub_comm]
    rw [hswap, hnonneg (by linarith : 0 ≤ -c)]
    constructor
    · intro h
      have h' := sameRounding_neg (by linarith : -c ≠ 0) h
      rwa [neg_neg, neg_neg] at h'
    · exact sameRounding_neg hc.ne

/-! ### Casting floats to integers -/

namespace F64

/-- The number, cut off at the bounds of an integer type. -/
def saturated (lo hi : ℤ) (x : F64) : ℚ :=
  if x.isNan then 0
  else if x.isSpecial then (if x.neg then lo else hi)
  else max lo (min hi x.toRat)

/-- A special pattern stays when it is rounded. -/
theorem round_of_isSpecial {x : F64} (h : x.isSpecial = true) : x.round = x := by
  rw [round, if_pos h]

/-- Not-a-number is special. -/
theorem isNan_of_isFinite {x : F64} (h : x.isSpecial = false) : x.isNan = false := by
  rw [isNan, h, Bool.false_and]

/-- A finite float is rounded as its number is. -/
theorem trunc_round {x : F64} (hx : x.isSpecial = false) : x.round.trunc = roundAway x.toRat := by
  obtain ⟨hm, -, hn⟩ := magnitude_round hx
  have h0 : 0 ≤ x.magnitude := by
    obtain ⟨m, k, -, -, -, hq⟩ := isDyadic_magnitude hx
    rw [hq]
    positivity
  unfold trunc toRat
  rw [hn, hm, Int.floor_intCast]
  cases x.neg with
  | false =>
    simp only [Bool.false_eq_true, if_false]
    rw [roundAway_of_nonneg h0]
  | true =>
    simp only [if_true]
    rw [roundAway_neg, roundAway_of_nonneg h0]

/-- **Rounding and cutting off commute.** -/
theorem toIntSat_round (lo hi : ℤ) (x : F64) :
    x.round.toIntSat lo hi = roundAway (x.saturated lo hi) := by
  unfold toIntSat saturated
  cases hx : x.isSpecial with
  | true =>
    rw [round_of_isSpecial hx, hx]
    simp only [if_true]
    split
    · exact (roundAway_intCast 0).symm
    · split <;> exact (roundAway_intCast _).symm
  | false =>
    obtain ⟨-, hs, -⟩ := magnitude_round hx
    rw [isNan_of_isFinite hx, isNan_of_isFinite hs, hs]
    simp only [Bool.false_eq_true, if_false]
    rw [trunc_round hx, roundAway_clamp]

/-- The order of the numbers, with the infinities at its ends. -/
def less (x y : F64) : Bool :=
  if x.isNan || y.isNan then false
  else if x.isSpecial then x.neg && !(y.isSpecial && y.neg)
  else if y.isSpecial then !y.neg
  else decide (x.toRat < y.toRat)

/-- A number that is limited to an interval. -/
def clamp (lo hi x : F64) : F64 :=
  let x := if less x lo then lo else x
  if less hi x then hi else x

/-- A finite float is cast as its number is cut off. -/
theorem toIntSat_of_isFinite {lo hi : ℤ} {x : F64} (hx : x.isSpecial = false) :
    x.toIntSat lo hi = max lo (min hi x.trunc) := by
  rw [toIntSat, isNan_of_isFinite hx, hx]
  rfl

/-- A rounded number is whole. -/
theorem toRat_round_eq {x : F64} (hx : x.isSpecial = false) : x.round.toRat = x.round.trunc := by
  obtain ⟨hm, -, -⟩ := magnitude_round hx
  unfold toRat trunc
  rw [hm, Int.floor_intCast]
  split
  · rw [Int.cast_neg]
  · rfl

/-- **To limit a whole number before the cast changes nothing**, when the limits are the
bounds of the type or lie beyond its largest number. -/
theorem toIntSat_clamp {lo hi : ℤ} (hle : lo ≤ hi) {a b x : F64} (ha : a.isSpecial = false)
    (hb : b.isSpecial = false) (haq : a.toRat = lo ∧ a.trunc = lo)
    (hbq : (hi : ℚ) ≤ b.toRat ∧ b.toRat = b.trunc) (hx : x.isNan = false)
    (hwhole : x.isSpecial = false → x.toRat = x.trunc) :
    (clamp a b x).toIntSat lo hi = x.toIntSat lo hi := by
  obtain ⟨haq, hat⟩ := haq
  obtain ⟨hbq, hbt⟩ := hbq
  have hab : less b a = false := by
    have hle' : (lo : ℚ) ≤ hi := by exact_mod_cast hle
    rw [less, isNan_of_isFinite ha, isNan_of_isFinite hb, ha, hb]
    simp only [Bool.or_self, Bool.false_eq_true, if_false, decide_eq_false_iff_not, not_lt]
    rw [haq]
    exact le_trans hle' hbq
  have hlow : a.toIntSat lo hi = lo := by
    rw [toIntSat_of_isFinite ha, hat, min_eq_right hle, max_self]
  have hhigh : b.toIntSat lo hi = hi := by
    have hge : hi ≤ b.trunc := by
      rw [hbt] at hbq
      exact_mod_cast hbq
    rw [toIntSat_of_isFinite hb, min_eq_left hge, max_eq_right hle]
  unfold clamp
  dsimp only
  cases hxs : x.isSpecial with
  | true =>
    cases hn : x.neg with
    | true =>
      have hlt : less x a = true := by
        rw [less, hx, isNan_of_isFinite ha, hxs, hn, ha]
        rfl
      rw [hlt, if_pos rfl, hab, if_neg Bool.false_ne_true, hlow, toIntSat, hx, hxs, hn]
      rfl
    | false =>
      have hlt : less x a = false := by
        rw [less, hx, isNan_of_isFinite ha, hxs, hn]
        rfl
      have hgt : less b x = true := by
        rw [less, hx, isNan_of_isFinite hb, hb, hxs, hn]
        rfl
      rw [hlt, if_neg Bool.false_ne_true, hgt, if_pos rfl, hhigh, toIntSat, hx, hxs, hn]
      rfl
  | false =>
    have hq := hwhole hxs
    have hxa : less x a = decide (x.trunc < lo) := by
      rw [less, hx, isNan_of_isFinite ha, hxs, ha, haq, hq]
      simp only [Bool.or_self, Bool.false_eq_true, if_false, Int.cast_lt]
    have hbx : less b x = decide (b.trunc < x.trunc) := by
      rw [less, hx, isNan_of_isFinite hb, hb, hxs, hbt, hq]
      simp only [Bool.or_self, Bool.false_eq_true, if_false, Int.cast_lt]
    have hge : hi ≤ b.trunc := by
      rw [hbt] at hbq
      exact_mod_cast hbq
    rw [hxa]
    by_cases hlt : x.trunc < lo
    · rw [decide_eq_true hlt, if_pos rfl, hab, if_neg Bool.false_ne_true, hlow,
        toIntSat_of_isFinite hxs]
      omega
    · rw [decide_eq_false hlt, if_neg Bool.false_ne_true, hbx]
      by_cases hgt : b.trunc < x.trunc
      · rw [decide_eq_true hgt, if_pos rfl, hhigh, toIntSat_of_isFinite hxs]
        omega
      · rw [decide_eq_false hgt, if_neg Bool.false_ne_true]

/-- The quotient, rounded to nearest. -/
def div (x y : F64) : F64 :=
  if x.isNan || y.isNan then nan
  else if x.isSpecial then
    if y.isSpecial then nan else infinity (x.neg != y.neg) F64.exponents_pos
  else if y.isSpecial then ofRat 52 11 (x.neg != y.neg) 0
  else if y.magnitude = 0 then
    if x.magnitude = 0 then nan else infinity (x.neg != y.neg) F64.exponents_pos
  else ofRat 52 11 (x.neg != y.neg) (x.magnitude / y.magnitude)

/-- **An integer is the float that it is cast to** exactly when it has no more than 53
binary digits. -/
theorem toRat_ofInt_iff (n : ℤ) :
    (ofInt n).isSpecial = false ∧ (ofInt n).toRat = n ↔ IsDyadic |(n : ℚ)| := by
  constructor
  · rintro ⟨hs, hq⟩
    have hm : (ofInt n).magnitude = |(n : ℚ)| := by
      have h0 : 0 ≤ (ofInt n).magnitude := by
        obtain ⟨m, k, -, -, -, hq⟩ := isDyadic_magnitude hs
        rw [hq]
        positivity
      rw [← hq, toRat]
      split
      · rw [abs_neg, abs_of_nonneg h0]
      · rw [abs_of_nonneg h0]
    rw [← hm]
    exact isDyadic_magnitude hs
  · intro h
    obtain ⟨hm, hs, hn⟩ := ofRat_of_isDyadic h (abs_nonneg _) (decide (n < 0))
    refine ⟨hs, ?_⟩
    unfold ofInt
    rw [toRat, hm, hn]
    by_cases hneg : n < 0
    · rw [decide_eq_true hneg, if_pos rfl, abs_of_neg (by exact_mod_cast hneg), neg_neg]
    · rw [decide_eq_false hneg, if_neg Bool.false_ne_true,
        abs_of_nonneg (by exact_mod_cast not_lt.mp hneg)]

end F64

end Ieee
