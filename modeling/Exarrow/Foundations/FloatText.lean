import Exarrow.Foundations.Ieee
import Exarrow.Foundations.Numeral

/-!
# Floating point as decimal text

Reading and printing of 64-bit floating-point numbers. A number is printed
without exponent and with no more digits than needed: the shortest decimal that
rounds back to it (`Ieee.F64.shortest`), filled up with zeros. A text is read
with an optional sign, fraction and exponent, and rounded once
(`Ieee.F64.parse?`).

Printing a rounded number and reading it as an integer is one way to turn a
float into an integer, and cutting off its fraction is another. They agree
**exactly when the fraction is below one half and the shortest decimal is exact**
(`Ieee.F64.display_round_eq_cast_iff`).
-/

namespace Ieee

open Pattern Numeral

namespace F64

/-! ### Printing -/

/-- Among the decimals `d * 10 ^ t` next to the number with `k` digits, the one
nearest to it that still rounds to it. The one above may be a power of ten. -/
def shortestWith (x : F64) (t10 : ℤ) (k : ℕ) : Option (ℕ × ℤ) :=
  let t := t10 - k + 1
  let d := ⌊x.magnitude / 10 ^ t⌋.toNat
  let back (d : ℕ) : Bool := ofRat 52 11 x.neg ((d : ℚ) * 10 ^ t) = x
  let below := x.magnitude - (d : ℚ) * 10 ^ t
  let above := ((d + 1 : ℕ) : ℚ) * 10 ^ t - x.magnitude
  if back d && (!back (d + 1) || decide (below ≤ above)) then some (d, t)
  else if back (d + 1) then some (if d + 1 = 10 ^ k then (1, t + k) else (d + 1, t))
  else none

/-- The shortest decimal that rounds to a positive finite number: its digits and
the power of ten of the last digit. Seventeen digits always suffice. -/
def shortest (x : F64) : ℕ × ℤ :=
  ((List.range 17).findSome? fun k => shortestWith x (Int.log 10 x.magnitude) (k + 1)).getD (0, 0)

/-- The value of the shortest decimal that rounds to the number, which is what a
printer that writes no more digits than needed prints. -/
def shortestValue (x : F64) : ℚ :=
  if x.magnitude = 0 then 0
  else (if x.neg then -1 else 1) * ((shortest x).1 * 10 ^ (shortest x).2)

/-- A decimal printed without exponent. -/
def displayMagnitude (d : ℕ) (t : ℤ) : List Char :=
  if 0 ≤ t then natText (d * 10 ^ t.toNat)
  else natText (d / 10 ^ (-t).toNat) ++
    '.' :: pad (-t).toNat (natText (d % 10 ^ (-t).toNat))

/-- The text a printer without exponent gives: the shortest decimal that rounds
to the number, and names for the special patterns. -/
def display (x : F64) : List Char :=
  if x.isNan then ['N', 'a', 'N']
  else if x.isSpecial then (if x.neg then ['-', 'i', 'n', 'f'] else ['i', 'n', 'f'])
  else if x.magnitude = 0 then (if x.neg then ['-', '0'] else ['0'])
  else (if x.neg then ['-'] else []) ++ displayMagnitude (shortest x).1 (shortest x).2

/-! ### Reading -/

/-- Not-a-number with a sign. -/
def signedNan (n : Bool) : F64 :=
  mk' n ⟨2 ^ 11 - 1, Nat.sub_lt (Nat.two_pow_pos 11) one_pos⟩
    ⟨2 ^ 51, Nat.pow_lt_pow_right one_lt_two (Nat.lt_succ_self 51)⟩

/-- Reads the exponent of a number, which may be missing. -/
def parseExponent? : List Char → Option ℤ
  | [] => some 0
  | c :: s => if c = 'e' ∨ c = 'E' then parseInt? s else none

/-- Reads digits with an optional point and an optional exponent. -/
def parseMagnitude? (s : List Char) : Option ℚ :=
  let (whole, rest) := s.span Char.isDigit
  let (fraction, rest) := match rest with
    | '.' :: rest => rest.span Char.isDigit
    | _ => ([], rest)
  if whole ++ fraction = [] then none
  else (parseExponent? rest).map fun e : ℤ =>
    (ofDigits (whole ++ fraction) : ℚ) * 10 ^ (e - fraction.length)

/-- Reads a number: an optional sign, and a number or the name of a special
pattern in any case. -/
def parse? (s : List Char) : Option F64 :=
  let (negative, body) := match s with
    | '-' :: body => (true, body)
    | '+' :: body => (false, body)
    | _ => (false, s)
  let name := String.ofList (body.map Char.toLower)
  if name = "inf" ∨ name = "infinity" then some (infinity negative F64.exponents_pos)
  else if name = "nan" then some (signedNan negative)
  else (parseMagnitude? body).map (ofRat 52 11 negative)

/-! ### What is printed -/

/-- A text that reads as an integer has no point. -/
theorem point_not_mem_of_parseInt? {s : List Char} {n : ℤ} (h : parseInt? s = some n) :
    '.' ∉ s := by
  have key {t : List Char} {m : ℕ} (ht : parseNat? t = some m) : '.' ∉ t := by
    unfold parseNat? at ht
    split at ht
    · rename_i hd
      exact hd.2.ne rfl
    · cases ht
  unfold parseInt? at h
  split at h
  · obtain ⟨m, hm, -⟩ := Option.map_eq_some_iff.mp h
    simpa using key hm
  · obtain ⟨m, hm, -⟩ := Option.map_eq_some_iff.mp h
    simpa using key hm
  · obtain ⟨m, hm, -⟩ := Option.map_eq_some_iff.mp h
    exact key hm

/-- A decimal that is printed as an integer is that integer. -/
theorem parseInt?_displayMagnitude {d : ℕ} {t : ℤ} {neg : Bool} {n : ℤ}
    (h : parseInt? ((if neg then ['-'] else []) ++ displayMagnitude d t) = some n) :
    (n : ℚ) = (if neg then -1 else 1) * (d * 10 ^ t) := by
  have hpoint := point_not_mem_of_parseInt? h
  unfold displayMagnitude at h hpoint
  by_cases ht : 0 ≤ t
  · obtain ⟨j, rfl⟩ := Int.eq_ofNat_of_zero_le ht
    rw [if_pos ht, Int.toNat_natCast] at h
    cases neg with
    | true =>
      rw [if_pos rfl, List.singleton_append, parseInt?, parseNat?_natText, Option.map_some,
        Option.some.injEq] at h
      rw [← h, zpow_natCast]
      push_cast
      simp
    | false =>
      rw [if_neg Bool.false_ne_true, List.nil_append,
        parseInt?_of_digits (natText_ne_nil _) (allDigits_natText _), ofDigits_natText,
        Option.some.injEq] at h
      rw [← h, zpow_natCast]
      push_cast
      simp
  · rw [if_neg ht] at hpoint
    exact absurd (List.mem_append_right _ (List.mem_append_right _ (List.mem_cons_self ..)))
      hpoint

/-- **A number that is printed as an integer is finite, and the integer is its
shortest decimal.** -/
theorem parseInt?_display {x : F64} {n : ℤ} (h : parseInt? (display x) = some n) :
    x.isSpecial = false ∧ (n : ℚ) = x.shortestValue := by
  have hnan : parseInt? ['N', 'a', 'N'] = none := by decide
  have hinf : parseInt? ['i', 'n', 'f'] = none := by decide
  have hneg : parseInt? ['-', 'i', 'n', 'f'] = none := by decide
  unfold display at h
  split at h
  · rw [hnan] at h
    cases h
  · split at h
    · split at h
      · rw [hneg] at h
        cases h
      · rw [hinf] at h
        cases h
    · rename_i hs
      refine ⟨Bool.not_eq_true _ ▸ hs, ?_⟩
      unfold shortestValue
      split at h
      · rename_i hz
        rw [if_pos hz]
        have h0 : parseInt? ['0'] = some 0 := by decide
        have h1 : parseInt? ['-', '0'] = some 0 := by decide
        split at h
        · rw [h1, Option.some.injEq] at h
          rw [← h, Int.cast_zero]
        · rw [h0, Option.some.injEq] at h
          rw [← h, Int.cast_zero]
      · rename_i hz
        rw [if_neg hz]
        exact parseInt?_displayMagnitude h

/-! ### The shortest decimal -/

/-- The digits found with a given number of them: no more than that, and they
round back. -/
theorem shortestWith_eq_some {x : F64} {t10 : ℤ} {k d : ℕ} {t : ℤ}
    (hx : x.magnitude < 10 ^ (t10 + 1)) (h : shortestWith x t10 k = some (d, t)) :
    ofRat 52 11 x.neg ((d : ℚ) * 10 ^ t) = x ∧ d ≤ 10 ^ k := by
  have hd : ⌊x.magnitude / 10 ^ (t10 - k + 1)⌋.toNat < 10 ^ k := by
    have hlt : x.magnitude / 10 ^ (t10 - k + 1) < ((10 ^ k : ℕ) : ℤ) := by
      rw [div_lt_iff₀ (by positivity)]
      push_cast
      rw [← zpow_natCast, ← zpow_add₀ (by norm_num)]
      refine lt_of_lt_of_eq hx ?_
      congr 1
      ring
    have hfloor := Int.floor_lt.mpr hlt
    have hten : 0 < 10 ^ k := Nat.pow_pos (by norm_num)
    omega
  unfold shortestWith at h
  dsimp only at h
  generalize ⌊x.magnitude / 10 ^ (t10 - k + 1)⌋.toNat = f at hd h
  split at h
  · rename_i hback
    obtain ⟨rfl, rfl⟩ := Prod.mk.inj (Option.some.inj h)
    rw [Bool.and_eq_true] at hback
    exact ⟨of_decide_eq_true hback.1, hd.le⟩
  · split at h
    · rename_i hback
      have hback' := of_decide_eq_true hback
      split at h
      · rename_i hten
        obtain ⟨rfl, rfl⟩ := Prod.mk.inj (Option.some.inj h)
        refine ⟨?_, Nat.one_le_pow _ _ (by norm_num)⟩
        rw [hten] at hback'
        rw [zpow_add₀ (by norm_num), mul_comm ((10 : ℚ) ^ _), zpow_natCast, Nat.cast_one, one_mul]
        exact_mod_cast hback'
      · obtain ⟨rfl, rfl⟩ := Prod.mk.inj (Option.some.inj h)
        exact ⟨hback', hd⟩
    · cases h

/-- What the shortest decimal of a number can be. -/
theorem shortest_spec (x : F64) :
    (ofRat 52 11 x.neg ((shortest x).1 * 10 ^ (shortest x).2) = x ∧ (shortest x).1 ≤ 10 ^ 17) ∨
      (shortest x = (0, 0) ∧ shortestWith x (Int.log 10 x.magnitude) 1 = none) := by
  unfold shortest
  cases h : (List.range 17).findSome? fun k =>
      shortestWith x (Int.log 10 x.magnitude) (k + 1) with
  | none =>
    exact .inr ⟨rfl, List.findSome?_eq_none_iff.mp h 0 (List.mem_range.mpr (by norm_num))⟩
  | some r =>
    obtain ⟨k, hk, hr⟩ := List.exists_of_findSome?_eq_some h
    have hlog := Int.lt_zpow_succ_log_self (b := 10) (by norm_num) x.magnitude
    obtain ⟨hback, hd⟩ := shortestWith_eq_some (by exact_mod_cast hlog) hr
    refine .inl ⟨hback, hd.trans (Nat.pow_le_pow_right (by norm_num) ?_)⟩
    have := List.mem_range.mp hk
    omega

/-- The shortest decimal of one is found at once. -/
theorem shortestWith_one {n : Bool} (h : (ofRat 52 11 n 1).magnitude = 1)
    (hn : (ofRat 52 11 n 1).neg = n) : shortestWith (ofRat 52 11 n 1) 0 1 ≠ none := by
  unfold shortestWith
  rw [h, hn]
  norm_num
  exact Option.some_ne_none _

/-- A shortest decimal that is a large integer ends in zero. -/
theorem shortestValue_mod_ten {x : F64} {n : ℤ} (h : (n : ℚ) = x.shortestValue) :
    n % 10 = 0 ∨ n.natAbs ≤ 10 ^ 17 := by
  unfold shortestValue at h
  split at h
  · have hn : n = 0 := by exact_mod_cast h
    exact .inl (by rw [hn]; rfl)
  · have habs : ((n.natAbs : ℕ) : ℚ) = (shortest x).1 * 10 ^ (shortest x).2 := by
      have hpos : (0 : ℚ) ≤ (shortest x).1 * 10 ^ (shortest x).2 := by positivity
      rw [Nat.cast_natAbs, Int.cast_abs, h, abs_mul, abs_of_nonneg hpos]
      split <;> simp
    have hd : (shortest x).1 ≤ 10 ^ 17 := by
      rcases shortest_spec x with ⟨-, hd⟩ | ⟨h0, -⟩
      · exact hd
      · rw [h0]
        exact Nat.zero_le _
    generalize (shortest x).1 = d at *
    generalize (shortest x).2 = t at *
    rcases lt_or_ge 0 t with ht | ht
    · obtain ⟨j, rfl⟩ : ∃ j : ℕ, t = j + 1 := ⟨(t - 1).toNat, by omega⟩
      have hn : n.natAbs = d * 10 ^ j * 10 := by
        have h2 : ((n.natAbs : ℕ) : ℚ) = ((d * 10 ^ j * 10 : ℕ) : ℚ) := by
          rw [habs, zpow_add₀ (by norm_num), zpow_natCast]
          push_cast
          ring
        exact_mod_cast h2
      generalize d * 10 ^ j = m at hn
      exact .inl (by omega)
    · right
      have hle : (10 : ℚ) ^ t ≤ 1 := zpow_le_one_of_nonpos₀ (by norm_num) ht
      have h2 : ((n.natAbs : ℕ) : ℚ) ≤ (d : ℕ) := by
        rw [habs]
        exact mul_le_of_le_one_right (by positivity) hle
      exact le_trans (by exact_mod_cast h2) hd

/-- The number that a rounded number is, in terms of the number before. -/
theorem toRat_round {x : F64} (hx : x.isSpecial = false) :
    x.round.toRat = (if x.neg then -1 else 1) * (⌊x.magnitude + 1 / 2⌋ : ℤ) := by
  obtain ⟨hm, -, hn⟩ := magnitude_round hx
  rw [toRat, hn, hm]
  split <;> ring

theorem trunc_eq (x : F64) : (x.trunc : ℚ) = (if x.neg then -1 else 1) * (⌊x.magnitude⌋ : ℤ) := by
  unfold trunc
  split <;> push_cast <;> ring

/-- The fraction is below one half exactly when rounding is cutting off. -/
theorem floor_add_half_iff (q : ℚ) : ⌊q + 1 / 2⌋ = ⌊q⌋ ↔ Int.fract q < 1 / 2 := by
  have h1 := Int.floor_add_fract q
  have h2 := Int.fract_nonneg q
  rw [Int.floor_eq_iff]
  constructor
  · rintro ⟨-, h⟩
    linarith
  · intro h
    constructor <;> linarith

/-- **Where the shortest decimal of the rounded number is the number cut off, it
is the rounded number itself.** -/
theorem shortestValue_round_eq_trunc_iff {x : F64} (hx : x.isSpecial = false) :
    x.round.shortestValue = x.trunc ↔
      Int.fract x.magnitude < 1 / 2 ∧ x.round.shortestValue = x.round.toRat := by
  obtain ⟨hm, hs, hn⟩ := magnitude_round hx
  have hsign : (if x.neg then (-1 : ℚ) else 1) ≠ 0 := by split <;> norm_num
  have hnonneg : 0 ≤ ⌊x.magnitude⌋ := by
    obtain ⟨m, k, -, -, -, hq⟩ := isDyadic_magnitude hx
    exact Int.floor_nonneg.mpr (by rw [hq]; positivity)
  -- As soon as rounding is cutting off, both sides say the same.
  have key (h : ⌊x.magnitude + 1 / 2⌋ = ⌊x.magnitude⌋) : x.round.shortestValue = x.trunc ↔
      Int.fract x.magnitude < 1 / 2 ∧ x.round.shortestValue = x.round.toRat := by
    rw [toRat_round hx, trunc_eq, h]
    exact ⟨fun heq => ⟨(floor_add_half_iff _).mp h, heq⟩, And.right⟩
  constructor
  · intro heq
    refine (key ?_).mp heq
    rw [trunc_eq, shortestValue, hn] at heq
    split at heq
    · -- The rounded number is zero.
      rename_i h0
      rw [hm] at h0
      have h0' : ⌊x.magnitude + 1 / 2⌋ = 0 := by exact_mod_cast h0
      have hf : (⌊x.magnitude⌋ : ℤ) = 0 := by
        have := (mul_eq_zero.mp heq.symm).resolve_left hsign
        exact_mod_cast this
      rw [h0', hf]
    · rename_i h0
      have hval := mul_left_cancel₀ hsign heq
      rcases shortest_spec x.round with ⟨hback, -⟩ | ⟨hnone, hfirst⟩
      · -- The decimal rounds back to the rounded number, and it is an integer already.
        have hd := isDyadic_floor (isDyadic_magnitude hx) (le_refl (0 : ℚ)) one_pos
        rw [add_zero] at hd
        have hfix := (ofRat_of_isDyadic hd (by exact_mod_cast hnonneg) x.neg).1
        rw [hn, hval] at hback
        rw [hback, hm] at hfix
        exact_mod_cast hfix
      · -- No decimal was found; but then the rounded number is one, which has one.
        exfalso
        rw [hnone] at hval
        have hf : ⌊x.magnitude⌋ = 0 := by
          have h : (⌊x.magnitude⌋ : ℚ) = 0 := by rw [← hval]; simp
          exact_mod_cast h
        have h1 : ⌊x.magnitude + 1 / 2⌋ = 1 := by
          have hlt : ⌊x.magnitude + 1 / 2⌋ < 2 := by
            rw [Int.floor_lt]
            have := Int.lt_floor_add_one x.magnitude
            rw [hf] at this
            push_cast at *
            linarith
          have hge : ⌊x.magnitude⌋ ≤ ⌊x.magnitude + 1 / 2⌋ := Int.floor_mono (by linarith)
          rw [hm] at h0
          have hne : ⌊x.magnitude + 1 / 2⌋ ≠ 0 := by exact_mod_cast h0
          omega
        have hround : x.round = ofRat 52 11 x.neg 1 := by
          rw [round, hx, if_neg Bool.false_ne_true, h1, Int.cast_one]
        have hlog : Int.log 10 x.round.magnitude = 0 := by
          rw [hm, h1, Int.cast_one, Int.log_one_right]
        rw [hlog, hround] at hfirst
        refine shortestWith_one ?_ ?_ hfirst
        · rw [← hround, hm, h1, Int.cast_one]
        · rw [← hround, hn]
  · rintro ⟨hf, heq⟩
    exact (key ((floor_add_half_iff _).mpr hf)).mpr ⟨hf, heq⟩

/-- **Printing and cutting off agree**: a number whose rounding is printed as an
integer within the bounds of an integer type is cast to that integer exactly when
its fraction is below one half and the shortest decimal of its rounding is exact.
The bounds are those of a type with more than 17 digits; they do not end in
zero. -/
theorem display_round_eq_cast_iff {x : F64} {n lo hi : ℤ}
    (h : parseInt? (display x.round) = some n) (hlo : lo ≤ n) (hhi : n ≤ hi)
    (hlo' : lo < -10 ^ 17) (hlo10 : lo % 10 ≠ 0) (hhi' : 10 ^ 17 < hi) (hhi10 : hi % 10 ≠ 0) :
    x.toIntSat lo hi = n ↔
      Int.fract x.magnitude < 1 / 2 ∧ x.round.shortestValue = x.round.toRat := by
  obtain ⟨hs, hval⟩ := parseInt?_display h
  have hx : x.isSpecial = false := by
    by_contra hne
    rw [Bool.not_eq_false] at hne
    rw [round, hne, if_pos rfl, hne] at hs
    cases hs
  have hnan : x.isNan = false := by rw [isNan, hx, Bool.false_and]
  rw [← shortestValue_round_eq_trunc_iff hx, ← hval, toIntSat, hnan, hx,
    if_neg Bool.false_ne_true, if_neg Bool.false_ne_true, Int.cast_inj]
  -- The shortest decimal is never one of the bounds, so nothing saturates.
  have hmod := shortestValue_mod_ten hval
  omega

example : display (ofRat 52 11 true (1 / 8)) = ['-', '0', '.', '1', '2', '5'] := by
  decide +kernel

/-! ### Whole numbers -/

/-- The shortest decimal of a whole number has no digit behind the point: with as many digits as
the number has, there is one. -/
theorem shortest_nonneg {y : F64} {m : ℕ} (hm : m ≠ 0) (hy : y.magnitude = m)
    (hback : ofRat 52 11 y.neg (m : ℚ) = y) : 0 ≤ (shortest y).2 := by
  have hlog : 0 ≤ Int.log 10 y.magnitude := by
    rw [hy]
    exact (Int.zpow_le_iff_le_log (by norm_num) (by positivity)).mp
      (by rw [zpow_zero]; exact_mod_cast Nat.one_le_iff_ne_zero.mpr hm)
  obtain ⟨t10, ht10⟩ := Int.eq_ofNat_of_zero_le hlog
  have hfound : shortestWith y (Int.log 10 y.magnitude) (t10 + 1) ≠ none := by
    have hfloor : ⌊(m : ℚ) / 10 ^ (0 : ℤ)⌋.toNat = m := by
      rw [zpow_zero, div_one, Int.floor_natCast, Int.toNat_natCast]
    unfold shortestWith
    dsimp only
    rw [show Int.log 10 y.magnitude - ((t10 + 1 : ℕ) : ℤ) + 1 = 0 by push_cast; omega, hy, hfloor]
    simp [hback]
  unfold shortest
  cases h : (List.range 17).findSome? fun k =>
      shortestWith y (Int.log 10 y.magnitude) (k + 1) with
  | none => exact le_rfl
  | some r =>
    obtain ⟨before, k, after, hsplit, hr, hnone⟩ := List.findSome?_eq_some_iff.mp h
    -- The digits are found no later than all of them are asked for.
    have hk : k ≤ t10 := by
      by_contra hlt
      have hlen : before.length = k := by
        have hget : (List.range 17)[before.length]? = some k := by
          rw [hsplit, List.getElem?_append_right (le_refl _), Nat.sub_self]
          rfl
        obtain ⟨hlt, hval⟩ := List.getElem?_eq_some_iff.mp hget
        rwa [List.getElem_range] at hval
      have hmem : t10 ∈ before := by
        have hrange : (List.range 17).take k = before := by
          rw [hsplit, ← hlen, List.take_left]
        have hk17 : k < 17 := List.mem_range.mp (hsplit ▸ List.mem_append_right _ List.mem_cons_self)
        rw [← hrange, List.take_range, List.mem_range]
        omega
      exact hfound (hnone t10 hmem)
    unfold shortestWith at hr
    dsimp only at hr
    split_ifs at hr
    all_goals
      obtain rfl := Option.some.inj hr
      dsimp only [Option.getD_some]
      push_cast
      omega

/-- **A rounded number is printed as its shortest decimal**, which is an integer. -/
theorem parseInt?_display_round {x : F64} {n : ℤ} : parseInt? (display x.round) = some n ↔
    x.round.isSpecial = false ∧ (n : ℚ) = x.round.shortestValue := by
  refine ⟨parseInt?_display, ?_⟩
  rintro ⟨hs, hn⟩
  have hx : x.isSpecial = false := by
    by_contra hspecial
    rw [Bool.not_eq_false] at hspecial
    rw [round, if_pos hspecial, hspecial] at hs
    cases hs
  obtain ⟨hm, -, hneg⟩ := magnitude_round hx
  have hnonneg : 0 ≤ ⌊x.magnitude + 1 / 2⌋ := by
    obtain ⟨m, k, -, -, -, hq⟩ := isDyadic_magnitude hx
    exact Int.floor_nonneg.mpr (by rw [hq]; positivity)
  obtain ⟨m, hfloor⟩ := Int.eq_ofNat_of_zero_le hnonneg
  rw [hfloor, Int.cast_natCast] at hm
  have hback : ofRat 52 11 x.round.neg (m : ℚ) = x.round := by
    rw [hneg]
    conv_rhs => rw [round, hx, if_neg Bool.false_ne_true, hfloor, Int.cast_natCast]
  have hnan : x.round.isNan = false := by rw [isNan, hs, Bool.false_and]
  -- The text can be read, and what it is read as is the shortest decimal.
  suffices h : ∃ z, parseInt? (display x.round) = some z by
    obtain ⟨z, hz⟩ := h
    have hzn : (z : ℚ) = n := (parseInt?_display hz).2.trans hn.symm
    rw [hz, show z = n by exact_mod_cast hzn]
  unfold display
  rw [hnan, hs, if_neg Bool.false_ne_true, if_neg Bool.false_ne_true]
  by_cases hzero : x.round.magnitude = 0
  · rw [if_pos hzero]
    split
    · exact ⟨0, by decide⟩
    · exact ⟨0, by decide⟩
  · rw [if_neg hzero]
    have hm0 : m ≠ 0 := by
      rintro rfl
      exact hzero (by rw [hm, Nat.cast_zero])
    unfold displayMagnitude
    rw [if_pos (shortest_nonneg hm0 hm hback)]
    split
    · refine ⟨-(((shortest x.round).1 * 10 ^ (shortest x.round).2.toNat : ℕ) : ℤ), ?_⟩
      rw [List.singleton_append, parseInt?, parseNat?_natText, Option.map_some]
    · refine ⟨(((shortest x.round).1 * 10 ^ (shortest x.round).2.toNat : ℕ) : ℤ), ?_⟩
      rw [List.nil_append, parseInt?_of_digits (natText_ne_nil _) (allDigits_natText _),
        ofDigits_natText]

end F64

end Ieee
