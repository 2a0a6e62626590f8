import Exarrow.IntervalText
import Exarrow.ParserSafety
import Mathlib.Data.Rat.Floor

/-!
# What the text of a decimal is read as

A decimal of a scale is read as its value times ten to the scale, without what is left of it
behind the point; a text that is no decimal is an error. So `Exarrow.DecimalLaw` says, and the
parser keeps to it but for the part behind the point:

* a point with nothing behind it is read as if it were not there;
* a fraction at the scale zero is an error, though none of its digits counts;
* of a longer fraction only the bytes that count are looked at, and they are read as an integer
  is, which may begin with a sign.

**The law holds exactly of the other texts** (`Exarrow.decimalLaw_iff`). None of this is in the
texts that `Exarrow.formatDecimalText` writes, which are all read back.
-/

namespace Exarrow

open Machine Checked Numeral Arrow

/-! ### The law -/

/-- A number without what is behind its point. -/
def truncated (q : ℚ) : ℤ := if 0 ≤ q then ⌊q⌋ else ⌈q⌉

/-- **What a parser of decimals does**: a decimal text is read as its value, scaled and cut, if
that fits, and every other text is an error. -/
structure DecimalLaw (ov : Overflow) (text : List Char) (scale : SInt 8) : Prop where
  /-- A decimal text is read. -/
  value : ∀ q, value? text = some q → SInt.Fits 128 (truncated (q * 10 ^ scale.val.toNat)) →
    Yields (parseDecimalToI128 ov text scale) (truncated (q * 10 ^ scale.val.toNat))
  /-- Another text is not. -/
  rejects : value? text = none → ∃ e, parseDecimalToI128 ov text scale = fail e

/-- A number with a fraction of so many units, which has the sign of the text. -/
def signedSum (negative : Bool) (x y : ℤ) : ℤ := if negative then x - y else x + y

/-- There is something behind the point, which is digits of which the scale leaves some; or it
is something else and this is seen where the scale cuts it. -/
def FractionRead (negative : Bool) (n : ℤ) (f : List Char) (scale : ℕ) : Prop :=
  f ≠ [] ∧ (AllDigits f → 0 < scale) ∧
    (¬AllDigits f → ∃ digits, Text.takeBytes? (min (Text.byteLen f) scale) f = some digits ∧
      ∀ v, parseSigned? 128 digits = some v →
        ¬SInt.Fits 128 (signedSum negative (n * 10 ^ scale)
          (v.val * 10 ^ (scale - Text.byteLen digits))))

/-- What is behind a point is read, where what is before it was. -/
def DecimalRead (text : List Char) (scale : SInt 8) : Prop :=
  ∀ i f n, text.splitOn '.' = [i, f] → parseSigned? 128 i = some n →
    SInt.Fits 128 (n.val * 10 ^ scale.val.toNat) →
      FractionRead (i.head? == some '-') n.val f scale.val.toNat

/-! ### Cutting digits -/

theorem truncated_neg (q : ℚ) : truncated (-q) = -truncated q := by
  unfold truncated
  rcases lt_trichotomy q 0 with hq | rfl | hq
  · rw [if_pos (by linarith), if_neg (by linarith), Int.floor_neg]
  · simp
  · rw [if_neg (by linarith), if_pos (by linarith), Int.ceil_neg]

/-- Cutting behind the point what digits denote. -/
theorem truncated_withFraction {negative : Bool} {x : ℤ} (k L s : ℕ)
    (hx : if negative then x ≤ 0 else 0 ≤ x) :
    truncated (withFraction negative x k L * 10 ^ s) =
      signedSum negative (x * 10 ^ s) (k * 10 ^ s / 10 ^ L : ℕ) := by
  have hfloor (m : ℤ) : ⌊((m : ℚ) + k / 10 ^ L) * 10 ^ s⌋ =
      m * 10 ^ s + (k * 10 ^ s / 10 ^ L : ℕ) := by
    have hcast : ((m : ℚ) + k / 10 ^ L) * 10 ^ s =
        ((m * 10 ^ s : ℤ) : ℚ) + ((k * 10 ^ s : ℕ) : ℚ) / ((10 ^ L : ℕ) : ℚ) := by
      push_cast
      ring
    rw [hcast, Int.floor_intCast_add, Rat.floor_natCast_div_natCast]
    push_cast
    rfl
  have hnonneg {m : ℤ} (hm : 0 ≤ m) : 0 ≤ ((m : ℚ) + k / 10 ^ L) * 10 ^ s := by
    have : (0 : ℚ) ≤ m := by exact_mod_cast hm
    positivity
  unfold withFraction signedSum
  rcases negative with _ | _
  · rw [if_neg Bool.false_ne_true, if_neg Bool.false_ne_true, truncated,
      if_pos (hnonneg (by simpa using hx)), hfloor]
  · have hx' : 0 ≤ -x := by simpa using hx
    have hneg : ((x : ℚ) - k / 10 ^ L) * 10 ^ s = -((((-x : ℤ) : ℚ) + k / 10 ^ L) * 10 ^ s) := by
      push_cast
      ring
    rw [if_pos rfl, if_pos rfl, hneg, truncated_neg, truncated, if_pos (hnonneg hx'), hfloor]
    ring

/-- The digits of a fraction that a scale leaves. -/
theorem ofDigits_mul_pow_div {f : List Char} (hf : AllDigits f) (s : ℕ) :
    ofDigits f * 10 ^ s / 10 ^ f.length =
      ofDigits (f.take (min f.length s)) * 10 ^ (s - min f.length s) := by
  rcases le_total f.length s with h | h
  · rw [Nat.min_eq_left h, List.take_length]
    have hpow : (10 : ℕ) ^ s = 10 ^ (s - f.length) * 10 ^ f.length := by
      rw [← pow_add, Nat.sub_add_cancel h]
    rw [hpow, ← mul_assoc, Nat.mul_div_cancel _ (by positivity)]
  · rw [Nat.min_eq_right h, Nat.sub_self, pow_zero, mul_one]
    have hsplit := ofDigits_append (f.take s) (f.drop s)
    rw [List.take_append_drop] at hsplit
    have hdrop : ofDigits (f.drop s) < _ := ofDigits_lt fun c hc => hf c (List.mem_of_mem_drop hc)
    have hlen : (f.drop s).length = f.length - s := List.length_drop
    have hpow : (10 : ℕ) ^ f.length = 10 ^ (f.length - s) * 10 ^ s := by
      rw [← pow_add, Nat.sub_add_cancel h]
    rw [hlen] at hsplit hdrop
    rw [hpow, Nat.mul_div_mul_right _ _ (by positivity), hsplit,
      Nat.mul_add_div (by positivity), Nat.div_eq_of_lt hdrop, add_zero]

/-- Digits are cut at any byte. -/
theorem takeBytes?_of_allDigits {f : List Char} (hf : AllDigits f) {k : ℕ} (hk : k ≤ f.length) :
    Text.takeBytes? k f = some (f.take k) := by
  induction f generalizing k with
  | nil =>
    obtain rfl := Nat.le_zero.mp hk
    rfl
  | cons c f ih =>
    rcases k with _ | k
    · rfl
    · have hc : AllDigits [c] := List.forall_mem_singleton.mpr (hf c List.mem_cons_self)
      have hsize : c.utf8Size = 1 := byteLen_of_allDigits hc
      have hrest := ih (fun d hd => hf d (List.mem_cons_of_mem c hd)) (Nat.le_of_succ_le_succ hk)
      rw [Text.takeBytes?, hsize, if_pos (by omega), Nat.add_sub_cancel, hrest]
      rfl

/-! ### What the parser does -/

section Parsing

variable {ov : Overflow} {text i f : List Char} {scale : SInt 8} {n : SInt 128}

/-- A power of ten that fits is computed. -/
theorem pow10_eq_ok {ε : Type} {e : ℕ} (h : e ≤ 38) :
    ∃ p : SInt 128, (pow10 ov e : Exec ε (SInt 128)) = .ok p ∧ p.val = 10 ^ e :=
  yields_fit (fits_pow10_iff.mpr h).1 (fits_pow10_iff.mpr h).2

/-- A text without the parts of a decimal. -/
theorem parseDecimalToI128_of_parts_none (h : pointParts? text = none) :
    ∃ e, parseDecimalToI128 ov text scale = fail e := by
  unfold parseDecimalToI128
  rw [decimalParts_eq, h]
  exact ⟨_, rfl⟩

/-- A text with no number in front of the point. -/
theorem parseDecimalToI128_of_integer_none (h : pointParts? text = some (i, f))
    (hi : parseSigned? 128 i = none) : ∃ e, parseDecimalToI128 ov text scale = fail e := by
  unfold parseDecimalToI128
  rw [decimalParts_eq, h]
  refine ⟨s!"Invalid integer part: {str i}", ?_⟩
  show (orFail _ (parseSigned? 128 i) >>= _ : Exec String (SInt 128)) = _
  rw [hi]
  rfl

/-- The scale as the sizes that the program computes with. -/
theorem scale_sizes (h0 : 0 ≤ scale.val) :
    (scale.val % 2 ^ 32).toNat = scale.val.toNat ∧ (scale.val % 2 ^ 64).toNat = scale.val.toNat := by
  have hlt := scale.lt
  norm_num at hlt
  constructor <;> omega

/-- A number that is too large for the scale. -/
theorem parseDecimalToI128_of_not_fits (h : pointParts? text = some (i, f))
    (hi : parseSigned? 128 i = some n) (h0 : 0 ≤ scale.val) (h38 : scale.val ≤ 38)
    (hfits : ¬SInt.Fits 128 (n.val * 10 ^ scale.val.toNat)) :
    ∃ e, parseDecimalToI128 ov text scale = fail e := by
  obtain ⟨hsize, -⟩ := scale_sizes h0
  obtain ⟨p, hp, hval⟩ := @pow10_eq_ok ov String scale.val.toNat (by omega)
  have hmul : checkedMul n p = none := by
    rw [checkedMul, hval]
    exact SInt.ofInt?_eq_none.mpr hfits
  unfold parseDecimalToI128
  rw [decimalParts_eq, h, hsize]
  refine ⟨s!"Numeric overflow for value: {str text}", ?_⟩
  dsimp only
  rw [orFail_some, ok_bind]
  dsimp only
  rw [hi, orFail_some, ok_bind, hp, ok_bind, hmul]
  rfl

/-- **What is made of a number and of what is behind the point.** -/
theorem parseDecimalToI128_parts (h : pointParts? text = some (i, f))
    (hi : parseSigned? 128 i = some n) (h0 : 0 ≤ scale.val) (h38 : scale.val ≤ 38)
    (hfits : SInt.Fits 128 (n.val * 10 ^ scale.val.toNat)) :
    parseDecimalToI128 ov text scale =
      if f = [] then .ok ⟨_, hfits.1, hfits.2⟩
      else match Text.takeBytes? (min (Text.byteLen f) scale.val.toNat) f with
        | none => stop
        | some digits => orFail s!"Invalid decimal part: {str f}" (parseSigned? 128 digits) >>=
            fun v => orFail s!"Numeric overflow for value: {str text}" (SInt.ofInt? 128
              (signedSum (i.head? == some '-') (n.val * 10 ^ scale.val.toNat)
                (v.val * 10 ^ (scale.val.toNat - Text.byteLen digits)))) := by
  obtain ⟨hsize, hsize'⟩ := scale_sizes h0
  have hscale : scale.val.toNat ≤ 38 := by omega
  obtain ⟨p, hp, hval⟩ := @pow10_eq_ok ov String scale.val.toNat hscale
  have hmul : checkedMul n p = some ⟨_, hfits.1, hfits.2⟩ := by
    rw [checkedMul, hval]
    exact ofInt?_mem hfits.1 hfits.2
  unfold parseDecimalToI128
  rw [decimalParts_eq, h, hsize, hsize']
  generalize scale.val.toNat = size at *
  dsimp only
  rw [orFail_some, ok_bind]
  dsimp only
  rw [hi, orFail_some, ok_bind, hp, ok_bind, hmul, orFail_some, ok_bind]
  split
  · rfl
  rcases htake : Text.takeBytes? (min (Text.byteLen f) size) f with _ | digits
  · rfl
  have hlen := Text.byteLen_takeBytes? htake
  have hdigits : Text.byteLen digits ≤ size := hlen ▸ Nat.min_le_right _ _
  dsimp only
  rw [← hlen, Nat.mod_eq_of_lt (by omega : size - Text.byteLen digits < 2 ^ 32)]
  rcases hv : parseSigned? 128 digits with _ | v
  · rw [orFail_none, fail_bind, fail_bind]
  obtain ⟨q, hq, hqval⟩ := @pow10_eq_ok ov String (size - Text.byteLen digits) (by omega)
  have hscaled := fits_scaled hscale hdigits hv
  obtain ⟨x, hx, hxval⟩ : Yields (mul ov v q : Exec String (SInt 128)) _ :=
    yields_mul rfl hqval hscaled.1 hscaled.2
  rw [orFail_some, ok_bind, ok_bind, hq, ok_bind, hx, ok_bind]
  unfold signedSum
  rw [← hxval]
  by_cases hminus : i.head? = some '-'
  · rw [if_pos hminus, if_pos (beq_iff_eq.mpr hminus)]
    rfl
  · rw [if_neg hminus, if_neg fun h => hminus (beq_iff_eq.mp h)]
    rfl

end Parsing

/-! ### Where the law holds -/

/-- The sign of a number is the one of its text. -/
theorem parseInt?_sign {i : List Char} {x : ℤ} (h : parseInt? i = some x) :
    if (i.head? == some '-') = true then x ≤ 0 else 0 ≤ x := by
  unfold parseInt? at h
  split at h
  · obtain ⟨n, -, rfl⟩ := Option.map_eq_some_iff.mp h
    exact neg_nonpos.mpr (Int.natCast_nonneg n)
  · obtain ⟨n, -, rfl⟩ := Option.map_eq_some_iff.mp h
    exact Int.natCast_nonneg n
  · rename_i hminus _
    obtain ⟨n, -, rfl⟩ := Option.map_eq_some_iff.mp h
    have hhead : ¬(i.head? == some '-') = true := by
      intro hhead
      obtain ⟨t, ht⟩ : ∃ t, i = '-' :: t := by
        rcases i with _ | ⟨c, t⟩
        · cases hhead
        · exact ⟨t, by rw [Option.some.inj (beq_iff_eq.mp hhead)]⟩
      exact hminus t ht
    rw [if_neg hhead]
    exact Int.natCast_nonneg n

/-- A part that a sum with a sign is farther from zero than fits where the sum does. -/
theorem fits_of_signedSum {w : ℕ} {negative : Bool} {x y : ℤ}
    (hx : if negative = true then x ≤ 0 else 0 ≤ x) (hy : 0 ≤ y)
    (h : SInt.Fits w (signedSum negative x y)) : SInt.Fits w x := by
  have hpos : (0 : ℤ) < 2 ^ (w - 1) := by positivity
  obtain ⟨h1, h2⟩ := h
  unfold signedSum at h1 h2
  unfold SInt.Fits
  generalize (2 : ℤ) ^ (w - 1) = bound at *
  rcases negative with _ | _ <;> simp only [if_true, if_false, Bool.false_eq_true] at hx h1 h2 <;>
    omega

/-- Scaling keeps the sign. -/
theorem sign_mul_pow {negative : Bool} {x : ℤ} (hx : if negative = true then x ≤ 0 else 0 ≤ x)
    (s : ℕ) : if negative = true then x * 10 ^ s ≤ 0 else 0 ≤ x * 10 ^ s := by
  rcases negative with _ | _
  · exact mul_nonneg hx (by positivity)
  · exact mul_nonpos_of_nonpos_of_nonneg hx (by positivity)

theorem fits_of_mul_pow {w s : ℕ} {x : ℤ} (h : SInt.Fits w (x * 10 ^ s)) : SInt.Fits w x := by
  have hpos : (0 : ℤ) < 2 ^ (w - 1) := by positivity
  have hpow : (1 : ℤ) ≤ 10 ^ s := one_le_pow₀ (by norm_num)
  obtain ⟨h1, h2⟩ := h
  unfold SInt.Fits
  generalize (2 : ℤ) ^ (w - 1) = bound at *
  generalize (10 : ℤ) ^ s = p at *
  rcases le_total 0 x with hx | hx
  · exact ⟨by omega, by nlinarith⟩
  · exact ⟨by nlinarith, by omega⟩

theorem truncated_intCast (x : ℤ) (s : ℕ) : truncated ((x : ℚ) * 10 ^ s) = x * 10 ^ s := by
  have hcast : (x : ℚ) * 10 ^ s = ((x * 10 ^ s : ℤ) : ℚ) := by push_cast; rfl
  unfold truncated
  rw [hcast, Int.floor_intCast, Int.ceil_intCast, ite_self]

section Law

variable {ov : Overflow} {text i f : List Char} {scale : SInt 8}

theorem pointParts?_point (h : text.splitOn '.' = [i, f]) : pointParts? text = some (i, f) := by
  unfold pointParts?
  rw [h]

/-- The value of a text with a point. -/
theorem value?_of_point (h : text.splitOn '.' = [i, f]) {x : ℤ} (hx : parseInt? i = some x)
    (hf : f ≠ []) (hdigits : AllDigits f) :
    value? text = some (withFraction (i.head? == some '-') x (ofDigits f) f.length) := by
  rw [value?_eq, h]
  dsimp only
  rw [hx, parseNat?_of_digits hf hdigits]
  rfl

theorem value?_of_point_eq_none (h : text.splitOn '.' = [i, f])
    (hbad : parseInt? i = none ∨ f = [] ∨ ¬AllDigits f) : value? text = none := by
  rw [value?_eq, h]
  dsimp only
  rcases hbad with hi | hf | hf
  · rw [hi]
    rfl
  · rw [hf]
    cases parseInt? i <;> rfl
  · have hnone : parseNat? f = none := if_neg fun hd => hf hd.2
    rw [hnone]
    cases parseInt? i <;> rfl

/-- A number in front of the point that is too large for 128 bits, when it is scaled, leaves no
value that is not. -/
theorem not_fits_value (h : text.splitOn '.' = [i, f]) {x : ℤ} (hx : parseInt? i = some x)
    (hfits : ¬SInt.Fits 128 (x * 10 ^ scale.val.toNat)) {q : ℚ} (hq : value? text = some q) :
    ¬SInt.Fits 128 (truncated (q * 10 ^ scale.val.toNat)) := by
  by_cases hf : f = []
  · rw [value?_of_point_eq_none h (.inr (.inl hf))] at hq
    cases hq
  by_cases hdigits : AllDigits f
  · rw [value?_of_point h hx hf hdigits] at hq
    obtain rfl := Option.some.inj hq
    have hsign := parseInt?_sign hx
    rw [truncated_withFraction _ _ _ hsign]
    intro hsum
    exact hfits (fits_of_signedSum (sign_mul_pow hsign _) (Int.natCast_nonneg _) hsum)
  · rw [value?_of_point_eq_none h (.inr (.inr hdigits))] at hq
    cases hq

/-- A machine integer that a text is not read as does not fit. -/
theorem not_fits_of_parseSigned?_eq_none {w : ℕ} {x : ℤ} (hx : parseInt? i = some x)
    (h : parseSigned? w i = none) : ¬SInt.Fits w x := by
  unfold parseSigned? at h
  rw [hx, Option.bind_some] at h
  exact SInt.ofInt?_eq_none.mp h

theorem parseInt?_of_parseSigned? {w : ℕ} {n : SInt w} (h : parseSigned? w i = some n) :
    parseInt? i = some n.val := by
  obtain ⟨x, hx, hn⟩ := Option.bind_eq_some_iff.mp h
  rw [hx, SInt.ofInt?_eq_some.mp hn]

/-- The law holds where the parser fails and the text has no value that fits. -/
theorem decimalLaw_of_fail (h : ∃ e, parseDecimalToI128 ov text scale = fail e)
    (hq : ∀ q, value? text = some q →
      ¬SInt.Fits 128 (truncated (q * 10 ^ scale.val.toNat))) : DecimalLaw ov text scale :=
  ⟨fun q hv hfits => absurd hfits (hq q hv), fun _ => h⟩

/-- The law of a text that is no decimal. -/
theorem decimalLaw_iff_of_none (hv : value? text = none) :
    DecimalLaw ov text scale ↔ ∃ e, parseDecimalToI128 ov text scale = fail e :=
  ⟨fun h => h.rejects hv, fun h => decimalLaw_of_fail h fun q hq => by
    rw [hv] at hq
    cases hq⟩

/-- **The law of a text without a point** holds. -/
theorem decimalLaw_of_singleton (h0 : 0 ≤ scale.val) (h38 : scale.val ≤ 38)
    (h : text.splitOn '.' = [i]) : DecimalLaw ov text scale := by
  have hparts : pointParts? text = some (i, []) := by
    unfold pointParts?
    rw [h]
  have hvalue : value? text = (parseInt? i).map fun x : ℤ => (x : ℚ) := by
    rw [value?_eq, h]
  have hfits {x : ℤ} {q : ℚ} (hx : parseInt? i = some x) (hq : value? text = some q) :
      truncated (q * 10 ^ scale.val.toNat) = x * 10 ^ scale.val.toNat := by
    rw [hvalue, hx] at hq
    obtain rfl := Option.some.inj hq
    exact truncated_intCast x _
  rcases hn : parseSigned? 128 i with _ | n
  · refine decimalLaw_of_fail (parseDecimalToI128_of_integer_none hparts hn) fun q hq hfit => ?_
    obtain ⟨x, hx, -⟩ := Option.map_eq_some_iff.mp (hvalue ▸ hq)
    rw [hfits hx hq] at hfit
    exact not_fits_of_parseSigned?_eq_none hx hn (fits_of_mul_pow hfit)
  have hx := parseInt?_of_parseSigned? hn
  by_cases hfit : SInt.Fits 128 (n.val * 10 ^ scale.val.toNat)
  · refine ⟨fun q hq _ => ?_, fun hnone => ?_⟩
    · rw [hfits hx hq, parseDecimalToI128_parts hparts hn h0 h38 hfit, if_pos rfl]
      exact ⟨_, rfl, rfl⟩
    · rw [hvalue, hx] at hnone
      cases hnone
  · refine decimalLaw_of_fail (parseDecimalToI128_of_not_fits hparts hn h0 h38 hfit)
      fun q hq => ?_
    rw [hfits hx hq]
    exact hfit

/-- Digits behind the point are read where the scale leaves some of them. -/
theorem fractionRead_of_digits {negative : Bool} {n : ℤ} {s : ℕ} (hf : f ≠ [])
    (hdigits : AllDigits f) : FractionRead negative n f s ↔ 0 < s :=
  ⟨fun h => h.2.1 hdigits, fun h => ⟨hf, fun _ => h, fun hnot => absurd hdigits hnot⟩⟩

/-- The digits that a scale leaves of a fraction are read. -/
theorem parseSigned?_take (hf : f ≠ []) (hdigits : AllDigits f) {s : ℕ} (h0 : 0 < s)
    (h38 : s ≤ 38) : ∃ v : SInt 128, parseSigned? 128 (f.take (min f.length s)) = some v ∧
      v.val = ofDigits (f.take (min f.length s)) := by
  have hall : AllDigits (f.take (min f.length s)) :=
    fun c hc => hdigits c (List.mem_of_mem_take hc)
  have hne : f.take (min f.length s) ≠ [] := by
    have hlen := List.length_pos_of_ne_nil hf
    rw [ne_eq, List.take_eq_nil_iff, not_or]
    exact ⟨by omega, hf⟩
  have hlt : ofDigits (f.take (min f.length s)) < 10 ^ 38 :=
    lt_of_lt_of_le (ofDigits_lt hall) (Nat.pow_le_pow_right (by norm_num)
      (le_trans (List.length_take_le _ _) (le_trans (Nat.min_le_right _ _) h38)))
  have hlt' : (ofDigits (f.take (min f.length s)) : ℤ) < 2 ^ 127 :=
    lt_trans (by exact_mod_cast hlt) (by norm_num : (10 : ℤ) ^ 38 < 2 ^ 127)
  refine ⟨⟨_, le_trans (by norm_num) (Int.natCast_nonneg _), hlt'⟩, ?_, rfl⟩
  unfold parseSigned?
  rw [parseInt?_of_digits hne hall, Option.bind_some]
  exact ofInt?_mem _ _

/-- **The law of digits behind the point**: they are read as what they denote, if there are
digits that the scale leaves of them. -/
theorem decimalLaw_of_digits {n : SInt 128} (h0 : 0 ≤ scale.val) (h38 : scale.val ≤ 38)
    (h : text.splitOn '.' = [i, f]) (hn : parseSigned? 128 i = some n)
    (hfit : SInt.Fits 128 (n.val * 10 ^ scale.val.toNat)) (hf : f ≠ []) (hdigits : AllDigits f) :
    DecimalLaw ov text scale ↔ 0 < scale.val.toNat := by
  have hx := parseInt?_of_parseSigned? hn
  have hcode := @parseDecimalToI128_parts ov text i f scale n (pointParts?_point h) hn h0 h38 hfit
  rw [if_neg hf] at hcode
  -- The digits that the scale leaves are those of the value.
  have htake := takeBytes?_of_allDigits hdigits (Nat.min_le_left f.length scale.val.toNat)
  have hbytes := Text.byteLen_takeBytes? htake
  have htrunc := truncated_withFraction (ofDigits f) f.length scale.val.toNat (parseInt?_sign hx)
  have hvalue := value?_of_point h hx hf hdigits
  rw [ofDigits_mul_pow_div hdigits] at htrunc
  rw [byteLen_of_allDigits hdigits, htake] at hcode
  dsimp only at hcode
  rw [hbytes] at hcode
  rcases Nat.eq_zero_or_pos scale.val.toNat with hzero | hpos
  · refine iff_of_false (fun hlaw => ?_) (by omega)
    rw [hzero, Nat.min_zero, List.take_zero] at hcode htrunc
    have hread := hlaw.value _ hvalue
    have hsum : signedSum (i.head? == some '-') (n.val * 10 ^ 0)
        ((ofDigits [] * 10 ^ (0 - 0) : ℕ) : ℤ) = n.val := by
      unfold signedSum
      split <;> simp [ofDigits]
    rw [hzero, htrunc, hcode, hsum] at hread
    obtain ⟨a, ha, -⟩ := hread ⟨n.ge, n.lt⟩
    cases ha
  · refine iff_of_true ⟨fun q hq hsum => ?_, fun hnone => ?_⟩ hpos
    · rw [hvalue] at hq
      obtain rfl := Option.some.inj hq
      obtain ⟨v, hv, hval⟩ := parseSigned?_take hf hdigits hpos (by omega)
      rw [htrunc] at hsum ⊢
      push_cast at hsum ⊢
      rw [hcode, hv, orFail_some, ok_bind, hval, ofInt?_mem hsum.1 hsum.2]
      exact ⟨_, rfl, rfl⟩
    · rw [hvalue] at hnone
      cases hnone

/-- **The law of a text with a point.** -/
theorem decimalLaw_point (h0 : 0 ≤ scale.val) (h38 : scale.val ≤ 38)
    (h : text.splitOn '.' = [i, f]) : DecimalLaw ov text scale ↔
      ∀ n, parseSigned? 128 i = some n → SInt.Fits 128 (n.val * 10 ^ scale.val.toNat) →
        FractionRead (i.head? == some '-') n.val f scale.val.toNat := by
  have hparts := pointParts?_point h
  rcases hn : parseSigned? 128 i with _ | n
  · refine iff_of_true (decimalLaw_of_fail (parseDecimalToI128_of_integer_none hparts hn)
      fun q hq => ?_) fun _ hn' => (nomatch hn')
    rcases hx : parseInt? i with _ | x
    · rw [value?_of_point_eq_none h (.inl hx)] at hq
      cases hq
    · exact not_fits_value h hx
        (fun hfit => not_fits_of_parseSigned?_eq_none hx hn (fits_of_mul_pow hfit)) hq
  have hx := parseInt?_of_parseSigned? hn
  by_cases hfit : SInt.Fits 128 (n.val * 10 ^ scale.val.toNat)
  swap
  · refine iff_of_true (decimalLaw_of_fail (parseDecimalToI128_of_not_fits hparts hn h0 h38 hfit)
      fun q hq => not_fits_value h hx hfit hq) ?_
    rintro _ ⟨⟩ hfit'
    exact absurd hfit' hfit
  have hone : (∀ m, some n = some m → SInt.Fits 128 (m.val * 10 ^ scale.val.toNat) →
      FractionRead (i.head? == some '-') m.val f scale.val.toNat) ↔
        FractionRead (i.head? == some '-') n.val f scale.val.toNat :=
    ⟨fun h => h n rfl hfit, fun h m hm _ => Option.some.inj hm ▸ h⟩
  rw [hone]
  have hcode := @parseDecimalToI128_parts ov text i f scale n hparts hn h0 h38 hfit
  by_cases hf : f = []
  · -- A point with nothing behind it.
    rw [if_pos hf] at hcode
    refine iff_of_false (fun hlaw => ?_) fun hread => hread.1 hf
    obtain ⟨e, he⟩ := hlaw.rejects (value?_of_point_eq_none h (.inr (.inl hf)))
    rw [hcode] at he
    cases he
  rw [if_neg hf] at hcode
  by_cases hdigits : AllDigits f
  · rw [decimalLaw_of_digits h0 h38 h hn hfit hf hdigits, fractionRead_of_digits hf hdigits]
  · -- What is behind the point is not digits.
    rw [decimalLaw_iff_of_none (value?_of_point_eq_none h (.inr (.inr hdigits))), hcode]
    rcases htake : Text.takeBytes? (min (Text.byteLen f) scale.val.toNat) f with _ | digits
    · refine iff_of_false (fun ⟨e, he⟩ => (nomatch he)) fun ⟨_, _, hread⟩ => ?_
      obtain ⟨digits, hdigits', -⟩ := hread hdigits
      rw [htake] at hdigits'
      cases hdigits'
    dsimp only
    constructor
    · rintro ⟨e, he⟩
      refine ⟨hf, fun hd => absurd hd hdigits, fun _ => ⟨digits, htake, fun v hv hsum => ?_⟩⟩
      rw [hv, orFail_some, ok_bind, ofInt?_mem hsum.1 hsum.2] at he
      cases he
    · rintro ⟨-, -, hread⟩
      obtain ⟨digits', htake', hread⟩ := hread hdigits
      rw [htake] at htake'
      obtain rfl := Option.some.inj htake'
      rcases hv : parseSigned? 128 digits with _ | v
      · exact ⟨_, rfl⟩
      · rw [orFail_some, ok_bind, SInt.ofInt?_eq_none.mpr (hread v hv)]
        exact ⟨_, rfl⟩

end Law

/-! ### Writing decimals -/

/-- Writes the text of an integer with a point in front of its last digits. A negative scale
appends zeros. -/
def formatDecimalText (unscaled : List Char) (scale : SInt 8) : List Char :=
  if scale.val ≤ 0 then unscaled ++ List.replicate scale.val.natAbs '0'
  else
    let (sign, digits) := match unscaled with
      | '-' :: digits => (['-'], digits)
      | digits => ([], digits)
    let size := scale.val.natAbs
    let digits := pad (size + 1) digits
    sign ++ (digits.take (digits.length - size) ++ '.' :: digits.drop (digits.length - size))

section Writing

variable {ov : Overflow} {scale : SInt 8}

/-- The text of an integer, its sign apart. -/
theorem formatDecimalText_intText (v : ℤ) (hscale : 0 < scale.val) :
    ∃ integer fraction : List Char, integer ≠ [] ∧ AllDigits integer ∧ AllDigits fraction ∧
      fraction.length = scale.val.toNat ∧
      ofDigits integer * 10 ^ scale.val.toNat + ofDigits fraction = v.natAbs ∧
      formatDecimalText (intText v) scale = minusText v ++ (integer ++ '.' :: fraction) := by
  have hsize : scale.val.natAbs = scale.val.toNat := by omega
  have hlen : scale.val.toNat + 1 ≤ (pad (scale.val.toNat + 1) (natText v.natAbs)).length := by
    rw [pad, List.length_append, List.length_replicate]
    omega
  have hdigits := allDigits_padded (scale.val.toNat + 1) v.natAbs
  have hvalue := ofDigits_pad (scale.val.toNat + 1) (natText v.natAbs)
  rw [ofDigits_natText] at hvalue
  have hcode : formatDecimalText (intText v) scale = minusText v ++
      ((pad (scale.val.toNat + 1) (natText v.natAbs)).take
          ((pad (scale.val.toNat + 1) (natText v.natAbs)).length - scale.val.toNat) ++
        '.' :: (pad (scale.val.toNat + 1) (natText v.natAbs)).drop
          ((pad (scale.val.toNat + 1) (natText v.natAbs)).length - scale.val.toNat)) := by
    unfold formatDecimalText intText minusText
    rw [if_neg (by omega), hsize]
    by_cases hv : v < 0
    · rw [if_pos hv, if_pos hv]
      rfl
    · rw [if_neg hv, if_neg hv]
      obtain ⟨c, s, hcs⟩ := List.exists_cons_of_ne_nil (natText_ne_nil v.natAbs)
      have hc : c.isDigit = true := allDigits_natText v.natAbs c (hcs ▸ List.mem_cons_self)
      rw [hcs]
      split
      rename_i sign digits hmatch
      split at hmatch
      · rename_i h
        rw [(List.cons.inj h).1] at hc
        exact absurd hc (by decide)
      · cases hmatch
        rfl
  generalize pad (scale.val.toNat + 1) (natText v.natAbs) = digits at *
  refine ⟨_, _, ?_, fun c hc => hdigits c (List.mem_of_mem_take hc),
    fun c hc => hdigits c (List.mem_of_mem_drop hc), ?_, ?_, hcode⟩
  · rw [ne_eq, List.take_eq_nil_iff, not_or]
    exact ⟨by omega, fun h => by rw [h] at hlen; cases hlen⟩
  · rw [List.length_drop]
    omega
  · have hsplit := ofDigits_append (digits.take (digits.length - scale.val.toNat))
      (digits.drop (digits.length - scale.val.toNat))
    have hlast : (digits.drop (digits.length - scale.val.toNat)).length = scale.val.toNat := by
      rw [List.length_drop]
      omega
    rw [List.take_append_drop, hvalue, hlast] at hsplit
    rw [hsplit, Nat.mul_comm]

/-- **The text of a decimal denotes it.** -/
theorem value?_formatDecimalText (v : ℤ) (h0 : 0 ≤ scale.val) :
    value? (formatDecimalText (intText v) scale) = some ((v : ℚ) / 10 ^ scale.val.toNat) := by
  rcases h0.eq_or_lt with hzero | hscale
  · unfold formatDecimalText
    rw [← hzero, if_pos le_rfl, Int.natAbs_zero, List.replicate_zero, List.append_nil,
      value?_intText, Int.toNat_zero, pow_zero, div_one]
  · obtain ⟨integer, fraction, hne, hinteger, hfraction, hlen, hsum, htext⟩ :=
      formatDecimalText_intText v hscale
    have hne' : fraction ≠ [] := by
      rintro rfl
      rw [List.length_nil] at hlen
      omega
    have hten : (10 : ℚ) ^ scale.val.toNat ≠ 0 := by positivity
    have habs : (ofDigits integer : ℚ) + ofDigits fraction / 10 ^ scale.val.toNat =
        (v.natAbs : ℕ) / 10 ^ scale.val.toNat := by
      rw [← hsum]
      field_simp
      push_cast
      rfl
    rw [htext, minusText]
    by_cases hv : v < 0
    · have hcast : ((v.natAbs : ℕ) : ℚ) = -v := by
        rw [Nat.cast_natAbs, abs_of_neg hv, Int.cast_neg]
      rw [if_pos hv, List.singleton_append, value?_neg_point hne hinteger hne' hfraction, hlen, habs,
        hcast, neg_div, neg_neg]
    · have hcast : ((v.natAbs : ℕ) : ℚ) = v := by
        rw [Nat.cast_natAbs, abs_of_nonneg (not_lt.mp hv)]
      rw [if_neg hv, List.nil_append, value?_point hne hinteger hne' hfraction, hlen, habs, hcast]

/-- The point and some zeros are added to the text of the integer. -/
theorem length_formatDecimalText_le (unscaled : List Char) (scale : SInt 8) :
    (formatDecimalText unscaled scale).length ≤ unscaled.length + scale.val.natAbs + 2 := by
  unfold formatDecimalText
  split
  · rw [List.length_append, List.length_replicate]
    omega
  · have hpad (digits : List Char) : (pad (scale.val.natAbs + 1) digits).length =
        max (scale.val.natAbs + 1) digits.length := by
      rw [pad, List.length_append, List.length_replicate]
      omega
    split
    rename_i sign digits hsign
    have hlen : sign.length + digits.length = unscaled.length := by
      split at hsign <;> cases hsign
      · exact Nat.add_comm 1 _
      · exact Nat.zero_add _
    simp only [List.length_append, List.length_cons, List.length_take, List.length_drop, hpad]
    omega

/-- The part before the point, with the sign. -/
theorem parseInt?_minusText {v : ℤ} {integer : List Char} (hne : integer ≠ [])
    (hdigits : AllDigits integer) :
    ((minusText v ++ integer).head? == some '-') = decide (v < 0) ∧
      parseInt? (minusText v ++ integer) =
        some (if v < 0 then -(ofDigits integer : ℤ) else ofDigits integer) := by
  unfold minusText
  by_cases hv : v < 0
  · rw [if_pos hv, if_pos hv, decide_eq_true hv]
    refine ⟨rfl, ?_⟩
    show (parseNat? integer).map (fun n : ℕ => -(n : ℤ)) = _
    rw [parseNat?_of_digits hne hdigits]
    rfl
  · rw [if_neg hv, if_neg hv, decide_eq_false hv, List.nil_append]
    refine ⟨?_, parseInt?_of_digits hne hdigits⟩
    obtain ⟨c, s, rfl⟩ := List.exists_cons_of_ne_nil hne
    have hc := hdigits c List.mem_cons_self
    refine beq_eq_false_iff_ne.mpr fun h => ?_
    rw [Option.some.inj h] at hc
    exact absurd hc (by decide)

/-- **What is written is read back.** -/
theorem parseDecimalToI128_formatDecimalText {v : ℤ} (hv : |v| < 10 ^ 38) (h0 : 0 ≤ scale.val)
    (h38 : scale.val ≤ 38) :
    Yields (parseDecimalToI128 ov (formatDecimalText (intText v) scale) scale) v := by
  have hfit : SInt.Fits 128 v := by
    obtain ⟨h1, h2⟩ := abs_lt.mp hv
    have h : (10 : ℤ) ^ 38 < 2 ^ 127 := by norm_num
    exact ⟨le_trans (neg_le_neg h.le) h1.le, lt_trans h2 h⟩
  rcases eq_or_lt_of_le h0 with hzero | hpos
  · have htext : formatDecimalText (intText v) scale = intText v := by
      unfold formatDecimalText
      rw [if_pos hzero.ge, ← hzero]
      exact List.append_nil _
    have hpoint : '.' ∉ intText v := by
      have hdigits := (allDigits_natText v.natAbs).ne (c := '.') rfl
      unfold intText
      split
      · exact List.not_mem_cons_of_ne_of_not_mem (by decide) hdigits
      · exact hdigits
    have hlaw := @decimalLaw_of_singleton ov _ _ scale h0 h38 (List.splitOn_eq_singleton hpoint)
    have htrunc : truncated ((v : ℚ) * 10 ^ scale.val.toNat) = v := by
      rw [truncated_intCast, ← hzero]
      exact mul_one v
    have hread := hlaw.value v (value?_intText v)
    rw [htrunc] at hread
    rw [htext]
    exact hread hfit
  · obtain ⟨integer, fraction, hne, hinteger, hfraction, hlen, hsum, htext⟩ :=
      formatDecimalText_intText v hpos
    obtain ⟨hhead, hparse⟩ := parseInt?_minusText (v := v) hne hinteger
    have hf : fraction ≠ [] := by
      rintro rfl
      have hnil : ([] : List Char).length = 0 := rfl
      omega
    have hsplit : (minusText v ++ (integer ++ '.' :: fraction)).splitOn '.' =
        [minusText v ++ integer, fraction] := by
      have hpoint : '.' ∉ minusText v ++ integer := by
        rw [List.mem_append, not_or]
        refine ⟨?_, hinteger.ne rfl⟩
        unfold minusText
        split <;> decide
      rw [← List.append_assoc, List.splitOn_append_cons_self_of_not_mem hpoint,
        List.splitOn_eq_singleton (hfraction.ne rfl)]
    have hsigned : signedSum (decide (v < 0))
        ((if v < 0 then -(ofDigits integer : ℤ) else ofDigits integer) * 10 ^ scale.val.toNat)
        (ofDigits fraction) = v := by
      have hcast : (ofDigits integer : ℤ) * 10 ^ scale.val.toNat + ofDigits fraction = v.natAbs := by
        exact_mod_cast hsum
      unfold signedSum
      by_cases hv : v < 0
      · rw [if_pos (decide_eq_true hv), if_pos hv, neg_mul]
        omega
      · rw [if_neg (by simpa using hv), if_neg hv]
        omega
    have hlaw : DecimalLaw ov (minusText v ++ (integer ++ '.' :: fraction)) scale := by
      rw [decimalLaw_point h0 h38 hsplit]
      intro n hn hnfit
      exact (fractionRead_of_digits hf hfraction).mpr (by omega)
    have hread := hlaw.value _ (value?_of_point hsplit hparse hf hfraction)
    have hsign := parseInt?_sign hparse
    rw [truncated_withFraction _ _ _ hsign, hhead, hlen, Nat.mul_div_cancel _ (by positivity),
      hsigned] at hread
    rw [htext]
    exact hread hfit

end Writing

/-! ### The parser and the law -/

/-- **Where the parser of decimals keeps to its law.** -/
theorem decimalLaw_iff {ov : Overflow} {scale : SInt 8} (h0 : 0 ≤ scale.val)
    (h38 : scale.val ≤ 38) (text : List Char) :
    DecimalLaw ov text scale ↔ DecimalRead text scale := by
  unfold DecimalRead
  rcases hpieces : text.splitOn '.' with _ | ⟨i, _ | ⟨f, _ | ⟨x, rest⟩⟩⟩
  · exact absurd hpieces (List.splitOn_ne_nil '.' text)
  · exact iff_of_true (decimalLaw_of_singleton h0 h38 hpieces) fun _ _ _ h => (nomatch h)
  · rw [decimalLaw_point h0 h38 hpieces]
    constructor
    · rintro h _ _ n ⟨⟩
      exact h n
    · exact fun h n => h i f n rfl
  · refine iff_of_true (decimalLaw_of_fail (parseDecimalToI128_of_parts_none ?_) fun q hq => ?_)
      fun _ _ _ h => (nomatch h)
    · unfold pointParts?
      rw [hpieces]
    · rw [value?_eq, hpieces] at hq
      cases hq

/-- **The parser keeps to its law exactly of the texts whose fraction is read**, and reads what
is written. -/
theorem decimals_read (ov : Overflow) (scale : SInt 8) (h0 : 0 ≤ scale.val)
    (h38 : scale.val ≤ 38) :
    (∀ text, DecimalLaw ov text scale ↔ DecimalRead text scale) ∧
      ∀ v : ℤ, |v| < 10 ^ 38 →
        Yields (parseDecimalToI128 ov (formatDecimalText (intText v) scale) scale) v :=
  ⟨decimalLaw_iff h0 h38, fun _ hv => parseDecimalToI128_formatDecimalText hv h0 h38⟩

theorem decimals_read_witness :
    (DecimalLaw .panics "-12.345".toList 2 ↔
      DecimalRead "-12.345".toList 2) ∧
    Yields (parseDecimalToI128 .panics
      (formatDecimalText (intText (-5)) 2)
        2) (-5) :=
  have h := decimals_read .panics 2 (by decide) (by decide)
  ⟨h.1 _, h.2 (-5) (by norm_num)⟩

/-- **Three texts that are misread**: a fraction of which the scale leaves nothing, a point with
nothing behind it and a sign behind the point. -/
theorem decimals_misread :
    ¬DecimalLaw .panics "1.5".toList 0 ∧
    ¬DecimalLaw .panics "1.".toList 2 ∧
    ¬DecimalLaw .panics "1.+5".toList 2 := by
  have haccepted {text : List Char} {scale : SInt 8} (hnone : value? text = none)
      (h : (parseDecimalToI128 .panics text scale).toOption.isSome = true) :
      ¬DecimalLaw .panics text scale := by
    intro hlaw
    obtain ⟨e, he⟩ := hlaw.rejects hnone
    rw [he] at h
    cases h
  refine ⟨fun hlaw => ?_, haccepted (by decide +kernel) (by decide +kernel),
    haccepted (by decide +kernel) (by decide +kernel)⟩
  obtain ⟨a, ha, -⟩ := hlaw.value (3 / 2) (by decide +kernel) (by decide +kernel)
  have hfail : (parseDecimalToI128 .panics "1.5".toList
      0).toOption.isSome = false := by decide +kernel
  rw [ha] at hfail
  cases hfail

end Exarrow
