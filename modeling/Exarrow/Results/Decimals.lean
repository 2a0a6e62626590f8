import Exarrow.DecimalText
import Exarrow.Foundations.Products
import Exarrow.Results.Columns

/-!
# Decimal columns of JSON results

A value of a decimal column is scaled by the path that its shape asks for
(`Exarrow.ResultSet.scaleToDecimal`): a text is read in 128 bits, an integer of 64 bits is
multiplied in 64, and a larger one goes through a float. It should come out as its value
times ten to the scale, without what is left of it behind the point, if that has no more
digits than the precision; and a text that is no decimal should be an error. So
`Exarrow.ResultSet.ScalesExactly` says.

The texts are read as the other parser of decimals reads them
(`Exarrow.ResultSet.parseStringToDecimal_sameOutcome`), with its gaps. A product that fits
the precision may not fit 64 bits, and a float has 53 binary digits. **The law holds exactly
of the values of `Exarrow.ResultSet.ScaleReads`** (`Exarrow.ResultSet.scalesExactly_iff`).
-/

namespace Exarrow

open Machine Ieee Checked Numeral

/-! ### Two ways with the same outcome -/

/-- Two computations give the same, and both give an error or neither does. -/
structure SameOutcome {ε δ α : Type} (x : Exec ε α) (y : Exec δ α) : Prop where
  ok : ∀ a, x = .ok a ↔ y = .ok a
  fails : (∃ e, x = fail e) ↔ ∃ e, y = fail e

section Outcomes

variable {ε δ α : Type} {x : Exec ε α} {y : Exec δ α}

theorem SameOutcome.of_fail (hx : ∃ e, x = fail e) (hy : ∃ e, y = fail e) : SameOutcome x y := by
  obtain ⟨e, rfl⟩ := hx
  obtain ⟨d, rfl⟩ := hy
  refine ⟨fun a => ⟨?_, ?_⟩, fun _ => ⟨d, rfl⟩, fun _ => ⟨e, rfl⟩⟩
  · intro h
    cases h
  · intro h
    cases h

theorem SameOutcome.of_ok (a : α) : SameOutcome (.ok a : Exec ε α) (.ok a : Exec δ α) := by
  refine ⟨fun b => ⟨?_, ?_⟩, ?_, ?_⟩
  · rintro ⟨⟩
    rfl
  · rintro ⟨⟩
    rfl
  · rintro ⟨e, h⟩
    cases h
  · rintro ⟨e, h⟩
    cases h

theorem SameOutcome.of_stop : SameOutcome (stop : Exec ε α) (stop : Exec δ α) := by
  refine ⟨fun b => ⟨?_, ?_⟩, ?_, ?_⟩
  · intro h
    cases h
  · intro h
    cases h
  · rintro ⟨e, h⟩
    cases h
  · rintro ⟨e, h⟩
    cases h

/-- An absent value is an error on both sides, and one that is there is passed on. -/
theorem SameOutcome.of_orFail {β : Type} (e : ε) (d : δ) (o : Option β) {f : β → Exec ε α}
    {g : β → Exec δ α} (h : ∀ b, o = some b → SameOutcome (f b) (g b)) :
    SameOutcome (orFail e o >>= f) (orFail d o >>= g) := by
  cases o with
  | none => exact .of_fail ⟨e, rfl⟩ ⟨d, rfl⟩
  | some b => exact h b rfl

theorem SameOutcome.orFail (e : ε) (d : δ) (o : Option α) :
    SameOutcome (orFail e o) (orFail d o) := by
  cases o with
  | none => exact .of_fail ⟨e, rfl⟩ ⟨d, rfl⟩
  | some a => exact .of_ok a

/-- What one of two ways yields, the other does. -/
theorem SameOutcome.yields {w : ℕ} {x : Exec ε (SInt w)} {y : Exec δ (SInt w)}
    (h : SameOutcome x y) (n : ℤ) : Yields x n ↔ Yields y n :=
  exists_congr fun a => and_congr_left fun _ => h.ok a

end Outcomes

namespace ResultSet

/-! ### Texts -/

section Texts

variable {ov : Overflow} {text i f : List Char} {scale : SInt 8} {n : SInt 128}

/-- A text without the parts of a decimal. -/
theorem parseStringToDecimal_of_parts_none (h : pointParts? text = none) :
    ∃ e, parseStringToDecimal ov text scale = fail e := by
  unfold parseStringToDecimal
  split
  · exact ⟨_, rfl⟩
  · rw [decimalParts_eq, h]
    exact ⟨_, rfl⟩

/-- A text with no number in front of the point. -/
theorem parseStringToDecimal_of_integer_none (h : pointParts? text = some (i, f))
    (hi : parseSigned? 128 i = none) : ∃ e, parseStringToDecimal ov text scale = fail e := by
  unfold parseStringToDecimal
  split
  · exact ⟨_, rfl⟩
  · rw [decimalParts_eq, h]
    dsimp only
    rw [orFail_some, ok_bind]
    dsimp only
    rw [hi, orFail_none, fail_bind]
    exact ⟨_, rfl⟩

/-- A text with a number in front of the point is not empty. -/
theorem ne_nil_of_parts (h : pointParts? text = some (i, f)) (hi : parseSigned? 128 i = some n) :
    text ≠ [] := by
  rintro rfl
  have hparts : pointParts? [] = some ([], []) := rfl
  obtain ⟨rfl, rfl⟩ := Prod.mk.inj (Option.some.inj (h.symm.trans hparts))
  have hnone : parseSigned? 128 [] = none := rfl
  rw [hnone] at hi
  cases hi

/-- A number that is too large for the scale. -/
theorem parseStringToDecimal_of_not_fits (h : pointParts? text = some (i, f))
    (hi : parseSigned? 128 i = some n) (h0 : 0 ≤ scale.val) (h38 : scale.val ≤ 38)
    (hfits : ¬SInt.Fits 128 (n.val * 10 ^ scale.val.toNat)) :
    ∃ e, parseStringToDecimal ov text scale = fail e := by
  obtain ⟨hsize, -⟩ := scale_sizes h0
  obtain ⟨p, hp, hval⟩ := @pow10_eq_ok ov DecimalParseFailure scale.val.toNat (by omega)
  have hmul : checkedMul n p = none := by
    rw [checkedMul, hval]
    exact SInt.ofInt?_eq_none.mpr hfits
  unfold parseStringToDecimal
  rw [if_neg (ne_nil_of_parts h hi), decimalParts_eq, h, hsize]
  refine ⟨.outOfRange "Decimal overflow", ?_⟩
  dsimp only
  rw [orFail_some, ok_bind]
  dsimp only
  rw [hi, orFail_some, ok_bind, hp, ok_bind, hmul]
  rfl

/-- **What is made of a number and of what is behind the point**: the fraction is negated
where the other parser subtracts it. -/
theorem parseStringToDecimal_parts (h : pointParts? text = some (i, f))
    (hi : parseSigned? 128 i = some n) (h0 : 0 ≤ scale.val) (h38 : scale.val ≤ 38)
    (hfits : SInt.Fits 128 (n.val * 10 ^ scale.val.toNat)) :
    parseStringToDecimal ov text scale =
      if f = [] then .ok ⟨_, hfits.1, hfits.2⟩
      else match Text.takeBytes? (min (Text.byteLen f) scale.val.toNat) f with
        | none => stop
        | some digits => orFail (.invalid s!"Invalid decimal part: {str f}")
            (parseSigned? 128 digits) >>= fun v =>
              orFail (.outOfRange "Decimal overflow") (SInt.ofInt? 128
                (signedSum (i.head? == some '-') (n.val * 10 ^ scale.val.toNat)
                  (v.val * 10 ^ (scale.val.toNat - Text.byteLen digits)))) := by
  obtain ⟨hsize, hsize'⟩ := scale_sizes h0
  have hscale : scale.val.toNat ≤ 38 := by omega
  obtain ⟨p, hp, hval⟩ := @pow10_eq_ok ov DecimalParseFailure scale.val.toNat hscale
  have hmul : checkedMul n p = some ⟨_, hfits.1, hfits.2⟩ := by
    rw [checkedMul, hval]
    exact ofInt?_mem hfits.1 hfits.2
  unfold parseStringToDecimal
  rw [if_neg (ne_nil_of_parts h hi), decimalParts_eq, h, hsize, hsize']
  generalize scale.val.toNat = size at *
  dsimp only
  rw [orFail_some, ok_bind]
  dsimp only
  rw [hi, orFail_some, ok_bind, hp, ok_bind, hmul, orFail_some, ok_bind]
  split
  · rfl
  rcases htake : Text.takeBytes? (min (Text.byteLen f) size) f with _ | digits
  · rfl
  have hlen := Text.byteLen_takeBytes? htake
  have hdigits : Text.byteLen digits ≤ size := hlen ▸ Nat.min_le_right _ _
  dsimp only
  rw [← hlen, Nat.mod_eq_of_lt (by omega : size - Text.byteLen digits < 2 ^ 32)]
  rcases hv : parseSigned? 128 digits with _ | v
  · rw [orFail_none, fail_bind, fail_bind]
  obtain ⟨q, hq, hqval⟩ := @pow10_eq_ok ov DecimalParseFailure (size - Text.byteLen digits) (by omega)
  have hscaled := fits_scaled hscale hdigits hv
  obtain ⟨x, hx, hxval⟩ : Yields (mul ov v q : Exec DecimalParseFailure (SInt 128)) _ :=
    yields_mul rfl hqval hscaled.1 hscaled.2
  rw [orFail_some, ok_bind, ok_bind, hq, ok_bind, hx, ok_bind]
  unfold signedSum
  rw [← hxval]
  by_cases hminus : i.head? = some '-'
  · -- What is scaled is far from the bounds, and has a negation.
    have habs := natAbs_scaled_lt hscale hdigits hv
    obtain ⟨y, hy, hyval⟩ := @yields_fit DecimalParseFailure 128 ov _ (-x.val)
      (by rw [hxval]; norm_num at habs ⊢; omega) (by rw [hxval]; norm_num at habs ⊢; omega)
    have hneg : (neg ov x : Exec DecimalParseFailure (SInt 128)) = .ok y := hy
    rw [if_pos hminus, hneg, ok_bind, if_pos (beq_iff_eq.mpr hminus), sub_eq_add_neg, ← hyval]
    rfl
  · rw [if_neg hminus, if_neg fun h => hminus (beq_iff_eq.mp h)]
    rfl

/-- **The two parsers of decimal texts give the same**, but for the texts of their errors. -/
theorem parseStringToDecimal_sameOutcome (h0 : 0 ≤ scale.val) (h38 : scale.val ≤ 38) :
    SameOutcome (parseStringToDecimal ov text scale) (parseDecimalToI128 ov text scale) := by
  rcases hparts : pointParts? text with _ | ⟨i, f⟩
  · exact .of_fail (parseStringToDecimal_of_parts_none hparts)
      (parseDecimalToI128_of_parts_none hparts)
  rcases hi : parseSigned? 128 i with _ | n
  · exact .of_fail (parseStringToDecimal_of_integer_none hparts hi)
      (parseDecimalToI128_of_integer_none hparts hi)
  by_cases hfits : SInt.Fits 128 (n.val * 10 ^ scale.val.toNat)
  swap
  · exact .of_fail (parseStringToDecimal_of_not_fits hparts hi h0 h38 hfits)
      (parseDecimalToI128_of_not_fits hparts hi h0 h38 hfits)
  rw [parseStringToDecimal_parts hparts hi h0 h38 hfits,
    parseDecimalToI128_parts hparts hi h0 h38 hfits]
  by_cases hf : f = []
  · rw [if_pos hf, if_pos hf]
    exact .of_ok _
  rw [if_neg hf, if_neg hf]
  cases Text.takeBytes? (min (Text.byteLen f) scale.val.toNat) f with
  | none => exact .of_stop
  | some digits => exact .of_orFail _ _ _ fun v _ => .orFail _ _ _

end Texts

/-! ### The law -/

/-- The number that a value of a decimal column is: an integer, or a decimal text. -/
def decimalValue? : Json.Value → Option ℚ
  | .number (.posInt n _) => some n
  | .number (.negInt n _) => some n.val
  | .string text => value? text.toList
  | _ => none

/-- A number has no more digits than a decimal type of the precision and the scale. -/
def FitsDecimal (precision scale : ℕ) (q : ℚ) : Prop :=
  |truncated (q * 10 ^ scale)| < 10 ^ precision

/-- **What a decimal column should hold**: a number that fits comes out as it is, scaled and cut,
and a text that is no decimal is an error. -/
structure ScalesExactly (pf : Platform) (precision : ℕ) (scale : SInt 8) (v : Json.Value) :
    Prop where
  /-- A number that fits is scaled. -/
  value : ∀ q, decimalValue? v = some q → FitsDecimal precision scale.val.toNat q →
    ∃ r : SInt 128, scaleToDecimal pf v scale = .ok (some r) ∧
      r.val = truncated (q * 10 ^ scale.val.toNat)
  /-- A text that is no decimal is an error. -/
  rejects : ∀ text, v = .string text → value? text.toList = none →
    ∃ e, scaleToDecimal pf v scale = fail e

/-! ### Where it holds -/

/-- The product of an integer fits 64 bits, and so does the power of ten, where this is
checked. -/
def ProductFits (ov : Overflow) (i : ℤ) (scale : ℕ) : Prop :=
  SInt.Fits 64 (i * 10 ^ scale) ∧ (ov = .panics → scale ≤ 18)

/-- The product of an integer has no more binary digits than a float, and the power of ten is
exact. -/
def FloatProductExact (power : F64) (n scale : ℕ) : Prop :=
  F64.IsDyadic ((n * 10 ^ scale : ℕ) : ℚ) ∧ power.isSpecial = false ∧ power.toRat = 10 ^ scale

/-- What is behind the point of a text is read, or it is digits behind a number that is too
large. -/
def TextReads (precision scale : ℕ) (text : List Char) : Prop :=
  ∀ i f n, text.splitOn '.' = [i, f] → parseSigned? 128 i = some n →
    SInt.Fits 128 (n.val * 10 ^ scale) →
      FractionRead (i.head? == some '-') n.val f scale ∨
        f ≠ [] ∧ AllDigits f ∧ 10 ^ precision ≤ |n.val|

/-- The values of which the law holds. -/
def ScaleReads (pf : Platform) (precision : ℕ) (scale : SInt 8) : Json.Value → Prop
  | .number (.posInt n _) => n * 10 ^ scale.val.toNat < 10 ^ precision →
    if n < 2 ^ 63 then ProductFits pf.overflow n scale.val.toNat
    else FloatProductExact (pf.powi10 (scale.extend 32 SInt.le_8_32)) n scale.val.toNat
  | .number (.negInt n _) => |n.val| * 10 ^ scale.val.toNat < 10 ^ precision →
    ProductFits pf.overflow n.val scale.val.toNat
  | .string text => TextReads precision scale.val.toNat text.toList
  | _ => True

section Law

variable {pf : Platform} {precision : ℕ} {scale : SInt 8}

/-- The part that a sum with a sign is farther from zero than. -/
theorem abs_le_abs_signedSum {negative : Bool} {x y : ℤ}
    (hx : if negative = true then x ≤ 0 else 0 ≤ x) (hy : 0 ≤ y) :
    |x| ≤ |signedSum negative x y| := by
  unfold signedSum
  rcases negative with _ | _
  · rw [if_neg Bool.false_ne_true] at hx ⊢
    rw [abs_of_nonneg hx, abs_of_nonneg (by omega)]
    omega
  · rw [if_pos rfl] at hx ⊢
    rw [abs_of_nonpos hx, abs_of_nonpos (by omega)]
    omega

/-- A number that fits a decimal type fits 128 bits. -/
theorem FitsDecimal.fits {s : ℕ} {q : ℚ} (h : FitsDecimal precision s q) (hp : precision ≤ 38) :
    SInt.Fits 128 (truncated (q * 10 ^ s)) := by
  have hbound : (10 : ℤ) ^ precision ≤ 10 ^ 38 := pow_le_pow_right₀ (by norm_num) hp
  obtain ⟨h1, h2⟩ := abs_lt.mp h
  generalize truncated (q * 10 ^ s) = x at *
  generalize (10 : ℤ) ^ precision = bound at *
  unfold SInt.Fits
  norm_num at hbound ⊢
  omega

/-- The law of a text, told by the other parser. -/
theorem scalesExactly_string_iff (h0 : 0 ≤ scale.val) (h38 : scale.val ≤ 38) (text : String) :
    ScalesExactly pf precision scale (.string text) ↔
      (∀ q, value? text.toList = some q → FitsDecimal precision scale.val.toNat q →
        Yields (parseDecimalToI128 pf.overflow text.toList scale)
          (truncated (q * 10 ^ scale.val.toNat))) ∧
      (value? text.toList = none →
        ∃ e, parseDecimalToI128 pf.overflow text.toList scale = fail e) := by
  have hsame := @parseStringToDecimal_sameOutcome pf.overflow text.toList scale h0 h38
  have hcode : scaleToDecimal pf (.string text) scale =
      parseStringToDecimal pf.overflow text.toList scale >>= fun r => .ok (some r) := rfl
  have hyields (n : ℤ) : (∃ r : SInt 128, scaleToDecimal pf (.string text) scale = .ok (some r) ∧
      r.val = n) ↔ Yields (parseDecimalToI128 pf.overflow text.toList scale) n := by
    rw [← hsame.yields, hcode]
    constructor
    · rintro ⟨r, hr, hn⟩
      obtain ⟨a, ha, hra⟩ := bind_eq_ok.mp hr
      obtain rfl : a = r := Option.some.inj (Except.ok.inj hra)
      exact ⟨a, ha, hn⟩
    · rintro ⟨a, ha, hn⟩
      exact ⟨a, by rw [ha, ok_bind], hn⟩
  have hfails : (∃ e, scaleToDecimal pf (.string text) scale = fail e) ↔
      ∃ e, parseDecimalToI128 pf.overflow text.toList scale = fail e := by
    rw [← hsame.fails, hcode]
    constructor
    · rintro ⟨e, he⟩
      rcases hx : parseStringToDecimal pf.overflow text.toList scale with e' | a
      · rw [hx] at he
        exact ⟨e, congrArg Except.error (Except.error.inj he)⟩
      · rw [hx, ok_bind] at he
        cases he
    · rintro ⟨e, he⟩
      exact ⟨e, by rw [he, fail_bind]⟩
  constructor
  · rintro ⟨hvalue, hrejects⟩
    exact ⟨fun q hq hfit => (hyields _).mp (hvalue q hq hfit),
      fun hnone => hfails.mp (hrejects text rfl hnone)⟩
  · rintro ⟨hvalue, hrejects⟩
    refine ⟨fun q hq hfit => (hyields _).mpr (hvalue q hq hfit), ?_⟩
    rintro _ ⟨⟩ hnone
    exact hfails.mpr (hrejects hnone)

/-- **The law of a text.** -/
theorem scalesExactly_text (hp : precision ≤ 36) (h0 : 0 ≤ scale.val)
    (hsp : scale.val ≤ precision) (text : String) :
    ScalesExactly pf precision scale (.string text) ↔
      TextReads precision scale.val.toNat text.toList := by
  have h38 : scale.val ≤ 38 := by omega
  rw [scalesExactly_string_iff h0 h38]
  generalize text.toList = s
  have hlaw := @decimalLaw_iff pf.overflow scale h0 h38 s
  constructor
  · rintro ⟨hvalue, hrejects⟩ i f n hsplit hi hfits
    have hx := parseInt?_of_parseSigned? hi
    by_cases hdigits : f ≠ [] ∧ AllDigits f
    · obtain ⟨hf, hdigits⟩ := hdigits
      rcases Nat.eq_zero_or_pos scale.val.toNat with hzero | hpos
      swap
      · exact .inl ((fractionRead_of_digits hf hdigits).mpr hpos)
      refine .inr ⟨hf, hdigits, ?_⟩
      by_contra hlt
      -- At the scale zero the digits are an error, though the number fits.
      have hq := value?_of_point hsplit hx hf hdigits
      have htrunc := truncated_withFraction (ofDigits f) f.length scale.val.toNat
        (parseInt?_sign hx)
      have hone : ofDigits f * 10 ^ 0 / 10 ^ f.length = 0 := by
        rw [pow_zero, mul_one]
        exact Nat.div_eq_of_lt (ofDigits_lt hdigits)
      have hsum : signedSum (i.head? == some '-') (n.val * 10 ^ 0) ((0 : ℕ) : ℤ) = n.val := by
        unfold signedSum
        split <;> simp
      rw [hzero, hone, hsum] at htrunc
      have hread := hvalue _ hq (by
        unfold FitsDecimal
        rw [hzero, htrunc]
        exact not_le.mp hlt)
      have hD : DecimalLaw pf.overflow s scale := by
        refine ⟨fun q hq' _ => ?_, fun hnone => ?_⟩
        · obtain rfl := Option.some.inj (hq.symm.trans hq')
          exact hread
        · rw [hq] at hnone
          cases hnone
      have hpos := (decimalLaw_of_digits h0 h38 hsplit hi hfits hf hdigits).mp hD
      omega
    · have hnone := value?_of_point_eq_none hsplit (.inr (by tauto) : parseInt? i = none ∨ _)
      exact .inl (hlaw.mp ((decimalLaw_iff_of_none hnone).mpr (hrejects hnone)) i f n hsplit hi hfits)
  · intro hreads
    by_cases hD : DecimalLaw pf.overflow s scale
    · exact ⟨fun q hq hfit => hD.value q hq (hfit.fits (by omega)), hD.rejects⟩
    · -- The law of the other parser is broken by a number that is too large here.
      rw [hlaw] at hD
      unfold DecimalRead at hD
      push Not at hD
      obtain ⟨i, f, n, hsplit, hi, hfits, hnot⟩ := hD
      obtain ⟨hf, hdigits, hlarge⟩ := (hreads i f n hsplit hi hfits).resolve_left hnot
      have hx := parseInt?_of_parseSigned? hi
      have hq := value?_of_point hsplit hx hf hdigits
      refine ⟨fun q hq' hfit => ?_, fun hnone => ?_⟩
      · obtain rfl := Option.some.inj (hq.symm.trans hq')
        have hsign := parseInt?_sign hx
        unfold FitsDecimal at hfit
        rw [truncated_withFraction _ _ _ hsign] at hfit
        have hle := abs_le_abs_signedSum (sign_mul_pow hsign scale.val.toNat)
          (Int.natCast_nonneg (ofDigits f * 10 ^ scale.val.toNat / 10 ^ f.length))
        have hpow : (1 : ℤ) ≤ 10 ^ scale.val.toNat := one_le_pow₀ (by norm_num)
        rw [abs_mul, abs_of_pos (by positivity : (0 : ℤ) < 10 ^ scale.val.toNat)] at hle
        have hgrow := le_mul_of_one_le_right (abs_nonneg n.val) hpow
        omega
      · rw [hq] at hnone
        cases hnone

/-- An integer is a number without a fraction. -/
theorem fitsDecimal_intCast {s : ℕ} (i : ℤ) :
    FitsDecimal precision s (i : ℚ) ↔ |i| * 10 ^ s < 10 ^ precision := by
  unfold FitsDecimal
  rw [truncated_intCast, abs_mul, abs_of_pos (by positivity : (0 : ℤ) < 10 ^ s)]

/-- The law of a number, which is no text. -/
theorem scalesExactly_number_iff {n : Json.Number} {i : ℤ}
    (hq : decimalValue? (.number n) = some (i : ℚ)) :
    ScalesExactly pf precision scale (.number n) ↔
      (|i| * 10 ^ scale.val.toNat < 10 ^ precision →
        ∃ r : SInt 128, scaleToDecimal pf (.number n) scale = .ok (some r) ∧
          r.val = i * 10 ^ scale.val.toNat) := by
  constructor
  · intro h hfit
    have hread := h.value i hq ((fitsDecimal_intCast i).mpr hfit)
    rwa [truncated_intCast] at hread
  · intro h
    refine ⟨fun q hq' hfit => ?_, ?_⟩
    · obtain rfl := Option.some.inj (hq.symm.trans hq')
      rw [truncated_intCast]
      exact h ((fitsDecimal_intCast i).mp hfit)
    · intro text htext
      cases htext

/-- **The product in 64 bits.** -/
theorem scaleToDecimal_asI64 {n : Json.Number} {i : SInt 64} (hi : n.asI64 = some i)
    (h0 : 0 ≤ scale.val) :
    (∃ r : SInt 128, scaleToDecimal pf (.number n) scale = .ok (some r) ∧
      r.val = i.val * 10 ^ scale.val.toNat) ↔
    ProductFits pf.overflow i.val scale.val.toNat := by
  obtain ⟨hsize, -⟩ := scale_sizes h0
  have hcode : scaleToDecimal pf (.number n) scale =
      (fit pf.overflow (10 ^ scale.val.toNat) >>= fun power => mul pf.overflow i power) >>=
        fun product : SInt 64 => .ok (some (product.extend 128 SInt.le_64_128)) := by
    have hs : (Json.Value.number n).asStr = none := rfl
    have hv : (Json.Value.number n).asI64 = some i := hi
    unfold scaleToDecimal
    rw [hs]
    dsimp only
    rw [hv, hsize, bind_assoc]
    rfl
  have hpow (hs : SInt.Fits 64 (10 ^ scale.val.toNat)) : scale.val.toNat ≤ 18 := by
    by_contra hlarge
    have hle : (10 : ℤ) ^ 19 ≤ 10 ^ scale.val.toNat := pow_le_pow_right₀ (by norm_num) (by omega)
    have hlt := hs.2
    norm_num at hle hlt
    omega
  have hfits (hs : scale.val.toNat ≤ 18) : SInt.Fits 64 (10 ^ scale.val.toNat) := by
    have hle : (10 : ℤ) ^ scale.val.toNat ≤ 10 ^ 18 := pow_le_pow_right₀ (by norm_num) hs
    have hpos : (0 : ℤ) < 10 ^ scale.val.toNat := by positivity
    unfold SInt.Fits
    generalize (10 : ℤ) ^ scale.val.toNat = b at *
    norm_num at hle ⊢
    omega
  have hproduct := @yields_mul_fit_iff DecimalParseFailure 64 _ pf.overflow
    (10 ^ scale.val.toNat) i
  unfold ProductFits
  rw [hcode]
  constructor
  · rintro ⟨r, hr, hval⟩
    obtain ⟨product, hp, hext⟩ := bind_eq_ok.mp hr
    obtain rfl := Option.some.inj (Except.ok.inj hext)
    obtain ⟨h1, h2⟩ := hproduct.mp ⟨product, hp, hval⟩
    exact ⟨h1, fun hov => hpow (h2 hov)⟩
  · rintro ⟨h1, h2⟩
    obtain ⟨product, hp, hval⟩ := hproduct.mpr ⟨h1, fun hov => hfits (h2 hov)⟩
    exact ⟨product.extend 128 SInt.le_64_128, by rw [hp, ok_bind], hval⟩

/-- **The product through a float.** -/
theorem castToI128_mul_iff {n s : ℕ} {power : F64} (hn : 2 ^ 63 ≤ n)
    (hlt : n * 10 ^ s + 1 < 2 ^ 127) :
    (castToI128 ((F64.ofInt n).mul power)).val = (n : ℤ) * 10 ^ s ↔
      FloatProductExact power n s := by
  have hten : 1 ≤ 10 ^ s := Nat.one_le_pow _ _ (by norm_num)
  have hge : 2 ^ 63 ≤ n * 10 ^ s := le_trans hn (Nat.le_mul_of_pos_right n hten)
  -- The integer and the power are floats if the product is.
  have hparts (hd : F64.IsDyadic ((n * 10 ^ s : ℕ) : ℚ)) : F64.IsDyadic (n : ℚ) ∧
      F64.IsDyadic ((10 ^ s : ℕ) : ℚ) := by
    have hbound : n * 10 ^ s < 2 ^ 200 :=
      lt_trans (Nat.lt_of_succ_lt hlt) (by norm_num)
    exact ⟨F64.isDyadic_of_dvd (Dvd.intro _ rfl) (by omega) hbound hd,
      F64.isDyadic_of_dvd (Dvd.intro_left _ rfl) (by omega) hbound hd⟩
  have hofInt (hd : F64.IsDyadic (n : ℚ)) : (F64.ofInt n).magnitude = n ∧
      (F64.ofInt n).isSpecial = false ∧ (F64.ofInt n).neg = false := by
    have h := F64.ofRat_of_isDyadic (q := |((n : ℤ) : ℚ)|)
      (by rw [Int.cast_natCast, abs_of_nonneg (Nat.cast_nonneg n)]; exact hd) (abs_nonneg _)
      (decide ((n : ℤ) < 0))
    rw [Int.cast_natCast, abs_of_nonneg (Nat.cast_nonneg n),
      decide_eq_false (not_lt.mpr (Int.natCast_nonneg n))] at h
    unfold F64.ofInt
    rwa [Int.cast_natCast, abs_of_nonneg (Nat.cast_nonneg n),
      decide_eq_false (not_lt.mpr (Int.natCast_nonneg n))]
  have hcast : ((10 ^ s : ℕ) : ℚ) = 10 ^ s := by push_cast; rfl
  have hprod : ((n * 10 ^ s : ℕ) : ℚ) = n * 10 ^ s := by push_cast; rfl
  have hone : (1 : ℚ) ≤ n := by exact_mod_cast le_trans (by norm_num : 1 ≤ 2 ^ 63) hn
  have hone' : (1 : ℚ) ≤ ((10 ^ s : ℕ) : ℚ) := by exact_mod_cast hten
  have hlt' : (n : ℤ) * 10 ^ s + 1 < 2 ^ 127 := by exact_mod_cast hlt
  have hge' : (2 : ℤ) ^ 63 ≤ (n : ℤ) * 10 ^ s := by exact_mod_cast hge
  constructor
  · intro h
    change ((F64.ofInt n).mul power).toIntSat (-2 ^ 127) (2 ^ 127 - 1) = _ at h
    -- The bounds of 128 bits are not reached.
    have hs : ((F64.ofInt n).mul power).isSpecial = false := by
      by_contra hspecial
      rw [Bool.not_eq_false] at hspecial
      unfold F64.toIntSat at h
      rw [hspecial, if_pos rfl] at h
      split_ifs at h <;> omega
    rw [F64.toIntSat_of_isFinite hs] at h
    have htrunc : ((F64.ofInt n).mul power).trunc = (n : ℤ) * 10 ^ s := by omega
    have hnonneg := Int.floor_nonneg.mpr (F64.magnitude_nonneg hs)
    have hfloor : ((F64.ofInt n).mul power).neg = false ∧
        ⌊((F64.ofInt n).mul power).magnitude⌋ = (n : ℤ) * 10 ^ s := by
      unfold F64.trunc at htrunc
      cases hneg : ((F64.ofInt n).mul power).neg with
      | false =>
        rw [hneg, if_neg Bool.false_ne_true] at htrunc
        exact ⟨rfl, htrunc⟩
      | true =>
        rw [hneg, if_pos rfl] at htrunc
        omega
    obtain ⟨hneg, hfloor⟩ := hfloor
    have hmag : ((F64.ofInt n).mul power).magnitude = ((n * 10 ^ s : ℕ) : ℚ) := by
      have hle := Int.floor_le ((F64.ofInt n).mul power).magnitude
      rw [hfloor] at hle
      have hlarge : (2 : ℚ) ^ 53 ≤ ((F64.ofInt n).mul power).magnitude := by
        refine le_trans (le_trans (by norm_num : (2 : ℚ) ^ 53 ≤ ((2 ^ 63 : ℤ) : ℚ)) ?_) hle
        exact_mod_cast hge'
      rw [← (F64.isDyadic_magnitude hs).floor_eq hlarge, hfloor]
      push_cast
      rfl
    have hd : F64.IsDyadic ((n * 10 ^ s : ℕ) : ℚ) := hmag ▸ F64.isDyadic_magnitude hs
    obtain ⟨hdn, hdp⟩ := hparts hd
    obtain ⟨hm, hsn, hnn⟩ := hofInt hdn
    have hsp : power.isSpecial = false := by
      by_contra hspecial
      rw [Bool.not_eq_false] at hspecial
      rw [F64.mul_of_special hspecial] at hs
      cases hs
    have hpower := (F64.magnitude_mul_eq_iff hsn hsp (by rw [hm]; exact hone) hone' hdp
      (by rw [hm, hcast, ← hprod]; exact hd)).mp ⟨hs, by rw [hmag, hm, hprod, hcast]⟩
    -- The sign of the power is the one of the product.
    rw [F64.mul_of_finite hsn hsp, hm, hpower, hcast, ← hprod] at hneg
    rw [(F64.ofRat_of_isDyadic hd (Nat.cast_nonneg _) _).2.2, hnn, Bool.false_bne] at hneg
    refine ⟨hd, hsp, ?_⟩
    rw [F64.toRat_of_neg_eq_false hneg, hpower, hcast]
  · rintro ⟨hd, hsp, hpower⟩
    obtain ⟨hdn, hdp⟩ := hparts hd
    obtain ⟨hm, hsn, hnn⟩ := hofInt hdn
    have hneg : power.neg = false ∧ power.magnitude = 10 ^ s := by
      have h0 := F64.magnitude_nonneg hsp
      have hpos : (0 : ℚ) < 10 ^ s := by positivity
      unfold Pattern.toRat at hpower
      cases hneg : power.neg with
      | false =>
        rw [hneg, if_neg Bool.false_ne_true] at hpower
        exact ⟨rfl, hpower⟩
      | true =>
        rw [hneg, if_pos rfl] at hpower
        linarith
    obtain ⟨hneg, hmag⟩ := hneg
    obtain ⟨h1, h2, h3⟩ := F64.ofRat_of_isDyadic hd (Nat.cast_nonneg _) false
    change ((F64.ofInt n).mul power).toIntSat (-2 ^ 127) (2 ^ 127 - 1) = _
    rw [F64.mul_of_finite hsn hsp, hm, hmag, hnn, hneg, ← hprod, Bool.false_bne,
      F64.toIntSat_of_isFinite h2]
    have htrunc : F64.trunc (Pattern.ofRat 52 11 false ((n * 10 ^ s : ℕ) : ℚ)) =
        (n : ℤ) * 10 ^ s := by
      unfold F64.trunc
      rw [h1, h3, if_neg Bool.false_ne_true, Int.floor_natCast]
      push_cast
      rfl
    rw [htrunc]
    omega

/-- A number that is no integer of 64 bits goes through a float. -/
theorem scaleToDecimal_asF64 {v : Json.Value} {x : F64} (hs : v.asStr = none)
    (hi : v.asI64 = none) (hf : v.asF64 = some x) :
    scaleToDecimal pf v scale =
      .ok (some (castToI128 (x.mul (pf.powi10 (scale.extend 32 SInt.le_8_32))))) := by
  unfold scaleToDecimal
  rw [hs]
  dsimp only
  rw [hi]
  dsimp only
  rw [hf]

/-- A natural number that is larger than 64 bits with a sign is no integer of 64 bits. -/
theorem asI64_large {n : ℕ} {lt : n < 2 ^ 64} (hn : 2 ^ 63 ≤ n) :
    (Json.Value.number (.posInt n lt)).asI64 = none := by
  have hnone : SInt.ofInt? 64 (n : ℤ) = none := by
    refine SInt.ofInt?_eq_none.mpr fun h => ?_
    have hlt := h.2
    norm_num at hn hlt
    omega
  exact hnone

/-- It goes through a float. -/
theorem scaleToDecimal_large {n : ℕ} {lt : n < 2 ^ 64} (hn : 2 ^ 63 ≤ n) :
    scaleToDecimal pf (.number (.posInt n lt)) scale = .ok (some
      (castToI128 ((F64.ofInt n).mul (pf.powi10 (scale.extend 32 SInt.le_8_32))))) :=
  scaleToDecimal_asF64 rfl (asI64_large hn) rfl

/-- A natural number of 64 bits with a sign. -/
def i64OfNat {n : ℕ} (hn : n < 2 ^ 63) : SInt 64 where
  val := n
  ge := le_trans (by norm_num) (Int.natCast_nonneg n)
  lt := by exact_mod_cast hn

theorem val_i64OfNat {n : ℕ} (hn : n < 2 ^ 63) : (i64OfNat hn).val = n := rfl

/-- It is an integer of 64 bits. -/
theorem asI64_small {n : ℕ} {lt : n < 2 ^ 64} (hn : n < 2 ^ 63) :
    (Json.Number.posInt n lt).asI64 = some (i64OfNat hn) := by
  have hsome : SInt.ofInt? 64 (n : ℤ) = some (i64OfNat hn) := SInt.ofInt?_eq_some.mpr rfl
  exact hsome

/-- **The law of a natural number.** -/
theorem scalesExactly_posInt (hp : precision ≤ 36) (h0 : 0 ≤ scale.val) {n : ℕ}
    {lt : n < 2 ^ 64} : ScalesExactly pf precision scale (.number (.posInt n lt)) ↔
      ScaleReads pf precision scale (.number (.posInt n lt)) := by
  have habs : |(n : ℤ)| * 10 ^ scale.val.toNat < 10 ^ precision ↔
      n * 10 ^ scale.val.toNat < 10 ^ precision := by
    rw [abs_of_nonneg (Int.natCast_nonneg n)]
    exact_mod_cast Iff.rfl
  rw [scalesExactly_number_iff (i := (n : ℤ)) (by rw [Int.cast_natCast]; rfl), habs]
  refine imp_congr_right fun hfit => ?_
  by_cases hn : n < 2 ^ 63
  · rw [if_pos hn]
    have hi : (Json.Number.posInt n lt).asI64 = some (i64OfNat hn) := asI64_small hn
    exact scaleToDecimal_asI64 hi h0
  · rw [if_neg hn]
    have hbound : (10 : ℕ) ^ precision ≤ 10 ^ 36 := Nat.pow_le_pow_right (by norm_num) hp
    have hlt : n * 10 ^ scale.val.toNat + 1 < 2 ^ 127 := by
      have hsum := lt_of_lt_of_le hfit hbound
      generalize n * 10 ^ scale.val.toNat = x at hsum
      norm_num at hsum ⊢
      omega
    rw [← castToI128_mul_iff (not_lt.mp hn) hlt, scaleToDecimal_large (not_lt.mp hn)]
    constructor
    · rintro ⟨r, hr, hval⟩
      obtain rfl := Option.some.inj (Except.ok.inj hr)
      exact hval
    · exact fun h => ⟨_, rfl, h⟩

/-- **Which values a decimal column holds exactly**: those whose product fits 64 bits, or, above
the 64 bits of a number with a sign, the digits of a float; and the texts whose fraction is
read. -/
theorem scalesExactly_iff (pf : Platform) (precision : ℕ) (scale : SInt 8) (v : Json.Value)
    (hp : precision ≤ 36) (h0 : 0 ≤ scale.val) (hsp : scale.val ≤ precision) :
    ScalesExactly pf precision scale v ↔ ScaleReads pf precision scale v := by
  have hnothing (hq : decimalValue? v = none) (hs : ∀ text, v ≠ .string text) :
      ScalesExactly pf precision scale v := by
    refine ⟨fun q hq' => ?_, fun text htext => absurd htext (hs text)⟩
    rw [hq] at hq'
    cases hq'
  cases v with
  | null => exact iff_of_true (hnothing rfl (by simp)) trivial
  | bool b => exact iff_of_true (hnothing rfl (by simp)) trivial
  | array items => exact iff_of_true (hnothing rfl (by simp)) trivial
  | object members => exact iff_of_true (hnothing rfl (by simp)) trivial
  | string text => exact scalesExactly_text hp h0 hsp text
  | number n =>
    cases n with
    | posInt n lt => exact scalesExactly_posInt hp h0
    | negInt i neg =>
      rw [scalesExactly_number_iff (i := i.val) rfl]
      exact imp_congr_right fun _ => scaleToDecimal_asI64 rfl h0
    | float f finite => exact iff_of_true (hnothing rfl (by simp)) trivial

/-- A text whose fraction is longer than the scale. -/
theorem scalesExactly_iff_text :
    ScalesExactly checkedPlatform 10 2 (.string "-12.345") := by
  refine (scalesExactly_iff checkedPlatform 10 2 (.string "-12.345") (by norm_num) (by decide)
    (by decide)).mpr ?_
  have hsplit : "-12.345".toList.splitOn '.' = ["-12".toList, "345".toList] := by decide +kernel
  have hdigits : AllDigits "345".toList := by
    unfold AllDigits
    simp
  intro i f n h _ _
  rw [hsplit] at h
  obtain ⟨-, h⟩ := List.cons.inj h
  obtain ⟨rfl, -⟩ := List.cons.inj h
  exact .inl ((fractionRead_of_digits (by simp) hdigits).mpr (by decide))

/-- **A product that fits the column and not 64 bits**, a fraction that the scale leaves nothing
of, and a point with nothing behind it. -/
theorem scalesExactly_gaps :
    ¬ScalesExactly checkedPlatform 20 18 (Json.ofI64 10) ∧
      ¬ScalesExactly checkedPlatform 2 0 (.string "1.5") ∧
      ¬ScalesExactly checkedPlatform 2 1 (.string "1.") := by
  have hread (text : String) (f : List Char) (hsplit : text.toList.splitOn '.' = [['1'], f])
      (precision : ℕ) (scale : SInt 8) (hp : precision ≤ 36) (h0 : 0 ≤ scale.val)
      (hsp : scale.val ≤ precision) (hp1 : 1 ≤ precision)
      (h : ScalesExactly checkedPlatform precision scale (.string text)) :
      FractionRead false 1 f scale.val.toNat := by
    have hone : parseSigned? 128 ['1'] = some 1 := by decide +kernel
    have hfits : SInt.Fits 128 ((1 : SInt 128).val * 10 ^ scale.val.toNat) := by
      have hpow : (10 : ℤ) ^ scale.val.toNat ≤ 10 ^ 36 :=
        pow_le_pow_right₀ (by norm_num) (by omega)
      have hpos : (0 : ℤ) < 10 ^ scale.val.toNat := by positivity
      have hval : (1 : SInt 128).val = 1 := rfl
      rw [hval, one_mul]
      generalize (10 : ℤ) ^ scale.val.toNat = b at *
      unfold SInt.Fits
      norm_num at hpow ⊢
      omega
    rcases (scalesExactly_text hp h0 hsp text).mp h ['1'] f 1 hsplit hone hfits with h | ⟨-, -, h⟩
    · exact h
    · have hten : (10 : ℤ) ^ 1 ≤ 10 ^ precision := pow_le_pow_right₀ (by norm_num) hp1
      have hval : |(1 : SInt 128).val| = 1 := rfl
      rw [hval] at h
      omega
  refine ⟨fun h => ?_, fun h => ?_, fun h => ?_⟩
  · have hvalue : Json.ofI64 10 = .number (.posInt 10 (by norm_num)) := rfl
    have hscale : (18 : SInt 8).val.toNat = 18 := rfl
    have hval : (10 : SInt 64).val = 10 := rfl
    rw [hvalue, scalesExactly_number_iff (i := 10) rfl] at h
    have hfits := (@scaleToDecimal_asI64 checkedPlatform 18 _ 10 rfl (by decide)).mp
      (h (by rw [hscale]; norm_num))
    rw [hscale, hval] at hfits
    have hlt := hfits.1.2
    norm_num at hlt
  · have hf := hread "1.5" ['5'] (by decide +kernel) 2 0 (by norm_num) (by decide) (by decide)
      (by norm_num) h
    have hdigits : AllDigits ['5'] := List.forall_mem_singleton.mpr rfl
    exact absurd (hf.2.1 hdigits) (by decide)
  · have hf := hread "1." [] (by decide +kernel) 2 1 (by norm_num) (by decide) (by decide)
      (by norm_num) h
    exact hf.1 rfl

end Law

end ResultSet

end Exarrow
