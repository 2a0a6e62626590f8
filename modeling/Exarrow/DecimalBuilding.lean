import Exarrow.Agreement
import Exarrow.Results.Decimals

/-!
# Which decimals a decimal column takes

The converter takes a value for a decimal column as its shape allows
(`Exarrow.Builders.parseDecimal`): an integer is multiplied and nothing is checked, a larger
integer goes through a float and its text, and a text is checked for the number of digits
that are written in it. It should take exactly the numbers that have no more digits than the
precision, however they are written, and an integer as a number and as a text alike. So
`Exarrow.Builders.BuildsExactly` says.

**It does so exactly of the values of `Exarrow.Builders.BuildReads`**
(`Exarrow.Builders.buildsExactly_iff`): of the integers of 64 bits that fit, and of the texts
for which the count of their digits agrees with the size of their number.
-/

namespace Exarrow

open Machine Ieee Checked Numeral Arrow ResultSet

namespace Builders

/-! ### Decimal texts -/

section Texts

variable {ov : Overflow} {text : List Char} {scale : SInt 8} {q : ℚ}

/-- The parts of a decimal text: an integer, and perhaps digits behind a point. -/
theorem parts_of_value? (hq : value? text = some q) :
    ('.' ∉ text ∧ ∃ x : ℤ, text.splitOn '.' = [text] ∧ parseInt? text = some x ∧ q = x) ∨
      ('.' ∈ text ∧ ∃ i f x, text.splitOn '.' = [i, f] ∧ parseInt? i = some x ∧ f ≠ [] ∧
        AllDigits f ∧ q = withFraction (i.head? == some '-') x (ofDigits f) f.length) := by
  rw [value?_eq] at hq
  have hjoin : ['.'].intercalate (text.splitOn '.') = text := List.intercalate_splitOn '.'
  rcases hpieces : text.splitOn '.' with _ | ⟨i, _ | ⟨f, _ | ⟨x, rest⟩⟩⟩
  · exact absurd hpieces (List.splitOn_ne_nil '.' text)
  · rw [hpieces] at hq hjoin
    have htext : text = i := by simpa [List.intercalate] using hjoin.symm
    obtain ⟨x, hx, rfl⟩ := Option.map_eq_some_iff.mp hq
    rw [htext]
    exact .inl ⟨F64.point_not_mem_of_parseInt? hx, x, rfl, hx, rfl⟩
  · rw [hpieces] at hq hjoin
    have htext : text = i ++ '.' :: f := by simpa [List.intercalate] using hjoin.symm
    obtain ⟨x, hx, hq⟩ := Option.bind_eq_some_iff.mp hq
    obtain ⟨k, hk, rfl⟩ := Option.map_eq_some_iff.mp hq
    unfold parseNat? at hk
    split at hk
    · rename_i hdigits
      obtain rfl := Option.some.inj hk
      refine .inr ⟨?_, i, f, x, rfl, hx, hdigits.1, hdigits.2, rfl⟩
      rw [htext]
      exact List.mem_append_right _ List.mem_cons_self
    · cases hk
  · rw [hpieces] at hq
    cases hq

/-- A decimal text that can be read is read. -/
theorem yields_of_value? (h0 : 0 ≤ scale.val) (h38 : scale.val ≤ 38) (hq : value? text = some q)
    (hpoint : '.' ∈ text → 0 < scale.val.toNat)
    (hfits : SInt.Fits 128 (truncated (q * 10 ^ scale.val.toNat))) :
    Yields (parseDecimalToI128 ov text scale) (truncated (q * 10 ^ scale.val.toNat)) := by
  refine ((decimalLaw_iff h0 h38 text).mpr ?_).value q hq hfits
  intro i f n hsplit _ _
  rcases parts_of_value? hq with ⟨-, x, hone, -⟩ | ⟨hmem, i', f', x, htwo, -, hf, hdigits, -⟩
  · rw [hsplit] at hone
    cases hone
  · rw [hsplit] at htwo
    obtain ⟨-, htwo⟩ := List.cons.inj htwo
    obtain ⟨rfl, -⟩ := List.cons.inj htwo
    exact (fractionRead_of_digits hf hdigits).mpr (hpoint hmem)

/-- The other decimal texts are errors. -/
theorem fails_of_value? (h0 : 0 ≤ scale.val) (h38 : scale.val ≤ 38) (hq : value? text = some q)
    (h : ('.' ∈ text → 0 < scale.val.toNat) →
      ¬SInt.Fits 128 (truncated (q * 10 ^ scale.val.toNat))) :
    ∃ e, parseDecimalToI128 ov text scale = fail e := by
  rcases parts_of_value? hq with ⟨hmem, x, hone, hx, rfl⟩ |
      ⟨hmem, i, f, x, htwo, hx, hf, hdigits, rfl⟩
  · have hfits := h fun hpoint => absurd hpoint hmem
    rw [truncated_intCast] at hfits
    have hparts : pointParts? text = some (text, []) := by
      unfold pointParts?
      rw [hone]
    rcases hn : parseSigned? 128 text with _ | n
    · exact parseDecimalToI128_of_integer_none hparts hn
    · have hnx : n.val = x := Option.some.inj ((parseInt?_of_parseSigned? hn).symm.trans hx)
      exact parseDecimalToI128_of_not_fits hparts hn h0 h38 (hnx ▸ hfits)
  · have hparts := pointParts?_point htwo
    rcases hn : parseSigned? 128 i with _ | n
    · exact parseDecimalToI128_of_integer_none hparts hn
    obtain rfl : n.val = x := Option.some.inj ((parseInt?_of_parseSigned? hn).symm.trans hx)
    by_cases hfit : SInt.Fits 128 (n.val * 10 ^ scale.val.toNat)
    swap
    · exact parseDecimalToI128_of_not_fits hparts hn h0 h38 hfit
    have hcode := @parseDecimalToI128_parts ov text i f scale n hparts hn h0 h38 hfit
    rw [if_neg hf, byteLen_of_allDigits hdigits,
      takeBytes?_of_allDigits hdigits (Nat.min_le_left f.length scale.val.toNat)] at hcode
    dsimp only at hcode
    rcases Nat.eq_zero_or_pos scale.val.toNat with hzero | hpos
    · -- The scale leaves no digit, and no digit is not a number.
      have hnone : parseSigned? 128 [] = none := rfl
      rw [hcode, hzero, Nat.min_zero, List.take_zero, hnone]
      exact ⟨_, rfl⟩
    · have hsum := h fun _ => hpos
      have htake := takeBytes?_of_allDigits hdigits (Nat.min_le_left f.length scale.val.toNat)
      rw [truncated_withFraction _ _ _ (parseInt?_sign hx), ofDigits_mul_pow_div hdigits] at hsum
      push_cast at hsum
      obtain ⟨v, hv, hval⟩ := parseSigned?_take hf hdigits hpos (by omega)
      rw [hcode, hv, orFail_some, ok_bind, hval, Text.byteLen_takeBytes? htake,
        SInt.ofInt?_eq_none.mpr hsum]
      exact ⟨_, rfl⟩

/-- Zeros in front of digits count for nothing. -/
theorem ofDigits_trimStart (s : List Char) : ofDigits (Text.trimStart '0' s) = ofDigits s := by
  obtain ⟨k, hk⟩ := Text.exists_eq_trimStart '0' s
  have hzeros : ofDigits (List.replicate k '0') = 0 := by
    have h := ofDigits_pad k []
    unfold pad at h
    rw [List.append_nil, List.length_nil, Nat.sub_zero] at h
    exact h
  conv_rhs => rw [hk, ofDigits_append, hzeros, mul_zero, zero_add]

/-- A number is smaller than ten to the number of its digits. -/
theorem ofDigits_lt_significantCount (s : List Char) :
    ofDigits (s.filter Char.isDigit) < 10 ^ significantCount s := by
  have hdigits : AllDigits (Text.trimStart '0' (s.filter Char.isDigit)) := fun c hc =>
    List.of_mem_filter ((List.dropWhile_sublist _).subset hc)
  unfold significantCount
  dsimp only
  rw [← ofDigits_trimStart]
  split
  · rename_i hnil
    rw [hnil]
    exact Nat.pow_pos (by norm_num)
  · exact ofDigits_lt hdigits

/-- There are no more digits without the leading zeros. -/
theorem significantCount_le (s : List Char) (h : s.filter Char.isDigit ≠ []) :
    significantCount s ≤ (s.filter Char.isDigit).length := by
  unfold significantCount
  dsimp only
  split
  · exact List.length_pos_of_ne_nil h
  · exact (List.dropWhile_sublist _).length_le

end Texts

/-! ### The law -/

/-- **What a decimal column should take**: exactly the numbers that fit it, and an integer as a
number and as a text alike. -/
structure BuildsExactly (pf : Platform) (precision : UInt8) (scale : SInt 8) (row : ℕ)
    (v : Json.Value) : Prop where
  /-- A number that fits is taken as it is, scaled and cut. -/
  accepts : ∀ q, decimalValue? v = some q → FitsDecimal precision.toNat scale.val.toNat q →
    Yields (parseDecimal pf precision scale row v) (truncated (q * 10 ^ scale.val.toNat))
  /-- A number that does not is an error. -/
  rejects : ∀ q, decimalValue? v = some q → ¬FitsDecimal precision.toNat scale.val.toNat q →
    ∃ e, parseDecimal pf precision scale row v = fail e
  /-- An integer comes out as its text does. -/
  alike : ∀ n (i : ℤ), v = .number n → decimalValue? v = some (i : ℚ) →
    SameOutcome (parseDecimal pf precision scale row v)
      (parseDecimal pf precision scale row (.string (String.ofList (intText i))))

/-! ### Where it holds -/

/-- A decimal text is taken: it has not too many digits, a fraction only if the scale leaves some
of it, and a number of 128 bits. -/
structure TextTaken (precision scale : ℕ) (text : List Char) (q : ℚ) : Prop where
  /-- Without the leading zeros there are no more digits than the precision. -/
  significant : significantCount text ≤ precision
  /-- With them there is at most one more. -/
  written : (text.filter Char.isDigit).length ≤ precision + 1
  point : '.' ∈ text → 0 < scale
  fits : SInt.Fits 128 (truncated (q * 10 ^ scale))

/-- What the rounded product of a float is printed as. -/
def PrintsAs (product : F64) (n : ℤ) : Prop :=
  product.round.isSpecial = false ∧ (n : ℚ) = product.round.shortestValue

/-- The product of an integer above 64 bits with a sign is printed as it is; or, where it does not
fit, as no number of 128 bits, and its text is an error as well. -/
def FloatBuilds (power : F64) (precision scale n : ℕ) : Prop :=
  if n * 10 ^ scale < 10 ^ precision then
    PrintsAs ((F64.ofInt n).mul power) (n * 10 ^ scale)
  else (∀ z, PrintsAs ((F64.ofInt n).mul power) z → ¬SInt.Fits 128 z) ∧
    (10 ^ precision ≤ n ∨ 2 ^ 127 ≤ n * 10 ^ scale)

/-- The values of which the law holds. -/
def BuildReads (pf : Platform) (precision : ℕ) (scale : SInt 8) : Json.Value → Prop
  | .number (.posInt n _) =>
    if n < 2 ^ 63 then n * 10 ^ scale.val.toNat < 10 ^ precision
    else FloatBuilds (pf.powi10 (scale.extend 32 SInt.le_8_32)) precision scale.val.toNat n
  | .number (.negInt i _) => |i.val| * 10 ^ scale.val.toNat < 10 ^ precision
  | .string text => ∀ q, value? text.toList = some q →
    (FitsDecimal precision scale.val.toNat q ↔
      TextTaken precision scale.val.toNat text.toList q)
  | _ => True

section Law

variable {pf : Platform} {precision : UInt8} {scale : SInt 8} {row : ℕ}

/-- **What is made of a decimal text.** -/
theorem parseDecimal_text {text : String} {q : ℚ} (h0 : 0 ≤ scale.val) (h38 : scale.val ≤ 38)
    (hq : value? text.toList = some q) :
    (TextTaken precision.toNat scale.val.toNat text.toList q →
      Yields (parseDecimal pf precision scale row (.string text))
        (truncated (q * 10 ^ scale.val.toNat))) ∧
    (¬TextTaken precision.toNat scale.val.toNat text.toList q →
      ∃ e, parseDecimal pf precision scale row (.string text) = fail e) := by
  have hcode : parseDecimal pf precision scale row (.string text) =
      (validateDecimalPrecision text.toList precision row >>= fun _ =>
        mapError (.invalidValue row) (parseDecimalToI128 pf.overflow text.toList scale)) := rfl
  rw [hcode]
  constructor
  · intro h
    rw [validateDecimalPrecision_eq_ok (u := ()) |>.mpr ⟨h.significant, h.written⟩, ok_bind]
    obtain ⟨r, hr, hval⟩ := @yields_of_value? pf.overflow _ _ _ h0 h38 hq h.point h.fits
    exact ⟨r, mapError_eq_ok.mpr hr, hval⟩
  · intro h
    rcases hcheck : validateDecimalPrecision text.toList precision row with e | u
    · -- The check has no way to stop the program.
      have hfail : ∃ e, validateDecimalPrecision text.toList precision row = fail e := by
        unfold validateDecimalPrecision at hcheck ⊢
        dsimp only at hcheck ⊢
        split_ifs at hcheck ⊢
        · exact ⟨_, rfl⟩
        · exact ⟨_, rfl⟩
        · exact ⟨_, rfl⟩
        · exact ⟨_, rfl⟩
      obtain ⟨e', he'⟩ := hfail
      rw [← hcheck, he']
      exact ⟨e', rfl⟩
    · obtain ⟨hsig, hwritten⟩ := validateDecimalPrecision_eq_ok.mp hcheck
      obtain ⟨e, he⟩ := @fails_of_value? pf.overflow _ _ _ h0 h38 hq fun hpoint hfits =>
        h ⟨hsig, hwritten, hpoint, hfits⟩
      rw [ok_bind, he]
      exact ⟨.invalidValue row e, rfl⟩

/-- **The law of a text.** -/
theorem buildsExactly_text (h0 : 0 ≤ scale.val) (h38 : scale.val ≤ 38) (text : String) :
    BuildsExactly pf precision scale row (.string text) ↔
      BuildReads pf precision.toNat scale (.string text) := by
  constructor
  · intro h q hq
    obtain ⟨htaken, hnot⟩ := @parseDecimal_text pf precision scale row text q h0 h38 hq
    constructor
    · intro hfits
      by_contra hcon
      obtain ⟨r, hr, -⟩ := h.accepts q hq hfits
      obtain ⟨e, he⟩ := hnot hcon
      rw [hr] at he
      cases he
    · intro hcon
      by_contra hfits
      obtain ⟨r, hr, -⟩ := htaken hcon
      obtain ⟨e, he⟩ := h.rejects q hq hfits
      rw [hr] at he
      cases he
  · intro h
    refine ⟨fun q hq hfits => ?_, fun q hq hfits => ?_, ?_⟩
    · exact (parseDecimal_text h0 h38 hq).1 ((h q hq).mp hfits)
    · exact (parseDecimal_text h0 h38 hq).2 fun hcon => hfits ((h q hq).mpr hcon)
    · intro n i hv
      cases hv

/-- The text of an integer is taken if the integer has no more digits than the precision. -/
theorem textTaken_intText {p s : ℕ} (hp : 1 ≤ p) (i : ℤ) :
    TextTaken p s (intText i) i ↔ |i| < 10 ^ p ∧ SInt.Fits 128 (i * 10 ^ s) := by
  have hfilter : (intText i).filter Char.isDigit = natText i.natAbs := by
    have hall : (natText i.natAbs).filter Char.isDigit = natText i.natAbs :=
      List.filter_eq_self.mpr (allDigits_natText _)
    unfold intText
    split
    · rw [List.filter_cons_of_neg (by decide), hall]
    · exact hall
  have hne : (intText i).filter Char.isDigit ≠ [] := hfilter ▸ natText_ne_nil _
  have habs : |i| < 10 ^ p ↔ i.natAbs < 10 ^ p := by
    rw [Int.abs_eq_natAbs]
    exact_mod_cast Iff.rfl
  rw [habs]
  constructor
  · intro h
    have hlt := ofDigits_lt_significantCount (intText i)
    rw [hfilter, ofDigits_natText] at hlt
    refine ⟨lt_of_lt_of_le hlt (Nat.pow_le_pow_right (by norm_num) h.significant), ?_⟩
    have hfits := h.fits
    rwa [truncated_intCast] at hfits
  · rintro ⟨hlt, hfits⟩
    have hlen : ((intText i).filter Char.isDigit).length ≤ p := hfilter ▸ length_natText_le hp hlt
    refine ⟨le_trans (significantCount_le _ hne) hlen, by omega, fun hpoint => ?_, ?_⟩
    · have hno : '.' ∉ intText i := F64.point_not_mem_of_parseInt? (parseInt?_intText i)
      exact absurd hpoint hno
    · rwa [truncated_intCast]

/-- The text of an integer, as a column takes it. -/
theorem parseDecimal_intText (hp : 1 ≤ precision.toNat) (h0 : 0 ≤ scale.val)
    (h38 : scale.val ≤ 38) (i : ℤ) :
    (|i| < 10 ^ precision.toNat ∧ SInt.Fits 128 (i * 10 ^ scale.val.toNat) →
      Yields (parseDecimal pf precision scale row (.string (String.ofList (intText i))))
        (i * 10 ^ scale.val.toNat)) ∧
    (¬(|i| < 10 ^ precision.toNat ∧ SInt.Fits 128 (i * 10 ^ scale.val.toNat)) →
      ∃ e, parseDecimal pf precision scale row (.string (String.ofList (intText i))) = fail e) := by
  have hq : value? (String.ofList (intText i)).toList = some (i : ℚ) := by
    rw [String.toList_ofList, value?_intText]
  obtain ⟨htaken, hnot⟩ := @parseDecimal_text pf precision scale row _ _ h0 h38 hq
  rw [String.toList_ofList, textTaken_intText hp, truncated_intCast] at htaken
  rw [String.toList_ofList, textTaken_intText hp] at hnot
  exact ⟨htaken, hnot⟩

/-- What fits a decimal type has no more digits than the precision, and fits 128 bits. -/
theorem abs_lt_of_fits {p s : ℕ} (hp : p ≤ 38) {i : ℤ} (h : |i| * 10 ^ s < 10 ^ p) :
    |i| < 10 ^ p ∧ SInt.Fits 128 (i * 10 ^ s) := by
  have hfits := ((fitsDecimal_intCast i).mpr h).fits hp
  rw [truncated_intCast] at hfits
  refine ⟨lt_of_le_of_lt ?_ h, hfits⟩
  exact le_mul_of_one_le_right (abs_nonneg i) (one_le_pow₀ (by norm_num))

/-- Two computations that yield one number have the same outcome. -/
theorem sameOutcome_of_yields {ε δ : Type} {w : ℕ} {x : Exec ε (SInt w)} {y : Exec δ (SInt w)}
    {n : ℤ} (hx : Yields x n) (hy : Yields y n) : SameOutcome x y := by
  obtain ⟨a, rfl, ha⟩ := hx
  obtain ⟨b, rfl, hb⟩ := hy
  obtain rfl : a = b := SInt.ext (ha.trans hb.symm)
  exact .of_ok a

/-- The law of an integer. -/
theorem buildsExactly_number_iff (hp : 1 ≤ precision.toNat) (hp' : precision.toNat ≤ 38)
    (h0 : 0 ≤ scale.val) (h38 : scale.val ≤ 38) {n : Json.Number} {i : ℤ}
    (hq : decimalValue? (.number n) = some (i : ℚ)) :
    BuildsExactly pf precision scale row (.number n) ↔
      if |i| * 10 ^ scale.val.toNat < 10 ^ precision.toNat then
        Yields (parseDecimal pf precision scale row (.number n)) (i * 10 ^ scale.val.toNat)
      else (∃ e, parseDecimal pf precision scale row (.number n) = fail e) ∧
        ¬(|i| < 10 ^ precision.toNat ∧ SInt.Fits 128 (i * 10 ^ scale.val.toNat)) := by
  obtain ⟨htaken, hnot⟩ := @parseDecimal_intText pf precision scale row hp h0 h38 i
  by_cases hfit : |i| * 10 ^ scale.val.toNat < 10 ^ precision.toNat
  · rw [if_pos hfit]
    constructor
    · intro h
      have hread := h.accepts i hq ((fitsDecimal_intCast i).mpr hfit)
      rwa [truncated_intCast] at hread
    · intro h
      refine ⟨fun q hq' _ => ?_, fun q hq' hnot' => ?_, ?_⟩
      · obtain rfl := Option.some.inj (hq.symm.trans hq')
        rwa [truncated_intCast]
      · obtain rfl := Option.some.inj (hq.symm.trans hq')
        exact absurd ((fitsDecimal_intCast i).mpr hfit) hnot'
      · rintro _ j ⟨⟩ hj
        obtain rfl : i = j := by exact_mod_cast Option.some.inj (hq.symm.trans hj)
        exact sameOutcome_of_yields h (htaken (abs_lt_of_fits hp' hfit))
  · rw [if_neg hfit]
    have hnofit := mt (fitsDecimal_intCast i).mp hfit
    constructor
    · intro h
      have hfails := h.rejects i hq hnofit
      refine ⟨hfails, fun hcon => ?_⟩
      obtain ⟨e, he⟩ := (h.alike n i rfl hq).fails.mp hfails
      obtain ⟨r, hr, -⟩ := htaken hcon
      rw [hr] at he
      cases he
    · rintro ⟨hfails, hcon⟩
      refine ⟨fun q hq' hfit' => ?_, fun q hq' _ => hfails, ?_⟩
      · obtain rfl := Option.some.inj (hq.symm.trans hq')
        exact absurd hfit' hnofit
      · rintro _ j ⟨⟩ hj
        obtain rfl : i = j := by exact_mod_cast Option.some.inj (hq.symm.trans hj)
        exact .of_fail hfails (hnot hcon)

/-- An integer of 64 bits is multiplied in 128. -/
theorem parseDecimal_asI64 {v : Json.Value} {i : SInt 64} (hi : v.asI64 = some i) :
    parseDecimal pf precision scale row v =
      (pow10 pf.overflow (scale.val % 2 ^ 32).toNat >>= fun power =>
        mul pf.overflow (i.extend 128 SInt.le_64_128) power) := by
  unfold parseDecimal
  rw [hi]

/-- Another number goes through a float and its text. -/
theorem parseDecimal_asF64 {v : Json.Value} {x : F64} (hi : v.asI64 = none)
    (hf : v.asF64 = some x) :
    parseDecimal pf precision scale row v =
      orFail (.overflow row "Value does not fit in 128 bits") (parseSigned? 128
        (x.mul (pf.powi10 (scale.extend 32 SInt.le_8_32))).round.display) := by
  unfold parseDecimal
  rw [hi]
  dsimp only
  rw [hf]

/-- A product is a number or stops the program. -/
theorem mul_fit_ne_fail {ε : Type} {w : ℕ} [NeZero w] {ov : Overflow} {y : ℤ} {a : SInt w}
    {e : ε} : (fit ov y >>= fun power => mul ov a power : Exec ε (SInt w)) ≠ fail e := by
  have hfit (x : ℤ) : (∃ b, (fit ov x : Exec ε (SInt w)) = .ok b) ∨
      (fit ov x : Exec ε (SInt w)) = stop := by
    unfold fit
    cases SInt.ofInt? w x with
    | some b => exact .inl ⟨b, rfl⟩
    | none =>
      cases ov with
      | panics => exact .inr rfl
      | wraps => exact .inl ⟨_, rfl⟩
  rcases hfit y with ⟨b, hb⟩ | hstop
  · rw [hb, ok_bind]
    rcases hfit (a.val * b.val) with ⟨c, hc⟩ | hstop
    · rw [mul, hc]
      intro h
      cases h
    · rw [mul, hstop]
      intro h
      cases h
  · rw [hstop]
    intro h
    cases h

/-- **The law of an integer of 64 bits.** -/
theorem buildsExactly_asI64 (hp : 1 ≤ precision.toNat) (hp' : precision.toNat ≤ 38)
    (h0 : 0 ≤ scale.val) (h38 : scale.val ≤ 38) {n : Json.Number} {i : SInt 64}
    (hi : n.asI64 = some i) (hq : decimalValue? (.number n) = some (i.val : ℚ)) :
    BuildsExactly pf precision scale row (.number n) ↔
      |i.val| * 10 ^ scale.val.toNat < 10 ^ precision.toNat := by
  have hv : (Json.Value.number n).asI64 = some i := hi
  obtain ⟨hsize, -⟩ := scale_sizes h0
  rw [buildsExactly_number_iff hp hp' h0 h38 hq, parseDecimal_asI64 hv, hsize]
  by_cases hfit : |i.val| * 10 ^ scale.val.toNat < 10 ^ precision.toNat
  · rw [if_pos hfit]
    refine iff_of_true ?_ hfit
    have hpow : SInt.Fits 128 (10 ^ scale.val.toNat) := fits_pow10_iff.mpr (by omega)
    exact yields_mul_fit_iff.mpr ⟨(abs_lt_of_fits hp' hfit).2, fun _ => hpow⟩
  · rw [if_neg hfit]
    refine iff_of_false ?_ hfit
    rintro ⟨⟨e, he⟩, -⟩
    exact mul_fit_ne_fail he

/-- What a printed product is read as. -/
theorem parseSigned?_display_round {x : F64} {r : SInt 128} :
    parseSigned? 128 x.round.display = some r ↔ PrintsAs x r.val := by
  unfold parseSigned? PrintsAs
  rw [← F64.parseInt?_display_round, Option.bind_eq_some_iff]
  constructor
  · rintro ⟨z, hz, hr⟩
    rw [hz, SInt.ofInt?_eq_some.mp hr]
  · exact fun h => ⟨r.val, h, SInt.ofInt?_eq_some.mpr rfl⟩

/-- **The law of an integer that goes through a float.** -/
theorem buildsExactly_large (hp : 1 ≤ precision.toNat) (hp' : precision.toNat ≤ 38)
    (h0 : 0 ≤ scale.val) (h38 : scale.val ≤ 38) {n : ℕ} {lt : n < 2 ^ 64} (hn : 2 ^ 63 ≤ n) :
    BuildsExactly pf precision scale row (.number (.posInt n lt)) ↔
      FloatBuilds (pf.powi10 (scale.extend 32 SInt.le_8_32)) precision.toNat scale.val.toNat n := by
  have hq : decimalValue? (.number (.posInt n lt)) = some (((n : ℤ) : ℤ) : ℚ) := by
    rw [Int.cast_natCast]
    rfl
  have hcode := @parseDecimal_asF64 pf precision scale row (.number (.posInt n lt)) (F64.ofInt n)
    (asI64_large hn) rfl
  have habs : |(n : ℤ)| = n := abs_of_nonneg (Int.natCast_nonneg n)
  rw [buildsExactly_number_iff hp hp' h0 h38 hq, hcode, habs]
  unfold FloatBuilds
  generalize (F64.ofInt n).mul (pf.powi10 (scale.extend 32 SInt.le_8_32)) = product
  by_cases hfit : n * 10 ^ scale.val.toNat < 10 ^ precision.toNat
  · have hfit' : (n : ℤ) * 10 ^ scale.val.toNat < 10 ^ precision.toNat := by exact_mod_cast hfit
    have hbits := (abs_lt_of_fits hp' (by rwa [habs])).2
    rw [if_pos hfit, if_pos hfit']
    constructor
    · rintro ⟨r, hr, hval⟩
      rw [← hval]
      exact parseSigned?_display_round.mp (orFail_eq_ok.mp hr)
    · intro h
      exact ⟨⟨_, hbits.1, hbits.2⟩, orFail_eq_ok.mpr (parseSigned?_display_round.mpr h), rfl⟩
  · have hfit' : ¬(n : ℤ) * 10 ^ scale.val.toNat < 10 ^ precision.toNat := by exact_mod_cast hfit
    rw [if_neg hfit, if_neg hfit']
    refine and_congr ?_ ?_
    · constructor
      · rintro ⟨e, he⟩ z hz hbits
        rw [(parseSigned?_display_round (r := ⟨z, hbits.1, hbits.2⟩)).mpr hz] at he
        cases he
      · intro h
        rcases hr : parseSigned? 128 product.round.display with _ | r
        · exact ⟨_, rfl⟩
        · exact absurd ⟨r.ge, r.lt⟩ (h _ (parseSigned?_display_round.mp hr))
    · have hpos : (0 : ℤ) ≤ (n : ℤ) * 10 ^ scale.val.toNat := by positivity
      have hcast : (10 : ℤ) ^ precision.toNat ≤ n ↔ 10 ^ precision.toNat ≤ n := by exact_mod_cast Iff.rfl
      have hcast' : (2 : ℤ) ^ 127 ≤ (n : ℤ) * 10 ^ scale.val.toNat ↔
          2 ^ 127 ≤ n * 10 ^ scale.val.toNat := by exact_mod_cast Iff.rfl
      rw [← hcast, ← hcast', not_and_or, not_lt]
      refine or_congr Iff.rfl ?_
      unfold SInt.Fits
      generalize (n : ℤ) * 10 ^ scale.val.toNat = x at hpos
      norm_num
      omega

/-- The row of a value is only reported. -/
theorem parseDecimal_eq_ok_row {v : Json.Value} {r : SInt 128} :
    parseDecimal pf precision scale row v = .ok r ↔
      parseDecimal pf precision scale 0 v = .ok r := by
  unfold parseDecimal
  cases v.asI64 with
  | some i => exact Iff.rfl
  | none =>
    cases v.asF64 with
    | some x =>
      dsimp only
      rw [orFail_eq_ok, orFail_eq_ok]
    | none =>
      cases v.asStr with
      | none => exact iff_of_false unexpected_ne_ok unexpected_ne_ok
      | some text =>
        dsimp only
        rw [bind_eq_ok, bind_eq_ok]
        refine exists_congr fun u => and_congr ?_ ?_
        · rw [validateDecimalPrecision_eq_ok, validateDecimalPrecision_eq_ok]
        · rw [mapError_eq_ok, mapError_eq_ok]

/-- A value of a decimal column and its cell: a null, or the number that is taken. -/
def CellBuilt (pf : Platform) (precision : UInt8) (scale : SInt 8) (v : Json.Value)
    (cell : Option (SInt 128)) : Prop :=
  v = .null ∧ cell = none ∨
    v ≠ .null ∧ ∃ r, parseDecimal pf precision scale 0 v = .ok r ∧ cell = some r

/-- **An array is built of exactly the values that are taken.** -/
theorem buildTypedArray_decimal_eq_ok (hp : 1 ≤ precision.toNat) (hp' : precision.toNat ≤ 38)
    (hsp : scale.val ≤ precision.toNat) {values : List Json.Value}
    {cells : List (Option (SInt 128))} :
    buildTypedArray pf (.decimal precision scale) values =
        .ok ⟨.decimal128 precision scale, cells⟩ ↔
      List.Forall₂ (CellBuilt pf precision scale) values cells := by
  have hcheck : checkDecimalType precision scale = .ok () := by
    have hne : precision ≠ 0 := by
      rintro rfl
      exact absurd hp (by decide)
    unfold checkDecimalType
    rw [if_neg]
    rintro (h | h | h | h)
    · exact hne h
    · omega
    · omega
    · omega
  have hcode : buildTypedArray pf (.decimal precision scale) values =
      (eachRow (fun row => nullable (parseDecimal pf precision scale row)) values >>= fun cells =>
        .ok ⟨.decimal128 precision scale, cells⟩) := by
    unfold buildTypedArray
    dsimp only
    rw [hcheck]
    rfl
  have hcell (row : ℕ) (v : Json.Value) (cell : Option (SInt 128)) :
      nullable (parseDecimal pf precision scale row) v = .ok cell ↔
        CellBuilt pf precision scale v cell := by
    constructor
    · intro h
      rcases nullable_eq_ok h with ⟨rfl, rfl⟩ | ⟨hne, r, hr, rfl⟩
      · exact .inl ⟨rfl, rfl⟩
      · exact .inr ⟨hne, r, parseDecimal_eq_ok_row.mp hr, rfl⟩
    · rintro (⟨rfl, rfl⟩ | ⟨hne, r, hr, rfl⟩)
      · rfl
      · have hnull : v.isNull = false := by
          cases v with
          | null => exact absurd rfl hne
          | bool | number | string | array | object => rfl
        unfold nullable
        rw [hnull, if_neg Bool.false_ne_true, parseDecimal_eq_ok_row.mpr hr]
        rfl
  rw [hcode, ← eachRow_eq_ok_iff hcell, bind_eq_ok]
  constructor
  · rintro ⟨out, hout, heq⟩
    obtain ⟨-, hcells⟩ := Column.mk.inj (Except.ok.inj heq)
    rwa [← eq_of_heq hcells]
  · exact fun h => ⟨cells, h, rfl⟩

/-- **Which values a decimal column takes as it should**: the integers of 64 bits that fit it, the
larger ones that are printed as they are, and the texts whose digits are as many as their number
needs. An array is built of exactly the values that are taken. -/
theorem buildsExactly_iff (pf : Platform) (precision : UInt8) (scale : SInt 8)
    (hp : 1 ≤ precision.toNat) (hp' : precision.toNat ≤ 38) (h0 : 0 ≤ scale.val)
    (hsp : scale.val ≤ precision.toNat) :
    (∀ row v, BuildsExactly pf precision scale row v ↔
      BuildReads pf precision.toNat scale v) ∧
    ∀ values cells, buildTypedArray pf (.decimal precision scale) values =
        .ok ⟨.decimal128 precision scale, cells⟩ ↔
      List.Forall₂ (CellBuilt pf precision scale) values cells := by
  refine ⟨fun row v => ?_, fun values cells => buildTypedArray_decimal_eq_ok hp hp' hsp⟩
  have h38 : scale.val ≤ 38 := by omega
  have hnothing (hq : decimalValue? v = none) : BuildsExactly pf precision scale row v := by
    refine ⟨fun q hq' => ?_, fun q hq' => ?_, ?_⟩
    · rw [hq] at hq'
      cases hq'
    · rw [hq] at hq'
      cases hq'
    · intro n i _ hq'
      rw [hq] at hq'
      cases hq'
  cases v with
  | null => exact iff_of_true (hnothing rfl) trivial
  | bool b => exact iff_of_true (hnothing rfl) trivial
  | array items => exact iff_of_true (hnothing rfl) trivial
  | object members => exact iff_of_true (hnothing rfl) trivial
  | string text => exact buildsExactly_text h0 h38 text
  | number n =>
    cases n with
    | float f finite => exact iff_of_true (hnothing rfl) trivial
    | negInt i neg => exact buildsExactly_asI64 hp hp' h0 h38 rfl rfl
    | posInt n lt =>
      unfold BuildReads
      dsimp only
      by_cases hn : n < 2 ^ 63
      · have hi : (Json.Number.posInt n lt).asI64 = some (i64OfNat hn) := asI64_small hn
        have hq : decimalValue? (.number (.posInt n lt)) = some ((i64OfNat hn).val : ℚ) := by
          rw [val_i64OfNat, Int.cast_natCast]
          rfl
        rw [if_pos hn, buildsExactly_asI64 hp hp' h0 h38 hi hq, val_i64OfNat,
          abs_of_nonneg (Int.natCast_nonneg n)]
        exact_mod_cast Iff.rfl
      · rw [if_neg hn]
        exact buildsExactly_large hp hp' h0 h38 (not_lt.mp hn)

/-- An integer that fits. -/
theorem buildsExactly_iff_integer : BuildsExactly checkedPlatform 5 2 0 (Json.ofI64 123) := by
  refine ((buildsExactly_iff checkedPlatform 5 2 (by decide) (by decide) (by decide)
    (by decide)).1 0 (Json.ofI64 123)).mpr ?_
  have hvalue : Json.ofI64 123 = .number (.posInt 123 (by norm_num)) := rfl
  have hscale : (2 : SInt 8).val.toNat = 2 := rfl
  have hprecision : (5 : UInt8).toNat = 5 := rfl
  rw [hvalue]
  unfold BuildReads
  dsimp only
  rw [if_pos (by norm_num), hscale, hprecision]
  norm_num

/-- **A number that does not fit is taken**, as an integer and as a text, and a text is refused
for the digits that the scale cuts off. -/
theorem buildsExactly_gaps :
    ¬BuildsExactly checkedPlatform 5 2 0 (Json.ofI64 12345) ∧
      ¬BuildsExactly checkedPlatform 5 2 0 (.string "12345") ∧
      ¬BuildsExactly checkedPlatform 5 2 0 (.string "123.456") := by
  have htext (text : String) (h : BuildsExactly checkedPlatform 5 2 0 (.string text)) (q : ℚ)
      (hq : value? text.toList = some q) :
      |truncated (q * 10 ^ 2)| < 10 ^ 5 ↔ TextTaken 5 2 text.toList q :=
    (buildsExactly_text (by decide) (by decide) text).mp h q hq
  refine ⟨fun h => ?_, fun h => ?_, fun h => ?_⟩
  · have hvalue : Json.ofI64 12345 = .number (.posInt 12345 (by norm_num)) := rfl
    have hscale : (2 : SInt 8).val.toNat = 2 := rfl
    have hprecision : (5 : UInt8).toNat = 5 := rfl
    have hval : (12345 : SInt 64).val = 12345 := rfl
    rw [hvalue, @buildsExactly_asI64 checkedPlatform 5 2 0 (by decide) (by decide) (by decide)
      (by decide) _ 12345 rfl rfl, hscale, hprecision, hval] at h
    norm_num at h
  · have htaken : TextTaken 5 2 "12345".toList 12345 :=
      ⟨by decide +kernel, by decide +kernel, by decide +kernel, by decide +kernel⟩
    have hfits := (htext "12345" h 12345 (by decide +kernel)).mpr htaken
    exact absurd hfits (by decide +kernel)
  · have htaken := (htext "123.456" h (15432 / 125) (by decide +kernel)).mp (by decide +kernel)
    exact absurd htaken.significant (by decide +kernel)

end Law

end Builders

end Exarrow
