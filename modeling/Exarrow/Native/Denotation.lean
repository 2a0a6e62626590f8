import Exarrow.Native.Splitting

/-!
# What parameters are written as

The bytes of a parameter should stand for its value in the type of its column
(`Exarrow.Native.Denotes`): a boolean for a boolean, the same number for a number or a
decimal text, a nearest whole number at the scale for a decimal, the fields that are
written in a text for a date or a timestamp, and the text itself for everything else.

Values that do not fit the type of their column are not refused but written as zero or
false, and numbers that are too large or have too many digits are written as others
(`Exarrow.Native.Writable` says for which values this does not happen). Only the dates and
the timestamps are looked at (`Exarrow.Native.Refused`). **A set of parameters is sent as
the values it holds, or not at all, exactly when a value is refused or all values are
writable** (`Exarrow.Native.sentFaithfully_iff`).
-/

namespace Exarrow.Native

open Machine Ieee Checked

/-! ### What bytes stand for -/

/-- The number that a JSON number is. -/
def numberValue : Json.Number → ℚ
  | .posInt n _ => n
  | .negInt n _ => n.val
  | .float f _ => f.toRat

/-- The number that a value stands for: a number, or a decimal text. -/
def rational? : Json.Value → Option ℚ
  | .number n => some (numberValue n)
  | .string s => Numeral.value? s.toList
  | _ => none

section Meaning

variable (lib : EncoderLibraries)

/-- The text that stands for a value. -/
def IsTextOf (t : String) : Json.Value → Prop
  | .string s => t = s
  | .bool b => t = if b then "true" else "false"
  | .number (.posInt n _) => t.toList = Numeral.intText n
  | .number (.negInt n _) => t.toList = Numeral.intText n.val
  | v => t = lib.jsonText v

/-- The bytes after the marker stand for a value in a column. -/
def BodyDenotes (wireType : WireType) (scale : SInt 32) (value : Json.Value)
    (body : List UInt8) : Prop :=
  match wireType with
  | .boolean => ∃ b, value = .bool b ∧ body = [if b then 1 else 0]
  | .double => ∃ x : F64, body = floatToLE 8 x ∧ x.isSpecial = false ∧
      rational? value = some x.toRat
  | .decimal => ∃ n : SInt 64, body = toLE 8 n.val ∧ ∃ q, rational? value = some q ∧
      |(n.val : ℚ) - q * 10 ^ scale.val| ≤ 1 / 2
  | .date => ∃ (s : String) (f : TemporalFields), value = .string s ∧
      f.WrittenIn s.toList ∧ body = toLE 4 (f.year * 65536 + f.month * 256 + f.day)
  | .timestamp => ∃ (s : String) (f : TemporalFields), value = .string s ∧
      f.WrittenIn s.toList ∧ body = toLE 2 f.year ++ [UInt8.ofNat f.month, UInt8.ofNat f.day,
        UInt8.ofNat f.hour, UInt8.ofNat f.minute, UInt8.ofNat f.second] ++ toLE 4 f.nanos
  | _ => ∃ t, IsTextOf lib t value ∧ Text.byteLen t.toList < 2 ^ 31 ∧
      body = prefixed (Text.bytes t.toList)

/-- The bytes stand for a value in a column. The empty text is NULL as a date or a
timestamp. -/
def Denotes (wireType : WireType) (scale : SInt 32) (value : Json.Value) (bs : List UInt8) :
    Prop :=
  if value.isNull || emptyTemporal wireType value then bs = [0]
  else ∃ body, bs = 1 :: body ∧ BodyDenotes lib wireType scale value body

/-! ### Which values are written as what they are -/

/-- The float is cut off at 64 bits and rounded to a nearest whole number of a number. -/
def RoundsTo (x : F64) (q : ℚ) : Prop := SameRounding (x.saturated (-2 ^ 63) (2 ^ 63 - 1)) q

/-- An integer is scaled: up to 38 digits the result fits 64 bits, and otherwise, or for a
negative scale, the floats through which it is scaled are near enough. -/
def IntegerScales (i : ℤ) (scale : SInt 32) : Prop :=
  if scale.val < 0 then
    ∃ negated, (neg lib.overflow scale : Exec TransportError (SInt 32)) = .ok negated ∧
      RoundsTo ((F64.ofInt i).div (lib.powi ten negated)) (i * 10 ^ scale.val)
  else if scale.val ≤ 38 then
    -2 ^ 63 ≤ i * 10 ^ scale.val.toNat ∧ i * 10 ^ scale.val.toNat < 2 ^ 63
  else RoundsTo ((F64.ofInt i).mul (lib.powi ten scale)) (i * 10 ^ scale.val)

/-- A number scales: an integer as such, and a float if its product with the power of ten
is near enough. -/
def NumberScales (scale : SInt 32) : Json.Number → Prop
  | .posInt n _ => IntegerScales lib n scale
  | .negInt n _ => IntegerScales lib n.val scale
  | .float f _ => RoundsTo (f.mul (lib.powi ten scale)) (f.toRat * 10 ^ scale.val)

/-- A number that a float holds: an integer with no more than 53 binary digits. -/
def IsFloat : Json.Number → Prop
  | .posInt n _ => F64.IsDyadic |((n : ℤ) : ℚ)|
  | .negInt n _ => F64.IsDyadic |(n.val : ℚ)|
  | .float .. => True

/-- The text that is sent for a value. -/
def valueText : Json.Value → String
  | .string s => s
  | v => lib.jsonText v

/-- A value that is there is written as what it is. -/
def BodyWritable (wireType : WireType) (scale : SInt 32) (value : Json.Value) : Prop :=
  match wireType, value with
  | .boolean, .bool _ => True
  | .boolean, _ => False
  | .double, .number n => IsFloat n
  | .double, .string s => Numeral.value? s.toList = some 0
  | .double, _ => False
  | .decimal, .number n => NumberScales lib scale n
  | .decimal, .string s => ∃ q, Numeral.value? s.toList = some q ∧ |q * 10 ^ scale.val| ≤ 1 / 2
  | .decimal, _ => False
  | .date, .string s => ∃ f, parseDateText s = .ok f
  | .date, _ => False
  | .timestamp, .string s => ∃ f, parseTimestampText s = .ok f
  | .timestamp, _ => False
  | _, v => Text.byteLen (valueText lib v).toList < 2 ^ 31

/-- A value is written as what it is. -/
def Writable (wireType : WireType) (scale : SInt 32) (value : Json.Value) : Prop :=
  (value.isNull || emptyTemporal wireType value) = true ∨ BodyWritable lib wireType scale value

/-- A value is refused: it should be a date or a timestamp, and is none. -/
def Refused (wireType : WireType) (value : Json.Value) : Prop :=
  (value.isNull || emptyTemporal wireType value) = false ∧
    ((wireType = .date ∧ ∀ s f, value = .string s → parseDateText s ≠ .ok f) ∨
      (wireType = .timestamp ∧ ∀ s f, value = .string s → parseTimestampText s ≠ .ok f))

/-- A value stops the program: the scale cannot be negated. -/
def Halts (wireType : WireType) (scale : SInt 32) (value : Json.Value) : Prop :=
  wireType = .decimal ∧ (∃ i, value.asI64 = some i) ∧ scale.val < 0 ∧
    (neg lib.overflow scale : Exec TransportError (SInt 32)) = stop

end Meaning

/-! ### Bytes and numbers -/

/-- The bytes of an integer are those of one integer. -/
theorem toLE_injective {a b : SInt 64} (h : toLE 8 a.val = toLE 8 b.val) : a = b := by
  have ha := @ofLE_toLE 8 (by norm_num) a
  have hb := @ofLE_toLE 8 (by norm_num) b
  refine SInt.ext ?_
  rw [← ha, ← hb, h]

/-- The bytes of a float are those of one float. -/
theorem floatToLE_injective {x y : F64} (h : floatToLE 8 x = floatToLE 8 y) : x = y := by
  have hx := natOfLE_natToLE 8 x.bits
  have hy := natOfLE_natToLE 8 y.bits
  have hbits : x.bits = y.bits := by
    have hpow : 256 ^ 8 = 2 ^ (52 + 11 + 1) := by norm_num
    unfold floatToLE at h
    rw [h, hy, hpow, Nat.mod_eq_of_lt x.lt, Nat.mod_eq_of_lt y.lt] at hx
    exact hx.symm
  cases x
  cases y
  exact (Pattern.mk.injEq ..).mpr hbits

/-- A float that is cast after rounding is a nearest whole number of what it should be. -/
theorem abs_i64OfFloat_round_iff (x : F64) (q : ℚ) :
    |((i64OfFloat x.round).val : ℚ) - q| ≤ 1 / 2 ↔ RoundsTo x q := by
  show |((x.round.toIntSat (-2 ^ 63) (2 ^ 63 - 1) : ℤ) : ℚ) - q| ≤ 1 / 2 ↔ _
  rw [F64.toIntSat_round]
  exact abs_roundAway_sub_le_iff _ _

/-- The smallest number of 64 bits is a float. -/
theorem minI64_eq : minI64.isSpecial = false ∧ minI64.toRat = ((-2 ^ 63 : ℤ) : ℚ) := by
  refine (F64.toRat_ofInt_iff _).mpr ⟨1, 63, by norm_num, by norm_num, by norm_num, ?_⟩
  norm_num

/-- The largest one is rounded up. -/
theorem maxI64_eq : maxI64.isSpecial = false ∧ maxI64.toRat = ((2 ^ 63 : ℤ) : ℚ) := by
  have h : maxI64 = F64.ofInt (2 ^ 63) := by decide +kernel
  rw [h]
  refine (F64.toRat_ofInt_iff _).mpr ⟨1, 63, by norm_num, by norm_num, by norm_num, ?_⟩
  norm_num

/-- A float that is a whole number is that number without its fraction. -/
theorem trunc_of_toRat_eq {x : F64} {n : ℤ} (h : x.toRat = n) : x.trunc = n := by
  unfold Pattern.toRat at h
  unfold F64.trunc
  split
  · rename_i hneg
    rw [if_pos hneg] at h
    have hm : x.magnitude = ((-n : ℤ) : ℚ) := by
      push_cast
      linarith
    rw [hm, Int.floor_intCast, neg_neg]
  · rename_i hneg
    rw [if_neg hneg] at h
    rw [h, Int.floor_intCast]

/-- Limiting a rounded float to 64 bits before the cast changes nothing. -/
theorem i64OfFloat_clamp {x : F64} (h : x.round.isNan = false) :
    i64OfFloat (F64.clamp minI64 maxI64 x.round) = i64OfFloat x.round := by
  refine SInt.ext ?_
  obtain ⟨hmin, hminq⟩ := minI64_eq
  obtain ⟨hmax, hmaxq⟩ := maxI64_eq
  have hmaxt : maxI64.trunc = 2 ^ 63 := trunc_of_toRat_eq hmaxq
  refine F64.toIntSat_clamp (by norm_num) hmin hmax ⟨hminq, trunc_of_toRat_eq hminq⟩ ⟨?_, ?_⟩ h ?_
  · rw [hmaxq]
    norm_num
  · rw [hmaxt, hmaxq]
  · intro hs
    cases hx : x.isSpecial with
    | false => exact F64.toRat_round_eq hx
    | true =>
      rw [F64.round_of_isSpecial hx, hx] at hs
      cases hs

/-! ### Values of parameters -/

/-- The values that parameters become. -/
def Scalar (value : Json.Value) : Prop := ∃ p, value = parameterToJson p

/-- What an integer is as a JSON value. -/
theorem exists_number_ofI64 (lib : EncoderLibraries) (i : SInt 64) :
    ∃ n : Json.Number, Json.ofI64 i = .number n ∧ n.asI64 = some i ∧
      n.asF64 = F64.ofInt i.val ∧ numberValue n = i.val ∧
      (∀ scale, NumberScales lib scale n ↔ IntegerScales lib i.val scale) ∧
      (IsFloat n ↔ F64.IsDyadic |(i.val : ℚ)|) ∧
      ∀ t, IsTextOf lib t (.number n) ↔ t.toList = Numeral.intText i.val := by
  have hi := Json.asI64_ofI64 i
  unfold Json.ofI64 at hi ⊢
  by_cases h : i.val < 0
  · rw [dif_pos h] at hi ⊢
    exact ⟨_, rfl, hi, rfl, rfl, fun _ => Iff.rfl, Iff.rfl, fun _ => Iff.rfl⟩
  · rw [dif_neg h] at hi ⊢
    have hcast : ((i.val.toNat : ℕ) : ℤ) = i.val := Int.toNat_of_nonneg (not_lt.mp h)
    refine ⟨_, rfl, hi, congrArg F64.ofInt hcast, ?_, fun scale => ?_, ?_, fun t => ?_⟩
    · show ((i.val.toNat : ℕ) : ℚ) = i.val
      exact_mod_cast hcast
    · show IntegerScales lib ((i.val.toNat : ℕ) : ℤ) scale ↔ _
      rw [hcast]
    · show F64.IsDyadic |(((i.val.toNat : ℕ) : ℤ) : ℚ)| ↔ _
      rw [hcast]
    · show t.toList = Numeral.intText ((i.val.toNat : ℕ) : ℤ) ↔ _
      rw [hcast]

/-- The forms of the values that parameters become. -/
inductive ScalarForm : Json.Value → Prop
  | null : ScalarForm .null
  | bool (b : Bool) : ScalarForm (.bool b)
  | integer (i : SInt 64) : ScalarForm (Json.ofI64 i)
  | float (f : F64) (h : f.isFinite = true) : ScalarForm (.number (.float f h))
  | string (s : String) : ScalarForm (.string s)

theorem Scalar.form {value : Json.Value} (h : Scalar value) : ScalarForm value := by
  obtain ⟨p, rfl⟩ := h
  cases p with
  | null => exact .null
  | boolean b => exact .bool b
  | integer i => exact .integer i
  | float f =>
    show ScalarForm (Json.ofFloat f)
    unfold Json.ofFloat
    split
    · exact .float f _
    · exact .null
  | string s => exact .string s
  | binary b => exact .string _

section Scale

variable {lib : EncoderLibraries} {scale : SInt 32} {n : SInt 64}

/-- Powers of ten up to the 38th fit 128 bits. -/
theorem checkedPow10_of_le {e : ℕ} (h : e ≤ 38) : checkedPow10 e = some (10 ^ e) := by
  unfold checkedPow10
  rw [if_pos]
  calc (10 : ℤ) ^ e ≤ 10 ^ 38 := pow_le_pow_right₀ (by norm_num) h
    _ < 2 ^ 127 := by norm_num

theorem checkedPow10_of_lt {e : ℕ} (h : 38 < e) : checkedPow10 e = none := by
  unfold checkedPow10
  rw [if_neg]
  have hle : (10 : ℤ) ^ 39 ≤ 10 ^ e := pow_le_pow_right₀ (by norm_num) h
  have hbig : (2 : ℤ) ^ 127 ≤ 10 ^ 39 := by norm_num
  exact not_lt.mpr (le_trans hbig hle)

/-- A product that is brought into 64 bits is itself exactly when it fits. -/
theorem clampI64_saturatingMul128_iff (x y : ℤ) :
    (clampI64 (saturatingMul128 x y)).val = x * y ↔ -2 ^ 63 ≤ x * y ∧ x * y < 2 ^ 63 := by
  show max (-2 ^ 63) (min (2 ^ 63 - 1) (max (-2 ^ 127) (min (2 ^ 127 - 1) (x * y)))) = x * y ↔ _
  generalize x * y = z
  norm_num
  omega

/-- Whole numbers are near each other exactly when they are equal. -/
theorem abs_sub_le_half_iff (a b : ℤ) : |(a : ℚ) - b| ≤ 1 / 2 ↔ a = b := by
  constructor
  · intro h
    rw [abs_le] at h
    obtain ⟨h1, h2⟩ := h
    have hlt : (a : ℚ) < b + 1 := by linarith
    have hgt : (b : ℚ) < a + 1 := by linarith
    have hlt' : a < b + 1 := by exact_mod_cast hlt
    have hgt' : b < a + 1 := by exact_mod_cast hgt
    omega
  · rintro rfl
    rw [sub_self, abs_zero]
    norm_num

/-- **An integer is scaled.** -/
theorem scaleDecimalValue_integer {value : Json.Value} {i : SInt 64} (hi : value.asI64 = some i)
    (h : scaleDecimalValue lib value scale = .ok n) :
    |(n.val : ℚ) - i.val * 10 ^ scale.val| ≤ 1 / 2 ↔ IntegerScales lib i.val scale := by
  unfold scaleDecimalValue at h
  rw [hi] at h
  dsimp only at h
  unfold IntegerScales
  rcases lt_trichotomy scale.val 0 with hneg | hzero | hpos
  · rw [if_pos hneg.le, if_neg hneg.ne] at h
    rw [if_pos hneg]
    obtain ⟨negated, hnegated, hn⟩ := bind_eq_ok.mp h
    obtain rfl := Except.ok.inj hn
    rw [abs_i64OfFloat_round_iff]
    constructor
    · exact fun hr => ⟨negated, hnegated, hr⟩
    · rintro ⟨negated', hnegated', hr⟩
      rw [hnegated] at hnegated'
      obtain rfl := Except.ok.inj hnegated'
      exact hr
  · rw [if_pos hzero.le, if_pos hzero] at h
    obtain rfl := Except.ok.inj h
    have h1 := i.ge
    have h2 := i.lt
    rw [if_neg (by omega), if_pos (by omega), hzero]
    norm_num at h1 h2 ⊢
    exact ⟨h1, h2⟩
  · rw [if_neg (by omega)] at h
    obtain ⟨e, he⟩ := Int.eq_ofNat_of_zero_le hpos.le
    rw [if_neg (by omega), he]
    rw [he] at h
    have hpow : (i.val : ℚ) * 10 ^ ((e : ℕ) : ℤ) = ((i.val * 10 ^ e : ℤ) : ℚ) := by
      push_cast [zpow_natCast]
      rfl
    rcases Nat.lt_or_ge 38 e with hlarge | hsmall
    · rw [Int.toNat_natCast, checkedPow10_of_lt hlarge] at h
      obtain rfl := Except.ok.inj h
      rw [if_neg (by omega), abs_i64OfFloat_round_iff]
    · rw [Int.toNat_natCast, checkedPow10_of_le hsmall] at h
      obtain rfl := Except.ok.inj h
      rw [if_pos (by omega), hpow, abs_sub_le_half_iff, Int.toNat_natCast]
      exact clampI64_saturatingMul128_iff _ _

/-- **A float is scaled.** -/
theorem scaleDecimalValue_float {value : Json.Value} {f : F64} (hi : value.asI64 = none)
    (hf : value.asF64 = some f) (h : scaleDecimalValue lib value scale = .ok n) (q : ℚ) :
    |(n.val : ℚ) - q| ≤ 1 / 2 ↔ RoundsTo (f.mul (lib.powi ten scale)) q := by
  unfold scaleDecimalValue at h
  rw [hi, hf] at h
  dsimp only at h
  rw [← abs_i64OfFloat_round_iff]
  cases hnan : (f.mul (lib.powi ten scale)).round.isNan with
  | true =>
    rw [hnan, if_pos rfl] at h
    obtain rfl := Except.ok.inj h
    have hzero : (i64OfFloat (f.mul (lib.powi ten scale)).round).val = 0 := by
      show F64.toIntSat _ _ _ = 0
      rw [F64.toIntSat, hnan, if_pos rfl]
    rw [hzero]
    exact Iff.rfl
  | false =>
    rw [hnan, if_neg Bool.false_ne_true] at h
    obtain rfl := Except.ok.inj h
    rw [i64OfFloat_clamp hnan]

/-- Nothing else is scaled. -/
theorem scaleDecimalValue_other {value : Json.Value} (hi : value.asI64 = none)
    (hf : value.asF64 = none) : scaleDecimalValue lib value scale = .ok 0 := by
  unfold scaleDecimalValue
  rw [hi, hf]
  rfl

/-- Scaling returns a number, or the scale cannot be negated. -/
theorem scaleDecimalValue_cases (value : Json.Value) :
    (∃ n, scaleDecimalValue lib value scale = .ok n) ∨
      (scaleDecimalValue lib value scale = stop ∧ Halts lib .decimal scale value) := by
  cases hi : value.asI64 with
  | none =>
    refine .inl ?_
    cases hf : value.asF64 with
    | none => exact ⟨0, scaleDecimalValue_other hi hf⟩
    | some f =>
      unfold scaleDecimalValue
      rw [hi, hf]
      dsimp only
      split <;> exact ⟨_, rfl⟩
  | some i =>
    unfold scaleDecimalValue Halts
    rw [hi]
    dsimp only
    rcases lt_trichotomy scale.val 0 with hneg | hzero | hpos
    · rw [if_pos hneg.le, if_neg hneg.ne]
      unfold neg fit
      split
      · exact .inl ⟨_, rfl⟩
      · exact .inr ⟨rfl, rfl, ⟨i, rfl⟩, hneg, rfl⟩
      · exact .inl ⟨_, rfl⟩
    · rw [if_pos hzero.le, if_pos hzero]
      exact .inl ⟨_, rfl⟩
    · rw [if_neg (by omega)]
      split <;> exact .inl ⟨_, rfl⟩

end Scale

/-! ### One value -/

section Value

variable {lib : EncoderLibraries} {scale : SInt 32} {value : Json.Value}

/-- What the encoder makes of a value: it is refused, it stops the program, or it is
written, and then the bytes stand for it exactly when it is writable. -/
inductive Made (lib : EncoderLibraries) (wireType : WireType) (scale : SInt 32)
    (value : Json.Value) : Exec TransportError (List UInt8) → Prop
  | refused (e : TransportError) (h : Refused wireType value) : Made lib wireType scale value (fail e)
  | halted (h : Halts lib wireType scale value) : Made lib wireType scale value stop
  | written (bs : List UInt8) (hr : ¬Refused wireType value) (hh : ¬Halts lib wireType scale value)
      (h : Denotes lib wireType scale value bs ↔ Writable lib wireType scale value) :
      Made lib wireType scale value (.ok bs)

/-- A value that is there. -/
def Present (wireType : WireType) (value : Json.Value) : Prop :=
  (value.isNull || emptyTemporal wireType value) = false

/-- Only dates and timestamps are refused. -/
theorem not_refused_of_ne {wireType : WireType} (h1 : wireType ≠ .date)
    (h2 : wireType ≠ .timestamp) : ¬Refused wireType value := by
  rintro ⟨-, ⟨h, -⟩ | ⟨h, -⟩⟩
  · exact h1 h
  · exact h2 h

/-- Only decimals stop the program. -/
theorem not_halts_of_ne {wireType : WireType} (h : wireType ≠ .decimal) :
    ¬Halts lib wireType scale value := fun ⟨heq, _⟩ => h heq

/-- Where the scale cannot be negated, the program stops. -/
theorem scaleDecimalValue_of_halts (h : Halts lib .decimal scale value) :
    scaleDecimalValue lib value scale = stop := by
  obtain ⟨-, ⟨i, hi⟩, hneg, hstop⟩ := h
  unfold scaleDecimalValue
  rw [hi]
  dsimp only
  rw [if_pos hneg.le, if_neg hneg.ne, hstop]
  rfl

/-- A body is written after its marker. -/
theorem made_of_body {wireType : WireType} (hp : Present wireType value) {body : List UInt8}
    (hbody : paramBody lib wireType value scale = .ok body) (hr : ¬Refused wireType value)
    (hh : ¬Halts lib wireType scale value)
    (h : BodyDenotes lib wireType scale value body ↔ BodyWritable lib wireType scale value) :
    Made lib wireType scale value (writeParamValue lib wireType value scale) := by
  have hwrite : writeParamValue lib wireType value scale = .ok (1 :: body) := by
    unfold writeParamValue
    rw [hp, if_neg Bool.false_ne_true, hbody]
    rfl
  rw [hwrite]
  refine .written _ hr hh ?_
  unfold Denotes Writable
  rw [hp, if_neg Bool.false_ne_true, ← h]
  constructor
  · rintro ⟨body', heq, hd⟩
    rw [(List.cons.inj heq).2]
    exact .inr hd
  · rintro (hfalse | hd)
    · cases hfalse
    · exact ⟨body, rfl, hd⟩

/-- A body that fails is refused. -/
theorem made_of_refused {wireType : WireType} {e : TransportError}
    (hbody : paramBody lib wireType value scale = fail e) (h : Refused wireType value) :
    Made lib wireType scale value (writeParamValue lib wireType value scale) := by
  have hwrite : writeParamValue lib wireType value scale = fail e := by
    unfold writeParamValue
    rw [h.1, if_neg Bool.false_ne_true, hbody]
    rfl
  rw [hwrite]
  exact .refused e h

/-- A boolean column. -/
theorem made_boolean (hp : Present .boolean value) :
    Made lib .boolean scale value (writeParamValue lib .boolean value scale) := by
  refine made_of_body hp rfl (not_refused_of_ne nofun nofun) (not_halts_of_ne nofun) ?_
  cases value with
  | bool b => exact ⟨fun _ => trivial, fun _ => ⟨b, rfl, rfl⟩⟩
  | _ => exact ⟨fun ⟨_, h, _⟩ => (nomatch h), False.elim⟩

/-- Zero is a float. -/
theorem ofInt_zero : (F64.ofInt 0).isSpecial = false ∧ (F64.ofInt 0).toRat = ((0 : ℤ) : ℚ) :=
  (F64.toRat_ofInt_iff 0).mpr ⟨0, 0, by norm_num, by norm_num, by norm_num, by norm_num⟩

/-- A float stands for a value exactly when it is that number. -/
theorem bodyDenotes_double_iff {x : F64} :
    BodyDenotes lib .double scale value (floatToLE 8 x) ↔
      x.isSpecial = false ∧ rational? value = some x.toRat := by
  constructor
  · rintro ⟨x', hx, hs, hq⟩
    rw [floatToLE_injective hx]
    exact ⟨hs, hq⟩
  · rintro ⟨hs, hq⟩
    exact ⟨x, rfl, hs, hq⟩

/-- A column of doubles. -/
theorem made_double (hp : Present .double value) (hs : ScalarForm value) :
    Made lib .double scale value (writeParamValue lib .double value scale) := by
  refine made_of_body hp rfl (not_refused_of_ne nofun nofun) (not_halts_of_ne nofun)
    (bodyDenotes_double_iff.trans ?_)
  obtain ⟨hfinite, hzero⟩ := ofInt_zero
  rw [Int.cast_zero] at hzero
  cases hs with
  | null => cases hp
  | bool b => exact ⟨fun h => (nomatch h.2), False.elim⟩
  | string s =>
    show (F64.ofInt 0).isSpecial = false ∧ Numeral.value? s.toList = some (F64.ofInt 0).toRat ↔
      Numeral.value? s.toList = some 0
    rw [hzero]
    exact ⟨fun h => h.2, fun h => ⟨hfinite, h⟩⟩
  | float f h =>
    have hspecial : f.isSpecial = false := by
      unfold Pattern.isFinite at h
      exact (Bool.not_eq_true' _).mp h
    exact ⟨fun _ => trivial, fun _ => ⟨hspecial, rfl⟩⟩
  | integer i =>
    obtain ⟨n, hn, -, hf, hq, -, hfloat, -⟩ := exists_number_ofI64 lib i
    rw [hn]
    show n.asF64.isSpecial = false ∧ some (numberValue n) = some n.asF64.toRat ↔ IsFloat n
    rw [hfloat, ← F64.toRat_ofInt_iff, hf, hq]
    constructor
    · rintro ⟨h1, h2⟩
      exact ⟨h1, (Option.some.inj h2).symm⟩
    · rintro ⟨h1, h2⟩
      exact ⟨h1, congrArg some h2.symm⟩

/-- A whole number stands for a value exactly when it is near the scaled number. -/
theorem bodyDenotes_decimal_iff {n : SInt 64} :
    BodyDenotes lib .decimal scale value (toLE 8 n.val) ↔
      ∃ q, rational? value = some q ∧ |(n.val : ℚ) - q * 10 ^ scale.val| ≤ 1 / 2 := by
  constructor
  · rintro ⟨n', hn, h⟩
    rwa [toLE_injective hn]
  · exact fun h => ⟨n, rfl, h⟩

/-- A column of decimals. -/
theorem made_decimal (hp : Present .decimal value) (hs : ScalarForm value) :
    Made lib .decimal scale value (writeParamValue lib .decimal value scale) := by
  rcases @scaleDecimalValue_cases lib scale value with ⟨n, hn⟩ | ⟨hstop, hhalts⟩
  · have hbody : paramBody lib .decimal value scale = .ok (toLE 8 n.val) := by
      unfold paramBody
      rw [hn]
      rfl
    have hhalts : ¬Halts lib .decimal scale value := fun h => by
      rw [scaleDecimalValue_of_halts h] at hn
      cases hn
    refine made_of_body hp hbody (not_refused_of_ne nofun nofun) hhalts
      (bodyDenotes_decimal_iff.trans ?_)
    cases hs with
    | null => cases hp
    | bool b => exact ⟨fun ⟨_, h, _⟩ => (nomatch h), False.elim⟩
    | string s =>
      obtain rfl := Except.ok.inj ((scaleDecimalValue_other rfl rfl).symm.trans hn)
      have hzero (q : ℚ) : |(((0 : SInt 64).val : ℤ) : ℚ) - q * 10 ^ scale.val| =
          |q * 10 ^ scale.val| := by
        show |((0 : ℤ) : ℚ) - q * 10 ^ scale.val| = _
        rw [Int.cast_zero, zero_sub, abs_neg]
      simp only [hzero]
      exact Iff.rfl
    | float f h =>
      have hiff := scaleDecimalValue_float rfl rfl hn (f.toRat * 10 ^ scale.val)
      constructor
      · rintro ⟨q, hq, hnear⟩
        obtain rfl := Option.some.inj hq
        exact hiff.mp hnear
      · exact fun h => ⟨_, rfl, hiff.mpr h⟩
    | integer i =>
      obtain ⟨m, hm, hi, -, hq, hscales, -, -⟩ := exists_number_ofI64 lib i
      have hiff := scaleDecimalValue_integer (Json.asI64_ofI64 i) hn
      rw [hm]
      show (∃ q, some (numberValue m) = some q ∧ _) ↔ NumberScales lib scale m
      rw [hscales, ← hiff, hq]
      constructor
      · rintro ⟨q, hq, hnear⟩
        obtain rfl := Option.some.inj hq
        exact hnear
      · exact fun h => ⟨_, rfl, h⟩
  · have hwrite : writeParamValue lib .decimal value scale = stop := by
      unfold writeParamValue paramBody
      rw [hp, if_neg Bool.false_ne_true, hstop]
      rfl
    rw [hwrite]
    exact .halted hhalts

/-- A text that is read as a date writes it. -/
theorem writtenIn_of_parseDateText {s : String} {f : TemporalFields}
    (h : parseDateText s = .ok f) : f.WrittenIn s.toList := by
  unfold parseDateText at h
  split at h
  · rename_i g hg
    obtain rfl := Except.ok.inj h
    exact writtenIn_of_parseTemporalFields (Option.filter_eq_some_iff.mp hg).1
  · cases h

/-- A text that is read as a timestamp writes it. -/
theorem writtenIn_of_parseTimestampText {s : String} {f : TemporalFields}
    (h : parseTimestampText s = .ok f) : f.WrittenIn s.toList := by
  unfold parseTimestampText at h
  split at h
  · rename_i g hg
    obtain rfl := Except.ok.inj h
    exact writtenIn_of_parseTemporalFields hg
  · cases h

/-- A column of a type whose values are texts of fields. -/
theorem made_temporal {wireType : WireType} {form : String}
    {parse : String → Except String TemporalFields} {layout : TemporalFields → List UInt8}
    (hp : Present wireType value)
    (hbody : paramBody lib wireType value scale = (temporalText lib value form >>= fun text =>
      mapError TransportError.serializationError (ofExcept (parse text)) >>= fun f =>
        .ok (layout f)))
    (hrefused : Refused wireType value ↔ ∀ s f, value = .string s → parse s ≠ .ok f)
    (hdecimal : wireType ≠ .decimal)
    (hwritable : ∀ s f, value = .string s → parse s = .ok f →
      BodyWritable lib wireType scale value ∧ BodyDenotes lib wireType scale value (layout f)) :
    Made lib wireType scale value (writeParamValue lib wireType value scale) := by
  unfold temporalText at hbody
  cases htext : value.asStr with
  | none =>
    rw [htext] at hbody
    refine made_of_refused hbody (hrefused.mpr fun s f heq => ?_)
    rw [heq] at htext
    cases htext
  | some s =>
    have hvalue : value = .string s := by
      cases value with
      | string t => exact congrArg Json.Value.string (Option.some.inj htext)
      | _ => cases htext
    rw [htext] at hbody
    cases hparse : parse s with
    | error e =>
      refine made_of_refused (e := .serializationError e) ?_ (hrefused.mpr fun s' f heq hok => ?_)
      · rw [hbody]
        show (mapError _ (ofExcept (parse s)) >>= _) = _
        rw [hparse]
        rfl
      · rw [hvalue] at heq
        cases heq
        rw [hparse] at hok
        cases hok
    | ok f =>
      obtain ⟨hw, hd⟩ := hwritable s f hvalue hparse
      have hok : paramBody lib wireType value scale = .ok (layout f) := by
        rw [hbody]
        show (mapError _ (ofExcept (parse s)) >>= _) = _
        rw [hparse]
        rfl
      exact made_of_body hp hok (fun hr => hrefused.mp hr s f hvalue hparse)
        (not_halts_of_ne hdecimal) ⟨fun _ => hw, fun _ => hd⟩

/-- A column of dates. -/
theorem made_date (hp : Present .date value) :
    Made lib .date scale value (writeParamValue lib .date value scale) := by
  have hrefused : Refused .date value ↔ ∀ s f, value = .string s → parseDateText s ≠ .ok f := by
    constructor
    · rintro ⟨-, ⟨-, h⟩ | ⟨h, -⟩⟩
      · exact h
      · cases h
    · exact fun h => ⟨hp, .inl ⟨rfl, h⟩⟩
  refine made_temporal hp rfl hrefused nofun ?_
  rintro s f rfl hparse
  exact ⟨⟨f, hparse⟩, s, f, rfl, writtenIn_of_parseDateText hparse, rfl⟩

/-- A column of timestamps. -/
theorem made_timestamp (hp : Present .timestamp value) :
    Made lib .timestamp scale value (writeParamValue lib .timestamp value scale) := by
  have hrefused : Refused .timestamp value ↔
      ∀ s f, value = .string s → parseTimestampText s ≠ .ok f := by
    constructor
    · rintro ⟨-, ⟨h, -⟩ | ⟨-, h⟩⟩
      · cases h
      · exact h
    · exact fun h => ⟨hp, .inr ⟨rfl, h⟩⟩
  refine made_temporal hp rfl hrefused nofun ?_
  rintro s f rfl hparse
  exact ⟨⟨f, hparse⟩, s, f, rfl, writtenIn_of_parseTimestampText hparse, rfl⟩

/-- The text that is sent for a value stands for it, and no other one does. -/
theorem isTextOf_iff (hs : ScalarForm value) (hnull : value.isNull = false) (t : String) :
    IsTextOf lib t value ↔ t = valueText lib value := by
  cases hs with
  | null => cases hnull
  | bool b =>
    show t = (if b then "true" else "false") ↔ t = lib.jsonText (.bool b)
    rw [lib.jsonText_bool]
  | float f h => exact Iff.rfl
  | string s => exact Iff.rfl
  | integer i =>
    have htext := lib.jsonText_ofI64 i
    obtain ⟨n, hn, -, -, -, -, -, ht⟩ := exists_number_ofI64 lib i
    rw [hn] at htext ⊢
    rw [ht, ← htext]
    exact String.toList_inj

/-- A column of texts. -/
theorem made_text {wireType : WireType} (hp : Present wireType value) (hs : ScalarForm value)
    (hbody : paramBody lib wireType value scale =
      .ok (prefixed (Text.bytes (valueText lib value).toList)))
    (hdenotes : ∀ body, BodyDenotes lib wireType scale value body ↔
      ∃ t, IsTextOf lib t value ∧ Text.byteLen t.toList < 2 ^ 31 ∧
        body = prefixed (Text.bytes t.toList))
    (hwritable : BodyWritable lib wireType scale value ↔
      Text.byteLen (valueText lib value).toList < 2 ^ 31)
    (hr : ¬Refused wireType value) (hh : ¬Halts lib wireType scale value) :
    Made lib wireType scale value (writeParamValue lib wireType value scale) := by
  have hnull : value.isNull = false := (Bool.or_eq_false_iff.mp hp).1
  refine made_of_body hp hbody hr hh ((hdenotes _).trans (Iff.trans ?_ hwritable.symm))
  constructor
  · rintro ⟨t, ht, hlen, -⟩
    rwa [← (isTextOf_iff hs hnull t).mp ht]
  · exact fun hlen => ⟨_, (isTextOf_iff hs hnull _).mpr rfl, hlen, rfl⟩

/-- **Every value** is refused, stops the program, or is written. -/
theorem made_writeParamValue (wireType : WireType) (hs : Scalar value) :
    Made lib wireType scale value (writeParamValue lib wireType value scale) := by
  cases hp : (value.isNull || emptyTemporal wireType value) with
  | true =>
    have hwrite : writeParamValue lib wireType value scale = .ok [0] := by
      unfold writeParamValue
      rw [hp, if_pos rfl]
      rfl
    rw [hwrite]
    refine .written _ (fun h => ?_) (fun h => ?_) ?_
    · rw [h.1] at hp
      cases hp
    · -- What stops the program is a number, which is neither NULL nor empty.
      obtain ⟨rfl, ⟨i, hi⟩, -⟩ := h
      cases value with
      | number n => cases hp
      | _ => cases hi
    · unfold Denotes Writable
      rw [hp, if_pos rfl]
      exact ⟨fun _ => .inl rfl, fun _ => rfl⟩
  | false =>
    have hform := hs.form
    cases wireType with
    | boolean => exact made_boolean hp
    | double => exact made_double hp hform
    | decimal => exact made_decimal hp hform
    | date => exact made_date hp
    | timestamp => exact made_timestamp hp
    | _ =>
      exact made_text hp hform (by cases value <;> rfl) (fun _ => Iff.rfl) Iff.rfl
        (not_refused_of_ne nofun nofun) (not_halts_of_ne nofun)

end Value

/-! ### Sets of values -/

section Sets

variable {lib : EncoderLibraries}

/-- The values of a set, row by row, with the columns they stand in. -/
def cells (cols : List (List Json.Value)) (columns : List ParameterColumn) (numRows : ℕ) :
    List (ParameterColumn × Json.Value) :=
  (List.range numRows).flatMap fun row =>
    (cols.zip columns).map fun (colValues, column) => (column, colValues[row]?.getD .null)

/-- Write a cell. -/
def writeCell (lib : EncoderLibraries) (cell : ParameterColumn × Json.Value) :
    Exec TransportError (List UInt8) :=
  writeParamValue lib cell.1.wireType cell.2 cell.1.scale

/-- A set of parameters is sent as the values that it holds, or not at all, whether it is
sent in one message or in several: each value is written as bytes that stand for it, and
these are what is sent. -/
def SentFaithfully (lib : EncoderLibraries) (handle : PreparedStatementHandle)
    (cols : List (List Json.Value)) (limit : ℕ) : Prop :=
  (∃ e, buildExecutePreparedPayload lib handle (some cols) = fail e ∧
    splitParameterRows lib handle cols limit = fail e) ∨
  ∃ bss, List.Forall₂ (fun cell bs => writeCell lib cell = .ok bs ∧
      Denotes lib cell.1.wireType cell.1.scale cell.2 bs)
      (cells cols (parameterColumns handle cols) (rowCount cols)) bss ∧
    buildExecutePreparedPayload lib handle (some cols) =
      .ok (payloadPrefix handle (parameterColumns handle cols) (rowCount cols) ++ bss.flatten) ∧
    ∃ encoded, splitParameterRows lib handle cols limit = .ok encoded ∧
      encoded.ranges.flatMap encoded.rangeBytes = bss.flatten

/-- A value is refused, and none before it stops the program. -/
def RefusedFirst (lib : EncoderLibraries) (xs : List (ParameterColumn × Json.Value)) : Prop :=
  ∃ pre cell post, xs = pre ++ cell :: post ∧ Refused cell.1.wireType cell.2 ∧
    ∀ x ∈ pre, ¬Halts lib x.1.wireType x.1.scale x.2

/-- A row that exists is written cell by cell. -/
theorem writeParameterRow_eq {cols : List (List Json.Value)} {columns : List ParameterColumn}
    {row : ℕ} (h : ∀ c ∈ cols, row < c.length) :
    writeParameterRow lib cols columns row =
      (((cols.zip columns).map fun (colValues, column) =>
        (column, colValues[row]?.getD .null)).mapM (writeCell lib) >>= fun bss =>
          .ok bss.flatten) := by
  unfold writeParameterRow
  rw [List.mapM_map]
  congr 1
  refine mapM_congr fun p hp => ?_
  obtain ⟨colValues, column⟩ := p
  have hlt := h colValues (List.of_mem_zip hp).1
  simp only [Function.comp_apply, writeCell]
  rw [List.getElem?_eq_getElem hlt]
  rfl

/-- The traversal of lists of cells is the traversal of all of them. -/
theorem mapM_flatMap_flatten {ε α β γ : Type} (f : β → Except ε (List γ)) (g : α → List β)
    (xs : List α) :
    ((xs.mapM fun x => (g x).mapM f >>= fun bss => .ok bss.flatten) >>= fun rs =>
        .ok rs.flatten) =
      ((xs.flatMap g).mapM f >>= fun bss => .ok bss.flatten) := by
  induction xs with
  | nil => rfl
  | cons x xs ih =>
    rw [List.mapM_cons, List.flatMap_cons, List.mapM_append]
    cases hx : (g x).mapM f with
    | error e => rfl
    | ok bss =>
      cases hrest : (xs.flatMap g).mapM f with
      | error e =>
        rw [hrest] at ih
        cases hxs : xs.mapM fun x => (g x).mapM f >>= fun bss => .ok bss.flatten with
        | error e' =>
          rw [hxs] at ih
          obtain rfl := Except.error.inj ih
          rfl
        | ok rs => rw [hxs] at ih; cases ih
      | ok bss' =>
        rw [hrest] at ih
        cases hxs : xs.mapM fun x => (g x).mapM f >>= fun bss => .ok bss.flatten with
        | error e' => rw [hxs] at ih; cases ih
        | ok rs =>
          rw [hxs] at ih
          have hflat : rs.flatten = bss'.flatten := Except.ok.inj ih
          show Except.ok (bss.flatten :: rs).flatten = Except.ok (bss ++ bss').flatten
          rw [List.flatten_cons, hflat, List.flatten_append]

/-- **The rows are written cell by cell.** -/
theorem writeParameterRows_eq {cols : List (List Json.Value)} {columns : List ParameterColumn}
    {numRows : ℕ} (h : ∀ c ∈ cols, c.length = numRows) :
    writeParameterRows lib cols columns (List.range numRows) =
      ((cells cols columns numRows).mapM (writeCell lib) >>= fun bss => .ok bss.flatten) := by
  unfold cells
  rw [← mapM_flatMap_flatten]
  unfold writeParameterRows
  congr 1
  refine mapM_congr fun row hrow => writeParameterRow_eq fun c hc => ?_
  rw [h c hc]
  exact List.mem_range.mp hrow

/-- What is writable is not refused. -/
theorem Writable.not_refused {wireType : WireType} {scale : SInt 32} {value : Json.Value}
    (h : Writable lib wireType scale value) : ¬Refused wireType value := by
  rintro ⟨hp, hr⟩
  rcases h with h | h
  · rw [hp] at h
    cases h
  · rcases hr with ⟨rfl, hr⟩ | ⟨rfl, hr⟩
    · cases value with
      | string s =>
        obtain ⟨f, hf⟩ := h
        exact hr s f rfl hf
      | _ => cases h
    · cases value with
      | string s =>
        obtain ⟨f, hf⟩ := h
        exact hr s f rfl hf
      | _ => cases h

/-- What is writable does not stop the program. -/
theorem Writable.not_halts {wireType : WireType} {scale : SInt 32} {value : Json.Value}
    (h : Writable lib wireType scale value) : ¬Halts lib wireType scale value := by
  rintro ⟨rfl, ⟨i, hi⟩, hneg, hstop⟩
  have hscales {k : ℤ} (hk : IntegerScales lib k scale) : False := by
    unfold IntegerScales at hk
    rw [if_pos hneg, hstop] at hk
    obtain ⟨negated, hnegated, -⟩ := hk
    cases hnegated
  cases value with
  | number n =>
    rcases h with h | h
    · cases h
    · cases n with
      | posInt k _ => exact hscales h
      | negInt k _ => exact hscales h
      | float f _ => cases hi
  | _ => cases hi

/-- **A set of cells is refused exactly when one of them is**, and none before it stops the
program. -/
theorem mapM_writeCell_fail_iff {xs : List (ParameterColumn × Json.Value)}
    (hs : ∀ x ∈ xs, Scalar x.2) :
    (∃ e, xs.mapM (writeCell lib) = fail e) ↔ RefusedFirst lib xs := by
  induction xs with
  | nil =>
    constructor
    · rintro ⟨e, he⟩
      cases he
    · rintro ⟨pre, cell, post, h, -⟩
      cases pre <;> cases h
  | cons x xs ih =>
    have hmade := @made_writeParamValue lib x.1.scale x.2 x.1.wireType (hs x List.mem_cons_self)
    have ih := ih fun y hy => hs y (List.mem_cons_of_mem x hy)
    rw [List.mapM_cons]
    change Made _ _ _ _ (writeCell lib x) at hmade
    generalize writeCell lib x = result at hmade
    cases hmade with
    | refused e h => exact ⟨fun _ => ⟨[], x, xs, rfl, h, List.forall_mem_nil _⟩, fun _ => ⟨e, rfl⟩⟩
    | halted h =>
      constructor
      · rintro ⟨e, he⟩
        cases he
      · rintro ⟨pre, cell, post, heq, hr, hpre⟩
        exfalso
        cases pre with
        | nil =>
          obtain ⟨rfl, -⟩ := List.cons.inj heq
          obtain ⟨hdecimal, -⟩ := h
          rcases hr.2 with ⟨hdate, -⟩ | ⟨hts, -⟩
          · rw [hdecimal] at hdate
            cases hdate
          · rw [hdecimal] at hts
            cases hts
        | cons y pre =>
          obtain ⟨rfl, -⟩ := List.cons.inj heq
          exact hpre x List.mem_cons_self h
    | written bs hr hh h =>
      constructor
      · rintro ⟨e, he⟩
        have hrest : ∃ e, xs.mapM (writeCell lib) = fail e := by
          cases hxs : xs.mapM (writeCell lib) with
          | ok rs => rw [hxs] at he; cases he
          | error e' => rw [hxs] at he; exact ⟨e, he⟩
        obtain ⟨pre, cell, post, rfl, hcell, hpre⟩ := ih.mp hrest
        refine ⟨x :: pre, cell, post, rfl, hcell, fun y hy => ?_⟩
        rcases List.mem_cons.mp hy with rfl | hy
        · exact hh
        · exact hpre y hy
      · rintro ⟨pre, cell, post, heq, hcell, hpre⟩
        cases pre with
        | nil =>
          obtain ⟨rfl, -⟩ := List.cons.inj heq
          exact absurd hcell hr
        | cons y pre =>
          obtain ⟨rfl, htail⟩ := List.cons.inj heq
          obtain ⟨e, he⟩ := ih.mpr ⟨pre, cell, post, htail, hcell,
            fun z hz => hpre z (List.mem_cons_of_mem x hz)⟩
          refine ⟨e, ?_⟩
          show (xs.mapM (writeCell lib) >>= _) = _
          rw [he]
          rfl

/-- **A set of cells is written as what it is exactly when each of them is.** -/
theorem mapM_writeCell_denotes_iff {xs : List (ParameterColumn × Json.Value)}
    (hs : ∀ x ∈ xs, Scalar x.2) :
    (∃ bss, xs.mapM (writeCell lib) = .ok bss ∧
      List.Forall₂ (fun cell bs => Denotes lib cell.1.wireType cell.1.scale cell.2 bs) xs bss) ↔
      ∀ x ∈ xs, Writable lib x.1.wireType x.1.scale x.2 := by
  have hcell (x) (hx : x ∈ xs) : (∃ bs, writeCell lib x = .ok bs ∧
      Denotes lib x.1.wireType x.1.scale x.2 bs) ↔ Writable lib x.1.wireType x.1.scale x.2 := by
    have hmade := @made_writeParamValue lib x.1.scale x.2 x.1.wireType (hs x hx)
    change Made _ _ _ _ (writeCell lib x) at hmade
    generalize writeCell lib x = result at hmade
    cases hmade with
    | refused e h =>
      exact ⟨fun ⟨_, he, _⟩ => (nomatch he), fun hw => absurd h hw.not_refused⟩
    | halted h => exact ⟨fun ⟨_, he, _⟩ => (nomatch he), fun hw => absurd h hw.not_halts⟩
    | written bs hr hh h =>
      rw [← h]
      constructor
      · rintro ⟨bs', heq, hd⟩
        rwa [Except.ok.inj heq]
      · exact fun hd => ⟨bs, rfl, hd⟩
  rw [exists_mapM_iff]
  exact ⟨fun h x hx => (hcell x hx).mp (h x hx), fun h x hx => (hcell x hx).mpr (h x hx)⟩

/-- The values of a set of parameters as JSON values. -/
def jsonColumns (params : List (List Parameter)) : List (List Json.Value) :=
  params.map fun c => c.map parameterToJson

/-- The cells of a set of parameters hold the values of parameters. -/
theorem scalar_of_mem_cells {params : List (List Parameter)} {columns : List ParameterColumn}
    {numRows : ℕ} {x : ParameterColumn × Json.Value}
    (h : x ∈ cells (jsonColumns params) columns numRows) : Scalar x.2 := by
  obtain ⟨row, -, hx⟩ := List.mem_flatMap.mp h
  obtain ⟨⟨colValues, column⟩, hp, rfl⟩ := List.mem_map.mp hx
  obtain ⟨values, -, rfl⟩ := List.mem_map.mp (List.of_mem_zip hp).1
  show Scalar (((values.map parameterToJson)[row]?).getD .null)
  rw [List.getElem?_map]
  cases values[row]? with
  | none => exact ⟨.null, rfl⟩
  | some p => exact ⟨p, rfl⟩

/-- **A set of parameters is sent as the values it holds, or not at all, exactly when a
value is refused or all values are writable.** -/
theorem sentFaithfully_iff (lib : EncoderLibraries) (handle : PreparedStatementHandle)
    (params : List (List Parameter)) (limit : ℕ) (h : Rectangular (jsonColumns params)) :
    SentFaithfully lib handle (jsonColumns params) limit ↔
      RefusedFirst lib (cells (jsonColumns params) (parameterColumns handle (jsonColumns params))
        (rowCount (jsonColumns params))) ∨
      ∀ x ∈ cells (jsonColumns params) (parameterColumns handle (jsonColumns params))
        (rowCount (jsonColumns params)), Writable lib x.1.wireType x.1.scale x.2 := by
  have hscalar := fun x hx => @scalar_of_mem_cells params
    (parameterColumns handle (jsonColumns params)) (rowCount (jsonColumns params)) x hx
  rw [← mapM_writeCell_fail_iff hscalar, ← mapM_writeCell_denotes_iff hscalar]
  generalize jsonColumns params = cols at h ⊢
  have hrows := @writeParameterRows_eq lib cols (parameterColumns handle cols) _ h
  have hsplit := splitParameterRows_spec lib handle cols limit h
  unfold SentFaithfully buildExecutePreparedPayload
  dsimp only [Option.getD_some]
  rw [hrows] at hsplit ⊢
  generalize hxs : cells cols (parameterColumns handle cols) (rowCount cols) = xs at *
  constructor
  · rintro (⟨e, he, -⟩ | ⟨bss, hd, -⟩)
    · refine .inl ⟨e, ?_⟩
      cases hm : xs.mapM (writeCell lib) with
      | ok bss => rw [hm] at he; cases he
      | error e' => rw [hm] at he; obtain rfl := Except.error.inj he; rfl
    · exact .inr ⟨bss, mapM_eq_ok.mpr (hd.imp fun _ _ h => h.1), hd.imp fun _ _ h => h.2⟩
  · rintro (⟨e, he⟩ | ⟨bss, hok, hd⟩)
    · rw [he] at hsplit ⊢
      rcases hsplit with ⟨encoded, -, hs⟩ | ⟨e', hencoded, he'⟩
      · have hr := hs.rows
        rw [hs.columns, hrows, he] at hr
        cases hr
      · obtain rfl := Except.error.inj he'
        exact .inl ⟨e, rfl, hencoded⟩
    · rw [hok] at hsplit ⊢
      rcases hsplit with ⟨encoded, hencoded, hs⟩ | ⟨e', -, he'⟩
      · have hr := hs.rows
        rw [hs.columns, hrows, hok] at hr
        refine .inr ⟨bss, ?_, rfl, encoded, hencoded, (Except.ok.inj hr).symm⟩
        exact (mapM_eq_ok.mp hok).mp (fun _ _ hw hd => ⟨hw, hd⟩) hd
      · cases he'

end Sets

/-- A statement with one parameter that is reported as a decimal of 18 digits, two of them
after the point. -/
def decimalStatement : PreparedStatementHandle where
  handle := 7
  numParams := 1
  parameterTypes := [{ typeName := "DECIMAL", precision := some 18, scale := some 2 }]

/-- A single boolean is sent as what it is. -/
theorem sentFaithfully_iff_boolean :
    SentFaithfully plainEncoderLibraries { decimalStatement with parameterTypes := [] }
      (jsonColumns [[.boolean true]]) 0 ↔
      RefusedFirst plainEncoderLibraries (cells (jsonColumns [[.boolean true]])
        (parameterColumns { decimalStatement with parameterTypes := [] }
          (jsonColumns [[.boolean true]])) (rowCount (jsonColumns [[.boolean true]]))) ∨
      ∀ x ∈ cells (jsonColumns [[.boolean true]])
        (parameterColumns { decimalStatement with parameterTypes := [] }
          (jsonColumns [[.boolean true]])) (rowCount (jsonColumns [[.boolean true]])),
        Writable plainEncoderLibraries x.1.wireType x.1.scale x.2 :=
  sentFaithfully_iff _ _ _ _ (List.forall_mem_singleton.mpr rfl)

/-- **A decimal text is sent as zero.** -/
theorem not_sentFaithfully_decimalText :
    ¬SentFaithfully plainEncoderLibraries decimalStatement (jsonColumns [[.string "1.23"]])
      (2 ^ 26) := by
  have hwritten : writeCell plainEncoderLibraries (⟨"param0", .decimal, 2⟩, .string "1.23") =
      .ok (1 :: toLE 8 (0 : SInt 64).val) := by decide +kernel
  have hcells : cells (jsonColumns [[.string "1.23"]])
      (parameterColumns decimalStatement (jsonColumns [[.string "1.23"]]))
      (rowCount (jsonColumns [[.string "1.23"]])) =
        [(⟨"param0", .decimal, 2⟩, .string "1.23")] := rfl
  have hvalue : Numeral.value? "1.23".toList = some (123 / 100) := by decide +kernel
  rintro (⟨e, he, -⟩ | ⟨bss, hd, -⟩)
  · have hok : ∃ payload, buildExecutePreparedPayload plainEncoderLibraries decimalStatement
        (some (jsonColumns [[.string "1.23"]])) = .ok payload := ⟨_, rfl⟩
    obtain ⟨payload, hok⟩ := hok
    rw [he] at hok
    cases hok
  · rw [hcells] at hd
    obtain ⟨bs, rest, ⟨hbs, hdenotes⟩, -, -⟩ := List.forall₂_cons_left_iff.mp hd
    obtain ⟨body, hbody, n, hn, q, hq, hnear⟩ := hdenotes
    rw [hwritten] at hbs
    rw [← Except.ok.inj hbs] at hbody
    have hzero := toLE_injective ((List.cons.inj hbody).2.trans hn)
    obtain rfl := Option.some.inj (hvalue.symm.trans hq)
    rw [← hzero] at hnear
    change |((0 : ℤ) : ℚ) - 123 / 100 * 10 ^ (2 : ℤ)| ≤ 1 / 2 at hnear
    norm_num at hnear

end Exarrow.Native
