import Exarrow.Formatting
import Exarrow.Prepared

/-!
# Binding Arrow data to a prepared statement

The rows of a bound record batch become rows of parameters
(`Exarrow.Ffi.boundRows`), value by value (`Exarrow.Ffi.arrowValueToParameter`),
and then columns of JSON values. What a JSON value means for an Arrow value of a
given type is `Exarrow.Ffi.Denotes`: the same number, the same text, the same
bytes, the same day, the same instant floored to the microsecond, the decimal
with its scale.

A value that converts is denoted by its JSON value **exactly when it is plain**
(`Exarrow.Ffi.denotes_iff_plain`): a float that is finite, a decimal whose scale
is not negative unless the value is zero, and whose power of ten fits 128 bits
unless the value stays below what is left of it. Everything else that is not
plain fails.
-/

namespace Exarrow.Ffi

open Machine Ieee Checked Calendar Arrow Numeral

/-! ### Errors -/

/-- The kind of an ADBC error. -/
inductive AdbcStatus where
  | invalidState
  | invalidArguments
  | internal
  | notFound
  | notImplemented
  deriving DecidableEq

/-- What an ADBC error tells: a text, the text of another error, or a text with
the place of the value it is about. -/
inductive AdbcMessage where
  | text (s : String)
  | connection (e : ConnectionError)
  | query (e : QueryError)
  | arrow (e : ArrowError)
  | unsupported (t : DataType)
  | atCell (column row : ℕ) (m : AdbcMessage)

/-- An ADBC error. -/
structure AdbcError where
  /-- What it tells. -/
  message : AdbcMessage
  /-- Its kind. -/
  status : AdbcStatus

/-- An argument of the caller is wrong. -/
def invalidArgument (m : String) : AdbcError := ⟨.text m, .invalidArguments⟩

/-- A failed query as an ADBC error. -/
def toAdbcError (e : QueryError) : AdbcError := ⟨.query e, .internal⟩

/-- A failed batch execution; a parameter count that differs is the caller's. -/
def batchExecutionError (e : QueryError) : AdbcError :=
  match e with
  | .parameterBindingError .. => ⟨.query e, .invalidArguments⟩
  | e => toAdbcError e

/-! ### Values -/

section Values

variable (ov : Overflow) (chrono : Chrono)

/-- The text of a decimal: the number itself when the scale is not positive, else
the quotient and the remainder by the power of ten with a point between. A power
of ten is even, so the quotient never leaves its type. -/
def decimalText (raw : SInt 128) (scale : SInt 8) : Exec AdbcError (List Char) :=
  if scale.val ≤ 0 then .ok (intText raw.val)
  else do
    let divisor ← pow10 ov scale.val.toNat
    if divisor.val = 0 then stop
    else
      let whole := raw.val.tdiv divisor.val
      let frac := (raw.val.tmod divisor.val).natAbs
      return (if raw.val < 0 ∧ whole = 0 then ['-'] else []) ++
        (intText whole ++ '.' :: pad scale.val.toNat (natText frac))

/-- A value that is not null as a parameter. -/
def valueToParameter : (t : DataType) → t.Native → Exec AdbcError Parameter
  | .boolean, b => .ok (.boolean b)
  | .int16, v => .ok (.integer (v.extend 64 SInt.le_16_64))
  | .int32, v => .ok (.integer (v.extend 64 SInt.le_32_64))
  | .int64, v => .ok (.integer v)
  | .float32, v => .ok (.float (widen v))
  | .float64, v => .ok (.float v)
  | .utf8, s => .ok (.string s)
  | .largeUtf8, s => .ok (.string s)
  | .binary, b => .ok (.binary b)
  | .largeBinary, b => .ok (.binary b)
  | .date32, v =>
    match formatDate32 chrono v with
    | .ok s => .ok (.string (String.ofList s))
    | .error e => fail (invalidArgument e)
  | .timestamp unit _, v =>
    match formatTimestamp chrono unit v with
    | .ok s => .ok (.string (String.ofList s))
    | .error e => fail (invalidArgument e)
  | .decimal128 _ scale, v => do return .string (String.ofList (← decimalText ov v scale))
  | t, _ => fail ⟨.unsupported t, .notImplemented⟩

/-- A value that may be null as a parameter. -/
def cellToParameter (t : DataType) : Option t.Native → Exec AdbcError Parameter
  | none => .ok .null
  | some v => valueToParameter ov chrono t v

/-- The value of a column at a row as a parameter. -/
def arrowValueToParameter (array : Column) (row : ℕ) : Exec AdbcError Parameter :=
  match array.cells[row]? with
  | some cell => cellToParameter ov chrono array.dataType cell
  | none => stop

/-- The parameters of a row, from a column onwards; an error names its place. -/
def boundRow (row : ℕ) : ℕ → List Column → Exec AdbcError (List Parameter)
  | _, [] => .ok []
  | col, array :: arrays => do
    let p ← mapError (fun e => { e with message := .atCell col row e.message })
      (arrowValueToParameter ov chrono array row)
    return p :: (← boundRow row (col + 1) arrays)

/-- Every row of a batch as parameters. -/
def boundRows (batch : RecordBatch) : Exec AdbcError (List (List Parameter)) :=
  (List.range batch.numRows).mapM fun row => boundRow ov chrono row 0 batch.columns

end Values

/-- Whether each bound row needs an execution of its own. -/
def runsPerRow (prepared : PreparedStatement) (rows : List (List Parameter)) : Bool :=
  !prepared.handle.resultColumns.isEmpty || (rows.head?.map List.isEmpty).getD false

/-! ### What a JSON value means for an Arrow value -/

/-- The number below sixteen that a lower-case hexadecimal digit denotes. -/
def hexValue? (c : Char) : Option ℕ := (List.range 16).find? fun n => hexDigit n = c

/-- The bytes that a text of hexadecimal digits denotes. -/
def readHex? : List Char → Option (List UInt8)
  | [] => some []
  | [_] => none
  | a :: b :: s => do return UInt8.ofNat (16 * (← hexValue? a) + (← hexValue? b)) :: (← readHex? s)

/-- The JSON value stands for exactly the Arrow value. -/
def Denotes : (t : DataType) → t.Native → Json.Value → Prop
  | .boolean, b, j => j = .bool b
  | .int16, v, j => j.asI64.map SInt.val = some v.val
  | .int32, v, j => j.asI64.map SInt.val = some v.val
  | .int64, v, j => j.asI64.map SInt.val = some v.val
  | .float32, v, j => v.isFinite = true ∧ ∃ f h, j = .number (.float f h) ∧ f.neg = v.neg ∧
    f.toRat = v.toRat
  | .float64, v, j => ∃ h, j = .number (.float v h)
  | .utf8, s, j => j = .string s
  | .largeUtf8, s, j => j = .string s
  | .binary, b, j => ∃ s, j = .string (String.ofList s) ∧ readHex? s = some b
  | .largeBinary, b, j => ∃ s, j = .string (String.ofList s) ∧ readHex? s = some b
  | .date32, v, j => ∃ s d, j = .string (String.ofList s) ∧ readDate? s = some d ∧
    d.dayNumber = v.val
  | .timestamp unit _, v, j => ∃ s, j = .string (String.ofList s) ∧
    readInstant? s = some (instantMicros unit v.val)
  | .decimal128 _ scale, v, j => ∃ s, j = .string (String.ofList s) ∧
    value? s = some ((v.val : ℚ) * 10 ^ (-scale.val))
  | _, _, _ => False

/-- A JSON value is right for a cell: `null` for a null, and for a value one that
denotes it and is not `null`. -/
def CellFaithful (t : DataType) : Option t.Native → Json.Value → Prop
  | none, j => j = .null
  | some v, j => j ≠ .null ∧ Denotes t v j

/-- Columns of JSON values that hold a batch, value for value in its place; no
columns at all for a batch without rows. -/
def Faithful (batch : RecordBatch) : Option (List (List Json.Value)) → Prop
  | none => batch.numRows = 0
  | some data =>
    List.Forall₂ (fun array => List.Forall₂ (CellFaithful array.dataType) array.cells)
      batch.columns data

/-- A plain value: a float that is finite; a decimal that is zero or whose scale
is not negative, and, where its power of ten leaves 128 bits and the high bits
are dropped, one that is smaller than what is left of that power. -/
def Plain (ov : Overflow) : (t : DataType) → t.Native → Prop
  | .float32, v => v.isFinite = true
  | .float64, v => v.isFinite = true
  | .decimal128 _ scale, v => (scale.val < 0 → v.val = 0) ∧
    (38 < scale.val → ov = .wraps →
      |v.val| < |((10 : ℤ) ^ scale.val.toNat).bmod (2 ^ 128)|)
  | _, _ => True

/-! ### Bytes and decimals -/

theorem hexValue?_hexDigit : ∀ n < 16, hexValue? (hexDigit n) = some n := by decide

/-- **Hexadecimal text denotes the bytes it was made from.** -/
theorem readHex?_hexEncode (b : List UInt8) : readHex? (hexEncode b) = some b := by
  induction b with
  | nil => rfl
  | cons x b ih =>
    have hx := x.toNat_lt
    have h : hexEncode (x :: b) =
        hexDigit (x.toNat / 16) :: hexDigit (x.toNat % 16) :: hexEncode b := rfl
    rw [h, readHex?, hexValue?_hexDigit _ (by omega), hexValue?_hexDigit _ (by omega), ih]
    simp only [Option.bind_eq_bind, Option.bind_some]
    rw [Nat.div_add_mod, UInt8.ofNat_toNat]
    rfl

/-- The value of a quotient and a remainder with a point between. -/
theorem value?_quotient {whole : ℤ} {frac s : ℕ} (hs : 0 < s) (hf : frac < 10 ^ s) {neg : Prop}
    [Decidable neg] (hneg : neg → whole = 0) :
    value? ((if neg then ['-'] else []) ++ (intText whole ++ '.' :: pad s (natText frac))) =
      some ((if neg ∨ whole < 0 then -1 else 1) * ((whole.natAbs : ℚ) + frac / 10 ^ s)) := by
  have hlen : (pad s (natText frac)).length = s := length_pad (length_natText_le hs hf)
  have hd := allDigits_natText whole.natAbs
  have hp := allDigits_pad (w := s) (allDigits_natText frac)
  have hne : pad s (natText frac) ≠ [] := by
    intro h
    rw [h] at hlen
    exact absurd hlen (by simpa using hs.ne)
  by_cases hn : neg
  · have h0 := hneg hn
    rw [if_pos hn, if_pos (.inl hn), h0]
    have h := value?_neg_point (natText_ne_nil 0) (allDigits_natText 0) hne hp
    rw [ofDigits_natText, ofDigits_pad, ofDigits_natText, hlen] at h
    exact h.trans (congrArg some (by simp))
  · by_cases hw : whole < 0
    · rw [if_neg hn, if_pos (.inr hw), List.nil_append, intText, if_pos hw, List.cons_append,
        value?_neg_point (natText_ne_nil _) hd hne hp, ofDigits_natText, ofDigits_pad,
        ofDigits_natText, hlen]
      exact congrArg some (by ring)
    · rw [if_neg hn, if_neg (not_or.mpr ⟨hn, hw⟩), List.nil_append, intText, if_neg hw,
        value?_point (natText_ne_nil _) hd hne hp, ofDigits_natText, ofDigits_pad,
        ofDigits_natText, hlen, one_mul]

/-- A number is its size with its sign. -/
theorem sign_mul_natAbs (x : ℤ) : (if x < 0 then -1 else 1) * ((x.natAbs : ℕ) : ℚ) = x := by
  by_cases hx : x < 0
  · have h : ((x.natAbs : ℕ) : ℤ) = -x := by omega
    rw [if_pos hx, ← Int.cast_natCast, h]
    push_cast
    ring
  · have h : ((x.natAbs : ℕ) : ℤ) = x := by omega
    rw [if_neg hx, ← Int.cast_natCast, h, one_mul]

/-- A power of ten is exact up to 38 digits. -/
theorem pow10_eq_ok {ε : Type} {ov : Overflow} {e : ℕ} {d : SInt 128}
    (h : (pow10 ov e : Exec ε (SInt 128)) = .ok d) :
    (e ≤ 38 → d.val = 10 ^ e) ∧
      (38 < e → ov = .wraps ∧ d.val = ((10 : ℤ) ^ e).bmod (2 ^ 128)) := by
  have hlt (he : e ≤ 38) : (10 : ℤ) ^ e < 2 ^ (128 - 1) :=
    lt_of_le_of_lt (pow_le_pow_right₀ (by norm_num) he) (by norm_num)
  have hge (he : 38 < e) : (2 : ℤ) ^ (128 - 1) ≤ 10 ^ e :=
    le_trans (by norm_num) (pow_le_pow_right₀ (show (1 : ℤ) ≤ 10 by norm_num) he)
  have hpos : (0 : ℤ) ≤ 10 ^ e := by positivity
  rcases fit_eq_ok h with hv | ⟨hout, hov, hv⟩
  · refine ⟨fun _ => hv, fun he => ?_⟩
    have h1 := d.lt
    rw [hv] at h1
    exact absurd h1 (not_lt.mpr (hge he))
  · refine ⟨fun he => ?_, fun _ => ⟨hov, hv⟩⟩
    exact absurd ⟨le_trans (neg_nonpos.mpr (by positivity)) hpos, hlt he⟩ hout

/-- The size of a 128-bit number is below the thirty-ninth power of ten. -/
theorem natAbs_lt_pow (raw : SInt 128) {s : ℕ} (hs : 38 < s) : raw.val.natAbs < 10 ^ s := by
  have h1 := raw.ge
  have h2 := raw.lt
  have h3 : (10 : ℕ) ^ 39 ≤ 10 ^ s := Nat.pow_le_pow_right (by norm_num) hs
  norm_num at h1 h2 h3
  omega

/-- The quotient by a power of ten is negative, or zero for a negative number,
exactly for the negative numbers; so is the quotient by anything larger. -/
theorem sign_iff {raw D : ℤ} (h : 0 < D ∨ raw.natAbs < D.natAbs) :
    (raw < 0 ∧ raw.tdiv D = 0) ∨ raw.tdiv D < 0 ↔ raw < 0 := by
  have hq : (raw.tdiv D).natAbs = raw.natAbs / D.natAbs := Int.natAbs_tdiv raw D
  rcases h with hD | hlt
  · rcases lt_or_ge raw 0 with hr | hr
    · have h1 := Int.tdiv_nonneg (neg_nonneg.mpr hr.le) hD.le
      rw [Int.neg_tdiv] at h1
      exact ⟨fun _ => hr, fun _ => by omega⟩
    · have h1 := Int.tdiv_nonneg hr hD.le
      exact ⟨fun h => by omega, fun h => by omega⟩
  · rw [Nat.div_eq_of_lt hlt, Int.natAbs_eq_zero] at hq
    rw [hq]
    exact ⟨fun h => by omega, fun h => .inl ⟨h, rfl⟩⟩

/-- A quotient and a remainder with a point between denote the scaled number
exactly when the divisor is the power of ten, or larger than the number. -/
theorem value?_quotient_iff {raw D : ℤ} {S : ℕ} (hS : 0 < S) (hD : D ≠ 0)
    (hsize : D = 10 ^ S ∨ raw.natAbs < 10 ^ S) :
    value? ((if raw < 0 ∧ raw.tdiv D = 0 then ['-'] else []) ++
        (intText (raw.tdiv D) ++ '.' :: pad S (natText (raw.tmod D).natAbs))) =
      some ((raw : ℚ) * 10 ^ (-(S : ℤ))) ↔ D = 10 ^ S ∨ |raw| < |D| := by
  have hpow : (0 : ℚ) < 10 ^ S := by positivity
  have hr : (raw.tmod D).natAbs = raw.natAbs % D.natAbs := Int.natAbs_tmod raw D
  have hq : (raw.tdiv D).natAbs = raw.natAbs / D.natAbs := Int.natAbs_tdiv raw D
  have hnat (h : D = 10 ^ S) : D.natAbs = 10 ^ S := by rw [h, Int.natAbs_pow]; rfl
  have hf : (raw.tmod D).natAbs < 10 ^ S := by
    rw [hr]
    rcases hsize with h | h
    · rw [hnat h]
      exact Nat.mod_lt _ (Nat.pow_pos (by norm_num))
    · exact lt_of_le_of_lt (Nat.mod_le ..) h
  rw [value?_quotient hS hf And.right, Option.some.injEq, hq, hr, zpow_neg, zpow_natCast]
  constructor
  · -- A quotient that is not zero is too large for what should be a fraction.
    intro heq
    by_contra hne
    obtain ⟨hne, hge⟩ := not_or.mp hne
    have hlt := hsize.resolve_left hne
    have hge' : D.natAbs ≤ raw.natAbs := by
      rw [not_lt, Int.abs_eq_natAbs, Int.abs_eq_natAbs] at hge
      exact_mod_cast hge
    have hone : 1 ≤ raw.natAbs / D.natAbs :=
      Nat.div_pos hge' (Int.natAbs_pos.mpr hD)
    have habs := congrArg abs heq
    rw [abs_mul, abs_mul, abs_inv, abs_of_pos hpow] at habs
    have hsgn : |if (raw < 0 ∧ raw.tdiv D = 0) ∨ raw.tdiv D < 0 then (-1 : ℚ) else 1| = 1 := by
      split <;> simp
    rw [hsgn, one_mul, abs_of_nonneg (by positivity)] at habs
    have hraw : |(raw : ℚ)| < 10 ^ S := by
      rw [← sign_mul_natAbs raw, abs_mul]
      have hs1 : |if raw < 0 then (-1 : ℚ) else 1| = 1 := by split <;> simp
      rw [hs1, one_mul, Nat.abs_cast]
      exact_mod_cast hlt
    have hfrac : |(raw : ℚ)| * (10 ^ S)⁻¹ < 1 := by
      rw [← div_eq_mul_inv, div_lt_one hpow]
      exact hraw
    have hone' : (1 : ℚ) ≤ ((raw.natAbs / D.natAbs : ℕ) : ℚ) := by exact_mod_cast hone
    have hrem : (0 : ℚ) ≤ ((raw.natAbs % D.natAbs : ℕ) : ℚ) / 10 ^ S := by positivity
    linarith
  · intro h
    have hsign : (raw < 0 ∧ raw.tdiv D = 0) ∨ raw.tdiv D < 0 ↔ raw < 0 := by
      refine sign_iff ?_
      rcases h with h | h
      · exact .inl (h ▸ by positivity)
      · rw [Int.abs_eq_natAbs, Int.abs_eq_natAbs] at h
        exact .inr (by exact_mod_cast h)
    have hsum : ((raw.natAbs / D.natAbs : ℕ) : ℚ) + ((raw.natAbs % D.natAbs : ℕ) : ℚ) / 10 ^ S =
        raw.natAbs * (10 ^ S)⁻¹ := by
      rcases h with h | h
      · have hdm := Nat.div_add_mod raw.natAbs (10 ^ S)
        rw [hnat h]
        have hdm' : (raw.natAbs : ℚ) = 10 ^ S * ((raw.natAbs / 10 ^ S : ℕ) : ℚ) +
            ((raw.natAbs % 10 ^ S : ℕ) : ℚ) := by exact_mod_cast hdm.symm
        rw [hdm']
        field_simp
      · have hlt : raw.natAbs < D.natAbs := by
          rw [Int.abs_eq_natAbs, Int.abs_eq_natAbs] at h
          exact_mod_cast h
        rw [Nat.div_eq_of_lt hlt, Nat.mod_eq_of_lt hlt, Nat.cast_zero, zero_add, div_eq_mul_inv]
    rw [hsum, ← mul_assoc]
    simp only [hsign]
    rw [sign_mul_natAbs]

/-- **The text of a decimal denotes the value exactly when the value is plain.** -/
theorem decimalText_denotes_iff {ov : Overflow} {p : UInt8} {raw : SInt 128} {scale : SInt 8}
    {s : List Char} (h : decimalText ov raw scale = .ok s) :
    value? s = some ((raw.val : ℚ) * 10 ^ (-scale.val)) ↔ Plain ov (.decimal128 p scale) raw := by
  unfold decimalText at h
  split at h
  · -- Without a point the text is the raw number, whatever the scale.
    rename_i hle
    cases h
    rw [value?_intText, Option.some.injEq]
    constructor
    · intro heq
      refine ⟨fun hneg => ?_, fun h38 => absurd h38 (by omega)⟩
      by_contra hraw
      have hraw' : (raw.val : ℚ) ≠ 0 := by exact_mod_cast hraw
      have hone : (1 : ℚ) < 10 ^ (-scale.val) := one_lt_zpow₀ (by norm_num) (by omega)
      have hcancel : (1 : ℚ) = 10 ^ (-scale.val) :=
        mul_left_cancel₀ hraw' (by rw [mul_one]; exact heq)
      exact absurd hcancel hone.ne
    · rintro ⟨hneg, -⟩
      rcases lt_or_eq_of_le hle with hlt | heq
      · rw [hneg hlt]
        simp
      · rw [heq]
        simp
  · -- With a point, the quotient and the remainder by the power make up the number.
    rename_i hle
    obtain ⟨S, hS⟩ : ∃ S : ℕ, scale.val = S := ⟨scale.val.toNat, by omega⟩
    have hS0 : 0 < S := by omega
    rw [hS, Int.toNat_natCast] at h
    cases hd : (pow10 ov S : Exec AdbcError (SInt 128)) with
    | error e => rw [hd] at h; cases h
    | ok D =>
      rw [hd] at h
      obtain ⟨hsmall, hlarge⟩ := pow10_eq_ok hd
      change (if D.val = 0 then _ else _) = _ at h
      split at h
      · cases h
      · rename_i hD
        cases h
        have hsize : D.val = 10 ^ S ∨ raw.val.natAbs < 10 ^ S := by
          rcases Nat.lt_or_ge 38 S with h38 | h38
          · exact .inr (natAbs_lt_pow raw h38)
          · exact .inl (hsmall h38)
        rw [hS, value?_quotient_iff hS0 hD hsize]
        change _ ↔ (scale.val < 0 → _) ∧ (38 < scale.val → _)
        rw [hS, Int.toNat_natCast]
        rcases Nat.lt_or_ge 38 S with h38 | h38
        · obtain ⟨hov, hDv⟩ := hlarge h38
          have hne : D.val ≠ 10 ^ S := by
            have h1 := D.lt
            have h2 : (10 : ℤ) ^ 39 ≤ 10 ^ S := pow_le_pow_right₀ (by norm_num) h38
            norm_num at h1 h2
            omega
          rw [← hDv]
          exact ⟨fun h => ⟨fun h0 => by omega, fun _ _ => h.resolve_left hne⟩,
            fun h => .inr (h.2 (by exact_mod_cast h38) hov)⟩
        · exact ⟨fun _ => ⟨fun h0 => by omega, fun h0 => by omega⟩, fun _ => .inl (hsmall h38)⟩

/-! ### One value -/

section Denotation

variable {ov : Overflow} {chrono : Chrono}

theorem ofI64_ne_null (n : SInt 64) : Json.ofI64 n ≠ .null := by
  unfold Json.ofI64
  split <;> intro h <;> cases h

/-- An integer of any width denotes itself. -/
theorem asI64_extend {w : ℕ} (hw : w ≤ 64) (v : SInt w) :
    (Json.ofI64 (v.extend 64 hw)).asI64.map SInt.val = some v.val := by
  rw [Json.asI64_ofI64, Option.map_some, SInt.val_extend]

/-- A float is a number of JSON exactly when it is finite. -/
theorem ofFloat_eq_number {f g : F64} :
    (∃ h, Json.ofFloat f = .number (.float g h)) ↔ f = g ∧ f.isFinite = true := by
  unfold Json.ofFloat
  split
  · rename_i hf
    constructor
    · rintro ⟨h, heq⟩
      cases heq
      exact ⟨rfl, h⟩
    · rintro ⟨rfl, h⟩
      exact ⟨h, rfl⟩
  · rename_i hf
    constructor
    · rintro ⟨h, heq⟩
      cases heq
    · rintro ⟨-, h⟩
      exact absurd h hf

/-- A float of JSON is not `null`. -/
theorem ofFloat_ne_null {f : F64} (h : f.isFinite = true) : Json.ofFloat f ≠ .null := by
  obtain ⟨h', heq⟩ := ofFloat_eq_number.mpr ⟨rfl, h⟩
  rw [heq]
  intro h
  cases h

/-- **A value that converts is denoted by its JSON value exactly when it is
plain.** -/
theorem denotes_iff_plain {t : DataType} {v : t.Native} {p : Parameter}
    (h : valueToParameter ov chrono t v = .ok p) :
    (parameterToJson p ≠ .null ∧ Denotes t v (parameterToJson p)) ↔ Plain ov t v := by
  cases t with
  | boolean =>
    cases h
    exact ⟨fun _ => trivial, fun _ => ⟨fun h => (nomatch h), rfl⟩⟩
  | int16 =>
    cases h
    exact ⟨fun _ => trivial, fun _ => ⟨ofI64_ne_null _, asI64_extend _ _⟩⟩
  | int32 =>
    cases h
    exact ⟨fun _ => trivial, fun _ => ⟨ofI64_ne_null _, asI64_extend _ _⟩⟩
  | int64 =>
    cases h
    exact ⟨fun _ => trivial, fun _ => ⟨ofI64_ne_null _,
      congrArg (Option.map SInt.val) (Json.asI64_ofI64 v)⟩⟩
  | float32 =>
    cases h
    have hfin : (widen v).isFinite = Pattern.isFinite v := by
      rw [Pattern.isFinite, Pattern.isFinite, isSpecial_widen]
    constructor
    · rintro ⟨-, hv, -⟩
      exact hv
    · intro hv
      have hv' : (widen v).isFinite = true := hfin.trans hv
      obtain ⟨hf, heq⟩ := ofFloat_eq_number.mpr ⟨rfl, hv'⟩
      refine ⟨ofFloat_ne_null hv', hv, widen v, hf, heq, neg_widen v, toRat_widen v ?_⟩
      exact (Bool.not_eq_true' _).mp hv
  | float64 =>
    cases h
    constructor
    · rintro ⟨-, hv⟩
      exact (ofFloat_eq_number.mp hv).2
    · intro hv
      exact ⟨ofFloat_ne_null hv, ofFloat_eq_number.mpr ⟨rfl, hv⟩⟩
  | utf8 =>
    cases h
    exact ⟨fun _ => trivial, fun _ => ⟨fun h => (nomatch h), rfl⟩⟩
  | largeUtf8 =>
    cases h
    exact ⟨fun _ => trivial, fun _ => ⟨fun h => (nomatch h), rfl⟩⟩
  | binary =>
    cases h
    exact ⟨fun _ => trivial, fun _ => ⟨fun h => (nomatch h), _, rfl, readHex?_hexEncode v⟩⟩
  | largeBinary =>
    cases h
    exact ⟨fun _ => trivial, fun _ => ⟨fun h => (nomatch h), _, rfl, readHex?_hexEncode v⟩⟩
  | date32 =>
    rw [valueToParameter] at h
    split at h
    · rename_i s hs
      cases h
      obtain ⟨d, hd, hday⟩ := readDate?_of_formatDate32 hs
      exact ⟨fun _ => trivial, fun _ => ⟨fun h => (nomatch h), s, d, rfl, hd, hday⟩⟩
    · cases h
  | timestamp unit tz =>
    rw [valueToParameter] at h
    split at h
    · rename_i s hs
      cases h
      exact ⟨fun _ => trivial, fun _ => ⟨fun h => (nomatch h), s, rfl,
        readInstant?_of_formatTimestamp hs⟩⟩
    · cases h
  | decimal128 precision scale =>
    rw [valueToParameter] at h
    cases hs : decimalText ov v scale with
    | error e => rw [hs] at h; cases h
    | ok s =>
      rw [hs] at h
      cases h
      rw [← decimalText_denotes_iff (p := precision) hs]
      constructor
      · rintro ⟨-, s', heq, hval⟩
        rw [parameterToJson, Json.Value.string.injEq, String.ofList_inj] at heq
        rw [heq]
        exact hval
      · intro hval
        exact ⟨fun h => (nomatch h), s, rfl, hval⟩
  | int8 | uint8 | uint16 | uint32 | uint64 => cases h
  | utf8View | binaryView | fixedSizeBinary size => cases h
  | date64 | interval unit | decimal256 precision scale => cases h
  | dictionary key value | other name => cases h

/-- A cell that converts is faithful exactly when its value, if any, is plain. -/
theorem cellFaithful_iff {t : DataType} {cell : Option t.Native} {p : Parameter}
    (h : cellToParameter ov chrono t cell = .ok p) :
    CellFaithful t cell (parameterToJson p) ↔ ∀ v, cell = some v → Plain ov t v := by
  cases cell with
  | none =>
    cases h
    exact ⟨fun _ v hv => (nomatch hv), fun _ => rfl⟩
  | some v =>
    refine (denotes_iff_plain h).trans ⟨fun hp v' hv' => ?_, fun hp => hp v rfl⟩
    cases hv'
    exact hp

/-! ### A batch -/

/-- The parameters of a row are those of its columns, one by one. -/
theorem forall₂_of_boundRow {row col : ℕ} {arrays : List Column} {params : List Parameter}
    (h : boundRow ov chrono row col arrays = .ok params) :
    List.Forall₂ (fun array p => arrowValueToParameter ov chrono array row = .ok p)
      arrays params := by
  induction arrays generalizing col params with
  | nil =>
    cases h
    exact .nil
  | cons array arrays ih =>
    rw [boundRow] at h
    cases hp : mapError (fun e : AdbcError => { e with message := .atCell col row e.message })
        (arrowValueToParameter ov chrono array row) with
    | error e => rw [hp] at h; cases h
    | ok p =>
      cases hps : boundRow ov chrono row (col + 1) arrays with
      | error e => rw [hp, hps] at h; cases h
      | ok ps =>
        rw [hp, hps] at h
        cases h
        exact .cons (mapError_eq_ok.mp hp) (ih hps)

/-- The rows of a batch that converts: one for each, in order. -/
theorem boundRows_eq_ok {batch : RecordBatch} {rows : List (List Parameter)}
    (h : boundRows ov chrono batch = .ok rows) : rows.length = batch.numRows ∧
      ∀ r row, rows[r]? = some row → List.Forall₂
        (fun array p => arrowValueToParameter ov chrono array r = .ok p) batch.columns row := by
  have h2 := mapM_eq_ok.mp h
  refine ⟨by simpa using h2.length_eq.symm, fun r row hrow => ?_⟩
  obtain ⟨hr, rfl⟩ := List.getElem?_eq_some_iff.mp hrow
  have hr' : r < (List.range batch.numRows).length := h2.length_eq ▸ hr
  have hget := List.forall₂_iff_get.mp h2 |>.2 r hr' hr
  simp only [List.get_eq_getElem, List.getElem_range] at hget
  exact forall₂_of_boundRow hget

/-- The value at a place of a batch that converts, and its JSON value. -/
theorem cellToParameter_of_boundRows {batch : RecordBatch} {rows : List (List Parameter)}
    (h : boundRows ov chrono batch = .ok rows) {c r : ℕ} (hc : c < batch.columns.length)
    {row : List Parameter} (hrow : rows[r]? = some row) :
    ∃ (hr : r < batch.columns[c].cells.length) (p : Parameter), row[c]? = some p ∧
      cellToParameter ov chrono batch.columns[c].dataType batch.columns[c].cells[r] = .ok p := by
  have h2 := (boundRows_eq_ok h).2 r row hrow
  have hc' : c < row.length := h2.length_eq ▸ hc
  have hget := List.forall₂_iff_get.mp h2 |>.2 c hc hc'
  simp only [List.get_eq_getElem, arrowValueToParameter] at hget
  split at hget
  · rename_i cell hcell
    obtain ⟨hr, rfl⟩ := List.getElem?_eq_some_iff.mp hcell
    exact ⟨hr, row[c], List.getElem?_eq_getElem hc', hget⟩
  · cases hget

/-- **Bound data is faithful exactly when every value is plain**: whenever the rows
of a batch convert and become columns of JSON values, these hold the batch, value
for value in its place, if and only if the batch has plain values only. -/
theorem faithful_iff_plain {prepared : PreparedStatement} {batch : RecordBatch}
    {rows : List (List Parameter)} {data : Option (List (List Json.Value))}
    (hrows : boundRows ov chrono batch = .ok rows)
    (hdata : prepared.buildBatchParametersData rows = .ok data) :
    Faithful batch data ↔
      ∀ array ∈ batch.columns, ∀ v, some v ∈ array.cells → Plain ov array.dataType v := by
  obtain ⟨hnum, hall⟩ := boundRows_eq_ok hrows
  obtain ⟨rfl, rfl⟩ | ⟨hne, hlen, rfl⟩ := PreparedStatement.buildBatchParametersData_eq_ok hdata
  · -- Without rows there is nothing to hold.
    rw [List.length_nil] at hnum
    refine ⟨fun _ array ha v hv => ?_, fun _ => hnum.symm⟩
    have hl := batch.lengths array ha
    rw [← hnum, Column.length, List.length_eq_zero_iff] at hl
    rw [hl] at hv
    cases hv
  · have hcount : batch.columns.length = prepared.parameterCount := by
      obtain ⟨row, rest, rfl⟩ := List.exists_cons_of_ne_nil hne
      rw [← hlen row (List.mem_cons_self ..)]
      exact (hall 0 row rfl).length_eq
    -- Place by place, the JSON value is the one of the cell there.
    have hcell (c : ℕ) (hc : c < batch.columns.length) :
        List.Forall₂ (CellFaithful batch.columns[c].dataType) batch.columns[c].cells
            (rows.map fun row => parameterToJson (row[c]?.getD .null)) ↔
          ∀ v : batch.columns[c].dataType.Native, some v ∈ batch.columns[c].cells →
            Plain ov batch.columns[c].dataType v := by
      have hl : batch.columns[c].cells.length = rows.length :=
        (batch.lengths _ (List.getElem_mem hc)).trans hnum.symm
      rw [List.forall₂_iff_get]
      simp only [List.length_map, List.get_eq_getElem, List.getElem_map]
      constructor
      · rintro ⟨-, hget⟩ v hv
        obtain ⟨r, hr, hcell⟩ := List.getElem_of_mem hv
        have hr' : r < rows.length := hl ▸ hr
        obtain ⟨hr2, p, hp, hconv⟩ :=
          cellToParameter_of_boundRows hrows hc (List.getElem?_eq_getElem hr')
        have := hget r hr hr'
        rw [hp, Option.getD_some] at this
        exact (cellFaithful_iff hconv).mp this v hcell
      · intro hplain
        refine ⟨hl, fun r hr hr' => ?_⟩
        obtain ⟨hr2, p, hp, hconv⟩ :=
          cellToParameter_of_boundRows hrows hc (List.getElem?_eq_getElem hr')
        rw [hp, Option.getD_some]
        exact (cellFaithful_iff hconv).mpr fun v hv => hplain v (hv ▸ List.getElem_mem hr)
    change List.Forall₂ _ _ _ ↔ _
    rw [List.forall₂_iff_get]
    simp only [List.length_map, List.length_range, List.get_eq_getElem, List.getElem_map,
      List.getElem_range]
    constructor
    · rintro ⟨-, hget⟩ array ha v hv
      obtain ⟨c, hc, rfl⟩ := List.getElem_of_mem ha
      exact (hcell c hc).mp (hget c hc (hcount ▸ hc)) v hv
    · intro hplain
      exact ⟨hcount, fun c hc _ => (hcell c hc).mpr (hplain _ (List.getElem_mem hc))⟩

end Denotation

/-! ### Values that are not plain, and values that are -/

/-- A batch of one decimal with digits 1. -/
def decimalBatch (scale : SInt 8) : RecordBatch where
  schema := ⟨[⟨"amount", .decimal128 38 scale, true, []⟩]⟩
  columns := [⟨.decimal128 38 scale, [some 1]⟩]
  numRows := 1
  admits := .cons ⟨rfl, fun h => nomatch h⟩ .nil
  lengths := by
    intro c hc
    rw [List.mem_singleton.mp hc]
    rfl

/-- A prepared statement with one parameter. -/
def oneParameter : PreparedStatement :=
  .new { handle := 7, numParams := 1 }

/-- **A negative scale is lost**: the decimal with digits 1 and scale −2, one
hundred, is bound as the text `1`. -/
theorem negative_scale_not_faithful :
    boundRows .panics .proleptic (decimalBatch (SInt.wrap 8 SInt.pos_8 (-2))) =
        .ok [[.string "1"]] ∧
      oneParameter.buildBatchParametersData [[.string "1"]] = .ok (some [[.string "1"]]) ∧
      ¬Faithful (decimalBatch (SInt.wrap 8 SInt.pos_8 (-2))) (some [[.string "1"]]) := by
  refine ⟨rfl, rfl, fun h => ?_⟩
  obtain ⟨hcol, -⟩ := List.forall₂_cons.mp h
  obtain ⟨hcell, -⟩ := List.forall₂_cons.mp hcol
  have hconv : valueToParameter .panics .proleptic (.decimal128 38 (SInt.wrap 8 SInt.pos_8 (-2)))
      1 = .ok (.string "1") := rfl
  exact absurd (((denotes_iff_plain hconv).mp hcell).1 (by decide)) (by decide)

/-- With scale 2 the same digits are bound as the text `0.01`, which is right. -/
theorem positive_scale_faithful :
    Faithful (decimalBatch 2) (some [[.string "0.01"]]) := by
  have hrows : boundRows .panics .proleptic (decimalBatch 2) =
      .ok [[.string "0.01"]] := rfl
  have hdata : oneParameter.buildBatchParametersData [[.string "0.01"]] =
      .ok (some [[.string "0.01"]]) := rfl
  refine (faithful_iff_plain hrows hdata).mpr fun array ha v hv => ?_
  obtain rfl := List.mem_singleton.mp ha
  obtain rfl := Option.some.inj (List.mem_singleton.mp hv)
  exact ⟨fun h => absurd h (by decide), fun h => absurd h (by decide)⟩

end Exarrow.Ffi
