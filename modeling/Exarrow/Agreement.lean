import Exarrow.ArrowConversion

/-!
# The two converters of result data

`Exarrow.ResultSet.columnMajorToRecordBatch` and
`Exarrow.ArrowConverter.convertToRecordBatch` make record batches of the same
data. One turns what it does not expect into a null, the other fails; where both
succeed they should agree, and they do **exactly when every value is one on which
they agree** (`Exarrow.converters_agree_iff`), which `Exarrow.CellAgrees` says for
one value of a column:

* a number of a decimal column that is an integer of 64 bits: after scaling it
  must still fit 64 bits;
* any other number of a decimal column: the fraction of the product with the power
  of ten must be below one half, and the shortest decimal of the rounded product
  exact;
* a text of a float column never;
* a text of a binary column only when it is empty;
* everything else always.
-/

namespace Exarrow

open Machine Ieee Checked Arrow

/-- The number fits 64 bits. -/
def FitsI64 (x : ℤ) : Prop := -2 ^ 63 ≤ x ∧ x < 2 ^ 63

/-- The two converters agree on a value of a column. -/
def CellAgrees (pf : Platform) : ExasolType → Json.Value → Prop
  | .decimal _ scale, .number n =>
    match n.asI64 with
    | some i =>
      FitsI64 ((i.val * 10 ^ (scale.val % 2 ^ 32).toNat).bmod (2 ^ 128))
    | none =>
      let product := F64.mul n.asF64 (pf.powi10 (scale.extend 32 SInt.le_8_32))
      Int.fract product.magnitude < 1 / 2 ∧ product.round.shortestValue = product.round.toRat
  | .double, .string _ => False
  | .geometry _, .string s => s = ""
  | .hashtype _, .string s => s = ""
  | _, _ => True

/-- The two converters agree on every value of a table. -/
def TableAgrees (pf : Platform) (columns : List Messages.ColumnInfo)
    (rows : List (List Json.Value)) : Prop :=
  ∀ (index : ℕ) (col : Messages.ColumnInfo) (t : ExasolType),
    columns[index]? = some col → parseExasolType col.dataType = .ok t → ∀ row ∈ rows, CellAgrees pf t (row[index]?.getD .null)

/-! ### One value -/

section Cells

variable {pf : Platform}

/-- What a value of a nullable column becomes. -/
theorem nullable_eq_ok {α : Type} {f : Json.Value → Exec ColumnConversionError α}
    {v : Json.Value} {y : Option α} (h : Builders.nullable f v = .ok y) :
    (v = .null ∧ y = none) ∨ (v ≠ .null ∧ ∃ a, f v = .ok a ∧ y = some a) := by
  cases v with
  | null => exact .inl ⟨rfl, (Except.ok.inj h).symm⟩
  | _ =>
    obtain ⟨a, ha, hy⟩ := bind_eq_ok.mp h
    exact .inr ⟨fun h => (nomatch h), a, ha, (Except.ok.inj hy).symm⟩

theorem unexpected_ne_ok {α : Type} {row : ℕ} {expected : String} {v : Json.Value} {a : α} :
    Builders.unexpected pf row expected v ≠ .ok a := fun h => (nomatch h)

/-- Two results of one operation are equal, whatever errors it could have had. -/
theorem fit_unique {ε δ : Type} {w : ℕ} [NeZero w] {ov : Overflow} {x : ℤ} {a b : SInt w}
    (ha : (fit ov x : Exec ε (SInt w)) = .ok a) (hb : (fit ov x : Exec δ (SInt w)) = .ok b) :
    a = b := SInt.ext ((val_of_fit ha).trans (val_of_fit hb).symm)

/-- The two parts of a decimal text are the same, whatever is reported otherwise. -/
theorem decimalParts_unique {ε δ : Type} {e : ε} {d : δ} {s : List Char}
    {p q : List Char × List Char} (hp : decimalParts e s = .ok p) (hq : decimalParts d s = .ok q) :
    p = q := by
  unfold decimalParts at hp hq
  split at hp
  · rename_i i h
    simp only [h] at hq
    exact (Except.ok.inj hp).symm.trans (Except.ok.inj hq)
  · rename_i i f h
    simp only [h] at hq
    exact (Except.ok.inj hp).symm.trans (Except.ok.inj hq)
  · cases hp

/-- Adding the negation and subtracting give the same, if both give something. -/
theorem add_neg_eq_sub {ov : Overflow} {r x y a b : SInt 128}
    (hx : (neg ov x : Exec DecimalParseFailure (SInt 128)) = .ok y)
    (ha : checkedAdd r y = some a) (hb : checkedSub r x = some b) : a = b := by
  have h1 := SInt.ofInt?_eq_some.mp ha
  have h2 := SInt.ofInt?_eq_some.mp hb
  refine SInt.ext ?_
  rcases fit_eq_ok hx with hv | ⟨hout, -, hv⟩
  · rw [h1, h2, hv]
    ring
  · -- Only the least number has no negation; then one of the two results does not fit.
    exfalso
    have hx1 := x.ge
    have hx2 := x.lt
    have hy1 := y.ge
    have ha1 := a.lt
    have ha2 := a.ge
    have hb1 := b.lt
    have hb2 := b.ge
    have hmin : x.val = -2 ^ (128 - 1) := by
      by_contra hne
      refine hout ⟨?_, ?_⟩ <;> omega
    have hwrap : y.val = -2 ^ (128 - 1) := by
      rw [hv, hmin]
      norm_num
      decide
    omega

/-- A text of a decimal column is read alike: the sign of the fraction is applied
by a subtraction here and by a negation there, and these differ in no case in
which both give a result. -/
theorem decimal_text_agrees {ov : Overflow} {s : List Char} {scale : SInt 8} {a b : SInt 128}
    (ha : ResultSet.parseStringToDecimal ov s scale = .ok a)
    (hb : parseDecimalToI128 ov s scale = .ok b) : a = b := by
  unfold ResultSet.parseStringToDecimal at ha
  unfold parseDecimalToI128 at hb
  split at ha
  · cases ha
  · obtain ⟨⟨i, f⟩, hp, ha⟩ := bind_eq_ok.mp ha
    obtain ⟨p, hq, hb⟩ := bind_eq_ok.mp hb
    obtain rfl := decimalParts_unique hp hq
    obtain ⟨integer, hi, ha⟩ := bind_eq_ok.mp ha
    obtain ⟨integer', hi', hb⟩ := bind_eq_ok.mp hb
    obtain rfl := Option.some.inj ((orFail_eq_ok.mp hi).symm.trans (orFail_eq_ok.mp hi'))
    obtain ⟨power, hw, ha⟩ := bind_eq_ok.mp ha
    obtain ⟨power', hw', hb⟩ := bind_eq_ok.mp hb
    obtain rfl := fit_unique hw hw'
    obtain ⟨result, hr, ha⟩ := bind_eq_ok.mp ha
    obtain ⟨result', hr', hb⟩ := bind_eq_ok.mp hb
    obtain rfl := Option.some.inj ((orFail_eq_ok.mp hr).symm.trans (orFail_eq_ok.mp hr'))
    split at ha
    · rename_i hf
      rw [if_pos hf] at hb
      exact (Except.ok.inj ha).symm.trans (Except.ok.inj hb)
    · rename_i hf
      rw [if_neg hf] at hb
      dsimp only at ha hb
      split at ha
      · cases ha
      · rename_i digits hdigits
        rw [hdigits] at hb
        obtain ⟨value, hv, ha⟩ := bind_eq_ok.mp ha
        obtain ⟨value', hv', hb⟩ := bind_eq_ok.mp hb
        obtain rfl := Option.some.inj ((orFail_eq_ok.mp hv).symm.trans (orFail_eq_ok.mp hv'))
        obtain ⟨shift, hs, ha⟩ := bind_eq_ok.mp ha
        obtain ⟨shift', hs', hb⟩ := bind_eq_ok.mp hb
        obtain rfl := fit_unique hs hs'
        obtain ⟨scaled, hm, ha⟩ := bind_eq_ok.mp ha
        obtain ⟨scaled', hm', hb⟩ := bind_eq_ok.mp hb
        obtain rfl := fit_unique hm hm'
        obtain ⟨signed, hneg, ha⟩ := bind_eq_ok.mp ha
        split at hneg
        · rename_i hminus
          rw [if_pos hminus] at hb
          exact add_neg_eq_sub hneg (orFail_eq_ok.mp ha) (orFail_eq_ok.mp hb)
        · rename_i hminus
          rw [if_neg hminus] at hb
          cases hneg
          exact Option.some.inj ((orFail_eq_ok.mp ha).symm.trans (orFail_eq_ok.mp hb))

/-- **An integer of a decimal column** is scaled alike exactly when it fits 64 bits
after scaling. -/
theorem decimal_integer_agrees {ε δ : Type} {ov : Overflow} {e : ℕ} {i power product : SInt 64}
    {power' product' : SInt 128}
    (hp : (fit ov (10 ^ e) : Exec ε (SInt 64)) = .ok power)
    (hm : (mul ov i power : Exec ε (SInt 64)) = .ok product)
    (hp' : (pow10 ov e : Exec δ (SInt 128)) = .ok power')
    (hm' : (mul ov (i.extend 128 SInt.le_64_128) power' : Exec δ (SInt 128)) = .ok product') :
    product.extend 128 SInt.le_64_128 = product' ↔
      FitsI64 ((i.val * 10 ^ e).bmod (2 ^ 128)) := by
  have h1 := val_of_mul_fit hp hm
  have h2 := val_of_mul_fit hp' hm'
  rw [SInt.val_extend] at h2
  rw [SInt.ext_iff, SInt.val_extend, h1, h2]
  exact SInt.bmod_eq_bmod_iff (by norm_num) (by norm_num) _

/-- **Another number of a decimal column** is scaled alike exactly when the product
is cut off to what it is printed as. -/
theorem decimal_float_agrees {x : F64} {b : SInt 128}
    (h : parseSigned? 128 x.round.display = some b) :
    castToI128 x = b ↔
      Int.fract x.magnitude < 1 / 2 ∧ x.round.shortestValue = x.round.toRat := by
  obtain ⟨n, hn, hb⟩ := Option.bind_eq_some_iff.mp h
  have hval := SInt.ofInt?_eq_some.mp hb
  have hge := b.ge
  have hlt := b.lt
  rw [hval] at hge hlt
  rw [SInt.ext_iff, hval]
  exact F64.display_round_eq_cast_iff hn hge (Int.le_sub_one_of_lt hlt) (by norm_num)
    (by norm_num) (by norm_num) (by norm_num)

/-- **A value of a decimal column.** -/
theorem decimal_agrees {p : UInt8} {scale : SInt 8} {v : Json.Value} {x y : Option (SInt 128)}
    (hx : ResultSet.scaleToDecimal pf v scale = .ok x)
    (hy : ∃ row, Builders.nullable (Builders.parseDecimal pf p scale row) v = .ok y) :
    x = y ↔ CellAgrees pf (.decimal p scale) v := by
  obtain ⟨row, hy⟩ := hy
  obtain ⟨rfl, rfl⟩ | ⟨hne, b, hb, rfl⟩ := nullable_eq_ok hy
  · cases hx
    exact ⟨fun _ => trivial, fun _ => rfl⟩
  · cases v with
    | null => exact absurd rfl hne
    | bool _ => exact absurd hb unexpected_ne_ok
    | array _ => exact absurd hb unexpected_ne_ok
    | object _ => exact absurd hb unexpected_ne_ok
    | string s =>
      obtain ⟨a, ha, hx⟩ := bind_eq_ok.mp hx
      obtain ⟨-, -, hb⟩ := bind_eq_ok.mp hb
      obtain rfl := decimal_text_agrees ha (mapError_eq_ok.mp hb)
      exact ⟨fun _ => trivial, fun _ => (Except.ok.inj hx).symm⟩
    | number n =>
      unfold ResultSet.scaleToDecimal at hx
      unfold Builders.parseDecimal at hb
      unfold CellAgrees
      have hi : (Json.Value.number n).asI64 = n.asI64 := rfl
      have hf : (Json.Value.number n).asF64 = some n.asF64 := rfl
      have hs : (Json.Value.number n).asStr = none := rfl
      rw [hi, hf] at hx hb
      rw [hs] at hx
      cases h : n.asI64 with
      | some i =>
        simp only [h] at hx hb ⊢
        obtain ⟨power, hp, hx⟩ := bind_eq_ok.mp hx
        obtain ⟨product, hm, hx⟩ := bind_eq_ok.mp hx
        obtain ⟨power', hp', hb⟩ := bind_eq_ok.mp hb
        rw [← Except.ok.inj hx, Option.some.injEq]
        exact decimal_integer_agrees hp hm hp' hb
      | none =>
        simp only [h] at hx hb ⊢
        rw [← Except.ok.inj hx, Option.some.injEq]
        exact decimal_float_agrees (orFail_eq_ok.mp hb)

/-- A value of a boolean column. -/
theorem boolean_agrees {v : Json.Value} {y : Option Bool}
    (hy : ∃ row, Builders.nullable (Builders.booleanValue pf row) v = .ok y) : v.asBool = y := by
  obtain ⟨row, hy⟩ := hy
  obtain ⟨rfl, rfl⟩ | ⟨-, b, hb, rfl⟩ := nullable_eq_ok hy
  · rfl
  · cases v with
    | bool c => exact congrArg some (Except.ok.inj hb)
    | _ => exact absurd hb unexpected_ne_ok

/-- A value of a text column. -/
theorem string_agrees {v : Json.Value} {y : Option String}
    (hy : ∃ row, Builders.nullable (Builders.stringValue pf row) v = .ok y) :
    (if v.isNull then none else some (ResultSet.renderAsText pf v)) = y := by
  obtain ⟨row, hy⟩ := hy
  obtain ⟨rfl, rfl⟩ | ⟨-, b, hb, rfl⟩ := nullable_eq_ok hy
  · rfl
  · cases v with
    | string c => exact congrArg some (Except.ok.inj hb)
    | _ => exact absurd hb unexpected_ne_ok

/-- A value that is read from a text. -/
theorem text_agrees {α : Type} {parse : List Char → Exec String α} {expected : String}
    {v : Json.Value} {x y : Option α} (hx : ResultSet.textCell parse v = .ok x)
    (hy : ∃ row, Builders.nullable (Builders.parsedValue pf expected parse row) v = .ok y) :
    x = y := by
  obtain ⟨row, hy⟩ := hy
  obtain ⟨rfl, rfl⟩ | ⟨hne, b, hb, rfl⟩ := nullable_eq_ok hy
  · exact (Except.ok.inj hx).symm
  · cases v with
    | null => exact absurd rfl hne
    | bool _ => exact absurd hb unexpected_ne_ok
    | number _ => exact absurd hb unexpected_ne_ok
    | array _ => exact absurd hb unexpected_ne_ok
    | object _ => exact absurd hb unexpected_ne_ok
    | string s =>
      have hparse := mapError_eq_ok.mp hb
      have hx' : attempt (parse s.toList) = .ok x := hx
      rw [hparse] at hx'
      exact (Except.ok.inj hx').symm

/-- A value of an interval column. -/
theorem interval_agrees {expected : String} {v : Json.Value}
    {x y : Option IntervalMonthDayNano} (hx : ∃ row, ResultSet.intervalCell pf row v = .ok x)
    (hy : ∃ row, Builders.nullable
      (Builders.parsedValue pf expected (parseInterval pf.overflow) row) v = .ok y) :
    x = y := by
  obtain ⟨r, hx⟩ := hx
  obtain ⟨row, hy⟩ := hy
  obtain ⟨rfl, rfl⟩ | ⟨hne, b, hb, rfl⟩ := nullable_eq_ok hy
  · exact (Except.ok.inj hx).symm
  · cases v with
    | null => exact absurd rfl hne
    | bool _ => exact absurd hb unexpected_ne_ok
    | number _ => exact absurd hb unexpected_ne_ok
    | array _ => exact absurd hb unexpected_ne_ok
    | object _ => exact absurd hb unexpected_ne_ok
    | string s =>
      have hparse := mapError_eq_ok.mp hb
      obtain ⟨a, ha, hx⟩ := bind_eq_ok.mp hx
      obtain rfl := Except.ok.inj ((mapError_eq_ok.mp ha).symm.trans hparse)
      exact (Except.ok.inj hx).symm

/-- A value of a column of floats: a text becomes a number here and a null there. -/
theorem double_agrees {v : Json.Value} {y : Option F64}
    (hy : ∃ row, Builders.nullable (Builders.doubleValue pf row) v = .ok y) :
    v.asF64 = y ↔ CellAgrees pf .double v := by
  obtain ⟨row, hy⟩ := hy
  obtain ⟨rfl, rfl⟩ | ⟨hne, b, hb, rfl⟩ := nullable_eq_ok hy
  · exact ⟨fun _ => trivial, fun _ => rfl⟩
  · cases v with
    | null => exact absurd rfl hne
    | bool _ => exact absurd hb unexpected_ne_ok
    | array _ => exact absurd hb unexpected_ne_ok
    | object _ => exact absurd hb unexpected_ne_ok
    | number n => exact ⟨fun _ => trivial, fun _ => congrArg some (Except.ok.inj hb)⟩
    | string s => exact ⟨fun h => (nomatch h), fun h => h.elim⟩

/-- A text without bytes is empty. -/
theorem eq_nil_of_byteLen {s : List Char} (h : Text.byteLen s = 0) : s = [] := by
  cases s with
  | nil => rfl
  | cons c s =>
    have hc := c.utf8Size_pos
    have hl : Text.byteLen (c :: s) = c.utf8Size + Text.byteLen s := rfl
    omega

/-- **The bytes of a text are those it is a hexadecimal form of** only when it is
empty: a form has twice the bytes. -/
theorem bytes_eq_decodeHex_iff {s : List Char} {b : List UInt8}
    (h : Builders.decodeHex s = .ok b) : Text.bytes s = b ↔ s = [] := by
  constructor
  · rintro rfl
    unfold Builders.decodeHex at h
    split at h
    · cases h
    · have hlen := (mapM_eq_ok.mp h).length_eq
      rw [List.length_range, Text.length_bytes] at hlen
      exact eq_nil_of_byteLen (by omega)
  · rintro rfl
    exact Except.ok.inj h

/-- A value of a binary column. -/
theorem binary_agrees {v : Json.Value} {y : Option (List UInt8)}
    (hy : ∃ row, Builders.nullable (Builders.binaryValue pf row) v = .ok y) :
    (v.asStr.map fun s => Text.bytes s.toList) = y ↔ ∀ s, v = .string s → s = "" := by
  obtain ⟨row, hy⟩ := hy
  obtain ⟨rfl, rfl⟩ | ⟨hne, b, hb, rfl⟩ := nullable_eq_ok hy
  · exact ⟨fun _ s h => (nomatch h), fun _ => rfl⟩
  · cases v with
    | null => exact absurd rfl hne
    | bool _ => exact absurd hb unexpected_ne_ok
    | number _ => exact absurd hb unexpected_ne_ok
    | array _ => exact absurd hb unexpected_ne_ok
    | object _ => exact absurd hb unexpected_ne_ok
    | string s =>
      have hdec := bytes_eq_decodeHex_iff (mapError_eq_ok.mp hb)
      have hstr : s.toList = [] ↔ s = "" := String.toList_eq_nil_iff
      rw [hstr] at hdec
      constructor
      · intro h t ht
        cases ht
        exact hdec.mp (Option.some.inj h)
      · intro h
        exact congrArg some (hdec.mpr (h s rfl))

/-! ### One column -/

/-- Two lists made of the same values are equal exactly when they are equal value
by value. -/
theorem lists_agree {α β : Type} {R S : α → β → Prop} {P : α → Prop} {vs : List α} {xs ys : List β}
    (hcell : ∀ v x y, R v x → S v y → (x = y ↔ P v)) (h1 : List.Forall₂ R vs xs)
    (h2 : List.Forall₂ S vs ys) : xs = ys ↔ ∀ v ∈ vs, P v := by
  induction h1 generalizing ys with
  | nil =>
    cases h2
    exact ⟨fun _ v hv => (nomatch hv), fun _ => rfl⟩
  | cons hx _ ih =>
    cases h2 with
    | cons hy hys => rw [List.cons.injEq, List.forall_mem_cons, hcell _ _ _ hx hy, ih hys]

theorem forall₂_map {α β : Type} (f : α → β) (vs : List α) :
    List.Forall₂ (fun v x => f v = x) vs (vs.map f) :=
  List.forall₂_map_right_iff.mpr (List.forall₂_same.mpr fun _ _ => rfl)

theorem column_eq_iff {t : DataType} {xs ys : List (Option t.Native)} :
    (⟨t, xs⟩ : Column) = ⟨t, ys⟩ ↔ xs = ys := by
  rw [Column.mk.injEq, heq_iff_eq, and_iff_right rfl]

/-- **The two arrays of a column** are equal exactly when the converters agree on
every value. -/
theorem column_agrees {t : ExasolType} {field : Field} {values : List Json.Value} {a b : Column}
    (ht : field.dataType = TypeMapper.exasolToArrow t)
    (ha : ResultSet.jsonColumnToArray pf field values = .ok a)
    (hb : Builders.buildTypedArray pf t values = .ok b) :
    a = b ↔ ∀ v ∈ values, CellAgrees pf t v := by
  unfold ResultSet.jsonColumnToArray at ha
  cases t with
  | boolean =>
    rw [ht] at ha
    obtain ⟨ys, hys, hb⟩ := bind_eq_ok.mp hb
    rw [← Except.ok.inj ha, ← Except.ok.inj hb, column_eq_iff]
    refine lists_agree (fun v x y hx hy => ?_) (forall₂_map _ values) (eachRow_eq_ok hys)
    exact iff_of_true (hx.symm.trans (boolean_agrees hy)) trivial
  | char n =>
    rw [ht] at ha
    obtain ⟨ys, hys, hb⟩ := bind_eq_ok.mp hb
    rw [← Except.ok.inj ha, ← Except.ok.inj hb, column_eq_iff]
    refine lists_agree (fun v x y hx hy => ?_) (forall₂_map _ values) (eachRow_eq_ok hys)
    exact iff_of_true (hx.symm.trans (string_agrees hy)) trivial
  | varchar n =>
    rw [ht] at ha
    obtain ⟨ys, hys, hb⟩ := bind_eq_ok.mp hb
    rw [← Except.ok.inj ha, ← Except.ok.inj hb, column_eq_iff]
    refine lists_agree (fun v x y hx hy => ?_) (forall₂_map _ values) (eachRow_eq_ok hys)
    exact iff_of_true (hx.symm.trans (string_agrees hy)) trivial
  | decimal p scale =>
    rw [ht] at ha
    obtain ⟨-, -, ha⟩ := bind_eq_ok.mp ha
    obtain ⟨xs, hxs, ha⟩ := bind_eq_ok.mp ha
    obtain ⟨-, -, hb⟩ := bind_eq_ok.mp hb
    obtain ⟨ys, hys, hb⟩ := bind_eq_ok.mp hb
    rw [← Except.ok.inj ha, ← Except.ok.inj hb, column_eq_iff]
    refine lists_agree (fun v x y hx hy => ?_) (eachRow_eq_ok hxs) (eachRow_eq_ok hys)
    obtain ⟨row, hx⟩ := hx
    exact decimal_agrees (mapError_eq_ok.mp hx) hy
  | double =>
    rw [ht] at ha
    obtain ⟨ys, hys, hb⟩ := bind_eq_ok.mp hb
    rw [← Except.ok.inj ha, ← Except.ok.inj hb, column_eq_iff]
    refine lists_agree (fun v x y hx hy => ?_) (forall₂_map _ values) (eachRow_eq_ok hys)
    rw [← hx]
    exact double_agrees hy
  | date =>
    rw [ht] at ha
    obtain ⟨xs, hxs, ha⟩ := bind_eq_ok.mp ha
    obtain ⟨ys, hys, hb⟩ := bind_eq_ok.mp hb
    rw [← Except.ok.inj ha, ← Except.ok.inj hb, column_eq_iff]
    refine lists_agree (fun v x y hx hy => ?_) (mapM_eq_ok.mp hxs) (eachRow_eq_ok hys)
    exact iff_of_true (text_agrees hx hy) trivial
  | timestamp tz =>
    rw [ht] at ha
    obtain ⟨ys, hys, hb⟩ := bind_eq_ok.mp hb
    cases tz with
    | true =>
      obtain ⟨xs, hxs, ha⟩ := bind_eq_ok.mp ha
      rw [← Except.ok.inj ha, ← Except.ok.inj hb]
      refine column_eq_iff.trans (lists_agree (fun v x y hx hy => ?_) (mapM_eq_ok.mp hxs)
        (eachRow_eq_ok hys))
      exact iff_of_true (text_agrees hx hy) trivial
    | false =>
      obtain ⟨xs, hxs, ha⟩ := bind_eq_ok.mp ha
      rw [← Except.ok.inj ha, ← Except.ok.inj hb]
      refine column_eq_iff.trans (lists_agree (fun v x y hx hy => ?_) (mapM_eq_ok.mp hxs)
        (eachRow_eq_ok hys))
      exact iff_of_true (text_agrees hx hy) trivial
  | intervalYearToMonth =>
    rw [ht] at ha
    obtain ⟨xs, hxs, ha⟩ := bind_eq_ok.mp ha
    obtain ⟨ys, hys, hb⟩ := bind_eq_ok.mp hb
    rw [← Except.ok.inj ha, ← Except.ok.inj hb, column_eq_iff]
    refine lists_agree (fun v x y hx hy => ?_) (eachRow_eq_ok hxs) (eachRow_eq_ok hys)
    exact iff_of_true (interval_agrees hx hy) trivial
  | intervalDayToSecond p =>
    rw [ht] at ha
    obtain ⟨xs, hxs, ha⟩ := bind_eq_ok.mp ha
    obtain ⟨ys, hys, hb⟩ := bind_eq_ok.mp hb
    rw [← Except.ok.inj ha, ← Except.ok.inj hb, column_eq_iff]
    refine lists_agree (fun v x y hx hy => ?_) (eachRow_eq_ok hxs) (eachRow_eq_ok hys)
    exact iff_of_true (interval_agrees hx hy) trivial
  | geometry srid =>
    rw [ht] at ha
    obtain ⟨ys, hys, hb⟩ := bind_eq_ok.mp hb
    rw [← Except.ok.inj ha, ← Except.ok.inj hb, column_eq_iff]
    refine lists_agree (fun v x y hx hy => ?_) (forall₂_map _ values) (eachRow_eq_ok hys)
    rw [← hx, binary_agrees hy]
    cases v <;> simp [CellAgrees]
  | hashtype n =>
    rw [ht] at ha
    obtain ⟨ys, hys, hb⟩ := bind_eq_ok.mp hb
    rw [← Except.ok.inj ha, ← Except.ok.inj hb, column_eq_iff]
    refine lists_agree (fun v x y hx hy => ?_) (forall₂_map _ values) (eachRow_eq_ok hys)
    rw [← hx, binary_agrees hy]
    cases v <;> simp [CellAgrees]

/-! ### A table -/

/-- What a converter that is made knows: the types of the columns, and the schema
of the result. -/
theorem new_eq_ok {columns : List Messages.ColumnInfo} {conv : ArrowConverter}
    (h : ArrowConverter.new columns = .ok conv) :
    List.Forall₂ (fun col t => parseExasolType col.dataType = .ok t) columns conv.columnTypes ∧
      buildSchema columns = .ok conv.schema ∧
      conv.schema.types = conv.columnTypes.map TypeMapper.exasolToArrow := by
  obtain ⟨metadata, hm, hconv⟩ := bind_eq_ok.mp h
  cases hconv
  have h2 := mapM_eq_ok.mp hm
  refine ⟨?_, bind_eq_ok.mpr ⟨metadata, mapM_eq_ok.mpr (h2.imp fun col m hcol => ?_), rfl⟩, ?_⟩
  · refine List.forall₂_map_right_iff.mpr (h2.imp fun col m hcol => ?_)
    obtain ⟨t, ht, hm⟩ := bind_eq_ok.mp hcol
    cases hm
    exact ht
  · obtain ⟨t, ht, hm⟩ := bind_eq_ok.mp hcol
    exact bind_eq_ok.mpr ⟨t, exasolTypeOf_of_parseExasolType ht, hm⟩
  · unfold Schema.types SchemaBuilder.build
    rw [List.map_map, List.map_map]
    rfl

/-- A batch that Arrow builds without a given number of rows is determined by its
schema and its columns. -/
theorem tryNew_unique {schema : Schema} {xs ys : List Column} {a b : RecordBatch}
    (ha : RecordBatch.tryNew schema xs = .ok a) (hb : RecordBatch.tryNew schema ys = .ok b) :
    a = b ↔ xs = ys := by
  obtain ⟨hsa, hca, hna⟩ := RecordBatch.tryNewWithOptions_eq_ok ha
  obtain ⟨hsb, hcb, hnb⟩ := RecordBatch.tryNewWithOptions_eq_ok hb
  constructor
  · rintro rfl
    exact hca.symm.trans hcb
  · rintro rfl
    exact RecordBatch.ext (hsa.trans hsb.symm) (hca.trans hcb.symm)
      (Option.some.inj (hna.symm.trans hnb))

/-- The batch of a schema without rows is the one that is built from empty columns. -/
theorem emptyRecordBatch_eq {schema : Schema} {a : RecordBatch}
    (h : ResultSet.emptyRecordBatch schema = .ok a) : a = RecordBatch.newEmpty schema := by
  obtain ⟨hs, hc, hn⟩ := RecordBatch.tryNewWithOptions_eq_ok
    (ofExcept_eq_ok.mp (mapError_eq_ok.mp h))
  refine RecordBatch.ext hs hc ?_
  cases ht : schema.types with
  | nil =>
    rw [ht] at hn
    cases hn
  | cons t ts =>
    rw [ht] at hn
    exact (Option.some.inj hn).symm

/-- **The two converters agree exactly where every value agrees**: when both accept
the rows of a result, the batches they build are equal if and only if every value
of every column is one on which they agree. -/
theorem converters_agree_iff {columns : List Messages.ColumnInfo} {conv : ArrowConverter}
    {schema : Schema} {rows : List (List Json.Value)} {totalRows : SInt 64} {a b : RecordBatch}
    (hschema : buildSchema columns = .ok schema) (hconv : ArrowConverter.new columns = .ok conv)
    (ha : ResultSet.columnMajorToRecordBatch pf rows schema = .ok a)
    (hb : conv.convertToRecordBatch pf ⟨columns, .json rows, totalRows⟩ = .ok b) :
    a = b ↔ TableAgrees pf columns rows := by
  obtain ⟨hparse, hbuild, htypes⟩ := new_eq_ok hconv
  obtain rfl := Except.ok.inj (hschema.symm.trans hbuild)
  unfold ResultSet.columnMajorToRecordBatch at ha
  unfold ArrowConverter.convertToRecordBatch at hb
  dsimp only at hb
  split at ha
  · -- Without rows there is one batch.
    rename_i hnil
    rw [if_pos hnil] at hb
    obtain rfl := emptyRecordBatch_eq ha
    refine iff_of_true (Except.ok.inj hb) fun _ _ _ _ _ row hrow => ?_
    rw [hnil] at hrow
    cases hrow
  · rename_i hne
    rw [if_neg hne] at hb
    obtain ⟨xs, hxs, ha⟩ := bind_eq_ok.mp ha
    obtain ⟨-, -, hb⟩ := bind_eq_ok.mp hb
    obtain ⟨ys, hys, hb⟩ := bind_eq_ok.mp hb
    rw [tryNew_unique (ofExcept_eq_ok.mp (mapError_eq_ok.mp ha))
      (ofExcept_eq_ok.mp (mapError_eq_ok.mp hb))]
    have hlen : conv.schema.fields.length = conv.columnTypes.length := by
      have h := congrArg List.length htypes
      rwa [Schema.types, List.length_map, List.length_map] at h
    -- Column by column, the arrays are equal exactly when the values agree.
    have hcol (i : ℕ) (t : ExasolType) (hi : conv.columnTypes[i]? = some t) :
        xs[i]? = ys[i]? ↔ ∀ row ∈ rows, CellAgrees pf t (row[i]?.getD .null) := by
      obtain ⟨hi', rfl⟩ := List.getElem?_eq_some_iff.mp hi
      have hf : conv.schema.fields[i]? = some (conv.schema.fields[i]) :=
        List.getElem?_eq_getElem (hlen ▸ hi')
      obtain ⟨x, hx, hax⟩ := getElem?_of_eachRow hxs hf
      obtain ⟨y, hy, hby⟩ := getElem?_of_eachRow hys hi
      have ht : conv.schema.fields[i].dataType =
          TypeMapper.exasolToArrow conv.columnTypes[i] := by
        have h := congrArg (fun ts => ts[i]?) htypes
        simpa [Schema.types, hf, hi] using h
      have hv : ((List.range conv.columnTypes.length).map (ResultSet.columnOf rows))[i]? =
          some (ResultSet.columnOf rows i) := by
        rw [List.getElem?_map, List.getElem?_range hi', Option.map_some]
      rw [hv, hf] at hby
      rw [hx, hy, Option.some.injEq,
        column_agrees ht (mapError_eq_ok.mp hax) (mapError_eq_ok.mp hby)]
      exact List.forall_mem_map
    constructor
    · rintro rfl i col t hcoli ht
      obtain ⟨hi', rfl⟩ := List.getElem?_eq_some_iff.mp hcoli
      have hget := (List.forall₂_iff_get.mp hparse).2 i hi' (hparse.length_eq ▸ hi')
      obtain rfl := Except.ok.inj (ht.symm.trans hget)
      exact (hcol i _ (List.getElem?_eq_getElem _)).mp rfl
    · intro hall
      refine List.ext_getElem? fun i => ?_
      rcases Nat.lt_or_ge i conv.columnTypes.length with hi | hi
      · have hi' : i < columns.length := hparse.length_eq ▸ hi
        have hget := (List.forall₂_iff_get.mp hparse).2 i hi' hi
        exact (hcol i _ (List.getElem?_eq_getElem hi)).mpr
          (hall i _ _ (List.getElem?_eq_getElem hi') hget)
      · rw [List.getElem?_eq_none (by rw [length_of_eachRow hxs, hlen]; exact hi),
          List.getElem?_eq_none (by rw [length_of_eachRow hys]; exact hi)]

end Cells

/-! ### A column on which they differ, and one on which they do not -/

/-- A result with a column of two-byte hashes. -/
def hashColumn : Messages.ColumnInfo where
  name := "H"
  dataType := { typeName := "HASHTYPE", size := some 4 }

/-- The schema of that result. -/
def hashSchema : Schema :=
  SchemaBuilder.build [{ name := "H", dataType := .hashtype 2, nullable := true }]

/-- The data of that result. -/
def hashData (rows : List (List Json.Value)) : Messages.ResultData :=
  ⟨[hashColumn], .json rows, SInt.wrap 64 SInt.pos_64 rows.length⟩

/-- **A hash is converted in two ways**: the text `00ff` becomes the four bytes of
the text here and the two bytes it spells there. -/
theorem hash_converters_differ :
    buildSchema [hashColumn] = .ok hashSchema ∧
      ArrowConverter.new [hashColumn] = .ok ⟨hashSchema, [.hashtype 2]⟩ ∧
      ∃ a b, ResultSet.columnMajorToRecordBatch checkedPlatform [[.string "00ff"]] hashSchema =
          .ok a ∧
        ArrowConverter.convertToRecordBatch checkedPlatform ⟨hashSchema, [.hashtype 2]⟩
          (hashData [[.string "00ff"]]) = .ok b ∧ a ≠ b := by
  refine ⟨rfl, rfl, _, _, rfl, rfl, fun h => ?_⟩
  exact absurd (congrArg RecordBatch.columns h) (by decide)

/-- A null and an empty text are converted alike. -/
theorem null_converters_agree : ∃ a b,
    ResultSet.columnMajorToRecordBatch checkedPlatform [[.null], [.string ""]] hashSchema = .ok a ∧
      ArrowConverter.convertToRecordBatch checkedPlatform ⟨hashSchema, [.hashtype 2]⟩
        (hashData [[.null], [.string ""]]) = .ok b ∧ a = b := by
  obtain ⟨a, ha⟩ : ∃ a, ResultSet.columnMajorToRecordBatch checkedPlatform
      [[.null], [.string ""]] hashSchema = .ok a := ⟨_, rfl⟩
  obtain ⟨b, hb⟩ : ∃ b, ArrowConverter.convertToRecordBatch checkedPlatform
      ⟨hashSchema, [.hashtype 2]⟩ (hashData [[.null], [.string ""]]) = .ok b := ⟨_, rfl⟩
  have hschema : buildSchema [hashColumn] = .ok hashSchema := rfl
  have hconv : ArrowConverter.new [hashColumn] = .ok ⟨hashSchema, [.hashtype 2]⟩ := rfl
  refine ⟨a, b, ha, hb, (converters_agree_iff hschema hconv ha hb).mpr ?_⟩
  intro index col t hcol ht row hrow
  cases index with
  | zero =>
    obtain rfl := Option.some.inj hcol
    have htype : parseExasolType hashColumn.dataType = .ok (.hashtype 2) := rfl
    obtain rfl := Except.ok.inj (ht.symm.trans htype)
    rcases List.mem_cons.mp hrow with rfl | hrow
    · exact trivial
    · obtain rfl := List.mem_singleton.mp hrow
      rfl
  | succ index => cases hcol

end Exarrow
