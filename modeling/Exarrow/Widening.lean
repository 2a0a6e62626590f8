import Exarrow.Foundations.Rounding
import Exarrow.Foundations.Shortest
import Exarrow.Import.Formatters
import Exarrow.Inference

/-!
# What widening keeps

A column of several files gets the common type of the types that the files have for it
(`Exarrow.widenType`). Every value of either file must be a value of the common type, or be a text
in it where the common type is a VARCHAR. What the values of a type are is said by
`Exarrow.ExasolType.Holds`, the text of a value by `Exarrow.ExasolType.Writes`; **a text belongs to
one value only** (`Exarrow.writes_unique`), and the longest VARCHAR holds the text of every value
(`Exarrow.keeps_longestVarchar`).

Two pairs of types lose values. Two decimals are widened by the larger precision and the larger
scale, which may leave fewer digits before the point than one of them has; and a decimal that is
widened to a DOUBLE may have more digits than that, or a fraction. **All other pairs keep every
value, and `Exarrow.widenType_keeps_iff` says exactly which of these do.**
-/

namespace Exarrow

open Machine Ieee Arrow Numeral Calendar ExasolType

/-! ### Values -/

/-- A value of a column. Timestamps are in microseconds, intervals in months or nanoseconds. -/
inductive Datum where
  | boolean (b : Bool)
  | text (s : List Char)
  | number (q : ℚ)
  | date (d : Date)
  | timestamp (micros : ℤ)
  | months (n : ℤ)
  | duration (nanos : ℤ)

/-- An instant is that of a date and a time of day. -/
def IsInstant (micros : ℤ) (d : Date) (t : ℕ) : Prop :=
  InExasolYears d ∧ t < 86400000000 ∧ d.dayNumber * microsPerDay + t = micros

/-- The text of a number of months. -/
def monthsText (n : ℤ) : List Char :=
  minusText n ++ (natText (n.natAbs / 12) ++ '-' :: pad 2 (natText (n.natAbs % 12)))

namespace ExasolType

/-- The values of a type. -/
def Holds : ExasolType → Datum → Prop
  | boolean, .boolean _ => True
  | char size, .text s | varchar size, .text s => s.length ≤ size
  | decimal precision scale, .number q =>
    ∃ n : ℤ, q = n / 10 ^ scale.val.toNat ∧ n.natAbs < 10 ^ precision.toNat
  | double, .number q => ∃ x : F64, x.isSpecial = false ∧ x.toRat = q
  | date, .date d => InExasolYears d
  | timestamp _, .timestamp micros => ∃ d t, IsInstant micros d t
  | intervalYearToMonth, .months n => n.natAbs < 12 * 10 ^ 9
  | intervalDayToSecond precision, .duration nanos =>
    ∃ v : DayTime, v.digits = precision.toNat ∧ v.duration = nanos
  | _, _ => False

/-- The text of a value of a type, as an import writes it. -/
def Writes : ExasolType → Datum → List Char → Prop
  | boolean, .boolean b, s => s = if b then "true".toList else "false".toList
  | char _, .text t, s | varchar _, .text t, s => s = t
  | decimal _ scale, .number q, s =>
    ∃ n : ℤ, q = n / 10 ^ scale.val.toNat ∧ s = formatDecimalText (intText n) scale
  | double, .number q, s =>
    ∃ x : F64, x.isSpecial = false ∧ x.toRat = q ∧ s = Import.formatFloat x
  | date, .date d, s => InExasolYears d ∧ s = dateText d
  | timestamp _, .timestamp micros, s =>
    ∃ d t, IsInstant micros d t ∧ s = dateText d ++ ' ' :: timeText t
  | intervalYearToMonth, .months n, s => n.natAbs < 12 * 10 ^ 9 ∧ s = monthsText n
  | intervalDayToSecond precision, .duration nanos, s =>
    ∃ v : DayTime, v.digits = precision.toNat ∧ v.duration = nanos ∧ s = v.plainText
  | _, _, _ => False

/-- **A type keeps a value of another type**: it holds the value, or it is a VARCHAR with room for
the text of the value, which is the text of no other value. -/
def Keeps (target source : ExasolType) (v : Datum) : Prop :=
  target.Holds v ∨ ∃ size s, target = varchar size ∧ source.Writes v s ∧ s.length ≤ size ∧
    ∀ w, source.Writes w s → w = v

/-- The types that a column can be inferred to have, within the limits of Exasol. -/
def Inferable : ExasolType → Prop
  | boolean | double | date | timestamp _ | intervalYearToMonth => True
  | char size => size ≤ 2000
  | varchar size => size ≤ 2000000
  | decimal precision scale =>
    (1 ≤ precision ∧ precision ≤ maxDecimalPrecision) ∧
      (0 ≤ scale.val ∧ scale.val ≤ precision.toNat)
  | intervalDayToSecond precision => precision.toNat ≤ 9
  | geometry _ | hashtype _ => False

/-- Two types whose common type keeps the values of both. The digits before the point and those
after it must fit together; a decimal is a DOUBLE if it has no fraction and at most fifteen
digits. -/
def Compatible : ExasolType → ExasolType → Prop
  | decimal p1 s1, decimal p2 s2 =>
    max (p1.toNat - s1.val) (p2.toNat - s2.val) + max s1.val s2.val ≤ max (p1.toNat : ℤ) p2.toNat
  | decimal p s, double | double, decimal p s => s.val = 0 ∧ p.toNat ≤ 15
  | _, _ => True

end ExasolType

/-- Every value of both types is kept by their common type. -/
def WideningKeeps (a b : ExasolType) : Prop :=
  (∀ v, a.Holds v → (widenType a b).Keeps a v) ∧ ∀ v, b.Holds v → (widenType a b).Keeps b v

/-! ### Inferred types -/

/-- A type that an Arrow type maps to can be inferred. -/
theorem inferable_of_arrowToExasol {debug : DataType → String} {t : DataType} {e : ExasolType}
    (h : TypeMapper.arrowToExasol debug t = .ok e) : e.Inferable := by
  cases t with
  | dictionary key value =>
    rw [TypeMapper.arrowToExasol] at h
    split at h
    · cases h
      exact le_rfl
    · cases h
  | decimal128 precision scale | decimal256 precision scale =>
    rw [TypeMapper.arrowToExasol] at h
    split at h
    · rename_i hp
      cases h
      exact hp
    · cases h
  | interval unit =>
    cases unit <;> cases h
    · exact trivial
    all_goals
      change (3 : UInt8).toNat ≤ 9
      decide
  | utf8 | largeUtf8 | utf8View | binary | largeBinary | binaryView | fixedSizeBinary _ =>
    cases h
    exact le_rfl
  | int8 | int16 | int32 | int64 | uint8 | uint16 | uint32 | uint64 =>
    cases h
    exact ⟨by decide, by decide⟩
  | boolean | float32 | float64 | date32 | date64 | timestamp _ _ =>
    cases h
    exact trivial
  | other _ => cases h

theorem val_max {w : ℕ} (x y : SInt w) : (max x y).val = max x.val y.val := by
  rcases le_total x y with h | h
  · have hval : x.val ≤ y.val := h
    rw [max_eq_right h, max_eq_right hval]
  · have hval : y.val ≤ x.val := h
    rw [max_eq_left h, max_eq_left hval]

theorem toNat_max (x y : UInt8) : (max x y).toNat = max x.toNat y.toNat := by
  rcases le_total x y with h | h
  · rw [max_eq_right h, max_eq_right (UInt8.le_iff_toNat_le.mp h)]
  · rw [max_eq_left h, max_eq_left (UInt8.le_iff_toNat_le.mp h)]

section Pairs

variable {a b : ExasolType} {v w : Datum} {s : List Char}

/-- Inferred types are within the limits of Exasol. -/
theorem ExasolType.Inferable.valid (ha : a.Inferable) : a.Valid := by
  cases a with
  | decimal precision scale => exact ha.1.2
  | char | varchar => exact ha
  | boolean | double | date | timestamp | intervalYearToMonth | intervalDayToSecond => exact trivial
  | geometry | hashtype => exact ha.elim

/-- The common type of inferred types is one as well. -/
theorem inferable_widenType (ha : a.Inferable) (hb : b.Inferable) :
    (widenType a b).Inferable := by
  by_cases h : a.family = b.family
  · by_cases hflat : a.family.Flat
    · rcases eq_or_ne a b with rfl | hne
      · rw [widenType_self]
        exact ha
      · rw [widenType_of_flat hflat hne]
        exact le_rfl
    cases a <;> cases b <;> try (cases h; done)
    case char.char => rw [widenType_char ha hb]; exact max_le ha hb
    case char.varchar =>
      rw [widenType_char_varchar ha hb]
      exact max_le (le_trans ha (by norm_num)) hb
    case varchar.char =>
      rw [widenType_varchar_char hb ha]
      exact max_le (le_trans hb (by norm_num)) ha
    case varchar.varchar => rw [widenType_varchar ha hb]; exact max_le ha hb
    case decimal.decimal p1 s1 p2 s2 =>
      rw [widenType_decimal ha.1.2 hb.1.2]
      refine ⟨⟨le_trans ha.1.1 (le_max_left _ _), max_le ha.1.2 hb.1.2⟩, ?_⟩
      have h1 := ha.2
      have h2 := hb.2
      rw [val_max, toNat_max]
      omega
    case timestamp.timestamp => rw [widenType_timestamp]; exact trivial
    case intervalDayToSecond.intervalDayToSecond =>
      rw [widenType_intervalDayToSecond]
      change (max _ _ : UInt8).toNat ≤ 9
      rw [toNat_max]
      exact max_le ha hb
    case decimal.double | double.decimal | double.double => exact trivial
    all_goals exact absurd trivial hflat
  · rw [widenType_of_family_ne h]
    exact le_rfl

/-! ### Texts -/

/-- The text of a finite float is that of the printer. -/
theorem formatFloat_of_finite {x : F64} (hx : x.isSpecial = false) :
    Import.formatFloat x = F64.display x := by
  unfold Import.formatFloat
  rw [Pattern.isNan, hx, Bool.false_and, if_neg Bool.false_ne_true, if_neg Bool.false_ne_true]

/-- The text of months begins with a minus sign for a number below zero only. -/
theorem monthsText_inj {m n : ℤ} (hm : m.natAbs < 12 * 10 ^ 9) (hn : n.natAbs < 12 * 10 ^ 9)
    (h : monthsText m = monthsText n) : m = n := by
  -- The years and the months without the sign are read back.
  have hread (k : ℤ) (hk : k.natAbs < 12 * 10 ^ 9) : ∃ a : SInt 64, a.val = k.natAbs ∧
      parseIntervalMonths (natText (k.natAbs / 12) ++ '-' :: pad 2 (natText (k.natAbs % 12))) [] =
        .ok a := by
    obtain ⟨a, ha, hval⟩ := parseIntervalMonths_text ⟨false, k.natAbs / 12, k.natAbs % 12, by omega,
      Nat.mod_lt _ (by norm_num)⟩ 0 []
    rw [pad_zero] at ha
    refine ⟨a, hval.trans ?_, ha⟩
    dsimp only
    omega
  have hdigit (k : ℕ) (t : List Char) : ∃ c r, natText k ++ t = c :: r ∧ c ≠ '-' := by
    obtain ⟨c, r, hcr, hc⟩ := exists_digit_cons 0 k t
    rw [pad_zero] at hcr
    exact ⟨c, r, hcr, fun hdash => by rw [hdash] at hc; exact absurd hc (by decide)⟩
  obtain ⟨a, ha, hparsea⟩ := hread m hm
  obtain ⟨c, hc, hparsec⟩ := hread n hn
  obtain ⟨x, xs, hx, hxdash⟩ := hdigit (m.natAbs / 12) ('-' :: pad 2 (natText (m.natAbs % 12)))
  obtain ⟨y, ys, hy, hydash⟩ := hdigit (n.natAbs / 12) ('-' :: pad 2 (natText (n.natAbs % 12)))
  unfold monthsText minusText at h
  rw [hx, hy] at h
  rw [hx] at hparsea
  rw [hy] at hparsec
  have hsame (hbody : x :: xs = y :: ys) : m.natAbs = n.natAbs := by
    rw [hbody, hparsec] at hparsea
    have hval := congrArg SInt.val (Except.ok.inj hparsea)
    omega
  by_cases hmneg : m < 0 <;> by_cases hnneg : n < 0
  · rw [if_pos hmneg, if_pos hnneg] at h
    have := hsame (List.cons.inj h).2
    omega
  · rw [if_pos hmneg, if_neg hnneg] at h
    exact absurd (List.cons.inj h).1.symm hydash
  · rw [if_neg hmneg, if_pos hnneg] at h
    exact absurd (List.cons.inj h).1 hxdash
  · rw [if_neg hmneg, if_neg hnneg] at h
    have := hsame h
    omega

/-- **A text belongs to one value only.** -/
theorem writes_unique (ha : a.Inferable) (hv : a.Writes v s) (hw : a.Writes w s) : w = v := by
  cases a with
  | geometry | hashtype => exact ha.elim
  | boolean =>
    cases v with
    | boolean b =>
      cases w with
      | boolean b' =>
        have h : (if b then "true".toList else "false".toList) =
          if b' then "true".toList else "false".toList := hv.symm.trans hw
        cases b <;> cases b' <;> first | rfl | exact absurd h (by decide)
      | _ => exact hw.elim
    | _ => exact hv.elim
  | char size | varchar size =>
    cases v with
    | text t =>
      cases w with
      | text t' => exact congrArg Datum.text (hw.symm.trans hv)
      | _ => exact hw.elim
    | _ => exact hv.elim
  | decimal precision scale =>
    cases v with
    | number q =>
      cases w with
      | number q' =>
        obtain ⟨m, rfl, hm⟩ := hv
        obtain ⟨n, rfl, hn⟩ := hw
        have hvalue := value?_formatDecimalText m ha.2.1
        rw [← hm, hn, value?_formatDecimalText n ha.2.1] at hvalue
        exact congrArg Datum.number (Option.some.inj hvalue)
      | _ => exact hw.elim
    | _ => exact hv.elim
  | double =>
    cases v with
    | number q =>
      cases w with
      | number q' =>
        obtain ⟨x, hx, rfl, hxs⟩ := hv
        obtain ⟨y, hy, rfl, hys⟩ := hw
        rw [formatFloat_of_finite hx] at hxs
        rw [formatFloat_of_finite hy] at hys
        exact congrArg Datum.number (F64.toRat_eq_of_display_eq hy hx (hys.symm.trans hxs))
      | _ => exact hw.elim
    | _ => exact hv.elim
  | date =>
    cases v with
    | date d =>
      cases w with
      | date d' =>
        have hread := readDate?_dateText hv.1
        rw [← hv.2, hw.2, readDate?_dateText hw.1] at hread
        exact congrArg Datum.date (Option.some.inj hread)
      | _ => exact hw.elim
    | _ => exact hv.elim
  | timestamp tz =>
    cases v with
    | timestamp micros =>
      cases w with
      | timestamp micros' =>
        obtain ⟨d, t, ⟨hd, ht, rfl⟩, hs⟩ := hv
        obtain ⟨d', t', ⟨hd', ht', rfl⟩, hs'⟩ := hw
        have hread := readInstant?_text hd ht
        rw [← hs, hs', readInstant?_text hd' ht'] at hread
        exact congrArg Datum.timestamp (Option.some.inj hread)
      | _ => exact hw.elim
    | _ => exact hv.elim
  | intervalYearToMonth =>
    cases v with
    | months m =>
      cases w with
      | months n => exact congrArg Datum.months (monthsText_inj hw.1 hv.1 (hw.2.symm.trans hv.2))
      | _ => exact hw.elim
    | _ => exact hv.elim
  | intervalDayToSecond precision =>
    cases v with
    | duration m =>
      cases w with
      | duration n =>
        obtain ⟨x, -, rfl, hx⟩ := hv
        obtain ⟨y, -, rfl, hy⟩ := hw
        obtain ⟨i, hi, -, hid, -⟩ := @readsAs_plainText .panics x
        obtain ⟨j, hj, -, hjd, -⟩ := @readsAs_plainText .panics y
        rw [← hx, hy, hj] at hi
        rw [← hid, ← hjd, Except.ok.inj hi]
      | _ => exact hw.elim
    | _ => exact hv.elim

/-! ### The texts are those of the formatters -/

section Formatters

variable {chrono : Chrono}

/-- A date is written so. -/
theorem writes_formatDate32 {days : SInt 32} (h : formatDate32 chrono days = .ok s) :
    ∃ d, d.dayNumber = days.val ∧ date.Writes (.date d) s := by
  obtain ⟨d, hd, hval, rfl⟩ := exists_of_formatDate32 h
  exact ⟨d, hval, hd, rfl⟩

/-- A timestamp is written so, floored to the microsecond. -/
theorem writes_formatTimestamp {unit : TimeUnit} {value : SInt 64} {tz : Bool}
    (h : formatTimestamp chrono unit value = .ok s) :
    (timestamp tz).Writes (.timestamp (instantMicros unit value.val)) s := by
  unfold formatTimestamp at h
  split at h
  · cases h
  · rename_i micros hmicros
    split at h
    · rename_i text htext
      cases h
      obtain ⟨d, t, hd, ht, hval, rfl⟩ := exists_of_formatTimestampMicros htext
      rw [← timestampUnitToMicros_eq_ok.mp hmicros]
      exact ⟨d, t, ⟨hd, ht, hval⟩, rfl⟩
    · cases h

/-- An interval of years and months is written so. -/
theorem writes_formatIntervalYearToMonth (months : SInt 32) :
    intervalYearToMonth.Writes (.months months.val) (formatIntervalYearToMonth months) := by
  have hge := months.ge
  have hlt := months.lt
  exact ⟨by omega, rfl⟩

/-- An interval of days and a time is written so. -/
theorem writes_formatIntervalDayToSecond {days : SInt 32} {milliseconds : SInt 64}
    (h : formatIntervalDayToSecond days milliseconds = .ok s) :
    (intervalDayToSecond 3).Writes (.duration (totalMillis days milliseconds * 1000000)) s := by
  obtain ⟨hmillis, rfl⟩ := formatIntervalDayToSecond_eq_ok.mp h
  exact ⟨_, rfl, duration_dayTimeOf hmillis, rfl⟩

end Formatters

/-! ### Every value has a text -/

/-- Two digits, or more where the number has more. -/
theorem length_padded_le {w k n : ℕ} (hk : 0 < k) (hw : w ≤ k) (h : n < 10 ^ k) :
    (pad w (natText n)).length ≤ k := by
  have hlen := length_natText_le hk h
  rw [pad, List.length_append, List.length_replicate]
  omega

/-- The text of a date. -/
theorem length_dateText_le {d : Date} (hd : InExasolYears d) : (dateText d).length ≤ 10 := by
  have hyear := hd.2
  have hmonth := d.month_mem
  have hday := d.day_mem
  have h31 := daysInMonth_le (isLeap d.year) d.month
  have h1 := @length_padded_le 4 4 d.year.toNat (by norm_num) le_rfl (by omega)
  have h2 := @length_padded_le 2 2 d.month (by norm_num) le_rfl (by omega)
  have h3 := @length_padded_le 2 2 d.day (by norm_num) le_rfl (by omega)
  unfold dateText
  simp only [List.length_append, List.length_cons]
  omega

/-- The text of a time of day. -/
theorem length_timeText_le {t : ℕ} (ht : t < 86400000000) : (timeText t).length ≤ 15 := by
  have h1 := @length_padded_le 2 2 (t / 3600000000) (by norm_num) le_rfl (by omega)
  have h2 := @length_padded_le 2 2 (t / 60000000 % 60) (by norm_num) le_rfl (by omega)
  have h3 := @length_padded_le 2 2 (t / 1000000 % 60) (by norm_num) le_rfl (by omega)
  have h4 := @length_padded_le 6 6 (t % 1000000) (by norm_num) le_rfl (by omega)
  unfold timeText
  simp only [List.length_append, List.length_cons]
  omega

/-- The text of months. -/
theorem length_monthsText_le {n : ℤ} (hn : n.natAbs < 12 * 10 ^ 9) :
    (monthsText n).length ≤ 13 := by
  have h1 := @length_natText_le (n.natAbs / 12) 9 (by norm_num) (by omega)
  have h2 := @length_padded_le 2 2 (n.natAbs % 12) (by norm_num) le_rfl (by omega)
  have h3 : (minusText n).length ≤ 1 := by
    unfold minusText
    split <;> decide
  unfold monthsText
  simp only [List.length_append, List.length_cons]
  omega

/-- The text of days and a time. -/
theorem length_plainText_le (v : DayTime) : v.plainText.length ≤ 29 := by
  have hdays := v.days_lt
  obtain ⟨hh, hm, hs⟩ := v.time_lt
  have hdigits := v.digits_le
  have h1 := @length_padded_le 0 9 v.days (by norm_num) (by norm_num) hdays
  have h2 := @length_padded_le 2 2 v.hours (by norm_num) le_rfl (by omega)
  have h3 := @length_padded_le 2 2 v.minutes (by norm_num) le_rfl (by omega)
  have h4 := @length_padded_le 2 2 v.seconds (by norm_num) le_rfl (by omega)
  have h5 : v.fractionText.length ≤ 10 := by
    unfold DayTime.fractionText
    split
    · exact Nat.zero_le _
    · have := @length_padded_le v.digits v.digits v.fraction (by omega) le_rfl v.fraction_lt
      rw [List.length_cons]
      omega
  have h6 : (if v.negative then ['-'] else []).length ≤ 1 := by split <;> decide
  unfold DayTime.plainText DayTime.body
  simp only [List.length_append, List.length_cons]
  omega

/-- The text of an integer with few digits. -/
theorem length_intText_le {n : ℤ} {k : ℕ} (hk : 0 < k) (h : n.natAbs < 10 ^ k) :
    (intText n).length ≤ k + 1 := by
  have hlen := length_natText_le hk h
  unfold intText
  split
  · rw [List.length_cons]
    omega
  · omega

/-- **Every value has a text, which is not long.** -/
theorem exists_writes (ha : a.Inferable) (hv : a.Holds v) :
    ∃ s, a.Writes v s ∧ s.length ≤ 2000000 := by
  cases a with
  | geometry | hashtype => exact ha.elim
  | boolean =>
    cases v with
    | boolean b => exact ⟨_, rfl, by cases b <;> decide⟩
    | _ => exact hv.elim
  | char size | varchar size =>
    cases v with
    | text t => exact ⟨t, rfl, le_trans hv (le_trans ha (by norm_num))⟩
    | _ => exact hv.elim
  | decimal precision scale =>
    cases v with
    | number q =>
      obtain ⟨n, rfl, hn⟩ := hv
      obtain ⟨⟨hp1, hp⟩, hs0, hs⟩ := ha
      have hp' : precision.toNat ≤ 36 := UInt8.le_iff_toNat_le.mp hp
      have hp1' : 1 ≤ precision.toNat := UInt8.le_iff_toNat_le.mp hp1
      have hint := length_intText_le hp1' hn
      exact ⟨_, ⟨n, rfl, rfl⟩, (length_formatDecimalText_le _ _).trans (by omega)⟩
    | _ => exact hv.elim
  | double =>
    cases v with
    | number q =>
      obtain ⟨x, hx, rfl⟩ := hv
      refine ⟨_, ⟨x, hx, rfl, rfl⟩, ?_⟩
      rw [formatFloat_of_finite hx]
      exact (F64.length_display_le hx).trans (by norm_num)
    | _ => exact hv.elim
  | date =>
    cases v with
    | date d => exact ⟨_, ⟨hv, rfl⟩, (length_dateText_le hv).trans (by norm_num)⟩
    | _ => exact hv.elim
  | timestamp tz =>
    cases v with
    | timestamp micros =>
      obtain ⟨d, t, hinstant⟩ := hv
      refine ⟨_, ⟨d, t, hinstant, rfl⟩, ?_⟩
      have h1 := length_dateText_le hinstant.1
      have h2 := length_timeText_le hinstant.2.1
      rw [List.length_append, List.length_cons]
      omega
    | _ => exact hv.elim
  | intervalYearToMonth =>
    cases v with
    | months n => exact ⟨_, ⟨hv, rfl⟩, (length_monthsText_le hv).trans (by norm_num)⟩
    | _ => exact hv.elim
  | intervalDayToSecond precision =>
    cases v with
    | duration nanos =>
      obtain ⟨x, hx, hd⟩ := hv
      exact ⟨_, ⟨x, hx, hd, rfl⟩, (length_plainText_le x).trans (by norm_num)⟩
    | _ => exact hv.elim

/-- **The longest VARCHAR keeps every value of every type.** -/
theorem keeps_longestVarchar (ha : a.Inferable) (hv : a.Holds v) : longestVarchar.Keeps a v := by
  obtain ⟨s, hs, hlen⟩ := exists_writes ha hv
  exact .inr ⟨2000000, s, rfl, hs, hlen, fun w hw => writes_unique ha hs hw⟩

end Pairs

/-! ### Decimals -/

/-- A decimal with another scale is the same number. -/
theorem decimal_eq_iff {m n : ℤ} {s S : ℕ} (h : s ≤ S) :
    (n : ℚ) / 10 ^ s = m / 10 ^ S ↔ m = n * 10 ^ (S - s) := by
  obtain ⟨k, rfl⟩ := Nat.exists_eq_add_of_le h
  have hs : (10 : ℚ) ^ s ≠ 0 := by positivity
  have hk : (10 : ℚ) ^ k ≠ 0 := by positivity
  rw [Nat.add_sub_cancel_left, pow_add]
  constructor
  · intro heq
    field_simp at heq
    exact_mod_cast heq.symm
  · rintro rfl
    push_cast
    field_simp

/-- **When a decimal type holds the values of another one**: the digits before the point have
room next to those after it. -/
theorem decimal_holds_iff {p s P S : ℕ} (hp : 1 ≤ p) (hs : s ≤ S) :
    (∀ n : ℤ, n.natAbs < 10 ^ p → ∃ m : ℤ, (n : ℚ) / 10 ^ s = m / 10 ^ S ∧ m.natAbs < 10 ^ P) ↔
      p + S ≤ P + s := by
  constructor
  · intro h
    obtain ⟨m, heq, hm⟩ := h (10 ^ (p - 1)) (by
      rw [Int.natAbs_pow]
      exact Nat.pow_lt_pow_right (by norm_num) (by omega))
    rw [(decimal_eq_iff hs).mp heq, ← pow_add, Int.natAbs_pow] at hm
    have := (Nat.pow_lt_pow_iff_right (a := 10) (by norm_num)).mp hm
    omega
  · intro h n hn
    refine ⟨n * 10 ^ (S - s), (decimal_eq_iff hs).mpr rfl, ?_⟩
    rw [Int.natAbs_mul, Int.natAbs_pow]
    calc n.natAbs * 10 ^ (S - s) < 10 ^ p * 10 ^ (S - s) :=
          Nat.mul_lt_mul_of_pos_right hn (by positivity)
      _ = 10 ^ (p + (S - s)) := (pow_add _ _ _).symm
      _ ≤ 10 ^ P := Nat.pow_le_pow_right (by norm_num) (by omega)

/-- The size of a finite float is that of its number. -/
theorem abs_toRat {x : F64} (hx : x.isSpecial = false) : |x.toRat| = x.magnitude := by
  have h0 := F64.magnitude_nonneg hx
  unfold Pattern.toRat
  split
  · rw [abs_neg, abs_of_nonneg h0]
  · exact abs_of_nonneg h0

/-- No fraction of one decimal digit or more is a float. -/
theorem not_isDyadic_tenth {s : ℕ} (hs : s ≠ 0) : ¬F64.IsDyadic (1 / 10 ^ s) := by
  rintro ⟨m, k, -, -, -, heq⟩
  have hten : (10 : ℚ) ^ s ≠ 0 := by positivity
  rcases le_or_gt 0 k with hk | hk
  · obtain ⟨j, rfl⟩ := Int.eq_ofNat_of_zero_le hk
    rw [zpow_natCast] at heq
    have hone : 10 ^ s * (m * 2 ^ j) = 1 := by
      rw [← mul_assoc]
      field_simp at heq
      exact_mod_cast heq.symm
    have hpow := Nat.eq_one_of_mul_eq_one_right hone
    exact absurd ((Nat.pow_eq_one.mp hpow).resolve_right hs) (by norm_num)
  · obtain ⟨j, hj⟩ := Int.eq_ofNat_of_zero_le (a := -k) (by omega)
    rw [show k = -(j : ℤ) by omega, zpow_neg, zpow_natCast] at heq
    have hpow : 10 ^ s * m = 2 ^ j := by
      have : (10 : ℚ) ^ s * m = 2 ^ j := by
        field_simp at heq
        linarith
      exact_mod_cast this
    have hfive : 5 ∣ 2 ^ j :=
      ((dvd_pow (by norm_num : 5 ∣ 10) hs).trans (Dvd.intro _ hpow))
    exact absurd (Nat.Prime.dvd_of_dvd_pow Nat.prime_five hfive) (by norm_num)

/-- An odd number with more than 53 binary digits is no float. -/
theorem not_isDyadic_odd {n : ℕ} (hn : 2 ^ 53 ≤ n) (hodd : n % 2 = 1) :
    ¬F64.IsDyadic (n : ℚ) := by
  rintro ⟨m, k, hm, -, -, heq⟩
  rcases lt_or_ge 0 k with hk | hk
  · obtain ⟨j, hj⟩ := Int.eq_ofNat_of_zero_le (a := k - 1) (by omega)
    have heven : n = 2 * (m * 2 ^ j) := by
      rw [show k = (j : ℤ) + 1 by omega, zpow_add₀ (by norm_num), zpow_natCast, zpow_one] at heq
      have : (n : ℚ) = 2 * (m * 2 ^ j) := by rw [heq]; ring
      exact_mod_cast this
    omega
  · obtain ⟨j, hj⟩ := Int.eq_ofNat_of_zero_le (a := -k) (by omega)
    have hm' : n * 2 ^ j = m := by
      rw [show k = -(j : ℤ) by omega, zpow_neg, zpow_natCast] at heq
      have : (n : ℚ) * 2 ^ j = m := by
        rw [heq]
        field_simp
      exact_mod_cast this
    have := Nat.le_mul_of_pos_right n (Nat.two_pow_pos j)
    omega

/-- **When the values of a decimal type are floats**: they have no fraction and at most fifteen
digits. -/
theorem decimal_double_iff {p s : ℕ} (hp : 1 ≤ p) :
    (∀ n : ℤ, n.natAbs < 10 ^ p → ∃ x : F64, x.isSpecial = false ∧ x.toRat = n / 10 ^ s) ↔
      s = 0 ∧ p ≤ 15 := by
  constructor
  · intro h
    have hdyadic (n : ℕ) (hn : n < 10 ^ p) : F64.IsDyadic ((n : ℚ) / 10 ^ s) := by
      obtain ⟨x, hx, hq⟩ := h n hn
      have habs := abs_toRat hx
      rw [hq, Int.cast_natCast, abs_of_nonneg (by positivity)] at habs
      rw [habs]
      exact F64.isDyadic_magnitude hx
    have hs : s = 0 := by
      by_contra hne
      have hone := hdyadic 1 (Nat.one_lt_pow (by omega) (by norm_num))
      rw [Nat.cast_one] at hone
      exact not_isDyadic_tenth hne hone
    refine ⟨hs, ?_⟩
    by_contra hlt
    have hodd := hdyadic (2 ^ 53 + 1) (lt_of_lt_of_le (by norm_num)
      (Nat.pow_le_pow_right (by norm_num) (show 16 ≤ p by omega)))
    rw [hs, pow_zero, div_one] at hodd
    exact not_isDyadic_odd (by norm_num) (by norm_num) hodd
  · rintro ⟨rfl, hp15⟩ n hn
    have hlt : n.natAbs < 2 ^ 53 :=
      lt_of_lt_of_le hn ((Nat.pow_le_pow_right (by norm_num) hp15).trans (by norm_num))
    have hdyadic : F64.IsDyadic |(n : ℚ)| := by
      refine ⟨n.natAbs, 0, hlt, by norm_num, by norm_num, ?_⟩
      rw [zpow_zero, mul_one, Nat.cast_natAbs, Int.cast_abs]
    obtain ⟨hs, hq⟩ := (F64.toRat_ofInt_iff n).mpr hdyadic
    exact ⟨F64.ofInt n, hs, by rw [hq, pow_zero, div_one]⟩

/-! ### The common type -/

section Common

variable {a b : ExasolType} {p1 p2 : UInt8} {s1 s2 : SInt 8}

/-- A type that is no VARCHAR keeps what it holds. -/
theorem keeps_iff {t source : ExasolType} {v : Datum} (ht : ∀ size, t ≠ varchar size) :
    t.Keeps source v ↔ t.Holds v := by
  refine ⟨fun h => h.resolve_right ?_, .inl⟩
  rintro ⟨size, -, hsize, -⟩
  exact ht size hsize

/-- The values of a decimal type in a wider one. -/
theorem decimal_keeps_iff (h1 : 1 ≤ p1.toNat) (hs : s1.val.toNat ≤ s2.val.toNat) :
    (∀ v, (decimal p1 s1).Holds v → (decimal p2 s2).Keeps (decimal p1 s1) v) ↔
      p1.toNat + s2.val.toNat ≤ p2.toNat + s1.val.toNat := by
  rw [← decimal_holds_iff h1 hs]
  simp only [keeps_iff (t := decimal p2 s2) fun _ => ExasolType.noConfusion]
  refine ⟨fun h n hn => h (.number _) ⟨n, rfl, hn⟩, fun h v hv => ?_⟩
  cases v with
  | number q =>
    obtain ⟨n, rfl, hn⟩ := hv
    exact h n hn
  | _ => exact hv.elim

/-- The values of a decimal type in a DOUBLE. -/
theorem double_keeps_iff (h1 : 1 ≤ p1.toNat) (h0 : 0 ≤ s1.val) :
    (∀ v, (decimal p1 s1).Holds v → double.Keeps (decimal p1 s1) v) ↔
      s1.val = 0 ∧ p1.toNat ≤ 15 := by
  have hzero : s1.val = 0 ↔ s1.val.toNat = 0 := by omega
  rw [hzero, ← decimal_double_iff h1]
  simp only [keeps_iff (t := double) fun _ => ExasolType.noConfusion]
  refine ⟨fun h n hn => h (.number _) ⟨n, rfl, hn⟩, fun h v hv => ?_⟩
  cases v with
  | number q =>
    obtain ⟨n, rfl, hn⟩ := hv
    exact h n hn
  | _ => exact hv.elim

/-- The values of a text type in a VARCHAR with room for them. -/
theorem varchar_keeps {m n : ℕ} {v : Datum} (h : m ≤ n) (hv : (varchar m).Holds v)
    (source : ExasolType) : (varchar n).Keeps source v := by
  cases v with
  | text t => exact .inl (le_trans hv h)
  | _ => exact hv.elim

/-- The values of a CHAR are those of a VARCHAR. -/
theorem varchar_holds_of_char {m : ℕ} {v : Datum} (hv : (char m).Holds v) :
    (varchar m).Holds v := by
  cases v <;> exact hv

/-- Both kinds of timestamps have the same values. -/
theorem timestamp_keeps {x y : Bool} {v : Datum} (hv : (timestamp x).Holds v)
    (source : ExasolType) : (timestamp y).Keeps source v := by
  cases v <;> exact .inl hv

/-- The values of a CHAR in a longer one. -/
theorem char_keeps {m n : ℕ} {v : Datum} (h : m ≤ n) (hv : (char m).Holds v)
    (source : ExasolType) : (char n).Keeps source v := by
  cases v with
  | text t => exact .inl (le_trans hv h)
  | _ => exact hv.elim

/-- An interval with more digits after the point. -/
def DayTime.withDigits (v : DayTime) (k : ℕ) (hk : k ≤ 9) (h : v.digits ≤ k) : DayTime :=
  { v with
    digits := k
    fraction := v.fraction * 10 ^ (k - v.digits)
    digits_le := hk
    fraction_lt := by
      calc v.fraction * 10 ^ (k - v.digits) < 10 ^ v.digits * 10 ^ (k - v.digits) :=
            Nat.mul_lt_mul_of_pos_right v.fraction_lt (by positivity)
        _ = 10 ^ k := by rw [← pow_add, Nat.add_sub_cancel' h] }

/-- It is as long. -/
theorem duration_withDigits (v : DayTime) (k : ℕ) (hk : k ≤ 9) (h : v.digits ≤ k) :
    (v.withDigits k hk h).duration = v.duration := by
  have hscale : v.fraction * 10 ^ (k - v.digits) * 10 ^ (9 - k) =
      v.fraction * 10 ^ (9 - v.digits) := by
    rw [mul_assoc, ← pow_add]
    congr 2
    omega
  have hnanos : (v.withDigits k hk h).nanos = v.nanos := congrArg (_ + ·) hscale
  unfold DayTime.duration
  rw [hnanos]
  rfl

/-- The values of an interval type in one with more digits. -/
theorem intervalDayToSecond_keeps {v : Datum} (h : p1.toNat ≤ p2.toNat) (h9 : p2.toNat ≤ 9)
    (hv : (intervalDayToSecond p1).Holds v) (source : ExasolType) :
    (intervalDayToSecond p2).Keeps source v := by
  cases v with
  | duration nanos =>
    obtain ⟨x, hx, rfl⟩ := hv
    have hle : x.digits ≤ p2.toNat := hx ▸ h
    exact .inl ⟨x.withDigits _ h9 hle, rfl, duration_withDigits x _ h9 hle⟩
  | _ => exact hv.elim

/-- **Two decimals** keep their values if the digits before the point and those after it fit
together. -/
theorem wideningKeeps_decimal (h1 : (decimal p1 s1).Inferable) (h2 : (decimal p2 s2).Inferable) :
    WideningKeeps (decimal p1 s1) (decimal p2 s2) ↔
      Compatible (decimal p1 s1) (decimal p2 s2) := by
  obtain ⟨⟨hp1, hp1'⟩, hs1, -⟩ := h1
  obtain ⟨⟨hp2, hp2'⟩, hs2, -⟩ := h2
  have hone1 : 1 ≤ p1.toNat := UInt8.le_iff_toNat_le.mp hp1
  have hone2 : 1 ≤ p2.toNat := UInt8.le_iff_toNat_le.mp hp2
  have hmax := val_max s1 s2
  unfold WideningKeeps Compatible
  rw [widenType_decimal hp1' hp2', decimal_keeps_iff hone1 (by omega),
    decimal_keeps_iff hone2 (by omega), toNat_max, hmax]
  omega

/-- **A decimal and a DOUBLE** keep their values if those of the decimal are floats. -/
theorem wideningKeeps_decimal_double (h1 : (decimal p1 s1).Inferable) :
    (WideningKeeps (decimal p1 s1) double ↔ s1.val = 0 ∧ p1.toNat ≤ 15) ∧
      (WideningKeeps double (decimal p1 s1) ↔ s1.val = 0 ∧ p1.toNat ≤ 15) := by
  obtain ⟨⟨hp1, -⟩, hs1, -⟩ := h1
  have hone1 : 1 ≤ p1.toNat := UInt8.le_iff_toNat_le.mp hp1
  unfold WideningKeeps
  rw [widenType_decimal_double, widenType_double_decimal, double_keeps_iff hone1 hs1]
  exact ⟨and_iff_left fun v hv => .inl hv, and_iff_right fun v hv => .inl hv⟩

end Common

/-- **The common type of two inferred types keeps every value of both exactly when the types are
compatible**: for decimals, when the digits before the point and those after it fit together; for
a decimal and a DOUBLE, when the decimal has no fraction and at most fifteen digits; for all other
types always. -/
theorem widenType_keeps_iff {a b : ExasolType} (ha : a.Inferable) (hb : b.Inferable) :
    WideningKeeps a b ↔ Compatible a b := by
  by_cases h : a.family = b.family
  · by_cases hflat : a.family.Flat
    · -- Of one such family only two equal types, or texts.
      have hcompatible : Compatible a b := by
        cases a <;> first | exact hflat.elim | exact trivial
      refine iff_of_true ?_ hcompatible
      unfold WideningKeeps
      rcases eq_or_ne a b with rfl | hne
      · rw [widenType_self]
        exact ⟨fun v hv => .inl hv, fun v hv => .inl hv⟩
      · rw [widenType_of_flat hflat hne]
        exact ⟨fun v hv => keeps_longestVarchar ha hv, fun v hv => keeps_longestVarchar hb hv⟩
    cases a <;> cases b <;> try (cases h; done)
    case decimal.decimal => exact wideningKeeps_decimal ha hb
    case decimal.double => exact (wideningKeeps_decimal_double ha).1
    case double.decimal => exact (wideningKeeps_decimal_double hb).2
    case double.double =>
      exact iff_of_true ⟨fun v hv => .inl hv, fun v hv => .inl hv⟩ trivial
    all_goals refine iff_of_true ?_ trivial
    all_goals unfold WideningKeeps
    case char.char =>
      rw [widenType_char ha hb]
      exact ⟨fun v hv => char_keeps (le_max_left _ _) hv _,
        fun v hv => char_keeps (le_max_right _ _) hv _⟩
    case char.varchar =>
      rw [widenType_char_varchar ha hb]
      exact ⟨fun v hv => varchar_keeps (le_max_left _ _) (varchar_holds_of_char hv) _,
        fun v hv => varchar_keeps (le_max_right _ _) hv _⟩
    case varchar.char =>
      rw [widenType_varchar_char hb ha]
      exact ⟨fun v hv => varchar_keeps (le_max_right _ _) hv _,
        fun v hv => varchar_keeps (le_max_left _ _) (varchar_holds_of_char hv) _⟩
    case varchar.varchar =>
      rw [widenType_varchar ha hb]
      exact ⟨fun v hv => varchar_keeps (le_max_left _ _) hv _,
        fun v hv => varchar_keeps (le_max_right _ _) hv _⟩
    case timestamp.timestamp =>
      rw [widenType_timestamp]
      exact ⟨fun v hv => timestamp_keeps hv _, fun v hv => timestamp_keeps hv _⟩
    case intervalDayToSecond.intervalDayToSecond p1 p2 =>
      rw [widenType_intervalDayToSecond]
      have hmax := toNat_max p1 p2
      have h1 : p1.toNat ≤ 9 := ha
      have h2 : p2.toNat ≤ 9 := hb
      exact ⟨fun v hv => intervalDayToSecond_keeps (by omega) (by omega) hv _,
        fun v hv => intervalDayToSecond_keeps (by omega) (by omega) hv _⟩
    all_goals exact absurd trivial hflat
  · have hcompatible : Compatible a b := by
      cases a <;> cases b <;> first | exact trivial | exact absurd rfl h
    refine iff_of_true ?_ hcompatible
    unfold WideningKeeps
    rw [widenType_of_family_ne h]
    exact ⟨fun v hv => keeps_longestVarchar ha hv, fun v hv => keeps_longestVarchar hb hv⟩

/-- Two columns of numbers without fractions keep all of them. -/
theorem widenType_keeps_iff_integers : WideningKeeps (.decimal 18 0) (.decimal 36 0) := by
  have h18 : (decimal 18 0).Inferable := by unfold Inferable; decide
  have h36 : (decimal 36 0).Inferable := by unfold Inferable; decide
  exact (widenType_keeps_iff h18 h36).mpr (by unfold Compatible; decide)

/-- Numbers of nine digits lose two of them to a fraction, and large integers become floats. -/
theorem widenType_loses :
    ((decimal 9 0).Inferable ∧ (decimal 9 2).Inferable ∧
      ¬WideningKeeps (.decimal 9 0) (.decimal 9 2)) ∧
    (decimal 18 0).Inferable ∧ double.Inferable ∧ ¬WideningKeeps (.decimal 18 0) .double := by
  have h90 : (decimal 9 0).Inferable := by unfold Inferable; decide
  have h92 : (decimal 9 2).Inferable := by unfold Inferable; decide
  have h18 : (decimal 18 0).Inferable := by unfold Inferable; decide
  refine ⟨⟨h90, h92, ?_⟩, h18, trivial, ?_⟩
  · rw [wideningKeeps_decimal h90 h92]
    unfold Compatible
    decide
  · rw [(wideningKeeps_decimal_double h18).1]
    decide

end Exarrow
