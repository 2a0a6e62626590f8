import Exarrow.Intervals

/-!
# Writing intervals

The texts that are made of intervals for an import, and what reading them gives.

* `Exarrow.formatIntervalYearToMonth` writes a number of months.
* `Exarrow.formatIntervalDayToSecond` writes days and milliseconds, and
  `Exarrow.formatIntervalMonthDayNano` an interval of three parts. Each part of an interval has
  a sign of its own, and its text has one; so the parts are added up before they are written.

What Exasol can hold of this is said without the formatters: an interval of at most nine
digits of days with three digits after the point (`Exarrow.Representable`).
**The formatters succeed on what can be held, and it is read back**
(`Exarrow.interval_formatting`). The parts that are read have one sign, which those that were
written need not have.
-/

namespace Exarrow

open Machine Checked Numeral Arrow

/-! ### The formatters -/

/-- The milliseconds of a day. -/
def millisPerDay : SInt 64 := 86400000

/-- A sign is written for a number below zero. -/
def minusText (x : ℤ) : List Char := if x < 0 then ['-'] else []

/-- Writes months as years and months. -/
def formatIntervalYearToMonth (months : SInt 32) : List Char :=
  let magnitude := months.val.natAbs
  minusText months.val ++ (natText (magnitude / 12) ++ '-' :: pad 2 (natText (magnitude % 12)))

/-- Writes days and milliseconds, added up. -/
def formatIntervalDayToSecond (days : SInt 32) (milliseconds : SInt 64) :
    Except String (List Char) :=
  let outOfRange := s!"Interval value of {days.val} days and {milliseconds.val} milliseconds is " ++
    "out of range, because INTERVAL DAY(9) TO SECOND holds at most 999,999,999 days"
  match (checkedMul (days.extend 64 SInt.le_32_64) millisPerDay).bind
      (checkedAdd · milliseconds) with
  | none => .error outOfRange
  | some total =>
    let magnitude := total.val.natAbs
    let wholeDays := magnitude / 86400000
    if 999999999 < wholeDays then .error outOfRange
    else
      let time := magnitude % 86400000
      .ok (minusText total.val ++ (natText wholeDays ++ ' ' :: (pad 2 (natText (time / 3600000)) ++
        ':' :: (pad 2 (natText (time / 60000 % 60)) ++ ':' ::
          (pad 2 (natText (time / 1000 % 60)) ++ '.' :: pad 3 (natText (time % 1000)))))))

/-- Writes an interval without months whose nanoseconds are whole milliseconds. -/
def formatIntervalMonthDayNano (value : IntervalMonthDayNano) : Except String (List Char) :=
  let described := s!"Interval value of {value.months.val} months, {value.days.val} days, and " ++
    s!"{value.nanoseconds.val} nanoseconds"
  if value.months ≠ 0 then
    .error (described ++
      " has a month component, but Exasol INTERVAL DAY TO SECOND has no month component")
  else if value.nanoseconds.val.tmod 1000000 ≠ 0 then
    .error (described ++ " has a fraction of a millisecond, but Exasol stores INTERVAL DAY TO " ++
      "SECOND values in whole milliseconds")
  else formatIntervalDayToSecond value.days (value.nanoseconds.divTrunc 1000000)

/-! ### What is written -/

/-- The nanoseconds of an interval of days and a time, with its sign. -/
def DayTime.duration (v : DayTime) : ℤ := signed v.negative (v.days * 86400000000000 + v.nanos)

/-- Exasol can hold the nanoseconds: as whole milliseconds, with nine digits of days. -/
def Representable (nanos : ℤ) : Prop := ∃ v : DayTime, v.digits = 3 ∧ v.duration = nanos

/-- The nanoseconds of the days and of the time of an interval, which has months as well. -/
def dayTimeNanos (i : IntervalMonthDayNano) : ℤ :=
  i.days.val * 86400000000000 + i.nanoseconds.val

/-- The days and the time of an interval do not have different signs. -/
def OneSign (i : IntervalMonthDayNano) : Prop :=
  0 ≤ i.days.val ∧ 0 ≤ i.nanoseconds.val ∨ i.days.val ≤ 0 ∧ i.nanoseconds.val ≤ 0

/-- A text is read as so many nanoseconds, of one sign. -/
def ReadsAs (ov : Overflow) (text : List Char) (nanos : ℤ) : Prop :=
  ∃ i, parseInterval ov text = .ok i ∧ i.months = 0 ∧ dayTimeNanos i = nanos ∧ OneSign i

/-- The text of an interval of days and a time with a sign only where there must be one. -/
def DayTime.plainText (v : DayTime) : List Char :=
  (if v.negative then ['-'] else []) ++ v.body 0

theorem pad_zero (s : List Char) : pad 0 s = s := by
  rw [pad, Nat.zero_sub]
  rfl

section Reading

variable {ov : Overflow}

/-- The text of an interval may lack the plus sign. -/
theorem parseInterval_of_no_sign {c : Char} {s : List Char} (hc : c.isDigit = true) :
    parseInterval ov (c :: s) =
      if '-' ∈ c :: s then do
        let months ← parseIntervalMonths (c :: s) (c :: s)
        let months ← orFail ("Interval month count out of range: " ++ str (c :: s))
          (SInt.ofInt? 32 months.val)
        return ⟨months, 0, 0⟩
      else do
        let (days, nanoseconds) ← parseIntervalDaysAndNanos (c :: s)
        return ⟨0, days, nanoseconds⟩ := by
  unfold parseInterval
  split
  rename_i negative body hsign
  split at hsign
  · rename_i h
    rw [(List.cons.inj h).1] at hc
    exact absurd hc (by decide)
  · rename_i h
    rw [(List.cons.inj h).1] at hc
    exact absurd hc (by decide)
  · cases hsign
    rfl

/-- A text of digits begins with one. -/
theorem exists_digit_cons (k n : ℕ) (t : List Char) :
    ∃ c s, pad k (natText n) ++ t = c :: s ∧ c.isDigit = true := by
  obtain ⟨c, s, hs⟩ := List.exists_cons_of_ne_nil (padded_ne_nil k n)
  refine ⟨c, s ++ t, by rw [hs, List.cons_append], ?_⟩
  exact allDigits_padded k n c (hs ▸ List.mem_cons_self)

/-- The parts that were read add up to the duration. -/
theorem dayTimeNanos_eq {v : DayTime} {i : IntervalMonthDayNano}
    (hd : i.days.val = signed v.negative v.days)
    (hn : i.nanoseconds.val = signed v.negative v.nanos) : dayTimeNanos i = v.duration := by
  unfold dayTimeNanos DayTime.duration
  rw [hd, hn]
  unfold signed
  split <;> ring

theorem oneSign_of_signed {v : DayTime} {i : IntervalMonthDayNano}
    (hd : i.days.val = signed v.negative v.days)
    (hn : i.nanoseconds.val = signed v.negative v.nanos) : OneSign i := by
  unfold OneSign
  rw [hd, hn]
  unfold signed
  split
  · exact .inr ⟨neg_nonpos.mpr (Int.natCast_nonneg _), neg_nonpos.mpr (Int.natCast_nonneg _)⟩
  · exact .inl ⟨Int.natCast_nonneg _, Int.natCast_nonneg _⟩

/-- What is read of an interval of days and a time. -/
theorem readsAs_plainText (v : DayTime) : ReadsAs ov v.plainText v.duration := by
  obtain ⟨d, n, hparse, hd, hn⟩ := parseIntervalDaysAndNanos_body 0 v
  have hd0 : 0 ≤ d.val := hd ▸ Int.natCast_nonneg _
  have hn0 : 0 ≤ n.val := hn ▸ Int.natCast_nonneg _
  have hdash := dash_not_mem_body 0 v
  suffices h : ∃ i, parseInterval ov v.plainText = .ok i ∧ i.months = 0 ∧
      i.days.val = signed v.negative v.days ∧
      i.nanoseconds.val = signed v.negative v.nanos by
    obtain ⟨i, hi, hm, hid, hin⟩ := h
    exact ⟨i, hi, hm, dayTimeNanos_eq hid hin, oneSign_of_signed hid hin⟩
  rw [← hd, ← hn]
  unfold DayTime.plainText
  cases v.negative with
  | true => exact @parseInterval_of_days ov true _ hdash d n hd0 hn0 hparse
  | false =>
    obtain ⟨c, s, hcs, hc⟩ := exists_digit_cons 0 v.days (' ' ::
      (pad 2 (natText v.hours) ++ ':' :: (pad 2 (natText v.minutes) ++ ':' ::
        (pad 2 (natText v.seconds) ++ v.fractionText))))
    have hbody : v.body 0 = c :: s := hcs
    rw [hbody] at hdash hparse
    refine ⟨⟨0, d, n⟩, ?_, rfl, rfl, rfl⟩
    rw [if_neg Bool.false_ne_true, List.nil_append, hbody, parseInterval_of_no_sign hc,
      if_neg hdash, hparse]
    rfl

end Reading

/-! ### Months -/

/-- **Every number of months is written and read back.** -/
theorem parseInterval_formatIntervalYearToMonth {ov : Overflow} (months : SInt 32) :
    parseInterval ov (formatIntervalYearToMonth months) = .ok ⟨months, 0, 0⟩ := by
  have hge := months.ge
  have hlt := months.lt
  let v : YearMonth := ⟨decide (months.val < 0), months.val.natAbs / 12, months.val.natAbs % 12,
    by omega, Nat.mod_lt _ (by norm_num)⟩
  obtain ⟨c, s, hcs, hc⟩ := exists_digit_cons 0 v.years ('-' :: pad 2 (natText v.months))
  have hmem : '-' ∈ c :: s := by rw [← hcs]; simp
  have hread (text : List Char) : ∃ a : SInt 64, parseIntervalMonths (c :: s) text = .ok a ∧
      a.val = months.val.natAbs := by
    obtain ⟨a, ha, hval⟩ := parseIntervalMonths_text v 0 text
    rw [hcs] at ha
    refine ⟨a, ha, hval.trans ?_⟩
    show ((months.val.natAbs / 12 : ℕ) : ℤ) * 12 + ((months.val.natAbs % 12 : ℕ) : ℤ) = _
    omega
  have htext : formatIntervalYearToMonth months = minusText months.val ++ (c :: s) := by
    rw [← hcs, pad_zero]
    rfl
  rw [htext]
  unfold minusText
  split
  · rename_i hneg
    obtain ⟨a, ha, hval⟩ := hread ('-' :: c :: s)
    have h0 : 0 ≤ a.val := by omega
    have hsigned : signed true a.val = months.val := by
      show -a.val = months.val
      omega
    have hparse := @parseInterval_of_months ov true (c :: s) hmem a h0 ha
    rw [hsigned, SInt.ofInt?_val] at hparse
    exact hparse
  · rename_i hpos
    obtain ⟨a, ha, hval⟩ := hread (c :: s)
    have hsame : a.val = months.val := by omega
    rw [List.nil_append, parseInterval_of_no_sign hc, if_pos hmem, ha]
    show (orFail _ (SInt.ofInt? 32 a.val) >>= fun m => .ok (⟨m, 0, 0⟩ : IntervalMonthDayNano)) = _
    rw [hsame, SInt.ofInt?_val]
    rfl

/-! ### Days and a time -/

/-- Milliseconds as days and a time. -/
def dayTimeOf (total : ℤ) (h : total.natAbs / 86400000 ≤ 999999999) : DayTime where
  negative := decide (total < 0)
  days := total.natAbs / 86400000
  hours := total.natAbs % 86400000 / 3600000
  minutes := total.natAbs % 86400000 / 60000 % 60
  seconds := total.natAbs % 86400000 / 1000 % 60
  digits := 3
  fraction := total.natAbs % 86400000 % 1000
  days_lt := by omega
  time_lt := ⟨by omega, Nat.mod_lt _ (by norm_num), Nat.mod_lt _ (by norm_num)⟩
  digits_le := by norm_num
  fraction_lt := Nat.mod_lt _ (by norm_num)

/-- The days and the time are as many milliseconds. -/
theorem duration_dayTimeOf {total : ℤ} (h : total.natAbs / 86400000 ≤ 999999999) :
    (dayTimeOf total h).duration = total * 1000000 := by
  have hnanos : (dayTimeOf total h).nanos = total.natAbs % 86400000 * 1000000 := by
    show ((total.natAbs % 86400000 / 3600000 * 60 + total.natAbs % 86400000 / 60000 % 60) * 60 +
      total.natAbs % 86400000 / 1000 % 60) * 10 ^ 9 +
        total.natAbs % 86400000 % 1000 * 10 ^ (9 - 3) = _
    omega
  have hsum : ((total.natAbs / 86400000 : ℕ) : ℤ) * 86400000000000 +
      ((total.natAbs % 86400000 * 1000000 : ℕ) : ℤ) = total.natAbs * 1000000 := by omega
  unfold DayTime.duration
  rw [hnanos]
  show signed (decide (total < 0)) (((total.natAbs / 86400000 : ℕ) : ℤ) * 86400000000000 + _) = _
  rw [hsum, signed]
  split
  · rename_i hneg
    have := of_decide_eq_true hneg
    omega
  · rename_i hpos
    have := of_decide_eq_false (Bool.eq_false_iff.mpr hpos)
    omega

/-- An interval with three digits after the point is a number of milliseconds. -/
theorem exists_millis {v : DayTime} (h : v.digits = 3) :
    ∃ m : ℤ, v.duration = m * 1000000 ∧ m.natAbs / 86400000 ≤ 999999999 := by
  have hdays := v.days_lt
  obtain ⟨hh, hm, hs⟩ := v.time_lt
  have hf := v.fraction_lt
  rw [h] at hf
  have hnanos : v.nanos =
      (((v.hours * 60 + v.minutes) * 60 + v.seconds) * 1000 + v.fraction) * 1000000 := by
    unfold DayTime.nanos
    rw [h]
    ring
  generalize hmillis : ((v.hours * 60 + v.minutes) * 60 + v.seconds) * 1000 + v.fraction = t at hnanos
  have ht : t < 86400000 := by omega
  refine ⟨signed v.negative (v.days * 86400000 + t), ?_, ?_⟩
  · unfold DayTime.duration signed
    rw [hnanos]
    split <;> push_cast <;> ring
  · unfold signed
    split <;> omega

/-- **What Exasol can hold** is at most 999,999,999 days. -/
theorem representable_iff {m : ℤ} :
    Representable (m * 1000000) ↔ m.natAbs / 86400000 ≤ 999999999 := by
  constructor
  · rintro ⟨v, hdigits, hv⟩
    obtain ⟨n, hn, hle⟩ := exists_millis hdigits
    have hnm : n = m := by omega
    exact hnm ▸ hle
  · intro h
    exact ⟨dayTimeOf m h, rfl, duration_dayTimeOf h⟩

/-- The milliseconds that days and a time part add up to. -/
def totalMillis (days : SInt 32) (milliseconds : SInt 64) : ℤ :=
  days.val * 86400000 + milliseconds.val

/-- The text of milliseconds. -/
theorem plainText_dayTimeOf {total : ℤ} (h : total.natAbs / 86400000 ≤ 999999999) :
    (dayTimeOf total h).plainText = minusText total ++ (natText (total.natAbs / 86400000) ++ ' ' ::
      (pad 2 (natText (total.natAbs % 86400000 / 3600000)) ++ ':' ::
        (pad 2 (natText (total.natAbs % 86400000 / 60000 % 60)) ++ ':' ::
          (pad 2 (natText (total.natAbs % 86400000 / 1000 % 60)) ++ '.' ::
            pad 3 (natText (total.natAbs % 86400000 % 1000)))))) := by
  have hsign : (if (dayTimeOf total h).negative then ['-'] else []) = minusText total := by
    show (if decide (total < 0) then ['-'] else []) = _
    unfold minusText
    split <;> simp_all
  have hfraction : (dayTimeOf total h).fractionText =
      '.' :: pad 3 (natText (total.natAbs % 86400000 % 1000)) := if_neg three_ne_zero
  rw [DayTime.plainText, DayTime.body, pad_zero, hsign, hfraction]
  rfl

/-- What is written for days and milliseconds. -/
theorem formatIntervalDayToSecond_eq_ok {days : SInt 32} {milliseconds : SInt 64}
    {text : List Char} :
    formatIntervalDayToSecond days milliseconds = .ok text ↔
      ∃ h : (totalMillis days milliseconds).natAbs / 86400000 ≤ 999999999,
        text = (dayTimeOf (totalMillis days milliseconds) h).plainText := by
  have hge := days.ge
  have hlt := days.lt
  have hday : millisPerDay.val = 86400000 := val_ofNat (by norm_num)
  obtain ⟨p, hp, hpval⟩ := @checkedMul_mem 64 (days.extend 64 SInt.le_32_64) millisPerDay
    (days.val * 86400000) (by rw [SInt.val_extend, hday]) (by norm_num; omega) (by norm_num; omega)
  unfold formatIntervalDayToSecond
  rw [hp, Option.bind_some]
  unfold totalMillis
  rw [← hpval]
  unfold checkedAdd
  cases hsum : SInt.ofInt? 64 (p.val + milliseconds.val) with
  | none =>
    -- A sum that does not fit is of too many days.
    have hout := SInt.ofInt?_eq_none.mp hsum
    refine ⟨nofun, fun ⟨h, _⟩ => absurd ?_ hout⟩
    norm_num
    omega
  | some total =>
    rw [← SInt.ofInt?_eq_some.mp hsum]
    dsimp only
    split
    · exact ⟨nofun, fun ⟨h, _⟩ => by omega⟩
    · rename_i hdays
      have hle : total.val.natAbs / 86400000 ≤ 999999999 := not_lt.mp hdays
      refine ⟨fun h => ⟨hle, ?_⟩, fun ⟨_, h⟩ => congrArg Except.ok ?_⟩
      · rw [plainText_dayTimeOf hle, ← Except.ok.inj h]
      · rw [h, plainText_dayTimeOf hle]

/-- **Days and milliseconds are written** when Exasol can hold them. -/
theorem formatIntervalDayToSecond_succeeds_iff {days : SInt 32} {milliseconds : SInt 64} :
    (∃ text, formatIntervalDayToSecond days milliseconds = .ok text) ↔
      Representable (totalMillis days milliseconds * 1000000) := by
  rw [representable_iff]
  constructor
  · rintro ⟨text, h⟩
    exact (formatIntervalDayToSecond_eq_ok.mp h).1
  · intro h
    exact ⟨_, formatIntervalDayToSecond_eq_ok.mpr ⟨h, rfl⟩⟩

/-- A day less a millisecond. -/
example : formatIntervalDayToSecond ⟨1, by norm_num, by norm_num⟩ ⟨-1, by norm_num, by norm_num⟩ =
    .ok "0 23:59:59.999".toList := by decide +kernel

/-- What was written is read back. -/
theorem readsAs_formatIntervalDayToSecond {ov : Overflow} {days : SInt 32}
    {milliseconds : SInt 64} {text : List Char}
    (h : formatIntervalDayToSecond days milliseconds = .ok text) :
    ReadsAs ov text (totalMillis days milliseconds * 1000000) := by
  obtain ⟨hle, rfl⟩ := formatIntervalDayToSecond_eq_ok.mp h
  rw [← duration_dayTimeOf hle]
  exact readsAs_plainText _

/-- What is written of an interval of three parts, as milliseconds. -/
theorem formatIntervalMonthDayNano_eq_ok {value : IntervalMonthDayNano} {text : List Char} :
    formatIntervalMonthDayNano value = .ok text ↔
      value.months = 0 ∧ ∃ milliseconds : SInt 64,
        value.nanoseconds.val = milliseconds.val * 1000000 ∧
          formatIntervalDayToSecond value.days milliseconds = .ok text := by
  have hdiv := Int.mul_tdiv_add_tmod value.nanoseconds.val 1000000
  have hval : (value.nanoseconds.divTrunc 1000000).val = value.nanoseconds.val.tdiv 1000000 := rfl
  unfold formatIntervalMonthDayNano
  dsimp only
  split
  · rename_i hmonths
    exact ⟨nofun, fun h => absurd h.1 hmonths⟩
  rename_i hmonths
  have hmonths := not_ne_iff.mp hmonths
  split
  · rename_i hrest
    refine ⟨nofun, fun ⟨_, m, hm, _⟩ => absurd ?_ hrest⟩
    rw [hm, Int.mul_tmod_left]
  · rename_i hrest
    have hrest := not_ne_iff.mp hrest
    constructor
    · intro h
      exact ⟨hmonths, _, by rw [hval]; omega, h⟩
    · rintro ⟨-, m, hm, h⟩
      have hm' : value.nanoseconds.divTrunc 1000000 = m := SInt.ext (by rw [hval]; omega)
      rwa [hm']

/-- The nanoseconds of an interval that Exasol can hold are whole milliseconds. -/
theorem exists_milliseconds {value : IntervalMonthDayNano}
    (h : Representable (dayTimeNanos value)) :
    ∃ milliseconds : SInt 64, value.nanoseconds.val = milliseconds.val * 1000000 := by
  obtain ⟨v, hdigits, hv⟩ := h
  obtain ⟨m, hm, -⟩ := exists_millis hdigits
  unfold dayTimeNanos at hv
  have hge := value.nanoseconds.ge
  have hlt := value.nanoseconds.lt
  norm_num at hge hlt
  refine ⟨⟨m - value.days.val * 86400000, by norm_num; omega, by norm_num; omega⟩, ?_⟩
  show value.nanoseconds.val = (m - value.days.val * 86400000) * 1000000
  omega

theorem dayTimeNanos_eq_totalMillis {value : IntervalMonthDayNano} {milliseconds : SInt 64}
    (h : value.nanoseconds.val = milliseconds.val * 1000000) :
    dayTimeNanos value = totalMillis value.days milliseconds * 1000000 := by
  unfold dayTimeNanos totalMillis
  rw [h]
  ring

/-- **An interval of three parts is written** when it has no months and Exasol can hold its
other parts. -/
theorem formatIntervalMonthDayNano_succeeds_iff {value : IntervalMonthDayNano} :
    (∃ text, formatIntervalMonthDayNano value = .ok text) ↔
      value.months = 0 ∧ Representable (dayTimeNanos value) := by
  constructor
  · rintro ⟨text, h⟩
    obtain ⟨hmonths, m, hm, htext⟩ := formatIntervalMonthDayNano_eq_ok.mp h
    rw [dayTimeNanos_eq_totalMillis hm]
    exact ⟨hmonths, formatIntervalDayToSecond_succeeds_iff.mp ⟨text, htext⟩⟩
  · rintro ⟨hmonths, hrep⟩
    obtain ⟨m, hm⟩ := exists_milliseconds hrep
    rw [dayTimeNanos_eq_totalMillis hm] at hrep
    obtain ⟨text, htext⟩ := formatIntervalDayToSecond_succeeds_iff.mpr hrep
    exact ⟨text, formatIntervalMonthDayNano_eq_ok.mpr ⟨hmonths, m, hm, htext⟩⟩

/-- **Intervals are written and read back.** Every number of months is. Days and milliseconds,
and an interval of three parts, are written exactly when Exasol can hold them, and what is read
of the text is as long as what was written, all of it with one sign. -/
theorem interval_formatting :
    (∀ (ov : Overflow) (months : SInt 32),
      parseInterval ov (formatIntervalYearToMonth months) = .ok ⟨months, 0, 0⟩) ∧
    (∀ (days : SInt 32) (milliseconds : SInt 64),
      ((∃ text, formatIntervalDayToSecond days milliseconds = .ok text) ↔
        Representable (totalMillis days milliseconds * 1000000)) ∧
      ∀ (ov : Overflow) (text : List Char),
        formatIntervalDayToSecond days milliseconds = .ok text →
          ReadsAs ov text (totalMillis days milliseconds * 1000000)) ∧
    ∀ value : IntervalMonthDayNano,
      ((∃ text, formatIntervalMonthDayNano value = .ok text) ↔
        value.months = 0 ∧ Representable (dayTimeNanos value)) ∧
      ∀ (ov : Overflow) (text : List Char),
        formatIntervalMonthDayNano value = .ok text → ReadsAs ov text (dayTimeNanos value) := by
  refine ⟨fun ov months => parseInterval_formatIntervalYearToMonth months,
    fun days milliseconds => ⟨formatIntervalDayToSecond_succeeds_iff,
      fun ov text h => readsAs_formatIntervalDayToSecond h⟩,
    fun value => ⟨formatIntervalMonthDayNano_succeeds_iff, fun ov text h => ?_⟩⟩
  obtain ⟨-, m, hm, htext⟩ := formatIntervalMonthDayNano_eq_ok.mp h
  rw [dayTimeNanos_eq_totalMillis hm]
  exact readsAs_formatIntervalDayToSecond htext

end Exarrow
