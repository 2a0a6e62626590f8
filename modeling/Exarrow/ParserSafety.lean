import Exarrow.Intervals

/-!
# Which texts the parsers cannot take

The parsers of `Exarrow.Conversion` return a value or an error for every text a server sends.
For other texts some of them stop the program, or return a number that lost its high bits, as
the build decides. Here it is said which texts these are, parser by parser; what a parser must
do is `Checked.Faultless`.

| parser | what it cannot take | |
|---|---|---|
| `Exarrow.parseDateToDays` | a year after 5881459 | `Exarrow.DateFits` |
| `Exarrow.parseTimestampToMicros` | components that are not so many microseconds in 64 bits, a character across the sixth byte of a fraction | `Exarrow.TimestampFits` |
| `Exarrow.parseInterval` | a character across the ninth byte of a fraction | `Exarrow.IntervalFits` |
| `Exarrow.parseDecimalToI128` | a scale that is not within 0 and 38, a character across the last byte of the scale | `Exarrow.DecimalFits` |

A component counts only where those before it were read: a text whose hour is no number is an
error, whatever its seconds are. **The conditions are exact** (`Exarrow.parsers_faultless_iff`).
-/

namespace Exarrow

open Machine Checked Calendar Arrow

/-! ### The builds differ in operations only -/

section Builds

variable {ε : Type} {w : ℕ} [NeZero w]

theorem stopsOr_add (a b : SInt w) :
    StopsOr (add .panics a b : Exec ε (SInt w)) (add .wraps a b) := stopsOr_fit _

theorem stopsOr_sub (a b : SInt w) :
    StopsOr (sub .panics a b : Exec ε (SInt w)) (sub .wraps a b) := stopsOr_fit _

theorem stopsOr_mul (a b : SInt w) :
    StopsOr (mul .panics a b : Exec ε (SInt w)) (mul .wraps a b) := stopsOr_fit _

theorem stopsOr_neg (a : SInt w) :
    StopsOr (neg .panics a : Exec ε (SInt w)) (neg .wraps a) := stopsOr_fit _

theorem stopsOr_ymdToDays (year : SInt 32) (month day : ℕ) :
    StopsOr (ymdToDays .panics year month day : Exec ε (SInt 32))
      (ymdToDays .wraps year month day) :=
  (stopsOr_sub ..).bind fun _ => (stopsOr_mul ..).bind fun _ => (stopsOr_sub ..).bind fun _ =>
    (stopsOr_sub ..).bind fun _ => (stopsOr_sub ..).bind fun _ => (stopsOr_add ..).bind fun _ =>
      (stopsOr_sub ..).bind fun _ => (stopsOr_add ..).bind fun _ => (stopsOr_add ..).bind fun _ =>
        (stopsOr_add ..).bind fun _ => (stopsOr_sub ..).bind fun _ => stopsOr_add ..

theorem stopsOr_parseDateToDays (s : List Char) :
    StopsOr (parseDateToDays .panics s) (parseDateToDays .wraps s) := by
  unfold parseDateToDays
  split
  · refine (StopsOr.refl _).bind fun year => (StopsOr.refl _).bind fun month =>
      (StopsOr.refl _).bind fun day => ?_
    split
    · exact .refl _
    · split
      · exact .refl _
      · exact stopsOr_ymdToDays ..
  · exact .refl _

theorem stopsOr_parseSecondsFieldToMicros (s : List Char) :
    StopsOr (parseSecondsFieldToMicros .panics s) (parseSecondsFieldToMicros .wraps s) := by
  unfold parseSecondsFieldToMicros
  refine (StopsOr.refl _).bind fun seconds => (stopsOr_mul ..).bind fun micros => ?_
  split
  · exact (StopsOr.refl _).bind fun _ => stopsOr_add ..
  · exact .refl _

theorem stopsOr_parseTimeOfDayToMicros (s : List Char) :
    StopsOr (parseTimeOfDayToMicros .panics s) (parseTimeOfDayToMicros .wraps s) := by
  unfold parseTimeOfDayToMicros
  split
  · refine (StopsOr.refl _).bind fun hours => (StopsOr.refl _).bind fun minutes =>
      (stopsOr_mul ..).bind fun _ => (stopsOr_mul ..).bind fun _ => (stopsOr_mul ..).bind fun _ =>
        (stopsOr_mul ..).bind fun _ => (stopsOr_add ..).bind fun micros => ?_
    split
    · exact (stopsOr_parseSecondsFieldToMicros _).bind fun _ => stopsOr_add ..
    · exact .refl _
  · exact .refl _

theorem stopsOr_parseTimestampToMicros (s : List Char) :
    StopsOr (parseTimestampToMicros .panics s) (parseTimestampToMicros .wraps s) := by
  unfold parseTimestampToMicros
  refine (stopsOr_parseDateToDays _).bind fun days => (stopsOr_mul ..).bind fun _ =>
    (stopsOr_mul ..).bind fun _ => ?_
  split
  · exact (stopsOr_parseTimeOfDayToMicros _).bind fun _ => stopsOr_add ..
  · exact .refl _

theorem stopsOr_parseInterval (s : List Char) :
    StopsOr (parseInterval .panics s) (parseInterval .wraps s) := by
  unfold parseInterval
  split
  rename_i negative body hsign
  split
  · refine (StopsOr.refl _).bind fun months => ?_
    cases negative with
    | false => exact .refl _
    | true => exact (stopsOr_neg months).bind fun _ => .refl _
  · refine (StopsOr.refl _).bind fun duration => ?_
    obtain ⟨days, nanoseconds⟩ := duration
    cases negative with
    | false => exact .refl _
    | true => exact (stopsOr_neg days).bind fun _ => (stopsOr_neg nanoseconds).bind fun _ => .refl _

theorem stopsOr_pow10 (e : ℕ) : StopsOr (pow10 .panics e : Exec ε (SInt 128)) (pow10 .wraps e) :=
  stopsOr_fit _

theorem stopsOr_parseDecimalToI128 (s : List Char) (scale : SInt 8) :
    StopsOr (parseDecimalToI128 .panics s scale) (parseDecimalToI128 .wraps s scale) := by
  unfold parseDecimalToI128
  generalize (scale.val % 2 ^ 64).toNat = size
  generalize (scale.val % 2 ^ 32).toNat = exponent
  refine (StopsOr.refl _).bind fun parts => (StopsOr.refl _).bind fun integer =>
    (stopsOr_pow10 _).bind fun _ => (StopsOr.refl _).bind fun result => ?_
  by_cases hempty : parts.2 = []
  · rw [if_pos hempty, if_pos hempty]
    exact .refl _
  · rw [if_neg hempty, if_neg hempty]
    dsimp only
    cases Text.takeBytes? (min (Text.byteLen parts.2) size) parts.2 with
    | none => exact .refl _
    | some digits =>
      exact (StopsOr.refl _).bind fun value => (stopsOr_pow10 _).bind fun p =>
        (stopsOr_mul value p).bind fun scaled => .refl _

end Builds

/-! ### Dates -/

section Dates

variable {s : List Char}

/-- The year, the month and the day that a text names, if they are numbers in their ranges. -/
def dateFields? (s : List Char) : Option (SInt 32 × ℕ × ℕ) :=
  match s.splitOn '-' with
  | [y, m, d] => do
    let year ← parseSigned? 32 y
    let month ← parseU32? m
    let day ← parseU32? d
    if (1 ≤ month ∧ month ≤ 12) ∧ 1 ≤ day ∧ day ≤ 31 then some (year, month, day) else none
  | _ => none

/-- The days of a date since 1970-01-01; a day beyond the end of its month counts on. -/
def dayCount (year : ℤ) (month day : ℕ) : ℤ :=
  daysBeforeYear year + daysBeforeMonth (isLeap year) month + day - 1 - 719162

/-- The days of a date that a text names. -/
def dateDays? (s : List Char) : Option ℤ :=
  (dateFields? s).map fun date => dayCount date.1.val date.2.1 date.2.2

/-- A date that a text names is not after the year 5881459. -/
def DateFits (s : List Char) : Prop :=
  ∀ year month day, dateFields? s = some (year, month, day) → year.val ≤ 5881459

/-- The fields of a date are in their ranges, and its year has no sign. -/
theorem dateFields?_eq_some {year : SInt 32} {month day : ℕ}
    (h : dateFields? s = some (year, month, day)) :
    0 ≤ year.val ∧ (1 ≤ month ∧ month ≤ 12) ∧ 1 ≤ day ∧ day ≤ 31 := by
  have hpiece {piece : List Char} (hp : piece ∈ s.splitOn '-') : '-' ∉ piece :=
    fun hmem => (Text.mem_of_mem_splitOn hp hmem).2 rfl
  unfold dateFields? at h
  split at h
  · rename_i y m d hsplit
    rw [hsplit] at hpiece
    obtain ⟨year', hy, h⟩ := Option.bind_eq_some_iff.mp h
    obtain ⟨month', -, h⟩ := Option.bind_eq_some_iff.mp h
    obtain ⟨day', -, h⟩ := Option.bind_eq_some_iff.mp h
    split at h
    · rename_i hrange
      cases h
      exact ⟨parseSigned?_nonneg (hpiece List.mem_cons_self) hy, hrange⟩
    · cases h
  · cases h

/-- A text that names no date is an error, and one that does is counted. -/
theorem parseDateToDays_cases (ov : Overflow) (s : List Char) :
    dateFields? s = none ∧ (∃ e, parseDateToDays ov s = fail e) ∨
      ∃ year month day, dateFields? s = some (year, month, day) ∧
        parseDateToDays ov s = ymdToDays ov year month day := by
  unfold dateFields? parseDateToDays
  generalize s.splitOn '-' = pieces
  rcases pieces with _ | ⟨y, _ | ⟨m, _ | ⟨d, _ | ⟨x, rest⟩⟩⟩⟩
  case cons.cons.cons.nil =>
    dsimp only
    rcases parseSigned? 32 y with _ | year
    · exact .inl ⟨rfl, _, rfl⟩
    rcases parseU32? m with _ | month
    · exact .inl ⟨rfl, _, rfl⟩
    rcases parseU32? d with _ | day
    · exact .inl ⟨rfl, _, rfl⟩
    simp only [orFail_some, Option.bind_some, bind, Except.bind]
    by_cases hmonth : 1 ≤ month ∧ month ≤ 12
    · by_cases hday : 1 ≤ day ∧ day ≤ 31
      · right
        rw [if_pos ⟨hmonth, hday⟩, if_neg (not_not.mpr hmonth), if_neg (not_not.mpr hday)]
        exact ⟨year, month, day, rfl, rfl⟩
      · left
        rw [if_neg fun h => hday h.2, if_neg (not_not.mpr hmonth), if_pos hday]
        exact ⟨rfl, _, rfl⟩
    · left
      rw [if_neg fun h => hmonth h.1, if_pos hmonth]
      exact ⟨rfl, _, rfl⟩
  all_goals exact .inl ⟨rfl, _, rfl⟩

/-- The day count of any fields in their ranges. -/
theorem ymdToDays_dayCount {ov : Overflow} {ε : Type} {year : SInt 32} {month day : ℕ}
    (h0 : 0 ≤ year.val) (h1 : year.val ≤ 5881459) (hm : 1 ≤ month ∧ month ≤ 12) (hd : day ≤ 31) :
    Yields (ymdToDays ov year month day : Exec ε (SInt 32)) (dayCount year.val month day) := by
  obtain ⟨hmonth, -, -⟩ := daysFromMonth_eq (isLeap year.val) month (by omega) hm.1
  have hformula : Yields (ymdToDays ov year month day : Exec ε (SInt 32)) _ :=
    ymdToDays_formula rfl (by omega) h1 month (by omega)
  refine cast (congrArg (Yields _) ?_) hformula
  have hyear := daysFromYear_eq year.val
  unfold dayCount
  omega

/-- **The last year that can be counted**: in the next one the days and the leap days are
more than 32 bits hold. -/
theorem ymdToDays_ne_stop_iff {ε : Type} {year : SInt 32} {month day : ℕ} (h0 : 0 ≤ year.val)
    (hm : 1 ≤ month ∧ month ≤ 12) (hd : day ≤ 31) :
    (ymdToDays .panics year month day : Exec ε (SInt 32)) ≠ stop ↔ year.val ≤ 5881459 := by
  constructor
  · intro h
    have lit (n : ℕ) (hn : n < 2 ^ 31) : (OfNat.ofNat n : SInt 32).val = n :=
      val_ofNat (by exact_mod_cast hn)
    have h1970 := lit 1970 (by norm_num)
    have h365 := lit 365 (by norm_num)
    have h1969 := lit 1969 (by norm_num)
    unfold ymdToDays at h
    obtain ⟨hx, h⟩ := fit_panics_bind_ne_stop.mp h
    obtain ⟨ha, h⟩ := fit_panics_bind_ne_stop.mp (h ⟨_, hx.1, hx.2⟩ rfl)
    obtain ⟨hb, h⟩ := fit_panics_bind_ne_stop.mp (h ⟨_, ha.1, ha.2⟩ rfl)
    obtain ⟨hc, h⟩ := fit_panics_bind_ne_stop.mp (h ⟨_, hb.1, hb.2⟩ rfl)
    obtain ⟨he, h⟩ := fit_panics_bind_ne_stop.mp (h ⟨_, hc.1, hc.2⟩ rfl)
    obtain ⟨-, hsum⟩ := (fit_panics_bind_ne_stop.mp (h ⟨_, he.1, he.2⟩ rfl)).1
    rw [SInt.val_divEuclid] at hsum
    simp only [h1970, h365, h1969] at hsum
    norm_num at hsum
    omega
  · intro h1 hstop
    obtain ⟨a, ha, -⟩ := @ymdToDays_dayCount .panics ε year month day h0 h1 hm hd
    rw [hstop] at ha
    cases ha

/-- **Which dates are read.** -/
theorem parseDateToDays_ne_stop_iff : parseDateToDays .panics s ≠ stop ↔ DateFits s := by
  unfold DateFits
  rcases parseDateToDays_cases .panics s with ⟨hnone, e, he⟩ | ⟨year, month, day, hsome, hparse⟩
  · rw [hnone, he]
    exact ⟨fun _ _ _ _ h => (nomatch h), fun _ => nofun⟩
  · obtain ⟨h0, hm, hd⟩ := dateFields?_eq_some hsome
    rw [hparse, hsome, ymdToDays_ne_stop_iff h0 hm hd.2]
    constructor
    · rintro h _ _ _ ⟨⟩
      exact h
    · intro h
      exact h year month day rfl

/-- What is read of a date. -/
theorem parseDateToDays_eq_ok (hfits : DateFits s) {a : SInt 32} :
    parseDateToDays .panics s = .ok a ↔ dateDays? s = some a.val := by
  unfold dateDays?
  rcases parseDateToDays_cases .panics s with ⟨hnone, e, he⟩ | ⟨year, month, day, hsome, hparse⟩
  · rw [hnone, he]
    exact ⟨fun h => (nomatch h), fun h => (nomatch h)⟩
  · obtain ⟨h0, hm, hd⟩ := dateFields?_eq_some hsome
    obtain ⟨b, hb, hval⟩ := @ymdToDays_dayCount .panics String year month day h0
      (hfits _ _ _ hsome) hm hd.2
    rw [hparse, hsome, hb, Option.map_some, ← hval, Option.some.injEq, Except.ok.injEq]
    exact ⟨fun h => congrArg SInt.val h, fun h => SInt.ext h⟩

end Dates

/-! ### Fractions -/

/-- A fraction is longer than so many bytes, and the last of these is not the end of a
character. -/
def CutsWithin (n : ℕ) (fraction : List Char) : Prop :=
  n < Text.byteLen fraction ∧ Text.takeBytes? n fraction = none

/-- The microseconds of a fraction: six bytes of it, and nothing if these are no number. -/
def fractionMicros (fraction : List Char) : ℤ :=
  if 6 < Text.byteLen fraction then
    (((Text.takeBytes? 6 fraction).bind (parseSigned? 64)).map SInt.val).getD 0
  else ((parseSigned? 64 fraction).map fun x => x.val * 10 ^ (6 - Text.byteLen fraction)).getD 0

/-- A number has at most as many digits as its text has bytes. -/
theorem natAbs_parseInt?_lt {s : List Char} {x : ℤ} (h : Numeral.parseInt? s = some x) :
    x.natAbs < 10 ^ Text.byteLen s := by
  have hnat {t : List Char} {n : ℕ} (ht : Numeral.parseNat? t = some n) :
      n < 10 ^ Text.byteLen t := by
    unfold Numeral.parseNat? at ht
    split at ht
    · rename_i hdigits
      obtain rfl := Option.some.inj ht
      exact lt_of_lt_of_le (Numeral.ofDigits_lt hdigits.2)
        (Nat.pow_le_pow_right (by norm_num) (Text.length_le_byteLen t))
    · cases ht
  have hcons (c : Char) (t : List Char) : (10 : ℕ) ^ Text.byteLen t ≤ 10 ^ Text.byteLen (c :: t) :=
    Nat.pow_le_pow_right (by norm_num) (Nat.le_add_left _ _)
  unfold Numeral.parseInt? at h
  split at h
  · obtain ⟨n, hn, rfl⟩ := Option.map_eq_some_iff.mp h
    rw [Int.natAbs_neg, Int.natAbs_natCast]
    exact lt_of_lt_of_le (hnat hn) (hcons _ _)
  · obtain ⟨n, hn, rfl⟩ := Option.map_eq_some_iff.mp h
    rw [Int.natAbs_natCast]
    exact lt_of_lt_of_le (hnat hn) (hcons _ _)
  · obtain ⟨n, hn, rfl⟩ := Option.map_eq_some_iff.mp h
    rw [Int.natAbs_natCast]
    exact hnat hn

theorem natAbs_parseSigned?_lt {w : ℕ} {s : List Char} {a : SInt w}
    (h : parseSigned? w s = some a) : a.val.natAbs < 10 ^ Text.byteLen s := by
  obtain ⟨x, hx, ha⟩ := Option.bind_eq_some_iff.mp h
  rw [SInt.ofInt?_eq_some.mp ha]
  exact natAbs_parseInt?_lt hx

/-- The microseconds of a fraction that is not cut within a character. -/
theorem fractionalSecondsToUnits_micros {ε : Type} {f : List Char} (h : ¬CutsWithin 6 f) :
    Yields (fractionalSecondsToUnits f 6 : Exec ε (SInt 64)) (fractionMicros f) := by
  have hzero : (0 : SInt 64).val = 0 := val_ofNat (by norm_num)
  unfold fractionalSecondsToUnits fractionMicros
  split
  · rename_i hlong
    rcases htake : Text.takeBytes? 6 f with _ | t
    · exact absurd ⟨hlong, htake⟩ h
    · refine ⟨_, rfl, ?_⟩
      rw [Option.bind_some]
      rcases parseSigned? 64 t with _ | a
      · exact hzero
      · rfl
  · rename_i hshort
    rcases hparse : parseSigned? 64 f with _ | a
    · exact ⟨_, rfl, hzero⟩
    · -- The digits and the zeros after them are six, so nothing is saturated.
      have hlt := natAbs_parseSigned?_lt hparse
      have hsix : (a.val * 10 ^ (6 - Text.byteLen f)).natAbs < 10 ^ 6 := by
        rw [Int.natAbs_mul, Int.natAbs_pow]
        calc a.val.natAbs * 10 ^ (6 - Text.byteLen f)
            < 10 ^ Text.byteLen f * 10 ^ (6 - Text.byteLen f) :=
              Nat.mul_lt_mul_of_pos_right hlt (by positivity)
          _ = 10 ^ 6 := by rw [← pow_add]; congr 1; omega
      refine ⟨_, rfl, ?_⟩
      rw [Option.map_some, Option.getD_some]
      generalize a.val * 10 ^ (6 - Text.byteLen f) = x at hsix
      rw [ofInt?_mem (w := 64) (by norm_num; omega) (by norm_num; omega)]
      rfl

/-! ### Times of day -/

/-- The microseconds of a seconds field, if its seconds are a number. -/
def secondsMicros? (field : List Char) : Option ℤ :=
  (parseSigned? 64 (field.splitOn '.').headI).map fun seconds =>
    seconds.val * 1000000 + (((field.splitOn '.')[1]?).map fractionMicros).getD 0

/-- The seconds of a field are so many microseconds in 64 bits, and so they are with the
fraction, which is not cut within a character. -/
def SecondsFit (field : List Char) : Prop :=
  ∀ seconds, parseSigned? 64 (field.splitOn '.').headI = some seconds →
    |seconds.val| ≤ 9223372036854 ∧ ∀ fraction, (field.splitOn '.')[1]? = some fraction →
      ¬CutsWithin 6 fraction ∧ SInt.Fits 64 (seconds.val * 1000000 + fractionMicros fraction)

theorem fits_mul_million_iff {x : ℤ} : SInt.Fits 64 (x * 1000000) ↔ |x| ≤ 9223372036854 := by
  rw [abs_le]
  unfold SInt.Fits
  norm_num
  omega

/-- **Which seconds fields are read.** -/
theorem parseSecondsFieldToMicros_ne_stop_iff {field : List Char} :
    parseSecondsFieldToMicros .panics field ≠ stop ↔ SecondsFit field := by
  have hmillion : (1000000 : SInt 64).val = 1000000 := val_ofNat (by norm_num)
  unfold parseSecondsFieldToMicros SecondsFit
  dsimp only
  rw [orFail_bind_ne_stop]
  refine forall₂_congr fun seconds _ => ?_
  rw [mul, fit_panics_bind_ne_stop, hmillion, fits_mul_million_iff]
  refine and_congr_right fun hseconds => ?_
  have hfits := fits_mul_million_iff.mpr hseconds
  constructor
  · intro h fraction hfraction
    have h := h ⟨_, hfits.1, hfits.2⟩ rfl
    rw [hfraction] at h
    obtain ⟨hne, h⟩ := bind_ne_stop.mp h
    have hcut : ¬CutsWithin 6 fraction := fun hc => hne (fractionalSecondsToUnits_stops_iff.mpr hc)
    obtain ⟨x, hx, hval⟩ := @fractionalSecondsToUnits_micros String _ hcut
    exact ⟨hcut, hval ▸ fit_panics_ne_stop.mp (h x hx)⟩
  · intro h micros hmicros
    split
    · rename_i fraction hfraction
      obtain ⟨hcut, hsum⟩ := h fraction hfraction
      obtain ⟨x, hx, hval⟩ := @fractionalSecondsToUnits_micros String _ hcut
      rw [hx]
      refine fit_panics_ne_stop.mpr ?_
      rw [hmicros, hval]
      exact hsum
    · intro h
      cases h

/-- What is read of a seconds field. -/
theorem parseSecondsFieldToMicros_eq_ok {field : List Char} (h : SecondsFit field) {a : SInt 64} :
    parseSecondsFieldToMicros .panics field = .ok a ↔ secondsMicros? field = some a.val := by
  have hmillion : (1000000 : SInt 64).val = 1000000 := val_ofNat (by norm_num)
  unfold parseSecondsFieldToMicros secondsMicros?
  unfold SecondsFit at h
  dsimp only
  rcases hparse : parseSigned? 64 (field.splitOn '.').headI with _ | seconds
  · exact ⟨fun h => (nomatch h), fun h => (nomatch h)⟩
  obtain ⟨hseconds, hfraction⟩ := h seconds hparse
  have hfits := fits_mul_million_iff.mpr hseconds
  obtain ⟨micros, hmul, hmicros⟩ : Yields (mul .panics seconds 1000000 : Exec String (SInt 64))
      (seconds.val * 1000000) := yields_mul rfl hmillion hfits.1 hfits.2
  rw [orFail_some]
  show (mul .panics seconds 1000000 >>= _ : Exec String (SInt 64)) = _ ↔ _
  rw [hmul, Option.map_some, Option.some.injEq]
  rcases hf : (field.splitOn '.')[1]? with _ | fraction
  · rw [Option.map_none, Option.getD_none, add_zero, ← hmicros]
    exact ⟨fun h => congrArg SInt.val (Except.ok.inj h), fun h => congrArg Except.ok (SInt.ext h)⟩
  · obtain ⟨hcut, -⟩ := hfraction fraction hf
    obtain ⟨x, hx, hval⟩ := @fractionalSecondsToUnits_micros String _ hcut
    rw [Option.map_some, Option.getD_some, ← hmicros, ← hval]
    show (fractionalSecondsToUnits fraction 6 >>= fun x => add .panics micros x) = _ ↔ _
    rw [hx]
    exact fit_panics_eq_ok.trans eq_comm

/-- The microseconds of hours and minutes. -/
def hoursMinutesMicros (hours minutes : SInt 64) : ℤ :=
  hours.val * 3600000000 + minutes.val * 60000000

/-- The microseconds of a time of day, if its components are numbers; a field without a colon
is no time. -/
def timeMicros? (field : List Char) : Option ℤ :=
  match field.splitOn ':' with
  | h :: m :: rest => do
    let hours ← parseSigned? 64 h
    let minutes ← parseSigned? 64 m
    match rest.head? with
    | some seconds => (secondsMicros? seconds).map (hoursMinutesMicros hours minutes + ·)
    | none => some (hoursMinutesMicros hours minutes)
  | _ => some 0

/-- The hours, the minutes and the seconds of a time are so many microseconds in 64 bits, each
on its own and added up. -/
def TimeFits (field : List Char) : Prop :=
  ∀ h m rest hours minutes, field.splitOn ':' = h :: m :: rest →
    parseSigned? 64 h = some hours → parseSigned? 64 m = some minutes →
      |hours.val| ≤ 2562047788 ∧ |minutes.val| ≤ 153722867280 ∧
      SInt.Fits 64 (hoursMinutesMicros hours minutes) ∧
      ∀ seconds, rest.head? = some seconds → SecondsFit seconds ∧
        ∀ x, secondsMicros? seconds = some x →
          SInt.Fits 64 (hoursMinutesMicros hours minutes + x)

/-- Two factors are multiplied without overflow when their product is. -/
theorem mul_mul_bind_iff {ε β : Type} {P : Exec ε β → Prop} (hstop : ¬P stop) {a p q : SInt 64}
    {k l : ℤ} (hp : p.val = k) (hq : q.val = l) (hl : 0 < l) {f : SInt 64 → Exec ε β} :
    P (mul .panics a p >>= fun b => mul .panics b q >>= f) ↔
      SInt.Fits 64 (a.val * k * l) ∧ ∀ b : SInt 64, b.val = a.val * k * l → P (f b) := by
  subst hp hq
  refine (fit_panics_bind_iff hstop).trans ?_
  constructor
  · rintro ⟨h1, h⟩
    exact (fit_panics_bind_iff hstop).mp (h ⟨_, h1.1, h1.2⟩ rfl)
  · rintro ⟨hfits, h⟩
    have hfirst : SInt.Fits 64 (a.val * p.val) := by
      obtain ⟨h1, h2⟩ := hfits
      generalize a.val * p.val = x at h1 h2
      rcases le_total 0 x with hx | hx
      · exact ⟨le_trans (neg_nonpos.mpr (by positivity)) hx, by nlinarith⟩
      · exact ⟨by nlinarith, lt_of_le_of_lt hx (by positivity)⟩
    refine ⟨hfirst, fun b hb => (fit_panics_bind_iff hstop).mpr ?_⟩
    rw [hb]
    exact ⟨hfits, h⟩

theorem fits_hours_iff {x : ℤ} : SInt.Fits 64 (x * 3600 * 1000000) ↔ |x| ≤ 2562047788 := by
  rw [abs_le]
  unfold SInt.Fits
  norm_num
  omega

theorem fits_minutes_iff {x : ℤ} : SInt.Fits 64 (x * 60 * 1000000) ↔ |x| ≤ 153722867280 := by
  rw [abs_le]
  unfold SInt.Fits
  norm_num
  omega

/-- The microseconds of a seconds field are a machine integer. -/
theorem exists_secondsMicros {field : List Char} (h : SecondsFit field) {x : ℤ}
    (hx : secondsMicros? field = some x) :
    ∃ a : SInt 64, a.val = x ∧ parseSecondsFieldToMicros .panics field = .ok a := by
  have hne := parseSecondsFieldToMicros_ne_stop_iff.mpr h
  suffices hfits : SInt.Fits 64 x from
    ⟨⟨x, hfits.1, hfits.2⟩, rfl, (parseSecondsFieldToMicros_eq_ok h).mpr hx⟩
  unfold secondsMicros? at hx
  obtain ⟨seconds, hparse, rfl⟩ := Option.map_eq_some_iff.mp hx
  obtain ⟨hseconds, hfraction⟩ := h seconds hparse
  rcases hf : (field.splitOn '.')[1]? with _ | fraction
  · rw [Option.map_none, Option.getD_none, add_zero]
    exact fits_mul_million_iff.mpr hseconds
  · exact (hfraction fraction hf).2

section Times

variable {field h m : List Char} {rest : List (List Char)} {hours minutes : SInt 64}

/-- The hours and the minutes of a time, once they are read. -/
theorem parseTimeOfDayToMicros_cons {P : Exec String (SInt 64) → Prop} (hstop : ¬P stop)
    (hsplit : field.splitOn ':' = h :: m :: rest) (hh : parseSigned? 64 h = some hours)
    (hm : parseSigned? 64 m = some minutes) :
    P (parseTimeOfDayToMicros .panics field) ↔
      (|hours.val| ≤ 2562047788 ∧ |minutes.val| ≤ 153722867280 ∧
        SInt.Fits 64 (hoursMinutesMicros hours minutes)) ∧
      ∀ micros : SInt 64, micros.val = hoursMinutesMicros hours minutes →
        P (match rest.head? with
          | some seconds => parseSecondsFieldToMicros .panics seconds >>= add .panics micros
          | none => .ok micros) := by
  have h3600 : (3600 : SInt 64).val = 3600 := val_ofNat (by norm_num)
  have h60 : (60 : SInt 64).val = 60 := val_ofNat (by norm_num)
  have hmillion : (1000000 : SInt 64).val = 1000000 := val_ofNat (by norm_num)
  have hmicros : hours.val * 3600 * 1000000 + minutes.val * 60 * 1000000 =
      hoursMinutesMicros hours minutes := by
    unfold hoursMinutesMicros
    ring
  unfold parseTimeOfDayToMicros
  rw [hsplit]
  dsimp only
  rw [hh, hm, orFail_some, orFail_some]
  refine (mul_mul_bind_iff hstop h3600 hmillion (by norm_num)).trans ?_
  rw [fits_hours_iff, and_assoc]
  refine and_congr_right fun hhours => ?_
  have hhfits := fits_hours_iff.mpr hhours
  constructor
  · intro h
    have h := h ⟨_, hhfits.1, hhfits.2⟩ rfl
    obtain ⟨hmfits, h⟩ := (mul_mul_bind_iff hstop h60 hmillion (by norm_num)).mp h
    have h := (fit_panics_bind_iff hstop).mp (h ⟨_, hmfits.1, hmfits.2⟩ rfl)
    rw [hmicros] at h
    exact ⟨⟨fits_minutes_iff.mp hmfits, h.1⟩, h.2⟩
  · rintro ⟨⟨hminutes, hsum⟩, h⟩ a ha
    refine (mul_mul_bind_iff hstop h60 hmillion (by norm_num)).mpr
      ⟨fits_minutes_iff.mpr hminutes, fun b hb => (fit_panics_bind_iff hstop).mpr ?_⟩
    rw [ha, hb, hmicros]
    exact ⟨hsum, h⟩

/-- A time of day without a colon, or with an hour or a minute that is no number. -/
theorem parseTimeOfDayToMicros_cases (field : List Char) :
    ((∃ e, parseTimeOfDayToMicros .panics field = fail e) ∧ timeMicros? field = none ∧
        TimeFits field) ∨
      ((parseTimeOfDayToMicros .panics field = .ok 0) ∧ timeMicros? field = some 0 ∧
        TimeFits field) ∨
      ∃ h m rest hours minutes, field.splitOn ':' = h :: m :: rest ∧
        parseSigned? 64 h = some hours ∧ parseSigned? 64 m = some minutes := by
  unfold parseTimeOfDayToMicros timeMicros? TimeFits
  generalize field.splitOn ':' = pieces
  rcases pieces with _ | ⟨h, _ | ⟨m, rest⟩⟩
  case cons.cons =>
    rcases hh : parseSigned? 64 h with _ | hours
    · left
      refine ⟨⟨_, by dsimp only; rw [hh]; rfl⟩, by dsimp only; rw [hh]; rfl, ?_⟩
      rintro _ _ _ _ _ ⟨⟩ hh'
      rw [hh] at hh'
      cases hh'
    rcases hm : parseSigned? 64 m with _ | minutes
    · left
      refine ⟨⟨_, by dsimp only; rw [hh, hm]; rfl⟩, by dsimp only; rw [hh, hm]; rfl, ?_⟩
      rintro _ _ _ _ _ ⟨⟩ - hm'
      rw [hm] at hm'
      cases hm'
    · exact .inr (.inr ⟨h, m, rest, hours, minutes, rfl, hh, hm⟩)
  all_goals exact .inr (.inl ⟨rfl, rfl, fun _ _ _ _ _ h => (nomatch h)⟩)

/-- **Which times are read.** -/
theorem parseTimeOfDayToMicros_ne_stop_iff {field : List Char} :
    parseTimeOfDayToMicros .panics field ≠ stop ↔ TimeFits field := by
  rcases parseTimeOfDayToMicros_cases field with
    ⟨⟨e, he⟩, -, hfits⟩ | ⟨he, -, hfits⟩ | ⟨h, m, rest, hours, minutes, hsplit, hh, hm⟩
  · rw [he]
    exact ⟨fun _ => hfits, fun _ => nofun⟩
  · rw [he]
    exact ⟨fun _ => hfits, fun _ => nofun⟩
  have hcons := @parseTimeOfDayToMicros_cons _ _ _ _ _ _ (· ≠ stop) (fun h => h rfl) hsplit hh hm
  refine hcons.trans ?_
  constructor
  · rintro ⟨⟨hhours, hminutes, hsum⟩, hrest⟩ _ _ _ _ _ hsplit' hh' hm'
    rw [hsplit] at hsplit'
    cases hsplit'
    rw [hh] at hh'
    cases hh'
    rw [hm] at hm'
    cases hm'
    refine ⟨hhours, hminutes, hsum, fun seconds hs => ?_⟩
    have hrest := hrest ⟨_, hsum.1, hsum.2⟩ rfl
    rw [hs] at hrest
    obtain ⟨hne, hadd⟩ := bind_ne_stop.mp hrest
    have hfit := parseSecondsFieldToMicros_ne_stop_iff.mp hne
    refine ⟨hfit, fun x hx => ?_⟩
    obtain ⟨a, rfl, ha⟩ := exists_secondsMicros hfit hx
    exact fit_panics_ne_stop.mp (hadd a ha)
  · intro hfits
    obtain ⟨hhours, hminutes, hsum, hseconds⟩ := hfits h m rest hours minutes hsplit hh hm
    refine ⟨⟨hhours, hminutes, hsum⟩, fun micros hmicros => ?_⟩
    rcases hs : rest.head? with _ | seconds
    · exact nofun
    · obtain ⟨hfit, hadd⟩ := hseconds seconds hs
      refine bind_ne_stop.mpr ⟨parseSecondsFieldToMicros_ne_stop_iff.mpr hfit, fun a ha => ?_⟩
      refine fit_panics_ne_stop.mpr ?_
      rw [hmicros]
      exact hadd _ ((parseSecondsFieldToMicros_eq_ok hfit).mp ha)

/-- What is read of a time of day. -/
theorem parseTimeOfDayToMicros_eq_ok {field : List Char} (hfits : TimeFits field) {a : SInt 64} :
    parseTimeOfDayToMicros .panics field = .ok a ↔ timeMicros? field = some a.val := by
  rcases parseTimeOfDayToMicros_cases field with
    ⟨⟨e, he⟩, hnone, -⟩ | ⟨he, hzero, -⟩ | ⟨h, m, rest, hours, minutes, hsplit, hh, hm⟩
  · rw [he, hnone]
    exact ⟨fun h => (nomatch h), fun h => (nomatch h)⟩
  · rw [he, hzero, Option.some.injEq, Except.ok.injEq]
    have h0 : (0 : SInt 64).val = 0 := val_ofNat (by norm_num)
    exact ⟨fun h => h ▸ h0.symm, fun h => SInt.ext (h0.trans h)⟩
  have hcons := @parseTimeOfDayToMicros_cons _ _ _ _ _ _ (· = .ok a) (fun h => (nomatch h))
    hsplit hh hm
  obtain ⟨hhours, hminutes, hsum, hseconds⟩ := hfits h m rest hours minutes hsplit hh hm
  have htime : timeMicros? field = match rest.head? with
      | some seconds => (secondsMicros? seconds).map (hoursMinutesMicros hours minutes + ·)
      | none => some (hoursMinutesMicros hours minutes) := by
    unfold timeMicros?
    rw [hsplit]
    dsimp only
    rw [hh, hm]
    rfl
  rw [htime]
  refine hcons.trans ((and_iff_right ⟨hhours, hminutes, hsum⟩).trans ?_)
  have hone {Q : SInt 64 → Prop} : (∀ micros : SInt 64,
      micros.val = hoursMinutesMicros hours minutes → Q micros) ↔ Q ⟨_, hsum.1, hsum.2⟩ :=
    ⟨fun h => h _ rfl, fun h micros hmicros => by
      have heq : micros = ⟨_, hsum.1, hsum.2⟩ := SInt.ext hmicros
      rwa [heq]⟩
  rw [hone]
  rcases hs : rest.head? with _ | seconds
  · rw [Option.some.injEq, Except.ok.injEq]
    exact ⟨fun h => h ▸ rfl, fun h => SInt.ext h⟩
  · obtain ⟨hfit, hadd⟩ := hseconds seconds hs
    rw [Option.map_eq_some_iff, bind_eq_ok]
    constructor
    · rintro ⟨b, hb, hsum⟩
      exact ⟨b.val, (parseSecondsFieldToMicros_eq_ok hfit).mp hb, (fit_panics_eq_ok.mp hsum).symm⟩
    · rintro ⟨x, hx, hsum⟩
      obtain ⟨b, rfl, hb⟩ := exists_secondsMicros hfit hx
      exact ⟨b, hb, fit_panics_eq_ok.mpr hsum.symm⟩

/-- The microseconds of a time of day are a machine integer. -/
theorem exists_timeMicros {field : List Char} (hfits : TimeFits field) {x : ℤ}
    (hx : timeMicros? field = some x) :
    ∃ a : SInt 64, a.val = x ∧ parseTimeOfDayToMicros .panics field = .ok a := by
  suffices h : SInt.Fits 64 x from
    ⟨⟨x, h.1, h.2⟩, rfl, (parseTimeOfDayToMicros_eq_ok hfits).mpr hx⟩
  unfold timeMicros? at hx
  split at hx
  · rename_i h m rest hsplit
    obtain ⟨hours, hh, hx⟩ := Option.bind_eq_some_iff.mp hx
    obtain ⟨minutes, hm, hx⟩ := Option.bind_eq_some_iff.mp hx
    obtain ⟨-, -, hsum, hseconds⟩ := hfits h m rest hours minutes hsplit hh hm
    split at hx
    · rename_i seconds hs
      obtain ⟨y, hy, rfl⟩ := Option.map_eq_some_iff.mp hx
      exact (hseconds seconds hs).2 y hy
    · rw [← Option.some.inj hx]
      exact hsum
  · rw [← Option.some.inj hx]
    exact ⟨by norm_num, by norm_num⟩

end Times

/-! ### Timestamps -/

/-- The days of the date are so many microseconds in 64 bits, and so they are with the time. -/
def TimestampFits (text : List Char) : Prop :=
  DateFits (text.splitOn ' ').headI ∧
    ∀ days, dateDays? (text.splitOn ' ').headI = some days → days ≤ 106751991 ∧
      ∀ time, (text.splitOn ' ')[1]? = some time → TimeFits time ∧
        ∀ x, timeMicros? time = some x → SInt.Fits 64 (days * 86400000000 + x)

/-- The days of a date that a text names are not long before 1970. -/
theorem dateDays?_ge {s : List Char} {days : ℤ} (h : dateDays? s = some days) :
    -719528 ≤ days := by
  obtain ⟨⟨year, month, day⟩, hfields, rfl⟩ := Option.map_eq_some_iff.mp h
  obtain ⟨h0, hmonth, hday⟩ := dateFields?_eq_some hfields
  dsimp only
  unfold dayCount daysBeforeYear
  omega

theorem fits_days_iff {x : ℤ} (h : -719528 ≤ x) :
    SInt.Fits 64 (x * 86400 * 1000000) ↔ x ≤ 106751991 := by
  unfold SInt.Fits
  norm_num
  omega

/-- **Which timestamps are read.** -/
theorem parseTimestampToMicros_ne_stop_iff {text : List Char} :
    parseTimestampToMicros .panics text ≠ stop ↔ TimestampFits text := by
  have h86400 : (86400 : SInt 64).val = 86400 := val_ofNat (by norm_num)
  have hmillion : (1000000 : SInt 64).val = 1000000 := val_ofNat (by norm_num)
  unfold parseTimestampToMicros TimestampFits
  dsimp only
  rw [bind_ne_stop, parseDateToDays_ne_stop_iff]
  refine and_congr_right fun hdate => ?_
  -- The days that are read are those that the text names.
  have hdays {P : ℤ → Prop} :
      (∀ a, parseDateToDays .panics (text.splitOn ' ').headI = .ok a → P a.val) ↔
        ∀ days, dateDays? (text.splitOn ' ').headI = some days → P days := by
    constructor
    · intro h days hd
      obtain ⟨⟨year, month, day⟩, hfields, rfl⟩ := Option.map_eq_some_iff.mp hd
      obtain ⟨h0, hmonth, hday⟩ := dateFields?_eq_some hfields
      obtain ⟨a, ha, hval⟩ := @ymdToDays_dayCount .panics String year month day h0
        (hdate _ _ _ hfields) hmonth hday.2
      have hread := (parseDateToDays_eq_ok hdate).mpr (hd.trans (congrArg some hval.symm))
      exact hval ▸ h a hread
    · intro h a ha
      exact h a.val ((parseDateToDays_eq_ok hdate).mp ha)
  rw [← hdays]
  refine forall₂_congr fun a ha => ?_
  have hge := dateDays?_ge ((parseDateToDays_eq_ok hdate).mp ha)
  rw [@mul_mul_bind_iff String (SInt 64) (· ≠ stop) (fun h => h rfl) (a.extend 64 SInt.le_32_64)
    86400 1000000 86400 1000000 h86400 hmillion (by norm_num), SInt.val_extend, fits_days_iff hge]
  refine and_congr_right fun hle => ?_
  have hfits := (fits_days_iff hge).mpr hle
  have hassoc : a.val * 86400 * 1000000 = a.val * 86400000000 := by ring
  rw [hassoc] at hfits ⊢
  rcases (text.splitOn ' ')[1]? with _ | time
  · exact ⟨fun _ _ h => (nomatch h), fun _ _ _ => nofun⟩
  constructor
  · rintro h _ ⟨⟩
    obtain ⟨hne, hadd⟩ := bind_ne_stop.mp (h ⟨_, hfits.1, hfits.2⟩ rfl)
    have htime := parseTimeOfDayToMicros_ne_stop_iff.mp hne
    refine ⟨htime, fun x hx => ?_⟩
    obtain ⟨b, rfl, hb⟩ := exists_timeMicros htime hx
    exact fit_panics_ne_stop.mp (hadd b hb)
  · intro h b hb
    obtain ⟨htime, hadd⟩ := h time rfl
    refine bind_ne_stop.mpr ⟨parseTimeOfDayToMicros_ne_stop_iff.mpr htime, fun c hc => ?_⟩
    refine fit_panics_ne_stop.mpr ?_
    rw [hb]
    exact hadd _ ((parseTimeOfDayToMicros_eq_ok htime).mp hc)

/-! ### Intervals -/

/-- No fraction of an interval that is read is cut within a character. -/
def IntervalFits (text : List Char) : Prop :=
  ∀ fraction, intervalFraction? text = some fraction → ¬CutsWithin 9 fraction

/-- **Which intervals are read.** -/
theorem parseInterval_ne_stop_iff {text : List Char} :
    parseInterval .panics text ≠ stop ↔ IntervalFits text := by
  rw [ne_eq, parseInterval_eq_stop_iff, not_exists]
  exact forall_congr' fun f => not_and

/-! ### Decimals -/

/-- The texts before and after the point of a decimal text. -/
def pointParts? (s : List Char) : Option (List Char × List Char) :=
  match s.splitOn '.' with
  | [i] => some (i, [])
  | [i, f] => some (i, f)
  | _ => none

/-- A number before the point is scaled by at most ten to the 38, and if it can be, the digits
that the scale leaves of the fraction end with a character. -/
def DecimalFits (text : List Char) (scale : SInt 8) : Prop :=
  ∀ i f n, pointParts? text = some (i, f) → parseSigned? 128 i = some n →
    (0 ≤ scale.val ∧ scale.val ≤ 38) ∧
    (SInt.Fits 128 (n.val * 10 ^ scale.val.toNat) →
      Text.takeBytes? (min (Text.byteLen f) scale.val.toNat) f ≠ none)

theorem decimalParts_eq {ε : Type} {e : ε} {s : List Char} :
    decimalParts e s = orFail e (pointParts? s) := by
  unfold decimalParts pointParts?
  generalize s.splitOn '.' = pieces
  rcases pieces with _ | ⟨i, _ | ⟨f, _ | ⟨x, rest⟩⟩⟩ <;> rfl

/-- The powers of ten that 128 bits hold. -/
theorem fits_pow10_iff {e : ℕ} : SInt.Fits 128 (10 ^ e) ↔ e ≤ 38 := by
  have h38 : (10 : ℤ) ^ 38 < 2 ^ 127 := by norm_num
  have h39 : (2 : ℤ) ^ 127 ≤ 10 ^ 39 := by norm_num
  constructor
  · rintro ⟨-, hlt⟩
    by_contra hnot
    have hpow : (10 : ℤ) ^ 39 ≤ 10 ^ e := pow_le_pow_right₀ (by norm_num) (by omega)
    exact absurd hlt (not_lt.mpr (le_trans h39 hpow))
  · intro hle
    have hpow : (10 : ℤ) ^ e ≤ 10 ^ 38 := pow_le_pow_right₀ (by norm_num) hle
    exact ⟨le_trans (by norm_num) (show (0 : ℤ) ≤ 10 ^ e by positivity), lt_of_le_of_lt hpow h38⟩

/-- The digits after the point, scaled up, are as many as the scale. -/
theorem natAbs_scaled_lt {digits : List Char} {value : SInt 128} {scale : ℕ}
    (hscale : scale ≤ 38) (hdigits : Text.byteLen digits ≤ scale)
    (h : parseSigned? 128 digits = some value) :
    (value.val * 10 ^ (scale - Text.byteLen digits)).natAbs < 10 ^ 38 := by
  have hlt := natAbs_parseSigned?_lt h
  rw [Int.natAbs_mul, Int.natAbs_pow]
  calc value.val.natAbs * 10 ^ (scale - Text.byteLen digits)
      < 10 ^ Text.byteLen digits * 10 ^ (scale - Text.byteLen digits) :=
        Nat.mul_lt_mul_of_pos_right hlt (by positivity)
    _ = 10 ^ scale := by rw [← pow_add, Nat.add_sub_cancel' hdigits]
    _ ≤ 10 ^ 38 := Nat.pow_le_pow_right (by norm_num) hscale

/-- They are within 128 bits. -/
theorem fits_scaled {digits : List Char} {value : SInt 128} {scale : ℕ} (hscale : scale ≤ 38)
    (hdigits : Text.byteLen digits ≤ scale) (h : parseSigned? 128 digits = some value) :
    SInt.Fits 128 (value.val * 10 ^ (scale - Text.byteLen digits)) := by
  have habs := natAbs_scaled_lt hscale hdigits h
  generalize value.val * 10 ^ (scale - Text.byteLen digits) = x at habs
  unfold SInt.Fits
  norm_num at habs ⊢
  omega

/-- **Which decimals are read.** -/
theorem parseDecimalToI128_ne_stop_iff {text : List Char} {scale : SInt 8} :
    parseDecimalToI128 .panics text scale ≠ stop ↔ DecimalFits text scale := by
  have hge := scale.ge
  have hlt := scale.lt
  norm_num at hge hlt
  unfold parseDecimalToI128 DecimalFits
  dsimp only
  rw [decimalParts_eq, orFail_bind_ne_stop]
  have hpairs {Q : List Char → List Char → SInt 128 → Prop} :
      (∀ i f n, pointParts? text = some (i, f) → parseSigned? 128 i = some n → Q i f n) ↔
        ∀ parts, pointParts? text = some parts → ∀ n, parseSigned? 128 parts.1 = some n →
          Q parts.1 parts.2 n :=
    ⟨fun h parts hparts n hn => h _ _ n hparts hn, fun h i f n hparts hn => h (i, f) hparts n hn⟩
  rw [hpairs]
  refine forall₂_congr fun parts _ => ?_
  rw [orFail_bind_ne_stop]
  refine forall₂_congr fun n _ => ?_
  rw [pow10, fit_panics_bind_ne_stop, fits_pow10_iff]
  have hexponent : (scale.val % 2 ^ 32).toNat ≤ 38 ↔ 0 ≤ scale.val ∧ scale.val ≤ 38 := by omega
  rw [hexponent]
  refine and_congr_right fun ⟨h0, h38⟩ => ?_
  have hsmall : (scale.val % 2 ^ 32).toNat = scale.val.toNat := by omega
  have hsize : (scale.val % 2 ^ 64).toNat = scale.val.toNat := by omega
  rw [hsmall, hsize]
  have hscale : scale.val.toNat ≤ 38 := by omega
  generalize scale.val.toNat = size at hscale
  have hpow := fits_pow10_iff.mpr hscale
  constructor
  · intro h hfits
    have hmul : checkedMul n ⟨10 ^ size, hpow.1, hpow.2⟩ = some ⟨_, hfits.1, hfits.2⟩ :=
      ofInt?_mem hfits.1 hfits.2
    have h := orFail_bind_ne_stop.mp (h _ rfl) _ hmul
    by_cases hempty : parts.2 = []
    · rw [hempty, show Text.byteLen [] = 0 from rfl, Nat.zero_min]
      exact nofun
    · intro hnone
      rw [if_neg hempty, hnone] at h
      exact h rfl
  · intro h p hp
    refine orFail_bind_ne_stop.mpr fun result hresult => ?_
    have hfits : SInt.Fits 128 (n.val * 10 ^ size) := by
      rw [← hp, ← val_checkedMul hresult]
      exact ⟨result.ge, result.lt⟩
    by_cases hempty : parts.2 = []
    · rw [if_pos hempty]
      exact nofun
    rw [if_neg hempty]
    rcases htake : Text.takeBytes? (min (Text.byteLen parts.2) size) parts.2 with _ | digits
    · exact absurd htake (h hfits)
    have hlen := Text.byteLen_takeBytes? htake
    have hdigits : Text.byteLen digits ≤ size := hlen ▸ Nat.min_le_right _ _
    rw [← hlen]
    have hmod : (size - Text.byteLen digits) % 2 ^ 32 = size - Text.byteLen digits :=
      Nat.mod_eq_of_lt (by omega)
    rw [hmod]
    refine orFail_bind_ne_stop.mpr fun value hvalue => fit_panics_bind_ne_stop.mpr
      ⟨fits_pow10_iff.mpr (by omega), fun q hq => fit_panics_bind_ne_stop.mpr ?_⟩
    rw [hq]
    refine ⟨fits_scaled hscale hdigits hvalue, fun scaled _ => ?_⟩
    split
    · exact orFail_ne_stop
    · exact orFail_ne_stop

/-! ### All of them -/

/-- **The parsers are without faults exactly where their conditions hold.** -/
theorem parsers_faultless_iff (text : List Char) (scale : SInt 8) :
    (Faultless (parseDateToDays · text) ↔ DateFits text) ∧
    (Faultless (parseTimestampToMicros · text) ↔ TimestampFits text) ∧
    (Faultless (parseInterval · text) ↔ IntervalFits text) ∧
    (Faultless (parseDecimalToI128 · text scale) ↔ DecimalFits text scale) :=
  ⟨(faultless_iff (stopsOr_parseDateToDays text)).trans parseDateToDays_ne_stop_iff,
    (faultless_iff (stopsOr_parseTimestampToMicros text)).trans parseTimestampToMicros_ne_stop_iff,
    (faultless_iff (stopsOr_parseInterval text)).trans parseInterval_ne_stop_iff,
    (faultless_iff (stopsOr_parseDecimalToI128 text scale)).trans parseDecimalToI128_ne_stop_iff⟩

/-- **Each parser has a text that it cannot take.** -/
theorem parsers_not_faultless :
    ¬Faultless (parseDateToDays · "5881460-01-01".toList) ∧
    ¬Faultless (parseTimestampToMicros · "1970-01-01 9999999999:00".toList) ∧
    ¬Faultless (parseInterval · "+0 00:00:00.12345678é".toList) ∧
    ¬Faultless (parseDecimalToI128 · "1".toList 39) := by
  have hstop {α : Type} {f : Overflow → Exec String α} (h : stops (f .panics) = true) :
      ¬Faultless f := fun hf => hf.returns .panics (eq_stop_of_stops h)
  exact ⟨hstop (by decide +kernel), hstop (by decide +kernel), hstop (by decide +kernel),
    hstop (by decide +kernel)⟩

end Exarrow
