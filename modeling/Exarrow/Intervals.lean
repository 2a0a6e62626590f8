import Exarrow.Conversion

/-!
# The texts of intervals

Exasol sends an interval of years and months as `+YY-MM` and one of days and a time as
`+DD HH:MM:SS.fff`, with as many digits after the point as the type of the column declares.
Both are read as they are meant: `Exarrow.parseInterval_yearMonth` and
`Exarrow.parseInterval_dayTime`. The months of an interval must fit 32 bits, which those
of some declared intervals do not (`Exarrow.parseInterval_yearMonth_overflow`).

A fraction with more than nine digits is cut after nine bytes. **Reading an interval stops
exactly when that is within a character** (`Exarrow.parseInterval_eq_stop_iff`).
-/

namespace Exarrow

open Machine Checked Numeral Arrow

/-! ### Values and their texts -/

/-- An interval of years and months. -/
structure YearMonth where
  negative : Bool
  years : ℕ
  months : ℕ
  years_lt : years < 10 ^ 9
  months_lt : months < 12
  deriving DecidableEq

/-- An interval of days and a time. -/
structure DayTime where
  negative : Bool
  days : ℕ
  hours : ℕ
  minutes : ℕ
  seconds : ℕ
  /-- The number of digits after the point. -/
  digits : ℕ
  /-- The number that these digits form. -/
  fraction : ℕ
  days_lt : days < 10 ^ 9
  time_lt : hours < 24 ∧ minutes < 60 ∧ seconds < 60
  digits_le : digits ≤ 9
  fraction_lt : fraction < 10 ^ digits
  deriving DecidableEq

/-- The sign of an interval. -/
def signText (negative : Bool) : Char := if negative then '-' else '+'

/-- A number with its sign. -/
def signed (negative : Bool) (n : ℤ) : ℤ := if negative then -n else n

/-- The months of an interval of years and months, its sign included. -/
def YearMonth.total (v : YearMonth) : ℤ := signed v.negative (v.years * 12 + v.months)

/-- The text of an interval of years and months. -/
def YearMonth.text (v : YearMonth) : List Char :=
  signText v.negative :: (pad 2 (natText v.years) ++ '-' :: pad 2 (natText v.months))

/-- The nanoseconds of the time of an interval, without its sign. -/
def DayTime.nanos (v : DayTime) : ℕ :=
  ((v.hours * 60 + v.minutes) * 60 + v.seconds) * 10 ^ 9 + v.fraction * 10 ^ (9 - v.digits)

/-- The digits after the point, with the point; nothing if there are none. -/
def DayTime.fractionText (v : DayTime) : List Char :=
  if v.digits = 0 then [] else '.' :: pad v.digits (natText v.fraction)

/-- The text of an interval of days and a time. -/
def DayTime.text (v : DayTime) : List Char :=
  signText v.negative :: (pad 2 (natText v.days) ++ ' ' :: (pad 2 (natText v.hours) ++ ':' ::
    (pad 2 (natText v.minutes) ++ ':' :: (pad 2 (natText v.seconds) ++ v.fractionText))))

/-! ### Machine integers -/

/-- A number in the range of its type is converted. -/
theorem ofInt?_mem {w : ℕ} {x : ℤ} (h1 : -2 ^ (w - 1) ≤ x) (h2 : x < 2 ^ (w - 1)) :
    SInt.ofInt? w x = some ⟨x, h1, h2⟩ := SInt.ofInt?_eq_some.mpr rfl

/-- The digits of a number in range are read. -/
theorem parseSigned?_pad {w : ℕ} (k : ℕ) {n : ℕ} (h : (n : ℤ) < 2 ^ (w - 1)) :
    ∃ a : SInt w, parseSigned? w (pad k (natText n)) = some a ∧ a.val = n := by
  have hge : -2 ^ (w - 1) ≤ (n : ℤ) :=
    le_trans (neg_nonpos.mpr (by positivity)) (Int.natCast_nonneg n)
  have hparse := parseInt?_of_digits (padded_ne_nil k n) (allDigits_padded k n)
  rw [ofDigits_pad, ofDigits_natText] at hparse
  refine ⟨⟨n, hge, h⟩, ?_, rfl⟩
  unfold parseSigned?
  rw [hparse, Option.bind_some, ofInt?_mem hge h]

/-- A product in range is reported. -/
theorem checkedMul_mem {w : ℕ} {a b : SInt w} {x : ℤ} (hx : a.val * b.val = x)
    (h1 : -2 ^ (w - 1) ≤ x) (h2 : x < 2 ^ (w - 1)) :
    ∃ c, checkedMul a b = some c ∧ c.val = x := by
  subst hx
  exact ⟨⟨_, h1, h2⟩, ofInt?_mem h1 h2, rfl⟩

/-- A sum in range is reported. -/
theorem checkedAdd_mem {w : ℕ} {a b : SInt w} {x : ℤ} (hx : a.val + b.val = x)
    (h1 : -2 ^ (w - 1) ≤ x) (h2 : x < 2 ^ (w - 1)) :
    ∃ c, checkedAdd a b = some c ∧ c.val = x := by
  subst hx
  exact ⟨⟨_, h1, h2⟩, ofInt?_mem h1 h2, rfl⟩

/-- The sign of a number in range. -/
theorem signed_neg {w : ℕ} [NeZero w] {ε : Type} {ov : Overflow} (negative : Bool) {a : SInt w}
    (h : 0 ≤ a.val) :
    ∃ b : SInt w, (if negative then neg ov a else .ok a : Exec ε (SInt w)) = .ok b ∧
      b.val = signed negative a.val := by
  cases negative with
  | false => exact ⟨a, rfl, rfl⟩
  | true =>
    have hlt := a.lt
    obtain ⟨b, hb, hval⟩ := @yields_fit ε w ov _ (-a.val) (by omega)
      (lt_of_le_of_lt (neg_nonpos.mpr h) (by positivity))
    exact ⟨b, hb, hval⟩

/-! ### Digits -/

/-- A text of digits has a byte for each character. -/
theorem byteLen_of_allDigits {s : List Char} (h : AllDigits s) : Text.byteLen s = s.length := by
  induction s with
  | nil => rfl
  | cons c s ih =>
    have hc : c.utf8Size = 1 := by
      have hdigit := h c List.mem_cons_self
      rw [Char.isDigit, Bool.and_eq_true, decide_eq_true_eq, decide_eq_true_eq] at hdigit
      have hle : c.val ≤ 57 := hdigit.2
      have hnat : c.val.toNat ≤ 57 := UInt32.le_iff_toNat_le.mp hle
      rw [Char.utf8Size_eq_one_iff]
      exact UInt32.le_iff_toNat_le.mpr (le_trans hnat (by decide))
    have hs := ih fun d hd => h d (List.mem_cons_of_mem c hd)
    have hcons : Text.byteLen (c :: s) = c.utf8Size + Text.byteLen s := rfl
    rw [hcons, hc, hs, List.length_cons, Nat.add_comm]

/-! ### Years and months -/

section Reading

variable {ov : Overflow}

/-- What is made of the months that were read. -/
theorem parseInterval_of_months {negative : Bool} {body : List Char} (hmem : '-' ∈ body)
    {a : SInt 64} (h0 : 0 ≤ a.val)
    (h : parseIntervalMonths body (signText negative :: body) = .ok a) :
    parseInterval ov (signText negative :: body) =
      (orFail ("Interval month count out of range: " ++ str (signText negative :: body))
        (SInt.ofInt? 32 (signed negative a.val)) >>= fun m => .ok ⟨m, 0, 0⟩) := by
  have hcode : parseInterval ov (signText negative :: body) = (do
      let months ← parseIntervalMonths body (signText negative :: body)
      let signed ← if negative then neg ov months else .ok months
      let months ← orFail ("Interval month count out of range: " ++
        str (signText negative :: body)) (SInt.ofInt? 32 signed.val)
      return ⟨months, 0, 0⟩) := by
    cases negative with
    | false => exact if_pos hmem
    | true => exact if_pos hmem
  rw [hcode, h]
  cases negative with
  | false => rfl
  | true =>
    obtain ⟨b, hb, hval⟩ := @signed_neg 64 _ String ov true a h0
    have hb' : (neg ov a : Exec String (SInt 64)) = .ok b := hb
    show ((neg ov a : Exec String (SInt 64)) >>= fun s =>
      orFail _ (SInt.ofInt? 32 s.val) >>= fun m => .ok (⟨m, 0, 0⟩ : IntervalMonthDayNano)) = _
    rw [hb', ← hval]
    rfl

/-- The months of a text of years and months, however many zeros are before its years. -/
theorem parseIntervalMonths_text (v : YearMonth) (k : ℕ) (text : List Char) :
    ∃ a : SInt 64, parseIntervalMonths
        (pad k (natText v.years) ++ '-' :: pad 2 (natText v.months)) text = .ok a ∧
      a.val = v.years * 12 + v.months := by
  have hyears := v.years_lt
  have hmonths := v.months_lt
  obtain ⟨y, hy, hyval⟩ := @parseSigned?_pad 64 k v.years (by norm_num; omega)
  obtain ⟨m, hm, hmval⟩ := @parseSigned?_pad 64 2 v.months (by norm_num; omega)
  have h12 : (12 : SInt 64).val = 12 := val_ofNat (by norm_num)
  obtain ⟨p, hp, hpval⟩ := @checkedMul_mem 64 y 12 (v.years * 12) (by rw [hyval, h12])
    (by norm_num; omega) (by norm_num; omega)
  obtain ⟨a, ha, haval⟩ := @checkedAdd_mem 64 p m (v.years * 12 + v.months) (by rw [hpval, hmval])
    (by norm_num; omega) (by norm_num; omega)
  refine ⟨a, ?_, haval⟩
  unfold parseIntervalMonths
  rw [splitOn_cons rfl (allDigits_padded _ _), splitOn_digits rfl (allDigits_padded _ _)]
  simp only [hy, hm, orFail_some]
  show orFail _ ((checkedMul y 12).bind fun total => checkedAdd total m) = _
  rw [hp, Option.bind_some, ha]
  rfl

/-- **An interval of years and months is read**, if its months fit 32 bits. -/
theorem parseInterval_yearMonth {v : YearMonth} (h1 : -2 ^ 31 ≤ v.total) (h2 : v.total < 2 ^ 31) :
    ∃ i, parseInterval ov v.text = .ok i ∧ i.months.val = v.total ∧ i.days = 0 ∧
      i.nanoseconds = 0 := by
  obtain ⟨a, ha, hval⟩ := parseIntervalMonths_text v 2 v.text
  have h0 : 0 ≤ a.val := by
    rw [hval]
    positivity
  have hmem : '-' ∈ pad 2 (natText v.years) ++ '-' :: pad 2 (natText v.months) := by simp
  have hparse : parseInterval ov v.text = _ := parseInterval_of_months hmem h0 ha
  have htotal : signed v.negative a.val = v.total := by rw [hval]; rfl
  rw [htotal, ofInt?_mem (w := 32) h1 h2] at hparse
  exact ⟨_, hparse, rfl, rfl, rfl⟩

/-- An interval of more months is not. -/
theorem parseInterval_yearMonth_overflow {v : YearMonth}
    (h : ¬(-2 ^ 31 ≤ v.total ∧ v.total < 2 ^ 31)) :
    ∃ e, parseInterval ov v.text = fail e := by
  obtain ⟨a, ha, hval⟩ := parseIntervalMonths_text v 2 v.text
  have h0 : 0 ≤ a.val := by
    rw [hval]
    positivity
  have hmem : '-' ∈ pad 2 (natText v.years) ++ '-' :: pad 2 (natText v.months) := by simp
  have hparse : parseInterval ov v.text = _ := parseInterval_of_months hmem h0 ha
  have htotal : signed v.negative a.val = v.total := by rw [hval]; rfl
  rw [htotal, (SInt.ofInt?_eq_none (w := 32)).mpr h] at hparse
  exact ⟨_, hparse⟩

/-! ### Days and times -/

/-- What is made of the days and the nanoseconds that were read. -/
theorem parseInterval_of_days {negative : Bool} {body : List Char} (hmem : '-' ∉ body)
    {d : SInt 32} {n : SInt 64} (hd : 0 ≤ d.val) (hn : 0 ≤ n.val)
    (h : parseIntervalDaysAndNanos body = .ok (d, n)) :
    ∃ i, parseInterval ov (signText negative :: body) = .ok i ∧ i.months = 0 ∧
      i.days.val = signed negative d.val ∧ i.nanoseconds.val = signed negative n.val := by
  have hcode : parseInterval ov (signText negative :: body) =
      (parseIntervalDaysAndNanos body >>= fun p =>
        if negative then neg ov p.1 >>= fun days => neg ov p.2 >>= fun nanoseconds =>
          .ok ⟨0, days, nanoseconds⟩
        else .ok ⟨0, p.1, p.2⟩) := by
    cases negative with
    | false => exact if_neg hmem
    | true => exact if_neg hmem
  rw [hcode, h]
  cases negative with
  | false => exact ⟨⟨0, d, n⟩, rfl, rfl, rfl, rfl⟩
  | true =>
    obtain ⟨b, hb, hbval⟩ := @signed_neg 32 _ String ov true d hd
    obtain ⟨c, hc, hcval⟩ := @signed_neg 64 _ String ov true n hn
    have hb' : (neg ov d : Exec String (SInt 32)) = .ok b := hb
    have hc' : (neg ov n : Exec String (SInt 64)) = .ok c := hc
    refine ⟨⟨0, b, c⟩, ?_, rfl, hbval, hcval⟩
    show ((neg ov d : Exec String (SInt 32)) >>= fun days =>
      neg ov n >>= fun nanoseconds =>
        .ok (⟨0, days, nanoseconds⟩ : IntervalMonthDayNano)) = _
    rw [hb', hc']
    rfl

/-- The digits of a fraction, scaled up to so many places. -/
theorem fractionalSecondsToUnits_padded {ε : Type} {d f u : ℕ} (hd : 0 < d) (hdu : d ≤ u)
    (hu : u ≤ 9) (hf : f < 10 ^ d) :
    Yields (fractionalSecondsToUnits (pad d (natText f)) u : Exec ε (SInt 64))
      (f * 10 ^ (u - d)) := by
  have hlen : Text.byteLen (pad d (natText f)) = d := by
    rw [byteLen_of_allDigits (allDigits_padded d f), length_pad (length_natText_le hd hf)]
  have hprod : f * 10 ^ (u - d) < 10 ^ 9 := by
    calc f * 10 ^ (u - d) < 10 ^ d * 10 ^ (u - d) :=
          Nat.mul_lt_mul_of_pos_right hf (by positivity)
      _ = 10 ^ u := by rw [← pow_add, Nat.add_sub_cancel' hdu]
      _ ≤ 10 ^ 9 := Nat.pow_le_pow_right (by norm_num) hu
  have hf9 : f < 10 ^ 9 := lt_of_le_of_lt (Nat.le_mul_of_pos_right f (by positivity)) hprod
  obtain ⟨a, ha, hval⟩ := @parseSigned?_pad 64 d f (by norm_num; omega)
  have hge : -2 ^ (64 - 1) ≤ a.val * 10 ^ (u - d) := by
    rw [hval]
    exact le_trans (by norm_num) (show (0 : ℤ) ≤ f * 10 ^ (u - d) by positivity)
  have hlt : a.val * 10 ^ (u - d) < 2 ^ (64 - 1) := by
    rw [hval]
    have h : ((f * 10 ^ (u - d) : ℕ) : ℤ) < 10 ^ 9 := by exact_mod_cast hprod
    push_cast at h
    exact lt_trans h (by norm_num)
  refine ⟨⟨a.val * 10 ^ (u - d), hge, hlt⟩, ?_, congrArg (· * 10 ^ (u - d)) hval⟩
  unfold fractionalSecondsToUnits
  rw [hlen, if_neg (by omega), ha]
  dsimp only
  rw [ofInt?_mem hge hlt]
  rfl

/-- The seconds of an interval with their fraction. -/
theorem parseIntervalSecondsToNanos_text (v : DayTime) :
    ∃ x : SInt 64, parseIntervalSecondsToNanos (pad 2 (natText v.seconds) ++ v.fractionText) =
      .ok x ∧ x.val = v.seconds * 10 ^ 9 + v.fraction * 10 ^ (9 - v.digits) := by
  have hs := v.time_lt.2.2
  have hprod : v.fraction * 10 ^ (9 - v.digits) < 10 ^ 9 := by
    calc v.fraction * 10 ^ (9 - v.digits) < 10 ^ v.digits * 10 ^ (9 - v.digits) :=
          Nat.mul_lt_mul_of_pos_right v.fraction_lt (by positivity)
      _ = 10 ^ 9 := by rw [← pow_add, Nat.add_sub_cancel' v.digits_le]
  have hprod' : (v.fraction * 10 ^ (9 - v.digits) : ℤ) < 10 ^ 9 := by exact_mod_cast hprod
  have hpos : (0 : ℤ) ≤ v.fraction * 10 ^ (9 - v.digits) := by positivity
  obtain ⟨s, hs', hsval⟩ := @parseSigned?_pad 64 2 v.seconds (by norm_num; omega)
  have h9 : (1000000000 : SInt 64).val = 1000000000 := val_ofNat (by norm_num)
  obtain ⟨w, hw, hwval⟩ := @checkedMul_mem 64 s 1000000000 (v.seconds * 10 ^ 9)
    (by rw [hsval, h9]; norm_num) (by norm_num; omega) (by norm_num; omega)
  -- The digits after the point, if there are any.
  obtain ⟨parts, hparts, x, hx, hxval⟩ : ∃ parts,
      (pad 2 (natText v.seconds) ++ v.fractionText).splitOn '.' =
        pad 2 (natText v.seconds) :: parts ∧
      ∃ x : SInt 64, (parts.head?.elim (.ok 0) fun f =>
        fractionalSecondsToUnits f 9 : Exec String (SInt 64)) = .ok x ∧
        x.val = v.fraction * 10 ^ (9 - v.digits) := by
    unfold DayTime.fractionText
    split
    · rename_i hzero
      have hfrac := v.fraction_lt
      rw [hzero, pow_zero, Nat.lt_one_iff] at hfrac
      refine ⟨[], ?_, 0, rfl, ?_⟩
      · rw [List.append_nil, splitOn_digits rfl (allDigits_padded _ _)]
      · rw [hfrac, Nat.cast_zero, zero_mul]
        exact val_ofNat (by norm_num)
    · rename_i hzero
      refine ⟨[pad v.digits (natText v.fraction)], ?_, ?_⟩
      · rw [splitOn_cons rfl (allDigits_padded _ _), splitOn_digits rfl (allDigits_padded _ _)]
      · exact fractionalSecondsToUnits_padded (Nat.pos_of_ne_zero hzero) v.digits_le le_rfl
          v.fraction_lt
  obtain ⟨t, ht, htval⟩ := @checkedAdd_mem 64 w x
    (v.seconds * 10 ^ 9 + v.fraction * 10 ^ (9 - v.digits)) (by rw [hwval, hxval])
    (by norm_num; omega) (by norm_num; omega)
  refine ⟨t, ?_, htval⟩
  unfold parseIntervalSecondsToNanos
  rw [hparts]
  have hget : (pad 2 (natText v.seconds) :: parts)[1]? = parts.head? := by
    cases parts <;> rfl
  simp only [List.headI_cons, hget, hs', orFail_some]
  cases hhead : parts.head? with
  | none =>
    have hx' : (.ok 0 : Exec String (SInt 64)) = .ok x := by rwa [hhead] at hx
    rw [ok_bind, hw, orFail_some, ok_bind]
    dsimp only
    rw [hx', ok_bind, ht, orFail_some]
  | some f =>
    have hx' : (fractionalSecondsToUnits f 9 : Exec String (SInt 64)) = .ok x := by
      rwa [hhead] at hx
    rw [ok_bind, hw, orFail_some, ok_bind]
    dsimp only
    rw [hx', ok_bind, ht, orFail_some]

/-- The fraction of an interval has digits and a point. -/
theorem not_mem_fractionText (v : DayTime) {a : Char} (ha : a.isDigit = false) (hp : a ≠ '.') :
    a ∉ v.fractionText := by
  unfold DayTime.fractionText
  split
  · exact List.not_mem_nil
  · intro hmem
    rcases List.mem_cons.mp hmem with h | h
    · exact hp h
    · exact (allDigits_padded _ _).ne ha h

/-- The time of an interval. -/
theorem parseIntervalTimeToNanos_text (v : DayTime) :
    ∃ x : SInt 64, parseIntervalTimeToNanos (pad 2 (natText v.hours) ++ ':' ::
      (pad 2 (natText v.minutes) ++ ':' :: (pad 2 (natText v.seconds) ++ v.fractionText))) =
        .ok x ∧ x.val = v.nanos := by
  obtain ⟨hh, hm, hs⟩ := v.time_lt
  have hprod : v.fraction * 10 ^ (9 - v.digits) < 10 ^ 9 := by
    calc v.fraction * 10 ^ (9 - v.digits) < 10 ^ v.digits * 10 ^ (9 - v.digits) :=
          Nat.mul_lt_mul_of_pos_right v.fraction_lt (by positivity)
      _ = 10 ^ 9 := by rw [← pow_add, Nat.add_sub_cancel' v.digits_le]
  have hprod' : (v.fraction * 10 ^ (9 - v.digits) : ℤ) < 10 ^ 9 := by exact_mod_cast hprod
  have hpos : (0 : ℤ) ≤ v.fraction * 10 ^ (9 - v.digits) := by positivity
  obtain ⟨h, hh', hhval⟩ := @parseSigned?_pad 64 2 v.hours (by norm_num; omega)
  obtain ⟨m, hm', hmval⟩ := @parseSigned?_pad 64 2 v.minutes (by norm_num; omega)
  obtain ⟨s, hs', hsval⟩ := parseIntervalSecondsToNanos_text v
  have hhour : nanosPerHour.val = 3600000000000 := val_ofNat (by norm_num)
  have hminute : nanosPerMinute.val = 60000000000 := val_ofNat (by norm_num)
  obtain ⟨a, ha, haval⟩ := @checkedMul_mem 64 h nanosPerHour (v.hours * 3600000000000)
    (by rw [hhval, hhour]) (by norm_num; omega) (by norm_num; omega)
  obtain ⟨b, hb, hbval⟩ := @checkedMul_mem 64 m nanosPerMinute (v.minutes * 60000000000)
    (by rw [hmval, hminute]) (by norm_num; omega) (by norm_num; omega)
  obtain ⟨c, hc, hcval⟩ := @checkedAdd_mem 64 a b
    (v.hours * 3600000000000 + v.minutes * 60000000000) (by rw [haval, hbval])
    (by norm_num; omega) (by norm_num; omega)
  obtain ⟨x, hx, hxval⟩ := @checkedAdd_mem 64 c s v.nanos
    (by rw [hcval, hsval]; unfold DayTime.nanos; push_cast; ring)
    (by unfold DayTime.nanos; push_cast; omega) (by unfold DayTime.nanos; push_cast; omega)
  refine ⟨x, ?_, hxval⟩
  have hcolon : ':' ∉ pad 2 (natText v.seconds) ++ v.fractionText := by
    rw [List.mem_append, not_or]
    exact ⟨(allDigits_padded _ _).ne rfl, not_mem_fractionText v rfl (by decide)⟩
  unfold parseIntervalTimeToNanos
  rw [splitOn_cons rfl (allDigits_padded _ _), splitOn_cons rfl (allDigits_padded _ _), List.splitOn_eq_singleton hcolon]
  simp only [hh', hm', orFail_some]
  show (orFail _ ((checkedMul h nanosPerHour).bind fun a =>
      (checkedMul m nanosPerMinute).bind fun b => checkedAdd a b) >>= fun nanos =>
    parseIntervalSecondsToNanos (pad 2 (natText v.seconds) ++ v.fractionText) >>= fun s =>
      orFail _ (checkedAdd nanos s)) = _
  rw [ha, Option.bind_some, hb, Option.bind_some, hc, hs']
  show orFail _ (checkedAdd c s) = _
  rw [hx]
  rfl

/-- The days and the time of an interval, with at least so many digits of days. -/
def DayTime.body (k : ℕ) (v : DayTime) : List Char :=
  pad k (natText v.days) ++ ' ' :: (pad 2 (natText v.hours) ++ ':' ::
    (pad 2 (natText v.minutes) ++ ':' :: (pad 2 (natText v.seconds) ++ v.fractionText)))

/-- The time of an interval has digits, colons and a point. -/
theorem not_mem_time (v : DayTime) {a : Char} (ha : a.isDigit = false) (hpoint : a ≠ '.')
    (hcolon : a ≠ ':') :
    a ∉ pad 2 (natText v.hours) ++ ':' ::
      (pad 2 (natText v.minutes) ++ ':' :: (pad 2 (natText v.seconds) ++ v.fractionText)) := by
  simp only [List.mem_append, List.mem_cons, not_or]
  exact ⟨(allDigits_padded _ _).ne ha, hcolon, (allDigits_padded _ _).ne ha,
    hcolon, (allDigits_padded _ _).ne ha, not_mem_fractionText v ha hpoint⟩

theorem dash_not_mem_body (k : ℕ) (v : DayTime) : '-' ∉ v.body k := by
  rw [DayTime.body, List.mem_append, List.mem_cons, not_or, not_or]
  exact ⟨(allDigits_padded _ _).ne rfl, by decide, not_mem_time v rfl (by decide) (by decide)⟩

/-- The days and the time are read. -/
theorem parseIntervalDaysAndNanos_body (k : ℕ) (v : DayTime) :
    ∃ (d : SInt 32) (n : SInt 64), parseIntervalDaysAndNanos (v.body k) = .ok (d, n) ∧
      d.val = v.days ∧ n.val = v.nanos := by
  have hdays := v.days_lt
  obtain ⟨d, hd, hdval⟩ := @parseSigned?_pad 32 k v.days (by norm_num; omega)
  obtain ⟨n, hn, hnval⟩ := parseIntervalTimeToNanos_text v
  refine ⟨d, n, ?_, hdval, hnval⟩
  unfold parseIntervalDaysAndNanos DayTime.body
  rw [splitOn_cons rfl (allDigits_padded _ _),
    List.splitOn_eq_singleton (not_mem_time v rfl (by decide) (by decide))]
  simp only [List.headI_cons, hd, orFail_some]
  show (parseIntervalTimeToNanos _ >>= fun nanos => .ok (d, nanos)) = _
  rw [hn]
  rfl

/-- **An interval of days and a time is read.** -/
theorem parseInterval_dayTime (v : DayTime) :
    ∃ i, parseInterval ov v.text = .ok i ∧ i.months = 0 ∧
      i.days.val = signed v.negative v.days ∧ i.nanoseconds.val = signed v.negative v.nanos := by
  obtain ⟨d, n, hparse, hdval, hnval⟩ := parseIntervalDaysAndNanos_body 2 v
  have h0d : 0 ≤ d.val := hdval ▸ Int.natCast_nonneg _
  have h0n : 0 ≤ n.val := hnval ▸ Int.natCast_nonneg _
  have h := @parseInterval_of_days ov v.negative _ (dash_not_mem_body 2 v) d n h0d h0n hparse
  rw [hdval, hnval] at h
  exact h

end Reading

/-! ### Where reading stops -/

section Stopping

variable {ov : Overflow}

/-- The ninth byte of a fraction is not the last one of a character. -/
def CutsCharacter (fraction : List Char) : Prop :=
  9 < Text.byteLen fraction ∧ Text.takeBytes? 9 fraction = none

/-- The fraction of a seconds field, if what comes before it is right. -/
def secondsFraction? (secondsText : List Char) : Option (List Char) := do
  let parts := secondsText.splitOn '.'
  let seconds ← parseSigned? 64 parts.headI
  let _ ← checkedMul seconds 1000000000
  parts[1]?

/-- The fraction of a time, if what comes before it is right. -/
def timeFraction? (timeText : List Char) : Option (List Char) :=
  match timeText.splitOn ':' with
  | h :: m :: seconds :: _ => do
    let hours ← parseSigned? 64 h
    let minutes ← parseSigned? 64 m
    let _ ← (checkedMul hours nanosPerHour).bind fun a =>
      (checkedMul minutes nanosPerMinute).bind fun b => checkedAdd a b
    secondsFraction? seconds
  | _ => none

/-- The text of an interval without its sign. -/
def unsignedPart : List Char → List Char
  | '-' :: body => body
  | '+' :: body => body
  | text => text

/-- The fraction of an interval, if it is one of days and what comes before it is right. -/
def intervalFraction? (text : List Char) : Option (List Char) :=
  if '-' ∈ unsignedPart text then none
  else do
    let segments := (unsignedPart text).splitOn ' '
    let _ ← parseSigned? 32 segments.headI
    (segments[1]?).bind timeFraction?

/-- A fraction that is longer than its unit is cut at the bytes of the unit. -/
theorem fractionalSecondsToUnits_stops_iff {ε : Type} {f : List Char} {n : ℕ} :
    (fractionalSecondsToUnits f n : Exec ε (SInt 64)) = stop ↔
      n < Text.byteLen f ∧ Text.takeBytes? n f = none := by
  unfold fractionalSecondsToUnits
  split
  · rename_i hlt
    cases Text.takeBytes? n f with
    | none => exact ⟨fun _ => ⟨hlt, rfl⟩, fun _ => rfl⟩
    | some s =>
      constructor
      · intro h
        cases h
      · rintro ⟨-, h⟩
        cases h
  · rename_i hle
    refine ⟨fun h => ?_, fun h => absurd h.1 hle⟩
    split at h <;> cases h

theorem fractionalSecondsToUnits_eq_stop_iff {ε : Type} {f : List Char} :
    (fractionalSecondsToUnits f 9 : Exec ε (SInt 64)) = stop ↔ CutsCharacter f :=
  fractionalSecondsToUnits_stops_iff

theorem parseIntervalSecondsToNanos_eq_stop_iff {s : List Char} :
    parseIntervalSecondsToNanos s = stop ↔
      ∃ f, secondsFraction? s = some f ∧ CutsCharacter f := by
  unfold parseIntervalSecondsToNanos secondsFraction?
  dsimp only
  rw [orFail_bind_eq_stop]
  constructor
  · rintro ⟨seconds, hs, h⟩
    obtain ⟨w, hw, h⟩ := orFail_bind_eq_stop.mp h
    rw [hs, Option.bind_eq_bind, Option.bind_some, hw]
    split at h
    · rename_i f hf
      rcases bind_eq_stop.mp h with h | ⟨x, -, h⟩
      · exact ⟨f, hf, fractionalSecondsToUnits_eq_stop_iff.mp h⟩
      · exact absurd h orFail_ne_stop
    · rcases bind_eq_stop.mp h with h | ⟨x, -, h⟩
      · cases h
      · exact absurd h orFail_ne_stop
  · rintro ⟨f, hf, hcut⟩
    obtain ⟨seconds, hs, hf⟩ := Option.bind_eq_some_iff.mp hf
    obtain ⟨w, hw, hf⟩ := Option.bind_eq_some_iff.mp hf
    refine ⟨seconds, hs, orFail_bind_eq_stop.mpr ⟨w, hw, ?_⟩⟩
    rw [hf]
    exact bind_eq_stop.mpr (.inl (fractionalSecondsToUnits_eq_stop_iff.mpr hcut))

theorem parseIntervalTimeToNanos_eq_stop_iff {s : List Char} :
    parseIntervalTimeToNanos s = stop ↔ ∃ f, timeFraction? s = some f ∧ CutsCharacter f := by
  unfold parseIntervalTimeToNanos timeFraction?
  dsimp only
  rcases s.splitOn ':' with _ | ⟨h, _ | ⟨m, rest⟩⟩
  · exact ⟨nofun, nofun⟩
  · exact ⟨nofun, nofun⟩
  · dsimp only
    rw [orFail_bind_eq_stop]
    constructor
    · rintro ⟨hours, hh, hstop⟩
      obtain ⟨minutes, hm, hstop⟩ := orFail_bind_eq_stop.mp hstop
      obtain ⟨nanos, hn, hstop⟩ := orFail_bind_eq_stop.mp hstop
      rcases rest with _ | ⟨seconds, rest⟩
      · cases hstop
      · rcases bind_eq_stop.mp hstop with hstop | ⟨x, -, hstop⟩
        · obtain ⟨f, hf, hcut⟩ := parseIntervalSecondsToNanos_eq_stop_iff.mp hstop
          exact ⟨f, Option.bind_eq_some_iff.mpr ⟨hours, hh, Option.bind_eq_some_iff.mpr
            ⟨minutes, hm, Option.bind_eq_some_iff.mpr ⟨nanos, hn, hf⟩⟩⟩, hcut⟩
        · exact absurd hstop orFail_ne_stop
    · rintro ⟨f, hf, hcut⟩
      rcases rest with _ | ⟨seconds, rest⟩
      · cases hf
      · obtain ⟨hours, hh, hf⟩ := Option.bind_eq_some_iff.mp hf
        obtain ⟨minutes, hm, hf⟩ := Option.bind_eq_some_iff.mp hf
        obtain ⟨nanos, hn, hf⟩ := Option.bind_eq_some_iff.mp hf
        refine ⟨hours, hh, orFail_bind_eq_stop.mpr ⟨minutes, hm,
          orFail_bind_eq_stop.mpr ⟨nanos, hn, ?_⟩⟩⟩
        exact bind_eq_stop.mpr
          (.inl (parseIntervalSecondsToNanos_eq_stop_iff.mpr ⟨f, hf, hcut⟩))

theorem parseIntervalDaysAndNanos_eq_stop_iff {s : List Char} :
    parseIntervalDaysAndNanos s = stop ↔
      ∃ days time f, parseSigned? 32 (s.splitOn ' ').headI = some days ∧
        (s.splitOn ' ')[1]? = some time ∧ timeFraction? time = some f ∧ CutsCharacter f := by
  unfold parseIntervalDaysAndNanos
  dsimp only
  rw [orFail_bind_eq_stop]
  constructor
  · rintro ⟨days, hd, h⟩
    split at h
    · rename_i time ht
      rcases bind_eq_stop.mp h with h | ⟨x, -, h⟩
      · obtain ⟨f, hf, hcut⟩ := parseIntervalTimeToNanos_eq_stop_iff.mp h
        exact ⟨days, time, f, hd, ht, hf, hcut⟩
      · cases h
    · cases h
  · rintro ⟨days, time, f, hd, ht, hf, hcut⟩
    refine ⟨days, hd, ?_⟩
    rw [ht]
    exact bind_eq_stop.mpr (.inl (parseIntervalTimeToNanos_eq_stop_iff.mpr ⟨f, hf, hcut⟩))

/-! ### Numbers without a sign -/

/-- A text without a dash is no negative number. -/
theorem parseSigned?_nonneg {w : ℕ} {s : List Char} (hs : '-' ∉ s) {a : SInt w}
    (h : parseSigned? w s = some a) : 0 ≤ a.val := by
  obtain ⟨x, hx, ha⟩ := Option.bind_eq_some_iff.mp h
  rw [SInt.ofInt?_eq_some.mp ha]
  unfold parseInt? at hx
  split at hx
  · exact absurd List.mem_cons_self hs
  · obtain ⟨n, -, rfl⟩ := Option.map_eq_some_iff.mp hx
    exact Int.natCast_nonneg n
  · obtain ⟨n, -, rfl⟩ := Option.map_eq_some_iff.mp hx
    exact Int.natCast_nonneg n

/-- A product that is reported is the product. -/
theorem val_checkedMul {w : ℕ} {a b c : SInt w} (h : checkedMul a b = some c) :
    c.val = a.val * b.val := SInt.ofInt?_eq_some.mp h

/-- A sum that is reported is the sum. -/
theorem val_checkedAdd {w : ℕ} {a b c : SInt w} (h : checkedAdd a b = some c) :
    c.val = a.val + b.val := SInt.ofInt?_eq_some.mp h

/-- A dash in no text is in none of its pieces. -/
theorem dash_not_mem_piece {a : Char} {s piece : List Char} (hs : '-' ∉ s)
    (hp : piece ∈ s.splitOn a) : '-' ∉ piece :=
  fun hmem => hs (Text.mem_of_mem_splitOn hp hmem).1

theorem headI_mem_splitOn (a : Char) (s : List Char) : (s.splitOn a).headI ∈ s.splitOn a := by
  obtain ⟨first, rest, h⟩ := List.exists_cons_of_ne_nil (List.splitOn_ne_nil a s)
  rw [h]
  exact List.mem_cons_self

theorem fractionalSecondsToUnits_nonneg {ε : Type} {f : List Char} (hf : '-' ∉ f) {n : ℕ}
    {x : SInt 64} (h : (fractionalSecondsToUnits f n : Exec ε (SInt 64)) = .ok x) : 0 ≤ x.val := by
  have hzero : (0 : SInt 64).val = 0 := val_ofNat (by norm_num)
  have htake {s : List Char} (hs : Text.takeBytes? n f = some s) : '-' ∉ s :=
    fun hmem => hf ((Text.takeBytes?_prefix hs).subset hmem)
  unfold fractionalSecondsToUnits at h
  split at h
  · split at h
    · cases h
    · rename_i s hs
      obtain rfl := Except.ok.inj h
      cases hparse : parseSigned? 64 s with
      | none => exact hzero.ge
      | some a => exact parseSigned?_nonneg (htake hs) hparse
  · split at h
    · obtain rfl := Except.ok.inj h
      exact hzero.ge
    · rename_i a hparse
      have ha := parseSigned?_nonneg hf hparse
      have hprod : 0 ≤ a.val * 10 ^ (n - Text.byteLen f) := by positivity
      obtain rfl := Except.ok.inj h
      cases hfit : SInt.ofInt? 64 (a.val * 10 ^ (n - Text.byteLen f)) with
      | none =>
        rw [Option.getD_none, if_pos hprod]
        have hmax := SInt.val_wrap_of_mem (w := 64) (by norm_num) (x := 2 ^ 63 - 1) (by norm_num)
          (by norm_num)
        rw [hmax]
        norm_num
      | some c =>
        rw [Option.getD_some, SInt.ofInt?_eq_some.mp hfit]
        exact hprod

/-- What a missing value leaves. -/
theorem orFail_bind_eq_ok {ε α β : Type} {e : ε} {o : Option α} {f : α → Exec ε β} {b : β} :
    orFail e o >>= f = .ok b ↔ ∃ a, o = some a ∧ f a = .ok b := by
  rw [bind_eq_ok]
  exact exists_congr fun a => and_congr_left fun _ => orFail_eq_ok

theorem parseIntervalSecondsToNanos_nonneg {s : List Char} (hs : '-' ∉ s) {x : SInt 64}
    (h : parseIntervalSecondsToNanos s = .ok x) : 0 ≤ x.val := by
  unfold parseIntervalSecondsToNanos at h
  obtain ⟨seconds, hseconds, h⟩ := orFail_bind_eq_ok.mp h
  obtain ⟨w, hw, h⟩ := orFail_bind_eq_ok.mp h
  have h0 := parseSigned?_nonneg (dash_not_mem_piece hs (headI_mem_splitOn '.' s)) hseconds
  have h9 : (1000000000 : SInt 64).val = 1000000000 := val_ofNat (by norm_num)
  have hwval := val_checkedMul hw
  rw [h9] at hwval
  split at h
  · rename_i f hf
    obtain ⟨y, hy, h⟩ := bind_eq_ok.mp h
    have hy0 := fractionalSecondsToUnits_nonneg (dash_not_mem_piece hs (List.mem_of_getElem? hf)) hy
    have hx := val_checkedAdd (orFail_eq_ok.mp h)
    omega
  · obtain ⟨y, hy, h⟩ := bind_eq_ok.mp h
    have hzero : (0 : SInt 64).val = 0 := val_ofNat (by norm_num)
    have hy0 : y.val = 0 := by rw [← Except.ok.inj hy, hzero]
    have hx := val_checkedAdd (orFail_eq_ok.mp h)
    omega

theorem parseIntervalTimeToNanos_nonneg {s : List Char} (hs : '-' ∉ s) {x : SInt 64}
    (h : parseIntervalTimeToNanos s = .ok x) : 0 ≤ x.val := by
  have hzero : (0 : SInt 64).val = 0 := val_ofNat (by norm_num)
  have hpiece {piece : List Char} (hp : piece ∈ s.splitOn ':') : '-' ∉ piece :=
    dash_not_mem_piece hs hp
  unfold parseIntervalTimeToNanos at h
  dsimp only at h
  generalize s.splitOn ':' = pieces at h hpiece
  rcases pieces with _ | ⟨hour, _ | ⟨minute, rest⟩⟩
  · rw [← Except.ok.inj h, hzero]
  · rw [← Except.ok.inj h, hzero]
  · obtain ⟨hours, hh, h⟩ := orFail_bind_eq_ok.mp h
    obtain ⟨minutes, hm, h⟩ := orFail_bind_eq_ok.mp h
    obtain ⟨nanos, hn, h⟩ := orFail_bind_eq_ok.mp h
    have hh0 := parseSigned?_nonneg (hpiece List.mem_cons_self) hh
    have hm0 := parseSigned?_nonneg (hpiece (List.mem_cons_of_mem _ List.mem_cons_self)) hm
    obtain ⟨a, ha, hn⟩ := Option.bind_eq_some_iff.mp hn
    obtain ⟨b, hb, hn⟩ := Option.bind_eq_some_iff.mp hn
    have haval := val_checkedMul ha
    have hbval := val_checkedMul hb
    have hnval := val_checkedAdd hn
    have hhour : nanosPerHour.val = 3600000000000 := val_ofNat (by norm_num)
    have hminute : nanosPerMinute.val = 60000000000 := val_ofNat (by norm_num)
    rw [hhour] at haval
    rw [hminute] at hbval
    rcases rest with _ | ⟨second, rest⟩
    · have hx : nanos = x := Except.ok.inj h
      rw [← hx]
      omega
    · obtain ⟨y, hy, h⟩ := bind_eq_ok.mp h
      have hy0 := parseIntervalSecondsToNanos_nonneg
        (hpiece (List.mem_cons_of_mem _ (List.mem_cons_of_mem _ List.mem_cons_self))) hy
      have hx := val_checkedAdd (orFail_eq_ok.mp h)
      omega

theorem parseIntervalDaysAndNanos_nonneg {s : List Char} (hs : '-' ∉ s) {d : SInt 32}
    {n : SInt 64} (h : parseIntervalDaysAndNanos s = .ok (d, n)) : 0 ≤ d.val ∧ 0 ≤ n.val := by
  unfold parseIntervalDaysAndNanos at h
  obtain ⟨days, hd, h⟩ := orFail_bind_eq_ok.mp h
  have hd0 := parseSigned?_nonneg (dash_not_mem_piece hs (headI_mem_splitOn ' ' s)) hd
  split at h
  · rename_i time ht
    obtain ⟨y, hy, h⟩ := bind_eq_ok.mp h
    have hy0 := parseIntervalTimeToNanos_nonneg
      (dash_not_mem_piece hs (List.mem_of_getElem? ht)) hy
    cases h
    exact ⟨hd0, hy0⟩
  · obtain ⟨y, hy, h⟩ := bind_eq_ok.mp h
    have hzero : (0 : SInt 64).val = 0 := val_ofNat (by norm_num)
    cases hy
    cases h
    exact ⟨hd0, hzero.ge⟩

theorem parseIntervalMonths_nonneg {body text : List Char} {a : SInt 64}
    (h : parseIntervalMonths body text = .ok a) : 0 ≤ a.val := by
  have hpiece {piece : List Char} (hp : piece ∈ body.splitOn '-') : '-' ∉ piece :=
    fun hmem => (Text.mem_of_mem_splitOn hp hmem).2 rfl
  unfold parseIntervalMonths at h
  split at h
  · rename_i y m hsplit
    rw [hsplit] at hpiece
    obtain ⟨years, hy, h⟩ := orFail_bind_eq_ok.mp h
    obtain ⟨months, hm, h⟩ := orFail_bind_eq_ok.mp h
    have hy0 := parseSigned?_nonneg (hpiece List.mem_cons_self) hy
    have hm0 := parseSigned?_nonneg (hpiece (List.mem_cons_of_mem _ List.mem_cons_self)) hm
    obtain ⟨p, hp, hsum⟩ := Option.bind_eq_some_iff.mp (orFail_eq_ok.mp h)
    have h12 : (12 : SInt 64).val = 12 := val_ofNat (by norm_num)
    have hpval := val_checkedMul hp
    have haval := val_checkedAdd hsum
    rw [h12] at hpval
    omega
  · cases h

theorem parseIntervalMonths_ne_stop {body text : List Char} :
    parseIntervalMonths body text ≠ stop := by
  unfold parseIntervalMonths
  split
  · intro h
    obtain ⟨years, -, h⟩ := orFail_bind_eq_stop.mp h
    obtain ⟨months, -, h⟩ := orFail_bind_eq_stop.mp h
    exact orFail_ne_stop h
  · exact nofun

/-- The negative of a number that is not negative fits. -/
theorem neg_ne_stop {w : ℕ} [NeZero w] {ε : Type} {a : SInt w} (h : 0 ≤ a.val) :
    (neg ov a : Exec ε (SInt w)) ≠ stop := by
  obtain ⟨b, hb, -⟩ := @signed_neg w _ ε ov true a h
  have hb' : (neg ov a : Exec ε (SInt w)) = .ok b := hb
  rw [hb']
  exact nofun

/-- What is made of the text of an interval without its sign. -/
theorem parseInterval_unsigned (text : List Char) : ∃ negative : Bool,
    parseInterval ov text =
      if '-' ∈ unsignedPart text then do
        let months ← parseIntervalMonths (unsignedPart text) text
        let signed ← if negative then neg ov months else .ok months
        let months ← orFail ("Interval month count out of range: " ++ str text)
          (SInt.ofInt? 32 signed.val)
        return ⟨months, 0, 0⟩
      else do
        let (days, nanoseconds) ← parseIntervalDaysAndNanos (unsignedPart text)
        if negative then return ⟨0, ← neg ov days, ← neg ov nanoseconds⟩
        else return ⟨0, days, nanoseconds⟩ := by
  unfold parseInterval
  split
  rename_i negative body hsign
  split at hsign
  · cases hsign
    exact ⟨true, rfl⟩
  · cases hsign
    exact ⟨false, rfl⟩
  · rename_i hminus hplus
    have hunsigned : unsignedPart text = text := by
      unfold unsignedPart
      split
      · exact absurd rfl (hminus _)
      · exact absurd rfl (hplus _)
      · rfl
    cases hsign
    rw [hunsigned]
    exact ⟨false, rfl⟩

/-- **Reading an interval stops exactly when a fraction that it comes to is cut within a
character.** -/
theorem parseInterval_eq_stop_iff {text : List Char} :
    parseInterval ov text = stop ↔ ∃ f, intervalFraction? text = some f ∧ CutsCharacter f := by
  obtain ⟨negative, hparse⟩ := @parseInterval_unsigned ov text
  rw [hparse]
  unfold intervalFraction?
  split
  · rename_i hdash
    refine ⟨fun h => ?_, fun ⟨_, h, _⟩ => (nomatch h)⟩
    rcases bind_eq_stop.mp h with h | ⟨months, hmonths, h⟩
    · exact absurd h parseIntervalMonths_ne_stop
    · cases negative with
      | false => cases orFail_bind_eq_stop.mp h with
        | intro m hm => cases hm.2
      | true =>
        rcases bind_eq_stop.mp h with h | ⟨signed, -, h⟩
        · exact absurd h (neg_ne_stop (parseIntervalMonths_nonneg hmonths))
        · cases orFail_bind_eq_stop.mp h with
          | intro m hm => cases hm.2
  · rename_i hdash
    have hfraction : (∃ f, (do
        let segments := (unsignedPart text).splitOn ' '
        let _ ← parseSigned? 32 segments.headI
        (segments[1]?).bind timeFraction?) = some f ∧ CutsCharacter f) ↔
        parseIntervalDaysAndNanos (unsignedPart text) = stop := by
      rw [parseIntervalDaysAndNanos_eq_stop_iff]
      constructor
      · rintro ⟨f, hf, hcut⟩
        obtain ⟨days, hd, hf⟩ := Option.bind_eq_some_iff.mp hf
        obtain ⟨time, ht, hf⟩ := Option.bind_eq_some_iff.mp hf
        exact ⟨days, time, f, hd, ht, hf, hcut⟩
      · rintro ⟨days, time, f, hd, ht, hf, hcut⟩
        exact ⟨f, Option.bind_eq_some_iff.mpr ⟨days, hd,
          Option.bind_eq_some_iff.mpr ⟨time, ht, hf⟩⟩, hcut⟩
    rw [hfraction]
    refine ⟨fun h => ?_, fun h => bind_eq_stop.mpr (.inl h)⟩
    rcases bind_eq_stop.mp h with h | ⟨⟨d, n⟩, hdn, h⟩
    · exact h
    · obtain ⟨hd0, hn0⟩ := parseIntervalDaysAndNanos_nonneg hdash hdn
      cases negative with
      | false => cases h
      | true =>
        rcases bind_eq_stop.mp h with h | ⟨d', -, h⟩
        · exact absurd h (neg_ne_stop hd0)
        · rcases bind_eq_stop.mp h with h | ⟨n', -, h⟩
          · exact absurd h (neg_ne_stop hn0)
          · cases h

end Stopping

end Exarrow
