import Exarrow.Arrow
import Exarrow.Foundations.Calendar
import Exarrow.Foundations.Checked
import Exarrow.Foundations.Numeral
import Exarrow.Foundations.Text

/-!
# Parsing of values

The conversions from the texts in which Exasol sends dates, timestamps, intervals
and decimals, and from decoded dates and times. The errors are texts.
Arithmetic follows the program operation by operation; what an overflow does is
the parameter `ov` (`Checked.Overflow`).

* `Exarrow.ymdToDays` counts the days of a date by a formula.
  `Exarrow.ymdToDays_yields` says that it counts them correctly for every date of
  the calendar whose year has 22 bits.
* `Exarrow.formatDate32` and `Exarrow.formatTimestamp` write dates and instants;
  what they write is read back by `Exarrow.readDate?` and `Exarrow.readInstant?`,
  which define what such a text denotes (`Exarrow.readDate?_of_formatDate32`,
  `Exarrow.readInstant?_of_formatTimestamp`).
-/

namespace Exarrow

open Machine Checked Calendar Arrow

/-- A list of characters as a string, for messages. -/
abbrev str (s : List Char) : String := String.ofList s

/-! ### Reading machine integers -/

/-- Reads a signed integer of `w` bits. -/
def parseSigned? (w : ℕ) (s : List Char) : Option (SInt w) :=
  (Numeral.parseInt? s).bind (SInt.ofInt? w)

/-- Reads an unsigned integer of 32 bits. -/
def parseU32? (s : List Char) : Option ℕ :=
  (Numeral.parseUnsigned? s).filter (· < 2 ^ 32)

/-- The powers of ten in 128 bits. -/
def pow10 {ε : Type} (ov : Overflow) (e : ℕ) : Exec ε (SInt 128) := fit ov (10 ^ e)

section Calendar

variable {ε : Type} (ov : Overflow)

/-! ### Dates -/

/-- The days before a month of a year that is no leap year. -/
def daysFromMonth : ℕ → SInt 32
  | 1 => 0 | 2 => 31 | 3 => 59 | 4 => 90 | 5 => 120 | 6 => 151 | 7 => 181 | 8 => 212
  | 9 => 243 | 10 => 273 | 11 => 304 | 12 => 334 | _ => 0

/-- The leap day, which counts after February. -/
def leapAdjustment (month : ℕ) (isLeapYear : Bool) : SInt 32 :=
  if 2 < month && isLeapYear then 1 else 0

/-- The days of a date since 1970-01-01, for any year; nothing is validated. -/
def ymdToDays (year : SInt 32) (month day : ℕ) : Exec ε (SInt 32) := do
  let a ← mul ov (← sub ov year 1970) 365
  let b := (← sub ov year 1969).divEuclid 4
  let c := (← sub ov year 1901).divEuclid 100
  let d := (← sub ov year 1601).divEuclid 400
  let daysFromYear ← add ov (← sub ov (← add ov a b) c) d
  let isLeapYear : Bool :=
    (year.val % 4 = 0 && year.val % 100 ≠ 0) || year.val % 400 = 0
  let x ← add ov (← add ov daysFromYear (daysFromMonth month))
    (SInt.wrap 32 SInt.pos_32 day)
  add ov (← sub ov x 1) (leapAdjustment month isLeapYear)

/-- Reads a date of the form `YYYY-MM-DD` as days since 1970-01-01. -/
def parseDateToDays (dateStr : List Char) : Exec String (SInt 32) :=
  match dateStr.splitOn '-' with
  | [y, m, d] => do
    let year ← orFail s!"Invalid year: {str y}" (parseSigned? 32 y)
    let month ← orFail s!"Invalid month: {str m}" (parseU32? m)
    let day ← orFail s!"Invalid day: {str d}" (parseU32? d)
    if ¬(1 ≤ month ∧ month ≤ 12) then fail s!"Month out of range: {month}"
    else if ¬(1 ≤ day ∧ day ≤ 31) then fail s!"Day out of range: {day}"
    else ymdToDays ov year month day
  | _ => fail s!"Invalid date format: {str dateStr} (expected YYYY-MM-DD)"

/-- The microseconds since the epoch of a decoded timestamp; nanoseconds are cut
to microseconds. -/
def ymdHmsNanosToMicros (year : SInt 32) (month day hour minute second : ℕ) (nanos : SInt 32) :
    Exec ε (SInt 64) := do
  let days := (← ymdToDays ov year month day).extend 64 SInt.le_32_64
  let i64 (n : ℕ) : SInt 64 := SInt.wrap 64 SInt.pos_64 n
  let micros ← mul ov (← mul ov days 86400) 1000000
  let micros ← add ov micros (← mul ov (← mul ov (i64 hour) 3600) 1000000)
  let micros ← add ov micros (← mul ov (← mul ov (i64 minute) 60) 1000000)
  let micros ← add ov micros (← mul ov (i64 second) 1000000)
  add ov micros ((nanos.extend 64 SInt.le_32_64).divTrunc 1000)

/-! ### Timestamps -/

/-- The digits after a decimal point in units of `unitDigits` places: a shorter
fraction is scaled up, a longer one cut, and one that is no number is zero. -/
def fractionalSecondsToUnits (fraction : List Char) (unitDigits : ℕ) : Exec ε (SInt 64) :=
  if unitDigits < Text.byteLen fraction then
    match Text.takeBytes? unitDigits fraction with
    | none => stop
    | some s => .ok ((parseSigned? 64 s).getD 0)
  else
    match parseSigned? 64 fraction with
    | none => .ok 0
    | some value =>
      let x := value.val * 10 ^ (unitDigits - Text.byteLen fraction)
      .ok ((SInt.ofInt? 64 x).getD
        (if 0 ≤ x then SInt.wrap 64 SInt.pos_64 (2 ^ 63 - 1)
          else SInt.wrap 64 SInt.pos_64 (-2 ^ 63)))

/-- Reads a seconds field with an optional fraction as microseconds. -/
def parseSecondsFieldToMicros (secondsField : List Char) : Exec String (SInt 64) := do
  let parts := secondsField.splitOn '.'
  let whole := parts.headI
  let seconds ← orFail s!"Invalid second: {str whole}" (parseSigned? 64 whole)
  let micros ← mul ov seconds 1000000
  match parts[1]? with
  | some fraction => do add ov micros (← fractionalSecondsToUnits fraction 6)
  | none => return micros

/-- Reads a time of day as microseconds; a field without a colon is no time. -/
def parseTimeOfDayToMicros (timeStr : List Char) : Exec String (SInt 64) :=
  match timeStr.splitOn ':' with
  | h :: m :: rest => do
    let hours ← orFail s!"Invalid hour: {str h}" (parseSigned? 64 h)
    let minutes ← orFail s!"Invalid minute: {str m}" (parseSigned? 64 m)
    let micros ← add ov (← mul ov (← mul ov hours 3600) 1000000)
      (← mul ov (← mul ov minutes 60) 1000000)
    match rest.head? with
    | some seconds => do add ov micros (← parseSecondsFieldToMicros ov seconds)
    | none => return micros
  | _ => .ok 0

/-- Reads a timestamp as microseconds since the epoch. -/
def parseTimestampToMicros (timestampStr : List Char) : Exec String (SInt 64) := do
  let segments := timestampStr.splitOn ' '
  let days := (← parseDateToDays ov segments.headI).extend 64 SInt.le_32_64
  let dateMicros ← mul ov (← mul ov days 86400) 1000000
  match segments[1]? with
  | some timeStr => do add ov dateMicros (← parseTimeOfDayToMicros ov timeStr)
  | none => return dateMicros

/-! ### Intervals -/

/-- The nanoseconds of an hour. -/
def nanosPerHour : SInt 64 := 3600000000000

/-- The nanoseconds of a minute. -/
def nanosPerMinute : SInt 64 := 60000000000

/-- Reads the seconds of an interval as nanoseconds. -/
def parseIntervalSecondsToNanos (secondsText : List Char) : Exec String (SInt 64) := do
  let parts := secondsText.splitOn '.'
  let whole := parts.headI
  let outOfRange := s!"Interval seconds out of range: {str secondsText}"
  let seconds ← orFail s!"Invalid seconds: {str whole}" (parseSigned? 64 whole)
  let wholeNanos ← orFail outOfRange (checkedMul seconds 1000000000)
  let fraction : SInt 64 ← match parts[1]? with
    | some f => fractionalSecondsToUnits f 9
    | none => .ok 0
  orFail outOfRange (checkedAdd wholeNanos fraction)

/-- Reads the time of an interval as nanoseconds; a text without a colon is no
time. -/
def parseIntervalTimeToNanos (timeText : List Char) : Exec String (SInt 64) :=
  let outOfRange := s!"Interval time out of range: {str timeText}"
  match timeText.splitOn ':' with
  | h :: m :: rest => do
    let hours ← orFail s!"Invalid hours: {str h}" (parseSigned? 64 h)
    let minutes ← orFail s!"Invalid minutes: {str m}" (parseSigned? 64 m)
    let nanos ← orFail outOfRange ((checkedMul hours nanosPerHour).bind fun a =>
      (checkedMul minutes nanosPerMinute).bind fun b => checkedAdd a b)
    match rest.head? with
    | some seconds => do
      orFail outOfRange (checkedAdd nanos (← parseIntervalSecondsToNanos seconds))
    | none => return nanos
  | _ => .ok 0

/-- Reads days and a time. -/
def parseIntervalDaysAndNanos (body : List Char) : Exec String (SInt 32 × SInt 64) := do
  let segments := body.splitOn ' '
  let daysText := segments.headI
  let days ← orFail s!"Invalid days: {str daysText}" (parseSigned? 32 daysText)
  let nanos : SInt 64 ← match segments[1]? with
    | some timeText => parseIntervalTimeToNanos timeText
    | none => .ok 0
  return (days, nanos)

/-- Reads years and months as months. -/
def parseIntervalMonths (body text : List Char) : Exec String (SInt 64) :=
  match body.splitOn '-' with
  | [y, m] => do
    let years ← orFail s!"Invalid years: {str y}" (parseSigned? 64 y)
    let months ← orFail s!"Invalid months: {str m}" (parseSigned? 64 m)
    orFail s!"Interval month count out of range: {str text}"
      ((checkedMul years 12).bind fun total => checkedAdd total months)
  | _ => fail s!"Invalid interval format: {str text}"

/-- Reads an interval: years and months, or days and a time, after an optional
sign that applies to every component. -/
def parseInterval (text : List Char) : Exec String IntervalMonthDayNano := do
  let (negative, body) := match text with
    | '-' :: body => (true, body)
    | '+' :: body => (false, body)
    | _ => (false, text)
  if '-' ∈ body then
    let months ← parseIntervalMonths body text
    let signed ← if negative then neg ov months else .ok months
    let months ← orFail s!"Interval month count out of range: {str text}"
      (SInt.ofInt? 32 signed.val)
    return ⟨months, 0, 0⟩
  else
    let (days, nanoseconds) ← parseIntervalDaysAndNanos body
    if negative then return ⟨0, ← neg ov days, ← neg ov nanoseconds⟩
    else return ⟨0, days, nanoseconds⟩

/-! ### Decimals -/

/-- The texts before and after the point of a decimal text, which has at most one
point. -/
def decimalParts {ε : Type} (e : ε) (s : List Char) : Exec ε (List Char × List Char) :=
  match s.splitOn '.' with
  | [i] => .ok (i, [])
  | [i, f] => .ok (i, f)
  | _ => fail e

/-- Reads a decimal text as an integer scaled by ten to the scale; digits beyond
the scale are cut. -/
def parseDecimalToI128 (valueStr : List Char) (scale : SInt 8) : Exec String (SInt 128) := do
  let overflow := s!"Numeric overflow for value: {str valueStr}"
  let scaleSize := (scale.val % 2 ^ 64).toNat
  let (integerPart, decimalPart) ←
    decimalParts s!"Invalid decimal format: {str valueStr}" valueStr
  let integer ← orFail s!"Invalid integer part: {str integerPart}" (parseSigned? 128 integerPart)
  let result ← orFail overflow
    (checkedMul integer (← pow10 ov (scale.val % 2 ^ 32).toNat))
  if decimalPart = [] then return result
  else
    let decimalDigits := min (Text.byteLen decimalPart) scaleSize
    match Text.takeBytes? decimalDigits decimalPart with
    | none => stop
    | some digits =>
      let decimalValue ← orFail s!"Invalid decimal part: {str decimalPart}"
        (parseSigned? 128 digits)
      let scaled ← mul ov decimalValue
        (← pow10 ov ((scaleSize - decimalDigits) % 2 ^ 32))
      if integerPart.head? = some '-' then orFail overflow (checkedSub result scaled)
      else orFail overflow (checkedAdd result scaled)

end Calendar

/-! ### The day count is right -/

section DayCount

variable {ε : Type} {ov : Overflow}

/-- The formula for the days before a year, counted from 1970. -/
theorem daysFromYear_eq (y : ℤ) :
    (y - 1970) * 365 + (y - 1969) / 4 - (y - 1901) / 100 + (y - 1601) / 400 =
      daysBeforeYear y - 719162 := by
  unfold daysBeforeYear
  omega

/-- The table of the days before a month, with the leap day added after February. -/
theorem daysFromMonth_eq : ∀ leap : Bool, ∀ m < 13, 1 ≤ m →
    (daysFromMonth m).val + (leapAdjustment m leap).val = daysBeforeMonth leap m ∧
      0 ≤ (leapAdjustment m leap).val ∧ (leapAdjustment m leap).val ≤ 1 := by
  decide

/-- The number of a date, in the terms of the formula. -/
theorem dayNumber_eq (d : Date) : d.dayNumber =
    (d.year - 1970) * 365 + (d.year - 1969) / 4 - (d.year - 1901) / 100 + (d.year - 1601) / 400 +
      daysBeforeMonth (isLeap d.year) d.month + d.day - 1 := by
  have hd := d.day_mem
  rw [daysFromYear_eq]
  unfold Date.dayNumber Date.dayOfYear
  omega

theorem isLeap_eq (y : ℤ) :
    ((y % 4 = 0 && y % 100 ≠ 0) || y % 400 = 0 : Bool) = isLeap y := by
  unfold isLeap
  by_cases h4 : y % 4 = 0 <;> by_cases h100 : y % 100 = 0 <;> by_cases h400 : y % 400 = 0 <;>
    simp [h4, h100, h400] <;> omega

theorem daysFromMonth_le (month : ℕ) :
    0 ≤ (daysFromMonth month).val ∧ (daysFromMonth month).val ≤ 334 := by
  unfold daysFromMonth
  split <;> decide

theorem leapAdjustment_le (month : ℕ) (leap : Bool) :
    0 ≤ (leapAdjustment month leap).val ∧ (leapAdjustment month leap).val ≤ 1 := by
  unfold leapAdjustment
  split <;> decide

/-- The days before a year are summed up without leaving 32 bits, and leave room for those of
a year. -/
theorem daysFromYear_bounds {y : ℤ} (h1 : -2 ^ 21 ≤ y) (h2 : y ≤ 5881459) :
    (-2 ^ 31 ≤ (y - 1970) * 365 + (y - 1969) / 4 ∧ (y - 1970) * 365 + (y - 1969) / 4 < 2 ^ 31) ∧
      (-2 ^ 31 ≤ (y - 1970) * 365 + (y - 1969) / 4 - (y - 1901) / 100 ∧
        (y - 1970) * 365 + (y - 1969) / 4 - (y - 1901) / 100 < 2 ^ 31) ∧
      -2 ^ 30 ≤ (y - 1970) * 365 + (y - 1969) / 4 - (y - 1901) / 100 + (y - 1601) / 400 ∧
        (y - 1970) * 365 + (y - 1969) / 4 - (y - 1901) / 100 + (y - 1601) / 400 <
          2 ^ 31 - 1024 := by
  omega

/-- The formula is computed without leaving 32 bits. The bound on the year keeps every
operation within them, whatever the month is. -/
theorem ymdToDays_formula {year : SInt 32} {y : ℤ} (hy : year.val = y) (h1 : -2 ^ 21 ≤ y)
    (h2 : y ≤ 5881459) (month : ℕ) {day : ℕ} (hd : day < 256) :
    Yields (ymdToDays ov year month day : Exec ε (SInt 32))
      ((y - 1970) * 365 + (y - 1969) / 4 - (y - 1901) / 100 + (y - 1601) / 400 +
        (daysFromMonth month).val + day - 1 + (leapAdjustment month (isLeap y)).val) := by
  have hday : (SInt.wrap 32 SInt.pos_32 day).val = day :=
    SInt.val_wrap_of_mem (by norm_num) (by omega) (by omega)
  obtain ⟨hM0, hM1⟩ := daysFromMonth_le month
  obtain ⟨hL0, hL1⟩ := leapAdjustment_le month (isLeap y)
  unfold ymdToDays
  simp only [hy, isLeap_eq]
  generalize daysFromMonth month = M at *
  generalize leapAdjustment month (isLeap y) = L at *
  have lit (n : ℕ) (hn : n < 2 ^ 31) : (OfNat.ofNat n : SInt 32).val = n :=
    val_ofNat (by exact_mod_cast hn)
  refine (yields_sub hy (lit 1970 (by norm_num)) (by omega) (by omega)).bind fun x hx => ?_
  refine (yields_mul hx (lit 365 (by norm_num)) (by omega) (by omega)).bind fun a ha => ?_
  refine (yields_sub hy (lit 1969 (by norm_num)) (by omega) (by omega)).bind fun b hb => ?_
  refine (yields_sub hy (lit 1901 (by norm_num)) (by omega) (by omega)).bind fun c hc => ?_
  refine (yields_sub hy (lit 1601 (by norm_num)) (by omega) (by omega)).bind fun e he => ?_
  have hb4 : (b.divEuclid 4).val = (y - 1969) / 4 := by rw [SInt.val_divEuclid, hb]; rfl
  have hc100 : (c.divEuclid 100).val = (y - 1901) / 100 := by rw [SInt.val_divEuclid, hc]; rfl
  have he400 : (e.divEuclid 400).val = (y - 1601) / 400 := by rw [SInt.val_divEuclid, he]; rfl
  obtain ⟨hs1, hs2, hs3⟩ := daysFromYear_bounds h1 h2
  refine (yields_add ha hb4 hs1.1 hs1.2).bind fun s1 h1' => ?_
  refine (yields_sub h1' hc100 hs2.1 hs2.2).bind fun s2 h2' => ?_
  refine (yields_add h2' he400 (by omega) (by omega)).bind fun s3 h3' => ?_
  -- The days before the year are a number from here on.
  clear hx ha hb hc he hb4 hc100 he400 h1' h2' hs1 hs2 hy h1 h2
  generalize (y - 1970) * 365 + (y - 1969) / 4 - (y - 1901) / 100 + (y - 1601) / 400 = days
    at h3' hs3 ⊢
  refine (yields_add h3' rfl (by omega) (by omega)).bind fun s4 h4' => ?_
  refine (yields_add h4' hday (by omega) (by omega)).bind fun s5 h5' => ?_
  refine (yields_sub h5' (lit 1 (by norm_num)) (by omega) (by omega)).bind fun s6 h6' => ?_
  have hlast : Yields (add ov s6 L : Exec ε (SInt 32)) (_ + L.val) :=
    yields_add h6' rfl (by omega) (by omega)
  refine cast (congrArg (Yields (add ov s6 L)) ?_) hlast
  push_cast
  ring

/-- **The day count of a date of the calendar** is its number. -/
theorem ymdToDays_yields (d : Date) {year : SInt 32} (hy : year.val = d.year)
    (h1 : -2 ^ 21 ≤ d.year) (h2 : d.year < 2 ^ 21) :
    Yields (ymdToDays ov year d.month d.day : Exec ε (SInt 32)) d.dayNumber := by
  have hm := d.month_mem
  have hd31 : d.day ≤ 31 := le_trans d.day_mem.2 (daysInMonth_le ..)
  obtain ⟨hmonth, -, -⟩ := daysFromMonth_eq (isLeap d.year) d.month (by omega) hm.1
  have hformula : Yields (ymdToDays ov year d.month d.day : Exec ε (SInt 32)) _ :=
    ymdToDays_formula hy h1 (by omega) d.month (by omega)
  refine cast (congrArg (Yields _) ?_) hformula
  rw [dayNumber_eq, ← hmonth]
  ring

/-- A time of day that a timestamp can carry. -/
structure TimeOfDay where
  /-- The hour. -/
  hour : ℕ
  /-- The minute. -/
  minute : ℕ
  /-- The second. -/
  second : ℕ
  /-- The nanoseconds of the second. -/
  nanos : ℕ
  /-- The fields are in their ranges. -/
  valid : hour < 24 ∧ minute < 60 ∧ second < 60 ∧ nanos < 10 ^ 9
  deriving DecidableEq

/-- The microseconds since midnight, the nanoseconds below them cut off. -/
def TimeOfDay.micros (t : TimeOfDay) : ℤ :=
  ((t.hour * 3600 + t.minute * 60 + t.second : ℕ) : ℤ) * 1000000 + (t.nanos / 1000 : ℕ)

/-- The microseconds are counted without leaving 64 bits, whatever the fields of the time
are. -/
theorem ymdHmsNanosToMicros_formula {year nanos : SInt 32} {month day hour minute second : ℕ}
    {D : ℤ} (hD : Yields (ymdToDays ov year month day : Exec ε (SInt 32)) D)
    (h1 : -2 ^ 25 ≤ D) (h2 : D < 2 ^ 25) (hh : hour < 256) (hmi : minute < 256)
    (hs : second < 256) :
    Yields (ymdHmsNanosToMicros ov year month day hour minute second nanos : Exec ε (SInt 64))
      (D * 86400000000 + hour * 3600000000 + minute * 60000000 + second * 1000000 +
        nanos.val.tdiv 1000) := by
  have lit (n : ℕ) (hn : n < 2 ^ 63) : (OfNat.ofNat n : SInt 64).val = n :=
    val_ofNat (by exact_mod_cast hn)
  have i64 (n : ℕ) (hn : n < 2 ^ 63) : (SInt.wrap 64 SInt.pos_64 n).val = n :=
    SInt.val_wrap_of_mem (by norm_num) (by omega) (by exact_mod_cast hn)
  have hn1 : -2 ^ 31 ≤ nanos.val.tdiv 1000 := (nanos.divTrunc 1000).ge
  have hn2 : nanos.val.tdiv 1000 < 2 ^ 31 := (nanos.divTrunc 1000).lt
  unfold ymdHmsNanosToMicros
  refine hD.bind fun d hd => ?_
  have hd' : (d.extend 64 SInt.le_32_64).val = D := hd
  simp only
  refine (yields_mul hd' (lit 86400 (by norm_num)) (by omega) (by omega)).bind fun a1 e1 => ?_
  refine (yields_mul e1 (lit 1000000 (by norm_num)) (by omega) (by omega)).bind fun a2 e2 => ?_
  refine (yields_mul (i64 hour (by omega)) (lit 3600 (by norm_num)) (by omega)
    (by omega)).bind fun a3 e3 => ?_
  refine (yields_mul e3 (lit 1000000 (by norm_num)) (by omega) (by omega)).bind fun a4 e4 => ?_
  refine (yields_add e2 e4 (by omega) (by omega)).bind fun a5 e5 => ?_
  refine (yields_mul (i64 minute (by omega)) (lit 60 (by norm_num)) (by omega)
    (by omega)).bind fun a6 e6 => ?_
  refine (yields_mul e6 (lit 1000000 (by norm_num)) (by omega) (by omega)).bind fun a7 e7 => ?_
  refine (yields_add e5 e7 (by omega) (by omega)).bind fun a8 e8 => ?_
  refine (yields_mul (i64 second (by omega)) (lit 1000000 (by norm_num)) (by omega)
    (by omega)).bind fun a9 e9 => ?_
  refine (yields_add e8 e9 (by omega) (by omega)).bind fun a10 e10 => ?_
  have hnv : ((nanos.extend 64 SInt.le_32_64).divTrunc 1000).val = nanos.val.tdiv 1000 := rfl
  have hlast : Yields (add ov a10 _ : Exec ε (SInt 64)) (_ + _) :=
    yields_add e10 hnv (by omega) (by omega)
  refine cast (congrArg (Yields _) ?_) hlast
  push_cast
  ring

/-- **The microseconds of a decoded timestamp** are those of its day and its time
of day. -/
theorem ymdHmsNanosToMicros_yields (d : Date) (t : TimeOfDay) {year nanos : SInt 32}
    (hy : year.val = d.year) (hn : nanos.val = t.nanos) (h1 : -2 ^ 16 ≤ d.year)
    (h2 : d.year < 2 ^ 16) :
    Yields (ymdHmsNanosToMicros ov year d.month d.day t.hour t.minute t.second nanos :
      Exec ε (SInt 64)) (d.dayNumber * 86400000000 + t.micros) := by
  obtain ⟨hh, hmi, hs, -⟩ := t.valid
  have hbound := daysBeforeMonth_le (isLeap d.year) d.month (by have := d.month_mem; omega)
  have hd31 : d.day ≤ 31 := le_trans d.day_mem.2 (daysInMonth_le ..)
  have hnum := dayNumber_eq d
  have hdays : Yields (ymdToDays ov year d.month d.day : Exec ε (SInt 32)) d.dayNumber :=
    ymdToDays_yields d hy (by omega) (by omega)
  have hformula : Yields (ymdHmsNanosToMicros ov year d.month d.day t.hour t.minute t.second nanos :
      Exec ε (SInt 64)) _ :=
    ymdHmsNanosToMicros_formula hdays (by omega) (by omega) (by omega) (by omega) (by omega)
  refine cast (congrArg (Yields _) ?_) hformula
  have htdiv : nanos.val.tdiv 1000 = (t.nanos / 1000 : ℕ) := by
    rw [hn]
    rfl
  rw [htdiv]
  unfold TimeOfDay.micros
  push_cast
  ring

end DayCount

end Exarrow
