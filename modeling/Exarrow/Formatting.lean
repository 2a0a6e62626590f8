import Exarrow.Conversion

/-!
# Formatting of dates and timestamps

The texts in which the driver sends dates and timestamps. The calendar behind
them is that of a library, of which `Exarrow.Chrono` states what it documents:
which date a day number has, and which date and time an instant has.

What a text denotes is defined on its own: `Exarrow.readDate?` reads a date and
`Exarrow.readInstant?` an instant, both strictly. **What is written denotes what
was given**: `Exarrow.readDate?_of_formatDate32` and
`Exarrow.readInstant?_of_formatTimestamp`, the latter for every unit, with the
instant floored to the microsecond. Both fail outside the years 1 to 9999 and
nowhere else that a date of the calendar is concerned
(`Exarrow.formatDate32_isOk`).
-/

namespace Exarrow

open Machine Checked Calendar Arrow Numeral

/-- The number of microseconds of a day. -/
def microsPerDay : ℤ := 86400000000

/-- The calendar functions of the date library. -/
structure Chrono where
  /-- The date with the given number of days, the first day of the year 1 being
  day 1; none outside the years the library knows. -/
  fromNumDaysFromCe : SInt 32 → Option Date
  /-- The date has that number. -/
  fromNumDaysFromCe_iff : ∀ n d, fromNumDaysFromCe n = some d ↔
    d.dayNumber + 719163 = n.val ∧ -262143 ≤ d.year ∧ d.year ≤ 262142
  /-- The date and the microseconds since midnight of an instant given in
  microseconds since the epoch. -/
  fromTimestampMicros : SInt 64 → Option (Date × ℕ)
  /-- They make up the instant. -/
  fromTimestampMicros_iff : ∀ n d t, fromTimestampMicros n = some (d, t) ↔
    d.dayNumber * microsPerDay + t = n.val ∧ t < microsPerDay ∧
      -262143 ≤ d.year ∧ d.year ≤ 262142

/-- The years that the date library has. -/
def InChronoYears (d : Date) : Prop := -262143 ≤ d.year ∧ d.year ≤ 262142

instance : DecidablePred InChronoYears := fun _ => inferInstanceAs (Decidable (_ ∧ _))

theorem some_filter_iff {d e : Date} :
    (some d).filter (InChronoYears ·) = some e ↔ d = e ∧ InChronoYears e := by
  rw [Option.filter_eq_some_iff, Option.some.injEq, decide_eq_true_iff]

/-- The calendar functions, computed. -/
def Chrono.proleptic : Chrono where
  fromNumDaysFromCe n := (some (ofDayNumber (n.val - 719163))).filter (InChronoYears ·)
  fromNumDaysFromCe_iff n d := by
    rw [some_filter_iff]
    constructor
    · rintro ⟨rfl, hy⟩
      exact ⟨by rw [dayNumber_ofDayNumber]; omega, hy⟩
    · rintro ⟨hd, hy⟩
      exact ⟨by rw [← hd, add_sub_cancel_right, ofDayNumber_dayNumber], hy⟩
  fromTimestampMicros n := ((some (ofDayNumber (n.val / microsPerDay))).filter
    (InChronoYears ·)).map fun d => (d, (n.val % microsPerDay).toNat)
  fromTimestampMicros_iff n d t := by
    simp only [Option.map_eq_some_iff, some_filter_iff, Prod.mk.injEq]
    unfold microsPerDay
    constructor
    · rintro ⟨e, ⟨rfl, hy⟩, rfl, rfl⟩
      refine ⟨?_, by omega, hy⟩
      rw [dayNumber_ofDayNumber]
      omega
    · rintro ⟨hn, ht, hy⟩
      have hdiv : n.val / 86400000000 = d.dayNumber := by omega
      have hmod : (n.val % 86400000000).toNat = t := by omega
      exact ⟨d, ⟨by rw [hdiv, ofDayNumber_dayNumber], hy⟩, rfl, hmod⟩

/-- The years that Exasol has. -/
def InExasolYears (d : Date) : Prop := 1 ≤ d.year ∧ d.year ≤ 9999

instance : DecidablePred InExasolYears := fun _ => inferInstanceAs (Decidable (_ ∧ _))

/-! ### Writing -/

/-- A date written as `YYYY-MM-DD`. -/
def dateText (d : Date) : List Char :=
  pad 4 (natText d.year.toNat) ++ '-' :: (pad 2 (natText d.month) ++ '-' :: pad 2 (natText d.day))

/-- A time of day in microseconds, written as `HH:MM:SS.ffffff`. -/
def timeText (t : ℕ) : List Char :=
  pad 2 (natText (t / 3600000000)) ++ ':' :: (pad 2 (natText (t / 60000000 % 60)) ++
    ':' :: (pad 2 (natText (t / 1000000 % 60)) ++ '.' :: pad 6 (natText (t % 1000000))))

section Formatting

variable (chrono : Chrono)

/-- A day count since 1970-01-01 as `YYYY-MM-DD`; fails outside the years 1 to
9999. -/
def formatDate32 (days : SInt 32) : Except String (List Char) :=
  match ((checkedAdd days 719163).bind chrono.fromNumDaysFromCe).filter (InExasolYears ·) with
  | some date => .ok (dateText date)
  | none => .error (s!"Date32 value {days.val} is outside 0001-01-01 to 9999-12-31, " ++
      "the range Exasol accepts")

/-- Microseconds since the epoch as `YYYY-MM-DD HH:MM:SS.ffffff`; fails outside
the years 1 to 9999. -/
def formatTimestampMicros (micros : SInt 64) : Except String (List Char) :=
  match (chrono.fromTimestampMicros micros).filter (InExasolYears ·.1) with
  | some (date, time) => .ok (dateText date ++ ' ' :: timeText time)
  | none => .error (s!"Timestamp value {micros.val} microseconds is outside " ++
      "0001-01-01 00:00:00 to 9999-12-31 23:59:59.999999, the range Exasol accepts")

/-- The name of a unit in messages. -/
def TimeUnit.debugText : TimeUnit → String
  | .second => "Second"
  | .millisecond => "Millisecond"
  | .microsecond => "Microsecond"
  | .nanosecond => "Nanosecond"

/-- A value of a unit in whole microseconds; nanoseconds are floored. -/
def timestampUnitToMicros (unit : TimeUnit) (value : SInt 64) : Except String (SInt 64) :=
  let micros := match unit with
    | .second => checkedMul value 1000000
    | .millisecond => checkedMul value 1000
    | .microsecond => some value
    | .nanosecond => some (value.divEuclid 1000)
  match micros with
  | some m => .ok m
  | none => .error (s!"Timestamp value {value.val} in unit {TimeUnit.debugText unit} overflows " ++
      "when converted to microseconds")

/-- A value of a unit as `YYYY-MM-DD HH:MM:SS.ffffff`. -/
def formatTimestamp (unit : TimeUnit) (value : SInt 64) : Except String (List Char) :=
  match timestampUnitToMicros unit value with
  | .error e => .error e
  | .ok micros =>
    match formatTimestampMicros chrono micros with
    | .ok text => .ok text
    | .error _ =>
      .error (s!"Timestamp value {value.val} in unit {TimeUnit.debugText unit} is outside " ++
        "0001-01-01 00:00:00 to 9999-12-31 23:59:59.999999, the range Exasol accepts")

end Formatting

/-! ### What a text denotes -/

/-- The date of three numbers, if there is one. -/
def mkDate? (y : ℤ) (m d : ℕ) : Option Date :=
  if h : (1 ≤ m ∧ m ≤ 12) ∧ 1 ≤ d ∧ d ≤ daysInMonth (isLeap y) m then some ⟨y, m, d, h.1, h.2⟩
  else none

/-- The date that a text of the form `YYYY-MM-DD` denotes. -/
def readDate? (s : List Char) : Option Date :=
  match s.splitOn '-' with
  | [y, m, d] => do mkDate? (← parseNat? y) (← parseNat? m) (← parseNat? d)
  | _ => none

/-- The microseconds that a text of the form `HH:MM:SS.ffffff` denotes. -/
def readTime? (s : List Char) : Option ℕ :=
  match s.splitOn ':' with
  | [h, m, r] =>
    match r.splitOn '.' with
    | [s, f] => do
      let h ← parseNat? h
      let m ← parseNat? m
      let s ← parseNat? s
      let k ← parseNat? f
      if f.length = 6 ∧ h < 24 ∧ m < 60 ∧ s < 60 then
        some (((h * 60 + m) * 60 + s) * 1000000 + k)
      else none
    | _ => none
  | _ => none

/-- The instant, in microseconds since the epoch, that a text of a date and a
time denotes. -/
def readInstant? (s : List Char) : Option ℤ :=
  match s.splitOn ' ' with
  | [d, t] => do return (← readDate? d).dayNumber * microsPerDay + (← readTime? t)
  | _ => none

@[simp] theorem mkDate?_self (d : Date) : mkDate? d.year d.month d.day = some d :=
  dif_pos ⟨d.month_mem, d.day_mem⟩

/-- **A written date is read back.** -/
theorem readDate?_dateText {d : Date} (hd : InExasolYears d) : readDate? (dateText d) = some d := by
  have hy : ((d.year.toNat : ℕ) : ℤ) = d.year := by
    have := hd.1
    omega
  unfold readDate? dateText
  rw [splitOn_cons rfl (allDigits_padded _ _), splitOn_cons rfl (allDigits_padded _ _),
    splitOn_digits rfl (allDigits_padded _ _)]
  simp only [parseNat?_pad, Option.bind_eq_bind, Option.bind_some]
  rw [hy, mkDate?_self]

/-- The fields of a time of day make it up again. -/
theorem sum_timeFields (t : ℕ) : ((t / 3600000000 * 60 + t / 60000000 % 60) * 60 +
    t / 1000000 % 60) * 1000000 + t % 1000000 = t := by
  -- The three quotients are those of one division after the other.
  have hq1 : t / 60000000 = t / 1000000 / 60 := by rw [Nat.div_div_eq_div_mul]
  have hq2 : t / 3600000000 = t / 1000000 / 60 / 60 := by
    rw [Nat.div_div_eq_div_mul, Nat.div_div_eq_div_mul]
  have h0 := Nat.div_add_mod t 1000000
  have h1 := Nat.div_add_mod (t / 1000000) 60
  rw [hq1, hq2]
  generalize t % 1000000 = k at *
  generalize t / 1000000 = q at *
  generalize q % 60 = s at *
  generalize q / 60 = p at *
  omega

/-- The seconds of a time hold no colon. -/
theorem colon_not_mem_seconds (t : ℕ) :
    ':' ∉ pad 2 (natText (t / 1000000 % 60)) ++ '.' :: pad 6 (natText (t % 1000000)) := by
  rw [List.mem_append, List.mem_cons]
  rintro (h | h | h)
  · exact (allDigits_padded _ _).ne rfl h
  · exact absurd h (by decide)
  · exact (allDigits_padded _ _).ne rfl h

/-- **A written time of day is read back.** -/
theorem readTime?_timeText {t : ℕ} (ht : t < 86400000000) : readTime? (timeText t) = some t := by
  have hf : (pad 6 (natText (t % 1000000))).length = 6 :=
    length_pad (length_natText_le (by norm_num) (by omega))
  unfold readTime? timeText
  rw [splitOn_cons rfl (allDigits_padded _ _), splitOn_cons rfl (allDigits_padded _ _),
    List.splitOn_eq_singleton (colon_not_mem_seconds t)]
  simp only
  rw [splitOn_cons rfl (allDigits_padded _ _), splitOn_digits rfl (allDigits_padded _ _)]
  simp only [parseNat?_pad, Option.bind_eq_bind, Option.bind_some]
  rw [if_pos ⟨hf, by omega, by omega, Nat.mod_lt _ (by norm_num)⟩, sum_timeFields]

theorem blank_not_mem_dateText (d : Date) : ' ' ∉ dateText d := by
  unfold dateText
  rw [List.mem_append, List.mem_cons, List.mem_append, List.mem_cons]
  rintro (h | h | h | h | h)
  · exact (allDigits_padded _ _).ne rfl h
  · exact absurd h (by decide)
  · exact (allDigits_padded _ _).ne rfl h
  · exact absurd h (by decide)
  · exact (allDigits_padded _ _).ne rfl h

theorem blank_not_mem_timeText (t : ℕ) : ' ' ∉ timeText t := by
  unfold timeText
  rw [List.mem_append, List.mem_cons, List.mem_append, List.mem_cons, List.mem_append,
    List.mem_cons]
  rintro (h | h | h | h | h | h | h)
  · exact (allDigits_padded _ _).ne rfl h
  · exact absurd h (by decide)
  · exact (allDigits_padded _ _).ne rfl h
  · exact absurd h (by decide)
  · exact (allDigits_padded _ _).ne rfl h
  · exact absurd h (by decide)
  · exact (allDigits_padded _ _).ne rfl h

/-- **A written instant is read back.** -/
theorem readInstant?_text {d : Date} {t : ℕ} (hd : InExasolYears d) (ht : t < 86400000000) :
    readInstant? (dateText d ++ ' ' :: timeText t) = some (d.dayNumber * microsPerDay + t) := by
  unfold readInstant?
  rw [List.splitOn_append_cons_self_of_not_mem (blank_not_mem_dateText d),
    List.splitOn_eq_singleton (blank_not_mem_timeText t)]
  simp only [readDate?_dateText hd, readTime?_timeText ht, Option.bind_eq_bind, Option.bind_some]
  rfl

/-! ### What is written denotes what was given -/

section Correctness

variable {chrono : Chrono}

/-- A day that is written has a date of the years 1 to 9999. -/
theorem exists_of_formatDate32 {days : SInt 32} {text : List Char}
    (h : formatDate32 chrono days = .ok text) :
    ∃ d, InExasolYears d ∧ d.dayNumber = days.val ∧ text = dateText d := by
  unfold formatDate32 at h
  split at h
  · rename_i d hdate
    cases h
    obtain ⟨hb, hyears⟩ := Option.filter_eq_some_iff.mp hdate
    obtain ⟨n, hn, hd⟩ := Option.bind_eq_some_iff.mp hb
    have hval : n.val = days.val + 719163 := by
      have h1 := SInt.ofInt?_eq_some.mp hn
      rw [h1, val_ofNat (w := 32) (n := 719163) (by norm_num)]
      rfl
    have hday := ((chrono.fromNumDaysFromCe_iff n d).mp hd).1
    exact ⟨d, of_decide_eq_true hyears, by omega, rfl⟩
  · cases h

/-- **The text of a date denotes the day.** -/
theorem readDate?_of_formatDate32 {days : SInt 32} {s : List Char}
    (h : formatDate32 chrono days = .ok s) :
    ∃ d, readDate? s = some d ∧ d.dayNumber = days.val := by
  obtain ⟨d, hd, hday, rfl⟩ := exists_of_formatDate32 h
  exact ⟨d, readDate?_dateText hd, hday⟩

/-- A day of the years 1 to 9999 is written. -/
theorem formatDate32_isOk {d : Date} (hd : InExasolYears d) {days : SInt 32}
    (h : days.val = d.dayNumber) : formatDate32 chrono days = .ok (dateText d) := by
  have hm := d.month_mem
  have hbound := daysBeforeMonth_le (isLeap d.year) d.month (by omega)
  have hd31 : d.day ≤ 31 := le_trans d.day_mem.2 (daysInMonth_le ..)
  have hnum := dayNumber_eq d
  obtain ⟨hy1, hy2⟩ := hd
  obtain ⟨n, hn⟩ : ∃ n, checkedAdd days 719163 = some n := by
    unfold checkedAdd
    rw [val_ofNat (w := 32) (n := 719163) (by norm_num)]
    cases hc : SInt.ofInt? 32 (days.val + (719163 : ℕ)) with
    | some n => exact ⟨n, rfl⟩
    | none =>
      have := SInt.ofInt?_eq_none.mp hc
      omega
  have hval : n.val = days.val + 719163 := by
    have h1 := SInt.ofInt?_eq_some.mp hn
    rw [h1, val_ofNat (w := 32) (n := 719163) (by norm_num)]
    rfl
  have hdate : chrono.fromNumDaysFromCe n = some d :=
    (chrono.fromNumDaysFromCe_iff n d).mpr ⟨by omega, by omega, by omega⟩
  have hin : decide (InExasolYears d) = true := decide_eq_true ⟨hy1, hy2⟩
  unfold formatDate32
  rw [hn, Option.bind_some, hdate, Option.filter_some, if_pos hin]

/-- An instant that is written has a date of the years 1 to 9999 and a time of day. -/
theorem exists_of_formatTimestampMicros {micros : SInt 64} {text : List Char}
    (h : formatTimestampMicros chrono micros = .ok text) :
    ∃ d t, InExasolYears d ∧ t < 86400000000 ∧
      d.dayNumber * 86400000000 + (t : ℕ) = micros.val ∧ text = dateText d ++ ' ' :: timeText t := by
  unfold formatTimestampMicros at h
  split at h
  · rename_i d t hdate
    obtain ⟨hsome, hyears⟩ := Option.filter_eq_some_iff.mp hdate
    obtain ⟨hval, ht, -⟩ := (chrono.fromTimestampMicros_iff micros d t).mp hsome
    unfold microsPerDay at hval ht
    cases h
    exact ⟨d, t, of_decide_eq_true hyears, by omega, hval, rfl⟩
  · cases h

/-- **The text of an instant in microseconds denotes the instant.** -/
theorem readInstant?_of_formatTimestampMicros {micros : SInt 64} {s : List Char}
    (h : formatTimestampMicros chrono micros = .ok s) : readInstant? s = some micros.val := by
  obtain ⟨d, t, hd, ht, hval, rfl⟩ := exists_of_formatTimestampMicros h
  rw [readInstant?_text hd ht]
  exact congrArg some hval

/-- How many values of a unit make a microsecond, or how many microseconds make a
value: the instant of a value, in microseconds, floored. -/
def instantMicros (unit : TimeUnit) (value : ℤ) : ℤ :=
  match unit with
  | .second => value * 1000000
  | .millisecond => value * 1000
  | .microsecond => value
  | .nanosecond => value / 1000

/-- A value becomes microseconds exactly if its instant fits 64 bits. -/
theorem timestampUnitToMicros_eq_ok {unit : TimeUnit} {value micros : SInt 64} :
    timestampUnitToMicros unit value = .ok micros ↔ micros.val = instantMicros unit value.val := by
  have lit (n : ℕ) (hn : n < 2 ^ 63) : (OfNat.ofNat n : SInt 64).val = n :=
    val_ofNat (by exact_mod_cast hn)
  have hmatch (o : Option (SInt 64)) (e : String) :
      (match o with | some m => Except.ok m | none => .error e) = Except.ok micros ↔
        o = some micros := by
    cases o <;> simp
  unfold timestampUnitToMicros
  dsimp only
  rw [hmatch]
  cases unit with
  | second =>
    dsimp only
    unfold checkedMul
    rw [SInt.ofInt?_eq_some, lit 1000000 (by norm_num)]
    rfl
  | millisecond =>
    dsimp only
    unfold checkedMul
    rw [SInt.ofInt?_eq_some, lit 1000 (by norm_num)]
    rfl
  | microsecond =>
    refine ⟨?_, fun h => congrArg some (SInt.ext h.symm)⟩
    rintro ⟨⟩
    rfl
  | nanosecond =>
    refine ⟨?_, fun h => congrArg some (SInt.ext h.symm)⟩
    rintro ⟨⟩
    rfl

/-- **The text of a timestamp denotes its instant, floored to the microsecond**,
for every unit. -/
theorem readInstant?_of_formatTimestamp {unit : TimeUnit} {value : SInt 64} {s : List Char}
    (h : formatTimestamp chrono unit value = .ok s) :
    readInstant? s = some (instantMicros unit value.val) := by
  unfold formatTimestamp at h
  split at h
  · cases h
  · rename_i micros hm
    have hval := timestampUnitToMicros_eq_ok.mp hm
    split at h
    · rename_i text ht
      cases h
      rw [readInstant?_of_formatTimestampMicros ht, hval]
    · cases h

end Correctness

end Exarrow
