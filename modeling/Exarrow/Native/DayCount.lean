import Exarrow.Native.Values

/-!
# The count of days and microseconds

Dates come with years of 16 bits, of either sign. The formula that counts their days adds
up three quotients and a table of months, and a timestamp adds the units of its time. What
makes this a count is said here without the formula: the epoch has number zero, the next
day has the next number, and later is larger.

* `Exarrow.Native.CountsDays` – what a count of days is. A date may be followed by one
  whose year has more bits, which is no date of this kind.
* `Exarrow.Native.CountsMicros` – what a count of microseconds is: timestamps are ordered
  by their fields, the nanoseconds cut to whole microseconds.
* `Exarrow.Native.ymdToDays_counts` – **the formulas are such counts**, and none of their
  operations leaves its type, so that a build that checks arithmetic and one that does not
  return the same numbers.
-/

namespace Exarrow

open Machine Checked Calendar

/-- The fields of a time of day, the longest unit first, cut to whole microseconds. -/
def TimeOfDay.fields (t : TimeOfDay) : List ℤ :=
  [t.hour, t.minute, t.second, (t.nanos / 1000 : ℕ)]

/-- A time of day is less than a day. -/
theorem TimeOfDay.micros_mem (t : TimeOfDay) : 0 ≤ t.micros ∧ t.micros < 86400000000 := by
  obtain ⟨hh, hm, hs, hn⟩ := t.valid
  rw [TimeOfDay.micros]
  omega

/-- **An earlier time has fewer microseconds.** -/
theorem TimeOfDay.micros_lt {s t : TimeOfDay} (h : s.fields < t.fields) : s.micros < t.micros := by
  obtain ⟨hh, hm, hs, hn⟩ := s.valid
  obtain ⟨hh', hm', hs', hn'⟩ := t.valid
  simp only [TimeOfDay.fields, List.cons_lt_cons_iff, List.not_lt_nil, and_false, or_false,
    Nat.cast_lt, Nat.cast_inj] at h
  rw [TimeOfDay.micros, TimeOfDay.micros]
  -- The first field that differs outweighs all fields behind it.
  rcases h with hhour | ⟨hhour, hminute | ⟨hminute, hsecond | ⟨hsecond, hmicro⟩⟩⟩ <;> omega

/-- Lists that begin with lists of one length are ordered by what they begin with first. -/
theorem lt_or_eq_of_append_lt {a b s t : List ℤ} (hlen : a.length = b.length)
    (h : a ++ s < b ++ t) : a < b ∨ a = b ∧ s < t := by
  induction a generalizing b with
  | nil =>
    obtain rfl := List.eq_nil_of_length_eq_zero hlen.symm
    exact .inr ⟨rfl, h⟩
  | cons x a ih =>
    obtain ⟨y, b, rfl⟩ := List.exists_cons_of_length_eq_add_one hlen.symm
    rw [List.cons_append, List.cons_append, List.cons_lt_cons_iff] at h
    rcases h with hlt | ⟨rfl, htail⟩
    · exact .inl (List.cons_lt_cons_iff.mpr (.inl hlt))
    · rcases ih (Nat.succ.inj hlen) htail with hlt | ⟨rfl, hlt⟩
      · exact .inl (List.cons_lt_cons_iff.mpr (.inr ⟨rfl, hlt⟩))
      · exact .inr ⟨rfl, hlt⟩

/-- A date has the fields of no other. -/
theorem eq_of_fields_eq {a b : Date} (h : a.fields = b.fields) : a = b := by
  simp only [Date.fields, List.cons.injEq, Nat.cast_inj, and_true] at h
  exact Date.ext h.1 h.2.1 h.2.2

/-- Days and times of day are ordered by the day first. -/
theorem dayNumber_micros_lt {a b : Date} {s t : TimeOfDay}
    (h : a.fields ++ s.fields < b.fields ++ t.fields) :
    a.dayNumber * 86400000000 + s.micros < b.dayNumber * 86400000000 + t.micros := by
  have hs := s.micros_mem
  have ht := t.micros_mem
  have hlen : a.fields.length = b.fields.length := rfl
  rcases lt_or_eq_of_append_lt hlen h with hday | ⟨heq, htime⟩
  · have hnumber := dayNumber_lt hday
    omega
  · have hmicros := TimeOfDay.micros_lt htime
    rw [eq_of_fields_eq heq]
    omega

namespace Native

/-- The year of a date. -/
def WireDate.year (d : WireDate) : SInt 16 := ⟨d.date.year, d.year_mem.1, d.year_mem.2⟩

/-- A count of days of the dates whose years have 16 bits. -/
structure CountsDays (days : WireDate → SInt 32) : Prop where
  /-- It counts from the first of January 1970. -/
  epoch : ∀ d, d.date = epoch → (days d).val = 0
  /-- The next day has the next number. -/
  next : ∀ d d', d'.date = d.date.next → (days d').val = (days d).val + 1
  /-- A later date has a larger number. -/
  strictMono : ∀ d d', d.date.fields < d'.date.fields → (days d).val < (days d').val
  /-- Two dates have two numbers. -/
  injective : Function.Injective days

/-- A count of microseconds of a date and a time of day. -/
structure CountsMicros (days : WireDate → SInt 32) (micros : WireDate → TimeOfDay → SInt 64) :
    Prop where
  /-- Midnight has the number of its day. -/
  midnight : ∀ d t, t.micros = 0 → (micros d t).val = (days d).val * 86400000000
  /-- What is later by a microsecond has a larger number. -/
  strictMono : ∀ d t d' t', d.date.fields ++ t.fields < d'.date.fields ++ t'.fields →
    (micros d t).val < (micros d' t').val

/-- A count that gives every date its number is one. -/
theorem countsDays {days : WireDate → SInt 32} (h : ∀ d, (days d).val = d.date.dayNumber) :
    CountsDays days where
  epoch d hd := by rw [h, hd, dayNumber_epoch]
  next d d' hd := by rw [h, h, hd, dayNumber_next]
  strictMono d d' hlt := by
    rw [h, h]
    exact dayNumber_lt hlt
  injective d d' heq := by
    have hdate : d.date = d'.date := dayNumber_injective (by rw [← h, ← h, heq])
    cases d
    cases d'
    simpa using hdate

variable {ε : Type}

/-- **The days of dates and the microseconds of timestamps are counted**, whatever an
overflow does. -/
theorem ymdToDays_counts (ov : Overflow) :
    ∃ (days : WireDate → SInt 32) (micros : WireDate → TimeOfDay → SInt 64),
      (∀ d, (ymdToDays ov (d.year.extend 32 SInt.le_16_32) d.date.month d.date.day :
        Exec ε (SInt 32)) = .ok (days d)) ∧
      (∀ d t (nanos : SInt 32), nanos.val = t.nanos →
        (ymdHmsNanosToMicros ov (d.year.extend 32 SInt.le_16_32) d.date.month d.date.day t.hour
          t.minute t.second nanos : Exec ε (SInt 64)) = .ok (micros d t)) ∧
      CountsDays days ∧ CountsMicros days micros := by
  have hdays : ∀ d : WireDate, Yields (ymdToDays ov (d.year.extend 32 SInt.le_16_32) d.date.month
      d.date.day : Exec ε (SInt 32)) d.date.dayNumber := by
    intro d
    have hyear := d.year_mem
    exact ymdToDays_yields d.date rfl (by omega) (by omega)
  choose days hdays hnumber using hdays
  have hmicros : ∀ (d : WireDate) (t : TimeOfDay), ∃ a : SInt 64,
      a.val = d.date.dayNumber * 86400000000 + t.micros ∧ ∀ nanos : SInt 32, nanos.val = t.nanos →
        (ymdHmsNanosToMicros ov (d.year.extend 32 SInt.le_16_32) d.date.month d.date.day t.hour
          t.minute t.second nanos : Exec ε (SInt 64)) = .ok a := by
    intro d t
    have hyear := d.year_mem
    obtain ⟨hh, hm, hs, hn⟩ := t.valid
    obtain ⟨n, hnanos⟩ : ∃ n : SInt 32, n.val = t.nanos := ⟨⟨t.nanos, by omega, by omega⟩, rfl⟩
    obtain ⟨a, ha, hval⟩ := @ymdHmsNanosToMicros_yields ε ov d.date t (d.year.extend 32 _) n rfl
      hnanos (by omega) (by omega)
    refine ⟨a, hval, fun nanos h => ?_⟩
    rw [SInt.ext (h.trans hnanos.symm)]
    exact ha
  choose micros hvalue hmicros using hmicros
  refine ⟨days, micros, hdays, hmicros, countsDays hnumber, fun d t ht => ?_, fun d t d' t' h => ?_⟩
  · rw [hvalue, hnumber, ht, add_zero]
  · rw [hvalue, hvalue]
    exact dayNumber_micros_lt h

end Native

end Exarrow
