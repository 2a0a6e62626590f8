import Exarrow.Foundations.Numeral
import Exarrow.Foundations.Text

/-!
# Dates and times in parameter texts

A parameter of a date or timestamp type is a text. Its fields are read as they are written
(`Exarrow.parseTemporalFields`), without a look at the calendar: a date of at most four,
two and two digits, and perhaps a time after spaces, which may leave out its seconds, or
its minutes and seconds.

`Exarrow.TemporalFields.WrittenIn` says which fields a text writes, without the parser.
**A text is read only as the fields that are written in it**
(`Exarrow.writtenIn_of_parseTemporalFields`), and these are small
(`Exarrow.TemporalFields.WrittenIn.bounded`).
-/

namespace Exarrow

open Numeral

/-- The accepted form of a date. -/
def dateTextForm : String := "YYYY-MM-DD"

/-- The accepted form of a timestamp. -/
def timestampTextForm : String := "YYYY-MM-DD HH:MI:SS.FFFFFFFFF"

/-- The fields of a date and a time, as they are written. -/
structure TemporalFields where
  year : ℕ
  month : ℕ
  day : ℕ
  hour : ℕ := 0
  minute : ℕ := 0
  second : ℕ := 0
  nanos : ℕ := 0
  deriving DecidableEq

/-! ### Reading -/

/-- The number that so many digits write. -/
def digits (part : List Char) (maxLen : ℕ) : Option ℕ :=
  if part = [] ∨ maxLen < Text.byteLen part ∨ ¬part.all Char.isDigit then none
  else some (ofDigits part)

/-- The billionths that a fraction of a second writes. -/
def nanosOfFraction (frac : List Char) : Option ℕ :=
  if 9 < Text.byteLen frac ∨ ¬frac.all Char.isDigit then none
  else some (ofDigits (frac ++ List.replicate (9 - frac.length) '0'))

/-- Add the fields of a time to those of a date. -/
def parseTimeFields (fields : TemporalFields) (time : List Char) : Option TemporalFields :=
  match Text.splitThree ':' time with
  | [hour] => do
    let hour ← digits hour 2
    return { fields with hour }
  | [hour, minute] => do
    let hour ← digits hour 2
    let minute ← digits minute 2
    return { fields with hour, minute }
  | [hour, minute, seconds] => do
    let hour ← digits hour 2
    let minute ← digits minute 2
    let parts := (Text.splitOnce '.' seconds).getD (seconds, [])
    let second ← digits parts.1 2
    let nanos ← nanosOfFraction parts.2
    return { fields with hour, minute, second, nanos }
  | _ => none

/-- The fields of a date. -/
def parseDateFields (date : List Char) : Option TemporalFields :=
  match date.splitOn '-' with
  | [year, month, day] => do
    let year ← digits year 4
    let month ← digits month 2
    let day ← digits day 2
    return { year, month, day }
  | _ => none

/-- The fields of a date and a time. -/
def parseTemporalFields (text : List Char) : Option TemporalFields :=
  let text := Text.trim ' ' text
  match Text.splitOnce ' ' text with
  | some (date, time) => do
    let fields ← parseDateFields date
    parseTimeFields fields (Text.trimStart ' ' time)
  | none => parseDateFields text

/-- Read a timestamp parameter. -/
def parseTimestampText (text : String) : Except String TemporalFields :=
  match parseTemporalFields text.toList with
  | some f => .ok f
  | none => .error s!"Cannot read '{text}' as a timestamp, expected {timestampTextForm}"

/-- Read a date parameter. Its time is not kept, but it must be one. -/
def parseDateText (text : String) : Except String TemporalFields :=
  match (parseTemporalFields text.toList).filter
      fun f => f.hour ≤ 23 ∧ f.minute ≤ 60 ∧ f.second ≤ 60 with
  | some f => .ok f
  | none => .error s!"Cannot read '{text}' as a date, expected {dateTextForm}"

/-! ### What is written -/

/-- The digits write a number, and there are only so many. -/
structure WritesNumber (maxLen : ℕ) (s : List Char) (n : ℕ) : Prop where
  ne_nil : s ≠ []
  allDigits : AllDigits s
  length_le : s.length ≤ maxLen
  value : ofDigits s = n

namespace TemporalFields

/-- The date is written in a text. -/
def DateWrittenIn (f : TemporalFields) (text : List Char) : Prop :=
  ∃ y m d, text = y ++ '-' :: (m ++ '-' :: d) ∧ WritesNumber 4 y f.year ∧
    WritesNumber 2 m f.month ∧ WritesNumber 2 d f.day

/-- The time is written in a text. What is left out is zero. -/
inductive TimeWrittenIn (f : TemporalFields) : List Char → Prop
  | hour {h : List Char} (hh : WritesNumber 2 h f.hour)
      (rest : f.minute = 0 ∧ f.second = 0 ∧ f.nanos = 0) : TimeWrittenIn f h
  | minute {h m : List Char} (hh : WritesNumber 2 h f.hour) (hm : WritesNumber 2 m f.minute)
      (rest : f.second = 0 ∧ f.nanos = 0) : TimeWrittenIn f (h ++ ':' :: m)
  | second {h m s : List Char} (hh : WritesNumber 2 h f.hour) (hm : WritesNumber 2 m f.minute)
      (hs : WritesNumber 2 s f.second) (rest : f.nanos = 0) :
      TimeWrittenIn f (h ++ ':' :: (m ++ ':' :: s))
  | fraction {h m s frac : List Char} (hh : WritesNumber 2 h f.hour)
      (hm : WritesNumber 2 m f.minute) (hs : WritesNumber 2 s f.second)
      (hf : WritesNumber 9 (frac ++ List.replicate (9 - frac.length) '0') f.nanos) :
      TimeWrittenIn f (h ++ ':' :: (m ++ ':' :: (s ++ '.' :: frac)))

/-- The fields are written in a text, between spaces. -/
inductive WrittenIn (f : TemporalFields) : List Char → Prop
  | date {d : List Char} (before after : ℕ) (hd : f.DateWrittenIn d)
      (rest : f.hour = 0 ∧ f.minute = 0 ∧ f.second = 0 ∧ f.nanos = 0) :
      WrittenIn f (List.replicate before ' ' ++ d ++ List.replicate after ' ')
  | dateTime {d t : List Char} (before gap after : ℕ) (hd : f.DateWrittenIn d)
      (ht : f.TimeWrittenIn t) :
      WrittenIn f (List.replicate before ' ' ++ (d ++ ' ' :: (List.replicate gap ' ' ++ t)) ++
        List.replicate after ' ')

/-- Fields of at most so many digits. -/
structure Bounded (f : TemporalFields) : Prop where
  year_lt : f.year < 10000
  month_lt : f.month < 100
  day_lt : f.day < 100
  hour_lt : f.hour < 100
  minute_lt : f.minute < 100
  second_lt : f.second < 100
  nanos_lt : f.nanos < 1000000000

end TemporalFields

/-! ### What is read is written -/

/-- A number of so many digits is small. -/
theorem WritesNumber.lt {k n : ℕ} {s : List Char} (h : WritesNumber k s n) : n < 10 ^ k := by
  obtain ⟨-, hd, hl, rfl⟩ := h
  exact lt_of_lt_of_le (ofDigits_lt hd) (Nat.pow_le_pow_right (by norm_num) hl)

/-- The number that is read is written. -/
theorem writesNumber_of_digits {part : List Char} {k n : ℕ} (h : digits part k = some n) :
    WritesNumber k part n := by
  unfold digits at h
  split at h
  · cases h
  · rename_i hcond
    push Not at hcond
    obtain ⟨hne, hlen, hall⟩ := hcond
    refine ⟨hne, List.all_eq_true.mp hall, le_trans ?_ hlen, Option.some.inj h⟩
    exact Text.length_le_byteLen part

/-- The billionths that are read are written, filled up with zeros. -/
theorem writesNumber_of_nanosOfFraction {frac : List Char} {n : ℕ}
    (h : nanosOfFraction frac = some n) :
    WritesNumber 9 (frac ++ List.replicate (9 - frac.length) '0') n := by
  unfold nanosOfFraction at h
  split at h
  · cases h
  · rename_i hcond
    push Not at hcond
    obtain ⟨hlen, hall⟩ := hcond
    have hle := le_trans (Text.length_le_byteLen frac) hlen
    have hlength : (frac ++ List.replicate (9 - frac.length) '0').length = 9 := by
      rw [List.length_append, List.length_replicate]
      omega
    refine ⟨?_, ?_, hlength.le, Option.some.inj h⟩
    · intro hnil
      rw [hnil] at hlength
      cases hlength
    · intro c hc
      rcases List.mem_append.mp hc with hc | hc
      · exact List.all_eq_true.mp hall c hc
      · rw [List.eq_of_mem_replicate hc]
        rfl

/-- The date that is read is written, and there is no time. -/
theorem dateWrittenIn_of_parseDateFields {date : List Char} {f : TemporalFields}
    (h : parseDateFields date = some f) :
    f.DateWrittenIn date ∧ f.hour = 0 ∧ f.minute = 0 ∧ f.second = 0 ∧ f.nanos = 0 := by
  unfold parseDateFields at h
  split at h
  · rename_i y m d hsplit
    obtain ⟨year, hy, h⟩ := Option.bind_eq_some_iff.mp h
    obtain ⟨month, hm, h⟩ := Option.bind_eq_some_iff.mp h
    obtain ⟨day, hd, h⟩ := Option.bind_eq_some_iff.mp h
    cases h
    have htext : date = y ++ '-' :: (m ++ '-' :: d) := by
      have hjoin : ['-'].intercalate (date.splitOn '-') = date := List.intercalate_splitOn '-'
      rw [hsplit] at hjoin
      rw [← hjoin]
      simp [List.intercalate]
    exact ⟨⟨y, m, d, htext, writesNumber_of_digits hy, writesNumber_of_digits hm,
      writesNumber_of_digits hd⟩, rfl, rfl, rfl, rfl⟩
  · cases h

/-- The time that is read is written, and the date stays. -/
theorem timeWrittenIn_of_parseTimeFields {fields f : TemporalFields} {time : List Char}
    (h : parseTimeFields fields time = some f)
    (hzero : fields.minute = 0 ∧ fields.second = 0 ∧ fields.nanos = 0) :
    f.TimeWrittenIn time ∧ f.year = fields.year ∧ f.month = fields.month ∧ f.day = fields.day := by
  obtain ⟨hmin, hsec, hnanos⟩ := hzero
  unfold parseTimeFields at h
  split at h
  · rename_i hour hsplit
    obtain ⟨hh, hhour, h⟩ := Option.bind_eq_some_iff.mp h
    cases h
    rw [Text.splitThree_eq_one hsplit]
    exact ⟨.hour (writesNumber_of_digits hhour) ⟨hmin, hsec, hnanos⟩, rfl, rfl, rfl⟩
  · rename_i hour minute hsplit
    obtain ⟨hh, hhour, h⟩ := Option.bind_eq_some_iff.mp h
    obtain ⟨mm, hminute, h⟩ := Option.bind_eq_some_iff.mp h
    cases h
    rw [Text.splitThree_eq_two hsplit]
    exact ⟨.minute (writesNumber_of_digits hhour) (writesNumber_of_digits hminute)
      ⟨hsec, hnanos⟩, rfl, rfl, rfl⟩
  · rename_i hour minute seconds hsplit
    obtain ⟨hh, hhour, h⟩ := Option.bind_eq_some_iff.mp h
    obtain ⟨mm, hminute, h⟩ := Option.bind_eq_some_iff.mp h
    obtain ⟨ss, hsecond, h⟩ := Option.bind_eq_some_iff.mp h
    obtain ⟨nn, hfrac, h⟩ := Option.bind_eq_some_iff.mp h
    cases h
    rw [Text.splitThree_eq_three hsplit]
    refine ⟨?_, rfl, rfl, rfl⟩
    cases hpoint : Text.splitOnce '.' seconds with
    | none =>
      rw [hpoint] at hsecond hfrac
      -- Without a fraction, the fraction is the empty text.
      have hn : nn = 0 := (Option.some.inj hfrac).symm
      exact .second (writesNumber_of_digits hhour) (writesNumber_of_digits hminute)
        (writesNumber_of_digits hsecond) hn
    | some p =>
      obtain ⟨sec, frac⟩ := p
      rw [hpoint] at hsecond hfrac
      rw [Text.eq_of_splitOnce hpoint]
      exact .fraction (writesNumber_of_digits hhour) (writesNumber_of_digits hminute)
        (writesNumber_of_digits hsecond) (writesNumber_of_nanosOfFraction hfrac)
  · cases h

/-- **A text is read only as the fields that are written in it.** -/
theorem writtenIn_of_parseTemporalFields {text : List Char} {f : TemporalFields}
    (h : parseTemporalFields text = some f) : f.WrittenIn text := by
  obtain ⟨before, after, htext⟩ := Text.exists_eq_trim ' ' text
  unfold parseTemporalFields at h
  dsimp only at h
  rw [htext]
  split at h
  · rename_i date time hsplit
    obtain ⟨fields, hdate, h⟩ := Option.bind_eq_some_iff.mp h
    obtain ⟨hwritten, -, hmin, hsec, hnanos⟩ := dateWrittenIn_of_parseDateFields hdate
    obtain ⟨htime, hy, hm, hd⟩ := timeWrittenIn_of_parseTimeFields h ⟨hmin, hsec, hnanos⟩
    obtain ⟨gap, hgap⟩ := Text.exists_eq_trimStart ' ' time
    rw [Text.eq_of_splitOnce hsplit, hgap]
    refine .dateTime before gap after ?_ htime
    obtain ⟨y, m, d, hparts, h1, h2, h3⟩ := hwritten
    exact ⟨y, m, d, hparts, hy ▸ h1, hm ▸ h2, hd ▸ h3⟩
  · obtain ⟨hwritten, hrest⟩ := dateWrittenIn_of_parseDateFields h
    exact .date before after hwritten hrest

/-- Fields that are written are small. -/
theorem TemporalFields.WrittenIn.bounded {f : TemporalFields} {text : List Char}
    (h : f.WrittenIn text) : f.Bounded := by
  have hdate {d : List Char} (hd : f.DateWrittenIn d) :
      f.year < 10000 ∧ f.month < 100 ∧ f.day < 100 := by
    obtain ⟨y, m, d, -, hy, hm, hd⟩ := hd
    exact ⟨hy.lt, hm.lt, hd.lt⟩
  cases h with
  | date before after hd rest =>
    obtain ⟨hy, hm, hday⟩ := hdate hd
    obtain ⟨hh, hmi, hs, hn⟩ := rest
    exact ⟨hy, hm, hday, by omega, by omega, by omega, by omega⟩
  | dateTime before gap after hd ht =>
    obtain ⟨hy, hm, hday⟩ := hdate hd
    cases ht with
    | hour hh rest =>
      obtain ⟨hmi, hs, hn⟩ := rest
      exact ⟨hy, hm, hday, hh.lt, by omega, by omega, by omega⟩
    | minute hh hmi rest =>
      obtain ⟨hs, hn⟩ := rest
      exact ⟨hy, hm, hday, hh.lt, hmi.lt, by omega, by omega⟩
    | second hh hmi hs rest => exact ⟨hy, hm, hday, hh.lt, hmi.lt, hs.lt, by omega⟩
    | fraction hh hmi hs hf => exact ⟨hy, hm, hday, hh.lt, hmi.lt, hs.lt, hf.lt⟩

end Exarrow
