import Exarrow.Formatting
import Exarrow.Native.ReadBack

/-!
# Dates and timestamps in all their forms

A timestamp has four forms in the program: a number of a unit, a text, the fields that are
sent with a prepared statement, and the microseconds that are read from a result. The
conversions between them count days in different ways: a library writes the text, a formula
reads it, and the fields are packed into bytes and counted by the formula again.

**The conversions agree** (`Exarrow.Native.temporalForms_agree`): a timestamp is written
exactly if its instant, floored to the microsecond, lies in the years 1 to 9999
(`Exarrow.isOk_formatTimestamp_iff`), and its text is read as this instant, whether the
program reads it itself (`Exarrow.parseTimestampToMicros_text`) or sends it and reads what
comes back (`Exarrow.Native.reads_sentTimestamp`). So it is with the days of dates.
-/

namespace Exarrow

open Machine Checked Calendar Arrow Numeral

/-! ### Numbers between separators -/

/-- A number that is filled up with zeros. -/
abbrev padded (w n : ℕ) : List Char := pad w (natText n)

theorem length_padded {w n : ℕ} (hw : 0 < w) (h : n < 10 ^ w) : (padded w n).length = w :=
  length_pad (length_natText_le hw h)

/-- A padded number is read as one of so many digits. -/
theorem digits_padded {w n : ℕ} (hw : 0 < w) (h : n < 10 ^ w) : digits (padded w n) w = some n := by
  have hlen : Text.byteLen (padded w n) = w := by
    rw [byteLen_of_allDigits (allDigits_padded w n), length_padded hw h]
  unfold digits
  rw [if_neg, ofDigits_pad, ofDigits_natText]
  rintro (hnil | hlt | hall)
  · exact padded_ne_nil w n hnil
  · omega
  · exact hall (List.all_eq_true.mpr (allDigits_padded w n))

/-- A padded number is read as an unsigned one. -/
theorem parseU32?_padded {w n : ℕ} (h : n < 2 ^ 32) : parseU32? (padded w n) = some n := by
  have hread : parseUnsigned? (padded w n) = some n := by
    have hp : '+' ∉ padded w n := (allDigits_padded w n).ne rfl
    unfold parseUnsigned?
    split
    · rename_i htext
      rw [htext] at hp
      exact absurd (List.mem_cons_self ..) hp
    · exact parseNat?_pad w n
  unfold parseU32?
  rw [hread, Option.filter_some, if_pos (decide_eq_true h)]

/-! ### Which timestamps are written -/

/-- An instant, in microseconds since the epoch, of the years 1 to 9999. -/
def InExasolRange (micros : ℤ) : Prop := InExasolYears (ofDayNumber (micros / microsPerDay))

section Written

variable {chrono : Chrono}

/-- An instant of the years 1 to 9999 is written as its date and its time of day. -/
theorem formatTimestampMicros_eq {micros : SInt 64} {d : Date} {t : ℕ} (hd : InExasolYears d)
    (ht : t < microsPerDay) (h : d.dayNumber * microsPerDay + t = micros.val) :
    formatTimestampMicros chrono micros = .ok (dateText d ++ ' ' :: timeText t) := by
  have hyears : -262143 ≤ d.year ∧ d.year ≤ 262142 := by
    obtain ⟨h1, h2⟩ := hd
    omega
  have hsome : chrono.fromTimestampMicros micros = some (d, t) :=
    (chrono.fromTimestampMicros_iff micros d t).mpr ⟨h, ht, hyears⟩
  unfold formatTimestampMicros
  rw [hsome, Option.filter_some, if_pos (decide_eq_true hd)]

/-- A timestamp that is written has a date of the years 1 to 9999 and a time of day. -/
theorem exists_of_formatTimestamp {unit : TimeUnit} {value : SInt 64} {text : List Char}
    (h : formatTimestamp chrono unit value = .ok text) :
    ∃ d t, InExasolYears d ∧ t < 86400000000 ∧
      d.dayNumber * 86400000000 + (t : ℕ) = instantMicros unit value.val ∧
      text = dateText d ++ ' ' :: timeText t := by
  unfold formatTimestamp at h
  split at h
  · cases h
  · rename_i micros hm
    rw [← timestampUnitToMicros_eq_ok.mp hm]
    split at h
    · rename_i text' htext
      cases h
      exact exists_of_formatTimestampMicros htext
    · cases h

/-- **A timestamp is written exactly if its instant, floored to the microsecond, lies in the
years 1 to 9999**: no multiplication fails before. -/
theorem isOk_formatTimestamp_iff {unit : TimeUnit} {value : SInt 64} :
    (∃ text, formatTimestamp chrono unit value = .ok text) ↔
      InExasolRange (instantMicros unit value.val) := by
  constructor
  · rintro ⟨text, h⟩
    obtain ⟨d, t, hd, ht, hval, -⟩ := exists_of_formatTimestamp h
    have hday : instantMicros unit value.val / microsPerDay = d.dayNumber := by
      unfold microsPerDay
      omega
    unfold InExasolRange
    rwa [hday, ofDayNumber_dayNumber]
  · intro hrange
    generalize hx : instantMicros unit value.val = x at hrange
    obtain ⟨d, hd⟩ : ∃ d, d = ofDayNumber (x / microsPerDay) := ⟨_, rfl⟩
    have hnum : d.dayNumber = x / microsPerDay := hd ▸ dayNumber_ofDayNumber _
    unfold InExasolRange at hrange
    rw [← hd] at hrange
    obtain ⟨hlo, hhi⟩ := hrange
    -- The days of these years have numbers of 22 bits, so the microseconds fit.
    have hbound := daysBeforeMonth_le (isLeap d.year) d.month (by have := d.month_mem; omega)
    have hd31 : d.day ≤ 31 := le_trans d.day_mem.2 (daysInMonth_le ..)
    have hday := dayNumber_eq d
    unfold microsPerDay at hnum
    have hfits : -2 ^ 62 ≤ x ∧ x < 2 ^ 62 := by omega
    obtain ⟨micros, hm⟩ : ∃ micros : SInt 64, micros.val = x :=
      ⟨⟨x, by omega, by omega⟩, rfl⟩
    obtain ⟨t, ht⟩ : ∃ t : ℕ, (t : ℤ) = x % 86400000000 :=
      ⟨(x % 86400000000).toNat, by omega⟩
    have htext := @formatTimestampMicros_eq chrono micros d t ⟨hlo, hhi⟩
      (by unfold microsPerDay; omega) (by unfold microsPerDay; omega)
    refine ⟨dateText d ++ ' ' :: timeText t, ?_⟩
    unfold formatTimestamp
    rw [timestampUnitToMicros_eq_ok.mpr (hm.trans hx.symm)]
    dsimp only
    rw [htext]

/-- **A day is written exactly if it is one of the years 1 to 9999.** -/
theorem isOk_formatDate32_iff {days : SInt 32} :
    (∃ text, formatDate32 chrono days = .ok text) ↔ InExasolYears (ofDayNumber days.val) := by
  constructor
  · rintro ⟨text, h⟩
    obtain ⟨d, hd, hday, -⟩ := exists_of_formatDate32 h
    rwa [← hday, ofDayNumber_dayNumber]
  · intro hyears
    exact ⟨_, formatDate32_isOk hyears (dayNumber_ofDayNumber _).symm⟩

end Written

/-! ### The program reads the texts -/

section Parsed

variable (ov : Overflow)

/-- **The text of a date is read as its day.** -/
theorem parseDateToDays_dateText {d : Date} (hd : InExasolYears d) :
    Yields (parseDateToDays ov (dateText d)) d.dayNumber := by
  obtain ⟨hlo, hhi⟩ := hd
  have hm := d.month_mem
  have hd1 := d.day_mem.1
  have hd31 : d.day ≤ 31 := le_trans d.day_mem.2 (daysInMonth_le ..)
  obtain ⟨year, hyear, hval⟩ := @parseSigned?_pad 32 4 d.year.toNat (by omega)
  have hmonth : parseU32? (padded 2 d.month) = some d.month := parseU32?_padded (by omega)
  have hday : parseU32? (padded 2 d.day) = some d.day := parseU32?_padded (by omega)
  unfold parseDateToDays dateText
  rw [splitOn_cons rfl (allDigits_padded _ _), splitOn_cons rfl (allDigits_padded _ _),
    splitOn_digits rfl (allDigits_padded _ _)]
  dsimp only
  rw [hyear, hmonth, hday]
  show Yields (if _ then _ else if _ then _ else _) _
  rw [if_neg (not_not_intro hm), if_neg (not_not_intro ⟨hd1, hd31⟩)]
  exact ymdToDays_yields d (by omega) (by omega) (by omega)

/-- The seconds of a time are read. -/
theorem parseSecondsFieldToMicros_text {s k : ℕ} (hs : s < 60) (hk : k < 1000000) :
    Yields (parseSecondsFieldToMicros ov (padded 2 s ++ '.' :: padded 6 k))
      (s * 1000000 + k) := by
  obtain ⟨a, ha, hval⟩ := @parseSigned?_pad 64 2 s (by omega)
  have hmillion : (OfNat.ofNat 1000000 : SInt 64).val = (1000000 : ℕ) := val_ofNat (by norm_num)
  unfold parseSecondsFieldToMicros
  rw [splitOn_cons rfl (allDigits_padded _ _), splitOn_digits rfl (allDigits_padded _ _)]
  dsimp only [List.headI]
  rw [ha]
  refine (yields_mul hval hmillion (by omega) (by omega)).bind fun b hb => ?_
  have hfraction : Yields (fractionalSecondsToUnits (padded 6 k) 6 : Exec String (SInt 64)) _ :=
    fractionalSecondsToUnits_padded (by norm_num) (le_refl 6) (by norm_num) hk
  rw [Nat.sub_self, pow_zero, mul_one] at hfraction
  refine hfraction.bind fun c hc => ?_
  exact yields_add hb hc (by omega) (by omega)

/-- **The text of a time of day is read as its microseconds.** -/
theorem parseTimeOfDayToMicros_timeText {t : ℕ} (ht : t < 86400000000) :
    Yields (parseTimeOfDayToMicros ov (timeText t)) t := by
  have lit (n : ℕ) (hn : n < 2 ^ 63) : (OfNat.ofNat n : SInt 64).val = n :=
    val_ofNat (by exact_mod_cast hn)
  obtain ⟨h, hh, hhour⟩ := @parseSigned?_pad 64 2 (t / 3600000000) (by omega)
  obtain ⟨m, hm, hminute⟩ := @parseSigned?_pad 64 2 (t / 60000000 % 60) (by omega)
  have hseconds := @parseSecondsFieldToMicros_text ov (t / 1000000 % 60) (t % 1000000)
    (Nat.mod_lt _ (by norm_num)) (Nat.mod_lt _ (by norm_num))
  have hno : ':' ∉ padded 2 (t / 1000000 % 60) ++ '.' :: padded 6 (t % 1000000) :=
    colon_not_mem_seconds t
  unfold parseTimeOfDayToMicros timeText
  rw [splitOn_cons rfl (allDigits_padded _ _), splitOn_cons rfl (allDigits_padded _ _),
    List.splitOn_eq_singleton hno]
  dsimp only [List.head?]
  rw [hh, hm]
  refine (yields_mul hhour (lit 3600 (by norm_num)) (by omega) (by omega)).bind fun a1 e1 => ?_
  refine (yields_mul e1 (lit 1000000 (by norm_num)) (by omega) (by omega)).bind fun a2 e2 => ?_
  refine (yields_mul hminute (lit 60 (by norm_num)) (by omega) (by omega)).bind fun a3 e3 => ?_
  refine (yields_mul e3 (lit 1000000 (by norm_num)) (by omega) (by omega)).bind fun a4 e4 => ?_
  refine (yields_add e2 e4 (by omega) (by omega)).bind fun a5 e5 => ?_
  refine hseconds.bind fun a6 e6 => ?_
  have hlast : Yields (add ov a5 a6 : Exec String (SInt 64)) _ :=
    yields_add e5 e6 (by omega) (by omega)
  refine cast (congrArg (Yields _) ?_) hlast
  omega

/-- **The text of a timestamp is read as its instant.** -/
theorem parseTimestampToMicros_text {d : Date} (hd : InExasolYears d) {t : ℕ}
    (ht : t < 86400000000) :
    Yields (parseTimestampToMicros ov (dateText d ++ ' ' :: timeText t))
      (d.dayNumber * 86400000000 + t) := by
  have lit (n : ℕ) (hn : n < 2 ^ 63) : (OfNat.ofNat n : SInt 64).val = n :=
    val_ofNat (by exact_mod_cast hn)
  have hbound := daysBeforeMonth_le (isLeap d.year) d.month (by have := d.month_mem; omega)
  have hd31 : d.day ≤ 31 := le_trans d.day_mem.2 (daysInMonth_le ..)
  have hday := dayNumber_eq d
  obtain ⟨hlo, hhi⟩ := hd
  unfold parseTimestampToMicros
  rw [List.splitOn_append_cons_self_of_not_mem (blank_not_mem_dateText d),
    List.splitOn_eq_singleton (blank_not_mem_timeText t)]
  dsimp only [List.headI]
  refine (parseDateToDays_dateText ov ⟨hlo, hhi⟩).bind fun a ha => ?_
  have ha' : (a.extend 64 SInt.le_32_64).val = d.dayNumber := ha
  refine (yields_mul ha' (lit 86400 (by norm_num)) (by omega) (by omega)).bind fun a1 e1 => ?_
  refine (yields_mul e1 (lit 1000000 (by norm_num)) (by omega) (by omega)).bind fun a2 e2 => ?_
  refine (parseTimeOfDayToMicros_timeText ov ht).bind fun a3 e3 => ?_
  have hlast : Yields (add ov a2 a3 : Exec String (SInt 64)) _ :=
    yields_add e2 e3 (by omega) (by omega)
  refine cast (congrArg (Yields _) ?_) hlast
  push_cast
  ring

end Parsed

/-! ### The fields that are sent -/

/-- The time of day of so many microseconds. -/
def timeOfDay (t : ℕ) (h : t < 86400000000) : TimeOfDay where
  hour := t / 3600000000
  minute := t / 60000000 % 60
  second := t / 1000000 % 60
  nanos := t % 1000000 * 1000
  valid := by omega

theorem micros_timeOfDay {t : ℕ} (h : t < 86400000000) : (timeOfDay t h).micros = t := by
  have hsum := sum_timeFields t
  unfold TimeOfDay.micros timeOfDay
  dsimp only
  rw [Nat.mul_div_cancel _ (by norm_num)]
  generalize t / 3600000000 = h at *
  generalize t / 60000000 % 60 = m at *
  generalize t / 1000000 % 60 = s at *
  omega

section Fields

/-- The fields of a date and a time. -/
def TemporalFields.ofDateTime (d : Date) (t : TimeOfDay) : TemporalFields where
  year := d.year.toNat
  month := d.month
  day := d.day
  hour := t.hour
  minute := t.minute
  second := t.second
  nanos := t.nanos

variable {d : Date}

/-- The fields of a date are read as they are written. -/
theorem parseDateFields_dateText (hd : InExasolYears d) :
    parseDateFields (dateText d) = some ⟨d.year.toNat, d.month, d.day, 0, 0, 0, 0⟩ := by
  obtain ⟨hlo, hhi⟩ := hd
  have hm := d.month_mem
  have hd31 : d.day ≤ 31 := le_trans d.day_mem.2 (daysInMonth_le ..)
  have hyear : digits (padded 4 d.year.toNat) 4 = _ := digits_padded (by norm_num) (by omega)
  have hmonth : digits (padded 2 d.month) 2 = _ := digits_padded (by norm_num) (by omega)
  have hday : digits (padded 2 d.day) 2 = _ := digits_padded (by norm_num) (by omega)
  unfold parseDateFields dateText
  rw [splitOn_cons rfl (allDigits_padded _ _), splitOn_cons rfl (allDigits_padded _ _),
    splitOn_digits rfl (allDigits_padded _ _)]
  dsimp only
  rw [hyear, hmonth, hday]
  rfl

/-- The fraction of a second is filled up to billionths. -/
theorem nanosOfFraction_padded {n : ℕ} (h : n < 1000000) :
    nanosOfFraction (padded 6 n) = some (n * 1000) := by
  have hlen : (padded 6 n).length = 6 := length_padded (by norm_num) (by omega)
  have hbytes : Text.byteLen (padded 6 n) = 6 := by
    rw [byteLen_of_allDigits (allDigits_padded 6 n), hlen]
  have hzeros : ofDigits (List.replicate 3 '0') = 0 := by decide
  have hdigits : ¬ (9 < Text.byteLen (padded 6 n) ∨ ¬ (padded 6 n).all Char.isDigit) := by
    rintro (hlt | hall)
    · omega
    · exact hall (List.all_eq_true.mpr (allDigits_padded 6 n))
  unfold nanosOfFraction
  rw [if_neg hdigits, hlen, ofDigits_append, hzeros, ofDigits_pad, ofDigits_natText,
    List.length_replicate]
  exact congrArg some (Nat.mul_comm 1000 n)

/-- The fields of a time are read as they are written. -/
theorem parseTimeFields_timeText (f : TemporalFields) {t : ℕ} (ht : t < 86400000000) :
    parseTimeFields f (timeText t) = some { f with
      hour := t / 3600000000
      minute := t / 60000000 % 60
      second := t / 1000000 % 60
      nanos := t % 1000000 * 1000 } := by
  have hdigits (n : ℕ) (h : n < 100) : digits (padded 2 n) 2 = some n :=
    digits_padded (by norm_num) (by omega)
  have hno (n : ℕ) : ':' ∉ padded 2 n := (allDigits_padded 2 n).ne rfl
  have hsplit : Text.splitThree ':' (timeText t) = [padded 2 (t / 3600000000),
      padded 2 (t / 60000000 % 60), padded 2 (t / 1000000 % 60) ++ '.' :: padded 6 (t % 1000000)] := by
    unfold Text.splitThree timeText
    rw [Text.splitOnce_append (hno _)]
    dsimp only
    rw [Text.splitOnce_append (hno _)]
  have hpoint : Text.splitOnce '.' (padded 2 (t / 1000000 % 60) ++ '.' :: padded 6 (t % 1000000)) =
      some (padded 2 (t / 1000000 % 60), padded 6 (t % 1000000)) :=
    Text.splitOnce_append ((allDigits_padded 2 _).ne rfl) _
  unfold parseTimeFields
  rw [hsplit]
  dsimp only
  rw [hpoint, hdigits _ (by omega), hdigits _ (by omega)]
  dsimp only [Option.getD_some]
  rw [hdigits _ (by omega), nanosOfFraction_padded (by omega)]
  rfl

/-- **The fields of the text of a timestamp are those of its date and its time.** -/
theorem parseTemporalFields_timestamp (hd : InExasolYears d) {t : ℕ} (ht : t < 86400000000) :
    parseTemporalFields (dateText d ++ ' ' :: timeText t) =
      some (.ofDateTime d (timeOfDay t ht)) := by
  have hdate : dateText d ≠ [] := List.append_ne_nil_of_right_ne_nil _ (List.cons_ne_nil _ _)
  have htime : timeText t ≠ [] := List.append_ne_nil_of_right_ne_nil _ (List.cons_ne_nil _ _)
  have htrim := Text.trim_append hdate (blank_not_mem_dateText d) htime (blank_not_mem_timeText t)
    [' ']
  rw [List.append_assoc, List.singleton_append] at htrim
  have hstart := Text.trimStart_append htime (blank_not_mem_timeText t) []
  rw [List.append_nil] at hstart
  unfold parseTemporalFields
  dsimp only
  rw [htrim, Text.splitOnce_append (blank_not_mem_dateText d)]
  dsimp only
  rw [hstart, parseDateFields_dateText hd]
  exact parseTimeFields_timeText _ ht

/-- **The fields of the text of a date are those of the date**, at midnight. -/
theorem parseTemporalFields_date (hd : InExasolYears d) :
    parseTemporalFields (dateText d) = some ⟨d.year.toNat, d.month, d.day, 0, 0, 0, 0⟩ := by
  unfold parseTemporalFields
  dsimp only
  rw [Text.trim_eq_self (blank_not_mem_dateText d),
    Text.splitOnce_eq_none (blank_not_mem_dateText d)]
  exact parseDateFields_dateText hd

end Fields

end Exarrow

namespace Exarrow.Native

open Machine Checked Calendar Arrow Wire

/-! ### What comes back from the server -/

section Sent

variable (enc : EncoderLibraries) (lib : Libraries) (limit : ℕ) {d : Date}

/-- A date of the years 1 to 9999 can be packed. -/
def wireDate (d : Date) (hd : InExasolYears d) : WireDate where
  date := d
  year_mem := by
    obtain ⟨hlo, hhi⟩ := hd
    omega

/-- A text that is not empty is there. -/
theorem present_text {wireType : WireType} {text : List Char} (hne : text ≠ []) :
    Present wireType (.string (str text)) := by
  have hstr : str text ≠ "" := by
    intro hempty
    refine hne ?_
    rw [← String.toList_ofList (l := text)]
    exact congrArg String.toList hempty
  have hsome : ¬ Json.Value.asStr (.string (str text)) = some "" :=
    fun h => hstr (Option.some.inj h)
  unfold Present emptyTemporal
  rw [decide_eq_false hsome, Bool.and_false]
  rfl

/-- **A date that is sent is read back as its day.** -/
theorem reads_sentDate (hd : InExasolYears d) (scale : SInt 32) :
    ∃ bytes days, writeParamValue enc .date (.string (str (dateText d))) scale = .ok bytes ∧
      Reads (Guard.holds lib) limit (readCell (readPackedDateDays lib)) bytes (some days) ∧
      days.val = d.dayNumber := by
  obtain ⟨days, hread, hdays⟩ := @reads_date lib limit (wireDate d hd)
  have hyear : ((d.year.toNat : ℕ) : ℤ) = d.year := by
    obtain ⟨hlo, hhi⟩ := hd
    omega
  have hfields : parseDateText (str (dateText d)) =
      .ok ⟨d.year.toNat, d.month, d.day, 0, 0, 0, 0⟩ := by
    unfold parseDateText
    rw [String.toList_ofList, parseTemporalFields_date hd]
    rfl
  have hpresent : Present .date (.string (str (dateText d))) :=
    present_text (List.append_ne_nil_of_right_ne_nil _ (List.cons_ne_nil _ _))
  refine ⟨1 :: Body.date.encode (wireDate d hd), days, ?_, (reads_u8 1).bind (hread.map some), hdays⟩
  rw [writeParamValue_date hpresent hfields]
  unfold Body.encode wireDate
  dsimp only
  rw [hyear]

/-- **A timestamp that is sent is read back as its instant.** -/
theorem reads_sentTimestamp (hd : InExasolYears d) {t : ℕ} (ht : t < 86400000000)
    (scale : SInt 32) :
    ∃ bytes micros,
      writeParamValue enc .timestamp (.string (str (dateText d ++ ' ' :: timeText t))) scale =
        .ok bytes ∧
      Reads (Guard.holds lib) limit (readCell (readTimestampMicros lib)) bytes (some micros) ∧
      micros.val = d.dayNumber * 86400000000 + t := by
  obtain ⟨micros, hread, hmicros⟩ :=
    @reads_timestamp lib limit (wireDate d hd, timeOfDay t ht)
  have hyear : ((d.year.toNat : ℕ) : ℤ) = d.year := by
    obtain ⟨hlo, hhi⟩ := hd
    omega
  have hfields : parseTimestampText (str (dateText d ++ ' ' :: timeText t)) =
      .ok (.ofDateTime d (timeOfDay t ht)) := by
    unfold parseTimestampText
    rw [String.toList_ofList, parseTemporalFields_timestamp hd ht]
  have hpresent : Present .timestamp (.string (str (dateText d ++ ' ' :: timeText t))) :=
    present_text (List.append_ne_nil_of_right_ne_nil _ (List.cons_ne_nil _ _))
  refine ⟨1 :: Body.timestamp.encode (wireDate d hd, timeOfDay t ht), micros, ?_,
    (reads_u8 1).bind (hread.map some), ?_⟩
  · rw [writeParamValue_timestamp hpresent hfields]
    unfold Body.encode wireDate TemporalFields.ofDateTime
    dsimp only
    rw [hyear]
  · rw [hmicros, micros_timeOfDay ht]
    rfl

end Sent

/-! ### The forms agree -/

section Agree

variable (chrono : Chrono) (enc : EncoderLibraries) (lib : Libraries) (limit : ℕ)

/-- **The forms of a timestamp agree**: it is written if its instant, floored to the
microsecond, lies in the years that are accepted, and its text is read as this instant, here
and when it comes back from the server. -/
structure TimestampFormsAgree (unit : TimeUnit) (value : SInt 64) : Prop where
  written : (∃ text, formatTimestamp chrono unit value = .ok text) ↔
    InExasolRange (instantMicros unit value.val)
  parsed : ∀ text, formatTimestamp chrono unit value = .ok text →
    ∀ ov, Yields (parseTimestampToMicros ov text) (instantMicros unit value.val)
  sent : ∀ text, formatTimestamp chrono unit value = .ok text → ∀ scale, ∃ bytes micros,
    writeParamValue enc .timestamp (.string (str text)) scale = .ok bytes ∧
      Reads (Guard.holds lib) limit (readCell (readTimestampMicros lib)) bytes (some micros) ∧
      micros.val = instantMicros unit value.val

/-- **The forms of a day agree**, in the same way. -/
structure DateFormsAgree (days : SInt 32) : Prop where
  written : (∃ text, formatDate32 chrono days = .ok text) ↔ InExasolYears (ofDayNumber days.val)
  parsed : ∀ text, formatDate32 chrono days = .ok text →
    ∀ ov, parseDateToDays ov text = .ok days
  sent : ∀ text, formatDate32 chrono days = .ok text → ∀ scale, ∃ bytes,
    writeParamValue enc .date (.string (str text)) scale = .ok bytes ∧
      Reads (Guard.holds lib) limit (readCell (readPackedDateDays lib)) bytes (some days)

/-- **The forms of timestamps and of days agree**, whatever the unit and the value. -/
theorem temporalForms_agree :
    (∀ unit value, TimestampFormsAgree chrono enc lib limit unit value) ∧
      ∀ days, DateFormsAgree chrono enc lib limit days := by
  refine ⟨fun unit value => ⟨isOk_formatTimestamp_iff, fun text h ov => ?_, fun text h scale => ?_⟩,
    fun days => ⟨isOk_formatDate32_iff, fun text h ov => ?_, fun text h scale => ?_⟩⟩
  · obtain ⟨d, t, hd, ht, hval, rfl⟩ := exists_of_formatTimestamp h
    rw [← hval]
    exact parseTimestampToMicros_text ov hd ht
  · obtain ⟨d, t, hd, ht, hval, rfl⟩ := exists_of_formatTimestamp h
    rw [← hval]
    exact reads_sentTimestamp enc lib limit hd ht scale
  · obtain ⟨d, hd, hday, rfl⟩ := exists_of_formatDate32 h
    refine Yields.eq_ok ?_
    rw [← hday]
    exact parseDateToDays_dateText ov hd
  · obtain ⟨d, hd, hday, rfl⟩ := exists_of_formatDate32 h
    obtain ⟨bytes, days', hwrite, hread, hval⟩ := reads_sentDate enc lib limit hd scale
    obtain rfl : days' = days := SInt.ext (hval.trans hday)
    exact ⟨bytes, hwrite, hread⟩

end Agree

end Exarrow.Native
