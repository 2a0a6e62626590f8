import Exarrow.Intervals
import Exarrow.Native.Parameters

/-!
# Parameters of dates and timestamps

A parameter of a date or a timestamp column is a text, and its fields are sent as they are
written. Which texts are taken is a grammar, `Exarrow.TemporalFields.WrittenIn`: what the
parser reads is written (`Exarrow.writtenIn_of_parseTemporalFields`), and this file adds
that **what is written is read** (`Exarrow.parseTemporalFields_of_writtenIn`), so that the
parser and the grammar are the same relation (`Exarrow.parseTemporalFields_eq_some`).

A date column takes fewer texts, since the time in them, which is not sent, must be one of
a day (`Exarrow.Native.Accepts`). **A column writes a text as its fields, the empty text and
the absent value as no value, and refuses everything else; two texts are written alike
exactly if they have the same fields, as far as the column keeps them**
(`Exarrow.Native.temporal_parameters`).
-/

namespace Exarrow

open Numeral

/-! ### What is written is read -/

/-- A number that is written is read. -/
theorem WritesNumber.digits_eq {k n : ℕ} {s : List Char} (h : WritesNumber k s n) :
    digits s k = some n := by
  obtain ⟨hne, hdigits, hlen, rfl⟩ := h
  unfold digits
  rw [if_neg]
  rintro (hnil | hlt | hall)
  · exact hne hnil
  · rw [byteLen_of_allDigits hdigits] at hlt
    omega
  · exact hall (List.all_eq_true.mpr hdigits)

/-- A fraction that is written is read. -/
theorem nanosOfFraction_of_writes {frac : List Char} {n : ℕ}
    (h : WritesNumber 9 (frac ++ List.replicate (9 - frac.length) '0') n) :
    nanosOfFraction frac = some n := by
  obtain ⟨-, hdigits, hlen, rfl⟩ := h
  have hfrac : AllDigits frac := fun c hc => hdigits c (List.mem_append_left _ hc)
  rw [List.length_append, List.length_replicate] at hlen
  unfold nanosOfFraction
  rw [if_neg]
  rintro (hlt | hall)
  · rw [byteLen_of_allDigits hfrac] at hlt
    omega
  · exact hall (List.all_eq_true.mpr hfrac)

namespace TemporalFields

variable {f : TemporalFields} {d t : List Char}

/-- A date is written without a blank. -/
theorem DateWrittenIn.blank_not_mem (h : f.DateWrittenIn d) : ' ' ∉ d := by
  obtain ⟨y, m, d, rfl, hy, hm, hd⟩ := h
  have hno {k n : ℕ} {s : List Char} (hs : WritesNumber k s n) : ' ' ∉ s := hs.allDigits.ne rfl
  simp [hno hy, hno hm, hno hd]

theorem DateWrittenIn.ne_nil (h : f.DateWrittenIn d) : d ≠ [] := by
  obtain ⟨y, m, d, rfl, -⟩ := h
  simp

/-- A time is written without a blank. -/
theorem TimeWrittenIn.blank_not_mem (h : f.TimeWrittenIn t) : ' ' ∉ t := by
  have hno {s : List Char} (hs : AllDigits s) : ' ' ∉ s := hs.ne rfl
  cases h with
  | hour hh => exact hno hh.allDigits
  | minute hh hm => simp [hno hh.allDigits, hno hm.allDigits]
  | second hh hm hs => simp [hno hh.allDigits, hno hm.allDigits, hno hs.allDigits]
  | @fraction _ _ _ frac hh hm hs hf =>
    have hfrac : ' ' ∉ frac := fun hmem => hno hf.allDigits (List.mem_append_left _ hmem)
    simp [hno hh.allDigits, hno hm.allDigits, hno hs.allDigits, hfrac]

theorem TimeWrittenIn.ne_nil (h : f.TimeWrittenIn t) : t ≠ [] := by
  cases h with
  | hour hh => exact hh.ne_nil
  | minute | second | fraction => simp

/-- A date that is written is read, at midnight. -/
theorem DateWrittenIn.parse (h : f.DateWrittenIn d) :
    parseDateFields d = some ⟨f.year, f.month, f.day, 0, 0, 0, 0⟩ := by
  obtain ⟨y, m, d, rfl, hy, hm, hd⟩ := h
  unfold parseDateFields
  rw [splitOn_cons rfl hy.allDigits, splitOn_cons rfl hm.allDigits, splitOn_digits rfl hd.allDigits]
  dsimp only
  rw [hy.digits_eq, hm.digits_eq, hd.digits_eq]
  rfl

/-- A time that is written is read, and joins its date. -/
theorem TimeWrittenIn.parse (h : f.TimeWrittenIn t) :
    parseTimeFields ⟨f.year, f.month, f.day, 0, 0, 0, 0⟩ t = some f := by
  have hcolon {k n : ℕ} {s : List Char} (hs : WritesNumber k s n) : ':' ∉ s := hs.allDigits.ne rfl
  unfold parseTimeFields
  cases h with
  | hour hh rest =>
    have hsplit : Text.splitThree ':' t = [t] := by
      unfold Text.splitThree
      rw [Text.splitOnce_eq_none (hcolon hh)]
    rw [hsplit]
    dsimp only
    rw [hh.digits_eq]
    obtain ⟨year, month, day, hour, minute, second, nanos⟩ := f
    obtain ⟨rfl, rfl, rfl⟩ : minute = 0 ∧ second = 0 ∧ nanos = 0 := rest
    rfl
  | @minute h m hh hm rest =>
    have hsplit : Text.splitThree ':' (h ++ ':' :: m) = [h, m] := by
      unfold Text.splitThree
      rw [Text.splitOnce_append (hcolon hh)]
      dsimp only
      rw [Text.splitOnce_eq_none (hcolon hm)]
    rw [hsplit]
    dsimp only
    rw [hh.digits_eq, hm.digits_eq]
    obtain ⟨year, month, day, hour, minute, second, nanos⟩ := f
    obtain ⟨rfl, rfl⟩ : second = 0 ∧ nanos = 0 := rest
    rfl
  | @second h m s hh hm hs rest =>
    have hsplit : Text.splitThree ':' (h ++ ':' :: (m ++ ':' :: s)) = [h, m, s] := by
      unfold Text.splitThree
      rw [Text.splitOnce_append (hcolon hh)]
      dsimp only
      rw [Text.splitOnce_append (hcolon hm)]
    have hpoint : Text.splitOnce '.' s = none := Text.splitOnce_eq_none (hs.allDigits.ne rfl)
    -- Without a point, the fraction is the empty text.
    have hfrac : nanosOfFraction [] = some 0 := rfl
    rw [hsplit]
    dsimp only
    rw [hpoint, hh.digits_eq, hm.digits_eq]
    dsimp only [Option.getD_none]
    rw [hs.digits_eq, hfrac, ← rest]
    rfl
  | @fraction h m s frac hh hm hs hf =>
    have hsplit : Text.splitThree ':' (h ++ ':' :: (m ++ ':' :: (s ++ '.' :: frac))) =
        [h, m, s ++ '.' :: frac] := by
      unfold Text.splitThree
      rw [Text.splitOnce_append (hcolon hh)]
      dsimp only
      rw [Text.splitOnce_append (hcolon hm)]
    rw [hsplit]
    dsimp only
    rw [Text.splitOnce_append (hs.allDigits.ne rfl), hh.digits_eq, hm.digits_eq]
    dsimp only [Option.getD_some]
    rw [hs.digits_eq, nanosOfFraction_of_writes hf]
    rfl

end TemporalFields

/-- **The fields that a text writes are read from it.** -/
theorem parseTemporalFields_of_writtenIn {f : TemporalFields} {text : List Char}
    (h : f.WrittenIn text) : parseTemporalFields text = some f := by
  unfold parseTemporalFields
  cases h with
  | date before after hd rest =>
    dsimp only
    rw [Text.trim_replicate, Text.trim_eq_self hd.blank_not_mem,
      Text.splitOnce_eq_none hd.blank_not_mem]
    dsimp only
    rw [hd.parse]
    obtain ⟨year, month, day, hour, minute, second, nanos⟩ := f
    obtain ⟨rfl, rfl, rfl, rfl⟩ : hour = 0 ∧ minute = 0 ∧ second = 0 ∧ nanos = 0 := rest
    rfl
  | @dateTime d t before gap after hd ht =>
    have htrim := Text.trim_append hd.ne_nil hd.blank_not_mem ht.ne_nil ht.blank_not_mem
      (' ' :: List.replicate gap ' ')
    rw [List.append_assoc, List.cons_append] at htrim
    have hstart := Text.trimStart_append ht.ne_nil ht.blank_not_mem []
    rw [List.append_nil] at hstart
    dsimp only
    rw [Text.trim_replicate, htrim, Text.splitOnce_append hd.blank_not_mem]
    dsimp only
    rw [Text.trimStart_replicate, hstart, hd.parse]
    exact ht.parse

/-- **The parser reads the grammar**: neither more nor less. -/
theorem parseTemporalFields_eq_some {f : TemporalFields} {text : List Char} :
    parseTemporalFields text = some f ↔ f.WrittenIn text :=
  ⟨writtenIn_of_parseTemporalFields, parseTemporalFields_of_writtenIn⟩

/-- A timestamp text is read as the fields that it writes. -/
theorem parseTimestampText_eq_ok {text : String} {f : TemporalFields} :
    parseTimestampText text = .ok f ↔ f.WrittenIn text.toList := by
  rw [← parseTemporalFields_eq_some]
  unfold parseTimestampText
  cases parseTemporalFields text.toList with
  | none => simp
  | some g => simp

/-- The time is one that a date may carry. -/
def TemporalFields.TimeOfDate (f : TemporalFields) : Prop :=
  f.hour ≤ 23 ∧ f.minute ≤ 60 ∧ f.second ≤ 60

/-- A date text is read as the fields that it writes, if its time is one of a date. -/
theorem parseDateText_eq_ok {text : String} {f : TemporalFields} :
    parseDateText text = .ok f ↔ f.WrittenIn text.toList ∧ f.TimeOfDate := by
  rw [← parseTemporalFields_eq_some]
  unfold parseDateText TemporalFields.TimeOfDate
  cases parseTemporalFields text.toList with
  | none => simp
  | some g =>
    by_cases hg : g.hour ≤ 23 ∧ g.minute ≤ 60 ∧ g.second ≤ 60
    · rw [Option.filter_some, if_pos (decide_eq_true hg)]
      simp only [Except.ok.injEq, Option.some.injEq]
      exact ⟨fun h => ⟨h, h ▸ hg⟩, fun h => h.1⟩
    · rw [Option.filter_some, if_neg (mt of_decide_eq_true hg)]
      simp only [Option.some.injEq, reduceCtorEq, false_iff]
      rintro ⟨rfl, h⟩
      exact hg h

end Exarrow

namespace Exarrow.Native

open Machine Checked

/-! ### The bytes of a column -/

/-- The column is one of dates or of timestamps. -/
def IsTemporal (wireType : WireType) : Prop := wireType = .date ∨ wireType = .timestamp

/-- A text that a column takes, and the fields that it writes. -/
structure Accepts (wireType : WireType) (text : String) (f : TemporalFields) : Prop where
  written : f.WrittenIn text.toList
  timeOfDate : wireType = .date → f.TimeOfDate

/-- What a column keeps of the fields: a date has no time. -/
def keptFields (wireType : WireType) (f : TemporalFields) : TemporalFields :=
  if wireType = .date then ⟨f.year, f.month, f.day, 0, 0, 0, 0⟩ else f

/-- The bytes of fields in a column. -/
def fieldBytes (wireType : WireType) (f : TemporalFields) : List UInt8 :=
  if wireType = .date then toLE 4 (f.year * 65536 + f.month * 256 + f.day)
  else toLE 2 f.year ++ [UInt8.ofNat f.month, UInt8.ofNat f.day, UInt8.ofNat f.hour,
    UInt8.ofNat f.minute, UInt8.ofNat f.second] ++ toLE 4 f.nanos

variable {lib : EncoderLibraries} {wireType : WireType} {scale : SInt 32}

/-- Small naturals are told apart by their bytes. -/
theorem toLE_natCast_injective {n a b : ℕ} (ha : a < 2 ^ (8 * n)) (hb : b < 2 ^ (8 * n))
    (h : toLE n (a : ℤ) = toLE n (b : ℤ)) : a = b := by
  have hpow : (256 : ℕ) ^ n = 2 ^ (8 * n) := by
    rw [pow_mul]
    norm_num
  have hread {x : ℕ} (hx : x < 2 ^ (8 * n)) : natOfLE (toLE n (x : ℤ)) = x := by
    have hcast : ((x : ℤ) % 2 ^ (8 * n)).toNat = x := by
      rw [Int.emod_eq_of_lt (by positivity) (by exact_mod_cast hx), Int.toNat_natCast]
    rw [toLE, hcast, natOfLE_natToLE, hpow, Nat.mod_eq_of_lt hx]
  rw [← hread ha, ← hread hb, h]

/-- A field of two digits is a byte. -/
theorem uint8_ofNat_injective {a b : ℕ} (ha : a < 100) (hb : b < 100)
    (h : UInt8.ofNat a = UInt8.ofNat b) : a = b := by
  have hval := congrArg UInt8.toNat h
  rw [UInt8.toNat_ofNat', UInt8.toNat_ofNat'] at hval
  omega

/-- **The bytes of small fields are those of one kept tuple of fields**: nothing is carried
from one field of a packed date into the next. -/
theorem fieldBytes_inj (ht : IsTemporal wireType) {f g : TemporalFields} (hf : f.Bounded)
    (hg : g.Bounded) :
    fieldBytes wireType f = fieldBytes wireType g ↔
      keptFields wireType f = keptFields wireType g := by
  have hfy := hf.year_lt; have hfm := hf.month_lt; have hfd := hf.day_lt
  have hgy := hg.year_lt; have hgm := hg.month_lt; have hgd := hg.day_lt
  rcases ht with rfl | rfl
  · unfold fieldBytes keptFields
    rw [if_pos rfl, if_pos rfl, if_pos rfl, if_pos rfl]
    simp only [TemporalFields.mk.injEq, and_true]
    constructor
    · intro h
      have hpacked : f.year * 65536 + f.month * 256 + f.day =
          g.year * 65536 + g.month * 256 + g.day :=
        @toLE_natCast_injective 4 _ _ (by omega) (by omega) (by exact_mod_cast h)
      omega
    · rintro ⟨hy, hm, hd⟩
      rw [hy, hm, hd]
  · have hdate : WireType.timestamp ≠ .date := by simp
    unfold fieldBytes keptFields
    rw [if_neg hdate, if_neg hdate, if_neg hdate, if_neg hdate]
    constructor
    · intro h
      rw [List.append_assoc, List.append_assoc] at h
      obtain ⟨hyear, hrest⟩ := List.append_inj h (by rw [length_toLE, length_toLE])
      obtain ⟨hbytes, hnanos⟩ := List.append_inj hrest rfl
      simp only [List.cons.injEq, and_true] at hbytes
      obtain ⟨hm, hd, hh, hmin, hs⟩ := hbytes
      have hfn := hf.nanos_lt
      have hgn := hg.nanos_lt
      have h1 := @toLE_natCast_injective 2 _ _ (by omega) (by omega) hyear
      have h2 := uint8_ofNat_injective hfm hgm hm
      have h3 := uint8_ofNat_injective hfd hgd hd
      have h4 := uint8_ofNat_injective hf.hour_lt hg.hour_lt hh
      have h5 := uint8_ofNat_injective hf.minute_lt hg.minute_lt hmin
      have h6 := uint8_ofNat_injective hf.second_lt hg.second_lt hs
      have h7 := @toLE_natCast_injective 4 _ _ (by omega) (by omega) hnanos
      obtain ⟨year, month, day, hour, minute, second, nanos⟩ := f
      simp only at h1 h2 h3 h4 h5 h6 h7
      rw [h1, h2, h3, h4, h5, h6, h7]
    · intro h
      rw [h]

/-! ### What is written for a value -/

/-- The value is no text that the column takes. -/
def NotTemporal (wireType : WireType) (value : Json.Value) : Prop :=
  ∀ s f, value = .string s → ¬ Accepts wireType s f

/-- **What a date or timestamp column writes.** -/
structure WritesTemporal (lib : EncoderLibraries) (wireType : WireType) (scale : SInt 32) :
    Prop where
  /-- A text is written as its fields. -/
  accepts : ∀ s f, Accepts wireType s f →
    writeParamValue lib wireType (.string s) scale = .ok (1 :: fieldBytes wireType f)
  /-- The empty text, and a value that is absent, are no value. -/
  nulls : ∀ value, value = .null ∨ value = .string "" →
    writeParamValue lib wireType value scale = .ok [0]
  /-- Everything else is an error. -/
  rejects : ∀ value, value ≠ .null → value ≠ .string "" → NotTemporal wireType value →
    ∃ m, writeParamValue lib wireType value scale = fail (.serializationError m)
  /-- Different fields have different bytes, as far as the column keeps them. -/
  distinct : ∀ s s' f f', Accepts wireType s f → Accepts wireType s' f' →
    (writeParamValue lib wireType (.string s) scale =
        writeParamValue lib wireType (.string s') scale ↔
      keptFields wireType f = keptFields wireType f')

/-- The empty text writes no fields. -/
theorem Accepts.ne_empty {s : String} {f : TemporalFields} (h : Accepts wireType s f) :
    s ≠ "" := by
  rintro rfl
  have hnone : parseTemporalFields [] = none := rfl
  have hsome := parseTemporalFields_of_writtenIn h.written
  rw [show ("" : String).toList = [] from rfl, hnone] at hsome
  cases hsome

/-- The body of a text in a date or timestamp column. -/
theorem paramBody_string (ht : IsTemporal wireType) (s : String) :
    (∃ f, Accepts wireType s f ∧
      paramBody lib wireType (.string s) scale = .ok (fieldBytes wireType f)) ∨
    ((∀ f, ¬ Accepts wireType s f) ∧
      ∃ m, paramBody lib wireType (.string s) scale = fail (.serializationError m)) := by
  rcases ht with rfl | rfl
  · cases hparse : parseDateText s with
    | ok f =>
      obtain ⟨hwritten, htime⟩ := parseDateText_eq_ok.mp hparse
      refine .inl ⟨f, ⟨hwritten, fun _ => htime⟩, ?_⟩
      show (mapError _ (ofExcept (parseDateText s)) >>= _) = _
      rw [hparse]
      rfl
    | error m =>
      refine .inr ⟨fun f h => ?_, m, ?_⟩
      · have hok := parseDateText_eq_ok.mpr ⟨h.written, h.timeOfDate rfl⟩
        rw [hparse] at hok
        cases hok
      · show (mapError _ (ofExcept (parseDateText s)) >>= _) = _
        rw [hparse]
        rfl
  · cases hparse : parseTimestampText s with
    | ok f =>
      refine .inl ⟨f, ⟨parseTimestampText_eq_ok.mp hparse, fun h => by cases h⟩, ?_⟩
      show (mapError _ (ofExcept (parseTimestampText s)) >>= _) = _
      rw [hparse]
      rfl
    | error m =>
      refine .inr ⟨fun f h => ?_, m, ?_⟩
      · have hok := parseTimestampText_eq_ok.mpr h.written
        rw [hparse] at hok
        cases hok
      · show (mapError _ (ofExcept (parseTimestampText s)) >>= _) = _
        rw [hparse]
        rfl

/-- The body of a value that is no text. -/
theorem paramBody_of_asStr (ht : IsTemporal wireType) {value : Json.Value}
    (hs : value.asStr = none) :
    ∃ m, paramBody lib wireType value scale = fail (.serializationError m) := by
  have hfails (form : String) : temporalText lib value form = fail (.serializationError
      ("Cannot read " ++ lib.jsonText value ++ " as a date or timestamp, expected " ++ form)) := by
    unfold temporalText
    rw [hs]
    rfl
  rcases ht with rfl | rfl
  · have hbody : paramBody lib .date value scale = temporalText lib value dateTextForm >>= _ := rfl
    exact ⟨_, hbody.trans (by rw [hfails, fail_bind])⟩
  · have hbody : paramBody lib .timestamp value scale =
        temporalText lib value timestampTextForm >>= _ := rfl
    exact ⟨_, hbody.trans (by rw [hfails, fail_bind])⟩

/-- A value that is there is written after its marker. -/
theorem writeParamValue_of_present {value : Json.Value} (hnull : value ≠ .null)
    (hempty : value ≠ .string "") :
    writeParamValue lib wireType value scale =
      (paramBody lib wireType value scale >>= fun body => .ok (1 :: body)) := by
  have hcond : ¬ (value.isNull || emptyTemporal wireType value) = true := by
    rw [Bool.or_eq_true]
    rintro (h | h)
    · cases value <;> simp_all [Json.Value.isNull]
    · unfold emptyTemporal at h
      rw [Bool.and_eq_true, decide_eq_true_eq] at h
      cases value <;> simp_all [Json.Value.asStr]
  unfold writeParamValue
  rw [if_neg hcond]
  rfl

/-- A text that a column takes is written as its fields. -/
theorem writeParamValue_of_accepts (ht : IsTemporal wireType) {s : String} {f : TemporalFields}
    (h : Accepts wireType s f) :
    writeParamValue lib wireType (.string s) scale = .ok (1 :: fieldBytes wireType f) := by
  have hne : Json.Value.string s ≠ .string "" := fun heq => h.ne_empty (by injection heq)
  have hnull : Json.Value.string s ≠ .null := by
    intro heq
    cases heq
  rw [writeParamValue_of_present hnull hne]
  rcases @paramBody_string lib wireType scale ht s with ⟨g, hg, hbody⟩ | ⟨hnone, -⟩
  · -- A text writes one tuple of fields.
    have hfields := (parseTemporalFields_of_writtenIn hg.written).symm.trans
      (parseTemporalFields_of_writtenIn h.written)
    rw [hbody, Option.some.inj hfields]
    rfl
  · exact absurd h (hnone f)

/-- **The parameters of dates and timestamps.** A column writes each text of the grammar as
its fields, the empty text and the absent value as no value, and refuses everything else.
Two texts are written alike exactly if they have the same fields, as far as the column
keeps them. -/
theorem temporal_parameters (lib : EncoderLibraries) (wireType : WireType) (scale : SInt 32)
    (ht : IsTemporal wireType) : WritesTemporal lib wireType scale where
  accepts s f h := writeParamValue_of_accepts ht h
  nulls value h := by
    rcases h with rfl | rfl
    · rfl
    · rcases ht with rfl | rfl <;> rfl
  rejects value hnull hempty hnot := by
    rw [writeParamValue_of_present hnull hempty]
    have hbody : ∃ m, paramBody lib wireType value scale = fail (.serializationError m) := by
      cases hs : value.asStr with
      | none => exact paramBody_of_asStr ht hs
      | some s =>
        have hvalue : value = .string s := by
          cases value <;> simp_all [Json.Value.asStr]
        subst hvalue
        rcases @paramBody_string lib wireType scale ht s with ⟨f, hf, -⟩ | ⟨-, hfail⟩
        · exact absurd hf (hnot s f rfl)
        · exact hfail
    obtain ⟨m, hm⟩ := hbody
    exact ⟨m, by rw [hm, fail_bind]⟩
  distinct s s' f f' h h' := by
    rw [writeParamValue_of_accepts ht h, writeParamValue_of_accepts ht h',
      ← fieldBytes_inj ht h.written.bounded h'.written.bounded]
    simp

/-- A timestamp with a short time, in bytes. -/
theorem temporal_parameters_timestamp :
    Accepts .timestamp " 1500-2-29  8:5 " ⟨1500, 2, 29, 8, 5, 0, 0⟩ ∧
      writeParamValue plainEncoderLibraries .timestamp (.string " 1500-2-29  8:5 ") 0 =
        .ok [1, 220, 5, 2, 29, 8, 5, 0, 0, 0, 0, 0] := by
  have hparse : parseTemporalFields " 1500-2-29  8:5 ".toList = some ⟨1500, 2, 29, 8, 5, 0, 0⟩ := by
    decide +kernel
  have haccepts : Accepts .timestamp " 1500-2-29  8:5 " ⟨1500, 2, 29, 8, 5, 0, 0⟩ :=
    ⟨writtenIn_of_parseTemporalFields hparse, fun h => by cases h⟩
  exact ⟨haccepts, (temporal_parameters plainEncoderLibraries .timestamp 0 (.inr rfl)).accepts
    _ _ haccepts⟩

/-- The absent value is written and not refused, and a date column writes two texts of
different times alike. -/
theorem temporal_differs :
    writeParamValue plainEncoderLibraries .date .null 0 = .ok [0] ∧
      ∃ f f' : TemporalFields, f ≠ f' ∧ Accepts .date "2024-01-02 08:30" f ∧
        Accepts .date "2024-01-02 09:30" f' ∧
        writeParamValue plainEncoderLibraries .date (.string "2024-01-02 08:30") 0 =
          writeParamValue plainEncoderLibraries .date (.string "2024-01-02 09:30") 0 := by
  have hparse : parseTemporalFields "2024-01-02 08:30".toList = some ⟨2024, 1, 2, 8, 30, 0, 0⟩ ∧
      parseTemporalFields "2024-01-02 09:30".toList = some ⟨2024, 1, 2, 9, 30, 0, 0⟩ := by
    decide +kernel
  obtain ⟨h8, h9⟩ := hparse
  have ha8 : Accepts .date "2024-01-02 08:30" ⟨2024, 1, 2, 8, 30, 0, 0⟩ :=
    ⟨writtenIn_of_parseTemporalFields h8, fun _ => ⟨by norm_num, by norm_num, by norm_num⟩⟩
  have ha9 : Accepts .date "2024-01-02 09:30" ⟨2024, 1, 2, 9, 30, 0, 0⟩ :=
    ⟨writtenIn_of_parseTemporalFields h9, fun _ => ⟨by norm_num, by norm_num, by norm_num⟩⟩
  refine ⟨rfl, _, _, ?_, ha8, ha9, ?_⟩
  · simp
  · rw [writeParamValue_of_accepts (.inl rfl) ha8, writeParamValue_of_accepts (.inl rfl) ha9]
    rfl

end Exarrow.Native
