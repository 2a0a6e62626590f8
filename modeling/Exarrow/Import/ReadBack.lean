import Exarrow.Csv.Streams
import Exarrow.Import.Writer

/-!
# Reading back what an import has written

An import writes record batches as CSV text in a dialect: a separator, a delimiter, a row separator
and a text for nulls. Only texts are put in quotes; every other value is written as it stands. The
text is read back in the same dialect (`Exarrow.Csv.parseCsv`).

**What is written is read back** (`Exarrow.Import.parseCsv_written`): as many records as rows behind
the headers, as many fields as columns, in each field the text of its value, and the null text where
the value is null. That the dialect is legible (`Exarrow.Import.Legible`) is needed for the values
that are never put in quotes, whose characters are letters, digits and a few others
(`Exarrow.Import.isPlain`). **The nulls are told from the other values exactly if no value has the
null text**, and the empty text is the null text that is used when there is no other.
-/

namespace Exarrow.Import

open Machine Ieee Arrow Numeral Checked Sending

/-! ### What is never put in quotes -/

/-- The characters of the values that are no texts. -/
def isPlain (c : Char) : Bool := c.isAlphanum || c = '-' || c = '.' || c = ':' || c = ' '

/-- A text of such characters. -/
def Plain (s : List Char) : Prop := ∀ c ∈ s, isPlain c = true

theorem plain_nil : Plain [] := fun _ h => absurd h List.not_mem_nil

theorem plain_of_all {s : List Char} (h : s.all isPlain = true) : Plain s := List.all_eq_true.mp h

theorem plain_cons {c : Char} {s : List Char} (hc : isPlain c = true) (hs : Plain s) :
    Plain (c :: s) := List.forall_mem_cons.mpr ⟨hc, hs⟩

theorem Plain.append {s t : List Char} (hs : Plain s) (ht : Plain t) : Plain (s ++ t) :=
  List.forall_mem_append.mpr ⟨hs, ht⟩

theorem plain_of_allDigits {s : List Char} (h : AllDigits s) : Plain s := by
  intro c hc
  unfold isPlain Char.isAlphanum
  rw [h c hc, Bool.or_true, Bool.true_or, Bool.true_or, Bool.true_or, Bool.true_or]

theorem plain_natText (n : ℕ) : Plain (natText n) := plain_of_allDigits (allDigits_natText n)

theorem plain_padded (w n : ℕ) : Plain (pad w (natText n)) :=
  plain_of_allDigits (allDigits_padded w n)

theorem plain_intText (x : ℤ) : Plain (intText x) := by
  unfold intText
  split_ifs
  · exact plain_cons rfl (plain_natText _)
  · exact plain_natText _

theorem plain_minusText (x : ℤ) : Plain (minusText x) := by
  unfold minusText
  split_ifs
  · exact plain_cons rfl plain_nil
  · exact plain_nil

theorem plain_formatDecimalText (v : ℤ) (scale : SInt 8) :
    Plain (formatDecimalText (intText v) scale) := by
  rcases le_or_gt scale.val 0 with h | h
  · unfold formatDecimalText
    rw [if_pos h]
    refine (plain_intText v).append (plain_of_allDigits fun c hc => ?_)
    rw [List.eq_of_mem_replicate hc]
    rfl
  · obtain ⟨integer, fraction, -, hinteger, hfraction, -, -, htext⟩ := formatDecimalText_intText v h
    rw [htext]
    exact (plain_minusText v).append ((plain_of_allDigits hinteger).append
      (plain_cons rfl (plain_of_allDigits hfraction)))

theorem plain_dateText (d : Calendar.Date) : Plain (dateText d) :=
  (plain_padded _ _).append (plain_cons rfl ((plain_padded _ _).append
    (plain_cons rfl (plain_padded _ _))))

theorem plain_timeText (t : ℕ) : Plain (timeText t) :=
  (plain_padded _ _).append (plain_cons rfl ((plain_padded _ _).append (plain_cons rfl
    ((plain_padded _ _).append (plain_cons rfl (plain_padded _ _))))))

theorem plain_formatDate32 {chrono : Chrono} {days : SInt 32} {text : List Char}
    (h : formatDate32 chrono days = .ok text) : Plain text := by
  obtain ⟨d, -, -, rfl⟩ := exists_of_formatDate32 h
  exact plain_dateText d

theorem plain_formatDate64 {chrono : Chrono} {milliseconds : SInt 64} {text : List Char}
    (h : formatDate64 chrono milliseconds = .ok text) : Plain text := by
  unfold formatDate64 at h
  dsimp only at h
  split at h
  · cases h
  · exact plain_formatDate32 (Csv.eq_ok_of_mapError h)

theorem plain_formatTimestamp {chrono : Chrono} {unit : TimeUnit} {value : SInt 64}
    {text : List Char} (h : formatTimestamp chrono unit value = .ok text) : Plain text := by
  unfold formatTimestamp at h
  split at h
  · cases h
  · split at h
    · rename_i hmicros
      obtain rfl := Except.ok.inj h
      obtain ⟨d, t, -, -, -, rfl⟩ := exists_of_formatTimestampMicros hmicros
      exact (plain_dateText d).append (plain_cons rfl (plain_timeText t))
    · cases h

theorem plain_formatIntervalYearToMonth (months : SInt 32) :
    Plain (formatIntervalYearToMonth months) :=
  (plain_minusText _).append ((plain_natText _).append (plain_cons rfl (plain_padded _ _)))

theorem plain_formatIntervalDayToSecond {days : SInt 32} {milliseconds : SInt 64} {text : List Char}
    (h : formatIntervalDayToSecond days milliseconds = .ok text) : Plain text := by
  unfold formatIntervalDayToSecond at h
  split at h
  · cases h
  · dsimp only at h
    split_ifs at h
    obtain rfl := Except.ok.inj h
    exact (plain_minusText _).append ((plain_natText _).append (plain_cons rfl
      ((plain_padded _ _).append (plain_cons rfl ((plain_padded _ _).append (plain_cons rfl
        ((plain_padded _ _).append (plain_cons rfl (plain_padded _ _)))))))))

theorem plain_formatIntervalMonthDayNano {value : IntervalMonthDayNano} {text : List Char}
    (h : formatIntervalMonthDayNano value = .ok text) : Plain text := by
  unfold formatIntervalMonthDayNano at h
  split_ifs at h
  exact plain_formatIntervalDayToSecond h

theorem plain_display (x : F64) : Plain x.display := by
  have hmagnitude (d : ℕ) (t : ℤ) : Plain (F64.displayMagnitude d t) := by
    unfold F64.displayMagnitude
    split_ifs
    · exact plain_natText _
    · exact (plain_natText _).append (plain_cons rfl (plain_padded _ _))
  unfold F64.display
  split_ifs
  · exact plain_of_all rfl
  · exact plain_of_all rfl
  · exact plain_of_all rfl
  · exact plain_of_all rfl
  · exact plain_of_all rfl
  · exact plain_cons rfl (hmagnitude _ _)
  · exact hmagnitude _ _

theorem plain_formatFloat (x : F64) : Plain (formatFloat x) := by
  unfold formatFloat
  split_ifs
  · exact plain_of_all rfl
  · exact plain_of_all rfl
  · exact plain_of_all rfl
  · exact plain_display x

theorem plain_hexEncode (bs : List UInt8) : Plain (hexEncode bs) := by
  have hdigits (n : ℕ) : Plain (Nat.toDigits 16 n) := by
    induction n using Nat.strongRecOn with
    | ind n ih =>
      have hdigit : ∀ d < 16, isPlain (Nat.digitChar d) = true := by decide
      rw [Nat.toDigits_eq_if (by norm_num)]
      split_ifs with hn
      · exact plain_cons (hdigit n hn) plain_nil
      · exact (ih (n / 16) (by omega)).append
          (plain_cons (hdigit _ (Nat.mod_lt _ (by norm_num))) plain_nil)
  intro c hc
  obtain ⟨b, -, hb⟩ := List.mem_flatMap.mp hc
  rcases List.mem_append.mp hb with h | h
  · rw [List.eq_of_mem_replicate h]
    rfl
  · exact hdigits _ c h

/-! ### Dialects -/

/-- **A legible dialect**: its separator and its delimiter do not occur in values that are never put
in quotes, and nothing in the null text asks for quotes. -/
structure Legible (options : CsvWriterOptions) (rowSeparator : Csv.RowSeparator) : Prop where
  distinct : options.columnSeparator ≠ options.columnDelimiter
  separator : options.columnSeparator ≠ '\n' ∧ options.columnSeparator ≠ '\r'
  delimiter : options.columnDelimiter ≠ '\n' ∧ options.columnDelimiter ≠ '\r'
  separator_not_plain : isPlain options.columnSeparator = false
  delimiter_not_plain : isPlain options.columnDelimiter = false
  rows : options.rowSeparator = rowSeparator.chars
  null : ∀ c ∈ options.nullValue,
    Csv.isSpecial options.columnSeparator options.columnDelimiter c = false

/-- The dialect that is used by default. -/
theorem legible_default : Legible {} .lf :=
  ⟨by decide, by decide, by decide, rfl, rfl, rfl, fun _ h => absurd h List.not_mem_nil⟩

variable {lib : FormatterLibrary} {options : CsvWriterOptions} {rowSeparator : Csv.RowSeparator}

/-- The writer of fields leaves a text without special characters as it is. -/
theorem formatCsvField_of_not_special {separator delimiter : Char} {s : List Char}
    (h : ∀ c ∈ s, Csv.isSpecial separator delimiter c = false) :
    Csv.formatCsvField separator delimiter s = s := by
  have hany : ¬s.any (Csv.isSpecial separator delimiter) = true := by
    rw [List.any_eq_true]
    rintro ⟨c, hc, hspecial⟩
    exact Bool.false_ne_true ((h c hc).symm.trans hspecial)
  exact if_neg hany

namespace Legible

theorem escape_nullValue (h : Legible options rowSeparator) :
    escapeString options options.nullValue = options.nullValue :=
  formatCsvField_of_not_special h.null

theorem escape_plain (h : Legible options rowSeparator) {s : List Char} (hs : Plain s) :
    escapeString options s = s := by
  refine formatCsvField_of_not_special fun c hc => ?_
  have hne {d : Char} (hd : isPlain d = false) : c ≠ d := by
    rintro rfl
    exact Bool.false_ne_true (hd.symm.trans (hs c hc))
  unfold Csv.isSpecial
  simp [hne h.separator_not_plain, hne h.delimiter_not_plain, hne (d := '\n') rfl,
    hne (d := '\r') rfl]

end Legible

/-! ### Values -/

/-- The text of a value without quotes. A value of a dictionary may be null. -/
def plainText (lib : FormatterLibrary) : (t : DataType) → t.Native →
    Except ImportError (Option Csv.Field)
  | .utf8, s | .largeUtf8, s | .utf8View, s => .ok (some s.toList)
  | .dictionary _ .utf8, s | .dictionary _ .largeUtf8, s => .ok (s.map String.toList)
  | t, v => do
    let formatter ← resolveValueFormatter lib t
    return some (← formatter {} v)

/-- What a reader makes of a field. -/
def readCell (nullValue : Csv.Field) (field : Csv.Field) : Option Csv.Field :=
  if field = nullValue then none else some field

theorem plainText_of_formatter {t : DataType} {formatter : ValueFormatter t} {v : t.Native}
    {text : List Char}
    (h : plainText lib t v = do
      let formatter ← resolveValueFormatter lib t
      return some (← formatter {} v))
    (hresolve : resolveValueFormatter lib t = .ok formatter) (htext : formatter {} v = .ok text) :
    plainText lib t v = .ok (some text) := by
  rw [h, hresolve]
  change (formatter {} v >>= fun text => .ok (some text)) = _
  rw [htext]
  rfl

theorem eq_of_dictionaryFormatter {α : Type} {format formatter : α} {key : DataType}
    (h : dictionaryFormatter format key = some formatter) : formatter = format := by
  cases key <;> first | exact (Option.some.inj h).symm | cases h

/-- **The field of a value** is its text, in quotes where that asks for them. -/
theorem exists_plainText (h : Legible options rowSeparator) {t : DataType}
    {formatter : ValueFormatter t} (hresolve : resolveValueFormatter lib t = .ok formatter)
    {v : t.Native} {text : List Char} (htext : formatter options v = .ok text) :
    ∃ cell, plainText lib t v = .ok cell ∧
      text = escapeString options (cell.getD options.nullValue) := by
  have hplain (hp : Plain text) (hcell : plainText lib t v = .ok (some text)) :
      ∃ cell, plainText lib t v = .ok cell ∧
        text = escapeString options (cell.getD options.nullValue) :=
    ⟨some text, hcell, (h.escape_plain hp).symm⟩
  cases t with
  | boolean =>
    cases hresolve
    refine hplain ?_ (plainText_of_formatter rfl rfl htext)
    obtain rfl := Except.ok.inj htext
    split_ifs
    · exact plain_of_all rfl
    · exact plain_of_all rfl
  | int8 | int16 | int32 | int64 | uint8 | uint16 | uint32 | uint64 =>
    cases hresolve
    refine hplain ?_ (plainText_of_formatter rfl rfl htext)
    obtain rfl := Except.ok.inj htext
    exact plain_intText _
  | float32 | float64 =>
    cases hresolve
    refine hplain ?_ (plainText_of_formatter rfl rfl htext)
    obtain rfl := Except.ok.inj htext
    exact plain_formatFloat _
  | utf8 | largeUtf8 | utf8View =>
    cases hresolve
    exact ⟨some v.toList, rfl, (Except.ok.inj htext).symm⟩
  | binary | largeBinary | binaryView | fixedSizeBinary =>
    cases hresolve
    refine hplain ?_ (plainText_of_formatter rfl rfl htext)
    obtain rfl := Except.ok.inj htext
    exact plain_hexEncode _
  | decimal128 | decimal256 =>
    cases hresolve
    refine hplain ?_ (plainText_of_formatter rfl rfl htext)
    obtain rfl := Except.ok.inj htext
    exact plain_formatDecimalText _ _
  | date32 =>
    cases hresolve
    refine hplain ?_ (plainText_of_formatter rfl rfl htext)
    exact plain_formatDate32 (Csv.eq_ok_of_mapError htext)
  | date64 =>
    cases hresolve
    refine hplain ?_ (plainText_of_formatter rfl rfl htext)
    exact plain_formatDate64 (Csv.eq_ok_of_mapError htext)
  | timestamp unit zone =>
    cases hresolve
    refine hplain ?_ (plainText_of_formatter rfl rfl htext)
    exact plain_formatTimestamp (Csv.eq_ok_of_mapError htext)
  | interval unit =>
    cases unit with
    | yearMonth =>
      cases hresolve
      refine hplain ?_ (plainText_of_formatter rfl rfl htext)
      obtain rfl := Except.ok.inj htext
      exact plain_formatIntervalYearToMonth _
    | dayTime =>
      cases hresolve
      refine hplain ?_ (plainText_of_formatter rfl rfl htext)
      exact plain_formatIntervalDayToSecond (Csv.eq_ok_of_mapError htext)
    | monthDayNano =>
      cases hresolve
      refine hplain ?_ (plainText_of_formatter rfl rfl htext)
      exact plain_formatIntervalMonthDayNano (Csv.eq_ok_of_mapError htext)
  | dictionary key value =>
    cases value with
    | utf8 | largeUtf8 =>
      rw [resolveValueFormatter] at hresolve
      split at hresolve
      · rename_i hformatter
        obtain rfl := Except.ok.inj hresolve
        obtain rfl := eq_of_dictionaryFormatter hformatter
        rcases v with _ | value
        · obtain rfl := Except.ok.inj htext
          exact ⟨none, rfl, h.escape_nullValue.symm⟩
        · exact ⟨some value.toList, rfl, (Except.ok.inj htext).symm⟩
      · cases hresolve
    | _ => cases hresolve
  | other => cases hresolve

/-- The text of a slot without quotes, none for a null. -/
def cellText (lib : FormatterLibrary) (array : Column) (rowIdx : ℕ) :
    Except ImportError (Option Csv.Field) :=
  match array.cells[rowIdx]?.join with
  | none => .ok none
  | some value => plainText lib array.dataType value

theorem exists_cellText (h : Legible options rowSeparator) {array : Column} {rowIdx : ℕ}
    {text : List Char} (htext : formatValue lib options array rowIdx = .ok text) :
    ∃ cell, cellText lib array rowIdx = .ok cell ∧
      text = escapeString options (cell.getD options.nullValue) := by
  unfold formatValue at htext
  obtain ⟨formatter, hresolve, hslot⟩ := bind_eq_ok.mp htext
  unfold cellText
  cases hcell : array.cells[rowIdx]?.join with
  | none =>
    rw [hcell] at hslot
    obtain rfl := Except.ok.inj hslot
    exact ⟨none, rfl, h.escape_nullValue.symm⟩
  | some value =>
    rw [hcell] at hslot
    exact exists_plainText h hresolve hslot

/-! ### Rows -/

/-- The texts of the rows of a batch. -/
def batchRows (lib : FormatterLibrary) (batch : RecordBatch) :
    Except ImportError (List (List (Option Csv.Field))) :=
  (List.range batch.numRows).mapM fun i => batch.columns.mapM fun array => cellText lib array i

/-- The fields in which the texts of a row are written. -/
def fieldsOf (options : CsvWriterOptions) (row : List (Option Csv.Field)) : Csv.Row :=
  row.map fun cell => cell.getD options.nullValue

/-- A line of a CSV text. -/
def csvLine (options : CsvWriterOptions) (rowSeparator : Csv.RowSeparator) (row : Csv.Row) :
    List Char :=
  Csv.formatCsvRow options.columnSeparator options.columnDelimiter rowSeparator row

/-- Values that are computed in one way and in another one correspond to each other. -/
theorem exists_mapM_of_forall {α β γ ε : Type} {f : α → Except ε β} {g : α → Except ε γ} {k : γ → β}
    {xs : List α} {ys : List β} (h : ∀ x ∈ xs, ∀ y, f x = .ok y → ∃ z, g x = .ok z ∧ y = k z)
    (hys : xs.mapM f = .ok ys) : ∃ zs, xs.mapM g = .ok zs ∧ ys = zs.map k := by
  have hf := mapM_eq_ok.mp hys
  clear hys
  induction hf with
  | nil => exact ⟨[], rfl, rfl⟩
  | @cons x y xs ys hx _ ih =>
    obtain ⟨z, hz, rfl⟩ := h x List.mem_cons_self y hx
    obtain ⟨zs, hzs, rfl⟩ := ih fun x hx => h x (List.mem_cons_of_mem _ hx)
    refine ⟨z :: zs, ?_, rfl⟩
    rw [List.mapM_cons, hz, hzs]
    rfl

theorem lineText_map (h : Legible options rowSeparator) (row : Csv.Row) :
    lineText options (row.map (escapeString options)) = csvLine options rowSeparator row := by
  unfold lineText csvLine Csv.formatCsvRow
  rw [h.rows]
  rfl

/-- **The lines of a batch** are those of the texts of its rows. -/
theorem exists_batchRows (h : Legible options rowSeparator) {batch : RecordBatch}
    {lines : List (List Char)} (hlines : FirstLines lib options batch batch.numRows lines) :
    ∃ rows, batchRows lib batch = .ok rows ∧
      lines = (rows.map (fieldsOf options)).map (csvLine options rowSeparator) := by
  have hrow : ∀ i ∈ List.range batch.numRows, ∀ line, formatRow lib options batch i = .ok line →
      ∃ row, (batch.columns.mapM fun array => cellText lib array i) = .ok row ∧
        line = csvLine options rowSeparator (fieldsOf options row) := by
    intro i _ line hline
    obtain ⟨texts, htexts, hline⟩ := bind_eq_ok.mp hline
    obtain ⟨row, hcells, rfl⟩ := exists_mapM_of_forall
      (fun array _ text htext => exists_cellText h htext) htexts
    refine ⟨row, hcells, ?_⟩
    obtain rfl := Except.ok.inj hline
    rw [← lineText_map h, fieldsOf, List.map_map]
    rfl
  obtain ⟨rows, hrows, rfl⟩ := exists_mapM_of_forall hrow hlines
  exact ⟨rows, hrows, (List.map_map ..).symm⟩

theorem fieldsOf_ne_nil {batch : RecordBatch} (hcolumns : batch.columns ≠ [])
    {rows : List (List (Option Csv.Field))} (hrows : batchRows lib batch = .ok rows) :
    ∀ row ∈ rows.map (fieldsOf options), row ≠ [] := by
  intro fields hfields hnil
  obtain ⟨row, hrow, rfl⟩ := List.mem_map.mp hfields
  obtain ⟨i, -, hi⟩ := exists_of_mem_mapM hrows hrow
  have hlength := (mapM_eq_ok.mp hi).length_eq
  rw [List.map_eq_nil_iff.mp hnil] at hlength
  exact hcolumns (List.length_eq_zero_iff.mp hlength)

/-! ### Reading lines -/

/-- **Lines are read one by one**, whatever is behind them. -/
theorem collect_lines (h : Legible options rowSeparator) {rows : List Csv.Row}
    (hrows : ∀ row ∈ rows, row ≠ []) (rest : List Char)
    (hrest : rowSeparator = .cr → rest.head? ≠ some '\n') (yielded : ℕ) :
    Csv.CsvRows.collect ⟨rows.flatMap (csvLine options rowSeparator) ++ rest,
        options.columnSeparator, options.columnDelimiter, yielded⟩ =
      (Csv.CsvRows.collect ⟨rest, options.columnSeparator, options.columnDelimiter,
        yielded + rows.length⟩).map (rows ++ ·) := by
  induction rows generalizing yielded with
  | nil =>
    rw [List.flatMap_nil, List.nil_append, List.length_nil, Nat.add_zero]
    cases Csv.CsvRows.collect ⟨rest, options.columnSeparator, options.columnDelimiter, yielded⟩ <;>
      rfl
  | cons row rows ih =>
    have hbehind : rowSeparator = .cr →
        (rows.flatMap (csvLine options rowSeparator) ++ rest).head? ≠ some '\n' := by
      rintro rfl
      rcases rows with _ | ⟨next, rows⟩
      · exact hrest rfl
      · rw [List.flatMap_cons, List.append_assoc]
        exact Csv.head?_formatCsvRow h.separator.1 h.delimiter.1 (by decide) next
    have hread : Csv.readRow options.columnSeparator options.columnDelimiter
        (csvLine options rowSeparator row ++ (rows.flatMap (csvLine options rowSeparator) ++ rest))
        [] [] false = some (row, rows.flatMap (csvLine options rowSeparator) ++ rest) :=
      Csv.readRow_formatCsvRow h.distinct h.separator h.delimiter hbehind
        (hrows row List.mem_cons_self)
    have hne : csvLine options rowSeparator row ++
        (rows.flatMap (csvLine options rowSeparator) ++ rest) ≠ [] := by
      cases rowSeparator <;> simp [csvLine, Csv.formatCsvRow, Csv.RowSeparator.chars]
    have hnext := ih (fun r hr => hrows r (List.mem_cons_of_mem row hr)) (yielded + 1)
    rw [Csv.CsvRows.collect_eq, List.flatMap_cons, List.append_assoc, Csv.CsvRows.next, if_neg hne,
      hread]
    dsimp only
    rw [hnext, List.length_cons, Nat.add_right_comm, Nat.add_assoc yielded]
    cases Csv.CsvRows.collect ⟨rest, options.columnSeparator, options.columnDelimiter,
      yielded + (rows.length + 1)⟩ <;> rfl

theorem parseCsv_lines (h : Legible options rowSeparator) {rows : List Csv.Row}
    (hrows : ∀ row ∈ rows, row ≠ []) :
    Csv.parseCsv (rows.flatMap (csvLine options rowSeparator)) options.columnSeparator
      options.columnDelimiter = .ok rows := by
  have hcollect := collect_lines h hrows [] (fun _ => nofun) 0
  rw [List.append_nil] at hcollect
  refine hcollect.trans ?_
  rw [Csv.CsvRows.collect_eq, Csv.CsvRows.next, if_pos rfl]
  exact congrArg Except.ok (List.append_nil rows)

/-! ### Runs of a writer -/

/-- Write batches one after the other, up to the first that fails. -/
def SyncArrowToCsvWriter.writeBatches (lib : FormatterLibrary) (w : SyncArrowToCsvWriter) :
    List RecordBatch → Except ImportError Unit × SyncArrowToCsvWriter
  | [] => (.ok (), w)
  | batch :: batches =>
    match w.writeBatch lib batch with
    | (.ok _, w) => w.writeBatches lib batches
    | (.error e, w) => (.error e, w)

/-- The names of the columns of a batch. -/
def columnNames (batch : RecordBatch) : Csv.Row :=
  batch.schema.fields.map fun field => field.name.toList

/-- The headers that are written for batches when so many rows have been counted. -/
def headerRows (options : CsvWriterOptions) : ℕ → List RecordBatch → List Csv.Row
  | _, [] => []
  | counted, batch :: batches =>
    (if options.writeHeader ∧ counted = 0 then [columnNames batch] else []) ++
      headerRows options (counted + batch.numRows) batches

theorem headerRows_of_pos {counted : ℕ} (hpos : 0 < counted) (batches : List RecordBatch) :
    headerRows options counted batches = [] := by
  induction batches generalizing counted with
  | nil => rfl
  | cons batch batches ih =>
    rw [headerRows, if_neg fun h => hpos.ne' h.2, ih (Nat.add_pos_left hpos _)]
    rfl

theorem exists_of_mem_headerRows {counted : ℕ} {batches : List RecordBatch} {row : Csv.Row}
    (h : row ∈ headerRows options counted batches) : ∃ batch ∈ batches, row = columnNames batch := by
  induction batches generalizing counted with
  | nil => cases h
  | cons batch batches ih =>
    rcases List.mem_append.mp h with h | h
    · split_ifs at h
      · exact ⟨batch, List.mem_cons_self, List.mem_singleton.mp h⟩
      · cases h
    · obtain ⟨other, hother, rfl⟩ := ih h
      exact ⟨other, List.mem_cons_of_mem _ hother, rfl⟩

theorem columnNames_ne_nil {batch : RecordBatch} (h : batch.columns ≠ []) :
    columnNames batch ≠ [] := by
  intro hnil
  have hlength := batch.admits.length_eq
  rw [List.map_eq_nil_iff.mp hnil] at hlength
  exact h (List.length_eq_zero_iff.mp hlength.symm)

theorem headerOf_eq (h : Legible options rowSeparator) (counted : ℕ) (batch : RecordBatch) :
    headerOf options counted batch =
      (if options.writeHeader ∧ counted = 0 then [columnNames batch] else []).flatMap
        (csvLine options rowSeparator) := by
  unfold headerOf
  split_ifs
  · rw [List.flatMap_singleton, ← lineText_map h, columnNames, List.map_map]
    rfl
  · rfl

/-- **What a run writes**: the headers, and then the lines of all batches. -/
theorem exists_lines (h : Legible options rowSeparator) {batches : List RecordBatch}
    {w w' : SyncArrowToCsvWriter} (haccepts : Accepts w.writer) (hoptions : w.options = options)
    (hok : w.writeBatches lib batches = (.ok (), w')) :
    ∃ data : List (List (List (Option Csv.Field))), batches.mapM (batchRows lib) = .ok data ∧
      w'.writer.written = w.writer.written ++ Text.bytes
        ((headerRows options w.rowsWritten batches ++ data.flatten.map (fieldsOf options)).flatMap
          (csvLine options rowSeparator)) := by
  induction batches generalizing w with
  | nil =>
    obtain rfl := (Prod.mk.inj hok).2
    refine ⟨[], rfl, ?_⟩
    exact (List.append_nil _).symm
  | cons batch batches ih =>
    subst hoptions
    rw [SyncArrowToCsvWriter.writeBatches] at hok
    unfold SyncArrowToCsvWriter.writeBatch at hok
    rcases writeLines_cases lib w.options batch haccepts w.rowsWritten with
      ⟨-, e, hwrite⟩ | ⟨-, lines, c, hlines, hheld, hwrite⟩ | ⟨-, lines, e, c, -, -, hwrite⟩
    · rw [hwrite] at hok
      cases (Prod.mk.inj hok).1
    · rw [hwrite] at hok
      obtain ⟨data, hdata, hwritten⟩ := 
        ih (w := ⟨c, w.options, w.rowsWritten + batch.numRows⟩) hheld.1 rfl hok
      obtain ⟨rows, hrows, rfl⟩ := exists_batchRows h hlines
      refine ⟨rows :: data, ?_, ?_⟩
      · rw [List.mapM_cons, hrows, hdata]
        rfl
      · -- Behind rows there is no header any more.
        have horder : rows.map (fieldsOf w.options) ++
              headerRows w.options (w.rowsWritten + batch.numRows) batches =
            headerRows w.options (w.rowsWritten + batch.numRows) batches ++
              rows.map (fieldsOf w.options) := by
          rcases Nat.eq_zero_or_pos batch.numRows with hzero | hpos
          · have hlength := (mapM_eq_ok.mp hrows).length_eq
            rw [hzero, List.length_range] at hlength
            rw [List.eq_nil_of_length_eq_zero hlength.symm]
            exact (List.append_nil _).symm
          · rw [headerRows_of_pos (Nat.add_pos_right _ hpos), List.append_nil, List.nil_append]
        dsimp only at hwritten
        rw [hwritten, hheld.2, headerOf_eq h, ← List.flatMap_def, headerRows, List.flatten_cons,
          List.map_append, List.append_assoc, ← Text.bytes_append, ← List.flatMap_append,
          ← List.flatMap_append]
        congr 3
        rw [List.append_assoc, List.append_assoc, ← List.append_assoc (rows.map _), horder,
          List.append_assoc]
    · rw [hwrite] at hok
      cases (Prod.mk.inj hok).1

/-- The null text is told from the texts of the values exactly if none of them is that text. -/
theorem readCell_fieldsOf_iff {rows : List (List (Option Csv.Field))} :
    (rows.map (fieldsOf options)).map (List.map (readCell options.nullValue)) = rows ↔
      ∀ row ∈ rows, some options.nullValue ∉ row := by
  have hcell (cell : Option Csv.Field) : readCell options.nullValue (cell.getD options.nullValue) =
      cell ↔ cell ≠ some options.nullValue := by
    unfold readCell
    rcases cell with _ | field
    · exact iff_of_true (if_pos rfl) nofun
    · by_cases hfield : field = options.nullValue
      · rw [Option.getD_some, if_pos hfield, hfield]
        exact iff_of_false nofun fun hne => hne rfl
      · rw [Option.getD_some, if_neg hfield]
        exact iff_of_true rfl fun heq => hfield (Option.some.inj heq)
  have hself {α : Type} (f : α → α) (xs : List α) : xs.map f = xs ↔ ∀ x ∈ xs, f x = x := by
    refine Iff.trans ?_ (List.map_eq_map_iff (g := id))
    rw [List.map_id]
  have hrow (row : List (Option Csv.Field)) :
      (fieldsOf options row).map (readCell options.nullValue) = row ↔
        some options.nullValue ∉ row := by
    unfold fieldsOf
    rw [List.map_map, hself]
    exact ⟨fun h hmem => (hcell _).mp (h _ hmem) rfl,
      fun h cell hmem => (hcell cell).mpr fun heq => h (heq ▸ hmem)⟩
  rw [List.map_map, hself]
  exact forall₂_congr fun row _ => hrow row

/-- **What an import writes is read back**: behind the headers the texts of all values, row by row.
The nulls are told from the values exactly if no value has the null text. -/
theorem parseCsv_written (lib : FormatterLibrary) (h : Legible options rowSeparator)
    {batches : List RecordBatch} (hcolumns : ∀ batch ∈ batches, batch.columns ≠ [])
    {w : SyncArrowToCsvWriter}
    (hok : SyncArrowToCsvWriter.writeBatches lib ⟨{}, options, 0⟩ batches = (.ok (), w)) :
    ∃ text data, w.writer.written = Text.bytes text ∧ batches.mapM (batchRows lib) = .ok data ∧
      Csv.parseCsv text options.columnSeparator options.columnDelimiter =
        .ok (headerRows options 0 batches ++ data.flatten.map (fieldsOf options)) ∧
      ((data.flatten.map (fieldsOf options)).map (List.map (readCell options.nullValue)) =
          data.flatten ↔
        ∀ row ∈ data.flatten, some options.nullValue ∉ row) := by
  obtain ⟨data, hdata, hwritten⟩ := exists_lines h (w := ⟨{}, options, 0⟩) rfl rfl hok
  refine ⟨_, data, hwritten, hdata, parseCsv_lines h ?_, readCell_fieldsOf_iff⟩
  rintro row hrow
  rcases List.mem_append.mp hrow with hheader | hrow
  · obtain ⟨batch, hbatch, rfl⟩ := exists_of_mem_headerRows hheader
    exact columnNames_ne_nil (hcolumns batch hbatch)
  · obtain ⟨cells, hcells, rfl⟩ := List.mem_map.mp hrow
    obtain ⟨rows, hrows, hcells⟩ := List.mem_flatten.mp hcells
    obtain ⟨batch, hbatch, hrows⟩ := exists_of_mem_mapM hdata hrows
    exact fieldsOf_ne_nil (hcolumns batch hbatch) hrows _ (List.mem_map_of_mem hcells)

/-! ### A batch with quotes and nulls -/

/-- A column of texts and one of numbers. -/
def mixedBatch : RecordBatch where
  schema := ⟨[⟨"NAME", .utf8, true, []⟩, ⟨"N", .int32, true, []⟩]⟩
  columns := [⟨.utf8, [some "a,\"b\"", none]⟩, ⟨.int32, [some 7, none]⟩]
  numRows := 2
  admits := by decide
  lengths := by decide

theorem parseCsv_written_mixed :
    ∃ w, SyncArrowToCsvWriter.writeBatches plainLibrary ⟨{}, {}, 0⟩ [mixedBatch] = (.ok (), w) ∧
      ∃ text data, w.writer.written = Text.bytes text ∧
        [mixedBatch].mapM (batchRows plainLibrary) = .ok data ∧
        Csv.parseCsv text ',' '"' = .ok (data.flatten.map (fieldsOf {})) := by
  have hok : SyncArrowToCsvWriter.writeBatches plainLibrary ⟨{}, {}, 0⟩ [mixedBatch] =
      (.ok (), (SyncArrowToCsvWriter.writeBatches plainLibrary ⟨{}, {}, 0⟩ [mixedBatch]).2) :=
    Prod.ext (by rfl) rfl
  obtain ⟨text, data, htext, hdata, hread, -⟩ :=
    parseCsv_written plainLibrary legible_default (by decide) hok
  exact ⟨_, hok, text, data, htext, hdata, hread⟩

end Exarrow.Import
