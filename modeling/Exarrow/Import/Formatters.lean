import Exarrow.Csv.Rows
import Exarrow.DecimalText
import Exarrow.Formatting
import Exarrow.IntervalText
import Exarrow.Foundations.FloatText

/-!
# The CSV text of Arrow values

An import writes the values of a record batch as CSV text. Every Arrow type that can be imported
has a formatter (`Exarrow.Import.resolveValueFormatter`), which turns a value that is not null into
the text of a field and may refuse it. A row is the texts of its values with separators between
them and a row separator behind them (`Exarrow.Import.formatRow`), a header the names of the
columns (`Exarrow.Import.formatHeader`).

Whether a type has a formatter is asked of a schema before anything is written
(`Exarrow.Import.checkSchemaConverts`), and again for every value. **The two cannot disagree**: a
schema passes exactly when each of its types has a formatter
(`Exarrow.Import.checkSchemaConverts_eq_ok`), and then no value is refused for its type.
-/

namespace Exarrow.Import

open Machine Ieee Arrow Numeral

/-! ### Options -/

/-- How CSV text is written. -/
structure CsvWriterOptions where
  columnSeparator : Char := ','
  columnDelimiter : Char := '"'
  rowSeparator : List Char := ['\n']
  nullValue : List Char := []
  writeHeader : Bool := false

/-- The functions of libraries that the conversion calls. -/
structure FormatterLibrary where
  /-- The calendar. -/
  chrono : Chrono
  /-- The text of an Arrow type for a developer. -/
  debug : DataType → String

/-! ### Formatters -/

/-- Converts the values of a type to the texts of fields. -/
abbrev ValueFormatter (t : DataType) : Type :=
  CsvWriterOptions → t.Native → Except ImportError (List Char)

/-- A field is put in quotes where it holds a character that would end it. -/
def escapeString (options : CsvWriterOptions) (s : List Char) : List Char :=
  Csv.formatCsvField options.columnSeparator options.columnDelimiter s

/-- The text of a number with a fraction. -/
def formatFloat (val : F64) : List Char :=
  if val.isNan then "NaN".toList
  else if val.isSpecial then (if val.neg then "-Infinity".toList else "Infinity".toList)
  else F64.display val

/-- Bytes as pairs of hexadecimal digits in lower case. -/
def hexEncode (bs : List UInt8) : List Char := bs.flatMap fun b => pad 2 (Nat.toDigits 16 b.toNat)

/-- The text of a date given in milliseconds, which are floored to days. -/
def formatDate64 (chrono : Chrono) (milliseconds : SInt 64) : Except String (List Char) :=
  let outsideRange := s!"Date64 value {milliseconds.val} is outside 0001-01-01 to 9999-12-31, " ++
    "the range Exasol accepts"
  match SInt.ofInt? 32 (milliseconds.divEuclid 86400000).val with
  | none => .error outsideRange
  | some days => (formatDate32 chrono days).mapError fun _ => outsideRange

def formatBoolean : ValueFormatter .boolean :=
  fun _ value => .ok (if value then "true".toList else "false".toList)

/-- An integer of any width, by its value. -/
def formatInteger {α : Type} (val : α → ℤ) (_ : CsvWriterOptions) (value : α) :
    Except ImportError (List Char) :=
  .ok (intText (val value))

/-- A floating point number of any width, as the widest one. -/
def formatFloatValue {α : Type} (into : α → F64) (_ : CsvWriterOptions) (value : α) :
    Except ImportError (List Char) :=
  .ok (formatFloat (into value))

def formatString (options : CsvWriterOptions) (value : String) : Except ImportError (List Char) :=
  .ok (escapeString options value.toList)

def formatBinary (_ : CsvWriterOptions) (value : List UInt8) : Except ImportError (List Char) :=
  .ok (hexEncode value)

/-- A decimal of any width, by its unscaled value. -/
def formatDecimalValue {w : ℕ} (scale : SInt 8) (_ : CsvWriterOptions) (value : SInt w) :
    Except ImportError (List Char) :=
  .ok (formatDecimalText (intText value.val) scale)

def formatYearMonthValue : ValueFormatter (.interval .yearMonth) :=
  fun _ months => .ok (formatIntervalYearToMonth months)

def formatDayTimeValue : ValueFormatter (.interval .dayTime) := fun _ value =>
  (formatIntervalDayToSecond value.1 (value.2.extend 64 SInt.le_32_64)).mapError .conversionError

def formatMonthDayNanoValue : ValueFormatter (.interval .monthDayNano) :=
  fun _ value => (formatIntervalMonthDayNano value).mapError .conversionError

/-- The key types that a dictionary formatter knows. -/
def dictionaryFormatter {α : Type} (format : α) : DataType → Option α
  | .int8 | .int16 | .int32 | .int64 | .uint8 | .uint16 | .uint32 | .uint64 => some format
  | _ => none

/-- The text of a slot: that of a null, or that of the value. -/
def formatSlot {t : DataType} (formatter : ValueFormatter t) (options : CsvWriterOptions) :
    Option t.Native → Except ImportError (List Char)
  | none => .ok options.nullValue
  | some value => formatter options value

section Formatters

variable (lib : FormatterLibrary)

/-- The error for a type that is not converted. -/
def unsupportedType (t : DataType) : ImportError :=
  .conversionError s!"Unsupported Arrow type for CSV conversion: {lib.debug t}"

/-- **The formatter of the values of a type.** A dictionary of texts has the formatter of its
values. -/
def resolveValueFormatter : (t : DataType) → Except ImportError (ValueFormatter t)
  | .boolean => .ok formatBoolean
  | .int8 | .int16 | .int32 | .int64 => .ok (formatInteger SInt.val)
  | .uint8 => .ok (formatInteger fun n : UInt8 => (n.toNat : ℤ))
  | .uint16 => .ok (formatInteger fun n : UInt16 => (n.toNat : ℤ))
  | .uint32 => .ok (formatInteger fun n : UInt32 => (n.toNat : ℤ))
  | .uint64 => .ok (formatInteger fun n : UInt64 => (n.toNat : ℤ))
  | .float32 => .ok (formatFloatValue widen)
  | .float64 => .ok (formatFloatValue id)
  | .utf8 | .largeUtf8 | .utf8View => .ok formatString
  | .dictionary key .utf8 =>
    match dictionaryFormatter (@formatSlot .utf8 formatString) key with
    | some formatter => .ok formatter
    | none => .error (unsupportedType lib (.dictionary key .utf8))
  | .dictionary key .largeUtf8 =>
    match dictionaryFormatter (@formatSlot .largeUtf8 formatString) key with
    | some formatter => .ok formatter
    | none => .error (unsupportedType lib (.dictionary key .largeUtf8))
  | .date32 => .ok fun _ days => (formatDate32 lib.chrono days).mapError .conversionError
  | .date64 => .ok fun _ millis => (formatDate64 lib.chrono millis).mapError .conversionError
  | .timestamp unit _ =>
    .ok fun _ value => (formatTimestamp lib.chrono unit value).mapError .conversionError
  | .decimal128 _ scale | .decimal256 _ scale => .ok (formatDecimalValue scale)
  | .binary | .largeBinary | .binaryView | .fixedSizeBinary _ => .ok formatBinary
  | .interval .yearMonth => .ok formatYearMonthValue
  | .interval .dayTime => .ok formatDayTimeValue
  | .interval .monthDayNano => .ok formatMonthDayNanoValue
  | other => .error (unsupportedType lib other)

/-- The text of a slot of a column. The type is resolved before the slot is looked at. -/
def formatValue (options : CsvWriterOptions) (array : Column) (rowIdx : ℕ) :
    Except ImportError (List Char) := do
  let formatter ← resolveValueFormatter lib array.dataType
  formatSlot formatter options array.cells[rowIdx]?.join

/-! ### Rows and headers -/

/-- Every column has a formatter; the error names the first that has none. -/
def checkSchemaConverts (schema : Schema) : Except ImportError Unit :=
  forM schema.fields fun field =>
    match resolveValueFormatter lib field.dataType with
    | .ok _ => .ok ()
    | .error _ => .error (.conversionError (s!"Column '{field.name}': " ++
        s!"Unsupported Arrow type for CSV conversion: {lib.debug field.dataType}"))

/-- The texts of a line with separators between them, ended by a row separator. -/
def lineText (options : CsvWriterOptions) (texts : List (List Char)) : List Char :=
  [options.columnSeparator].intercalate texts ++ options.rowSeparator

/-- The header of a batch. -/
def formatHeader (options : CsvWriterOptions) (batch : RecordBatch) : List Char :=
  lineText options (batch.schema.fields.map fun field => escapeString options field.name.toList)

/-- One row of a batch. -/
def formatRow (options : CsvWriterOptions) (batch : RecordBatch) (rowIdx : ℕ) :
    Except ImportError (List Char) := do
  let texts ← batch.columns.mapM fun array => formatValue lib options array rowIdx
  return lineText options texts

variable {lib}

/-- **A schema passes the check exactly when each of its types has a formatter.** -/
theorem checkSchemaConverts_eq_ok {schema : Schema} : checkSchemaConverts lib schema = .ok () ↔
    ∀ t ∈ schema.types, ∃ formatter, resolveValueFormatter lib t = .ok formatter := by
  unfold checkSchemaConverts Schema.types
  induction schema.fields with
  | nil => exact iff_of_true rfl (by simp)
  | cons field fields ih =>
    rw [List.forM_cons, List.map_cons, List.forall_mem_cons]
    cases h : resolveValueFormatter lib field.dataType with
    | error e =>
      refine iff_of_false (by simp [bind, Except.bind]) ?_
      rintro ⟨⟨formatter, hf⟩, -⟩
      cases hf
    | ok formatter =>
      rw [← ih]
      refine Iff.trans Iff.rfl ⟨fun hrest => ⟨⟨formatter, rfl⟩, hrest⟩, fun hall => hall.2⟩

end Formatters

end Exarrow.Import
