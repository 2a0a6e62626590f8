import Exarrow.Conversion
import Exarrow.Csv.Rows
import Exarrow.Foundations.FloatText
import Exarrow.Results.Columns

/-!
# Arrays of exported texts

An export to Arrow data and an export to a Parquet file both read arrays off the columns of CSV
texts, each with functions of its own: `Exarrow.Export.buildArrayFromStrings` and
`Exarrow.Export.buildArrayFromCsvColumn`. They know the same types and read the same values
(`Exarrow.Export.CellReader`), but take different texts for nulls: the first an empty text and
the null marker, the second the marker, or the empty text where there is none
(`Exarrow.Export.isNullValue`, `Exarrow.Export.fieldValue`).

Every array is read by one reader, or its type is refused whatever the texts are
(`Exarrow.Export.buildArrayFromCsvColumn_cases`). What is read of a text depends neither on its
row nor on what stands above and below it (`Exarrow.Export.fromCsv_eq_ok`,
`Exarrow.Export.fromStrings_eq_ok`).
-/

namespace Exarrow.Export

open Machine Ieee Checked Arrow

/-- The texts of the libraries. -/
structure LibraryTexts where
  /-- Why a text is no integer. -/
  parseIntError : List Char → String
  /-- Why a text is no float. -/
  parseFloatError : List Char → String
  /-- A type as a developer sees it. -/
  debugType : DataType → String
  arrowError : ArrowError → String

/-- What the texts of a column are read as. -/
structure CellReader where
  dataType : DataType
  read : List Char → Exec String dataType.Native

/-- The words for the two values of a boolean column. Capital letters do not matter; no letter
beyond ASCII has a letter of these words for its small one. -/
def booleanOfWord (value : List Char) : Option Bool :=
  match String.ofList (value.map Char.toLower) with
  | "true" | "1" | "t" | "yes" | "y" => some true
  | "false" | "0" | "f" | "no" | "n" => some false
  | _ => none

section Arrays

variable (texts : LibraryTexts) (ov : Overflow)

/-! ### Arrays for Arrow data -/

/-- Whether a text stands for a null. -/
def isNullValue (value : List Char) (nullValue : Option (List Char)) : Bool :=
  value = [] ||
    match nullValue with
    | some nv => value = nv
    | none => false

/-- An array whose nulls are errors unless the field allows them. -/
def fromStrings (reader : CellReader) (values : List (List Char)) (nullable : Bool)
    (nullValue : Option (List Char)) (startRow column : ℕ) : Exec ArrowExportError Column := do
  let cells ← eachRow (fun i value =>
    if isNullValue value nullValue then
      if nullable then .ok none
      else fail (.typeConversionError (startRow + i) column "NULL value in non-nullable column")
    else mapError (.typeConversionError (startRow + i) column) (some <$> reader.read value)) values
  return ⟨reader.dataType, cells⟩

section Members

variable (values : List (List Char)) (nullable : Bool) (nullValue : Option (List Char))
  (startRow column : ℕ)

def buildBooleanArray : Exec ArrowExportError Column :=
  fromStrings ⟨.boolean, fun value =>
    orFail s!"Invalid boolean value: {String.ofList value}" (booleanOfWord value)⟩
    values nullable nullValue startRow column

def buildInt64Array : Exec ArrowExportError Column :=
  fromStrings ⟨.int64, fun value =>
    orFail s!"Invalid integer value '{String.ofList value}': {texts.parseIntError value}"
      (parseSigned? 64 value)⟩
    values nullable nullValue startRow column

/-- The special floats have names of their own. -/
def specialFloat? (value : List Char) : Option F64 :=
  match String.ofList value with
  | "Infinity" | "inf" => some (Pattern.infinity false F64.exponents_pos)
  | "-Infinity" | "-inf" => some (Pattern.infinity true F64.exponents_pos)
  | "NaN" | "nan" => some Pattern.nan
  | _ => none

def buildFloat64Array : Exec ArrowExportError Column :=
  fromStrings ⟨.float64, fun value =>
    orFail s!"Invalid float value '{String.ofList value}': {texts.parseFloatError value}"
      (specialFloat? value <|> F64.parse? value)⟩
    values nullable nullValue startRow column

/-- A null of a field without nulls is the empty text. -/
def buildStringArray : Exec ArrowExportError Column :=
  .ok ⟨.utf8, values.map fun value =>
    if isNullValue value nullValue then (if nullable then none else some "")
    else some (String.ofList value)⟩

def buildDate32Array : Exec ArrowExportError Column :=
  fromStrings ⟨.date32, parseDateToDays ov⟩ values nullable nullValue startRow column

/-- The array has no time zone, whatever its field has. -/
def buildTimestampArray : Exec ArrowExportError Column :=
  fromStrings ⟨.timestamp .microsecond none, parseTimestampToMicros ov⟩
    values nullable nullValue startRow column

def buildDecimal128Array (precision : UInt8) (scale : SInt 8) : Exec ArrowExportError Column := do
  mapError (fun e => .arrowError (texts.arrowError e)) (ofExcept (checkDecimalType precision scale))
  fromStrings ⟨.decimal128 precision scale, fun value => parseDecimalToI128 ov value scale⟩
    values nullable nullValue startRow column

/-- An array of the type of a field. -/
def buildArrayFromStrings (dataType : DataType) : Exec ArrowExportError Column :=
  match dataType with
  | .boolean => buildBooleanArray values nullable nullValue startRow column
  | .int64 => buildInt64Array texts values nullable nullValue startRow column
  | .float64 => buildFloat64Array texts values nullable nullValue startRow column
  | .utf8 => buildStringArray values nullable nullValue
  | .date32 => buildDate32Array ov values nullable nullValue startRow column
  | .timestamp .microsecond _ => buildTimestampArray ov values nullable nullValue startRow column
  | .decimal128 precision scale =>
    buildDecimal128Array texts ov values nullable nullValue startRow column precision scale
  | dataType => fail (.schemaError s!"Unsupported data type: {texts.debugType dataType}")

end Members

/-! ### Arrays for Parquet files -/

/-- The value of a field, none if it stands for a null. -/
def fieldValue (field : List Char) (nullValue : Option (List Char)) : Option (List Char) :=
  let isNull : Bool := match nullValue with
    | some marker => field = marker
    | none => field = []
  if isNull then none else some field

/-- What is read of a value that may be missing. -/
def CellReader.readValue (reader : CellReader) :
    Option (List Char) → Exec String (Option reader.dataType.Native)
  | none => .ok none
  | some value => some <$> reader.read value

/-- An array that may have nulls. -/
def fromCsv (reader : CellReader) (values : List (Option (List Char))) :
    Exec ParquetExportError Column := do
  let cells ← eachRow (fun row value => mapError (.csvParse row) (reader.readValue value)) values
  return ⟨reader.dataType, cells⟩

section Members

variable (values : List (Option (List Char))) (colIdx : ℕ)

def buildBooleanArrayFromCsv : Exec ParquetExportError Column :=
  fromCsv ⟨.boolean, fun s =>
    orFail s!"Invalid boolean value at column {colIdx}: {String.ofList s}" (booleanOfWord s)⟩ values

def buildStringArrayFromCsv : Exec ParquetExportError Column :=
  fromCsv ⟨.utf8, fun s => .ok (String.ofList s)⟩ values

def buildFloat64ArrayFromCsv : Exec ParquetExportError Column :=
  fromCsv ⟨.float64, fun s =>
    orFail s!"Invalid float value at column {colIdx}: {String.ofList s}" (F64.parse? s)⟩ values

/-- An error with its column. -/
def atColumn (colIdx : ℕ) (e : String) : String := s!"at column {colIdx}: {e}"

def buildDecimal128ArrayFromCsv (precision : UInt8) (scale : SInt 8) :
    Exec ParquetExportError Column := do
  mapError (fun e => .arrow (texts.arrowError e)) (ofExcept (checkDecimalType precision scale))
  fromCsv ⟨.decimal128 precision scale, fun s =>
    mapError (atColumn colIdx) (parseDecimalToI128 ov s scale)⟩ values

def buildDate32ArrayFromCsv : Exec ParquetExportError Column :=
  fromCsv ⟨.date32, fun s => mapError (atColumn colIdx) (parseDateToDays ov s)⟩ values

/-- The array has no time zone, whatever its field has. -/
def buildTimestampArrayFromCsv : Exec ParquetExportError Column :=
  fromCsv ⟨.timestamp .microsecond none, fun s =>
    mapError (atColumn colIdx) (parseTimestampToMicros ov s)⟩ values

def buildInt64ArrayFromCsv : Exec ParquetExportError Column :=
  fromCsv ⟨.int64, fun s =>
    orFail s!"Invalid integer value at column {colIdx}: {String.ofList s}" (parseSigned? 64 s)⟩ values

/-- An array of the type of a field. -/
def buildArrayFromCsvColumn (field : Arrow.Field) : Exec ParquetExportError Column :=
  match field.dataType with
  | .boolean => buildBooleanArrayFromCsv values colIdx
  | .utf8 => buildStringArrayFromCsv values
  | .float64 => buildFloat64ArrayFromCsv values colIdx
  | .decimal128 precision scale => buildDecimal128ArrayFromCsv texts ov values colIdx precision scale
  | .date32 => buildDate32ArrayFromCsv ov values colIdx
  | .timestamp .microsecond _ => buildTimestampArrayFromCsv ov values colIdx
  | .int64 => buildInt64ArrayFromCsv values colIdx
  | dataType => fail (.schema
      s!"Unsupported data type for Parquet export: {texts.debugType dataType}")

end Members

/-! ### What an array holds -/

/-- An array for a Parquet file holds what is read of each of its values. -/
theorem fromCsv_eq_ok {reader : CellReader} {values : List (Option (List Char))} {c : Column} :
    fromCsv reader values = .ok c ↔ ∃ cells, c = ⟨reader.dataType, cells⟩ ∧
      List.Forall₂ (fun value cell => reader.readValue value = .ok cell) values cells := by
  have hrow (row : ℕ) (value : Option (List Char)) (cell : Option reader.dataType.Native) :
      mapError (ParquetExportError.csvParse row) (reader.readValue value) = .ok cell ↔
        reader.readValue value = .ok cell := mapError_eq_ok
  unfold fromCsv
  rw [bind_eq_ok]
  constructor
  · rintro ⟨cells, hcells, hc⟩
    exact ⟨cells, (Except.ok.inj hc).symm, (eachRow_eq_ok_iff hrow).mp hcells⟩
  · rintro ⟨cells, rfl, hcells⟩
    exact ⟨cells, (eachRow_eq_ok_iff hrow).mpr hcells, rfl⟩

/-- An error of such an array names a row whose value is not read. -/
theorem fromCsv_eq_fail {reader : CellReader} {values : List (Option (List Char))}
    {e : ParquetExportError} (h : fromCsv reader values = fail e) :
    ∃ row value message, values[row]? = some value ∧ reader.readValue value = fail message ∧
      e = .csvParse row message := by
  unfold fromCsv at h
  cases hcells : eachRow (fun row value =>
      mapError (ParquetExportError.csvParse row) (reader.readValue value)) values with
  | ok cells =>
    rw [hcells] at h
    cases h
  | error fault =>
    rw [hcells] at h
    cases h
    obtain ⟨row, value, hvalue, hfail⟩ := eachRow_eq_error hcells
    obtain ⟨message, hmessage, rfl⟩ := mapError_eq_fail.mp hfail
    exact ⟨row, value, message, hvalue, hmessage, rfl⟩

/-- What an array for Arrow data holds for a text. -/
def StringCell {α : Type} (read : List Char → Exec String α) (nullable : Bool)
    (nullValue : Option (List Char)) (value : List Char) (cell : Option α) : Prop :=
  if isNullValue value nullValue then nullable = true ∧ cell = none
  else ∃ a, read value = .ok a ∧ cell = some a

/-- An array for Arrow data holds what is read of each of its texts. -/
theorem fromStrings_eq_ok {reader : CellReader} {values : List (List Char)} {nullable : Bool}
    {nullValue : Option (List Char)} {startRow column : ℕ} {c : Column} :
    fromStrings reader values nullable nullValue startRow column = .ok c ↔
      ∃ cells, c = ⟨reader.dataType, cells⟩ ∧
        List.Forall₂ (StringCell reader.read nullable nullValue) values cells := by
  have hrow (i : ℕ) (value : List Char) (cell : Option reader.dataType.Native) :
      (if isNullValue value nullValue then
        if nullable then .ok none
        else fail (.typeConversionError (startRow + i) column "NULL value in non-nullable column")
      else mapError (ArrowExportError.typeConversionError (startRow + i) column)
        (some <$> reader.read value)) = .ok cell ↔
      StringCell reader.read nullable nullValue value cell := by
    unfold StringCell
    split
    · cases nullable with
      | true => exact ⟨fun h => ⟨rfl, (Except.ok.inj h).symm⟩, fun h => h.2 ▸ rfl⟩
      | false => exact ⟨nofun, fun h => nomatch h.1⟩
    · rw [mapError_eq_ok]
      cases hread : reader.read value with
      | error fault => exact ⟨nofun, fun ⟨_, h, _⟩ => nomatch h⟩
      | ok a =>
        exact ⟨fun h => ⟨a, rfl, (Except.ok.inj h).symm⟩, fun ⟨b, h, hcell⟩ => by
          rw [hcell, Except.ok.inj h]
          rfl⟩
  unfold fromStrings
  rw [bind_eq_ok]
  constructor
  · rintro ⟨cells, hcells, hc⟩
    exact ⟨cells, (Except.ok.inj hc).symm, (eachRow_eq_ok_iff hrow).mp hcells⟩
  · rintro ⟨cells, rfl, hcells⟩
    exact ⟨cells, (eachRow_eq_ok_iff hrow).mpr hcells, rfl⟩

/-- An array of texts without forbidden nulls is read like the others. -/
theorem buildStringArray_eq {values : List (List Char)} {nullable : Bool}
    {nullValue : Option (List Char)}
    (h : nullable = false → ∀ value ∈ values, isNullValue value nullValue = false)
    (startRow column : ℕ) : buildStringArray values nullable nullValue =
      fromStrings ⟨.utf8, fun value => .ok (String.ofList value)⟩ values nullable nullValue startRow
        column := by
  unfold buildStringArray
  symm
  refine fromStrings_eq_ok.mpr ⟨_, rfl, ?_⟩
  rw [List.forall₂_map_right_iff, List.forall₂_same]
  intro value hvalue
  unfold StringCell
  split
  · rename_i hnull
    cases nullable with
    | true => exact ⟨rfl, rfl⟩
    | false => exact absurd hnull (by rw [h rfl value hvalue]; exact Bool.false_ne_true)
  · exact ⟨_, rfl, rfl⟩

/-- **Arrays for Parquet files**: either none is built, or the values are read one by one. -/
theorem buildArrayFromCsvColumn_cases (field : Arrow.Field) (colIdx : ℕ) :
    (∃ e, (∀ row message, e ≠ .csvParse row message) ∧
      ∀ values, buildArrayFromCsvColumn texts ov values colIdx field = fail e) ∨
    ∃ reader, ∀ values, buildArrayFromCsvColumn texts ov values colIdx field =
      fromCsv reader values := by
  unfold buildArrayFromCsvColumn
  split
  case h_4 precision scale _ =>
    cases hcheck : checkDecimalType precision scale with
    | error e =>
      refine .inl ⟨.arrow (texts.arrowError e), nofun, fun values => ?_⟩
      unfold buildDecimal128ArrayFromCsv
      rw [hcheck]
      rfl
    | ok u =>
      refine .inr ⟨⟨.decimal128 precision scale, fun s =>
        mapError (atColumn colIdx) (parseDecimalToI128 ov s scale)⟩, fun values => ?_⟩
      unfold buildDecimal128ArrayFromCsv
      rw [hcheck]
      rfl
  case h_8 => exact .inl ⟨.schema _, fun _ _ => nofun, fun values => rfl⟩
  all_goals exact .inr ⟨_, fun values => rfl⟩

end Arrays

end Exarrow.Export
