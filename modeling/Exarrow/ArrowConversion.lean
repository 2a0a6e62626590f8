import Exarrow.Results.Columns

/-!
# The JSON to Arrow converter

The second way from result data to record batches: a converter that is made for
the columns of a result (`Exarrow.ArrowConverter.new`) and builds each array by
the Exasol type of its column (`Exarrow.Builders.buildArray`). It is strict where
`Exarrow.ResultSet.jsonColumnToArray` is lenient: a value of an unexpected shape
fails.
-/

namespace Exarrow

open Machine Ieee Checked Arrow

namespace Builders

variable (pf : Platform)

/-- One value of a nullable column: null, or what is made of the value. -/
def nullable {α : Type} (f : Json.Value → Exec ColumnConversionError α) (value : Json.Value) :
    Exec ColumnConversionError (Option α) :=
  if value.isNull then .ok none else do return some (← f value)

/-- A value of a shape that the column does not take. -/
def unexpected {α : Type} (row : ℕ) (expected : String) (value : Json.Value) :
    Exec ColumnConversionError α :=
  fail (.invalidValue row s!"Expected {expected}, got: {pf.debug value}")

/-- One value of a boolean column. -/
def booleanValue (row : ℕ) (value : Json.Value) : Exec ColumnConversionError Bool :=
  match value.asBool with
  | some b => .ok b
  | none => unexpected pf row "boolean" value

/-- One value of a text column. -/
def stringValue (row : ℕ) (value : Json.Value) : Exec ColumnConversionError String :=
  match value.asStr with
  | some s => .ok s
  | none => unexpected pf row "string" value

/-! ### Decimals -/

/-- The digits of a decimal text must fit the precision. -/
def validateDecimalPrecision (valueStr : List Char) (precision : UInt8) (row : ℕ) :
    Exec ColumnConversionError Unit :=
  let digits := valueStr.filter Char.isDigit
  let totalDigits := digits.length
  let maxDigits := precision.toNat
  let significantDigits := Text.trimStart '0' digits
  let significantCount := if significantDigits = [] then 1 else significantDigits.length
  if maxDigits < significantCount then
    fail (.overflow row s!"{significantCount} significant digits exceed precision {maxDigits}")
  else if maxDigits + 1 < totalDigits then
    fail (.overflow row s!"{totalDigits} digits exceed precision {maxDigits}")
  else .ok ()

/-- The number of digits of a text without its leading zeros; zero has one. -/
def significantCount (valueStr : List Char) : ℕ :=
  let significantDigits := Text.trimStart '0' (valueStr.filter Char.isDigit)
  if significantDigits = [] then 1 else significantDigits.length

/-- **The check counts the digits that are written**: without the leading zeros at most as many as
the precision, and with them at most one more. -/
theorem validateDecimalPrecision_eq_ok {valueStr : List Char} {precision : UInt8} {row : ℕ}
    {u : Unit} : validateDecimalPrecision valueStr precision row = .ok u ↔
      significantCount valueStr ≤ precision.toNat ∧
        (valueStr.filter Char.isDigit).length ≤ precision.toNat + 1 := by
  change (if precision.toNat < significantCount valueStr then fail _
    else if precision.toNat + 1 < (valueStr.filter Char.isDigit).length then fail _
    else .ok ()) = _ ↔ _
  split
  · exact iff_of_false (fun h => by cases h) (by omega)
  split
  · exact iff_of_false (fun h => by cases h) (by omega)
  · exact iff_of_true rfl (by omega)

/-- One value of a decimal column: an integer is multiplied in 128 bits, another
number as a float, rounded and printed, and a text is read. -/
def parseDecimal (precision : UInt8) (scale : SInt 8) (row : ℕ) (value : Json.Value) :
    Exec ColumnConversionError (SInt 128) :=
  match value.asI64 with
  | some n => do
    let power ← pow10 pf.overflow (scale.val % 2 ^ 32).toNat
    mul pf.overflow (n.extend 128 SInt.le_64_128) power
  | none =>
    match value.asF64 with
    | some n =>
      let scaled := (F64.mul n (pf.powi10 (scale.extend 32 SInt.le_8_32))).round
      orFail (.overflow row "Value does not fit in 128 bits") (parseSigned? 128 scaled.display)
    | none =>
      match value.asStr with
      | none => unexpected pf row "numeric value" value
      | some valueStr => do
        validateDecimalPrecision valueStr.toList precision row
        mapError (.invalidValue row) (parseDecimalToI128 pf.overflow valueStr.toList scale)

/-! ### Other values -/

/-- One value of a column of floats: a number, the name of a special value, or the
text of a number. -/
def doubleValue (row : ℕ) (value : Json.Value) : Exec ColumnConversionError F64 :=
  match value.asF64 with
  | some f => .ok f
  | none =>
    match value.asStr with
    | some "Infinity" => .ok (Pattern.infinity false F64.exponents_pos)
    | some "-Infinity" => .ok (Pattern.infinity true F64.exponents_pos)
    | some "NaN" => .ok Pattern.nan
    | some s => orFail (.invalidValue row s!"Invalid float value: {s}") (F64.parse? s.toList)
    | none => unexpected pf row "number" value

/-- One value that is read from a text. -/
def parsedValue {α : Type} (expected : String) (parse : List Char → Exec String α) (row : ℕ)
    (value : Json.Value) : Exec ColumnConversionError α :=
  match value.asStr with
  | some s => mapError (.invalidValue row) (parse s.toList)
  | none => unexpected pf row expected value

/-- The value of one byte in base sixteen, after an optional plus sign. -/
def byteFromHex? (s : List Char) : Option UInt8 :=
  let digit? (c : Char) : Option ℕ :=
    if c.isDigit then some (c.toNat - '0'.toNat)
    else if 'a' ≤ c ∧ c ≤ 'f' then some (c.toNat - 'a'.toNat + 10)
    else if 'A' ≤ c ∧ c ≤ 'F' then some (c.toNat - 'A'.toNat + 10)
    else none
  let digits := match s with
    | '+' :: c :: rest => c :: rest
    | _ => s
  match digits with
  | [] => none
  | _ => ((digits.mapM digit?).map fun ds => ds.foldl (fun n d => 16 * n + d) 0).bind fun n =>
      if n < 256 then some (UInt8.ofNat n) else none

/-- The bytes of a hexadecimal text, two bytes of the text each; a cut inside a
character stops the program. -/
def decodeHex (s : List Char) : Exec Unit (List UInt8) :=
  if Text.byteLen s % 2 ≠ 0 then fail ()
  else (List.range (Text.byteLen s / 2)).mapM fun i =>
    match Text.slice? (2 * i) (2 * i + 2) s with
    | none => stop
    | some two => orFail () (byteFromHex? two)

/-- One value of a binary column. -/
def binaryValue (row : ℕ) (value : Json.Value) : Exec ColumnConversionError (List UInt8) :=
  match value.asStr with
  | some s => mapError (fun _ => .invalidValue row s!"Invalid hex string: {s}")
      (decodeHex s.toList)
  | none => unexpected pf row "hex string" value

/-! ### Arrays -/

/-- The array of a column of an Exasol type. -/
def buildTypedArray (exasolType : ExasolType) (values : List Json.Value) :
    Exec ColumnConversionError Column :=
  match exasolType with
  | .boolean => do
    return ⟨.boolean, ← eachRow (fun row => nullable (booleanValue pf row)) values⟩
  | .char _ | .varchar _ => do
    return ⟨.utf8, ← eachRow (fun row => nullable (stringValue pf row)) values⟩
  | .decimal precision scale => do
    mapError (fun e => .other (.arrowError e)) (ofExcept (checkDecimalType precision scale))
    let cells ← eachRow (fun row => nullable (parseDecimal pf precision scale row)) values
    return ⟨.decimal128 precision scale, cells⟩
  | .double => do
    return ⟨.float64, ← eachRow (fun row => nullable (doubleValue pf row)) values⟩
  | .date => do
    return ⟨.date32, ← eachRow (fun row => nullable
      (parsedValue pf "date string" (parseDateToDays pf.overflow) row)) values⟩
  | .timestamp withLocalTimeZone => do
    let cells ← eachRow (fun row => nullable
      (parsedValue pf "timestamp string" (parseTimestampToMicros pf.overflow) row)) values
    return ⟨.timestamp .microsecond (if withLocalTimeZone then some "UTC" else none), cells⟩
  | .intervalYearToMonth | .intervalDayToSecond _ => do
    return ⟨.interval .monthDayNano, ← eachRow (fun row => nullable
      (parsedValue pf "interval string" (parseInterval pf.overflow) row)) values⟩
  | .geometry _ | .hashtype _ => do
    return ⟨.binary, ← eachRow (fun row => nullable (binaryValue pf row)) values⟩

/-- The array of a result column; an error names the column, the row and the
value. -/
def buildArray (exasolType : ExasolType) (values : List Json.Value) (column : ℕ)
    (columnName : String) : Exec ConversionError Column :=
  mapError (ColumnConversionError.intoConversionError column columnName values
    (TypeMapper.exasolToArrow exasolType)) (buildTypedArray pf exasolType values)

end Builders

/-- A converter for the result data of known columns. -/
structure ArrowConverter where
  /-- The schema of the batches. -/
  schema : Schema
  /-- The types of the columns. -/
  columnTypes : List ExasolType

namespace ArrowConverter

/-- The converter for the given columns. -/
def new (columns : List Messages.ColumnInfo) : Except ConversionError ArrowConverter := do
  let metadata : List ColumnMetadata ← columns.mapM fun col => do
    let t ← parseExasolType col.dataType
    return { name := col.name, dataType := t, nullable := true }
  return ⟨SchemaBuilder.build metadata, metadata.map ColumnMetadata.dataType⟩

variable (pf : Platform) (conv : ArrowConverter)

/-- The first row must have a value for each column. -/
def checkRowWidth (rows : List (List Json.Value)) : Exec ConversionError Unit :=
  match rows with
  | first :: _ =>
    if first.length ≠ conv.columnTypes.length then
      fail (.schemaMismatch
        s!"Data has {first.length} columns, expected {conv.columnTypes.length}")
    else .ok ()
  | [] => .ok ()

/-- The batch of columns of JSON values. -/
def buildRecordBatch (columnValues : List (List Json.Value)) :
    Exec ConversionError RecordBatch := do
  let arrays ← eachRow (fun index exasolType =>
    match columnValues[index]?, conv.schema.fields[index]? with
    | some values, some field => Builders.buildArray pf exasolType values index field.name
    | _, _ => stop) conv.columnTypes
  mapError .arrowError (ofExcept (RecordBatch.tryNew conv.schema arrays))

/-- Result data as a record batch. -/
def convertToRecordBatch (resultData : Messages.ResultData) : Exec ConversionError RecordBatch :=
  match resultData.data with
  | .arrow batch => .ok batch
  | .json rows =>
    if rows = [] then .ok (RecordBatch.newEmpty conv.schema)
    else do
      conv.checkRowWidth rows
      conv.buildRecordBatch pf ((List.range conv.columnTypes.length).map
        (ResultSet.columnOf rows))

end ArrowConverter

end Exarrow
