import Exarrow.Foundations.Rounding
import Exarrow.Native.ResultParser
import Exarrow.Prepared
import Exarrow.TemporalText

/-!
# Parameters of prepared statements on the wire

The execution of a prepared statement sends a table: a header that describes its columns
(`Exarrow.Native.payloadPrefix`), and then its values, row by row
(`Exarrow.Native.writeParameterRows`). The type of a column is the one that the server
reported for the parameter; without one it is taken from the first value of the column
(`Exarrow.Native.inferWireType`).

A value is written as the type of its column asks (`Exarrow.Native.writeParamValue`). A
decimal is sent as a whole number of 64 bits, scaled by the digits after its point
(`Exarrow.Native.scaleDecimalValue`).

Rows that are too many for one message are encoded once and split into ranges
(`Exarrow.Native.splitParameterRows`), each of which becomes a message of its own
(`Exarrow.Native.buildRangePayload`).

The powers of ten that are floats and the texts of JSON values come from the libraries
that the encoder is built on (`Exarrow.Native.EncoderLibraries`).
-/

namespace Exarrow.Native

open Machine Ieee Checked

/-! ### Libraries -/

/-- What the encoder takes from the libraries it is built on. -/
structure EncoderLibraries where
  /-- What arithmetic does when a result does not fit. -/
  overflow : Overflow
  /-- A float to the power of an integer. How precise it is, is not specified. -/
  powi : F64 → SInt 32 → F64
  /-- The JSON text of a value. -/
  jsonText : Json.Value → String
  jsonText_bool : ∀ b, jsonText (.bool b) = if b then "true" else "false"
  jsonText_ofI64 : ∀ i, (jsonText (Json.ofI64 i)).toList = Numeral.intText i.val

/-- Libraries that compute powers to the nearest float and write numbers in decimal. -/
def plainEncoderLibraries : EncoderLibraries where
  overflow := .panics
  powi x e := .ofRat 52 11 x.neg (x.magnitude ^ e.val)
  jsonText
    | .bool b => if b then "true" else "false"
    | .number (.posInt n _) => String.ofList (Numeral.intText n)
    | .number (.negInt n _) => String.ofList (Numeral.intText n.val)
    | .number (.float f _) => String.ofList f.display
    | _ => ""
  jsonText_bool _ := rfl
  jsonText_ofI64 i := by
    unfold Json.ofI64
    by_cases h : i.val < 0
    · rw [dif_pos h]
      exact String.toList_ofList
    · rw [dif_neg h]
      show (String.ofList (Numeral.intText ((i.val.toNat : ℕ) : ℤ))).toList = _
      rw [String.toList_ofList, Int.toNat_of_nonneg (not_lt.mp h)]

/-! ### Columns -/

/-- The number of a type. -/
def WireType.id : WireType → UInt32
  | smallint => 4
  | integer => 5
  | decimal => 6
  | real => 7
  | double => 8
  | boolean => 9
  | char => 10
  | date => 14
  | binary => 15
  | intervalYear => 16
  | intervalDay => 17
  | timestamp => 21
  | smalldecimal => 63
  | bigdecimal => 64
  | geometry => 123
  | timestampLocalTz => 124
  | timestampUtc => 125
  | hashtype => 126
  | other id => id

/-- The bit of a string type whose texts are UTF-8. -/
def isUtf8Flag : UInt8 := 0x10

/-- The digits of the fractions of seconds that a timestamp parameter declares. -/
def timestampParamPrecision : ℤ := 9

/-- The number of tables in a message. -/
def parameterTableCount : ℤ := 1

/-- The byte before a table. -/
def isTable : UInt8 := 1

/-- The layout of a column of parameters. -/
structure ParameterColumn where
  name : String
  wireType : WireType
  scale : SInt 32
  deriving DecidableEq

/-- The wire type of a reported type. -/
def dataTypeToWireType (dt : Messages.DataType) : WireType :=
  match dt.typeName with
  | "DECIMAL" => .decimal
  | "DOUBLE" => .double
  | "BOOLEAN" => .boolean
  | "VARCHAR" => .char
  | "CHAR" => .char
  | "DATE" => .date
  | "TIMESTAMP" => .timestamp
  | "TIMESTAMP WITH LOCAL TIME ZONE" => .timestamp
  | "GEOMETRY" => .geometry
  | "HASHTYPE" => .hashtype
  | "INTERVAL YEAR TO MONTH" => .intervalYear
  | "INTERVAL DAY TO SECOND" => .intervalDay
  | _ => .char

/-- The wire type that a value suggests. -/
def jsonValueToWireType : Json.Value → WireType
  | .null => .char
  | .bool _ => .boolean
  | .number (.float ..) => .double
  | .number _ => .decimal
  | .string _ => .char
  | _ => .char

/-- The wire type and the name of a column. -/
def inferWireType (handle : PreparedStatementHandle) (colIdx : ℕ) (colValues : List Json.Value) :
    WireType × String :=
  match handle.parameterTypes[colIdx]? with
  | some dt =>
    (dataTypeToWireType dt,
      ((handle.parameterNames[colIdx]?).bind id).getD s!"param{colIdx}")
  | none => ((colValues.head?.map jsonValueToWireType).getD .char, s!"param{colIdx}")

/-- The precision and the scale of a decimal column. -/
def decimalMetadata (handle : PreparedStatementHandle) (colIdx : ℕ) : SInt 32 × SInt 32 :=
  match handle.parameterTypes[colIdx]? with
  | some dt => (dt.precision.getD 18, dt.scale.getD 0)
  | none => (18, 0)

/-- The layout of a column, from all of its values. -/
def parameterColumn (handle : PreparedStatementHandle) (colIdx : ℕ) (colValues : List Json.Value) :
    ParameterColumn where
  name := (inferWireType handle colIdx colValues).2
  wireType := (inferWireType handle colIdx colValues).1
  scale :=
    if (inferWireType handle colIdx colValues).1 = .decimal then (decimalMetadata handle colIdx).2
    else 0

/-- The layout of the columns, from the whole set of parameters. -/
def parameterColumns (handle : PreparedStatementHandle) (cols : List (List Json.Value)) :
    List ParameterColumn :=
  cols.mapIdx (parameterColumn handle)

/-- What the header of a column says besides its name and type. -/
def columnMetadata (handle : PreparedStatementHandle) (colIdx : ℕ) (wireType : WireType) :
    List UInt8 :=
  match wireType with
  | .char => (isVarcharFlag ||| isUtf8Flag) :: toLE 4 2000000 ++ toLE 4 (2000000 * 4)
  | .decimal =>
    toLE 4 (decimalMetadata handle colIdx).1.val ++ toLE 4 (decimalMetadata handle colIdx).2.val
  | .timestamp => toLE 4 timestampParamPrecision
  | _ => []

/-- The header of a column. -/
def columnHeader (handle : PreparedStatementHandle) (colIdx : ℕ) (column : ParameterColumn) :
    List UInt8 :=
  prefixed (Text.bytes column.name.toList) ++ toLE 4 column.wireType.id.toNat ++
    columnMetadata handle colIdx column.wireType

/-- What comes before the values. -/
def payloadPrefix (handle : PreparedStatementHandle) (columns : List ParameterColumn)
    (numRows : ℕ) : List UInt8 :=
  toLE 4 handle.handle.val ++ toLE 4 parameterTableCount ++ [isTable] ++ toLE 4 columns.length ++
    toLE 8 numRows ++ toLE 8 numRows ++ (columns.mapIdx (columnHeader handle)).flatten

/-! ### Values -/

section Values

variable (lib : EncoderLibraries)

/-- The cast of a float to 64 bits. -/
def i64OfFloat (x : F64) : SInt 64 where
  val := x.toIntSat (-2 ^ 63) (2 ^ 63 - 1)
  ge := (F64.toIntSat_mem (by norm_num) (by norm_num) x).1
  lt := by
    have h := (@F64.toIntSat_mem (-2 ^ 63) (2 ^ 63 - 1) (by norm_num) (by norm_num) x).2
    omega

/-- A whole number that is brought into 64 bits. -/
def clampI64 (x : ℤ) : SInt 64 where
  val := max (-2 ^ 63) (min (2 ^ 63 - 1) x)
  ge := le_max_left ..
  lt := by omega

/-- A product of 128 bits that stays at the bounds. -/
def saturatingMul128 (x y : ℤ) : ℤ := max (-2 ^ 127) (min (2 ^ 127 - 1) (x * y))

/-- A power of ten of 128 bits, if there is one. -/
def checkedPow10 (e : ℕ) : Option ℤ := if (10 : ℤ) ^ e < 2 ^ 127 then some (10 ^ e) else none

/-- Ten as a float. -/
def ten : F64 := F64.ofInt 10

/-- The smallest number of 64 bits as a float. -/
def minI64 : F64 := F64.ofInt (-2 ^ 63)

/-- The largest number of 64 bits as a float, which is one more. -/
def maxI64 : F64 := F64.ofInt (2 ^ 63 - 1)

/-- A value as the whole number that is sent for a decimal. -/
def scaleDecimalValue (value : Json.Value) (scale : SInt 32) : Exec TransportError (SInt 64) := do
  let multiplier := lib.powi ten scale
  match value.asI64 with
  | some i =>
    if scale.val ≤ 0 then
      if scale.val = 0 then return i
      else
        let negated ← neg lib.overflow scale
        let divisor := lib.powi ten negated
        return i64OfFloat ((F64.ofInt i.val).div divisor).round
    else
      match checkedPow10 scale.val.toNat with
      | some p => return clampI64 (saturatingMul128 i.val p)
      | none => return i64OfFloat ((F64.ofInt i.val).mul multiplier).round
  | none =>
    match value.asF64 with
    | some f =>
      let scaled := (f.mul multiplier).round
      if scaled.isNan then return 0
      else return i64OfFloat (F64.clamp minI64 maxI64 scaled)
    | none => return 0

/-- The text of a date or a timestamp. -/
def temporalText (value : Json.Value) (form : String) : Exec TransportError String :=
  orFail (.serializationError
    ("Cannot read " ++ lib.jsonText value ++ " as a date or timestamp, expected " ++ form))
    value.asStr

/-- The bytes of a value that is there. -/
def paramBody (wireType : WireType) (value : Json.Value) (scale : SInt 32) :
    Exec TransportError (List UInt8) :=
  match wireType with
  | .boolean => return [if value.asBool.getD false then 1 else 0]
  | .double => return floatToLE 8 (value.asF64.getD (F64.ofInt 0))
  | .decimal => do
    let scaled ← scaleDecimalValue lib value scale
    return toLE 8 scaled.val
  | .date => do
    let text ← temporalText lib value dateTextForm
    let f ← mapError TransportError.serializationError (ofExcept (parseDateText text))
    -- The date is packed into 32 bits.
    return toLE 4 (f.year * 65536 + f.month * 256 + f.day)
  | .timestamp => do
    let text ← temporalText lib value timestampTextForm
    let f ← mapError TransportError.serializationError (ofExcept (parseTimestampText text))
    return toLE 2 f.year ++ [UInt8.ofNat f.month, UInt8.ofNat f.day, UInt8.ofNat f.hour,
      UInt8.ofNat f.minute, UInt8.ofNat f.second] ++ toLE 4 f.nanos
  | _ =>
    match value with
    | .string s => return prefixed (Text.bytes s.toList)
    | _ => return prefixed (Text.bytes (lib.jsonText value).toList)

/-- A date or timestamp parameter that is the empty text. -/
def emptyTemporal (wireType : WireType) (value : Json.Value) : Bool :=
  (wireType = .date || wireType = .timestamp) && decide (value.asStr = some "")

/-- The bytes of a value: a marker, and the value if there is one. -/
def writeParamValue (wireType : WireType) (value : Json.Value) (scale : SInt 32) :
    Exec TransportError (List UInt8) :=
  if value.isNull || emptyTemporal wireType value then return [0]
  else do
    let body ← paramBody lib wireType value scale
    return 1 :: body

/-- The bytes of a row. A column without the row stops the program. -/
def writeParameterRow (cols : List (List Json.Value)) (columns : List ParameterColumn) (row : ℕ) :
    Exec TransportError (List UInt8) := do
  let cells ← (cols.zip columns).mapM fun (colValues, column) =>
    match colValues[row]? with
    | some value => writeParamValue lib column.wireType value column.scale
    | none => stop
  return cells.flatten

/-- The bytes of some rows. -/
def writeParameterRows (cols : List (List Json.Value)) (columns : List ParameterColumn)
    (rows : List ℕ) : Exec TransportError (List UInt8) := do
  let written ← rows.mapM (writeParameterRow lib cols columns)
  return written.flatten

end Values

/-! ### Messages -/

section Messages

variable (lib : EncoderLibraries) (handle : PreparedStatementHandle)

/-- The number of rows, that is, of values of the first column. -/
def rowCount (cols : List (List Json.Value)) : ℕ := (cols.head?.map List.length).getD 0

/-- The payload of all rows. -/
def buildExecutePreparedPayload (parameters : Option (List (List Json.Value))) :
    Exec TransportError (List UInt8) := do
  let cols := parameters.getD []
  let columns := parameterColumns handle cols
  let rows ← writeParameterRows lib cols columns (List.range (rowCount cols))
  return payloadPrefix handle columns (rowCount cols) ++ rows

/-- The bytes before the payload of a message. -/
def headerSize : ℕ := 21

/-- The attributes that every message with parameters carries: none. -/
def executePreparedAttributes : List UInt8 := []

/-- Consecutive rows and the place of their bytes. -/
structure RowRange where
  firstRow : ℕ
  endRow : ℕ
  firstByte : ℕ
  endByte : ℕ
  deriving DecidableEq

/-- Rows that are encoded once, and the ranges that become messages. -/
structure EncodedParameterRows where
  columns : List ParameterColumn
  bytes : List UInt8
  ranges : List RowRange
  deriving DecidableEq

/-- How far the rows have been split: what is encoded, the closed ranges, and where the
open range begins. -/
structure Splitting where
  bytes : List UInt8 := []
  ranges : List RowRange := []
  firstRow : ℕ := 0
  firstByte : ℕ := 0

/-- Add the bytes of a row; a row that is too much begins a range. -/
def Splitting.add (messageOverhead limit row : ℕ) (rowBytes : List UInt8) (s : Splitting) :
    Splitting :=
  let bytes := s.bytes ++ rowBytes
  if row > s.firstRow ∧ messageOverhead + (bytes.length - s.firstByte) > limit then
    { bytes
      ranges := s.ranges ++ [⟨s.firstRow, row, s.firstByte, s.bytes.length⟩]
      firstRow := row
      firstByte := s.bytes.length }
  else { s with bytes }

/-- Encode the rows, and split them so that the messages keep within a limit. -/
def splitParameterRows (cols : List (List Json.Value)) (limit : ℕ) :
    Exec TransportError EncodedParameterRows := do
  let numRows := rowCount cols
  let columns := parameterColumns handle cols
  let messageOverhead :=
    headerSize + executePreparedAttributes.length + (payloadPrefix handle columns 0).length
  let s ← (List.range numRows).foldlM (fun s row => do
    let rowBytes ← writeParameterRows lib cols columns [row]
    return Splitting.add messageOverhead limit row rowBytes s) ({} : Splitting)
  let ranges :=
    if 0 < numRows then s.ranges ++ [⟨s.firstRow, numRows, s.firstByte, s.bytes.length⟩]
    else s.ranges
  return { columns, bytes := s.bytes, ranges }

/-- The payload of a range. -/
def buildRangePayload (encoded : EncodedParameterRows) (range : RowRange) : List UInt8 :=
  payloadPrefix handle encoded.columns (range.endRow - range.firstRow) ++
    (encoded.bytes.drop range.firstByte).take (range.endByte - range.firstByte)

end Messages

end Exarrow.Native
