import Exarrow.Native.Primitives
import Exarrow.Statement

/-!
# The parser of native responses

A response is either a *counted* envelope, a number of parts of which each begins with the
byte of its kind, or a single part without a count. `Exarrow.Native.parseResponse` tries
the first reading and falls back on the second.

A result set brings the descriptions of its columns and then their values, column by
column (`Exarrow.Native.buildBatchFromWire`): each value is a byte that tells whether it
is there, and a body whose width depends on the type of the column
(`Exarrow.Native.fillColumnBuilder`).

The reply to the preparation of a statement is a handle followed by parts up to the end of
the message (`Exarrow.Native.parseHandleOnlyAt`). Each of these parts takes at least a
byte, so that the bytes that are left bound how many there are and how deep they lie in
each other; **this bound is never met** (`Exarrow.Native.run_parseLegacyResponseAt`).
-/

namespace Exarrow.Native

open Machine Ieee Checked Arrow Wire

/-! ### Kinds of parts and types of values -/

/-- The kinds of response parts. -/
inductive ResponseType where
  | rowCount
  | resultSet
  | handle
  | columnCount
  | warning
  | stillExecuting
  | moreRows
  | exception
  | empty
  deriving DecidableEq

/-- The kind that a number stands for. -/
def ResponseType.ofCode : ℤ → Option ResponseType
  | 0 => some rowCount
  | 1 => some resultSet
  | 2 => some handle
  | 3 => some columnCount
  | 4 => some warning
  | 5 => some stillExecuting
  | 6 => some moreRows
  | -1 => some exception
  | -2 => some empty
  | _ => none

/-- The types of values. -/
inductive WireType where
  | smallint
  | integer
  | decimal
  | real
  | double
  | boolean
  | char
  | date
  | binary
  | intervalYear
  | intervalDay
  | timestamp
  | smalldecimal
  | bigdecimal
  | geometry
  | timestampLocalTz
  | timestampUtc
  | hashtype
  | other (id : UInt32)
  deriving DecidableEq

/-- The type that a number stands for. -/
def WireType.ofId (id : UInt32) : WireType :=
  match id.toNat with
  | 4 => smallint
  | 5 => integer
  | 6 => decimal
  | 7 => real
  | 8 => double
  | 9 => boolean
  | 10 => char
  | 14 => date
  | 15 => binary
  | 16 => intervalYear
  | 17 => intervalDay
  | 21 => timestamp
  | 63 => smalldecimal
  | 64 => bigdecimal
  | 123 => geometry
  | 124 => timestampLocalTz
  | 125 => timestampUtc
  | 126 => hashtype
  | _ => other id

/-- The precision that a small integer stands for. -/
def smallintDecimalPrecision : SInt 32 := 9

/-- The precision that an integer stands for. -/
def integerDecimalPrecision : SInt 32 := 18

/-- The handle of a description of parameters. -/
def parameterDescription : SInt 32 := ⟨-5, by norm_num, by norm_num⟩

/-- The bit of a string type that varies in length. -/
def isVarcharFlag : UInt8 := 0x01

/-! ### What a response holds -/

/-- The description of a column. -/
structure NativeColumnMeta where
  name : String
  typeId : UInt32
  precision : Option (SInt 32) := none
  scale : Option (SInt 32) := none
  isVarchar : Bool := false
  maxLen : Option (SInt 32) := none
  /-- The declared digits of the seconds of an INTERVAL DAY TO SECOND column. -/
  intervalFraction : Option (SInt 32) := none
  deriving DecidableEq

/-- The type of the values of a column. -/
def NativeColumnMeta.wireType (column : NativeColumnMeta) : WireType := .ofId column.typeId

/-- A parsed response. -/
inductive NativeResponse where
  | resultSet (handle : SInt 32) (columns : List NativeColumnMeta) (batch : Option RecordBatch)
      (totalRows rowsReceived : SInt 64)
  /-- The reply to a preparation: two descriptions of columns and no data. -/
  | preparedStatement (handle : SInt 32) (parameters resultColumns : List NativeColumnMeta)
  | rowCount (count : SInt 64)
  | empty
  | stillExecuting
  | moreRows (rest : List UInt8)
  | exception (message sqlState : String)

/-- A warning that comes with a result. -/
structure NativeWarning where
  message : String
  sqlState : String
  deriving DecidableEq

/-- Warnings and one result. -/
structure NativeResponseEnvelope where
  warnings : List NativeWarning
  terminal : NativeResponse

/-- An envelope without warnings. -/
def NativeResponseEnvelope.of (r : NativeResponse) : NativeResponseEnvelope := ⟨[], r⟩

/-- Bytes as a list of hexadecimal numbers. -/
def hexList (bs : List UInt8) : String :=
  "[" ++ ", ".intercalate (bs.map fun b => String.ofList (hexEncode [b])) ++ "]"

/-! ### Columns of values -/

section Columns

variable (lib : Libraries)

/-- Read a value that may be absent. -/
def readCell {α : Type} (read : Parse α) : Parse (Option α) := do
  if (← readU8) = 0 then return none
  else
    let value ← read
    return some value

/-- A column and the field that describes it. -/
def builtColumn (name : String) (dataType : DataType) (cells : List (Option dataType.Native)) :
    Field × Column := (⟨name, dataType, true, []⟩, ⟨dataType, cells⟩)

/-- A column of values of one width. -/
def fillFixedColumn (name : String) (dataType : DataType) (read : Parse dataType.Native)
    (numRows : ℕ) : Parse (Field × Column) := do
  Reader.guard (.values dataType numRows) (.done ())
  let cells ← (readCell read).times numRows
  return builtColumn name dataType cells

/-- Values of bytes, of which so many have come before. -/
def fillBytes {α : Type} (read : Parse α) (size : α → ℕ) : ℕ → ℕ → Parse (List (Option α))
  | _, 0 => .done []
  | total, n + 1 => do
    match ← readCell read with
    | none =>
      let rest ← fillBytes read size total n
      return none :: rest
    | some value =>
      Reader.guard (.valueEnd (total + size value)) (.done ())
      let rest ← fillBytes read size (total + size value) n
      return some value :: rest

/-- A column of values of bytes. -/
def fillBytesColumn (name : String) (dataType : DataType) (read : Parse dataType.Native)
    (size : dataType.Native → ℕ) (numRows : ℕ) : Parse (Field × Column) := do
  Reader.guard (.estimate numRows) (.guard (.values dataType numRows) (.done ()))
  let cells ← fillBytes read size 0 numRows
  return builtColumn name dataType cells

/-- The Arrow precision and scale of a decimal column. -/
def decimalPrecisionScale (column : NativeColumnMeta) (defaultPrecision : SInt 32) :
    UInt8 × SInt 8 :=
  (asU8 (max 1 (min 38 (column.precision.getD defaultPrecision).val)),
    asI8 (max (-128) (min 127 (column.scale.getD 0).val)))

/-- The Arrow type of a decimal column. -/
def decimalDataType (column : NativeColumnMeta) (defaultPrecision : SInt 32) : DataType :=
  let (precision, scale) := decimalPrecisionScale column defaultPrecision
  .decimal128 precision scale

/-- The description of a column of integers as one of decimals. -/
def wholeNumberMeta (column : NativeColumnMeta) (precision : SInt 32) : NativeColumnMeta :=
  { column with precision := some precision, scale := some 0 }

/-- The number of a narrower integer. -/
def widenTo128 {w : ℕ} (h : w ≤ 128) (read : Parse (SInt w)) : Parse (SInt 128) := do
  let value ← read
  return value.extend 128 h

/-- A column of decimals of 32 bits. -/
def fillSmalldecimalColumn (column : NativeColumnMeta) (numRows : ℕ) : Parse (Field × Column) :=
  fillFixedColumn column.name
    (.decimal128 (decimalPrecisionScale column 9).1 (decimalPrecisionScale column 9).2)
    (widenTo128 SInt.le_32_128 readI32) numRows

/-- A column of decimals of 32 or 64 bits. -/
def fillDecimalColumn (column : NativeColumnMeta) (numRows : ℕ) : Parse (Field × Column) :=
  let useI32 := decide ((column.precision.getD 18).val ≤ 9)
  fillFixedColumn column.name
    (.decimal128 (decimalPrecisionScale column 18).1 (decimalPrecisionScale column 18).2)
    (if useI32 then widenTo128 SInt.le_32_128 readI32 else widenTo128 SInt.le_64_128 readI64) numRows

/-- A column of decimals of 128 bits. -/
def fillBigdecimalColumn (column : NativeColumnMeta) (numRows : ℕ) : Parse (Field × Column) :=
  fillFixedColumn column.name
    (.decimal128 (decimalPrecisionScale column 36).1 (decimalPrecisionScale column 36).2)
    readI128 numRows

/-- A column of doubles. -/
def fillDoubleColumn (name : String) (numRows : ℕ) : Parse (Field × Column) :=
  fillFixedColumn name .float64 readF64 numRows

/-- Read a single as a double. -/
def readReal : Parse F64 := do
  let value ← readF32
  return widen value

/-- A column of singles. -/
def fillRealColumn (name : String) (numRows : ℕ) : Parse (Field × Column) :=
  fillFixedColumn name .float64 readReal numRows

/-- Read a boolean. -/
def readBoolean : Parse Bool := do
  return (← readU8) != 0

/-- A column of booleans. -/
def fillBooleanColumn (name : String) (numRows : ℕ) : Parse (Field × Column) :=
  fillFixedColumn name .boolean readBoolean numRows

/-- A column of byte strings. -/
def fillBinaryColumn (name : String) (numRows : ℕ) : Parse (Field × Column) :=
  fillBytesColumn name .binary (readBytes (.protocolError "Binary data truncated")) List.length
    numRows

/-- Read the text of an interval. -/
def readInterval (name : String) : Parse IntervalMonthDayNano := do
  let bytes ← readBytes (.protocolError "Interval data truncated")
  let text ← decodeText (.protocolError
    ("Invalid UTF-8 in INTERVAL column " ++ name ++ ": " ++ lib.utf8ErrorText bytes)) bytes
  Reader.ofExec (.interval text.toList) (truncated "interval")
    (mapError (fun reason => .protocolError
        ("Invalid INTERVAL value '" ++ text ++ "' in column " ++ name ++ ": " ++ reason))
      (parseInterval lib.overflow text.toList))

/-- A column of intervals. -/
def fillIntervalColumn (name : String) (numRows : ℕ) : Parse (Field × Column) :=
  fillFixedColumn name (.interval .monthDayNano) (readInterval lib name) numRows

/-- Read a date, which is packed into 32 bits: 16 for the year, 8 for the month and 8 for
the day. -/
def readPackedDateDays : Parse (SInt 32) := do
  let packed ← readI32
  let year : SInt 16 := SInt.wrap 16 SInt.pos_16 (packed.val / 65536)
  let month := UInt8.ofNat (packed.val / 256 % 256).toNat
  let day := UInt8.ofNat (packed.val % 256).toNat
  Reader.ofExec (.day year month day) (truncated "date")
    (mapError Empty.elim (daysOf lib.overflow year month day))

/-- A column of dates. -/
def fillDateColumn (name : String) (numRows : ℕ) : Parse (Field × Column) :=
  fillFixedColumn name .date32 (readPackedDateDays lib) numRows

/-- Read a timestamp, field by field. -/
def readTimestampMicros : Parse (SInt 64) := do
  let year ← readI16
  let month ← readU8
  let day ← readU8
  let hour ← readU8
  let minute ← readU8
  let second ← readU8
  let nanos ← readI32
  Reader.ofExec (.instant year month day hour minute second nanos) (truncated "timestamp")
    (mapError Empty.elim (microsOf lib.overflow year month day hour minute second nanos))

/-- A column of timestamps. -/
def fillTimestampColumn (column : NativeColumnMeta) (numRows : ℕ) : Parse (Field × Column) :=
  let timezone := match column.wireType with
    | .timestampLocalTz | .timestampUtc => some "UTC"
    | _ => none
  fillFixedColumn column.name (.timestamp .microsecond timezone) (readTimestampMicros lib) numRows

/-- Read a text. -/
def readText : Parse String := do
  let bytes ← readBytes (.protocolError "String data truncated")
  decodeText (.protocolError ("Invalid UTF-8 in string: " ++ lib.utf8ErrorText bytes)) bytes

/-- The number of bytes of a text. -/
def textSize (s : String) : ℕ := Text.byteLen s.toList

/-- A column of texts. -/
def fillStringBuilder (name : String) (numRows : ℕ) : Parse (Field × Column) :=
  fillBytesColumn name .utf8 (readText lib) textSize numRows

/-- The values of a column. -/
def fillColumnBuilder (column : NativeColumnMeta) (numRows : ℕ) : Parse (Field × Column) :=
  match column.wireType with
  | .double => fillDoubleColumn column.name numRows
  | .real => fillRealColumn column.name numRows
  | .integer => fillDecimalColumn (wholeNumberMeta column integerDecimalPrecision) numRows
  | .smallint => fillSmalldecimalColumn (wholeNumberMeta column smallintDecimalPrecision) numRows
  | .boolean => fillBooleanColumn column.name numRows
  | .binary | .geometry | .hashtype => fillBinaryColumn column.name numRows
  | .intervalYear | .intervalDay => fillIntervalColumn lib column.name numRows
  | .smalldecimal => fillSmalldecimalColumn column numRows
  | .decimal => fillDecimalColumn column numRows
  | .bigdecimal => fillBigdecimalColumn column numRows
  | .date => fillDateColumn lib column.name numRows
  | .timestamp | .timestampLocalTz | .timestampUtc => fillTimestampColumn lib column numRows
  | .char | .other _ => fillStringBuilder lib column.name numRows

/-- A record batch of the values of the columns. -/
def buildBatchFromWire (columns : List NativeColumnMeta) (numRows : ℕ) : Parse RecordBatch :=
  if columns = [] then
    match RecordBatch.tryNewWithOptions ⟨[]⟩ [] (some numRows) with
    | .ok batch => .done batch
    | .error e =>
      .fail (.protocolError ("Failed to create empty RecordBatch: " ++ lib.arrowErrorText e))
  else do
    let built ← columns.mapM fun column => fillColumnBuilder lib column numRows
    match RecordBatch.tryNew ⟨built.map Prod.fst⟩ (built.map Prod.snd) with
    | .ok batch => .done batch
    | .error e => .fail (.protocolError ("Failed to create RecordBatch: " ++ lib.arrowErrorText e))

/-! ### Result sets -/

/-- The bit and the length of a string type. -/
def readVarchar (what : String) : Parse (Bool × SInt 32) := do
  let vcFlag ← .take 1 (.protocolError (what ++ " metadata truncated"))
    fun bs => .done (bs.headD 0)
  let maxLen ← readI32
  let _octetLen ← readI32
  return (vcFlag &&& isVarcharFlag != 0, maxLen)

/-- The description of a column. -/
def parseColumnMeta : Parse NativeColumnMeta := do
  let nameBytes ← readBytes (.protocolError "Column name truncated")
  let name ← decodeText (.protocolError
    ("Invalid column name UTF-8: " ++ lib.utf8ErrorText nameBytes)) nameBytes
  let typeId := UInt32.ofNat ((← readI32).val % 2 ^ 32).toNat
  let column : NativeColumnMeta := { name := name, typeId := typeId }
  match WireType.ofId typeId with
  | .decimal | .smalldecimal | .bigdecimal =>
    let precision ← readI32
    let scale ← readI32
    return { column with precision := some precision, scale := some scale }
  | .char | .geometry | .hashtype =>
    let (isVarchar, maxLen) ← readVarchar "CHAR"
    return { column with isVarchar := isVarchar, maxLen := some maxLen }
  | .intervalYear =>
    let (isVarchar, maxLen) ← readVarchar "INTERVAL"
    let _intervalPrecision ← readI32
    return { column with isVarchar := isVarchar, maxLen := some maxLen }
  | .intervalDay =>
    let (isVarchar, maxLen) ← readVarchar "INTERVAL"
    let _intervalPrecision ← readI32
    let fraction ← readI32
    return { column with
      isVarchar := isVarchar, maxLen := some maxLen, intervalFraction := some fraction }
  | .timestamp | .timestampLocalTz | .timestampUtc =>
    let _precision ← readI32
    return column
  | _ => return column

/-- The error for a number of rows below zero. -/
def invalidRowCount (rows : SInt 64) : TransportError :=
  .protocolError ("Invalid row count from server: " ++ toString rows.val)

/-- A result set. -/
def parseResultSetAt : Parse NativeResponse := do
  let handle ← readI32
  let numColumns ← readI32
  let totalRows ← readI64
  let rowsReceived ← readI64
  if rowsReceived.val < 0 then .fail (invalidRowCount rowsReceived)
  else
    Reader.guard (.columns numColumns) (.done ())
    let columns ← (parseColumnMeta lib).times (asUsize numColumns.val)
    if numColumns.val = 0 then
      return .resultSet handle columns none totalRows rowsReceived
    else
      let batch ← buildBatchFromWire lib columns rowsReceived.val.toNat
      return .resultSet handle columns (some batch) totalRows rowsReceived

/-- The rows of a fetch, whose columns are known. -/
def parseFetchToRecordBatch (columns : List NativeColumnMeta) : Parse (SInt 64 × RecordBatch) := do
  let rowsReceived ← readI64
  if rowsReceived.val < 0 then .fail (invalidRowCount rowsReceived)
  else
    let batch ← buildBatchFromWire lib columns rowsReceived.val.toNat
    return (rowsReceived, batch)

end Columns

/-! ### Other parts -/

section Parts

variable (lib : Libraries)

/-- A number of rows. -/
def parseRowCountAt : Parse NativeResponse := do
  let count ← readI64
  return .rowCount count

/-- A message with a state of five bytes, unless the response ends before it. -/
def parseMessagePart : Parse NativeWarning := do
  let bytes ← readBytes (.protocolError "Exception message truncated")
  let message ← decodeText (.protocolError
    ("Invalid exception UTF-8: " ++ lib.utf8ErrorText bytes)) bytes
  .remaining fun r =>
    if 5 ≤ r then do
      let state ← .take 5 (truncated "u8") .done
      return ⟨message, (Text.decode? state).elim "?????" String.ofList⟩
    else return ⟨message, "?????"⟩

/-- An exception. -/
def parseExceptionAt : Parse NativeResponse := do
  let warning ← parseMessagePart lib
  return .exception warning.message warning.sqlState

/-- A warning. -/
def parseWarning : Parse NativeWarning := parseMessagePart lib

/-- The message of a query that is still executing, if there is one. -/
def consumeStatusMessage : Parse Unit :=
  .remaining fun r =>
    if r = 0 then return ()
    else do
      let _ ← readBytes (.protocolError "StillExecuting status message truncated")
      return ()

/-- The result that an envelope has, of which there is one at most. -/
def assignTerminalResult (slot : Option NativeResponse) (response : NativeResponse) :
    Parse (Option NativeResponse) :=
  match slot with
  | some _ => .fail (.protocolError "Multiple terminal results in native response envelope")
  | none => .done (some response)

/-- What the parts of the reply to a preparation have brought so far. -/
structure Description where
  warnings : List NativeWarning := []
  parameters : List NativeColumnMeta := []
  resultColumns : List NativeColumnMeta := []

/-- Read a part of the reply to a preparation. -/
def Description.add (d : Description) (sub : NativeResponseEnvelope) : Parse Description :=
  let d := { d with warnings := d.warnings ++ sub.warnings }
  match sub.terminal with
  | .resultSet handle columns .. =>
    if handle = parameterDescription then .done { d with parameters := columns }
    else .done { d with resultColumns := columns }
  | .exception message sqlState =>
    .fail (.protocolError
      ("Exasol reported an exception in a prepared-statement reply sub-result: " ++ message ++
        " (SQLSTATE " ++ sqlState ++ ")"))
  | _ => .done d

/-- Read parts while there are bytes; a bound on their number is given. -/
def subResults (sub : Parse NativeResponseEnvelope) : ℕ → Description → Parse Description
  | 0, d => .done d
  | n + 1, d => .remaining fun r =>
    if r = 0 then .done d
    else do
      let response ← sub
      let d ← d.add response
      subResults sub n d

/-- The reply to a preparation: a handle and parts up to the end of the message. -/
def parseHandleOnlyAt (sub : Parse NativeResponseEnvelope) : Parse NativeResponseEnvelope := do
  let statementHandle ← readI32
  let d ← .remaining fun r => subResults sub r {}
  return ⟨d.warnings, .preparedStatement statementHandle d.parameters d.resultColumns⟩

/-- Read the byte of a kind. -/
def readI8 : Parse (SInt 8) := do
  return asI8 (← readU8).toNat

/-- A part of the given kind, in which parts of the reply to a preparation are read by
`sub`. -/
def parseLegacyResponseBody (sub : Parse NativeResponseEnvelope) (resultType : SInt 8) :
    Parse NativeResponseEnvelope :=
  match ResponseType.ofCode resultType.val with
  | some .resultSet => do return .of (← parseResultSetAt lib)
  | some .handle => parseHandleOnlyAt sub
  | some .rowCount => do return .of (← parseRowCountAt)
  | some .exception => do return .of (← parseExceptionAt lib)
  | some .warning => do return ⟨[← parseWarning lib], .empty⟩
  | some .columnCount => do
    let _ ← readI32
    return .of .empty
  | some .empty => return .of .empty
  | some .stillExecuting => do
    consumeStatusMessage
    return .of .stillExecuting
  | some .moreRows => do return .of (.moreRows (← readRest))
  | none => .fail (.protocolError ("Unknown response type: " ++ toString resultType.val))

/-- A part. Parts lie in each other no deeper than there are bytes. -/
def parseLegacyResponseAt : ℕ → Parse NativeResponseEnvelope
  | 0 => .fail (truncated "u8")
  | n + 1 => do
    let resultType ← readI8
    parseLegacyResponseBody lib (parseLegacyResponseAt n) resultType

/-- A part in the bytes that are left. -/
def parseLegacyPart : Parse NativeResponseEnvelope :=
  .remaining fun r => parseLegacyResponseAt lib r

/-! ### Responses -/

/-- The warnings and the result that the parts of an envelope have brought so far. -/
structure Parts where
  warnings : List NativeWarning := []
  terminal : Option NativeResponse := none

/-- Read a part of an envelope, the last one or not. -/
def parsePart (data : List UInt8) (isLast : Bool) (parts : Parts) (resultType : SInt 8) :
    Parse Parts :=
  let assign (response : NativeResponse) : Parse Parts := do
    let terminal ← assignTerminalResult parts.terminal response
    return { parts with terminal := terminal }
  match ResponseType.ofCode resultType.val with
  | some .warning => do
    let warning ← parseWarning lib
    return { parts with warnings := parts.warnings ++ [warning] }
  | some .columnCount => do
    let _ ← readI32
    return parts
  | some .resultSet => do assign (← parseResultSetAt lib)
  | some .handle => do
    let envelope ← parseHandleOnlyAt (parseLegacyPart lib)
    let terminal ← assignTerminalResult parts.terminal envelope.terminal
    return { warnings := parts.warnings ++ envelope.warnings, terminal := terminal }
  | some .rowCount => do assign (← parseRowCountAt)
  | some .exception => do assign (← parseExceptionAt lib)
  | some .empty => assign .empty
  | some .stillExecuting => assign .stillExecuting
  | some .moreRows =>
    if isLast then do assign (.moreRows (← readRest))
    else .fail (.protocolError "MoreRows must be the final native response part")
  | none => .offset fun o => .fail (.protocolError
      ("Unknown response type: " ++ toString resultType.val ++ " at offset " ++
        toString (o - 1) ++ " (data " ++ hexList (data.take 64) ++ ")"))

/-- The parts of an envelope, of which so many are left. -/
def parseParts (data : List UInt8) : ℕ → Parts → Parse Parts
  | 0, parts => .done parts
  | n + 1, parts => do
    let resultType ← readI8
    let parts ← parsePart lib data (n == 0) parts resultType
    parseParts data n parts

/-- The number of parts with which a counted envelope would begin. -/
def resultCount (data : List UInt8) : ℤ := ofLE (data.take 4)

/-- The kind of the first part of a counted envelope. -/
def firstPartType (data : List UInt8) : ℤ := (asI8 (data.getD 4 0).toNat).val

/-- The response may be a counted envelope. -/
def looksCounted (data : List UInt8) : Bool :=
  decide (5 ≤ data.length) && decide (1 ≤ resultCount data) && decide (resultCount data ≤ 64) &&
    (ResponseType.ofCode (firstPartType data)).isSome

/-- Read a counted envelope; none if the response is no such envelope. -/
def tryParseCountedEnvelope (data : List UInt8) : Parse (Option NativeResponseEnvelope) :=
  if looksCounted data then do
    let count ← readI32
    let parts ← parseParts lib data (asUsize count.val) {}
    .remaining fun r =>
      if r ≠ 0 then return none
      else return some ⟨parts.warnings, parts.terminal.getD .empty⟩
  else return none

/-- A response that is a single part. -/
def parseLegacyResponse : Parse NativeResponseEnvelope := do
  let response ← parseLegacyPart lib
  .remaining fun r => do
    if r ≠ 0 then
      let rest ← readRest
      .fail (.protocolError
        ("Trailing bytes after legacy response: remaining " ++ hexList rest))
    else return response

/-- What a part of the parser returns for a message. -/
def parse {α : Type} (p : Parse α) (data : List UInt8) : Exec TransportError α := do
  let (a, _) ← p.run (Guard.holds lib) 0 data
  return a

/-- **A response.** -/
def parseResponse (data : List UInt8) : Exec TransportError NativeResponseEnvelope :=
  if data = [] then return .of .empty
  else if data.length = 4 ∧ ofLE data = 0 then return .of .empty
  else do
    match ← parse lib (tryParseCountedEnvelope lib data) data with
    | some envelope => return envelope
    | none => parse lib (parseLegacyResponse lib) data

end Parts

end Exarrow.Native
