import Exarrow.Arrow
import Exarrow.Json

/-!
# Errors

The errors of the driver, by functional area. An error that wraps the text of
another one holds that other error (`Exarrow.Cause`), so that nothing is lost;
the texts themselves are given where the program looks into them, which it does
for the errors of a transport (`Exarrow.TransportError.text`).
-/

namespace Exarrow

/-- Errors related to database connections. -/
inductive ConnectionError where
  | connectionFailed (host : String) (port : ℕ) (message : String)
  | authenticationFailed (message : String)
  | invalidParameter (parameter message : String)
  | parseError (message : String)
  | timeout (timeoutMs : ℕ)
  | connectionClosed
  | tlsError (message : String)
  deriving DecidableEq

/-- The text of a connection error. -/
def ConnectionError.text : ConnectionError → String
  | connectionFailed host port message => s!"Failed to connect to {host}:{port}: {message}"
  | authenticationFailed message => s!"Authentication failed: {message}"
  | invalidParameter parameter message =>
    s!"Invalid connection parameter '{parameter}': {message}"
  | parseError message => s!"Failed to parse connection string: {message}"
  | timeout ms => s!"Connection timeout after {ms}ms"
  | connectionClosed => "Connection is closed"
  | tlsError message => s!"TLS error: {message}"

/-- Errors related to the transport protocol. -/
inductive TransportError where
  | webSocketError (message : String)
  | serializationError (message : String)
  | deserializationError (message : String)
  | protocolError (message : String)
  | invalidResponse (message : String)
  | ioError (message : String)
  | sendError (message : String)
  | receiveError (message : String)
  | tlsError (message : String)
  deriving DecidableEq

/-- The text of a transport error. -/
def TransportError.text : TransportError → String
  | webSocketError message => s!"WebSocket error: {message}"
  | serializationError message => s!"Serialization error: {message}"
  | deserializationError message => s!"Deserialization error: {message}"
  | protocolError message => s!"Protocol error: {message}"
  | invalidResponse message => s!"Invalid server response: {message}"
  | ioError message => s!"Network I/O error: {message}"
  | sendError message => s!"Failed to send message: {message}"
  | receiveError message => s!"Failed to receive message: {message}"
  | tlsError message => s!"TLS error: {message}"

/-- Errors related to data type conversion. The failing value and the target type
stand for their texts. -/
inductive ConversionError where
  | unsupportedType (exasolType : String)
  | valueConversionFailed (row column : ℕ) (columnName : String) (value : Json.Value)
      (targetType : Arrow.DataType) (message : String)
  | schemaMismatch (message : String)
  | invalidFormat (message : String)
  | numericOverflow (row column : ℕ) (columnName : String) (value : Json.Value)
      (targetType : Arrow.DataType) (message : String)
  | invalidUtf8 (row column : ℕ)
  | arrowError (e : Arrow.ArrowError)

/-- What the text of a query error tells: a text of its own or that of another
error. -/
inductive Cause where
  | message (text : String)
  | connection (e : ConnectionError)
  | conversion (e : ConversionError)
  | transport (e : TransportError)

/-- Errors related to query execution. -/
inductive QueryError where
  | syntaxError (position : ℕ) (message : String)
  | executionFailed (cause : Cause)
  | timeout (timeoutMs : ℕ)
  | invalidState (cause : Cause)
  | parameterBindingError (index : ℕ) (message : String)
  | noResultSet (message : String)
  | transactionError (cause : Cause)
  | sqlInjectionDetected
  | statementClosed
  | unexpectedResultSet

/-- Errors of an export. -/
inductive ExportError where
  | ioError (message : String)
  | transportError (e : TransportError)
  | httpTransportError (message : String)
  | sqlExecutionError (message : String)
  | csvParseError (row : ℕ) (message : String)
  | decompressionError (message : String)
  | channelError (message : String)
  /-- The time for an export was over; the transport was terminated or not. -/
  | timeout (timeoutMs : UInt64) (transportTerminated : Bool)
  | cancelled
  deriving DecidableEq

/-- Errors of an export to Arrow data. -/
inductive ArrowExportError where
  | csvParseError (row : ℕ) (message : String)
  | typeConversionError (row column : ℕ) (message : String)
  | schemaError (message : String)
  | ioError (message : String)
  | arrowError (message : String)
  | transportError (message : String)
  deriving DecidableEq

/-- Errors of an export to a Parquet file. -/
inductive ParquetExportError where
  | io (message : String)
  | parquet (message : String)
  | arrow (message : String)
  | csvParse (row : ℕ) (message : String)
  | schema (message : String)
  deriving DecidableEq

/-- Errors of an import. -/
inductive ImportError where
  | ioError (message : String)
  | parquetError (message : String)
  | arrowError (message : String)
  | transportError (e : TransportError)
  | queryError (message : String)
  | conversionError (message : String)
  | invalidConfig (message : String)
  | csvWriteError (message : String)
  | arrowIpcError (message : String)
  | sqlError (message : String)
  | httpTransportError (message : String)
  | streamError (message : String)
  | compressionError (message : String)
  | invalidSessionState (message : String)
  | channelError (message : String)
  | parallelImportError (message : String)
  | schemaInferenceError (message : String)
  | schemaMismatchError (message : String)
  deriving DecidableEq

/-- The text of an error of an import. -/
def ImportError.text : ImportError → String
  | ioError message => s!"IO error: {message}"
  | parquetError message => s!"Parquet error: {message}"
  | arrowError message => s!"Arrow error: {message}"
  | transportError e => s!"Transport error: {e.text}"
  | queryError message => s!"Query error: {message}"
  | conversionError message => s!"Conversion error: {message}"
  | invalidConfig message => s!"Invalid configuration: {message}"
  | csvWriteError message => s!"CSV write error: {message}"
  | arrowIpcError message => s!"Arrow IPC error: {message}"
  | sqlError message => s!"SQL execution failed: {message}"
  | httpTransportError message => s!"HTTP transport failed: {message}"
  | streamError message => s!"Data streaming error: {message}"
  | compressionError message => s!"Compression error: {message}"
  | invalidSessionState message => s!"Invalid session state: {message}"
  | channelError message => s!"Channel error: {message}"
  | parallelImportError message => s!"Parallel import error: {message}"
  | schemaInferenceError message => s!"Schema inference failed: {message}"
  | schemaMismatchError message => s!"Schema mismatch between files: {message}"

/-- Failure of one step while a JSON column becomes an Arrow array: a value at a
row, whose column is not known yet, or a failure of the column as a whole. -/
inductive ColumnConversionError where
  | value (row : ℕ) (reason : String) (overflow : Bool)
  | other (e : ConversionError)

namespace ColumnConversionError

/-- A value of the wrong shape. -/
def invalidValue (row : ℕ) (reason : String) : ColumnConversionError := value row reason false

/-- A value that does not fit. -/
def overflow (row : ℕ) (reason : String) : ColumnConversionError := value row reason true

/-- Attach the column index and name, the failing value and the Arrow type. -/
def intoConversionError (column : ℕ) (columnName : String) (values : List Json.Value)
    (targetType : Arrow.DataType) : ColumnConversionError → ConversionError
  | other e => e
  | value row reason true =>
    .numericOverflow row column columnName (values[row]?.getD .null) targetType reason
  | value row reason false =>
    .valueConversionFailed row column columnName (values[row]?.getD .null) targetType reason

end ColumnConversionError

end Exarrow
