import Exarrow.Protocol

/-!
# The messages of the WebSocket protocol

A request is a JSON object (`Exarrow.Messages.JsonRequest.toJson`): its command and what the command
needs, with no member for what is not given. Only the second request of a login has no command; it
is known by its place.

A response has a status, data of the type that its request asks for
(`Exarrow.Messages.ResponseType.Data`), an exception if the status is not "ok", and the attributes
of the session that the server reports with it. The driver reads one of these, the current schema.
The rows of result data come column by column and are turned into rows as they are read
(`Exarrow.Transport.toRowMajor`); what is here has them as rows.
-/

namespace Exarrow.Messages

open Machine Json

/-! ### Types of columns -/

/-- A type without parameters. -/
def DataType.named (typeName : String) : DataType := { typeName }

/-- DECIMAL with a precision and a scale. -/
def DataType.ofDecimal (precision scale : SInt 32) : DataType :=
  { typeName := "DECIMAL", precision := some precision, scale := some scale }

/-- VARCHAR of a size. -/
def DataType.ofVarchar (size : SInt 64) : DataType :=
  { typeName := "VARCHAR", size := some size, characterSet := some "UTF8" }

/-- The size of a text whose type is not known. -/
def longVarchar : DataType := .ofVarchar ⟨2000000, by norm_num, by norm_num⟩

/-- The type that is assumed for a parameter when the server has not told its type. -/
def DataType.inferFromJson : Value → DataType
  | .bool _ => .named "BOOLEAN"
  | .number (.float ..) => .named "DOUBLE"
  | .number _ => .ofDecimal ⟨18, by norm_num, by norm_num⟩ 0
  | .null | .string _ | .array _ | .object _ => longVarchar

/-- A member for what may be missing. -/
def optionalMember {α : Type} (name : String) (f : α → Value) (x : Option α) :
    List (String × Value) :=
  (x.map fun a => (name, f a)).toList

/-- A number of 32 bits as a value. -/
def ofI32 (n : SInt 32) : Value := ofI64 (n.extend 64 SInt.le_32_64)

/-- A type as a value. -/
def DataType.toJson (d : DataType) : Value :=
  .object ([("type", .string d.typeName)] ++ optionalMember "precision" ofI32 d.precision ++
    optionalMember "scale" ofI32 d.scale ++ optionalMember "size" ofI64 d.size ++
    optionalMember "characterSet" .string d.characterSet ++
    optionalMember "withLocalTimeZone" .bool d.withLocalTimeZone ++
    optionalMember "fraction" ofI32 d.fraction ++ optionalMember "srid" ofI32 d.srid)

/-- A column as a value. -/
def ColumnInfo.toJson (c : ColumnInfo) : Value :=
  .object [("name", .string c.name), ("dataType", c.dataType.toJson)]

/-! ### Requests -/

/-- The second request of a login. -/
structure AuthRequest where
  username : String
  /-- The password, encrypted. -/
  password : String
  useCompression : Bool := false
  clientName : String
  driverName : String
  clientVersion : String

/-- A request to execute a prepared statement. -/
structure ExecutePreparedStatementRequest where
  statementHandle : SInt 32
  numColumns : SInt 32 := 0
  numRows : SInt 32 := 0
  columns : Option (List ColumnInfo) := none
  /-- The parameters, column by column. -/
  data : Option (List (List Value)) := none

/-- The request with parameters; the first column says how many rows there are. -/
def ExecutePreparedStatementRequest.withData (r : ExecutePreparedStatementRequest)
    (columns : List ColumnInfo) (data : List (List Value)) : ExecutePreparedStatementRequest :=
  { r with
    numColumns := SInt.wrap 32 SInt.pos_32 columns.length
    numRows := SInt.wrap 32 SInt.pos_32 (((data.head?.map List.length).getD 0 : ℕ))
    columns := some columns
    data := some data }

/-- A request. -/
inductive JsonRequest where
  | loginInit
  | auth (r : AuthRequest)
  | execute (sqlText : String)
  | fetch (resultSetHandle : SInt 32) (startPosition numBytes : SInt 64)
  | closeResultSet (resultSetHandles : List (SInt 32))
  | createPreparedStatement (sqlText : String)
  | executePreparedStatement (r : ExecutePreparedStatementRequest)
  | closePreparedStatement (statementHandle : SInt 32)
  | disconnect
  | setAttributes (attributes : List (String × Value))
  | getAttributes

namespace JsonRequest

/-- Switch autocommit. -/
def autocommit (enabled : Bool) : JsonRequest := .setAttributes [("autocommit", .bool enabled)]

/-- Set the query timeout, in seconds. -/
def queryTimeout (seconds : UInt64) : JsonRequest :=
  .setAttributes [("queryTimeout", .number (.posInt seconds.toNat seconds.toNat_lt))]

/-- Open a schema. -/
def currentSchema (schema : String) : JsonRequest :=
  .setAttributes [("currentSchema", .string schema)]

/-- The object of a command. -/
def command (name : String) (members : List (String × Value)) : Value :=
  .object (("command", .string name) :: members)

/-- A request as it is sent. -/
def toJson : JsonRequest → Value
  | loginInit => command "login" [("protocolVersion", ofI32 3)]
  | auth r => .object
    [("username", .string r.username), ("password", .string r.password),
      ("useCompression", .bool r.useCompression), ("clientName", .string r.clientName),
      ("driverName", .string r.driverName), ("clientVersion", .string r.clientVersion)]
  | execute sqlText => command "execute" [("sqlText", .string sqlText)]
  | fetch resultSetHandle startPosition numBytes => command "fetch"
    [("resultSetHandle", ofI32 resultSetHandle), ("startPosition", ofI64 startPosition),
      ("numBytes", ofI64 numBytes)]
  | closeResultSet resultSetHandles => command "closeResultSet"
    [("resultSetHandles", .array (resultSetHandles.map ofI32))]
  | createPreparedStatement sqlText =>
    command "createPreparedStatement" [("sqlText", .string sqlText)]
  | executePreparedStatement r => command "executePreparedStatement"
    ([("statementHandle", ofI32 r.statementHandle), ("numColumns", ofI32 r.numColumns),
      ("numRows", ofI32 r.numRows)] ++
      optionalMember "columns" (fun cs => .array (cs.map ColumnInfo.toJson)) r.columns ++
      optionalMember "data" (fun columns => .array (columns.map .array)) r.data)
  | closePreparedStatement statementHandle =>
    command "closePreparedStatement" [("statementHandle", ofI32 statementHandle)]
  | disconnect => command "disconnect" []
  | setAttributes attributes => command "setAttributes" [("attributes", .object attributes)]
  | getAttributes => command "getAttributes" []

end JsonRequest

/-! ### Responses -/

/-- What went wrong on the server. -/
structure ExceptionInfo where
  sqlCode : Option String
  text : String

/-- The attributes of the session that the driver reads. -/
structure ResponseAttributes where
  /-- The current schema, empty when none is open; none when it is not reported. -/
  currentSchema : Option String

/-- The key of the server. -/
structure PublicKeyData where
  publicKeyPem : String

/-- The session after a login. -/
structure LoginResponseData where
  sessionId : SInt 64
  protocolVersion : SInt 32
  releaseVersion : String
  databaseName : String
  productName : String
  maxDataMessageSize : Option (SInt 64)
  timeZone : Option String

/-- A megabyte, the size of a message when the server does not tell it. -/
def defaultMessageSize : SInt 64 := ⟨1024 * 1024, by norm_num, by norm_num⟩

/-- What is kept of it. -/
def LoginResponseData.toSessionInfo (data : LoginResponseData) : SessionInfo where
  sessionId := toString data.sessionId.val
  protocolVersion := data.protocolVersion
  releaseVersion := data.releaseVersion
  databaseName := data.databaseName
  productName := data.productName
  maxDataMessageSize := data.maxDataMessageSize.getD defaultMessageSize
  timeZone := data.timeZone

/-- A result set. -/
structure ResultSetData where
  /-- The handle under which more rows can be had. -/
  resultSetHandle : Option (SInt 32)
  numRows : Option (SInt 64)
  columns : Option (List ColumnInfo)
  /-- The first rows. -/
  data : Option (List (List Value))

/-- One of the results of a command. -/
structure ResultSetInfo where
  resultType : String
  rowCount : Option (SInt 64)
  resultSet : Option ResultSetData

/-- What a result is. -/
inductive ResultEntryKind where
  | resultSet
  | rowCount
  | unknown
  deriving DecidableEq

/-- What a result is, by the name of its type. -/
def ResultSetInfo.kind (r : ResultSetInfo) : ResultEntryKind :=
  if r.resultType = "resultSet" then .resultSet
  else if r.resultType = "rowCount" then .rowCount
  else .unknown

/-- The results of a command. -/
structure ExecuteResponseData where
  results : List ResultSetInfo

/-- Rows of a result set. -/
structure FetchResponseData where
  numRows : SInt 64
  data : List (List Value)

/-- A parameter of a prepared statement. -/
structure ParameterInfo where
  name : Option String
  dataType : DataType

/-- The parameters of a prepared statement. -/
structure ParameterData where
  numColumns : SInt 32
  columns : List ParameterInfo

/-- A prepared statement. -/
structure PreparedStatementResponseData where
  statementHandle : SInt 32
  parameterData : Option ParameterData
  results : Option (List ResultSetInfo)

/-- The columns of the first result set that a statement will have, none if there is none. -/
def PreparedStatementResponseData.resultSetColumns (data : PreparedStatementResponseData) :
    List ColumnInfo :=
  ((((data.results.getD []).find? fun entry => entry.kind = .resultSet).bind
    ResultSetInfo.resultSet).bind ResultSetData.columns).getD []

/-- The types of responses. -/
inductive ResponseType where
  | publicKey
  | login
  | execute
  | fetch
  | createPreparedStatement
  /-- One without data. -/
  | bare

/-- The data of a response. -/
@[reducible] def ResponseType.Data : ResponseType → Type
  | publicKey => PublicKeyData
  | login => LoginResponseData
  | execute => ExecuteResponseData
  | fetch => FetchResponseData
  | createPreparedStatement => PreparedStatementResponseData
  | bare => Empty

/-- A response. -/
structure Response (R : ResponseType) where
  status : String
  responseData : Option R.Data
  exception : Option ExceptionInfo
  attributes : Option ResponseAttributes

/-- The type of the response to a request. -/
@[reducible] def JsonRequest.response : JsonRequest → ResponseType
  | loginInit => .publicKey
  | auth _ => .login
  | execute _ | executePreparedStatement _ => .execute
  | fetch .. => .fetch
  | createPreparedStatement _ => .createPreparedStatement
  | _ => .bare

end Exarrow.Messages
