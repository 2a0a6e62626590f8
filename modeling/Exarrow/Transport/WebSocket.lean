import Exarrow.Transport.Lifecycle
import Exarrow.Transport.Messages
import Exarrow.Transport.PublicKey

/-!
# The WebSocket transport

The transport that speaks JSON over a WebSocket (`Exarrow.Transport.WebSocket.WebSocketTransport`).
Its operations are programs that send texts and wait for messages
(`Exarrow.Transport.WebSocket.NetRequest`), each of which may fail, take no end, or be dropped at any
of its requests.

An exchange sends a request and skips messages until one begins like an object
(`Exarrow.Transport.WebSocket.sendReceive`). Nothing but the order pairs a response with its
request. Every response passes there, and the current schema is recorded if the response reports it.

The transport remembers for every result set where the next rows start. A command that opens one
sets the position behind the rows that came with it, and a fetch moves it behind its own.
-/

namespace Exarrow.Transport.WebSocket

open Machine Checked Client Messages

/-! ### The network -/

/-- What the transport asks of the network, of the random number generator and of the clock. -/
inductive NetRequest where
  | connectTcp (host : String) (port : UInt16)
  | tlsHandshake (host : String) (certificateFingerprint : Option String) (validate : Bool)
  | upgrade (url : String)
  | systemRandom
  | send (text : String)
  | next
  | sendClose (reason : String)
  | nextWithin (milliseconds : ℕ)
  | hasElapsed

/-- What comes over the WebSocket. -/
inductive Incoming where
  /-- The stream is over. -/
  | ended
  | failed (e : String)
  /-- A message, and its text if it has one. -/
  | message (text : Except String String)

/-- What answers a request; nothing if it does not come. -/
@[reducible] def NetRequest.Answer : NetRequest → Type
  | connectTcp .. => Reply String Unit
  | tlsHandshake .. => Reply TransportError Unit
  | upgrade _ => Reply String Unit
  | systemRandom => SystemRandom
  | send _ => Reply String Unit
  | next => Option Incoming
  | sendClose _ => Reply String Unit
  | nextWithin _ => Option Incoming
  | hasElapsed => Bool

/-- What the transport takes from the libraries it is built on. -/
structure Libraries where
  overflow : Overflow
  base64 : Base64.Codec
  /-- The text of a JSON value. -/
  toString : Json.Value → Except String String
  /-- The response in a text. -/
  fromStr : (R : ResponseType) → String → Except String (Response R)
  /-- The number of messages that are waited for. -/
  patience : ℕ

/-! ### The state -/

/-- A stream. -/
inductive MaybeTlsStream where
  | plain
  | rustls
  deriving DecidableEq

/-- The transport. -/
structure WebSocketTransport where
  wsStream : Option MaybeTlsStream := none
  sessionInfo : Option SessionInfo := none
  lifecycle : ConnectionLifecycle := {}
  /-- Where the next rows of an open result set start. -/
  fetchPositions : SInt 32 → Option (SInt 64) := fun _ => none
  currentSchema : Option String := none

/-- An operation of the transport. -/
abbrev WsOp (α : Type) : Type := Operation WebSocketTransport NetRequest NetRequest.Answer α

/-! ### Exchanges -/

/-- The text of the message that comes next. -/
def Incoming.text : Option Incoming → Except Interruption String
  | none => .error .waits
  | some .ended => .error (.fault (.error (.receiveError "Connection closed")))
  | some (.failed e) => .error (.fault (.error (.receiveError e)))
  | some (.message (.error e)) =>
    .error (.fault (.error (.protocolError s!"Invalid message format: {e}")))
  | some (.message (.ok text)) => .ok text

/-- The text is that of an object, unlike a note such as "EXECUTING". -/
def isResponse (text : String) : Bool := text.toList.head? = some '\x7b'

/-- The current schema after a response: an empty one means none, and one that is not reported
is the one before. -/
def recordCurrentSchema (attributes : Option ResponseAttributes) (schema : Option String) :
    Option String :=
  match attributes.bind ResponseAttributes.currentSchema with
  | some name => if name = "" then none else some name
  | none => schema

/-- The error for a text that is not the response. -/
def parseError (e response : String) : TransportError :=
  .invalidResponse (s!"JSON parse error: {e}. Response preview: " ++
    s!"'{String.ofList (response.toList.take 200)}'")

/-- Fail unless the status of a response is "ok". -/
def checkStatus {R : ResponseType} (response : Response R) : Exec TransportError Unit :=
  if response.status = "ok" then .ok ()
  else fail (.protocolError ((response.exception.map fun e =>
    e.text ++ " (SQL code: " ++ e.sqlCode.getD "unknown" ++ ")").getD "Unknown error"))

/-- Fail unless the transport is in a state. -/
def require (expected : ConnectionState) (message : String) : WsOp Unit := do
  let t ← Attempt.read
  lift (t.lifecycle.require expected message)

section Operations

variable (lib : Libraries)

/-- Skip messages, so many at most, until one is the response. -/
def receive (R : ResponseType) : ℕ → WsOp (Response R)
  | 0 => Attempt.of (.error .waits)
  | n + 1 => do
    let text ← Attempt.ask .next Incoming.text
    if isResponse text then
      let response ← lift (mapError (fun e => parseError e text)
        (Checked.ofExcept (lib.fromStr R text)))
      modify fun t =>
        { t with currentSchema := recordCurrentSchema response.attributes t.currentSchema }
      return response
    else receive R n

/-- **An exchange**: send a request and receive its response. -/
def sendReceive (request : JsonRequest) : WsOp (Response request.response) := do
  let requestJson ← lift (mapError .serializationError
    (Checked.ofExcept (lib.toString request.toJson)))
  let t ← Attempt.read
  lift (if t.wsStream.isNone then fail (.protocolError "Not connected") else .ok ())
  Attempt.ask (.send requestJson) (Reply.result .sendError)
  receive lib request.response lib.patience

/-- Send a request, and fail unless the status of the response is "ok". -/
def sendChecked (request : JsonRequest) : WsOp (Response request.response) := do
  let response ← sendReceive lib request
  lift (checkStatus response)
  return response

/-- The data of a response. -/
def dataOf {R : ResponseType} (response : Response R) : Exec TransportError R.Data :=
  orFail (.invalidResponse "Missing response data") response.responseData

/-- Set attributes of the session. -/
def setAttributes (request : JsonRequest) : WsOp Unit := do
  require .authenticated "Must authenticate before setting attributes"
  let _ ← sendChecked lib request

/-! ### Results -/

/-- A result without a result set for a developer. -/
def debugText (r : ResultSetInfo) : String :=
  "ResultSetInfo \x7b result_type: \"" ++ r.resultType ++ "\", row_count: " ++
    r.rowCount.elim "None" (fun n => s!"Some({n.val})") ++ ", result_set: None \x7d"

/-- A number of rows as a position. -/
def rowsReceived (rows : List (List Json.Value)) : SInt 64 :=
  SInt.wrap 64 SInt.pos_64 rows.length

/-- The next rows of a result set start at a position. -/
def WebSocketTransport.startAt (t : WebSocketTransport) (handle : SInt 32) (position : SInt 64) :
    WebSocketTransport :=
  { t with fetchPositions := Function.update t.fetchPositions handle (some position) }

/-- The result of a command, which is its first. -/
def queryResultFromResponse (response : Response .execute) : WsOp QueryResult := do
  lift (checkStatus response)
  let responseData ← lift (dataOf response)
  let result ← lift (orFail (.invalidResponse "No results returned") responseData.results.head?)
  match result.kind with
  | .resultSet => do
    let resultSet ← lift (orFail
      (.invalidResponse ("Missing result_set data. Result: " ++ debugText result))
      result.resultSet)
    let columns ← lift (orFail (.invalidResponse "Missing columns") resultSet.columns)
    let rows := resultSet.data.getD []
    modify fun t =>
      resultSet.resultSetHandle.elim t fun handle => t.startAt handle (rowsReceived rows)
    return .resultSet resultSet.resultSetHandle ⟨columns, .json rows, resultSet.numRows.getD 0⟩
  | .rowCount => return .rowCount (result.rowCount.getD 0)
  | .unknown => failWith (.invalidResponse ("Unknown result type: " ++ result.resultType))

/-! ### The steps of the lifecycle -/

/-- The second request of a login. -/
def authRequest (credentials : Credentials) (encryptedPassword : String) : JsonRequest :=
  .auth
    { username := credentials.username
      password := encryptedPassword
      clientName := credentials.clientName
      driverName := "exarrow-rs"
      clientVersion := credentials.clientVersion }

/-- The login: ask for the key of the server, and send the password encrypted with it. -/
def loginExchange (credentials : Credentials) : WsOp SessionInfo := do
  let keyResponse ← sendChecked lib .loginInit
  let keyData ← lift (orFail (.invalidResponse "Missing public key data in response")
    keyResponse.responseData)
  let rng ← Attempt.ask .systemRandom .ok
  let encryptedPassword ← lift (encryptPassword lib.base64 rng credentials.password.toList
    keyData.publicKeyPem.toList)
  let loginResponse ← sendChecked lib (authRequest credentials (String.ofList encryptedPassword))
  let sessionData ← lift (dataOf loginResponse)
  let sessionInfo := LoginResponseData.toSessionInfo sessionData
  modify fun t => { t with sessionInfo := some sessionInfo }
  return sessionInfo

/-- Wait for messages, so many at most, until none comes within a tenth of a second. -/
def drain : ℕ → WsOp Unit
  | 0 => Attempt.of (.error .waits)
  | n + 1 => do
    let message ← Attempt.ask (.nextWithin 100) .ok
    match message with
    | none | some .ended => return ()
    | some (.failed _) | some (.message _) => drain n

/-- Take leave of the server: close the session if there is one, and the stream. -/
def sendDisconnect : WsOp Unit := do
  let t ← Attempt.read
  if t.lifecycle.state = .authenticated then
    let _ ← attempt (sendReceive lib .disconnect)
  let t ← Attempt.read
  if t.wsStream.isSome then
    modify fun t => { t with wsStream := none }
    let _ ← attempt (Attempt.ask (.sendClose "Client closing connection")
      (Reply.result .sendError))
    drain lib.patience

/-- The transport without its stream and its session. -/
def WebSocketTransport.releaseConnection (t : WebSocketTransport) : WebSocketTransport :=
  { t with wsStream := none, sessionInfo := none, currentSchema := none }

/-- The steps of the lifecycle. -/
def lifecycleSteps : LifecycleSteps WebSocketTransport NetRequest NetRequest.Answer where
  lifecycle := WebSocketTransport.lifecycle
  withLifecycle lifecycle t := { t with lifecycle }
  loginExchange := loginExchange lib
  sendDisconnect := sendDisconnect lib
  releaseConnection := WebSocketTransport.releaseConnection
  hasElapsed := Attempt.ask .hasElapsed .ok

/-! ### The operations -/

/-- The address of the WebSocket. -/
def toWebsocketUrl (params : TransportParams) : String :=
  (if params.useTls then "wss" else "ws") ++ s!"://{params.host}:{params.port}"

/-- Connect. -/
def connect (params : TransportParams) : WsOp Unit := do
  let t ← Attempt.read
  let deadline ← lift (t.lifecycle.beginConnect params.timeoutMs)
  deadline.run .tcpConnect (Attempt.ask (.connectTcp params.host params.port)
    (Reply.result .webSocketError))
  let stream ← if params.useTls then do
      deadline.run .tlsHandshake (Attempt.ask (.tlsHandshake params.host
        params.certificateFingerprint params.validateServerCertificate) (Reply.result id))
      pure MaybeTlsStream.rustls
    else pure .plain
  deadline.run .webSocketUpgrade (Attempt.ask (.upgrade (toWebsocketUrl params))
    (Reply.result .webSocketError))
  modify fun t => { t with wsStream := some stream, lifecycle := t.lifecycle.connected deadline }

/-- Log in. -/
def authenticate (credentials : Credentials) : WsOp SessionInfo :=
  (lifecycleSteps lib).authenticateWithinDeadline credentials

/-- Execute a text. -/
def executeQuery (sql : String) : WsOp QueryResult := do
  require .authenticated "Must authenticate before executing queries"
  let response ← sendReceive lib (.execute sql)
  queryResultFromResponse response

/-- The size of a message that the server takes. -/
def WebSocketTransport.maxDataMessageSize (t : WebSocketTransport) : SInt 64 :=
  (t.sessionInfo.map SessionInfo.maxDataMessageSize).getD defaultMessageSize

/-- The number of rows of a result set that have come. -/
def WebSocketTransport.startPosition (t : WebSocketTransport) (handle : SInt 32) : SInt 64 :=
  (t.fetchPositions handle).getD 0

/-- Fetch rows of a result set. -/
def fetchResults (handle : SInt 32) : WsOp ResultData := do
  require .authenticated "Must authenticate before fetching results"
  let t ← Attempt.read
  let startPosition := t.startPosition handle
  let response ← sendChecked lib (.fetch handle startPosition t.maxDataMessageSize)
  let fetchData ← lift (dataOf response)
  let position ← lift (add lib.overflow startPosition (rowsReceived fetchData.data))
  modify fun t => t.startAt handle position
  return ⟨[], .json fetchData.data, fetchData.numRows⟩

/-- Close a result set. -/
def closeResultSet (handle : SInt 32) : WsOp Unit := do
  require .authenticated "Must authenticate before closing result sets"
  modify fun t => { t with fetchPositions := Function.update t.fetchPositions handle none }
  let _ ← sendChecked lib (.closeResultSet [handle])

/-- The description of a prepared statement. -/
def preparedHandle (data : PreparedStatementResponseData) : PreparedStatementHandle where
  handle := data.statementHandle
  numParams := data.parameterData.elim 0 ParameterData.numColumns
  parameterTypes := data.parameterData.elim [] fun p => p.columns.map ParameterInfo.dataType
  parameterNames := data.parameterData.elim [] fun p => p.columns.map ParameterInfo.name
  resultColumns := data.resultSetColumns

/-- Prepare a statement. -/
def createPreparedStatement (sql : String) : WsOp PreparedStatementHandle := do
  require .authenticated "Must authenticate before creating prepared statements"
  let response ← sendChecked lib (.createPreparedStatement sql)
  let responseData ← lift (dataOf response)
  return preparedHandle responseData

/-- The columns of parameters: their types are those that the server has told, or those of the
first row. -/
def parameterColumns (handle : PreparedStatementHandle) (data : List (List Json.Value)) :
    List ColumnInfo :=
  if handle.parameterTypes = [] then
    data.mapIdx fun i column =>
      ⟨s!"param{i}", column.head?.elim longVarchar Messages.DataType.inferFromJson⟩
  else handle.parameterTypes.mapIdx fun i dataType => ⟨s!"param{i}", dataType⟩

/-- The request to execute a prepared statement. -/
def executePreparedRequest (handle : PreparedStatementHandle)
    (parameters : Option (List (List Json.Value))) : ExecutePreparedStatementRequest :=
  let request : ExecutePreparedStatementRequest := { statementHandle := handle.handle }
  parameters.elim request fun data => request.withData (parameterColumns handle data) data

/-- Execute a prepared statement. -/
def executePreparedStatement (handle : PreparedStatementHandle)
    (parameters : Option (List (List Json.Value))) : WsOp QueryResult := do
  require .authenticated "Must authenticate before executing prepared statements"
  let response ← sendReceive lib
    (.executePreparedStatement (executePreparedRequest handle parameters))
  queryResultFromResponse response

/-- Close a prepared statement. -/
def closePreparedStatement (handle : PreparedStatementHandle) : WsOp Unit := do
  require .authenticated "Must authenticate before closing prepared statements"
  let _ ← sendChecked lib (.closePreparedStatement handle.handle)

/-- Close the connection. -/
def close : WsOp Unit := (lifecycleSteps lib).closeGracefully

/-- Drop the connection. -/
def terminate (t : WebSocketTransport) : WebSocketTransport := (lifecycleSteps lib).terminate t

/-- Switch autocommit. -/
def setAutocommit (enabled : Bool) : WsOp Unit := setAttributes lib (.autocommit enabled)

/-- Set the query timeout. -/
def setQueryTimeout (timeoutSecs : UInt64) : WsOp Unit :=
  setAttributes lib (.queryTimeout timeoutSecs)

/-- Read the current schema of the session. -/
def refreshCurrentSchema : WsOp (Option String) := do
  require .authenticated "Must authenticate before reading attributes"
  let _ ← sendChecked lib .getAttributes
  let t ← Attempt.read
  return t.currentSchema

/-- Open a schema, and read which one is open then. -/
def setCurrentSchema (schema : String) : WsOp Unit := do
  setAttributes lib (.currentSchema schema)
  let _ ← refreshCurrentSchema lib

end Operations

end Exarrow.Transport.WebSocket
