import Exarrow.Native.Handshake
import Exarrow.Native.Layout
import Exarrow.Native.Parameters
import Exarrow.Transport.Lifecycle

/-!
# The native transport

The transport that speaks the native protocol over a TCP stream, which may be wrapped in
TLS (`Exarrow.Native.NativeTcpTransport`). Its operations are programs that write to the
stream and read from it (`Exarrow.Native.NetRequest`), each of which may fail, take no end,
or be dropped at any of its requests.

An exchange sends a message and reads responses until one is not the note that the command
is still executing (`Exarrow.Native.sendAndFillBuf`). Nothing but the order pairs a
response with its message. Every response passes `Exarrow.Native.receiveIntoBuf`, which
decrypts it and records the current schema if the response reports it.

A login sends its packet, then the password and the keys, and sets the keys once the server
has accepted them; then it asks for the attributes of the session
(`Exarrow.Native.loginExchange`).
-/

namespace Exarrow.Native

open Machine Checked Keystream Client Transport Messages

/-! ### The network -/

/-- What the transport asks of the network, of the random number generator and of the clock. -/
inductive NetRequest where
  | connectTcp (address : String)
  | setNodelay
  | tlsHandshake (host : String) (certificateFingerprint : Option String) (validate : Bool)
  | writeAll (bytes : List UInt8)
  | flush
  | readExact (n : ℕ)
  | random (n : ℕ)
  | hasElapsed

/-- So many bytes. -/
abbrev Bytes (n : ℕ) : Type := { bs : List UInt8 // bs.length = n }

/-- What answers a request. -/
@[reducible] def NetRequest.Answer : NetRequest → Type
  | connectTcp _ => Reply String Unit
  | setNodelay => Except String Unit
  | tlsHandshake .. => Reply TransportError Unit
  | writeAll _ => Reply String Unit
  | flush => Reply String Unit
  | readExact n => Reply String (Bytes n)
  | random n => Option (Bytes n)
  | hasElapsed => Bool

/-- What the transport takes from the libraries it is built on. -/
structure NativeLibraries where
  parser : Libraries
  encoder : EncoderLibraries
  /-- The bytes that a key of the stream cipher yields. -/
  keystream : Cipher.Stream
  /-- The name of the operating system. -/
  clientOs : String
  /-- The text of a response for a developer. -/
  debugText : NativeResponse → String
  /-- The number of responses that an exchange waits for. -/
  patience : ℕ

/-! ### The state -/

/-- A stream. -/
inductive NativeStream where
  | plain
  | tls
  deriving DecidableEq

/-- The transport. -/
structure NativeTcpTransport where
  stream : Option NativeStream := none
  lifecycle : ConnectionLifecycle := {}
  serial : UInt32 := 1
  encryptor : ChaCha20Encryptor := {}
  session : Option SessionInfo := none
  tlsActive : Bool := false
  fetchPositions : SInt 32 → Option (SInt 64) := fun _ => none
  resultColumns : SInt 32 → Option (List NativeColumnMeta) := fun _ => none
  recvBuf : List UInt8 := []
  currentSchema : Option String := none

/-- An operation of the transport. -/
abbrev NativeOp (α : Type) : Type := Operation NativeTcpTransport NetRequest NetRequest.Answer α

/-! ### Sending and receiving -/

/-- The error without a stream. -/
def notConnected : TransportError := .protocolError "Not connected"

/-- Fail without a stream. -/
def streamMut : NativeOp Unit := do
  let t ← Attempt.read
  if t.stream.isNone then failWith notConnected

/-- Send bytes. -/
def sendRaw (data : List UInt8) : NativeOp Unit := do
  streamMut
  Attempt.ask (.writeAll data) (Reply.result .sendError)
  Attempt.ask .flush (Reply.result .sendError)

/-- The next number of a message. -/
def nextSerial : NativeOp UInt32 := do
  let t ← Attempt.read
  Attempt.write { t with serial := t.serial + 1 }
  return t.serial

/-- The header of a message. -/
def requestHeader (command : UInt8) (serial : UInt32) (attrs : AttributeSet)
    (extraData : Option (List UInt8)) : MessageHeader :=
  let attrBytes := attrs.serialize
  { messageLength := UInt32.ofNat (attrBytes.length + (extraData.getD []).length)
    command
    serial
    numAttributes := UInt32.ofNat attrs.length
    attributeDataLen := UInt32.ofNat attrBytes.length
    numResultParts := if extraData.isSome then 1 else 0 }

/-- What follows the header. -/
def requestPayload (attrs : AttributeSet) (extraData : Option (List UInt8)) : List UInt8 :=
  attrs.serialize ++ extraData.getD []

section Operations

variable (lib : NativeLibraries)

/-- Encrypt what is sent, once the keys are set. -/
def encryptPayload (payload : List UInt8) : NativeOp (List UInt8) := do
  let t ← Attempt.read
  if t.encryptor.isActive then
    Attempt.write { t with encryptor := t.encryptor.sent payload.length }
    return t.encryptor.encrypt lib.keystream payload
  else return payload

/-- Send a message under a number. -/
def sendMessageWithSerial (command : UInt8) (attrs : AttributeSet)
    (extraData : Option (List UInt8)) (serial : UInt32) : NativeOp Unit := do
  let payload ← encryptPayload lib (requestPayload attrs extraData)
  sendRaw (requestHeader command serial attrs extraData).serialize
  sendRaw payload

/-- Send a message. -/
def sendMessage (command : UInt8) (attrs : AttributeSet) (extraData : Option (List UInt8)) :
    NativeOp Unit := do
  let serial ← nextSerial
  sendMessageWithSerial lib command attrs extraData serial

/-- The attributes at the start of a payload, as many as the header says. -/
def responseAttributes (header : MessageHeader) (payload : List UInt8) :
    Except TransportError AttributeSet :=
  if header.numAttributes = 0 ∨ header.attributeDataLen = 0 then .ok []
  else
    parseAttributes lib.parser header.numAttributes.toNat
      (payload.take (min header.attributeDataLen.toNat payload.length))

/-- What a response says of the current schema: nothing, that there is none, or its name. -/
def currentSchemaChange (attrs : AttributeSet) : Option (Option String) :=
  (attributeText attrs attrCurrentSchema).map fun name => if name = "" then none else some name

/-- The current schema that the answer to a request for all attributes reports. -/
def currentSchemaFromGetAttributes (attrs : AttributeSet) : Option String :=
  (currentSchemaChange attrs).join

/-- Read the bytes behind a header into the buffer. -/
def receivePayload (header : MessageHeader) : NativeOp Unit := do
  modify fun t => { t with recvBuf := [] }
  if 0 < header.messageLength.toNat then
    modify fun t => { t with recvBuf := List.replicate header.messageLength.toNat 0 }
    streamMut
    let bytes ← Attempt.ask (.readExact header.messageLength.toNat) (Reply.result .receiveError)
    modify fun t =>
      if t.encryptor.isActive then
        { t with
          recvBuf := t.encryptor.decrypt lib.keystream bytes.val
          encryptor := t.encryptor.received bytes.val.length }
      else { t with recvBuf := bytes.val }

/-- Receive a response into the buffer, and record the current schema that it reports. -/
def receiveIntoBuf : NativeOp MessageHeader := do
  streamMut
  let bytes ← Attempt.ask (.readExact headerLength) (Reply.result .receiveError)
  let header := MessageHeader.parse bytes.val
  receivePayload lib header
  let t ← Attempt.read
  let attrs ← lift (Checked.ofExcept (responseAttributes lib header t.recvBuf))
  modify fun t => { t with currentSchema := (currentSchemaChange attrs).getD t.currentSchema }
  return header

/-- Receive a response. -/
def receiveMessage : NativeOp (MessageHeader × List UInt8) := do
  let header ← receiveIntoBuf lib
  let t ← Attempt.read
  return (header, t.recvBuf)

/-- The parts of the result in a response, behind its attributes. -/
def resultDataSlice (header : MessageHeader) (payload : List UInt8) : List UInt8 :=
  payload.drop header.attributeDataLen.toNat

/-- The response says that the command is still executing. -/
def NativeResponse.isStillExecuting : NativeResponse → Bool
  | .stillExecuting => true
  | _ => false

/-- Receive responses, so many at most, until one is the last. -/
def awaitResponse : ℕ → NativeOp MessageHeader
  | 0 => Attempt.of (.error .waits)
  | n + 1 => do
    let header ← receiveIntoBuf lib
    let t ← Attempt.read
    let response ← lift (parseResponse lib.parser (resultDataSlice header t.recvBuf))
    if response.terminal.isStillExecuting then awaitResponse n
    else return header

/-- **An exchange**: send a message and receive its response into the buffer. -/
def sendAndFillBuf (command : UInt8) (attrs : AttributeSet) (extraData : Option (List UInt8)) :
    NativeOp MessageHeader := do
  let serial ← nextSerial
  sendMessageWithSerial lib command attrs extraData serial
  awaitResponse lib lib.patience

/-- An exchange whose response is returned. -/
def sendAndReceive (command : UInt8) (attrs : AttributeSet) (extraData : Option (List UInt8)) :
    NativeOp (MessageHeader × List UInt8) := do
  let header ← sendAndFillBuf lib command attrs extraData
  let t ← Attempt.read
  return (header, t.recvBuf)

/-- The response in a payload, unless it is an exception. -/
def checkResponse (header : MessageHeader) (payload : List UInt8) :
    Exec TransportError NativeResponseEnvelope := do
  let response ← parseResponse lib.parser (resultDataSlice header payload)
  match response.terminal with
  | .exception message sqlState =>
    fail (.protocolError (message ++ " (SQL state: " ++ sqlState ++ ")"))
  | _ => return response

/-- Fail when a response carries an exception. -/
def rejectException (context : String) (resultData : List UInt8) : Exec TransportError Unit :=
  if resultData = [] then .ok ()
  else do
    let response ← parseResponse lib.parser resultData
    match response.terminal with
    | .exception message sqlState =>
      fail (.protocolError (context ++ ": " ++ message ++ " (SQL state: " ++ sqlState ++ ")"))
    | _ => return ()

/-! ### Results -/

/-- The handle of a result set whose rows have all come. -/
def smallResultset : SInt 32 := ⟨-3, by norm_num, by norm_num⟩

/-- The columns as they are reported. -/
def toColumnInfo (columns : List NativeColumnMeta) : List ColumnInfo :=
  columns.map fun c => ⟨c.name, nativeMetaToDataType c⟩

/-- A batch without columns and rows. -/
def emptyBatch : Arrow.RecordBatch where
  schema := ⟨[]⟩
  columns := []
  numRows := 0
  admits := .nil
  lengths := List.forall_mem_nil _

/-- The result of an executed command. -/
def nativeResultToQueryResult (response : NativeResponse) : Exec TransportError QueryResult :=
  match response with
  | .resultSet handle columns batch totalRows _ =>
    .ok (.resultSet (if handle = smallResultset then none else some handle)
      ⟨toColumnInfo columns, .arrow (batch.getD emptyBatch), totalRows⟩)
  | .rowCount count => .ok (.rowCount count)
  | .empty => .ok (.rowCount 0)
  | other => fail (.protocolError
      ("Unexpected native response where a query result was expected: " ++ lib.debugText other))

/-- The result of an executed command. A result set that is still open on the server keeps
its columns and the number of rows that have come. -/
def convertAndCacheResult (response : NativeResponse) : NativeOp QueryResult := do
  match response with
  | .resultSet handle columns _ _ rowsReceived =>
    if handle ≠ smallResultset then
      modify fun t =>
        { t with
          resultColumns := Function.update t.resultColumns handle (some columns)
          fetchPositions := Function.update t.fetchPositions handle (some rowsReceived) }
  | _ => pure ()
  lift (nativeResultToQueryResult lib response)

/-- The size of a message that the server takes. -/
def NativeTcpTransport.maxDataMessageSize (t : NativeTcpTransport) : SInt 64 :=
  (t.session.map SessionInfo.maxDataMessageSize).getD Native.maxDataMessageSize

/-- Fail unless the transport is in a state. -/
def require (expected : ConnectionState) (message : String) : NativeOp Unit := do
  let t ← Attempt.read
  lift (t.lifecycle.require expected message)

/-- Set attributes of the session. -/
def setAttributes (attrs : AttributeSet) : NativeOp Unit := do
  require .authenticated "Must authenticate before setting attributes"
  let header ← sendAndFillBuf lib cmdSetAttributes attrs none
  let t ← Attempt.read
  let _ ← lift (checkResponse lib header t.recvBuf)

/-! ### The steps of the lifecycle -/

/-- The second message of a login, with its keys. -/
def buildAuthMessage (password : String) (publicKeyData randomPhrase : List UInt8)
    (useChacha20 : Bool) : NativeOp AuthMessage := do
  let (n, e) ← lift (Checked.ofExcept (parseRsaPublicKey publicKeyData))
  let pwdBytes := Text.bytes password.toList
  let padding ← match paddingLength pwdBytes randomPhrase with
    | some length => do
      let bytes ← Attempt.ask (.random length)
        (fun bytes => ofExec (orFail (.protocolError "RNG failure") bytes))
      pure (some bytes.val)
    | none => pure none
  -- The password is encrypted before the keys are made.
  let _ ← lift (exasolEncodePwd lib.parser.overflow (padPassword pwdBytes padding) randomPhrase n e)
  let keys ← if useChacha20 then do
      let sendKey ← Attempt.ask (.random chacha20KeyLen) (fun key => ofExec (key.elim stop .ok))
      let recvKey ← Attempt.ask (.random chacha20KeyLen) (fun key => ofExec (key.elim stop .ok))
      pure (some (sendKey.val, recvKey.val))
    else pure none
  let attrs ← lift (authAttributes lib.parser.overflow (padPassword pwdBytes padding) randomPhrase
    n e keys)
  let serial ← nextSerial
  return ⟨authBytes serial attrs, (keys.map Prod.fst).getD [], (keys.map Prod.snd).getD []⟩

/-- An integer attribute as a text. -/
def attributeIntegerText (attrs : AttributeSet) (id : UInt16) : Option String :=
  (attributeInteger attrs id).map fun x => toString x.val

/-- The session as the answer to the first packet describes it. -/
def sessionFromLogin (attrs : AttributeSet) : Except TransportError SessionInfo := do
  let protocolVersion ← negotiatedProtocolVersion (attributeInteger attrs attrProtocolVersion)
  return {
    sessionId := (attributeIntegerText attrs attrSessionid).getD "0"
    protocolVersion
    releaseVersion := (attributeText attrs attrReleaseVersion).getD ""
    databaseName := (attributeText attrs attrDatabaseName).getD ""
    productName := (attributeText attrs attrProductName).getD ""
    maxDataMessageSize := (attributeInteger attrs attrDataMessageSize).getD maxDataMessageSize
    timeZone := attributeText attrs attrTimezone }

/-- The session with what the attributes of the session add. -/
def sessionWithAttributes (session : SessionInfo) (attrs : AttributeSet) : SessionInfo :=
  { session with
    sessionId := (attributeIntegerText attrs attrSessionid).getD session.sessionId
    releaseVersion := (attributeText attrs attrReleaseVersion).getD session.releaseVersion
    databaseName := (attributeText attrs attrDatabaseName).getD session.databaseName
    productName := (attributeText attrs attrProductName).getD session.productName
    timeZone := (attributeText attrs attrTimezone).or session.timeZone }

/-- The login: the first packet, the password and the keys, and the attributes of the
session. The keys are set once the server has accepted the password. -/
def loginExchange (credentials : Credentials) : NativeOp SessionInfo := do
  sendRaw (buildLoginPacket lib.clientOs credentials)
  let (loginHeader, loginPayload) ← receiveMessage lib
  let serverAttrs ← lift (Checked.ofExcept
    (parseAttributes lib.parser loginHeader.numAttributes.toNat loginPayload))
  let publicKey ← lift (orFail (.protocolError "Server did not send public key")
    (attributeBytes serverAttrs attrPublicKey))
  let randomPhrase ← lift (orFail (.protocolError "Server did not send random phrase")
    (attributeBytes serverAttrs attrRandomPhrase))
  let session ← lift (Checked.ofExcept (sessionFromLogin serverAttrs))
  let useChacha20 := !(← Attempt.read).tlsActive
  let auth ← buildAuthMessage lib credentials.password publicKey randomPhrase useChacha20
  sendRaw auth.wireBytes
  let (header, payload) ← receiveMessage lib
  lift (rejectException lib "Authentication failed" (resultDataSlice header payload))
  if useChacha20 ∧ auth.sendKey ≠ [] then
    let t ← Attempt.read
    let encryptor ← lift (ChaCha20Encryptor.setKeys auth.sendKey auth.recvKey)
    Attempt.write { t with encryptor }
  sendMessage lib cmdGetAttributes [] none
  let (gaHeader, gaPayload) ← receiveMessage lib
  lift (rejectException lib "GET_ATTRIBUTES failed" (resultDataSlice gaHeader gaPayload))
  let gaAttrs ← lift (Checked.ofExcept (responseAttributes lib gaHeader gaPayload))
  let sessionInfo := sessionWithAttributes session gaAttrs
  modify fun t =>
    { t with currentSchema := currentSchemaFromGetAttributes gaAttrs, session := some sessionInfo }
  return sessionInfo

/-- Take leave of the server, if there is a session. -/
def sendDisconnect : NativeOp Unit := do
  let t ← Attempt.read
  if t.lifecycle.state = .authenticated then
    let _ ← attempt (sendAndReceive lib cmdDisconnect [] none)

/-- The transport without its stream and its session. -/
def NativeTcpTransport.releaseConnection (t : NativeTcpTransport) : NativeTcpTransport :=
  { t with stream := none, session := none, currentSchema := none }

/-- The steps of the lifecycle. -/
def lifecycleSteps : LifecycleSteps NativeTcpTransport NetRequest NetRequest.Answer where
  lifecycle := NativeTcpTransport.lifecycle
  withLifecycle lifecycle t := { t with lifecycle }
  loginExchange := loginExchange lib
  sendDisconnect := sendDisconnect lib
  releaseConnection := NativeTcpTransport.releaseConnection
  hasElapsed := Attempt.ask .hasElapsed .ok

/-! ### The operations -/

/-- Connect. -/
def connect (params : TransportParams) : NativeOp Unit := do
  let deadline ← lift ((← Attempt.read).lifecycle.beginConnect params.timeoutMs)
  deadline.run .tcpConnect (Attempt.ask (.connectTcp s!"{params.host}:{params.port}")
    (Reply.result .ioError))
  Attempt.ask .setNodelay (Reply.result .ioError ∘ some)
  if params.useTls then
    deadline.run .tlsHandshake (Attempt.ask (.tlsHandshake params.host
      params.certificateFingerprint params.validateServerCertificate) (Reply.result id))
    modify fun t => { t with stream := some .tls, tlsActive := true }
  else modify fun t => { t with stream := some .plain }
  modify fun t => { t with lifecycle := t.lifecycle.connected deadline }

/-- Log in. -/
def authenticate (credentials : Credentials) : NativeOp SessionInfo :=
  (lifecycleSteps lib).authenticateWithinDeadline credentials

/-- Execute a text. -/
def executeQuery (sql : String) : NativeOp QueryResult := do
  require .authenticated "Must authenticate before executing queries"
  let header ← sendAndFillBuf lib cmdExecute [] (some (Text.bytes sql.toList))
  let t ← Attempt.read
  let response ← lift (checkResponse lib header t.recvBuf)
  convertAndCacheResult lib response.terminal

/-- The number of rows of a result set that have come. -/
def NativeTcpTransport.startPosition (t : NativeTcpTransport) (handle : SInt 32) : SInt 64 :=
  (t.fetchPositions handle).getD 0

/-- What asks for rows: the result set, the first row and the size. -/
def fetchData (handle : SInt 32) (startPosition fetchSizeBytes : SInt 64) : List UInt8 :=
  toLE 4 handle.val ++ toLE 8 startPosition.val ++ toLE 8 fetchSizeBytes.val

/-- Note that rows of a result set have come. -/
def advancePosition (handle : SInt 32) (startPosition rowsReceived : SInt 64) : NativeOp Unit := do
  let position ← lift (add lib.parser.overflow startPosition rowsReceived)
  modify fun t =>
    { t with fetchPositions := Function.update t.fetchPositions handle (some position) }

/-- The rows in an answer to a fetch. -/
def fetchedData (handle : SInt 32) (startPosition : SInt 64) (cachedColumns : List NativeColumnMeta)
    (response : NativeResponse) : NativeOp ResultData := do
  match response with
  | .moreRows data =>
    let (rowsReceived, batch) ← lift (parse lib.parser
      (parseFetchToRecordBatch lib.parser cachedColumns) data)
    advancePosition lib handle startPosition rowsReceived
    return ⟨toColumnInfo cachedColumns, .arrow batch, rowsReceived⟩
  | .resultSet _ columns batch totalRows rowsReceived =>
    advancePosition lib handle startPosition rowsReceived
    return ⟨toColumnInfo columns, .arrow (batch.getD emptyBatch), totalRows⟩
  | .empty => return ⟨[], .arrow emptyBatch, 0⟩
  | other => failWith (.protocolError
      ("Expected a result set or more-rows response from CMD_FETCH2, got " ++ lib.debugText other))

/-- Fetch rows of a result set. -/
def fetchResults (handle : SInt 32) : NativeOp ResultData := do
  require .authenticated "Must authenticate before fetching results"
  let t ← Attempt.read
  let startPosition := t.startPosition handle
  let cachedColumns ← lift (orFail (.protocolError "No cached column metadata for fetch")
    (t.resultColumns handle))
  let header ← sendAndFillBuf lib cmdFetch2 []
    (some (fetchData handle startPosition t.maxDataMessageSize))
  let t ← Attempt.read
  let response ← lift (checkResponse lib header t.recvBuf)
  fetchedData lib handle startPosition cachedColumns response.terminal

/-- Fail when the answer to a request without a result is an exception. -/
def checkAnswer (answer : MessageHeader × List UInt8) : NativeOp Unit :=
  if answer.2 = [] then pure ()
  else do
    let _ ← lift (checkResponse lib answer.1 answer.2)

/-- Close a result set. -/
def closeResultSet (handle : SInt 32) : NativeOp Unit := do
  require .authenticated "Must authenticate before closing result sets"
  modify fun t =>
    { t with
      fetchPositions := Function.update t.fetchPositions handle none
      resultColumns := Function.update t.resultColumns handle none }
  let answer ← sendAndReceive lib cmdCloseResultset [] (some (toLE 4 handle.val))
  checkAnswer lib answer

/-- The description of a prepared statement. -/
def preparedHandle (handle : SInt 32) (parameters resultColumns : List NativeColumnMeta) :
    PreparedStatementHandle where
  handle := handle
  numParams := SInt.wrap 32 SInt.pos_32 parameters.length
  parameterTypes := parameters.map nativeMetaToDataType
  parameterNames := parameters.map fun c => if c.name = "" then none else some c.name
  resultColumns := toColumnInfo resultColumns

/-- Prepare a statement. -/
def createPreparedStatement (sql : String) : NativeOp PreparedStatementHandle := do
  require .authenticated "Must authenticate before creating prepared statements"
  let (header, payload) ← sendAndReceive lib cmdCreatePrepared [] (some (Text.bytes sql.toList))
  let response ← lift (checkResponse lib header payload)
  match response.terminal with
  | .preparedStatement handle parameters resultColumns =>
    return preparedHandle handle parameters resultColumns
  | .empty => return { handle := 0, numParams := 0 }
  | _ => failWith (.protocolError "Unexpected response from CREATE PREPARED")

/-- Execute a prepared statement once. -/
def runExecutePrepared (data : List UInt8) : NativeOp QueryResult := do
  let (header, payload) ← sendAndReceive lib cmdExecutePrepared [] (some data)
  let response ← lift (checkResponse lib header payload)
  convertAndCacheResult lib response.terminal

/-- Execute a prepared statement range by range and add up the row counts. A result set
ends the execution. -/
def executePreparedRanges (handle : PreparedStatementHandle) (encoded : EncodedParameterRows) :
    List RowRange → SInt 64 → NativeOp QueryResult
  | [], affectedRows => return .rowCount affectedRows
  | range :: ranges, affectedRows => do
    let result ← runExecutePrepared lib (buildRangePayload handle encoded range)
    match result with
    | .rowCount count =>
      let affectedRows ← lift (add lib.parser.overflow affectedRows count)
      executePreparedRanges handle encoded ranges affectedRows
    | .resultSet .. => return result

/-- The number of bytes that the server takes as a size, the default if it is negative. -/
def messageLimit (size : SInt 64) : ℕ :=
  if 0 ≤ size.val then size.val.toNat else Native.maxDataMessageSize.val.toNat

/-- Execute a prepared statement. -/
def executePreparedStatement (handle : PreparedStatementHandle)
    (parameters : Option (List (List Json.Value))) : NativeOp QueryResult := do
  require .authenticated "Must authenticate before executing prepared statements"
  let t ← Attempt.read
  let ranges ← match parameters.filter fun _ => handle.resultColumns.isEmpty with
    | some cols => lift (splitParameterRows lib.encoder handle cols
        (messageLimit t.maxDataMessageSize) >>= fun encoded => pure (some encoded))
    | none => pure none
  match ranges with
  | some encoded =>
    if encoded.ranges ≠ [] then executePreparedRanges lib handle encoded encoded.ranges 0
    else do
      let data ← lift (buildExecutePreparedPayload lib.encoder handle parameters)
      runExecutePrepared lib data
  | none => do
    let data ← lift (buildExecutePreparedPayload lib.encoder handle parameters)
    runExecutePrepared lib data

/-- Close a prepared statement. -/
def closePreparedStatement (handle : PreparedStatementHandle) : NativeOp Unit := do
  require .authenticated "Must authenticate before closing prepared statements"
  let answer ← sendAndReceive lib cmdClosePrepared [] (some (toLE 4 handle.handle.val))
  checkAnswer lib answer

/-- Close the connection. -/
def close : NativeOp Unit := (lifecycleSteps lib).closeGracefully

/-- Drop the connection. -/
def terminate (t : NativeTcpTransport) : NativeTcpTransport := (lifecycleSteps lib).terminate t

/-- Switch autocommit. -/
def setAutocommit (enabled : Bool) : NativeOp Unit :=
  setAttributes lib [(attrAutocommit, .bool enabled)]

/-- Set the query timeout. -/
def setQueryTimeout (timeoutSecs : UInt64) : NativeOp Unit := do
  let timeout ← lift (orFail (.protocolError
    (s!"query_timeout of {timeoutSecs}s exceeds the native protocol's i32 range"))
    (SInt.ofInt? 32 timeoutSecs.toNat))
  setAttributes lib [(attrQueryTimeout, .int32 timeout)]

/-- Read the current schema of the session. -/
def refreshCurrentSchema : NativeOp (Option String) := do
  require .authenticated "Must authenticate before reading attributes"
  let header ← sendAndFillBuf lib cmdGetAttributes [] none
  let t ← Attempt.read
  let _ ← lift (checkResponse lib header t.recvBuf)
  let attrs ← lift (Checked.ofExcept (responseAttributes lib header t.recvBuf))
  modify fun t => { t with currentSchema := currentSchemaFromGetAttributes attrs }
  return currentSchemaFromGetAttributes attrs

/-- Open a schema, and read which one is open then. -/
def setCurrentSchema (schema : String) : NativeOp Unit := do
  setAttributes lib [(attrCurrentSchema, .string schema)]
  let _ ← refreshCurrentSchema lib

end Operations

end Exarrow.Native
