import Exarrow.Protocol
import Exarrow.Session

/-!
# Connections

A connection owns a transport and a session (`Exarrow.Connection`). Its methods are
programs (`Exarrow.Connection.Act`) that read and write the connection and send
requests to the transport, each of which is awaited: a caller that drops the call
meanwhile abandons it there.

* `Exarrow.Connection.executeStatement` pushes the timeout of the statement to the
  server when it differs from the one that was applied last, runs the text, and
  then records what was applied.
* `Exarrow.Connection.beginTransaction` turns autocommit off on the server;
  `Exarrow.Connection.commit` and `Exarrow.Connection.rollback` run the commands of
  that name when the session says that a transaction is active, and do nothing
  otherwise.
* The prepared statements are one method in several guises
  (`Exarrow.Connection.runPrepared`).
-/

namespace Exarrow

open Machine Checked Arrow Client

/-! ### Timeouts and errors -/

/-- A number of seconds rounded up: only the zero duration gives zero. -/
def secsCeil (d : Duration) : UInt64 :=
  if 0 < d.nanos.val then (if d.secs = 0xFFFFFFFFFFFFFFFF then d.secs else d.secs + 1) else d.secs

/-- The product with a thousand, at most the greatest number. -/
def saturatingMillis (secs : UInt64) : ℕ := min (secs.toNat * 1000) (2 ^ 64 - 1)

/-- A failed execution as a query error. The server reports an expired timeout by
its state code or its text; without a timeout it is an ordinary failure. -/
def mapExecutionError (timeoutMs : ℕ) (e : TransportError) : QueryError :=
  if 0 < timeoutMs ∧ (occursIn "R0001".toList e.text.toList ||
      occursIn "Query terminated because timeout has been reached".toList e.text.toList) then
    .timeout timeoutMs
  else .executionFailed (.transport e)

/-! ### Connections -/

/-- The parameters of a connection. -/
structure ConnectionParams where
  host : String
  port : UInt16
  username : String
  password : String
  schema : Option String
  connectionTimeout : Duration
  queryTimeout : Option Duration
  useTls : Bool
  validateServerCertificate : Bool
  certificateFingerprint : Option String
  clientName : String
  clientVersion : String
  transport : Option String := none
  deriving DecidableEq

/-- A connection. -/
structure Connection where
  /-- What the client knows of its session. -/
  session : Session
  /-- The parameters with which it was made. -/
  params : ConnectionParams

namespace Connection

/-- A connection whose session has just begun. -/
def fresh (sessionId : String) (params : ConnectionParams) : Connection :=
  { session := { sessionId := sessionId, config := ⟨params.queryTimeout⟩ }, params := params }

/-- A method of a connection. -/
abbrev Act (α : Type) := Attempt Connection Request Answer (Fault QueryError) α

/-- Send a request. -/
def request (r : Request) (failed : TransportError → QueryError) : Act r.Value :=
  Attempt.ask r fun a => mapError failed (ofExcept a)

/-- A transport error of an execution. -/
def executionFailed (e : TransportError) : QueryError := .executionFailed (.transport e)

/-- A transport error of a transaction. -/
def transactionFailed (e : TransportError) : QueryError := .transactionError (.transport e)

/-- Change the session. -/
def updateSession (f : Session → Session) : Act Unit := do
  let conn ← Attempt.read
  Attempt.write { conn with session := f conn.session }

/-- The session must be open. -/
def ready : Act Unit := do
  let conn ← Attempt.read
  Attempt.of (mapError (fun e => .invalidState (.connection e))
    (ofExcept conn.session.validateReady))

/-! ### Statements -/

/-- A new statement, with the timeout of the connection. -/
def createStatement (conn : Connection) (sql : String) : Statement :=
  { sql := sql
    timeoutMs := conn.params.queryTimeout.map fun d =>
      UInt64.ofNat (min d.asMillis (2 ^ 64 - 1)) }

/-- The seconds that a statement asks the server for; zero for no timeout. -/
def targetSecs (stmt : Statement) : UInt64 :=
  stmt.timeoutMs.elim 0 fun ms => secsCeil (.fromMillis ms)

/-- The seconds that were last applied to the server. -/
def appliedSecs (session : Session) : UInt64 := session.config.queryTimeout.elim 0 secsCeil

/-- Push a timeout to the server. -/
def reconcile (needed : Bool) (timeoutSecs : UInt64) : Act Unit :=
  if needed then request (.setQueryTimeout timeoutSecs) executionFailed else pure ()

/-- Record the timeout that was applied. -/
def recordTimeout (needed : Bool) (timeoutMs : Option UInt64) : Act Unit :=
  if needed then
    updateSession fun s => { s with config := { queryTimeout := timeoutMs.map .fromMillis } }
  else pure ()

variable (pf : Platform)

/-- Run a statement. -/
def executeStatement (stmt : Statement) : Act ResultSetInner := do
  ready
  updateSession Session.incrementQueryCount
  let finalSql ← Attempt.of (ofExcept stmt.buildSql)
  let conn ← Attempt.read
  let needsReconcile := targetSecs stmt != appliedSecs conn.session
  reconcile needsReconcile (targetSecs stmt)
  -- The outcome of the execution is looked at only after the timeout is recorded.
  let execResult ← Attempt.ask (.executeQuery finalSql) Except.ok
  recordTimeout needsReconcile stmt.timeoutMs
  let result ← Attempt.of
    (mapError (mapExecutionError (saturatingMillis (targetSecs stmt))) (ofExcept execResult))
  Attempt.of (ResultSet.fromTransportResult pf result)

/-- Run a statement that counts rows. -/
def executeStatementUpdate (stmt : Statement) : Act (SInt 64) := do
  let resultSet ← executeStatement pf stmt
  Attempt.of (orFail (.noResultSet "Expected row count, got result set")
    (ResultSet.rowCount resultSet))

/-- Run a text. -/
def execute (sql : String) : Act ResultSetInner := do
  let conn ← Attempt.read
  executeStatement pf (conn.createStatement sql)

/-- Run a text that counts rows. -/
def executeUpdate (sql : String) : Act (SInt 64) := do
  let conn ← Attempt.read
  executeStatementUpdate pf (conn.createStatement sql)

/-- Close a result set; that this fails does not matter. -/
def closeResultSet (handle : Option (SInt 32)) : Act Unit :=
  match handle with
  | some handle => Attempt.ask (.closeResultSet handle) fun _ => .ok ()
  | none => pure ()

/-- Ask for the pages that are left, unless everything is there. -/
def pagination (s : StreamResult) : Act (Exec QueryError (List RecordBatch)) :=
  if s.handle.isSome && !s.complete then
    Attempt.ask (.paginateRemaining s) fun a => .ok (match a with
      | .ok r => r
      | .error e => fail (executionFailed e))
  else pure (do ResultSet.checkBufferedRows s.metadata s.batches; return s.batches)

/-- Read a whole result, and close it. -/
def fetchAll (r : ResultSetInner) : Act (List RecordBatch) :=
  match r with
  | .rowCount _ => Attempt.of (fail (.noResultSet "Cannot fetch batches from row count result"))
  | .stream s => do
    let batches ← pagination s
    closeResultSet s.handle
    Attempt.of batches

/-- Run a text and read its whole result. -/
def query (sql : String) : Act (List RecordBatch) := do
  let resultSet ← execute pf sql
  fetchAll resultSet

/-- Run a text for an import, past the session: neither its state nor its timeout
is looked at. -/
def sqlExecutor (sql : String) : Act UInt64 :=
  Attempt.ask (.executeQuery sql) fun a => match a with
    | .ok (.rowCount count) => .ok (UInt64.ofInt count.val)
    | .ok (.resultSet ..) => .ok 0
    | .error e => fail (executionFailed e)

/-! ### Prepared statements -/

/-- Prepare a statement. -/
def prepare (sql : String) : Act PreparedStatement := do
  ready
  let handle ← request (.createPreparedStatement sql) executionFailed
  return PreparedStatement.new handle

/-- Run a prepared statement with parameters that have been put into columns; the
query is counted or not. -/
def runPrepared {α : Type} (counted : Bool) (stmt : PreparedStatement)
    (data : Except QueryError (Option (List (List Json.Value))))
    (finish : QueryResult → Exec QueryError α) : Act α := do
  Attempt.of (if stmt.closed then fail .statementClosed else .ok ())
  ready
  updateSession fun s => if counted then s.incrementQueryCount else s
  let paramsData ← Attempt.of (ofExcept data)
  let result ← request (.executePreparedStatement stmt.handle paramsData) executionFailed
  Attempt.of (finish result)

/-- The number of rows of a result, which must not have any of its own. -/
def countOf : QueryResult → Exec QueryError (SInt 64)
  | .rowCount count => .ok count
  | .resultSet .. => fail .unexpectedResultSet

/-- Run a prepared statement with its parameters. -/
def executePrepared (stmt : PreparedStatement) : Act ResultSetInner :=
  runPrepared true stmt stmt.buildParametersData (ResultSet.fromTransportResult pf)

/-- Run a prepared statement that counts rows. -/
def executePreparedUpdate (stmt : PreparedStatement) : Act (SInt 64) :=
  runPrepared false stmt stmt.buildParametersData countOf

/-- Run a prepared statement with rows of parameters, and count. -/
def executeBatchUpdate (stmt : PreparedStatement) (rows : List (List Parameter)) :
    Act (SInt 64) :=
  runPrepared false stmt (stmt.buildBatchParametersData rows) countOf

/-- Run a prepared statement with rows of parameters. -/
def executeBatch (stmt : PreparedStatement) (rows : List (List Parameter)) :
    Act ResultSetInner :=
  runPrepared true stmt (stmt.buildBatchParametersData rows) (ResultSet.fromTransportResult pf)

/-- Close a prepared statement. -/
def closePrepared (stmt : PreparedStatement) : Act Unit :=
  if stmt.closed then pure ()
  else request (.closePreparedStatement stmt.handle) executionFailed

/-! ### Transactions -/

/-- Apply a transition of the session. -/
def transition (f : Session → Except ConnectionError Session) : Act Unit := do
  let conn ← Attempt.read
  let session ← Attempt.of (mapError (fun e => .transactionError (.connection e))
    (ofExcept (f conn.session)))
  Attempt.write { conn with session := session }

/-- Begin a transaction: autocommit is turned off on the server. -/
def beginTransaction : Act Unit := do
  let conn ← Attempt.read
  Attempt.of (mapError (fun e => .transactionError (.connection e))
    (ofExcept conn.session.ensureCanBeginTransaction))
  request (.setAutocommit false) transactionFailed
  transition Session.beginTransaction

/-- End the active transaction, if there is one, by a command. -/
def endTransaction (command : String) (f : Session → Except ConnectionError Session) :
    Act Unit := do
  let conn ← Attempt.read
  if conn.session.inTransaction then
    let _ ← executeUpdate pf command
    transition f
  else pure ()

/-- Commit the active transaction; without one there is nothing to do. -/
def commit : Act Unit := endTransaction pf "COMMIT" Session.commitTransaction

/-- Undo the active transaction; without one there is nothing to do. -/
def rollback : Act Unit := endTransaction pf "ROLLBACK" Session.rollbackTransaction

/-! ### The schema, and the end -/

/-- Set the current schema. -/
def setSchema (schema : String) : Act Unit := do
  ready
  request (.setCurrentSchema schema) executionFailed

/-- Ask the server for the current schema. -/
def refreshCurrentSchema : Act (Option String) := do
  ready
  request .refreshCurrentSchema executionFailed

/-- Close the session and the transport. -/
def shutdown : Act Unit := do
  updateSession Session.close
  request .close executionFailed

end Connection

/-! ### The calls of a connection -/

/-- The calls that run commands or end and begin transactions. -/
inductive Connection.Call where
  | beginTransaction
  | commit
  | rollback
  | execute (stmt : Statement)
  | executePrepared (stmt : PreparedStatement)
  | executePreparedUpdate (stmt : PreparedStatement)
  | executeBatch (stmt : PreparedStatement) (rows : List (List Parameter))
  | executeBatchUpdate (stmt : PreparedStatement) (rows : List (List Parameter))
  | importSql (sql : String)

/-- The method a call is of, its result left out. -/
def Connection.Call.act (pf : Platform) : Call → Act Unit
  | beginTransaction => Connection.beginTransaction
  | commit => Connection.commit pf
  | rollback => Connection.rollback pf
  | execute stmt => do let _ ← executeStatement pf stmt
  | executePrepared stmt => do let _ ← Connection.executePrepared pf stmt
  | executePreparedUpdate stmt => do let _ ← Connection.executePreparedUpdate stmt
  | executeBatch stmt rows => do let _ ← Connection.executeBatch pf stmt rows
  | executeBatchUpdate stmt rows => do let _ ← Connection.executeBatchUpdate stmt rows
  | importSql sql => do let _ ← sqlExecutor sql

/-! ### Making a connection -/

/-- Why no connection could be made: an error, or the rejection of the schema of the
parameters, which is reported as a failed connection with the text of the query error. -/
inductive DialError where
  | connection (e : ConnectionError)
  | schemaRejected (host : String) (port : UInt16) (schema : String) (cause : QueryError)

section Connect

variable {σ : Type}

/-- A step of making a connection. -/
abbrev Dial (σ α : Type) := Attempt σ Request Answer (Fault DialError) α

/-- The parameters as the transport wants them. -/
def ConnectionParams.toTransport (params : ConnectionParams) : TransportParams where
  host := params.host
  port := params.port
  useTls := params.useTls
  validateServerCertificate := params.validateServerCertificate
  certificateFingerprint := params.certificateFingerprint
  timeoutMs := UInt64.ofNat params.connectionTimeout.asMillis

/-- The user and the client of the parameters. -/
def ConnectionParams.credentials (params : ConnectionParams) : Credentials where
  username := params.username
  password := params.password
  clientName := params.clientName
  clientVersion := params.clientVersion

/-- Send a request while a connection is made. -/
def dial (r : Request) (failed : TransportError → ConnectionError) : Dial σ r.Value :=
  Attempt.ask r fun a => mapError (fun e => .connection (failed e)) (ofExcept a)

/-- Apply the query timeout of the parameters, if there is one. -/
def applyQueryTimeout (params : ConnectionParams) : Dial σ Unit :=
  match params.queryTimeout with
  | some d => dial (.setQueryTimeout (secsCeil d)) fun e =>
    .connectionFailed params.host params.port.toNat ("failed to set query timeout: " ++ e.text)
  | none => pure ()

/-- Open the schema of the parameters, if there is one; when this fails, the
connection is closed again. -/
def openSchema (conn : Connection) : Dial σ Connection :=
  match conn.params.schema with
  | none => pure conn
  | some schema => ExceptT.mk ((Prog.isolate conn (Connection.setSchema schema).run).bind fun
    | (.ok (), conn) => .done (.ok conn)
    | (.error e, conn) => (Prog.isolate conn Connection.shutdown.run).bind fun _ =>
      .done (mapError (.schemaRejected conn.params.host conn.params.port schema) (.error e)))

/-- Make a connection over a transport. -/
def connectWithTransport (params : ConnectionParams) : Dial σ Connection := do
  dial (.connect params.toTransport) fun e =>
    .connectionFailed params.host params.port.toNat e.text
  let info ← dial (.authenticate params.credentials) fun e => .authenticationFailed e.text
  applyQueryTimeout params
  openSchema (.fresh info.sessionId params)

end Connect

end Exarrow
