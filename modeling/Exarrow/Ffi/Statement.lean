import Exarrow.Connection
import Exarrow.Ffi.Ingest

/-!
# Statements

A statement of the ADBC interface (`Exarrow.Ffi.FfiStatement`) holds the text that it runs, the
batch that is bound, its options, and the prepared statement of the text. It works on the connection
of another object, which it locks (`Exarrow.Ffi.FfiStatement.locked`): what it finds there is what
the other statements of the connection have left, and they may run between any two of its locks.

A bound batch is executed or ingested. Its rows are executed all at once, or one after the other if
the statement has results or no parameters (`Exarrow.Ffi.FfiStatement.executionsOf`).
-/

namespace Exarrow.Ffi

open Machine Checked Client Connection Arrow

/-- A statement of the ADBC interface. -/
structure FfiStatement where
  sql : Option String := none
  /-- The batch that is bound. -/
  boundData : Option RecordBatch := none
  options : String → Option OptionValue := fun _ => none
  /-- The prepared statement of the text. -/
  prepared : Option PreparedStatement := none

namespace FfiStatement

/-! ### Statements at work -/

/-- Why a call fails. -/
inductive StatementError where
  | adbc (e : AdbcError)
  | conversion (e : ConversionError)
  | arrow (e : ArrowError)
  | ingest (e : ImportError)

/-- What becomes of the data of an ingestion: whether a tunnel is opened for them, how they get
through it, and whether this is known before the statement ends. -/
structure Passage where
  tunnel : Except ImportError Csv.Tunnel
  streamed : Except ImportError Unit
  streamFirst : Bool

/-- A statement at work: the connection as it is found at each lock, and what becomes of the data of
an ingestion. -/
structure Work where
  stmt : FfiStatement
  found : ℕ → Connection
  passage : Passage

/-- A call of a statement. -/
abbrev StatementAct (α : Type) := Attempt Work Request Answer (Fault StatementError) α

/-- Lock the connection, and do something with it. -/
def locked {α β : Type} (act : Act α) (finish : Exec QueryError α → Exec StatementError β) :
    StatementAct β := do
  let work ← Attempt.read
  Attempt.write { work with found := fun n => work.found (n + 1) }
  ExceptT.mk ((Prog.isolate (work.found 0) act.run).bind fun r => .done (finish r.1))

/-- A failed query as an error of a call. -/
def queryFailed {α : Type} : Exec QueryError α → Exec StatementError α :=
  mapError fun e => .adbc (toAdbcError e)

/-- A failed execution of a batch as an error of a call. -/
def batchFailed {α : Type} : Exec QueryError α → Exec StatementError α :=
  mapError fun e => .adbc (batchExecutionError e)

/-- Change the statement. -/
def updateStatement (f : FfiStatement → FfiStatement) : StatementAct Unit := do
  let work ← Attempt.read
  Attempt.write { work with stmt := f work.stmt }

/-- The text, which must have been set. -/
def requireSql (stmt : FfiStatement) : Exec StatementError String :=
  orFail (.adbc ⟨.text "SQL query not set", .invalidState⟩) stmt.sql

/-! ### Preparing -/

/-- Prepare the text. -/
def prepare : StatementAct Unit := do
  let work ← Attempt.read
  let sql ← Attempt.of work.stmt.requireSql
  let prepared ← locked (Connection.prepare sql) queryFailed
  updateStatement fun stmt => { stmt with prepared := some prepared }

/-- The prepared statement, which is made if there is none. -/
def preparedWithConnection : StatementAct PreparedStatement := do
  let work ← Attempt.read
  if work.stmt.prepared.isNone then prepare else pure ()
  let work ← Attempt.read
  Attempt.of (orFail (.adbc ⟨.text "Failed to prepare statement", .invalidState⟩)
    work.stmt.prepared)

/-- Set the text. A prepared statement belongs to the text it was made for. -/
def setSqlQuery (query : String) : StatementAct Unit :=
  updateStatement fun stmt =>
    { stmt with
      sql := some query
      prepared := if stmt.sql = some query then stmt.prepared else none }

/-- Set an option. -/
def setOption (key : String) (value : OptionValue) : StatementAct Unit :=
  updateStatement fun stmt => { stmt with options := Function.update stmt.options key (some value) }

/-! ### Binding -/

/-- Bind a batch. -/
def bind (batch : RecordBatch) : StatementAct Unit :=
  updateStatement fun stmt => { stmt with boundData := some batch }

/-- The batches of a stream as one; none if there are none. -/
def combined (batches : List (Except ArrowError RecordBatch)) :
    Exec StatementError (Option RecordBatch) :=
  mapError .arrow (ofExcept do
    match ← batches.mapM id with
    | [] => return none
    | [batch] => return some batch
    | batch :: batches => return some (← concatBatches batch.schema (batch :: batches)))

/-- Bind the batches of a stream. -/
def bindStream (batches : List (Except ArrowError RecordBatch)) : StatementAct Unit := do
  let batch ← Attempt.of (combined batches)
  updateStatement fun stmt => { stmt with boundData := batch }

/-- The batch that is bound, which is bound no more. -/
def takeBound : StatementAct (Option RecordBatch) := do
  let work ← Attempt.read
  Attempt.write { work with stmt := { work.stmt with boundData := none } }
  return work.stmt.boundData

/-! ### Executing a bound batch -/

/-- The rows that each execution takes. -/
def executionsOf (prepared : PreparedStatement) (rows : List (List Parameter)) :
    List (List (List Parameter)) :=
  if runsPerRow prepared rows then rows.map fun row => [row] else [rows]

section Execute

variable (pf : Platform) (chrono : Chrono)

/-- Execute the prepared statement for a batch; `run` makes an execution, and adds its result to
what there is. -/
def runBoundBatch {β : Type} (empty : β)
    (run : PreparedStatement → β → List (List Parameter) → Act β) (batch : RecordBatch) :
    StatementAct β := do
  let prepared ← preparedWithConnection
  let rows ← Attempt.of (mapError .adbc (boundRows pf.overflow chrono batch))
  if rows.isEmpty then pure empty
  else locked ((executionsOf prepared rows).foldlM (run prepared) empty) batchFailed

/-- The batches of a result; a number of rows has none. -/
def resultBatches (resultSet : ResultSetInner) : Act (List RecordBatch) :=
  if (ResultSet.rowCount resultSet).isSome then pure [] else fetchAll resultSet

/-- Execute the prepared statement for a batch, and collect the batches of its results. -/
def executeBoundBatch (batch : RecordBatch) : StatementAct (List RecordBatch) :=
  runBoundBatch pf chrono [] (fun prepared batches execution => do
    let resultSet ← Connection.executeBatch pf prepared execution
    let new ← resultBatches resultSet
    return batches ++ new) batch

/-- Execute the prepared statement for a batch, and count. -/
def executeBoundBatchUpdate (batch : RecordBatch) : StatementAct (SInt 64) :=
  runBoundBatch pf chrono (SInt.wrap 64 SInt.pos_64 0) (fun prepared affected execution => do
    let count ← Connection.executeBatchUpdate prepared execution
    Attempt.of (Checked.add pf.overflow affected count)) batch

/-- Run a text; without a result there are no batches. -/
def querySql (sql : String) : StatementAct (List RecordBatch) :=
  locked (Connection.query pf sql) fun
    | .error (.error (.noResultSet _)) => .ok []
    | r => queryFailed r

/-- Run a text that counts rows. -/
def updateSql (sql : String) : StatementAct (SInt 64) :=
  locked (Connection.executeUpdate pf sql) queryFailed

end Execute

/-! ### Ingesting a bound batch -/

/-- The options of an ingestion. -/
def ingestOptions (stmt : FfiStatement) : IngestOptions where
  targetTable := stmt.options "adbc.ingest.target_table"
  temporary := stmt.options "adbc.ingest.temporary"
  targetDbSchema := stmt.options "adbc.ingest.target_db_schema"
  mode := stmt.options "adbc.ingest.mode"
  targetCatalog := stmt.options "adbc.ingest.target_catalog"

/-- Whether the statement is an ingestion. -/
def isBulkIngest (stmt : FfiStatement) : Bool := (stmt.options "adbc.ingest.target_table").isSome

/-- What an ingestion works on. -/
def ingestStatement (stmt : FfiStatement) : IngestStatement where
  options := stmt.ingestOptions
  boundData := stmt.boundData.map RecordBatch.schema
  connected := true

/-- The number of rows that the answer to an IMPORT reports. -/
def importCount : Except TransportError QueryResult → Except String UInt64
  | .ok (.rowCount count) => .ok (UInt64.ofInt count.val)
  | .ok (.resultSet ..) => .ok 0
  | .error e => .error e.text

/-- The result of an import, from that of its statement and of its stream. -/
def Passage.finish (passage : Passage) (statement : Except String UInt64) :
    Except ImportError UInt64 :=
  if passage.streamFirst then do
    passage.streamed
    statement.mapError .sqlError
  else do
    let count ← statement.mapError .sqlError
    passage.streamed
    return count

/-- Import a batch by a statement that is told the tunnel. -/
def importBatch (importSql : Csv.Tunnel → List Char) : StatementAct UInt64 := do
  let work ← Attempt.read
  let tunnel ← Attempt.of (mapError .ingest (ofExcept work.passage.tunnel))
  let statement ← locked
    (Attempt.ask (.executeQuery (String.ofList (importSql tunnel))) fun a => .ok (importCount a))
    queryFailed
  Attempt.of (mapError .ingest (ofExcept (work.passage.finish statement)))

section Calls

variable (pf : Platform) (lib : Import.FormatterLibrary) (showOption : ShowsOption)

/-- Run the statements ahead of an import. Without any the connection is not locked for them. -/
def runDdl (ddl : List (List Char)) : StatementAct Unit :=
  if ddl.isEmpty then pure ()
  else locked (ddl.forM fun sql => do
    let _ ← Connection.executeUpdate pf (String.ofList sql)) queryFailed

/-- Ingest the bound batch. -/
def bulkIngest : StatementAct UInt64 := do
  let work ← Attempt.read
  let begun := Ffi.executeBulkIngest lib showOption work.stmt.ingestStatement
  updateStatement fun stmt =>
    { stmt with boundData := if begun.2.boundData.isNone then none else stmt.boundData }
  let plan ← Attempt.of (mapError .adbc (ofExcept begun.1))
  runDdl pf plan.ddl
  importBatch plan.importSql

/-- Run the statement: an ingestion, a text with a bound batch, or a text alone. -/
def dispatch {β : Type} (ingested : UInt64 → β) (withBatch : RecordBatch → StatementAct β)
    (alone : String → StatementAct β) : StatementAct β := do
  let work ← Attempt.read
  if work.stmt.isBulkIngest then
    return ingested (← bulkIngest pf lib showOption)
  else
    let sql ← Attempt.of work.stmt.requireSql
    match ← takeBound with
    | some batch => withBatch batch
    | none => alone sql

/-- Execute the statement. -/
def execute : StatementAct (List RecordBatch) :=
  dispatch pf lib showOption (fun _ => []) (executeBoundBatch pf lib.chrono) (querySql pf)

/-- Execute the statement, and count. -/
def executeUpdate : StatementAct (Option (SInt 64)) :=
  dispatch pf lib showOption (fun count => some (SInt.wrap 64 SInt.pos_64 count.toNat))
    (fun batch => some <$> executeBoundBatchUpdate pf lib.chrono batch)
    (fun sql => some <$> updateSql pf sql)

/-- The schema of the result. -/
def executeSchema : StatementAct Schema := do
  let prepared ← preparedWithConnection
  Attempt.of (mapError .conversion (ofExcept
    (buildSchema prepared.handle.resultColumns)))

end Calls

end FfiStatement

end Exarrow.Ffi
