import Exarrow.Foundations.Client
import Exarrow.Prepared
import Exarrow.Results.ResultSet

/-!
# The transport protocol and the server behind it

What a connection asks of its transport is one of the requests
(`Exarrow.Request`); each is answered by a value of its own type or by a transport
error (`Exarrow.Answer`). The pages of a result are asked for as a whole
(`Exarrow.Request.paginateRemaining`): what a single page does is the matter of
result sets.

Behind the transport stands a session on the server (`Exarrow.Database`). It keeps
two attributes – autocommit and the query timeout – and a log of the commands that
ran, each with the attributes in force and with what became of it: a command that
runs with autocommit off stays *pending* until a commit makes it durable or a
rollback discards it. Each request is treated in one of four ways
(`Exarrow.Fate`); `Exarrow.Database.server` is the server for the program logic of
clients.
-/

namespace Exarrow

open Machine

/-! ### Requests -/

/-- How to reach a server. -/
structure TransportParams where
  host : String
  port : UInt16
  useTls : Bool
  validateServerCertificate : Bool
  certificateFingerprint : Option String
  timeoutMs : UInt64

/-- Who logs in, and with which client. -/
structure Credentials where
  username : String
  password : String
  clientName : String
  clientVersion : String

/-- What the server tells of a session at login. -/
structure SessionInfo where
  sessionId : String
  protocolVersion : SInt 32
  releaseVersion : String
  databaseName : String
  productName : String
  maxDataMessageSize : SInt 64
  timeZone : Option String

/-- The requests of a connection to its transport. -/
inductive Request where
  | connect (params : TransportParams)
  | authenticate (credentials : Credentials)
  | setAutocommit (enabled : Bool)
  | setQueryTimeout (timeoutSecs : UInt64)
  | setCurrentSchema (schema : String)
  | refreshCurrentSchema
  | executeQuery (sql : String)
  | paginateRemaining (s : StreamResult)
  | closeResultSet (handle : SInt 32)
  | createPreparedStatement (sql : String)
  | executePreparedStatement (handle : PreparedStatementHandle)
      (parameters : Option (List (List Json.Value)))
  | closePreparedStatement (handle : PreparedStatementHandle)
  | close

/-- The value that answers a request. -/
@[reducible] def Request.Value : Request → Type
  | authenticate _ => SessionInfo
  | refreshCurrentSchema => Option String
  | executeQuery _ | executePreparedStatement .. => QueryResult
  | paginateRemaining _ => Checked.Exec QueryError (List Arrow.RecordBatch)
  | createPreparedStatement _ => PreparedStatementHandle
  | _ => Unit

/-- The answer to a request. -/
abbrev Answer (r : Request) : Type := Except TransportError r.Value

/-! ### The session on the server -/

/-- A command by which a transaction ends. -/
inductive TransactionControl where
  | commit
  | rollback
  deriving DecidableEq

/-- Which texts the server takes for a commit or a rollback. -/
structure Dialect where
  /-- The command a text is, if it is one of the two. -/
  control : String → Option TransactionControl
  control_commit : control "COMMIT" = some .commit
  control_rollback : control "ROLLBACK" = some .rollback

/-- What became of a command. -/
inductive Status where
  /-- Its effect stays. -/
  | durable
  /-- Its effect waits for a commit. -/
  | pending
  /-- Its effect was undone. -/
  | discarded
  /-- It had none. -/
  | failed
  deriving DecidableEq

/-- A command that ran. -/
structure Execution where
  /-- The text, none for a prepared statement. -/
  sql : Option String
  /-- Whether autocommit was on. -/
  autocommit : Bool
  /-- The query timeout in force, in seconds; zero for none. -/
  queryTimeout : UInt64
  /-- What became of it. -/
  status : Status
  deriving DecidableEq

/-- A session on the server. -/
structure Database where
  /-- Whether every command is committed by itself. -/
  autocommit : Bool := true
  /-- The query timeout in seconds; zero for none. -/
  queryTimeout : UInt64 := 0
  /-- The commands that ran, in order. -/
  log : List Execution := []
  /-- The number of commands that had run at the last commit or rollback. -/
  settled : ℕ := 0
  /-- The number of requests that were sent. -/
  requests : ℕ := 0

namespace Database

/-- The commands whose effect waits for a commit. -/
def uncommitted (db : Database) : List Execution := db.log.filter fun e => e.status = .pending

/-- End the transaction: what was pending gets another status. -/
def settle (db : Database) (outcome : Status) : Database :=
  { db with
    log := db.log.map fun e => if e.status = .pending then { e with status := outcome } else e
    settled := db.log.length }

/-- Note a command that ran. -/
def note (db : Database) (sql : Option String) (status : Status) : Database :=
  { db with log := db.log ++ [⟨sql, db.autocommit, db.queryTimeout, status⟩] }

/-- Run a command. -/
def run (db : Database) (sql : Option String) : Database :=
  db.note sql (if db.autocommit then .durable else .pending)

/-- Run a text, which may end the transaction. -/
def runText (d : Dialect) (db : Database) (sql : String) : Database :=
  match d.control sql with
  | some .commit => db.settle .durable
  | some .rollback => db.settle .discarded
  | none => db.run (some sql)

/-- Carry out a request. A login starts from the default attributes. -/
def perform (d : Dialect) (db : Database) : Request → Database
  | .authenticate _ => { db with autocommit := true, queryTimeout := 0 }
  | .setAutocommit enabled => { db with autocommit := enabled }
  | .setQueryTimeout timeoutSecs => { db with queryTimeout := timeoutSecs }
  | .executeQuery sql => db.runText d sql
  | .executePreparedStatement .. => db.run none
  | _ => db

/-- Carry out a request that fails on the server: a command has run all the same. -/
def stumble (d : Dialect) (db : Database) : Request → Database
  | .executeQuery sql => if (d.control sql).isSome then db else db.note (some sql) .failed
  | .executePreparedStatement .. => db.note none .failed
  | _ => db

end Database

/-- How a request is treated. -/
inductive Fate where
  /-- It is carried out and answered. -/
  | accepted
  /-- It is refused before anything is done. -/
  | refused (e : TransportError)
  /-- It is begun and fails. -/
  | failed (e : TransportError)
  /-- It is carried out, but the answer does not come through. -/
  | lost (e : TransportError)

/-- How a request is treated, and the value with which it is answered if it is
accepted. -/
structure Choice where
  /-- The treatment. -/
  fate : Fate
  /-- The value. -/
  value : (r : Request) → r.Value

/-- The session as a server of requests. -/
def Database.server (d : Dialect) : Client.Server Database Request Answer Choice where
  step db r w :=
    let db := { db with requests := db.requests + 1 }
    match w.fate with
    | .accepted => (.ok (w.value r), db.perform d r)
    | .refused e => (.error e, db)
    | .failed e => (.error e, db.stumble d r)
    | .lost e => (.error e, db.perform d r)

namespace Database

variable {d : Dialect}

/-! ### What requests leave as it is -/

@[simp] theorem autocommit_settle (db : Database) (o : Status) :
    (db.settle o).autocommit = db.autocommit := rfl

@[simp] theorem queryTimeout_settle (db : Database) (o : Status) :
    (db.settle o).queryTimeout = db.queryTimeout := rfl

@[simp] theorem length_log_settle (db : Database) (o : Status) :
    (db.settle o).log.length = db.log.length := List.length_map _

/-- Nothing is pending after a settlement. -/
theorem uncommitted_settle {db : Database} {o : Status} (ho : o ≠ .pending) :
    (db.settle o).uncommitted = [] := by
  refine List.filter_eq_nil_iff.mpr fun e he => ?_
  obtain ⟨e', -, rfl⟩ := List.mem_map.mp he
  split
  · simpa using ho
  · rename_i h
    simpa using h

@[simp] theorem autocommit_runText (db : Database) (sql : String) :
    (db.runText d sql).autocommit = db.autocommit := by
  unfold runText
  split <;> rfl

/-- With autocommit on, running a command leaves nothing pending. -/
theorem uncommitted_run {db : Database} {sql : Option String} (h : db.autocommit = true) :
    (db.run sql).uncommitted = db.uncommitted := by
  unfold run note uncommitted
  rw [h, List.filter_append]
  exact List.append_nil _

/-- With autocommit off, a command that runs is pending. -/
theorem uncommitted_run_ne_nil {db : Database} {sql : Option String} (h : db.autocommit = false) :
    (db.run sql).uncommitted ≠ [] := by
  unfold run note uncommitted
  rw [h, List.filter_append]
  exact List.append_ne_nil_of_right_ne_nil _ (List.cons_ne_nil _ _)

/-- A command that fails leaves nothing pending. -/
theorem uncommitted_note_failed (db : Database) (sql : Option String) :
    (db.note sql .failed).uncommitted = db.uncommitted := by
  unfold note uncommitted
  rw [List.filter_append]
  exact List.append_nil _

end Database

end Exarrow
