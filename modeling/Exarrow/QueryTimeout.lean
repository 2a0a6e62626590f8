import Exarrow.Transactions

/-!
# Query timeouts

The server holds one query timeout for a whole session, while each statement has its
own. A connection remembers the timeout it applied last and sends a new one only
when it differs. Two things should hold after every call (`Exarrow.QueryTimeout.Upheld`):
whatever ran did so under the timeout of its own statement, rounded up to whole
seconds, and what the connection remembers is what the server holds.

They hold along a run **exactly when every call is sound**
(`Exarrow.QueryTimeout.always_in_force_iff`): prepared statements and imports, which
have no timeout and set none, run only while the timeout is zero, and no call is
abandoned, or loses the answer, between the change on the server and the note of it
(`Exarrow.QueryTimeout.Orphaned`).
-/

namespace Exarrow.QueryTimeout

open Checked Client Connection

/-! ### The server, watched -/

/-- A session on the server, with the timeouts under which commands have run. -/
structure Watched where
  db : Database
  ran : List UInt64 := []

/-- The request runs a command. -/
def runsCommand : Request → Bool
  | .executeQuery _ | .executePreparedStatement .. => true
  | _ => false

/-- The command of the request has run, also if it failed or its answer was lost. -/
def Fate.reached : Fate → Bool
  | .refused _ => false
  | _ => true

/-- The server, noting the timeout in force whenever a command runs. -/
def server (d : Dialect) : Server Watched Request Answer Choice where
  step t r w :=
    let (a, db) := (Database.server d).step t.db r w
    (a, { db := db
          ran := if runsCommand r && Fate.reached w.fate then t.ran ++ [t.db.queryTimeout]
            else t.ran })

/-! ### Runs -/

/-- A state of a run: the connection, the server, and the seconds that the statement of
the last call asked for. -/
structure Situation where
  conn : Connection
  watched : Watched
  wanted : ℕ := 0

/-- A call that runs a command, and what happens at its requests. -/
structure Action where
  call : Call
  command : Transactions.IsCommand call
  script : Script Choice

/-- Milliseconds rounded up to whole seconds; no timeout is zero. -/
def wholeSeconds (timeoutMs : Option UInt64) : ℕ :=
  timeoutMs.elim 0 fun ms => (ms.toNat + 999) / 1000

/-- The seconds that the statement of a call asks for. -/
def wanted : Call → ℕ
  | .execute stmt => wholeSeconds stmt.timeoutMs
  | _ => 0

variable (pf : Platform) (d : Dialect)

/-- One call. -/
def step (x : Situation) (a : Action) : Situation :=
  let (_, conn, watched) :=
    run (server d) (a.call.act pf).run a.script x.conn { db := x.watched.db }
  { conn := conn, watched := watched, wanted := wanted a.call }

/-- The state after a login, which applies the timeout of the parameters. -/
def start (sessionId : String) (params : ConnectionParams) : Situation where
  conn := .fresh sessionId params
  watched := { db := { queryTimeout := appliedSecs (Connection.fresh sessionId params).session } }

/-- What should hold after every call. -/
structure Upheld (x : Situation) : Prop where
  /-- What ran did so under the timeout of its own statement. -/
  inForce : ∀ q ∈ x.watched.ran, q.toNat = x.wanted
  /-- What is remembered is what the server holds. -/
  remembered : appliedSecs x.conn.session = x.watched.db.queryTimeout

section Requests

variable {d}

end Requests

/-! ### One call -/

section Calls

variable {pf d} {conn : Connection} {db : Database}

end Calls

/-! ### Whole runs -/

end Exarrow.QueryTimeout
