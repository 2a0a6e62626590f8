import Exarrow.Error
import Mathlib.Tactic.Common

/-!
# Sessions

What a client keeps of its session (`Exarrow.Session`): whether it is open, whether
a transaction is active, how many queries it has run, and the query timeout that
was last applied to the server. The transaction flag is the client's own; what the
server does with a transaction is the matter of `Exarrow.Connection`.
-/

namespace Exarrow

/-- A span of time. -/
structure Duration where
  /-- The whole seconds. -/
  secs : UInt64
  /-- The rest, in nanoseconds. -/
  nanos : Fin 1000000000
  deriving DecidableEq

/-- A number of milliseconds. -/
def Duration.fromMillis (ms : UInt64) : Duration :=
  ⟨ms / 1000, ⟨ms.toNat % 1000 * 1000000, by omega⟩⟩

/-- The whole milliseconds of a duration. -/
def Duration.asMillis (d : Duration) : ℕ := d.secs.toNat * 1000 + d.nanos.val / 1000000

/-- The configuration of a session. -/
structure SessionConfig where
  /-- The query timeout that was last applied to the session; none if it never was
  or was taken back. -/
  queryTimeout : Option Duration := none
  deriving DecidableEq

/-- The state of a session. -/
inductive SessionState where
  | ready
  | inTransaction
  | closing
  | closed
  deriving DecidableEq

/-- Whether queries can run. -/
def SessionState.canExecute : SessionState → Bool
  | ready | inTransaction => true
  | closing | closed => false

/-- A session. -/
structure Session where
  /-- The name of the session. -/
  sessionId : String
  /-- The configuration. -/
  config : SessionConfig
  /-- The state. -/
  state : SessionState := .ready
  /-- The number of queries that were begun. -/
  queryCount : UInt64 := 0
  /-- Whether a transaction is active. -/
  inTransaction : Bool := false
  deriving DecidableEq

namespace Session

/-- A session can run operations unless it is closed. -/
def validateReady (s : Session) : Except ConnectionError Unit :=
  if s.state.canExecute then .ok () else .error .connectionClosed

/-- Count a query. -/
def incrementQueryCount (s : Session) : Session := { s with queryCount := s.queryCount + 1 }

/-- A transaction can begin when the session is open and none is active. -/
def ensureCanBeginTransaction (s : Session) : Except ConnectionError Unit := do
  s.validateReady
  if s.inTransaction then .error (.invalidParameter "transaction" "Transaction already active")
  else .ok ()

/-- Begin a transaction. -/
def beginTransaction (s : Session) : Except ConnectionError Session := do
  s.ensureCanBeginTransaction
  return { s with inTransaction := true, state := .inTransaction }

/-- End the transaction by a commit. -/
def commitTransaction (s : Session) : Except ConnectionError Session :=
  if s.inTransaction then .ok { s with inTransaction := false, state := .ready } else .ok s

/-- End the transaction by a rollback. -/
def rollbackTransaction (s : Session) : Except ConnectionError Session :=
  if s.inTransaction then .ok { s with inTransaction := false, state := .ready } else .ok s

/-- Close the session; an active transaction is over. -/
def close (s : Session) : Session := { s with inTransaction := false, state := .closed }

/-- What is needed to begin a transaction. -/
theorem ensureCanBeginTransaction_eq_ok {s : Session} :
    s.ensureCanBeginTransaction = .ok () ↔ s.state.canExecute = true ∧ s.inTransaction = false := by
  unfold ensureCanBeginTransaction validateReady
  cases s.state.canExecute <;> cases s.inTransaction <;> simp [bind, Except.bind]

/-- A transaction that can begin does. -/
theorem beginTransaction_eq_ok {s : Session} (h : s.ensureCanBeginTransaction = .ok ()) :
    s.beginTransaction = .ok { s with inTransaction := true, state := .inTransaction } := by
  unfold beginTransaction
  rw [h]
  rfl

end Session

end Exarrow
