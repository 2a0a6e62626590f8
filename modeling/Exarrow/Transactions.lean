import Exarrow.ConnectionRules
import Exarrow.Foundations.Runs

/-!
# Transactions

A connection runs commands, begins transactions and ends them, and the server
accepts everything. What should hold in every state (`Exarrow.Transactions.Upheld`):
a commit that has just returned leaves no command pending; a rollback that has just
returned has discarded every command that ran with autocommit off since the last
commit or rollback; and when no transaction is active, no command is pending.

This holds along a run **exactly when no command is run with autocommit off and no
active transaction** (`Exarrow.Transactions.always_upheld_iff`). The condition is
needed because only the beginning of a transaction tells the server about
autocommit: its end does not turn autocommit on again.
-/

namespace Exarrow.Transactions

open Checked Client Connection

/-! ### Runs -/

/-- What a call has just done. -/
inductive Event where
  /-- A commit has returned. -/
  | committed
  /-- A rollback has returned; before it, the last commit or rollback was at the given
  number of commands. -/
  | rolledBack (since : ℕ)

/-- A state of a run: the two sessions, the number of commands that had run at the last
commit or rollback, and what the last call has done. -/
structure Situation where
  conn : Connection
  db : Database
  since : ℕ := 0
  event : Option Event := none

/-- A call, and the values with which its requests are answered. -/
structure Action where
  call : Call
  value : ℕ → (r : Request) → r.Value

/-- Every request is accepted. -/
def accepting (value : ℕ → (r : Request) → r.Value) (n : ℕ) : Choice := ⟨.accepted, value n⟩

/-- The event of a call that has returned. -/
def eventOf (since : ℕ) : Call → Exec QueryError Unit → Option Event
  | .commit, .ok _ => some .committed
  | .rollback, .ok _ => some (.rolledBack since)
  | _, _ => none

variable (pf : Platform) (d : Dialect)

/-- One call. -/
def step (x : Situation) (a : Action) : Situation :=
  let (r, conn, db) :=
    exec (Database.server d) (a.call.act pf).run (accepting a.value) x.conn x.db
  let event := eventOf x.since a.call r
  { conn := conn
    db := db
    since := if event.isSome then db.log.length else max x.since db.settled
    event := event }

/-- The state after a login. -/
def start (sessionId : String) (params : ConnectionParams) : Situation where
  conn := .fresh sessionId params
  db := { queryTimeout := appliedSecs (Connection.fresh sessionId params).session }

/-- What should hold in every state. -/
structure Upheld (x : Situation) : Prop where
  /-- After a commit nothing is pending. -/
  committed : x.event = some .committed → x.db.uncommitted = []
  /-- After a rollback what ran with autocommit off is discarded. -/
  rolledBack : ∀ since, x.event = some (.rolledBack since) →
    ∀ e ∈ x.db.log.drop since, e.autocommit = false → e.status = .discarded
  /-- Without a transaction nothing is pending. -/
  idle : x.conn.session.inTransaction = false → x.db.uncommitted = []

/-- The call runs a command that is neither a commit nor a rollback. -/
def RunsCommand : Call → Prop
  | .beginTransaction | .commit | .rollback => False
  | .execute stmt => ∃ sql, stmt.buildSql = .ok sql ∧ d.control sql = none
  | .executePrepared stmt | .executePreparedUpdate stmt =>
    stmt.closed = false ∧ ∃ params, stmt.buildParametersData = .ok params
  | .executeBatch stmt rows | .executeBatchUpdate stmt rows =>
    stmt.closed = false ∧ ∃ params, stmt.buildBatchParametersData rows = .ok params
  | .importSql sql => d.control sql = none

/-- A command is run with autocommit on or in an active transaction. -/
def Guarded (x : Situation) (a : Action) : Prop :=
  RunsCommand d a.call → x.db.autocommit = true ∨ x.conn.session.inTransaction = true

/-! ### What is kept -/

variable {d}

/-- The commands that ran with autocommit off since the last end of a transaction are
pending. -/
def Staged (n : ℕ) (db : Database) : Prop :=
  ∀ e ∈ db.log.drop (max n db.settled), e.autocommit = false → e.status = .pending

theorem staged_run {n : ℕ} {db : Database} (h : Staged n db) (sql : Option String) :
    Staged n (db.run sql) := by
  intro e he hoff
  unfold Database.run Database.note at he
  rw [List.drop_append] at he
  rcases List.mem_append.mp he with he | he
  · exact h e he hoff
  · obtain rfl := List.mem_singleton.mp (List.mem_of_mem_drop he)
    dsimp only at hoff ⊢
    rw [hoff]
    rfl

theorem staged_settle (n : ℕ) (db : Database) (o : Status) : Staged n (db.settle o) := by
  intro e he
  have hnil : (db.settle o).log.drop (max n (db.settle o).settled) = [] := by
    refine List.drop_eq_nil_iff.mpr ?_
    rw [Database.length_log_settle]
    exact le_max_right _ _
  rw [hnil] at he
  cases he

/-- What calls keep: the session is open, what is staged is pending, and nothing is when
no transaction is active. -/
structure Kept (n : ℕ) (active autocommit : Bool) (conn : Connection) (db : Database) : Prop where
  isOpen : conn.session.state.canExecute = true
  inTransaction : conn.session.inTransaction = active
  autocommit : db.autocommit = autocommit
  staged : Staged n db
  settled_le : db.settled ≤ db.log.length
  idle : active = false → db.uncommitted = []

theorem stable_kept (n : ℕ) (active autocommit : Bool) : Stable (Kept n active autocommit) where
  counted := fun _ _ h =>
    ⟨h.isOpen, h.inTransaction, h.autocommit, h.staged, h.settled_le, h.idle⟩
  recorded := fun _ _ _ h =>
    ⟨h.isOpen, h.inTransaction, h.autocommit, h.staged, h.settled_le, h.idle⟩
  asked := by
    rintro conn db _ ⟨q, m, rfl⟩ h
    exact ⟨h.isOpen, h.inTransaction, h.autocommit, h.staged, h.settled_le, h.idle⟩

section Kept

variable {n : ℕ} {active autocommit : Bool} {conn : Connection} {db : Database}

theorem Kept.run (h : Kept n active autocommit conn db)
    (hg : autocommit = true ∨ active = true) (sql : Option String) :
    Kept n active autocommit conn (db.run sql) where
  isOpen := h.isOpen
  inTransaction := h.inTransaction
  autocommit := h.autocommit
  staged := staged_run h.staged sql
  settled_le := by
    have hle := h.settled_le
    unfold Database.run Database.note
    rw [List.length_append]
    exact le_add_right hle
  idle := by
    intro hidle
    have hon : db.autocommit = true := by
      rw [h.autocommit]
      refine hg.resolve_right fun hactive => ?_
      rw [hidle] at hactive
      cases hactive
    rw [Database.uncommitted_run hon]
    exact h.idle hidle

theorem Kept.settle (h : Kept n active autocommit conn db) {o : Status} (ho : o ≠ .pending) :
    Kept n active autocommit conn (db.settle o) where
  isOpen := h.isOpen
  inTransaction := h.inTransaction
  autocommit := h.autocommit
  staged := staged_settle n db o
  settled_le := (Database.length_log_settle db o).ge
  idle := fun _ => Database.uncommitted_settle ho

theorem Kept.runText (h : Kept n active autocommit conn db) {sql : String}
    (hg : d.control sql = none → autocommit = true ∨ active = true) :
    Kept n active autocommit conn (db.runText d sql) := by
  unfold Database.runText
  cases hc : d.control sql with
  | none => exact h.run (hg hc) (some sql)
  | some c =>
    cases c with
    | commit => exact h.settle (by decide)
    | rollback => exact h.settle (by decide)

end Kept

/-! ### One call -/

/-- The choices that accept. -/
def Accepted : Set Choice := { w | w.fate = .accepted }

variable {pf} {n : ℕ} {active autocommit : Bool}

theorem kept_executeQuery {sql : String}
    (hg : d.control sql = none → autocommit = true ∨ active = true) (conn : Connection)
    (db : Database) (w : Choice) (hw : w ∈ Accepted) (h : Kept n active autocommit conn db) :
    Kept n active autocommit conn ((Database.server d).step db (.executeQuery sql) w).2 := by
  rw [Database.step_of_accepted hw]
  exact ((stable_kept n active autocommit).asked conn db _ ⟨_, _, rfl⟩ h).runText hg

theorem kept_executePrepared (hg : autocommit = true ∨ active = true)
    (handle : PreparedStatementHandle) (params : Option (List (List Json.Value)))
    (conn : Connection) (db : Database) (w : Choice) (hw : w ∈ Accepted)
    (h : Kept n active autocommit conn db) : Kept n active autocommit conn
      ((Database.server d).step db (.executePreparedStatement handle params) w).2 := by
  rw [Database.step_of_accepted hw]
  exact ((stable_kept n active autocommit).asked conn db _ ⟨_, _, rfl⟩ h).run hg none

/-- The call is none of the three that begin or end a transaction. -/
def IsCommand : Call → Prop
  | .beginTransaction | .commit | .rollback => False
  | _ => True

/-- **A guarded command keeps everything.** -/
theorem keeps_command {c : Call} (hc : IsCommand c)
    (hg : RunsCommand d c → autocommit = true ∨ active = true) :
    Keeps (Database.server d) Accepted (Kept n active autocommit) (c.act pf).run := by
  have hK := stable_kept n active autocommit
  cases c with
  | beginTransaction => exact hc.elim
  | commit => exact hc.elim
  | rollback => exact hc.elim
  | execute stmt =>
    refine keeps_bind (keeps_executeStatement hK fun sql hsql => ?_) fun _ => keeps_done _
    exact kept_executeQuery fun hnone => hg ⟨sql, hsql, hnone⟩
  | importSql sql =>
    exact keeps_bind (keeps_sqlExecutor (kept_executeQuery hg)) fun _ => keeps_done _
  | executePrepared stmt =>
    refine keeps_bind (keeps_runPrepared hK fun hclosed params h => ?_) fun _ => keeps_done _
    exact kept_executePrepared (hg ⟨hclosed, params, h⟩) _ _
  | executePreparedUpdate stmt =>
    refine keeps_bind (keeps_runPrepared hK fun hclosed params h => ?_) fun _ => keeps_done _
    exact kept_executePrepared (hg ⟨hclosed, params, h⟩) _ _
  | executeBatch stmt rows =>
    refine keeps_bind (keeps_runPrepared hK fun hclosed params h => ?_) fun _ => keeps_done _
    exact kept_executePrepared (hg ⟨hclosed, params, h⟩) _ _
  | executeBatchUpdate stmt rows =>
    refine keeps_bind (keeps_runPrepared hK fun hclosed params h => ?_) fun _ => keeps_done _
    exact kept_executePrepared (hg ⟨hclosed, params, h⟩) _ _

variable {conn : Connection} {db : Database}

/-- Beginning a transaction turns autocommit off, unless it is refused. -/
theorem wp_beginTransaction (h : Kept n active autocommit conn db) :
    wp (Database.server d) Accepted beginTransaction.run
      (fun _ conn' db' => ∃ active' autocommit', Kept n active' autocommit' conn' db')
      (fun _ _ => True) conn db := by
  unfold beginTransaction
  rw [Attempt.run_read_bind, wp_get]
  refine wp_of_bind (fun _ hcan => ?_) (fun _ _ => ⟨active, autocommit, h⟩)
  have hcan' := ofExcept_eq_ok.mp (mapError_eq_ok.mp hcan)
  refine wp_ask_bind trivial fun w hw => ⟨trivial, ?_⟩
  rw [Database.step_of_accepted hw]
  refine wp_of_bind (fun _ _ => ?_) (fun e he => nomatch he)
  unfold transition
  rw [Attempt.run_read_bind, wp_get, Session.beginTransaction_eq_ok hcan']
  exact ⟨true, false, rfl, rfl, rfl, h.staged, h.settled_le, fun h => (nomatch h)⟩

/-- Ending a transaction leaves none active and nothing pending, and a command that was
pending has the status of the end, unless an error is returned. -/
theorem wp_end {command : String} {c : TransactionControl} {o : Status}
    {f : Session → Except ConnectionError Session}
    (hplain : scanPlaceholders command.toList = [])
    (hc : d.control command = some c) (ho : o ≠ .pending)
    (hsettle : ∀ db : Database, db.runText d command = db.settle o)
    (hf : ∀ s : Session, s.inTransaction = true →
      f s = .ok { s with inTransaction := false, state := .ready })
    (h : Kept n active autocommit conn db) :
    wp (Database.server d) Accepted (endTransaction pf command f).run
      (fun r conn' db' => (∃ active', Kept n active' autocommit conn' db') ∧
        (r = .ok () → conn'.session.inTransaction = false ∧
          ∀ e ∈ db'.log.drop (max n db.settled), e.autocommit = false → e.status = o))
      (fun _ _ => True) conn db := by
  cases active with
  | false =>
    unfold endTransaction
    rw [Attempt.run_read_bind, wp_get, h.inTransaction]
    refine ⟨⟨false, h⟩, fun _ => ⟨h.inTransaction, fun e he hoff => ?_⟩⟩
    -- What ran with autocommit off would be pending.
    have hmem : e ∈ db.uncommitted :=
      List.mem_filter.mpr ⟨List.mem_of_mem_drop he, by simpa using h.staged e he hoff⟩
    rw [h.idle rfl] at hmem
    cases hmem
  | true =>
    have hrun : ∀ conn db, ∀ w ∈ Accepted, Kept n true autocommit conn db →
        Kept n true autocommit conn
          ((Database.server d).step db (.executeQuery command) w).2 := by
      refine kept_executeQuery fun hnone => ?_
      rw [hc] at hnone
      cases hnone
    refine wp_mono (fun r conn' db' hend => ?_) (fun _ _ _ => trivial)
      (wp_endTransaction (stable_kept n true autocommit) hplain hrun hf h.inTransaction h)
    obtain ⟨conn₁, hsame, hkept, hend⟩ := hend
    rcases hend with ⟨⟨e, rfl⟩, rfl⟩ | ⟨rfl, ⟨db₁, hasked, rfl⟩, rfl⟩
    · exact ⟨⟨true, hkept⟩, fun he => (nomatch he)⟩
    · rw [hsettle]
      obtain ⟨q, m, rfl⟩ := hasked
      refine ⟨⟨false, ?_⟩, fun _ => ⟨rfl, fun e he hoff => ?_⟩⟩
      · exact ⟨rfl, rfl, h.autocommit, staged_settle _ _ _, (Database.length_log_settle _ o).ge,
          fun _ => Database.uncommitted_settle ho⟩
      · unfold Database.settle at he
        dsimp only at he
        rw [← List.map_drop] at he
        obtain ⟨e', he', rfl⟩ := List.mem_map.mp he
        have hpend : e'.status = .pending := by
          refine h.staged e' he' ?_
          split at hoff <;> exact hoff
        rw [if_pos hpend]

/-- **An unguarded command is pending** while no transaction is active. -/
theorem wp_unguarded {c : Call} (hc : RunsCommand d c) (h : Kept n false false conn db) :
    wp (Database.server d) Accepted (c.act pf).run
      (fun _ conn' db' => conn'.session.inTransaction = false ∧ db'.uncommitted ≠ [])
      (fun _ _ => True) conn db := by
  have hprepared {α : Type} {counted : Bool} {stmt : PreparedStatement}
      {data : Except QueryError (Option (List (List Json.Value)))}
      {finish : QueryResult → Exec QueryError α}
      (hruns : stmt.closed = false ∧ ∃ params, data = .ok params) :
      wp (Database.server d) Accepted (do
        let _ ← runPrepared counted stmt data finish : Act Unit).run
        (fun _ conn' db' => conn'.session.inTransaction = false ∧ db'.uncommitted ≠ [])
        (fun _ _ => True) conn db := by
    obtain ⟨hclosed, params, rfl⟩ := hruns
    rw [wp_attempt_bind]
    refine wp_mono (fun r conn' db' hran => ?_) (fun _ _ _ => trivial)
      (wp_runPrepared (fun w hw => hw) h.isOpen hclosed)
    obtain ⟨hsame, db₁, ⟨q, m, rfl⟩, rfl⟩ := hran
    cases r <;>
      exact ⟨hsame.inTransaction.trans h.inTransaction,
        Database.uncommitted_run_ne_nil h.autocommit⟩
  cases c with
  | beginTransaction => exact hc.elim
  | commit => exact hc.elim
  | rollback => exact hc.elim
  | execute stmt =>
    obtain ⟨sql, hsql, hnone⟩ := hc
    refine wp_attempt_bind.mpr (wp_mono (fun r conn' db' hran => ?_) (fun _ _ _ => trivial)
      wp_executeStatement)
    obtain ⟨hsame, hran⟩ := hran
    obtain ⟨text, db₁, htext, ⟨q, m, rfl⟩, rfl⟩ := hran (.inr ⟨fun w hw => hw, h.isOpen, sql, hsql⟩)
    rw [hsql] at htext
    obtain rfl := Except.ok.inj htext
    have hpending : (({ db with queryTimeout := q, requests := m } : Database).runText d
        sql).uncommitted ≠ [] := by
      unfold Database.runText
      rw [hnone]
      exact Database.uncommitted_run_ne_nil h.autocommit
    cases r <;> exact ⟨hsame.inTransaction.trans h.inTransaction, hpending⟩
  | importSql sql =>
    have hspec : wp (Database.server d) Accepted (sqlExecutor sql).run
        (fun _ conn' db' => conn' = conn ∧ db'.uncommitted ≠ []) (fun _ _ => True) conn db := by
      refine ⟨trivial, fun w hw => ⟨trivial, rfl, ?_⟩⟩
      rw [Database.step_of_accepted hw]
      unfold Database.perform Database.runText
      dsimp only
      rw [show d.control sql = none from hc]
      exact Database.uncommitted_run_ne_nil h.autocommit
    refine wp_attempt_bind.mpr (wp_mono (fun r conn' db' hran => ?_) (fun _ _ _ => trivial) hspec)
    obtain ⟨rfl, hpending⟩ := hran
    cases r <;> exact ⟨h.inTransaction, hpending⟩
  | executePrepared stmt => exact hprepared hc
  | executePreparedUpdate stmt => exact hprepared hc
  | executeBatch stmt rows => exact hprepared hc
  | executeBatchUpdate stmt rows => exact hprepared hc

/-! ### Whole runs -/

/-- The invariant of a run. -/
structure Invariant (x : Situation) : Prop where
  upheld : Upheld x
  kept : ∃ active autocommit, Kept x.since active autocommit x.conn x.db
  settled : x.db.settled ≤ x.since

/-- A situation without an event. -/
theorem invariant_of_kept {n : ℕ} (h : Kept n active autocommit conn db) :
    Invariant { conn := conn, db := db, since := max n db.settled } where
  upheld := ⟨fun he => (nomatch he), fun _ he => (nomatch he), fun hidle =>
    h.idle (h.inTransaction.symm.trans hidle)⟩
  kept := by
    refine ⟨active, autocommit, h.isOpen, h.inTransaction, h.autocommit, fun e he => ?_,
      h.settled_le, h.idle⟩
    dsimp only at he
    rw [max_assoc, max_self] at he
    exact h.staged e he
  settled := le_max_right _ _

/-- A situation after the end of a transaction. -/
theorem invariant_of_ended {n : ℕ} {event : Event} (h : Kept n active autocommit conn db)
    (hin : conn.session.inTransaction = false)
    (hev : event = .committed ∨ ∃ since, event = .rolledBack since ∧
      ∀ e ∈ db.log.drop since, e.autocommit = false → e.status = .discarded) :
    Invariant { conn := conn, db := db, since := db.log.length, event := some event } := by
  have hidle : db.uncommitted = [] := h.idle (h.inTransaction.symm.trans hin)
  refine ⟨⟨fun _ => hidle, fun since' he => ?_, fun _ => hidle⟩, ?_, h.settled_le⟩
  · rcases hev with rfl | ⟨since, rfl, hback⟩
    · cases he
    · cases he
      exact hback
  · refine ⟨active, autocommit, h.isOpen, h.inTransaction, h.autocommit, fun e he => ?_,
      h.settled_le, h.idle⟩
    rw [List.drop_eq_nil_iff.mpr (le_max_left _ _)] at he
    cases he

theorem invariant_start (sessionId : String) (params : ConnectionParams) :
    Invariant (start sessionId params) :=
  @invariant_of_kept false true (.fresh sessionId params)
    { queryTimeout := appliedSecs (Connection.fresh sessionId params).session } 0
    ⟨rfl, rfl, rfl, fun _ he => (nomatch he), le_refl _, fun _ => rfl⟩

/-! ### The two commands -/

theorem plain_commit : scanPlaceholders "COMMIT".toList = [] := by decide

theorem plain_rollback : scanPlaceholders "ROLLBACK".toList = [] := by decide

theorem runText_commit (db : Database) : db.runText d "COMMIT" = db.settle .durable := by
  unfold Database.runText
  rw [d.control_commit]

theorem runText_rollback (db : Database) : db.runText d "ROLLBACK" = db.settle .discarded := by
  unfold Database.runText
  rw [d.control_rollback]

theorem commitTransaction_of_active (s : Session) (h : s.inTransaction = true) :
    s.commitTransaction = .ok { s with inTransaction := false, state := .ready } := if_pos h

theorem rollbackTransaction_of_active (s : Session) (h : s.inTransaction = true) :
    s.rollbackTransaction = .ok { s with inTransaction := false, state := .ready } := if_pos h

/-- What a call leads to is what holds after every accepted behaviour of its method. -/
theorem step_of_wp {x : Situation} {a : Action} {P : Situation → Prop}
    (h : wp (Database.server d) Accepted (a.call.act pf).run
      (fun r conn db => P
        { conn := conn, db := db, event := eventOf x.since a.call r
          since := if (eventOf x.since a.call r).isSome then db.log.length
            else max x.since db.settled }) (fun _ _ => True) x.conn x.db) :
    P (step pf d x a) := by
  have haccepted (n : ℕ) : accepting a.value n ∈ Accepted := rfl
  exact exec_of_wp haccepted h

/-- **A guarded call keeps the invariant.** -/
theorem invariant_step {x : Situation} {a : Action} (hx : Invariant x) (ha : Guarded d x a) :
    Invariant (step pf d x a) := by
  obtain ⟨active, autocommit, hkept⟩ := hx.kept
  have hmax : max x.since x.db.settled = x.since := max_eq_left hx.settled
  have hguard (hruns : RunsCommand d a.call) : autocommit = true ∨ active = true := by
    rw [← hkept.autocommit, ← hkept.inTransaction]
    exact ha hruns
  refine step_of_wp ?_
  obtain ⟨call, value⟩ := a
  by_cases hc : IsCommand call
  · refine wp_mono (fun r conn db hk => ?_) (fun _ _ _ => trivial)
      (keeps_command hc hguard x.conn x.db hkept)
    have hnone : eventOf x.since call r = none := by
      cases call <;> first | exact hc.elim | rfl
    rw [hnone]
    exact invariant_of_kept hk
  · cases call with
    | beginTransaction =>
      refine wp_mono (fun r conn db hk => ?_) (fun _ _ _ => trivial) (wp_beginTransaction hkept)
      obtain ⟨active', autocommit', hk⟩ := hk
      exact invariant_of_kept hk
    | commit =>
      refine wp_mono (fun r conn db hk => ?_) (fun _ _ _ => trivial)
        (wp_end plain_commit d.control_commit (by decide) runText_commit commitTransaction_of_active
          hkept)
      obtain ⟨⟨active', hk⟩, hok⟩ := hk
      cases r with
      | error e => exact invariant_of_kept hk
      | ok _ => exact invariant_of_ended hk (hok rfl).1 (.inl rfl)
    | rollback =>
      refine wp_mono (fun r conn db hk => ?_) (fun _ _ _ => trivial)
        (wp_end plain_rollback d.control_rollback (by decide) runText_rollback
          rollbackTransaction_of_active hkept)
      obtain ⟨⟨active', hk⟩, hok⟩ := hk
      cases r with
      | error e => exact invariant_of_kept hk
      | ok _ =>
        obtain ⟨hin, hback⟩ := hok rfl
        rw [hmax] at hback
        exact invariant_of_ended hk hin (.inr ⟨_, rfl, hback⟩)
    | execute stmt => exact absurd trivial hc
    | importSql sql => exact absurd trivial hc
    | executePrepared stmt => exact absurd trivial hc
    | executePreparedUpdate stmt => exact absurd trivial hc
    | executeBatch stmt rows => exact absurd trivial hc
    | executeBatchUpdate stmt rows => exact absurd trivial hc

/-- **A call that is not guarded breaks the contract at once.** -/
theorem guarded_of_upheld {x : Situation} {a : Action} (hx : Invariant x)
    (h : Upheld (step pf d x a)) : Guarded d x a := by
  intro hruns
  by_contra hno
  rw [not_or, Bool.not_eq_true, Bool.not_eq_true] at hno
  obtain ⟨active, autocommit, hkept⟩ := hx.kept
  have hoff : autocommit = false := hkept.autocommit.symm.trans hno.1
  have hidle : active = false := hkept.inTransaction.symm.trans hno.2
  subst hoff hidle
  have hbroken : ¬Upheld (step pf d x a) := by
    refine step_of_wp (P := fun y => ¬Upheld y) (wp_mono (fun r conn db hp => ?_) (fun _ _ _ => trivial)
      (wp_unguarded hruns hkept))
    exact fun hu => hp.2 (hu.idle hp.1)
  exact hbroken h

/-- **The contract of transactions holds along a run exactly when no command is run with
autocommit off and no active transaction.** -/
theorem always_upheld_iff (sessionId : String) (params : ConnectionParams)
    (run : List Action) :
    Runs.Always (step pf d) Upheld (start sessionId params) run ↔
      Runs.EachStep (step pf d) (Guarded d) (start sessionId params) run :=
  Runs.always_iff_eachStep (fun _ hx => hx.upheld) (fun _ _ => invariant_step)
    (fun _ _ => guarded_of_upheld) (invariant_start sessionId params)

/-! ### An insert after a commit -/

/-- The dialect that knows the two commands as they are sent. -/
def plainDialect : Dialect where
  control sql := if sql = "COMMIT" then some .commit else if sql = "ROLLBACK" then some .rollback
    else none
  control_commit := rfl
  control_rollback := rfl

/-- Parameters with which nothing is configured. -/
def plainParams : ConnectionParams where
  host := "localhost"
  port := 8563
  username := "sys"
  password := ""
  schema := none
  connectionTimeout := ⟨30, 0⟩
  queryTimeout := none
  useTls := true
  validateServerCertificate := true
  certificateFingerprint := none
  clientName := ""
  clientVersion := ""

/-- The values of a server on which every command affects one row. -/
def oneRow : (r : Request) → r.Value
  | .authenticate _ => { sessionId := "1", releaseVersion := "8.0.0", databaseName := ""
                         productName := "", timeZone := none
                         protocolVersion := 3
                         maxDataMessageSize := 0 }
  | .refreshCurrentSchema => none
  | .executeQuery _ | .executePreparedStatement .. => .rowCount 1
  | .paginateRemaining _ => .ok []
  | .createPreparedStatement _ => { handle := 1
                                    numParams := 0 }
  | .connect _ | .setAutocommit _ | .setQueryTimeout _ | .setCurrentSchema _ | .closeResultSet _
  | .closePreparedStatement _ | .close => ()

/-- A transaction is begun and committed, and then a command is run. -/
def insertAfterCommit : List Action :=
  [⟨.beginTransaction, fun _ => oneRow⟩, ⟨.commit, fun _ => oneRow⟩,
    ⟨.execute (.new "INSERT INTO T VALUES (1)"), fun _ => oneRow⟩]

/-- The command stays pending although no transaction is active. -/
theorem insert_after_commit_pending : ¬Runs.Always (step checkedPlatform plainDialect) Upheld
    (start "1" plainParams) insertAfterCommit := by
  intro h
  have hlength : (Runs.last (step checkedPlatform plainDialect) (start "1" plainParams)
    insertAfterCommit).db.uncommitted.length = 1 := rfl
  rw [h.last.idle rfl] at hlength
  cases hlength

end Exarrow.Transactions
