import Exarrow.Connection

/-!
# Rules for the methods of a connection

What the methods of a connection do to its session and to the session on the
server, for the program logic of clients. A method that only runs commands leaves
the transaction of the session as it is (`Exarrow.Connection.SameTransaction`), and
when it returns a value its command has run
(`Exarrow.Connection.wp_executeStatement`). Assertions that survive the counters
and timeouts (`Exarrow.Connection.Stable`) are kept by every such method if they
are kept by its command (`Exarrow.Connection.keeps_executeStatement`,
`Exarrow.Connection.keeps_runPrepared`).
-/

namespace Exarrow

open Checked Client

variable {d : Dialect} {allowed : Set Choice}

/-! ### Single requests -/

namespace Database

/-- A session that has been asked for something that changes at most its timeout. -/
def Asked (db db' : Database) : Prop :=
  ∃ q n, db' = { db with queryTimeout := q, requests := n }

theorem Asked.refl (db : Database) : db.Asked db := ⟨_, _, rfl⟩

theorem Asked.trans {db₁ db₂ db₃ : Database} (h : db₁.Asked db₂) (h' : db₂.Asked db₃) :
    db₁.Asked db₃ := by
  obtain ⟨q, n, rfl⟩ := h
  obtain ⟨q', n', rfl⟩ := h'
  exact ⟨q', n', rfl⟩

/-- Setting the timeout is such a request, whatever becomes of it. -/
theorem asked_setQueryTimeout (db : Database) (secs : UInt64) (w : Choice) :
    db.Asked ((server d).step db (.setQueryTimeout secs) w).2 := by
  unfold server
  dsimp only
  cases w.fate <;> exact ⟨_, _, rfl⟩

/-- A request that is answered has been carried out. -/
theorem step_of_ok {db : Database} {r : Request} {w : Choice} {a : r.Value}
    (h : ((server d).step db r w).1 = .ok a) :
    ((server d).step db r w).2 = { db with requests := db.requests + 1 }.perform d r := by
  unfold server at h ⊢
  dsimp only at h ⊢
  cases hw : w.fate with
  | accepted => rfl
  | refused e => rw [hw] at h; cases h
  | failed e => rw [hw] at h; cases h
  | lost e => rfl

/-- An accepted request is answered. -/
theorem step_of_accepted {w : Choice} (hw : w.fate = .accepted) (db : Database) (r : Request) :
    (server d).step db r w =
      (.ok (w.value r), { db with requests := db.requests + 1 }.perform d r) := by
  unfold server
  dsimp only
  rw [hw]

end Database

namespace Connection

variable {pf : Platform} {conn : Connection} {db : Database}

/-! ### Running a text -/

/-- Only counters and the recorded timeout may differ. -/
structure SameTransaction (c c' : Connection) : Prop where
  state : c'.session.state = c.session.state
  inTransaction : c'.session.inTransaction = c.session.inTransaction
  params : c'.params = c.params

theorem SameTransaction.refl (c : Connection) : SameTransaction c c := ⟨rfl, rfl, rfl⟩

theorem wp_reconcile {needed : Bool} {secs : UInt64} :
    wp (Database.server d) allowed (reconcile needed secs).run
      (fun r conn' db' => conn' = conn ∧ db.Asked db' ∧
        ((∀ w ∈ allowed, w.fate = .accepted) → ∃ a, r = .ok a))
      (fun _ _ => True) conn db := by
  cases needed with
  | false => exact ⟨rfl, .refl db, fun _ => ⟨_, rfl⟩⟩
  | true =>
    refine ⟨trivial, fun w hw => ⟨trivial, rfl, Database.asked_setQueryTimeout .., fun hall => ?_⟩⟩
    rw [Database.step_of_accepted (hall w hw)]
    exact ⟨_, rfl⟩

theorem wp_recordTimeout {needed : Bool} {timeoutMs : Option UInt64} :
    wp (Database.server d) allowed (recordTimeout needed timeoutMs).run
      (fun r conn' db' => SameTransaction conn conn' ∧ db' = db ∧ r = .ok ())
      (fun _ _ => True) conn db := by
  cases needed with
  | false => exact ⟨.refl conn, rfl, rfl⟩
  | true => exact ⟨⟨rfl, rfl, rfl⟩, rfl, rfl⟩

/-- **Running a statement** leaves the transaction of the session as it is. Its text
has run if a value is returned, and also if the session is open, the text can be
built and the server accepts everything. -/
theorem wp_executeStatement {stmt : Statement} :
    wp (Database.server d) allowed (executeStatement pf stmt).run
      (fun r conn' db' => SameTransaction conn conn' ∧
        ((∃ a, r = .ok a) ∨ ((∀ w ∈ allowed, w.fate = .accepted) ∧
            conn.session.state.canExecute = true ∧ ∃ sql, stmt.buildSql = .ok sql) →
          ∃ sql db₁, stmt.buildSql = .ok sql ∧ db.Asked db₁ ∧ db' = db₁.runText d sql))
      (fun _ _ => True) conn db := by
  unfold executeStatement ready updateSession
  simp only [bind_assoc, Attempt.run_read_bind, wp_get]
  refine wp_of_bind (fun _ _ => ?_) (fun e he => ⟨.refl conn, ?_⟩)
  swap
  · rintro (⟨a, ha⟩ | ⟨-, hopen, -⟩)
    · cases ha
    · unfold Session.validateReady at he
      rw [if_pos hopen] at he
      cases he
  simp only [Attempt.run_read_bind, wp_get, Attempt.run_write_bind, wp_put]
  refine wp_of_bind (fun sql hsql => ?_) (fun e he => ⟨⟨rfl, rfl, rfl⟩, ?_⟩)
  swap
  · rintro (⟨a, ha⟩ | ⟨-, -, sql, hsql⟩)
    · cases ha
    · rw [hsql] at he
      cases he
  rw [Attempt.run_read_bind, wp_get, wp_attempt_bind]
  refine wp_mono (fun r conn' db₁ h => ?_) (fun _ _ _ => trivial) wp_reconcile
  obtain ⟨rfl, hasked, hr⟩ := h
  cases r with
  | error e =>
    refine ⟨⟨rfl, rfl, rfl⟩, ?_⟩
    rintro (⟨a, ha⟩ | ⟨hall, -⟩)
    · cases ha
    · obtain ⟨a, ha⟩ := hr hall
      cases ha
  | ok _ =>
    refine wp_ask_bind trivial fun w hw => ⟨trivial, ?_⟩
    rw [Attempt.run_of_ok_bind, wp_attempt_bind]
    refine wp_mono (fun r conn' db₂ h => ?_) (fun _ _ _ => trivial) wp_recordTimeout
    obtain ⟨hsame, rfl, rfl⟩ := h
    have hsame' : SameTransaction conn conn' :=
      ⟨hsame.state, hsame.inTransaction, hsame.params⟩
    have hran (h : ∃ a, ((Database.server d).step db₁ (.executeQuery sql) w).1 = .ok a) :
        ∃ text db₂, stmt.buildSql = .ok text ∧ db.Asked db₂ ∧
          ((Database.server d).step db₁ (.executeQuery sql) w).2 = db₂.runText d text := by
      obtain ⟨a, ha⟩ := h
      exact ⟨sql, _, ofExcept_eq_ok.mp hsql, hasked.trans ⟨_, _, rfl⟩, Database.step_of_ok ha⟩
    refine wp_of_bind (fun result hres => ⟨hsame', fun _ => ?_⟩) (fun e he => ⟨hsame', ?_⟩)
    · exact hran ⟨result, ofExcept_eq_ok.mp (mapError_eq_ok.mp hres)⟩
    · rintro (⟨a, ha⟩ | ⟨hall, -⟩)
      · cases ha
      · exact hran ⟨_, congrArg Prod.fst (Database.step_of_accepted (hall w hw) ..)⟩

/-- Running a text that counts rows: the same. -/
theorem wp_executeUpdate {sql : String} (hplain : scanPlaceholders sql.toList = []) :
    wp (Database.server d) allowed (executeUpdate pf sql).run
      (fun r conn' db' => SameTransaction conn conn' ∧
        ((∃ a, r = .ok a) → ∃ db₁, db.Asked db₁ ∧ db' = db₁.runText d sql))
      (fun _ _ => True) conn db := by
  have hbuild : (conn.createStatement sql).buildSql = .ok sql :=
    Statement.buildSql_of_scanPlaceholders_eq_nil hplain
  unfold executeUpdate executeStatementUpdate
  rw [Attempt.run_read_bind, wp_get, wp_attempt_bind]
  refine wp_mono (fun r conn' db' h => ?_) (fun _ _ _ => trivial) wp_executeStatement
  obtain ⟨hsame, hran⟩ := h
  cases r with
  | error e =>
    refine ⟨hsame, ?_⟩
    rintro ⟨a, ha⟩
    cases ha
  | ok a =>
    refine ⟨hsame, fun _ => ?_⟩
    obtain ⟨text, db₁, htext, hasked, hdb⟩ := hran (.inl ⟨a, rfl⟩)
    rw [hbuild] at htext
    obtain rfl := Except.ok.inj htext
    exact ⟨db₁, hasked, hdb⟩

/-- A prepared statement that is open runs when the session is open, its parameters
can be put into columns and the server accepts. -/
theorem wp_runPrepared {α : Type} {counted : Bool} {stmt : PreparedStatement}
    {params : Option (List (List Json.Value))} {finish : QueryResult → Exec QueryError α}
    (hall : ∀ w ∈ allowed, w.fate = .accepted) (hopen : conn.session.state.canExecute = true)
    (hclosed : stmt.closed = false) :
    wp (Database.server d) allowed (runPrepared counted stmt (.ok params) finish).run
      (fun _ conn' db' => SameTransaction conn conn' ∧ ∃ db₁, db.Asked db₁ ∧ db' = db₁.run none)
      (fun _ _ => True) conn db := by
  have hready : mapError (fun e => QueryError.invalidState (.connection e))
      (ofExcept conn.session.validateReady) = .ok () := by
    unfold Session.validateReady
    rw [if_pos hopen]
    rfl
  unfold runPrepared ready updateSession request
  simp only [bind_assoc, hclosed, Bool.false_eq_true, if_false, Attempt.run_of_ok_bind,
    Attempt.run_read_bind, wp_get, hready, Attempt.run_write_bind, wp_put]
  refine wp_ask_bind trivial fun w hw => ⟨trivial, ?_⟩
  rw [Database.step_of_accepted (hall w hw)]
  cases counted <;> exact ⟨⟨rfl, rfl, rfl⟩, _, ⟨_, _, rfl⟩, rfl⟩

/-! ### Assertions that are kept -/

/-- The assertion does not depend on the counters and the timeouts. -/
structure Stable (K : Connection → Database → Prop) : Prop where
  counted : ∀ conn db, K conn db → K { conn with session := conn.session.incrementQueryCount } db
  recorded : ∀ conn db q, K conn db →
    K { conn with session := { conn.session with config := ⟨q⟩ } } db
  asked : ∀ conn db db', db.Asked db' → K conn db → K conn db'

section Keeps

variable {K : Connection → Database → Prop}

theorem keeps_ready : Keeps (Database.server d) allowed K ready.run :=
  keeps_read_bind fun _ => keeps_done _

variable (hK : Stable K)

include hK

theorem keeps_count (counted : Bool) : Keeps (Database.server d) allowed K
    (updateSession fun s => if counted then s.incrementQueryCount else s).run := by
  refine keeps_modify fun conn db h => ?_
  cases counted with
  | false => exact h
  | true => exact hK.counted conn db h

theorem keeps_reconcile (needed : Bool) (secs : UInt64) :
    Keeps (Database.server d) allowed K (reconcile needed secs).run := by
  cases needed with
  | false => exact keeps_done _
  | true =>
    exact keeps_ask fun conn db w _ h => hK.asked conn db _ (Database.asked_setQueryTimeout ..) h

theorem keeps_recordTimeout (needed : Bool) (timeoutMs : Option UInt64) :
    Keeps (Database.server d) allowed K (recordTimeout needed timeoutMs).run := by
  cases needed with
  | false => exact keeps_done _
  | true => exact keeps_modify fun conn db h => hK.recorded conn db _ h

/-- **A statement keeps what its text keeps.** -/
theorem keeps_executeStatement {stmt : Statement}
    (hrun : ∀ sql, stmt.buildSql = .ok sql → ∀ conn db, ∀ w ∈ allowed, K conn db →
      K conn ((Database.server d).step db (.executeQuery sql) w).2) :
    Keeps (Database.server d) allowed K (executeStatement pf stmt).run := by
  refine keeps_bind keeps_ready fun _ => keeps_bind (keeps_count hK true) fun _ => ?_
  refine keeps_of_bind fun sql hsql => keeps_read_bind fun conn => ?_
  refine keeps_bind (keeps_reconcile hK _ _) fun _ => ?_
  refine keeps_bind (keeps_ask (hrun sql (ofExcept_eq_ok.mp hsql))) fun _ => ?_
  exact keeps_bind (keeps_recordTimeout hK _ _) fun _ => keeps_of_bind fun _ _ => keeps_done _

theorem keeps_executeUpdate {sql : String} (hplain : scanPlaceholders sql.toList = [])
    (hrun : ∀ conn db, ∀ w ∈ allowed, K conn db →
      K conn ((Database.server d).step db (.executeQuery sql) w).2) :
    Keeps (Database.server d) allowed K (executeUpdate pf sql).run := by
  refine keeps_read_bind fun conn => keeps_bind (keeps_executeStatement hK fun text h => ?_)
    fun _ => keeps_done _
  have hbuild : (conn.createStatement sql).buildSql = .ok sql :=
    Statement.buildSql_of_scanPlaceholders_eq_nil hplain
  rw [hbuild] at h
  obtain rfl := Except.ok.inj h
  exact hrun

omit hK in
/-- A text of an import keeps what its text keeps. -/
theorem keeps_sqlExecutor {sql : String}
    (hrun : ∀ conn db, ∀ w ∈ allowed, K conn db →
      K conn ((Database.server d).step db (.executeQuery sql) w).2) :
    Keeps (Database.server d) allowed K (sqlExecutor sql).run := keeps_ask hrun

/-- **A prepared statement keeps what its execution keeps.** -/
theorem keeps_runPrepared {α : Type} {counted : Bool} {stmt : PreparedStatement}
    {data : Except QueryError (Option (List (List Json.Value)))}
    {finish : QueryResult → Exec QueryError α}
    (hrun : stmt.closed = false → ∀ params, data = .ok params → ∀ conn db, ∀ w ∈ allowed,
      K conn db → K conn
        ((Database.server d).step db (.executePreparedStatement stmt.handle params) w).2) :
    Keeps (Database.server d) allowed K (runPrepared counted stmt data finish).run := by
  refine keeps_of_bind fun _ hopen => ?_
  have hclosed : stmt.closed = false := by
    rw [← Bool.not_eq_true]
    intro h
    rw [if_pos h] at hopen
    cases hopen
  refine keeps_bind keeps_ready fun _ => keeps_bind (keeps_count hK counted) fun _ => ?_
  refine keeps_of_bind fun params hdata => ?_
  exact keeps_bind (keeps_ask (hrun hclosed params (ofExcept_eq_ok.mp hdata))) fun _ =>
    keeps_done _

/-- **Ending an active transaction**: it stays active when an error is returned; else
the command has run, and the transaction is over. -/
theorem wp_endTransaction {command : String} {f : Session → Except ConnectionError Session}
    (hplain : scanPlaceholders command.toList = [])
    (hrun : ∀ conn db, ∀ w ∈ allowed, K conn db →
      K conn ((Database.server d).step db (.executeQuery command) w).2)
    (hf : ∀ s : Session, s.inTransaction = true →
      f s = .ok { s with inTransaction := false, state := .ready })
    (hin : conn.session.inTransaction = true) (hkeep : K conn db) :
    wp (Database.server d) allowed (endTransaction pf command f).run
      (fun r conn' db' => ∃ conn₁, SameTransaction conn conn₁ ∧ K conn₁ db' ∧
        ((∃ e, r = .error e) ∧ conn' = conn₁ ∨
          r = .ok () ∧ (∃ db₁, db.Asked db₁ ∧ db' = db₁.runText d command) ∧
            conn' = { conn₁ with
              session := { conn₁.session with inTransaction := false, state := .ready } }))
      K conn db := by
  unfold endTransaction
  rw [Attempt.run_read_bind, wp_get, if_pos hin, wp_attempt_bind]
  refine wp_mono (fun r conn₁ db' h => ?_) (fun _ _ h => h.1)
    (wp_and (keeps_executeUpdate hK hplain hrun conn db hkeep) (wp_executeUpdate hplain))
  obtain ⟨hkept, hsame, hran⟩ := h
  cases r with
  | error e => exact ⟨conn₁, hsame, hkept, .inl ⟨⟨e, rfl⟩, rfl⟩⟩
  | ok a =>
    unfold transition
    dsimp only
    rw [Attempt.run_read_bind, wp_get, hf _ (hsame.inTransaction.trans hin)]
    exact ⟨conn₁, hsame, hkept, .inr ⟨rfl, hran ⟨a, rfl⟩, rfl⟩⟩

end Keeps

end Connection

end Exarrow
