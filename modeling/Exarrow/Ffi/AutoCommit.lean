import Exarrow.Ffi.Parameters
import Exarrow.Transactions

/-!
# The autocommit option

A connection of the ADBC interface has an option that says whether autocommit is on
(`Exarrow.Ffi.FfiConnection.autoCommit`). Switching it off begins a transaction on the server, and
switching it on commits the transaction that is active, if one is
(`Exarrow.Ffi.applyAutoCommit`). The option is written before any of this is tried.

What should hold after every call is `Exarrow.Ffi.AutoCommit.Upheld`: the option says what the
server does; what ran while it was on is durable, and what ran while it was off is made durable by
the next commit and undone by the next rollback; and an assignment of another value asks the server.

It holds along a run (`Exarrow.Ffi.AutoCommit.always_upheld_of_sound`) **if the option is never
switched on again, the server carries out every switch to off, and no command is run while the
option is off and no transaction is active.** None of the three can be left out: nothing in the
driver turns autocommit on again on the server, a switch to off that fails is not taken back, and a
transaction that has ended is not followed by another one.
-/

namespace Exarrow.Ffi

open Machine Checked Client Connection

/-! ### The connection -/

/-- A connection of the ADBC interface. -/
structure FfiConnection where
  params : ConnectionParams
  inner : Option Connection := none
  /-- What the option says. -/
  autoCommit : Bool := true

/-- Why a call fails. -/
inductive FfiError where
  | adbc (e : AdbcError)
  | dial (e : DialError)

/-- A call of a connection. -/
abbrev FfiAct (α : Type) := Attempt FfiConnection Request Answer (Fault FfiError) α

/-- Whether the driver has the transport of the parameters. -/
def hasTransport (params : ConnectionParams) : Bool :=
  params.transport = none ∨ params.transport = some "native" ∨ params.transport = some "websocket"

/-- Make the connection of some parameters. -/
def fromParams {σ : Type} (params : ConnectionParams) : Dial σ Connection :=
  if hasTransport params then connectWithTransport params
  else Attempt.of (fail (.connection (.invalidParameter "transport"
    ("Transport '" ++ params.transport.getD "" ++ "' is not available. Check feature flags."))))

/-- The connection, which is made if there is none. -/
def ensureConnected : FfiAct Connection := do
  let ffi ← Attempt.read
  match ffi.inner with
  | some conn => return conn
  | none => do
    let conn ← ExceptT.mk ((fromParams ffi.params).run.bind fun r => .done (mapError .dial r))
    let ffi ← Attempt.read
    Attempt.write { ffi with inner := some conn }
    return conn

/-- Do something with the connection. -/
def onConnection {α : Type} (act : Act α) : FfiAct α := do
  let conn ← ensureConnected
  ExceptT.mk ((Prog.onPart (fun conn ffi => { ffi with inner := some conn }) conn act.run).bind
    fun r => .done (mapError (fun e => .adbc (toAdbcError e)) r))

variable (pf : Platform)

/-- Begin a transaction on the server. -/
def openTransaction : FfiAct Unit := onConnection beginTransaction

/-- Commit the transaction that is active, if one is. -/
def commitOpenTransaction : FfiAct Unit := onConnection do
  let conn ← Attempt.read
  if conn.session.inTransaction then Connection.commit pf else pure ()

/-- Assign a value to the option. -/
def applyAutoCommit (enabled : Bool) : FfiAct Unit := do
  let ffi ← Attempt.read
  Attempt.write { ffi with autoCommit := enabled }
  if ffi.autoCommit = enabled then pure ()
  else if enabled then commitOpenTransaction pf
  else openTransaction

/-- Fail while the option is on. -/
def requireManual (message : String) : FfiAct Unit := do
  let ffi ← Attempt.read
  Attempt.of (if ffi.autoCommit then fail (.adbc ⟨.text message, .invalidState⟩) else .ok ())

/-- Commit. -/
def commit : FfiAct Unit := do
  requireManual "Cannot commit when autocommit is enabled"
  onConnection (Connection.commit pf)

/-- Roll back. -/
def rollback : FfiAct Unit := do
  requireManual "Cannot rollback when autocommit is enabled"
  onConnection (Connection.rollback pf)

namespace AutoCommit

/-! ### Runs -/

/-- A call of a run. -/
inductive Call where
  | setAutoCommit (enabled : Bool)
  | statement (call : Connection.Call) (command : Transactions.IsCommand call)
  | commit
  | rollback

/-- What a call does. -/
def Call.act : Call → FfiAct Unit
  | setAutoCommit enabled => applyAutoCommit pf enabled
  | statement call _ => onConnection (call.act pf)
  | commit => Ffi.commit pf
  | rollback => Ffi.rollback pf

/-- A call, and what becomes of its requests. -/
structure Action where
  call : Call
  choice : ℕ → Choice

/-- What a call has just done. -/
inductive Event where
  /-- A commit has returned; the last commit or rollback before it was at the given number of
  commands. -/
  | committed (since : ℕ)
  /-- A rollback has returned. -/
  | rolledBack (since : ℕ)
  /-- The option was assigned: whether it had another value, and whether the server was asked. -/
  | assigned (differs asked : Bool)

/-- A state of a run: the connection, the server, what the option said when each command ran, the
number of commands that had run at the last commit or rollback, and what the last call has done. -/
structure Situation where
  ffi : FfiConnection
  db : Database := {}
  reported : List Bool := []
  since : ℕ := 0
  event : Option Event := none

/-- The event of a call that has ended. -/
def eventOf (x : Situation) (call : Call) (result : Exec FfiError Unit) (db : Database) :
    Option Event :=
  match call, result with
  | .commit, .ok _ => some (.committed x.since)
  | .rollback, .ok _ => some (.rolledBack x.since)
  | .setAutoCommit enabled, _ =>
    some (.assigned (x.ffi.autoCommit != enabled) (decide (x.db.requests < db.requests)))
  | _, _ => none

/-- The number of commands at the last commit or rollback, that of the server included. -/
def sinceAfter (x : Situation) (event : Option Event) (db : Database) : ℕ :=
  match event with
  | some (.committed _) | some (.rolledBack _) => db.log.length
  | _ => max x.since db.settled

/-- The situation after a call. -/
def after (x : Situation) (call : Call) (result : Exec FfiError Unit) (ffi : FfiConnection)
    (db : Database) : Situation where
  ffi := ffi
  db := db
  reported := x.reported ++ List.replicate (db.log.length - x.db.log.length) x.ffi.autoCommit
  since := sinceAfter x (eventOf x call result db) db
  event := eventOf x call result db

variable (d : Dialect)

/-- One call. -/
def step (x : Situation) (a : Action) : Situation :=
  let (result, ffi, db) := exec (Database.server d) (a.call.act pf).run a.choice x.ffi x.db
  after x a.call result ffi db

/-- The commands that ran, each with what the option said then. -/
def Situation.history (x : Situation) : List (Bool × Execution) := x.reported.zip x.db.log

/-- A command has the given status, unless it failed. -/
def Became (status : Status) (e : Execution) : Prop := e.status = status ∨ e.status = .failed

/-- What should hold in every state. -/
structure Upheld (x : Situation) : Prop where
  /-- The option says what the server does. -/
  agrees : x.ffi.autoCommit = x.db.autocommit
  /-- What ran while the option was on is durable. -/
  durable : ∀ p ∈ x.history, p.1 = true → Became .durable p.2
  /-- After a commit, what ran while the option was off is durable. -/
  committed : ∀ since, x.event = some (.committed since) →
    ∀ p ∈ x.history.drop since, p.1 = false → Became .durable p.2
  /-- After a rollback, what ran while the option was off is undone. -/
  rolledBack : ∀ since, x.event = some (.rolledBack since) →
    ∀ p ∈ x.history.drop since, p.1 = false → Became .discarded p.2
  /-- An assignment of another value has asked the server. -/
  asked : ∀ asked, x.event = some (.assigned true asked) → asked = true

/-- A transaction is active. -/
def Situation.Active (x : Situation) : Prop :=
  ∃ conn, x.ffi.inner = some conn ∧ conn.session.inTransaction = true

/-- The request is carried out, though its answer may be lost. -/
def CarriedOut (w : Choice) : Prop := w.fate = .accepted ∨ ∃ e, w.fate = .lost e

/-- **The calls that do no harm.** -/
def Sound (x : Situation) (a : Action) : Prop :=
  match a.call with
  -- Autocommit is not switched on again.
  | .setAutoCommit true => x.ffi.autoCommit = true
  -- A switch to off is carried out, behind the requests that make the connection.
  | .setAutoCommit false => x.ffi.autoCommit = true →
    (x.ffi.inner.isSome = true ∧ ∀ n, CarriedOut (a.choice n)) ∨
      (hasTransport x.ffi.params = true ∧ ∀ n, (a.choice n).fate = .accepted)
  -- A command runs with the option on or in a transaction.
  | .statement call _ => Transactions.RunsCommand d call → x.ffi.autoCommit = true ∨ x.Active
  | .commit | .rollback => True

/-! ### Making the connection -/

variable {d} {allowed : Set Choice}

/-- **What a request can come to on the server**: nothing is done, it is carried out, or it fails
there. -/
theorem step_cases {P : Database → Prop} {db : Database} {r : Request}
    (hnone : P { db with requests := db.requests + 1 })
    (hdone : P ({ db with requests := db.requests + 1 }.perform d r))
    (hfailed : P ({ db with requests := db.requests + 1 }.stumble d r)) (w : Choice) :
    P ((Database.server d).step db r w).2 := by
  unfold Database.server
  dsimp only
  cases w.fate with
  | accepted => exact hdone
  | refused e => exact hnone
  | failed e => exact hfailed
  | lost e => exact hdone

/-- What the requests that make a connection change on the server. -/
def Dialled (db db' : Database) : Prop :=
  ∃ a q m, db' = { db with autocommit := a, queryTimeout := q, requests := m } ∧
    (a = db.autocommit ∨ a = true) ∧ db.requests ≤ m

theorem Dialled.refl (db : Database) : Dialled db db := ⟨_, _, _, rfl, .inl rfl, le_rfl⟩

theorem Dialled.trans {db₁ db₂ db₃ : Database} (h : Dialled db₁ db₂) (h' : Dialled db₂ db₃) :
    Dialled db₁ db₃ := by
  obtain ⟨a, q, m, rfl, ha, hm⟩ := h
  obtain ⟨a', q', m', rfl, ha', hm'⟩ := h'
  refine ⟨a', q', m', rfl, ?_, le_trans hm hm'⟩
  rcases ha' with rfl | rfl
  · exact ha
  · exact .inr rfl

/-- The requests that make a connection. -/
def Dials : Request → Prop
  | .connect _ | .authenticate _ | .setQueryTimeout _ | .setCurrentSchema _ | .close => True
  | _ => False

theorem dialled_step {r : Request} (hr : Dials r) (db : Database) (w : Choice) :
    Dialled db ((Database.server d).step db r w).2 := by
  have hcounted : Dialled db { db with requests := db.requests + 1 } :=
    ⟨_, _, _, rfl, .inl rfl, Nat.le_succ _⟩
  refine step_cases hcounted ?_ ?_ w
  · cases r with
    | connect => exact hcounted
    | authenticate => exact ⟨_, _, _, rfl, .inr rfl, Nat.le_succ _⟩
    | setQueryTimeout => exact ⟨_, _, _, rfl, .inl rfl, Nat.le_succ _⟩
    | setCurrentSchema => exact hcounted
    | close => exact hcounted
    | _ => exact hr.elim
  · cases r with
    | connect => exact hcounted
    | authenticate => exact hcounted
    | setQueryTimeout => exact hcounted
    | setCurrentSchema => exact hcounted
    | close => exact hcounted
    | _ => exact hr.elim

section Dialling

variable {σ : Type} {s : σ} {db : Database} {params : ConnectionParams}

/-- What a step of making a connection leads to. -/
abbrev DialPost {α : Type} (P : α → Prop) (must : Prop) (s : σ) (db : Database) :
    Exec DialError α → σ → Database → Prop :=
  fun r s' db' => s' = s ∧ Dialled db db' ∧ (∀ a, r = .ok a → P a) ∧ (must → ∃ a, r = .ok a)

/-- Every request is accepted. -/
abbrev AllAccepted (allowed : Set Choice) : Prop := ∀ w ∈ allowed, w.fate = .accepted

theorem wp_dial {r : Request} (hr : Dials r) {failed : TransportError → ConnectionError} :
    wp (Database.server d) allowed (dial r failed : Dial σ r.Value).run
      (DialPost (fun _ => True) (AllAccepted allowed) s db) (fun _ _ => True) s db := by
  refine ⟨trivial, fun w hw => ⟨trivial, rfl, dialled_step hr db w, fun _ _ => trivial, fun hall => ?_⟩⟩
  rw [Database.step_of_accepted (hall w hw)]
  exact ⟨_, rfl⟩

/-- Steps follow each other. -/
theorem wp_dial_bind {α β : Type} {P : α → Prop} {Q : β → Prop} {must : Prop} {p : Dial σ α}
    {f : α → Dial σ β}
    (hp : wp (Database.server d) allowed p.run (DialPost P must s db) (fun _ _ => True) s db)
    (hf : ∀ a, P a → ∀ db', wp (Database.server d) allowed (f a).run (DialPost Q must s db')
      (fun _ _ => True) s db') :
    wp (Database.server d) allowed (p >>= f).run (DialPost Q must s db) (fun _ _ => True) s db := by
  rw [wp_attempt_bind]
  refine wp_mono (fun r s' db₁ h => ?_) (fun _ _ _ => trivial) hp
  obtain ⟨rfl, hdial, hP, hok⟩ := h
  cases r with
  | error e =>
    refine ⟨rfl, hdial, fun a ha => (nomatch ha), fun hmust => ?_⟩
    obtain ⟨a, ha⟩ := hok hmust
    cases ha
  | ok a =>
    refine wp_mono (fun r' s'' db₂ h' => ?_) (fun _ _ _ => trivial) (hf a (hP a rfl) db₁)
    exact ⟨h'.1, hdial.trans h'.2.1, h'.2.2⟩

/-- A connection with nothing begun on it. -/
def Fresh (conn : Connection) : Prop :=
  conn.session.state.canExecute = true ∧ conn.session.inTransaction = false

theorem wp_openSchema {conn : Connection} (hconn : Fresh conn) :
    wp (Database.server d) allowed (openSchema conn : Dial σ Connection).run
      (DialPost Fresh (AllAccepted allowed) s db) (fun _ _ => True) s db := by
  unfold openSchema
  cases conn.params.schema with
  | none =>
    refine ⟨rfl, .refl db, fun a ha => ?_, fun _ => ⟨conn, rfl⟩⟩
    cases ha
    exact hconn
  | some schema =>
    have hready : mapError (fun e => QueryError.invalidState (.connection e))
        (ofExcept conn.session.validateReady) = .ok () := by
      unfold Session.validateReady
      rw [if_pos hconn.1]
      rfl
    dsimp only
    change wp _ _ ((Prog.isolate conn (Connection.setSchema schema).run).bind _) _ _ _ _
    rw [wp_bind, wp_isolate]
    unfold Connection.setSchema ready request
    rw [bind_assoc, Attempt.run_read_bind, wp_get, hready, Attempt.run_of_ok_bind]
    refine ⟨trivial, fun w hw => ⟨trivial, ?_⟩⟩
    have hdial := @dialled_step d (.setCurrentSchema schema) trivial db w
    cases hanswer : ((Database.server d).step db (.setCurrentSchema schema) w).1 with
    | ok a =>
      refine ⟨rfl, hdial, fun c hc => ?_, fun _ => ⟨conn, rfl⟩⟩
      cases hc
      exact hconn
    | error e =>
      -- The connection is closed again, whatever comes of it.
      have hfailed : mapError executionFailed
          (Checked.ofExcept (.error e : Except TransportError Unit)) = fail (executionFailed e) := rfl
      dsimp only [wp]
      rw [hfailed]
      dsimp only [fail]
      rw [wp_bind, wp_isolate]
      unfold Connection.shutdown updateSession request
      rw [bind_assoc, Attempt.run_read_bind, wp_get, Attempt.run_write_bind, wp_put]
      refine ⟨trivial, fun w' _ => ⟨trivial, rfl, hdial.trans (@dialled_step d .close trivial _ w'),
        fun c hc => (nomatch hc), fun hall => ?_⟩⟩
      rw [Database.step_of_accepted (hall w hw)] at hanswer
      cases hanswer

/-- **Making a connection** changes at most the attributes of the session, and it succeeds if every
request is accepted. -/
theorem wp_fromParams :
    wp (Database.server d) allowed (fromParams params : Dial σ Connection).run
      (DialPost Fresh (hasTransport params = true ∧ AllAccepted allowed) s db)
      (fun _ _ => True) s db := by
  unfold fromParams
  split_ifs with htransport
  · have hmust {α : Type} {P : α → Prop} {p : Dial σ α} {db' : Database}
        (h : wp (Database.server d) allowed p.run (DialPost P (AllAccepted allowed) s db')
          (fun _ _ => True) s db') :
        wp (Database.server d) allowed p.run
          (DialPost P (hasTransport params = true ∧ AllAccepted allowed) s db')
          (fun _ _ => True) s db' :=
      wp_mono (fun _ _ _ h => ⟨h.1, h.2.1, h.2.2.1, fun hm => h.2.2.2 hm.2⟩) (fun _ _ _ => trivial) h
    unfold connectWithTransport
    refine wp_dial_bind (hmust (wp_dial (r := .connect _) trivial)) fun _ _ db₁ => ?_
    refine wp_dial_bind (hmust (wp_dial (r := .authenticate _) trivial)) fun info _ db₂ => ?_
    refine wp_dial_bind (P := fun _ => True) (hmust ?_) fun _ _ db₃ => ?_
    · unfold applyQueryTimeout
      split
      · exact wp_dial (r := .setQueryTimeout _) trivial
      · exact ⟨rfl, .refl _, fun _ _ => trivial, fun _ => ⟨(), rfl⟩⟩
    · exact hmust (wp_openSchema ⟨rfl, rfl⟩)
  · exact ⟨rfl, .refl db, fun _ h => (nomatch h), fun h => absurd h.1 htransport⟩

end Dialling

/-! ### What the server keeps -/

/-- The commands that ran, as the option has reported them and as they stand since the last commit
or rollback. -/
structure Tracks (reported : List Bool) (n : ℕ) (flag : Bool) (db : Database) : Prop where
  autocommit : db.autocommit = flag
  ran : ∃ k, db.log.map Execution.autocommit = reported ++ List.replicate k flag
  durable : ∀ e ∈ db.log, e.autocommit = true → Became .durable e
  staged : ∀ e ∈ db.log.drop (max n db.settled), e.autocommit = false → Became .pending e
  settled_le : db.settled ≤ db.log.length

section Tracks

variable {reported : List Bool} {n : ℕ} {flag active : Bool} {conn : Connection} {db db' : Database}

theorem Tracks.asked (h : Tracks reported n flag db) (hasked : db.Asked db') :
    Tracks reported n flag db' := by
  obtain ⟨q, m, rfl⟩ := hasked
  exact ⟨h.autocommit, h.ran, h.durable, h.staged, h.settled_le⟩

/-- A command that runs is noted with what it has become. -/
theorem Tracks.note (h : Tracks reported n flag db) (sql : Option String) {status : Status}
    (hstatus : status = (if flag then .durable else .pending) ∨ status = .failed) :
    Tracks reported n flag (db.note sql status) where
  autocommit := h.autocommit
  ran := by
    obtain ⟨k, hk⟩ := h.ran
    refine ⟨k + 1, ?_⟩
    unfold Database.note
    rw [List.map_append, hk, List.replicate_succ', ← List.append_assoc, ← h.autocommit]
    rfl
  durable := by
    intro e he hon
    rcases List.mem_append.mp he with he | he
    · exact h.durable e he hon
    · obtain rfl := List.mem_singleton.mp he
      have hflag : flag = true := h.autocommit.symm.trans hon
      rw [hflag, if_pos rfl] at hstatus
      exact hstatus
  staged := by
    intro e he hoff
    unfold Database.note at he
    rw [List.drop_append] at he
    rcases List.mem_append.mp he with he | he
    · exact h.staged e he hoff
    · obtain rfl := List.mem_singleton.mp (List.mem_of_mem_drop he)
      have hflag : flag = false := h.autocommit.symm.trans hoff
      rw [hflag, if_neg Bool.false_ne_true] at hstatus
      exact hstatus
  settled_le := by
    have hle := h.settled_le
    unfold Database.note
    rw [List.length_append]
    exact le_add_right hle

theorem Tracks.run (h : Tracks reported n flag db) (sql : Option String) :
    Tracks reported n flag (db.run sql) := h.note sql (.inl (by rw [h.autocommit]))

/-- A commit or a rollback changes what is pending. -/
theorem Tracks.settle (h : Tracks reported n flag db) (o : Status) :
    Tracks reported n flag (db.settle o) where
  autocommit := h.autocommit
  ran := by
    obtain ⟨k, hk⟩ := h.ran
    refine ⟨k, ?_⟩
    rw [← hk]
    unfold Database.settle
    rw [List.map_map]
    refine List.map_congr_left fun e _ => ?_
    rw [Function.comp_apply]
    split_ifs <;> rfl
  durable := by
    intro e he hon
    obtain ⟨e', he', rfl⟩ := List.mem_map.mp he
    by_cases hpending : e'.status = .pending
    · rw [if_pos hpending] at hon
      rcases h.durable e' he' hon with hbad | hbad <;> rw [hpending] at hbad <;> cases hbad
    · rw [if_neg hpending] at hon ⊢
      exact h.durable e' he' hon
  staged := by
    intro e he
    have hnil : (db.settle o).log.drop (max n (db.settle o).settled) = [] := by
      refine List.drop_eq_nil_iff.mpr ?_
      rw [Database.length_log_settle]
      exact le_max_right _ _
    rw [hnil] at he
    cases he
  settled_le := (Database.length_log_settle db o).ge

/-- What is pending becomes what the end of the transaction makes of it. -/
theorem Tracks.became_settle (h : Tracks reported n flag db) (o : Status) :
    ∀ e ∈ (db.settle o).log.drop (max n db.settled), e.autocommit = false → Became o e := by
  intro e he hoff
  unfold Database.settle at he
  rw [← List.map_drop] at he
  obtain ⟨e', he', rfl⟩ := List.mem_map.mp he
  by_cases hpending : e'.status = .pending
  · rw [if_pos hpending]
    exact .inl rfl
  · rw [if_neg hpending] at hoff ⊢
    exact .inr ((h.staged e' he' hoff).resolve_left hpending)

/-- What holds between the calls: the session is open, and what is pending belongs to a
transaction that is active. -/
structure Kept (reported : List Bool) (n : ℕ) (flag active : Bool) (conn : Connection)
    (db : Database) : Prop where
  isOpen : conn.session.state.canExecute = true
  inTransaction : conn.session.inTransaction = active
  tracks : Tracks reported n flag db
  idle : active = false → db.uncommitted = []

theorem stable_kept : Stable (Kept reported n flag active) where
  counted _ _ h := ⟨h.isOpen, h.inTransaction, h.tracks, h.idle⟩
  recorded _ _ _ h := ⟨h.isOpen, h.inTransaction, h.tracks, h.idle⟩
  asked _ _ _ hasked h := by
    refine ⟨h.isOpen, h.inTransaction, h.tracks.asked hasked, ?_⟩
    obtain ⟨q, m, rfl⟩ := hasked
    exact h.idle

/-- A command runs with autocommit on or in a transaction. -/
theorem Kept.run (h : Kept reported n flag active conn db) (hg : flag = true ∨ active = true)
    (sql : Option String) : Kept reported n flag active conn (db.run sql) where
  isOpen := h.isOpen
  inTransaction := h.inTransaction
  tracks := h.tracks.run sql
  idle hidle := by
    have hflag : flag = true := hg.resolve_right fun hactive => by rw [hidle] at hactive; cases hactive
    rw [Database.uncommitted_run (h.tracks.autocommit.trans hflag)]
    exact h.idle hidle

/-- A command that fails is noted. -/
theorem Kept.note_failed (h : Kept reported n flag active conn db) (sql : Option String) :
    Kept reported n flag active conn (db.note sql .failed) where
  isOpen := h.isOpen
  inTransaction := h.inTransaction
  tracks := h.tracks.note sql (.inr rfl)
  idle hidle := (Database.uncommitted_note_failed db sql).trans (h.idle hidle)

theorem Kept.settle (h : Kept reported n flag active conn db) {o : Status} (ho : o ≠ .pending) :
    Kept reported n flag active conn (db.settle o) :=
  ⟨h.isOpen, h.inTransaction, h.tracks.settle o, fun _ => Database.uncommitted_settle ho⟩

theorem Kept.runText (h : Kept reported n flag active conn db) {sql : String}
    (hg : d.control sql = none → flag = true ∨ active = true) :
    Kept reported n flag active conn (db.runText d sql) := by
  unfold Database.runText
  cases hc : d.control sql with
  | none => exact h.run (hg hc) (some sql)
  | some c =>
    cases c with
    | commit => exact h.settle (by decide)
    | rollback => exact h.settle (by decide)

/-- A text keeps what holds, whatever becomes of its request. -/
theorem Kept.executeQuery (h : Kept reported n flag active conn db) {sql : String}
    (hg : d.control sql = none → flag = true ∨ active = true) (w : Choice) :
    Kept reported n flag active conn ((Database.server d).step db (.executeQuery sql) w).2 := by
  have hcounted := stable_kept.asked conn db { db with requests := db.requests + 1 } ⟨_, _, rfl⟩ h
  refine step_cases (r := .executeQuery sql) hcounted (hcounted.runText hg) ?_ w
  unfold Database.stumble
  dsimp only
  split_ifs
  · exact hcounted
  · exact hcounted.note_failed (some sql)

theorem Kept.executePrepared (h : Kept reported n flag active conn db)
    (hg : flag = true ∨ active = true) (handle : PreparedStatementHandle)
    (params : Option (List (List Json.Value))) (w : Choice) :
    Kept reported n flag active conn
      ((Database.server d).step db (.executePreparedStatement handle params) w).2 := by
  have hcounted := stable_kept.asked conn db { db with requests := db.requests + 1 } ⟨_, _, rfl⟩ h
  exact step_cases (r := .executePreparedStatement handle params) hcounted (hcounted.run hg none)
    (hcounted.note_failed none) w

variable {pf}

/-- **A command keeps what holds**, whatever becomes of its requests. -/
theorem keeps_command {c : Connection.Call} (hc : Transactions.IsCommand c)
    (hg : Transactions.RunsCommand d c → flag = true ∨ active = true) :
    Keeps (Database.server d) allowed (Kept reported n flag active) (c.act pf).run := by
  have hprepared (handle : PreparedStatementHandle) (params : Option (List (List Json.Value)))
      (hruns : Transactions.RunsCommand d c) (conn : Connection) (db : Database) (w : Choice)
      (_ : w ∈ allowed) (h : Kept reported n flag active conn db) :
      Kept reported n flag active conn
        ((Database.server d).step db (.executePreparedStatement handle params) w).2 :=
    h.executePrepared (hg hruns) handle params w
  cases c with
  | beginTransaction => exact hc.elim
  | commit => exact hc.elim
  | rollback => exact hc.elim
  | execute stmt =>
    refine keeps_bind (keeps_executeStatement stable_kept fun sql hsql conn db w _ h => ?_)
      fun _ => keeps_done _
    exact h.executeQuery (fun hnone => hg ⟨sql, hsql, hnone⟩) w
  | importSql sql =>
    exact keeps_bind (keeps_sqlExecutor fun conn db w _ h => h.executeQuery hg w)
      fun _ => keeps_done _
  | executePrepared stmt =>
    exact keeps_bind (keeps_runPrepared stable_kept fun hclosed params h =>
      hprepared _ _ ⟨hclosed, params, h⟩) fun _ => keeps_done _
  | executePreparedUpdate stmt =>
    exact keeps_bind (keeps_runPrepared stable_kept fun hclosed params h =>
      hprepared _ _ ⟨hclosed, params, h⟩) fun _ => keeps_done _
  | executeBatch stmt rows =>
    exact keeps_bind (keeps_runPrepared stable_kept fun hclosed params h =>
      hprepared _ _ ⟨hclosed, params, h⟩) fun _ => keeps_done _
  | executeBatchUpdate stmt rows =>
    exact keeps_bind (keeps_runPrepared stable_kept fun hclosed params h =>
      hprepared _ _ ⟨hclosed, params, h⟩) fun _ => keeps_done _

/-- **The end of a transaction** leaves none active if it returns, and what ran while the option was
off has become what the end makes of it. -/
theorem wp_end {command : String} {c : TransactionControl} {o : Status}
    {f : Session → Except ConnectionError Session}
    (hplain : scanPlaceholders command.toList = []) (hc : d.control command = some c)
    (ho : o ≠ .pending) (hsettle : ∀ db : Database, db.runText d command = db.settle o)
    (hf : ∀ s : Session, s.inTransaction = true →
      f s = .ok { s with inTransaction := false, state := .ready })
    (h : Kept reported n flag active conn db) :
    wp (Database.server d) allowed (endTransaction pf command f).run
      (fun r conn' db' => (∃ active', Kept reported n flag active' conn' db') ∧
        (r = .ok () → conn'.session.inTransaction = false ∧
          ∀ e ∈ db'.log.drop (max n db.settled), e.autocommit = false → Became o e))
      (fun _ _ => True) conn db := by
  cases active with
  | false =>
    unfold endTransaction
    rw [Attempt.run_read_bind, wp_get, h.inTransaction]
    refine ⟨⟨false, h⟩, fun _ => ⟨h.inTransaction, fun e he hoff => ?_⟩⟩
    -- What has not failed would be pending.
    rcases h.tracks.staged e he hoff with hpending | hfailed
    · have hmem : e ∈ db.uncommitted :=
        List.mem_filter.mpr ⟨List.mem_of_mem_drop he, by simpa using hpending⟩
      rw [h.idle rfl] at hmem
      cases hmem
    · exact .inr hfailed
  | true =>
    have hrun : ∀ conn db, ∀ w ∈ allowed, Kept reported n flag true conn db →
        Kept reported n flag true conn
          ((Database.server d).step db (.executeQuery command) w).2 :=
      fun conn db w _ h => h.executeQuery (fun hnone => by rw [hc] at hnone; cases hnone) w
    refine wp_mono (fun r conn' db' hend => ?_) (fun _ _ _ => trivial)
      (wp_endTransaction stable_kept hplain hrun hf h.inTransaction h)
    obtain ⟨conn₁, hsame, hkept, hend⟩ := hend
    rcases hend with ⟨⟨e, rfl⟩, rfl⟩ | ⟨rfl, ⟨db₁, hasked, rfl⟩, rfl⟩
    · exact ⟨⟨true, hkept⟩, fun he => (nomatch he)⟩
    · have htracks : Tracks reported n flag db₁ := h.tracks.asked hasked
      rw [hsettle]
      obtain ⟨q, m, rfl⟩ := hasked
      refine ⟨⟨false, rfl, rfl, htracks.settle o, fun _ => Database.uncommitted_settle ho⟩, ?_⟩
      exact fun _ => ⟨rfl, htracks.became_settle o⟩

end Tracks

/-! ### One call -/

/-- What holds between the calls, the connection being made or not. Before it is made the option is
on. -/
structure Standing (reported : List Bool) (n : ℕ) (flag : Bool) (inner : Option Connection)
    (db : Database) : Prop where
  tracks : Tracks reported n flag db
  unconnected : inner = none → flag = true ∧ db.uncommitted = []
  connected : ∀ conn, inner = some conn →
    ∃ active, Kept reported n flag active conn db ∧ (active = true → flag = false)

section Standing

variable {reported : List Bool} {n : ℕ} {flag : Bool} {inner : Option Connection} {db db' : Database}

theorem Tracks.dialled (h : Tracks reported n true db) (hdial : Dialled db db') :
    Tracks reported n true db' := by
  obtain ⟨a, q, m, rfl, ha, -⟩ := hdial
  refine ⟨?_, h.ran, h.durable, h.staged, h.settled_le⟩
  rcases ha with rfl | rfl
  · exact h.autocommit
  · rfl

theorem Standing.of_kept {active : Bool} {conn : Connection}
    (h : Kept reported n flag active conn db) (hactive : active = true → flag = false) :
    Standing reported n flag (some conn) db where
  tracks := h.tracks
  unconnected hnone := nomatch hnone
  connected conn' hconn := by
    cases hconn
    exact ⟨active, h, hactive⟩

/-- A connection that could not be made changes nothing of this. -/
theorem Standing.dialled (h : Standing reported n flag none db) (hdial : Dialled db db') :
    Standing reported n flag none db' := by
  obtain ⟨rfl, hidle⟩ := h.unconnected rfl
  refine ⟨h.tracks.dialled hdial, fun _ => ⟨rfl, ?_⟩, fun conn hconn => nomatch hconn⟩
  obtain ⟨a, q, m, rfl, -⟩ := hdial
  exact hidle

/-- A connection that was made has nothing begun on it. -/
theorem Standing.kept (h : Standing reported n flag none db) (hdial : Dialled db db')
    {conn : Connection} (hfresh : Fresh conn) : Kept reported n flag false conn db' := by
  have h' := h.dialled hdial
  exact ⟨hfresh.1, hfresh.2, h'.tracks, fun _ => (h'.unconnected rfl).2⟩

/-- What a call starts from, once there is a connection: the server is as it was if there was one,
and has been asked to make it otherwise. -/
def StartsFrom (inner : Option Connection) (db : Database) (conn : Connection) (db' : Database) :
    Prop :=
  inner = some conn ∧ db' = db ∨ inner = none ∧ Fresh conn ∧ Dialled db db'

/-- Making the connection runs no command. -/
theorem StartsFrom.unchanged {conn : Connection} (h : StartsFrom inner db conn db') :
    db'.log = db.log ∧ db'.settled = db.settled ∧ db.requests ≤ db'.requests := by
  rcases h with ⟨-, rfl⟩ | ⟨-, -, a, q, m, rfl, -, hm⟩
  · exact ⟨rfl, rfl, le_rfl⟩
  · exact ⟨rfl, rfl, hm⟩

/-- **Doing something with the connection**: what is done is verified on it, and if it could not be
made nothing is done. -/
theorem wp_onConnection {α : Type} {act : Act α} {ffi : FfiConnection}
    {post : Exec FfiError α → FfiConnection → Database → Prop}
    (hact : ∀ conn db', StartsFrom ffi.inner db conn db' →
      wp (Database.server d) allowed act.run
        (fun r conn' => post (mapError (fun e => .adbc (toAdbcError e)) r)
          { ffi with inner := some conn' }) (fun _ _ => True) conn db')
    (hfailed : ∀ e db', ffi.inner = none → Dialled db db' →
      ¬(hasTransport ffi.params = true ∧ AllAccepted allowed) → post (.error e) ffi db') :
    wp (Database.server d) allowed (onConnection act).run post (fun _ _ => True) ffi db := by
  let write (conn : Connection) (ffi : FfiConnection) : FfiConnection := { ffi with inner := some conn }
  have hwrite (conn₁ conn₂ : Connection) (ffi : FfiConnection) :
      write conn₂ (write conn₁ ffi) = write conn₂ ffi := rfl
  have hpart (ffi' : FfiConnection) (conn : Connection) (db' : Database)
      (h : wp (Database.server d) allowed act.run
        (fun r conn' => post (mapError (fun e => .adbc (toAdbcError e)) r) (write conn' ffi'))
        (fun _ _ => True) conn db') :
      wp (Database.server d) allowed ((Prog.onPart write conn act.run).bind
        fun r => .done (mapError (fun e => FfiError.adbc (toAdbcError e)) r)) post
        (fun _ _ => True) (write conn ffi') db' :=
    wp_bind.mpr ((wp_onPart hwrite).mpr h)
  unfold onConnection ensureConnected
  rw [bind_assoc, Attempt.run_read_bind, wp_get]
  cases hinner : ffi.inner with
  | some conn =>
    have heta : ffi = { ffi with inner := some conn } := by rw [← hinner]
    dsimp only
    rw [pure_bind, heta]
    exact hpart ffi conn db (hact conn db (.inl ⟨hinner, rfl⟩))
  | none =>
    dsimp only
    rw [bind_assoc, wp_attempt_bind]
    change wp _ _ ((fromParams ffi.params).run.bind _) _ _ _ _
    rw [wp_bind]
    refine wp_mono (fun r ffi' db' h => ?_) (fun _ _ _ => trivial) wp_fromParams
    obtain ⟨rfl, hdial, hfresh, hmust⟩ := h
    cases r with
    | error e =>
      have hnot : ¬(hasTransport ffi'.params = true ∧ AllAccepted allowed) := fun hm => by
        obtain ⟨a, ha⟩ := hmust hm
        cases ha
      cases e with
      | error e => exact hfailed _ db' hinner hdial hnot
      | panic => exact hfailed _ db' hinner hdial hnot
    | ok conn =>
      exact hpart ffi' conn db' (hact conn db' (.inr ⟨hinner, hfresh conn rfl, hdial⟩))

/-- What a call starts from keeps what holds. -/
theorem Standing.startsFrom (h : Standing reported n flag inner db) {conn : Connection}
    (hstart : StartsFrom inner db conn db') :
    ∃ active, Kept reported n flag active conn db' ∧ (active = true → flag = false) := by
  rcases hstart with ⟨rfl, rfl⟩ | ⟨rfl, hfresh, hdial⟩
  · exact h.connected conn rfl
  · exact ⟨false, h.kept hdial hfresh, fun hf => nomatch hf⟩

/-- The requests that the beginning of a transaction makes. -/
theorem wp_begin {conn : Connection} (hcarried : ∀ w ∈ allowed, CarriedOut w)
    (h : Kept reported n true false conn db) (hran : db.log.map Execution.autocommit = reported) :
    wp (Database.server d) allowed beginTransaction.run
      (fun _ conn' db' => (∃ active, Kept reported n false active conn' db') ∧
        db'.log = db.log ∧ db.requests < db'.requests) (fun _ _ => True) conn db := by
  have hcan : conn.session.ensureCanBeginTransaction = .ok () :=
    Session.ensureCanBeginTransaction_eq_ok.mpr ⟨h.isOpen, h.inTransaction⟩
  have htracks : Tracks reported n false
      ({ db with requests := db.requests + 1 }.perform d (.setAutocommit false)) := by
    refine ⟨rfl, ⟨0, ?_⟩, h.tracks.durable, h.tracks.staged, h.tracks.settled_le⟩
    rw [List.replicate_zero, List.append_nil]
    exact hran
  have hidle : ({ db with requests := db.requests + 1 }.perform d
      (.setAutocommit false)).uncommitted = [] := h.idle rfl
  have hlt : db.requests < ({ db with requests := db.requests + 1 }.perform d
      (.setAutocommit false)).requests := Nat.lt_succ_self db.requests
  unfold beginTransaction request
  rw [Attempt.run_read_bind, wp_get, hcan]
  refine ⟨trivial, fun w hw => ⟨trivial, ?_⟩⟩
  rcases hcarried w hw with haccepted | ⟨e, hlost⟩
  · rw [Database.step_of_accepted haccepted]
    change wp _ _ (transition Session.beginTransaction).run _ _ _ _
    unfold transition
    rw [Attempt.run_read_bind, wp_get, Session.beginTransaction_eq_ok hcan]
    exact ⟨⟨true, rfl, rfl, htracks, fun hf => nomatch hf⟩, rfl, hlt⟩
  · have hstep : (Database.server d).step db (.setAutocommit false) w =
        (.error e, { db with requests := db.requests + 1 }.perform d (.setAutocommit false)) := by
      unfold Database.server
      dsimp only
      rw [hlost]
    rw [hstep]
    exact ⟨⟨false, h.isOpen, h.inTransaction, htracks, fun _ => hidle⟩, rfl, hlt⟩

/-- The commands that ran since are forgotten, and those before a later point. -/
theorem Tracks.renew (h : Tracks reported n flag db) {n' : ℕ} (hn : n ≤ n' ∨ db.log.length ≤ n') :
    Tracks (db.log.map Execution.autocommit) n' flag db where
  autocommit := h.autocommit
  ran := ⟨0, by rw [List.replicate_zero, List.append_nil]⟩
  durable := h.durable
  staged := by
    intro e he
    rcases hn with hle | hle
    · exact h.staged e (List.drop_subset_drop_left _ (max_le_max_right _ hle) he)
    · rw [List.drop_eq_nil_iff.mpr (hle.trans (le_max_left _ _))] at he
      cases he
  settled_le := h.settled_le

theorem Standing.renew (h : Standing reported n flag inner db) {n' : ℕ}
    (hn : n ≤ n' ∨ db.log.length ≤ n') :
    Standing (db.log.map Execution.autocommit) n' flag inner db where
  tracks := h.tracks.renew hn
  unconnected := h.unconnected
  connected conn hconn := by
    obtain ⟨active, hkept, hactive⟩ := h.connected conn hconn
    exact ⟨active, ⟨hkept.isOpen, hkept.inTransaction, hkept.tracks.renew hn, hkept.idle⟩, hactive⟩

/-- What the option said of the commands is what a call has added to it. -/
theorem Tracks.ran_eq (h : Tracks reported n flag db') (hran : db.log.map Execution.autocommit = reported) :
    db'.log.map Execution.autocommit =
      reported ++ List.replicate (db'.log.length - db.log.length) flag := by
  obtain ⟨k, hk⟩ := h.ran
  have hlength : db'.log.length = db.log.length + k := by
    have := congrArg List.length hk
    rw [List.length_map, List.length_append, List.length_replicate, ← hran, List.length_map] at this
    exact this
  rw [hk, hlength, Nat.add_sub_cancel_left]

end Standing

/-! ### Whole runs -/

/-- The invariant of a run. -/
structure Invariant (x : Situation) : Prop where
  upheld : Upheld x
  ran : x.db.log.map Execution.autocommit = x.reported
  standing : Standing x.reported x.since x.ffi.autoCommit x.ffi.inner x.db
  settled : x.db.settled ≤ x.since

/-- What the option said of a command is what the server did. -/
theorem history_eq {x : Situation} (hran : x.db.log.map Execution.autocommit = x.reported) :
    x.history = x.db.log.map fun e => (e.autocommit, e) := by
  unfold Situation.history
  rw [← hran, List.map_prod_right_eq_zip]

/-- A property of the commands is one of what the option said of them. -/
theorem forall_history {x : Situation} {P : Execution → Prop} {b : Bool} {n : ℕ}
    (hran : x.db.log.map Execution.autocommit = x.reported)
    (h : ∀ e ∈ x.db.log.drop n, e.autocommit = b → P e) :
    ∀ p ∈ x.history.drop n, p.1 = b → P p.2 := by
  rintro p hp hb
  rw [history_eq hran, ← List.map_drop] at hp
  obtain ⟨e, he, rfl⟩ := List.mem_map.mp hp
  exact h e he hb

section Invariant

variable {pf} {x : Situation} {call : Call} {result : Exec FfiError Unit} {ffi : FfiConnection}
  {db : Database}

/-- The invariant holds after a call that leaves a connection standing, if its event keeps its
promise. -/
theorem invariant_after {flag : Bool}
    (hlog : db.log.map Execution.autocommit =
      x.reported ++ List.replicate (db.log.length - x.db.log.length) x.ffi.autoCommit)
    (hflag : ffi.autoCommit = flag)
    (h : Standing x.reported x.since flag ffi.inner db)
    (hcommitted : ∀ n, eventOf x call result db = some (.committed n) →
      ∀ e ∈ db.log.drop n, e.autocommit = false → Became .durable e)
    (hback : ∀ n, eventOf x call result db = some (.rolledBack n) →
      ∀ e ∈ db.log.drop n, e.autocommit = false → Became .discarded e)
    (hasked : ∀ asked, eventOf x call result db = some (.assigned true asked) → asked = true) :
    Invariant (after x call result ffi db) := by
  subst hflag
  have hsince : (x.since ≤ sinceAfter x (eventOf x call result db) db ∨
      db.log.length ≤ sinceAfter x (eventOf x call result db) db) ∧
      db.settled ≤ sinceAfter x (eventOf x call result db) db := by
    unfold sinceAfter
    split
    · exact ⟨.inr le_rfl, h.tracks.settled_le⟩
    · exact ⟨.inr le_rfl, h.tracks.settled_le⟩
    · exact ⟨.inl (le_max_left _ _), le_max_right _ _⟩
  have hstanding : Standing (after x call result ffi db).reported (after x call result ffi db).since
      ffi.autoCommit ffi.inner db := by
    have hrenewed := h.renew hsince.1
    rw [hlog] at hrenewed
    exact hrenewed
  refine ⟨⟨?_, ?_, ?_, ?_, hasked⟩, hlog, hstanding, hsince.2⟩
  · exact h.tracks.autocommit.symm
  · exact @forall_history (after x call result ffi db) (Became .durable) true 0 hlog h.tracks.durable
  · exact fun n hn => forall_history (x := after x call result ffi db) hlog (hcommitted n hn)
  · exact fun n hn => forall_history (x := after x call result ffi db) hlog (hback n hn)

/-- A call without an event. -/
theorem Invariant.eventless (hx : Invariant x) (hnone : eventOf x call result db = none)
    (hflag : ffi.autoCommit = x.ffi.autoCommit)
    (h : Standing x.reported x.since x.ffi.autoCommit ffi.inner db) :
    Invariant (after x call result ffi db) := by
  refine invariant_after (h.tracks.ran_eq hx.ran) hflag h ?_ ?_ ?_
  all_goals
    intro n hn
    rw [hnone] at hn
    cases hn

/-- What a call leads to is what holds after every behaviour of it. -/
theorem step_of_wp {a : Action} {P : Situation → Prop} (hchoice : ∀ n, a.choice n ∈ allowed)
    (h : wp (Database.server d) allowed (a.call.act pf).run
      (fun result ffi db => P (after x a.call result ffi db)) (fun _ _ => True) x.ffi x.db) :
    P (step pf d x a) := exec_of_wp hchoice h

theorem eventOf_setAutoCommit {enabled : Bool} :
    eventOf x (.setAutoCommit enabled) result db =
      some (.assigned (x.ffi.autoCommit != enabled) (decide (x.db.requests < db.requests))) := rfl

/-- **An assignment keeps the invariant** if the option is not switched on again and a switch to
off is carried out. -/
theorem invariant_setAutoCommit (hx : Invariant x) {enabled : Bool} {choice : ℕ → Choice}
    (hsound : Sound d x ⟨.setAutoCommit enabled, choice⟩) :
    Invariant (step pf d x ⟨.setAutoCommit enabled, choice⟩) := by
  by_cases hsame : x.ffi.autoCommit = enabled
  · refine step_of_wp (fun n => Set.mem_univ _) ?_
    have heta : { x.ffi with autoCommit := enabled } = x.ffi := by rw [← hsame]
    unfold Call.act applyAutoCommit
    dsimp only
    rw [Attempt.run_read_bind, wp_get, Attempt.run_write_bind, wp_put, if_pos hsame, heta]
    have hdiffers : (x.ffi.autoCommit != enabled) = false := by rw [hsame, bne_self_eq_false]
    refine invariant_after (hx.standing.tracks.ran_eq hx.ran) rfl hx.standing (fun n hn => ?_)
      (fun n hn => ?_) (fun asked hn => ?_)
    · cases hn
    · cases hn
    · rw [eventOf_setAutoCommit, hdiffers] at hn
      cases hn
  · cases enabled with
    | true => exact absurd hsound hsame
    | false =>
      have hon : x.ffi.autoCommit = true := by simpa using hsame
      -- Whether there is a connection or not, its requests and the switch are carried out.
      obtain ⟨allowed, hchoice, hcarried, hdial⟩ : ∃ allowed : Set Choice,
          (∀ n, choice n ∈ allowed) ∧ (∀ w ∈ allowed, CarriedOut w) ∧
            (x.ffi.inner = none → hasTransport x.ffi.params = true ∧ AllAccepted allowed) := by
        rcases hsound hon with ⟨hsome, hcarried⟩ | ⟨htransport, haccepted⟩
        · refine ⟨{ w | CarriedOut w }, hcarried, fun w hw => hw, fun hnone => ?_⟩
          rw [hnone] at hsome
          cases hsome
        · exact ⟨{ w | w.fate = .accepted }, haccepted, fun w hw => .inl hw, fun _ =>
            ⟨htransport, fun w hw => hw⟩⟩
      refine step_of_wp hchoice ?_
      unfold Call.act applyAutoCommit openTransaction
      dsimp only
      rw [Attempt.run_read_bind, wp_get, Attempt.run_write_bind, wp_put, if_neg hsame,
        if_neg Bool.false_ne_true]
      refine wp_onConnection (fun conn db hstart => ?_) fun e db hnone _ hnot =>
        absurd (hdial hnone) hnot
      obtain ⟨hlog, -, hrequests⟩ := hstart.unchanged
      obtain ⟨active, hkept, hactive⟩ := hx.standing.startsFrom hstart
      rw [hon] at hkept hactive
      have hidle : active = false := by
        cases active with
        | false => rfl
        | true => exact hactive rfl
      subst hidle
      have hran : db.log.map Execution.autocommit = x.reported := by rw [hlog, hx.ran]
      refine wp_mono (fun r conn' db' h => ?_) (fun _ _ _ => trivial) (wp_begin hcarried hkept hran)
      obtain ⟨⟨active', hkept'⟩, hlog', hlt⟩ := h
      have hsame' : db'.log.map Execution.autocommit = x.reported ++
          List.replicate (db'.log.length - x.db.log.length) x.ffi.autoCommit := by
        rw [hlog', hran, hlog, Nat.sub_self, List.replicate_zero, List.append_nil]
      refine invariant_after hsame' rfl (.of_kept hkept' fun _ => rfl) (fun n hn => ?_)
        (fun n hn => ?_) (fun asked hn => ?_)
      · cases hn
      · cases hn
      · rw [eventOf_setAutoCommit] at hn
        rw [← (Event.assigned.inj (Option.some.inj hn)).2]
        exact decide_eq_true (lt_of_le_of_lt hrequests hlt)

/-- **A command keeps the invariant** if it runs with the option on or in a transaction. -/
theorem invariant_statement (hx : Invariant x) {c : Connection.Call} {hc : Transactions.IsCommand c}
    {choice : ℕ → Choice} (hsound : Sound d x ⟨.statement c hc, choice⟩) :
    Invariant (step pf d x ⟨.statement c hc, choice⟩) := by
  refine step_of_wp (fun n => Set.mem_univ _) ?_
  refine wp_onConnection (fun conn db hstart => ?_) fun e db hnone hdial _ => ?_
  · obtain ⟨active, hkept, hactive⟩ := hx.standing.startsFrom hstart
    have hguard (hruns : Transactions.RunsCommand d c) :
        x.ffi.autoCommit = true ∨ active = true := by
      rcases hsound hruns with hon | ⟨conn', hinner, hin⟩
      · exact .inl hon
      · rcases hstart with ⟨hsome, -⟩ | ⟨hnone, -⟩
        · rw [hinner] at hsome
          cases hsome
          exact .inr (hkept.inTransaction.symm.trans hin)
        · rw [hinner] at hnone
          cases hnone
    refine wp_mono (fun r conn' db' hkept' => ?_) (fun _ _ _ => trivial)
      (keeps_command hc hguard conn db hkept)
    exact hx.eventless rfl rfl (.of_kept hkept' hactive)
  · refine hx.eventless rfl rfl ?_
    have hstanding := hx.standing
    rw [hnone] at hstanding ⊢
    exact hstanding.dialled hdial

/-- **The end of a transaction keeps the invariant**, whatever becomes of its requests. -/
theorem invariant_end (hx : Invariant x) {command message : String} {c : TransactionControl}
    {o : Status} {f : Session → Except ConnectionError Session}
    (hplain : scanPlaceholders command.toList = []) (hcontrol : d.control command = some c)
    (ho : o ≠ .pending) (hsettle : ∀ db : Database, db.runText d command = db.settle o)
    (hf : ∀ s : Session, s.inTransaction = true →
      f s = .ok { s with inTransaction := false, state := .ready })
    {a : Action} (ha : a.call.act pf = do
      requireManual message
      onConnection (endTransaction pf command f))
    (hfails : ∀ e db, eventOf x a.call (.error e) db = none)
    (hends : ∀ db, eventOf x a.call (.ok ()) db = some (.committed x.since) ∧ o = .durable ∨
      eventOf x a.call (.ok ()) db = some (.rolledBack x.since) ∧ o = .discarded) :
    Invariant (step pf d x a) := by
  refine step_of_wp (fun n => Set.mem_univ _) ?_
  rw [ha]
  unfold requireManual
  rw [bind_assoc, Attempt.run_read_bind, wp_get]
  cases hflag : x.ffi.autoCommit with
  | true => exact hx.eventless (hfails _ _) rfl hx.standing
  | false =>
    refine wp_onConnection (fun conn db hstart => ?_) fun e db hnone _ _ => ?_
    · obtain ⟨active, hkept, hactive⟩ := hx.standing.startsFrom hstart
      refine wp_mono (fun r conn' db' h => ?_) (fun _ _ _ => trivial)
        (wp_end hplain hcontrol ho hsettle hf hkept)
      obtain ⟨⟨active', hkept'⟩, hok⟩ := h
      have hstanding : Standing x.reported x.since x.ffi.autoCommit (some conn') db' :=
        .of_kept hkept' fun _ => hflag
      cases r with
      | error e =>
        cases e with
        | error e => exact hx.eventless (hfails _ _) rfl hstanding
        | panic => exact hx.eventless (hfails _ _) rfl hstanding
      | ok _ =>
        have hsince : max x.since db.settled = x.since := by
          rw [hstart.unchanged.2.1]
          exact max_eq_left hx.settled
        have hbecame := (hok rfl).2
        rw [hsince] at hbecame
        have hlog := hkept'.tracks.ran_eq hx.ran
        refine invariant_after hlog rfl hstanding ?_ ?_ ?_
        · rintro n (hn : eventOf x a.call (.ok ()) db' = _)
          rcases hends db' with ⟨hevent, rfl⟩ | ⟨hevent, -⟩ <;> rw [hevent] at hn <;> cases hn
          exact hbecame
        · rintro n (hn : eventOf x a.call (.ok ()) db' = _)
          rcases hends db' with ⟨hevent, -⟩ | ⟨hevent, rfl⟩ <;> rw [hevent] at hn <;> cases hn
          exact hbecame
        · rintro asked (hn : eventOf x a.call (.ok ()) db' = _)
          rcases hends db' with ⟨hevent, -⟩ | ⟨hevent, -⟩ <;> rw [hevent] at hn <;> cases hn
    · have hon := (hx.standing.unconnected hnone).1
      rw [hflag] at hon
      cases hon

/-- **A call that does no harm keeps the invariant.** -/
theorem invariant_step (x : Situation) (a : Action) (hx : Invariant x) (ha : Sound d x a) :
    Invariant (step pf d x a) := by
  obtain ⟨call, choice⟩ := a
  cases call with
  | setAutoCommit enabled => exact invariant_setAutoCommit hx ha
  | statement c hc => exact invariant_statement hx ha
  | commit =>
    exact invariant_end hx Transactions.plain_commit d.control_commit (by decide)
      Transactions.runText_commit Transactions.commitTransaction_of_active rfl (fun _ _ => rfl)
      fun _ => .inl ⟨rfl, rfl⟩
  | rollback =>
    exact invariant_end hx Transactions.plain_rollback d.control_rollback (by decide)
      Transactions.runText_rollback Transactions.rollbackTransaction_of_active rfl (fun _ _ => rfl)
      fun _ => .inr ⟨rfl, rfl⟩

end Invariant

/-- Before the first call. -/
def start (params : ConnectionParams) : Situation where
  ffi := { params := params }

theorem invariant_start (params : ConnectionParams) : Invariant (start params) where
  upheld := ⟨rfl, fun p hp => (nomatch hp), fun n hn => (nomatch hn), fun n hn => (nomatch hn),
    fun asked ha => (nomatch ha)⟩
  ran := rfl
  standing := by
    have htracks : Tracks [] 0 true {} :=
      ⟨rfl, ⟨0, rfl⟩, fun e he => (nomatch he), fun e he => (nomatch he), le_rfl⟩
    exact ⟨htracks, fun _ => ⟨rfl, rfl⟩, fun conn hconn => (nomatch hconn)⟩
  settled := le_rfl

/-- **The option says what becomes of the commands** along every run of calls that do no harm,
whatever the network does to the others. -/
theorem always_upheld_of_sound (params : ConnectionParams) (run : List Action)
    (h : Runs.EachStep (step pf d) (Sound d) (start params) run) :
    Runs.Always (step pf d) Upheld (start params) run :=
  (Runs.always_of_eachStep invariant_step (invariant_start params) h).mono fun _ hx => hx.upheld

/-! ### A rollback whose answer is lost -/

/-- A request is accepted. -/
def accepted : Choice := ⟨.accepted, Transactions.oneRow⟩

/-- The option is switched off, a command runs, the answer to the rollback is lost, and a second
rollback is answered. -/
def lostRollback : List Action :=
  [⟨.setAutoCommit false, fun _ => accepted⟩,
    ⟨.statement (.execute (.new "INSERT INTO T VALUES (1)")) trivial, fun _ => accepted⟩,
    ⟨.rollback, fun _ => ⟨.lost (.ioError "timed out"), Transactions.oneRow⟩⟩,
    ⟨.rollback, fun _ => accepted⟩]

theorem lostRollback_upheld :
    Runs.Always (step checkedPlatform Transactions.plainDialect) Upheld
      (start Transactions.plainParams) lostRollback := by
  refine always_upheld_of_sound checkedPlatform Transactions.plainParams lostRollback ?_
  refine ⟨fun _ => .inr ⟨rfl, fun _ => rfl⟩, fun _ => .inr ⟨_, rfl, rfl⟩, trivial, trivial, trivial⟩

end AutoCommit

end Exarrow.Ffi
