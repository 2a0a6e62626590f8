import Exarrow.Ffi.Statement
import Exarrow.Foundations.Runs

/-!
# Delivery of bound batches

What should hold in every state of a run of a statement is
`Exarrow.Ffi.FfiStatement.Delivered`: no batch is executed by two calls, what is executed of a batch
are its first rows in their order, all of them if the call succeeds, and every execution names a
statement that the server has prepared for the text.

**It holds along every run of calls**, whatever the server answers
(`Exarrow.Ffi.FfiStatement.always_delivered`). Each call serves the batch that it uses and no other
(`Exarrow.Ffi.FfiStatement.ends_act`); the invariant that joins the calls says that the batch that
is bound has not been used yet, and that the prepared statement is the one of the text.
-/

namespace Exarrow.Ffi.FfiStatement

open Machine Checked Client Connection Arrow

/-! ### What is sent -/

/-- A request that has been sent, and its answer. -/
structure Sent where
  request : Request
  answer : Answer request

/-- A server of which nothing is known: the answers are chosen by the environment, and the requests
are written down. -/
def recorder : Server (List Sent) Request Answer ((r : Request) → Answer r) where
  step trace r answer := (answer r, trace ++ [⟨r, answer r⟩])

/-- An execution of a prepared statement, with its parameters column by column. -/
abbrev Executed : Type := PreparedStatementHandle × Option (List (List Json.Value))

/-- The execution that a request asks for. -/
def Sent.executed (s : Sent) : Option Executed :=
  match s.request with
  | .executePreparedStatement handle parameters => some (handle, parameters)
  | _ => none

/-- The executions among some requests. -/
def executions (trace : List Sent) : List Executed := trace.filterMap Sent.executed

/-- The rows that an execution takes; without parameters it is a single row. -/
def rowsOf : Option (List (List Json.Value)) → List (List Json.Value)
  | none | some [] => [[]]
  | some (column :: columns) =>
    (List.range column.length).map fun r =>
      (column :: columns).map fun cells => cells[r]?.getD .null

/-! ### Runs -/

/-- A call of a run. -/
inductive Call where
  | setSqlQuery (query : String)
  | setOption (key : String) (value : OptionValue)
  | bind (batch : RecordBatch)
  | bindStream (batches : List (Except ArrowError RecordBatch))
  | prepare
  | execute
  | executeUpdate
  | executeSchema

section Runs

variable (pf : Platform) (lib : Import.FormatterLibrary) (showOption : ShowsOption)

/-- What a call does, its result left out. -/
def Call.act : Call → StatementAct Unit
  | setSqlQuery query => FfiStatement.setSqlQuery query
  | setOption key value => FfiStatement.setOption key value
  | bind batch => FfiStatement.bind batch
  | bindStream batches => FfiStatement.bindStream batches
  | prepare => FfiStatement.prepare
  | execute => do let _ ← FfiStatement.execute pf lib showOption
  | executeUpdate => do let _ ← FfiStatement.executeUpdate pf lib showOption
  | executeSchema => do let _ ← FfiStatement.executeSchema

/-- A call, the connection as it is found at each lock, what becomes of the data of an ingestion,
and the answers of the server. -/
structure Action where
  call : Call
  found : ℕ → Connection
  passage : Passage
  answers : ℕ → (r : Request) → Answer r

/-- A batch of which a call has made use: the text it was executed with, none for an ingestion; the
executions, and whether the call has succeeded. -/
structure Use where
  batch : RecordBatch
  sql : Option String
  executed : List Executed
  succeeded : Bool

/-- The batch that a call binds. -/
def Call.binds : Call → Option RecordBatch
  | bind batch => some batch
  | bindStream batches => ((combined batches).toOption).join
  | _ => none

/-- The batch that is used when the statement is run, and the text it is executed with. An ingestion
whose target is not known leaves the batch alone. -/
def runUse (stmt : FfiStatement) : Option (RecordBatch × Option String) :=
  if stmt.isBulkIngest then
    match ingestTarget stmt.ingestOptions with
    | .ok _ => stmt.boundData.map fun batch => (batch, none)
    | .error _ => none
  else stmt.sql.bind fun sql => stmt.boundData.map fun batch => (batch, some sql)

/-- The batch of which a call makes use. -/
def Call.uses (stmt : FfiStatement) : Call → Option (RecordBatch × Option String)
  | execute | executeUpdate => stmt.runUse
  | _ => none

/-- A state of a run: the statement, what has been sent, the batches that have been bound, and the
uses that have been made of them. -/
structure Situation where
  stmt : FfiStatement := {}
  trace : List Sent := []
  bound : List RecordBatch := []
  uses : List Use := []

/-- The situation after a call. -/
def after (x : Situation) (call : Call) (result : Exec StatementError Unit) (stmt : FfiStatement)
    (trace : List Sent) : Situation where
  stmt := stmt
  trace := trace
  bound := x.bound ++ call.binds.toList
  uses := x.uses ++ (call.uses x.stmt).toList.map fun use =>
    { batch := use.1
      sql := use.2
      executed := executions (trace.drop x.trace.length)
      succeeded := result.isOk }

/-- One call. -/
def step (x : Situation) (a : Action) : Situation :=
  let (result, work, trace) :=
    exec recorder (a.call.act pf lib showOption).run a.answers ⟨x.stmt, a.found, a.passage⟩ x.trace
  after x a.call result work.stmt trace

/-- The rows of a batch as they are to be sent; none if there is a value that cannot be. -/
def jsonRows (batch : RecordBatch) : List (List Json.Value) :=
  match boundRows pf.overflow lib.chrono batch with
  | .ok rows => rows.map (List.map parameterToJson)
  | .error _ => []

/-- **What is executed of a batch**: its first rows in their order, in a single execution or one
after the other, and all of them if the call succeeds; nothing in an ingestion. -/
def Use.InOrder (use : Use) : Prop :=
  ∃ pieces : List (List (List Json.Value)),
    (use.sql = none → pieces = []) ∧
    (use.sql.isSome → pieces.flatten = jsonRows pf lib use.batch) ∧
    (pieces.length ≤ 1 ∨ ∀ piece ∈ pieces, piece.length = 1) ∧
    (∀ piece ∈ pieces, piece ≠ []) ∧
    use.executed.map (fun e => rowsOf e.2) <+: pieces ∧
    (use.succeeded = true → use.executed.map (fun e => rowsOf e.2) = pieces)

/-- What should hold in every state. -/
structure Delivered (x : Situation) : Prop where
  /-- No batch is used twice, and they are used in the order in which they were bound. -/
  once : (x.uses.map Use.batch).Sublist x.bound
  /-- Nothing else is executed. -/
  only : executions x.trace = x.uses.flatMap Use.executed
  /-- The rows of a batch are executed in their order. -/
  inOrder : ∀ use ∈ x.uses, use.InOrder pf lib
  /-- They are executed by a statement that the server has prepared for the text. -/
  prepared : ∀ use ∈ x.uses, ∀ e ∈ use.executed, ∃ sql, use.sql = some sql ∧
    ⟨.createPreparedStatement sql, .ok e.1⟩ ∈ x.trace

end Runs

/-! ### Requests that execute no prepared statement -/

section Quiet

variable {σ α β ε : Type} {pf : Platform}

@[simp] theorem executions_append (t t' : List Sent) :
    executions (t ++ t') = executions t ++ executions t' := List.filterMap_append

/-- Requests have been added that ask for the given executions. -/
def Extends (t : List Sent) (runs : List Executed) (t' : List Sent) : Prop :=
  ∃ sent, t' = t ++ sent ∧ executions sent = runs

theorem Extends.refl (t : List Sent) : Extends t [] t := ⟨[], (List.append_nil t).symm, rfl⟩

theorem Extends.trans {t t' t'' : List Sent} {runs runs' : List Executed} (h : Extends t runs t')
    (h' : Extends t' runs' t'') : Extends t (runs ++ runs') t'' := by
  obtain ⟨sent, rfl, rfl⟩ := h
  obtain ⟨sent', rfl, rfl⟩ := h'
  exact ⟨sent ++ sent', List.append_assoc _ _ _, executions_append _ _⟩

theorem Extends.subset {t t' : List Sent} {runs : List Executed} (h : Extends t runs t') :
    t ⊆ t' := by
  obtain ⟨sent, rfl, -⟩ := h
  exact List.subset_append_left _ _

theorem Extends.executions_eq {t t' : List Sent} {runs : List Executed} (h : Extends t runs t') :
    executions t' = executions t ++ runs := by
  obtain ⟨sent, rfl, rfl⟩ := h
  exact executions_append _ _

theorem Extends.drop_eq {t t' : List Sent} {runs : List Executed} (h : Extends t runs t') :
    executions (t'.drop t.length) = runs := by
  obtain ⟨sent, rfl, rfl⟩ := h
  rw [List.drop_left]

/-- What a program ends in, whatever the server answers. -/
abbrev Ends (p : Prog σ Request Answer α) (post : α → σ → List Sent → Prop) (s : σ)
    (t : List Sent) : Prop :=
  wp recorder Set.univ p post (fun _ _ => True) s t

/-- The program executes no prepared statement. -/
def Quiet (p : Prog σ Request Answer α) : Prop :=
  ∀ t, Keeps recorder Set.univ (fun _ t' => Extends t [] t') p

theorem Quiet.ends {p : Prog σ Request Answer α} (h : Quiet p) (s : σ) (t : List Sent) :
    Ends p (fun _ _ t' => Extends t [] t') s t :=
  wp_mono (fun _ _ _ h => h) (fun _ _ _ => trivial) (h t s t (.refl t))

theorem quiet_done (a : α) : Quiet (.done a : Prog σ Request Answer α) := fun _ => keeps_done a

theorem quiet_of (r : Except ε α) : Quiet (Attempt.of r : Attempt σ Request Answer ε α).run :=
  quiet_done r

theorem quiet_bind {p : Attempt σ Request Answer ε α} {f : α → Attempt σ Request Answer ε β}
    (hp : Quiet p.run) (hf : ∀ a, Quiet (f a).run) : Quiet (p >>= f).run :=
  fun t => keeps_bind (hp t) fun a => hf a t

theorem quiet_read_bind {f : σ → Attempt σ Request Answer ε α} (h : ∀ s, Quiet (f s).run) :
    Quiet (Attempt.read >>= f).run := fun t => keeps_read_bind fun s => h s t

theorem quiet_write (s : σ) : Quiet (Attempt.write s : Attempt σ Request Answer ε Unit).run :=
  fun _ _ _ h => h

theorem quiet_ask {r : Request} {g : Answer r → Except ε α}
    (hr : ∀ a, Sent.executed ⟨r, a⟩ = none) :
    Quiet (Attempt.ask r g : Attempt σ Request Answer ε α).run :=
  fun _ => keeps_ask fun _ _ w _ h => h.trans ⟨[⟨r, w r⟩], rfl, by
    rw [executions, List.filterMap_cons_none (hr (w r)), List.filterMap_nil]⟩

theorem quiet_updateSession (f : Session → Session) : Quiet (updateSession f).run :=
  quiet_read_bind fun _ => quiet_write _

theorem quiet_ready : Quiet ready.run := quiet_read_bind fun _ => quiet_of _

theorem quiet_executeStatement (stmt : Statement) : Quiet (executeStatement pf stmt).run := by
  refine quiet_bind quiet_ready fun _ => quiet_bind (quiet_updateSession _) fun _ => ?_
  refine quiet_bind (quiet_of _) fun sql => quiet_read_bind fun conn => ?_
  refine quiet_bind ?_ fun _ => quiet_bind (quiet_ask fun _ => rfl) fun _ => ?_
  · unfold reconcile
    split
    · exact quiet_ask fun _ => rfl
    · exact quiet_done _
  · refine quiet_bind ?_ fun _ => quiet_bind (quiet_of _) fun _ => quiet_of _
    unfold recordTimeout
    split
    · exact quiet_updateSession _
    · exact quiet_done _

theorem quiet_executeUpdate (sql : String) : Quiet (Connection.executeUpdate pf sql).run :=
  quiet_read_bind fun _ => quiet_bind (quiet_executeStatement _) fun _ => quiet_of _

theorem quiet_fetchAll (r : ResultSetInner) : Quiet (fetchAll r).run := by
  cases r with
  | rowCount count => exact quiet_of _
  | stream s =>
    refine quiet_bind ?_ fun _ => quiet_bind ?_ fun _ => quiet_of _
    · unfold pagination
      split
      · exact quiet_ask fun _ => rfl
      · exact quiet_done _
    · unfold closeResultSet
      split
      · exact quiet_ask fun _ => rfl
      · exact quiet_done _

theorem quiet_query (sql : String) : Quiet (Connection.query pf sql).run :=
  quiet_bind (quiet_read_bind fun _ => quiet_executeStatement _) quiet_fetchAll

/-- A lock is verified on what is done under it, whatever the connection is. -/
theorem wp_locked {act : Act α} {finish : Exec QueryError α → Exec StatementError β}
    {post : Exec StatementError β → Work → List Sent → Prop} {work : Work} {t : List Sent}
    (h : ∀ conn found, Ends act.run
      (fun r _ t' => post (finish r) { work with found := found } t') conn t) :
    Ends (locked act finish).run post work t := by
  unfold locked
  rw [Ends, Attempt.run_read_bind, wp_get, Attempt.run_write_bind, wp_put]
  exact wp_bind.mpr (wp_isolate.mpr (h _ _))

end Quiet

/-! ### Executions one after the other -/

section Bound

variable {σ α β : Type} {pf : Platform} {prepared : PreparedStatement} {t t' : List Sent}

/-- A program that executes nothing is followed by another one. -/
theorem ends_quiet_bind {ε : Type} {p : Attempt σ Request Answer ε α}
    {f : α → Attempt σ Request Answer ε β} {post : Except ε β → σ → List Sent → Prop} {s : σ}
    (hp : Quiet p.run) (hok : ∀ a s' t', Extends t [] t' → Ends (f a).run post s' t')
    (herr : ∀ e s' t', Extends t [] t' → post (.error e) s' t') :
    Ends (p >>= f).run post s t := by
  rw [Ends, wp_attempt_bind]
  refine wp_mono (fun r s' t' h => ?_) (fun _ _ h => h) (hp.ends s t)
  cases r with
  | ok a => exact hok a s' t' h
  | error e => exact herr e s' t' h

/-- The rows have been executed with the prepared statement. -/
def Executes (prepared : PreparedStatement) (t : List Sent) (rows : List (List Parameter))
    (t' : List Sent) : Prop :=
  ∃ data, prepared.buildBatchParametersData rows = .ok data ∧
    Extends t [(prepared.handle, data)] t'

/-- What an execution comes to: rows that have been executed, or an error. -/
abbrev Tried (prepared : PreparedStatement) (t : List Sent) (rows : List (List Parameter))
    (r : Exec QueryError α) (t' : List Sent) : Prop :=
  (∃ e, r = .error e) ∧ Extends t [] t' ∨ Executes prepared t rows t'

theorem ends_runPrepared {counted : Bool} {rows : List (List Parameter)}
    {finish : QueryResult → Exec QueryError α} (conn : Connection) (t : List Sent) :
    Ends (runPrepared counted prepared (prepared.buildBatchParametersData rows) finish).run
      (fun r _ t' => Tried prepared t rows r t') conn t := by
  refine ends_quiet_bind (quiet_of _) (fun _ conn t₁ h₁ => ?_) fun e _ _ h => .inl ⟨⟨e, rfl⟩, h⟩
  refine ends_quiet_bind quiet_ready (fun _ conn t₂ h₂ => ?_)
    fun e _ _ h => .inl ⟨⟨e, rfl⟩, h₁.trans h⟩
  refine ends_quiet_bind (quiet_updateSession _) (fun _ conn t₃ h₃ => ?_)
    fun e _ _ h => .inl ⟨⟨e, rfl⟩, (h₁.trans h₂).trans h⟩
  have hquiet : Extends t [] t₃ := (h₁.trans h₂).trans h₃
  refine wp_of_bind (fun data hdata => ?_) fun e _ => .inl ⟨⟨e, rfl⟩, hquiet⟩
  refine wp_ask_bind trivial fun answer _ => ⟨trivial, ?_⟩
  have hran : Executes prepared t rows
      (t₃ ++ [⟨.executePreparedStatement prepared.handle data, answer _⟩]) :=
    ⟨data, ofExcept_eq_ok.mp hdata, hquiet.trans ⟨_, rfl, rfl⟩⟩
  exact wp_of_bind (fun _ _ => .inr hran) fun _ _ => .inr hran

/-- What follows an execution and executes nothing itself. -/
theorem ends_tried_bind {rows : List (List Parameter)} {p : Act α} {f : α → Act β}
    {conn : Connection} (hp : Ends p.run (fun r _ t' => Tried prepared t rows r t') conn t)
    (hf : ∀ a, Quiet (f a).run) :
    Ends (p >>= f).run (fun r _ t' => Tried prepared t rows r t') conn t := by
  rw [Ends, wp_attempt_bind]
  refine wp_mono (fun r conn t₁ h => ?_) (fun _ _ h => h) hp
  rcases h with ⟨⟨e, rfl⟩, h⟩ | ⟨data, hdata, h⟩
  · exact .inl ⟨⟨e, rfl⟩, h⟩
  · cases r with
    | error e => exact .inr ⟨data, hdata, h⟩
    | ok a =>
      exact wp_mono (fun _ _ _ h' => .inr ⟨data, hdata, h.trans h'⟩) (fun _ _ h => h)
        ((hf a).ends conn t₁)

/-- **Executions one after the other**: those that are tried are the first ones, and all of them if
there is no error. -/
theorem ends_foldlM {run : β → List (List Parameter) → Act β}
    (hrun : ∀ acc rows conn t,
      Ends (run acc rows).run (fun r _ t' => Tried prepared t rows r t') conn t)
    (pieces : List (List (List Parameter))) (acc : β) (conn : Connection) (t : List Sent) :
    Ends (pieces.foldlM run acc).run (fun r _ t' => ∃ first runs, first <+: pieces ∧
      List.Forall₂ (fun rows (e : Executed) => e.1 = prepared.handle ∧
        prepared.buildBatchParametersData rows = .ok e.2) first runs ∧
      Extends t runs t' ∧ (r.isOk = true → first = pieces)) conn t := by
  induction pieces generalizing acc conn t with
  | nil => exact ⟨[], [], List.prefix_rfl, .nil, .refl t, fun _ => rfl⟩
  | cons rows pieces ih =>
    rw [List.foldlM_cons, Ends, wp_attempt_bind]
    refine wp_mono (fun r conn t₁ h => ?_) (fun _ _ h => h) (hrun acc rows conn t)
    rcases h with ⟨⟨e, rfl⟩, h⟩ | ⟨data, hdata, h⟩
    · exact ⟨[], [], List.nil_prefix, .nil, h, fun hok => by cases hok⟩
    · cases r with
      | error e =>
        exact ⟨[rows], [(prepared.handle, data)], ⟨pieces, rfl⟩, .cons ⟨rfl, hdata⟩ .nil, h,
          fun hok => by cases hok⟩
      | ok acc' =>
        refine wp_mono (fun r' _ t₂ h' => ?_) (fun _ _ h => h) (ih acc' conn t₁)
        obtain ⟨first, runs, hfirst, hruns, hext, hall⟩ := h'
        exact ⟨rows :: first, (prepared.handle, data) :: runs,
          List.cons_prefix_cons.mpr ⟨rfl, hfirst⟩, .cons ⟨rfl, hdata⟩ hruns, h.trans hext,
          fun hok => congrArg _ (hall hok)⟩

/-! ### The rows of executions -/

/-- **The rows of an execution are those that were put into columns.** -/
theorem rowsOf_of_build {rows : List (List Parameter)} {data : Option (List (List Json.Value))}
    (hne : rows ≠ []) (hempty : rows.head? = some [] → rows.length = 1)
    (h : prepared.buildBatchParametersData rows = .ok data) :
    rowsOf data = rows.map (List.map parameterToJson) := by
  obtain ⟨hnil, -⟩ | ⟨-, hlen, rfl⟩ := PreparedStatement.buildBatchParametersData_eq_ok h
  · exact absurd hnil hne
  cases hcount : prepared.parameterCount with
  | zero =>
    -- Without parameters there is a single row.
    obtain ⟨row, rest, rfl⟩ := List.exists_cons_of_ne_nil hne
    have hrow : row = [] := List.length_eq_zero_iff.mp
      ((hlen row (List.mem_cons_self ..)).trans hcount)
    subst hrow
    have hrest : rest = [] := by simpa using hempty rfl
    subst hrest
    rfl
  | succ n =>
    rw [List.range_succ_eq_map, List.map_cons, rowsOf, List.length_map]
    refine List.ext_getElem (by simp) fun r hr hr' => ?_
    have hr'' : r < rows.length := by simpa using hr'
    have hwidth : (rows[r]).length = n + 1 := (hlen _ (List.getElem_mem _)).trans hcount
    refine List.ext_getElem (by simp [hwidth]) fun c hc hc' => ?_
    have hc'' : c < n + 1 := by simpa [hwidth] using hc'
    cases c with
    | zero => simp [hr'', hwidth]
    | succ c => simp [hr'', hwidth, hc'']

theorem flatten_executionsOf {rows : List (List Parameter)} :
    (executionsOf prepared rows).flatten = rows := by
  unfold executionsOf
  split
  · rw [← List.flatMap_def, List.flatMap_singleton']
  · exact List.append_nil rows

/-- **Each execution takes rows**, and one row at most if rows have no values. -/
theorem of_mem_executionsOf {rows piece : List (List Parameter)} (hne : rows ≠ [])
    (h : piece ∈ executionsOf prepared rows) :
    piece ≠ [] ∧ (piece.head? = some [] → piece.length = 1) := by
  unfold executionsOf at h
  split at h
  · obtain ⟨row, -, rfl⟩ := List.mem_map.mp h
    exact ⟨List.cons_ne_nil _ _, fun _ => rfl⟩
  · rename_i hruns
    rw [List.mem_singleton] at h
    subst h
    refine ⟨hne, fun hhead => absurd ?_ hruns⟩
    rw [runsPerRow, hhead]
    exact Bool.or_true _

theorem length_executionsOf (rows : List (List Parameter)) :
    (executionsOf prepared rows).length ≤ 1 ∨
      ∀ piece ∈ executionsOf prepared rows, piece.length = 1 := by
  unfold executionsOf
  split
  · refine .inr fun piece h => ?_
    obtain ⟨row, -, rfl⟩ := List.mem_map.mp h
    rfl
  · exact .inl le_rfl

end Bound

/-! ### What a call does -/

section Calls

variable {α β : Type} {pf : Platform} {lib : Import.FormatterLibrary} {showOption : ShowsOption}
  {stmt : FfiStatement} {work : Work} {t t' : List Sent}

/-- The prepared statement has been made by the server for the text. -/
def Known (stmt : FfiStatement) (t : List Sent) : Prop :=
  ∀ p, stmt.prepared = some p → ∃ sql, stmt.sql = some sql ∧
    ⟨.createPreparedStatement sql, .ok p.handle⟩ ∈ t

theorem Known.mono (h : Known stmt t) (ht : t ⊆ t') : Known stmt t' := fun p hp => by
  obtain ⟨sql, hsql, hmem⟩ := h p hp
  exact ⟨sql, hsql, ht hmem⟩

/-- At most the prepared statement has changed, which is that of the text. -/
structure Prepares (stmt : FfiStatement) (t : List Sent) (stmt' : FfiStatement) (t' : List Sent) :
    Prop where
  quiet : Extends t [] t'
  same : ∃ prepared, stmt' = { stmt with prepared := prepared }
  known : Known stmt' t'

theorem ends_connectionPrepare (sql : String) (conn : Connection) (t : List Sent) :
    Ends (Connection.prepare sql).run (fun r _ t' => Extends t [] t' ∧
      ∀ p, r = .ok p → ⟨.createPreparedStatement sql, .ok p.handle⟩ ∈ t') conn t := by
  unfold Connection.prepare
  refine ends_quiet_bind quiet_ready (fun _ conn t₁ h₁ => ?_)
    fun e _ t₁ h₁ => ⟨h₁, fun p hp => nomatch hp⟩
  refine wp_ask_bind trivial fun answer _ => ⟨trivial, ?_⟩
  have hext : Extends t [] (t₁ ++ [⟨.createPreparedStatement sql, answer _⟩]) :=
    h₁.trans ⟨_, rfl, rfl⟩
  refine wp_of_bind (fun handle hhandle => ⟨hext, fun p hp => ?_⟩)
    fun e _ => ⟨hext, fun p hp => nomatch hp⟩
  cases hp
  have hanswer : answer (.createPreparedStatement sql) = .ok handle :=
    ofExcept_eq_ok.mp (mapError_eq_ok.mp hhandle)
  refine List.mem_append_right _ (List.mem_singleton.mpr ?_)
  rw [hanswer]
  rfl

theorem ends_prepare (h : Known work.stmt t) :
    Ends prepare.run (fun _ work' t' => Prepares work.stmt t work'.stmt t') work t := by
  have hsame {t' : List Sent} (hext : Extends t [] t') : Prepares work.stmt t work.stmt t' :=
    ⟨hext, ⟨_, rfl⟩, h.mono hext.subset⟩
  unfold prepare
  rw [Ends, Attempt.run_read_bind, wp_get]
  refine wp_of_bind (fun sql hsql => ?_) fun _ _ => hsame (.refl t)
  have htext : work.stmt.sql = some sql := by
    unfold requireSql at hsql
    cases hs : work.stmt.sql with
    | none =>
      rw [hs] at hsql
      cases hsql
    | some text =>
      rw [hs] at hsql
      cases hsql
      rfl
  rw [wp_attempt_bind]
  refine wp_locked fun conn found => ?_
  refine wp_mono (fun r conn' t₁ h₁ => ?_) (fun _ _ h => h) (ends_connectionPrepare sql conn t)
  obtain ⟨hext, hmem⟩ := h₁
  cases r with
  | ok p =>
    refine ⟨hext, ⟨some p, rfl⟩, fun p' hp' => ⟨sql, htext, ?_⟩⟩
    cases hp'
    exact hmem p rfl
  | error e => cases e <;> exact hsame hext

theorem ends_preparedWithConnection (h : Known work.stmt t) :
    Ends preparedWithConnection.run (fun r work' t' => Prepares work.stmt t work'.stmt t' ∧
      ∀ p, r = .ok p → work'.stmt.prepared = some p) work t := by
  have hlast {work' : Work} {t' : List Sent} (h' : Prepares work.stmt t work'.stmt t') :
      Ends (Attempt.read >>= fun work : Work => Attempt.of
        (orFail (.adbc ⟨.text "Failed to prepare statement", .invalidState⟩)
          work.stmt.prepared) : StatementAct PreparedStatement).run
        (fun r work' t' => Prepares work.stmt t work'.stmt t' ∧
          ∀ p, r = .ok p → work'.stmt.prepared = some p) work' t' := by
    refine ⟨h', fun p hp => ?_⟩
    cases hprepared : work'.stmt.prepared with
    | none =>
      rw [hprepared] at hp
      cases hp
    | some p' =>
      rw [hprepared] at hp
      cases hp
      rfl
  unfold preparedWithConnection
  rw [Ends, Attempt.run_read_bind, wp_get]
  split
  · rw [wp_attempt_bind]
    refine wp_mono (fun r work' t' h' => ?_) (fun _ _ h => h) (ends_prepare h)
    cases r with
    | ok _ => exact hlast h'
    | error e => exact ⟨h', fun p hp => nomatch hp⟩
  · exact hlast ⟨.refl t, ⟨_, rfl⟩, h⟩

/-- What a call does with a batch, if it makes use of one. -/
def Serves (pf : Platform) (lib : Import.FormatterLibrary)
    (use : Option (RecordBatch × Option String)) (t : List Sent) (succeeded : Bool)
    (t' : List Sent) : Prop :=
  ∃ runs, Extends t runs t' ∧ match use with
    | none => runs = []
    | some (batch, sql) => Use.InOrder pf lib ⟨batch, sql, runs, succeeded⟩ ∧
      ∀ e ∈ runs, ∃ text, sql = some text ∧ ⟨.createPreparedStatement text, .ok e.1⟩ ∈ t'

/-- Nothing is executed of a batch without rows, and in an ingestion. -/
theorem inOrder_nil {batch : RecordBatch} {sql : Option String} {succeeded : Bool}
    (h : sql.isSome → jsonRows pf lib batch = []) :
    Use.InOrder pf lib ⟨batch, sql, [], succeeded⟩ :=
  ⟨[], fun _ => rfl, fun hsql => (h hsql).symm, .inl (Nat.zero_le 1), fun _ hmem => (nomatch hmem),
    List.prefix_rfl, fun _ => rfl⟩

/-- A call that fails before anything is executed. -/
theorem serves_of_failed {batch : RecordBatch} {sql : Option String} (h : Extends t [] t') :
    Serves pf lib (some (batch, sql)) t false t' := by
  refine ⟨[], h, ?_, fun e he => nomatch he⟩
  cases sql with
  | none => exact inOrder_nil fun h => (Bool.false_ne_true h).elim
  | some text =>
    refine ⟨(jsonRows pf lib batch).map fun row => [row], fun h => (nomatch h), fun _ => ?_,
      .inr fun piece h => ?_, fun piece h => ?_, List.nil_prefix,
      fun h => (Bool.false_ne_true h).elim⟩
    · exact List.flatMap_singleton' _
    · obtain ⟨row, -, rfl⟩ := List.mem_map.mp h
      rfl
    · obtain ⟨row, -, rfl⟩ := List.mem_map.mp h
      exact List.cons_ne_nil _ _

/-- **The first executions of a batch are first rows of it.** -/
theorem inOrder_of_executions {batch : RecordBatch} {text : String}
    {rows : List (List Parameter)} {prepared : PreparedStatement}
    {first : List (List (List Parameter))} {runs : List Executed} {succeeded : Bool}
    (hrows : boundRows pf.overflow lib.chrono batch = .ok rows) (hne : rows ≠ [])
    (hfirst : first <+: executionsOf prepared rows)
    (hruns : List.Forall₂ (fun rows (e : Executed) => e.1 = prepared.handle ∧
      prepared.buildBatchParametersData rows = .ok e.2) first runs)
    (hall : succeeded = true → first = executionsOf prepared rows) :
    Use.InOrder pf lib ⟨batch, some text, runs, succeeded⟩ := by
  have hmap : runs.map (fun e => rowsOf e.2) =
      first.map (List.map (List.map parameterToJson)) := by
    have hmem (piece) (h : piece ∈ first) := of_mem_executionsOf hne (hfirst.subset h)
    clear hfirst hall
    induction hruns with
    | nil => rfl
    | cons h _ ih =>
      obtain ⟨hpiece, hempty⟩ := hmem _ (List.mem_cons_self ..)
      rw [List.map_cons, List.map_cons, rowsOf_of_build hpiece hempty h.2,
        ih fun piece h => hmem piece (List.mem_cons_of_mem _ h)]
  refine ⟨(executionsOf prepared rows).map (List.map (List.map parameterToJson)),
    fun h => (nomatch h), fun _ => ?_, ?_, fun piece h => ?_, ?_, fun h => ?_⟩
  · rw [jsonRows, hrows, ← List.map_flatten, flatten_executionsOf]
  · rw [List.length_map]
    refine (length_executionsOf rows).imp_right fun h piece hpiece => ?_
    obtain ⟨piece', hpiece', rfl⟩ := List.mem_map.mp hpiece
    rw [List.length_map]
    exact h piece' hpiece'
  · obtain ⟨piece', hpiece, rfl⟩ := List.mem_map.mp h
    exact fun hnil => (of_mem_executionsOf hne hpiece).1 (List.map_eq_nil_iff.mp hnil)
  · rw [hmap]
    exact hfirst.map _
  · rw [hmap, hall h]

/-- **A bound batch is executed in order**, and by the prepared statement of the text. -/
theorem ends_runBoundBatch {empty : β} {run : PreparedStatement → β → List (List Parameter) → Act β}
    (hrun : ∀ prepared acc rows conn t, Ends (run prepared acc rows).run
      (fun r _ t' => Tried prepared t rows r t') conn t)
    {batch : RecordBatch} {text : String} (htext : work.stmt.sql = some text)
    (h : Known work.stmt t) :
    Ends (runBoundBatch pf lib.chrono empty run batch).run (fun r work' t' =>
      Serves pf lib (some (batch, some text)) t r.isOk t' ∧ Known work'.stmt t' ∧
        work'.stmt.boundData = work.stmt.boundData) work t := by
  unfold runBoundBatch
  rw [Ends, wp_attempt_bind]
  refine wp_mono (fun r work' t₁ h₁ => ?_) (fun _ _ h => h) (ends_preparedWithConnection h)
  obtain ⟨⟨hext, ⟨p, hsame⟩, hknown⟩, hprepared⟩ := h₁
  have hbound : work'.stmt.boundData = work.stmt.boundData := by rw [hsame]
  cases r with
  | error e => exact ⟨serves_of_failed hext, hknown, hbound⟩
  | ok prepared =>
    refine wp_of_bind (fun rows hrows => ?_) fun e _ => ⟨serves_of_failed hext, hknown, hbound⟩
    replace hrows := mapError_eq_ok.mp hrows
    by_cases hempty : rows = []
    · subst hempty
      have hnil : jsonRows pf lib batch = [] := by
        rw [jsonRows, hrows]
        rfl
      exact ⟨⟨[], hext, inOrder_nil fun _ => hnil, fun e he => nomatch he⟩, hknown, hbound⟩
    · rw [if_neg (by simpa using hempty)]
      refine wp_locked fun conn found => ?_
      refine wp_mono (fun r conn' t₂ h₂ => ?_) (fun _ _ h => h)
        (ends_foldlM (hrun prepared) (executionsOf prepared rows) empty conn t₁)
      obtain ⟨first, runs, hfirst, hruns, hext', hall⟩ := h₂
      have hext'' := hext.trans hext'
      refine ⟨⟨runs, hext'', inOrder_of_executions hrows hempty hfirst hruns fun hok => ?_,
        fun e he => ⟨text, rfl, ?_⟩⟩, hknown.mono hext'.subset, hbound⟩
      · refine hall ?_
        cases r with
        | ok _ => rfl
        | error e => cases e <;> cases hok
      · obtain ⟨sql, hsql, hmem⟩ := hknown prepared (hprepared prepared rfl)
        obtain ⟨i, hi, rfl⟩ := List.mem_iff_getElem.mp he
        have hhandle := (hruns.get (hruns.length_eq ▸ hi) hi).1
        rw [List.get_eq_getElem] at hhandle
        have htext' : work'.stmt.sql = work.stmt.sql := by rw [hsame]
        rw [htext', htext] at hsql
        cases hsql
        rw [hhandle]
        exact hext'.subset hmem

/-! ### Ingestions and texts -/

/-- The program executes no prepared statement, and leaves the statement as it is. -/
def Idle (p : Prog Work Request Answer α) : Prop :=
  ∀ stmt t, Keeps recorder Set.univ (fun work t' => work.stmt = stmt ∧ Extends t [] t') p

theorem idle_of {ε : Type} (r : Except ε α) :
    Idle (Attempt.of r : Attempt Work Request Answer ε α).run := fun _ _ => keeps_done r

theorem idle_bind {p : StatementAct α} {f : α → StatementAct β} (hp : Idle p.run)
    (hf : ∀ a, Idle (f a).run) : Idle (p >>= f).run :=
  fun stmt t => keeps_bind (hp stmt t) fun a => hf a stmt t

theorem idle_read_bind {f : Work → StatementAct α} (h : ∀ work, Idle (f work).run) :
    Idle (Attempt.read >>= f).run := fun stmt t => keeps_read_bind fun work => h work stmt t

theorem idle_locked {act : Act α} {finish : Exec QueryError α → Exec StatementError β}
    (h : Quiet act.run) : Idle (locked act finish).run := by
  rintro stmt t work t₁ ⟨hstmt, hext⟩
  unfold locked
  rw [Attempt.run_read_bind, wp_get, Attempt.run_write_bind, wp_put]
  refine wp_bind.mpr (wp_isolate.mpr ?_)
  exact wp_mono (fun _ _ _ h' => ⟨hstmt, h'⟩) (fun _ _ h' => ⟨hstmt, h'⟩) (h t _ t₁ hext)

theorem idle_importBatch (importSql : Csv.Tunnel → List Char) : Idle (importBatch importSql).run :=
  idle_read_bind fun _ => idle_bind (idle_of _) fun _ =>
    idle_bind (idle_locked (quiet_ask fun _ => rfl)) fun _ => idle_of _

theorem quiet_forM {ε : Type} {σ ι : Type} {f : ι → Attempt σ Request Answer ε Unit}
    (h : ∀ a, Quiet (f a).run) (as : List ι) : Quiet (as.forM f).run := by
  induction as with
  | nil => exact quiet_done _
  | cons a as ih => exact quiet_bind (h a) fun _ => ih

/-- The batch that is bound once an ingestion has begun. -/
def afterIngest (stmt : FfiStatement) : Option RecordBatch :=
  match ingestTarget stmt.ingestOptions with
  | .ok _ => none
  | .error _ => stmt.boundData

theorem boundData_executeBulkIngest (stmt : FfiStatement) :
    (Ffi.executeBulkIngest lib showOption stmt.ingestStatement).2.boundData =
      stmt.afterIngest.map RecordBatch.schema := by
  unfold Ffi.executeBulkIngest afterIngest ingestStatement
  cases ingestTarget stmt.ingestOptions with
  | error e => rfl
  | ok target => cases stmt.boundData <;> rfl

theorem afterIngest_eq_none_or (stmt : FfiStatement) :
    stmt.afterIngest = none ∨ stmt.afterIngest = stmt.boundData := by
  unfold afterIngest
  split
  · exact .inl rfl
  · exact .inr rfl

theorem idle_runDdl (ddl : List (List Char)) : Idle (runDdl pf ddl).run := by
  unfold runDdl
  split
  · exact idle_of _
  · exact idle_locked (quiet_forM
      (fun _ => quiet_bind (quiet_executeUpdate _) fun _ => quiet_done _) _)

/-- An ingestion executes no prepared statement; the batch is bound no more once the target is
known. -/
theorem ends_bulkIngest : Ends (bulkIngest pf lib showOption).run (fun _ work' t' =>
    work'.stmt = { work.stmt with boundData := work.stmt.afterIngest } ∧ Extends t [] t')
      work t := by
  have hleft : (if (Ffi.executeBulkIngest lib showOption
      work.stmt.ingestStatement).2.boundData.isNone then none else work.stmt.boundData) =
        work.stmt.afterIngest := by
    rw [boundData_executeBulkIngest, Option.isNone_map]
    rcases afterIngest_eq_none_or work.stmt with h | h
    · rw [h]
      rfl
    · rw [h]
      cases work.stmt.boundData <;> rfl
  unfold bulkIngest updateStatement
  simp only [bind_assoc, Attempt.run_read_bind, Ends, wp_get, Attempt.run_write_bind, wp_put, hleft]
  refine wp_mono (fun _ _ _ h => h) (fun _ _ _ => trivial)
    (idle_bind (idle_of _) (fun plan => idle_bind (idle_runDdl _) fun _ => idle_importBatch _)
      _ t _ t ⟨rfl, .refl t⟩)

/-! ### Every call -/

/-- What a call comes to: it serves the batch that it uses, and leaves the given one bound. -/
structure Fulfils (pf : Platform) (lib : Import.FormatterLibrary) (t : List Sent)
    (use : Option (RecordBatch × Option String)) (bound : Option RecordBatch) (succeeded : Bool)
    (stmt' : FfiStatement) (t' : List Sent) : Prop where
  serves : Serves pf lib use t succeeded t'
  known : Known stmt' t'
  bound : stmt'.boundData = bound

theorem serves_none (h : Extends t [] t') {succeeded : Bool} :
    Serves pf lib none t succeeded t' := ⟨[], h, rfl⟩

/-- The batch that is bound once the statement has been run. -/
def afterRun (stmt : FfiStatement) : Option RecordBatch :=
  if stmt.runUse.isSome then none else stmt.boundData

theorem afterRun_of_ingest (hingest : stmt.isBulkIngest = true) :
    stmt.afterRun = stmt.afterIngest := by
  unfold afterRun runUse afterIngest
  rw [if_pos hingest]
  cases ingestTarget stmt.ingestOptions with
  | error e => rfl
  | ok target => cases stmt.boundData <;> rfl

/-- In an ingestion nothing is executed. -/
theorem serves_of_ingest (hingest : stmt.isBulkIngest = true) (h : Extends t [] t')
    {succeeded : Bool} : Serves pf lib stmt.runUse t succeeded t' := by
  unfold runUse
  rw [if_pos hingest]
  cases ingestTarget stmt.ingestOptions with
  | error e => exact serves_none h
  | ok target =>
    cases stmt.boundData with
    | none => exact serves_none h
    | some batch =>
      exact ⟨[], h, inOrder_nil fun h => (Bool.false_ne_true h).elim, fun e he => nomatch he⟩

/-- **Running the statement serves the batch that is bound**, if the way it is executed does. -/
theorem ends_dispatch {ingested : UInt64 → β} {withBatch : RecordBatch → StatementAct β}
    {alone : String → StatementAct β}
    (hwith : ∀ batch text (work : Work), work.stmt.sql = some text → Known work.stmt t →
      Ends (withBatch batch).run (fun r work' t' =>
        Serves pf lib (some (batch, some text)) t r.isOk t' ∧ Known work'.stmt t' ∧
          work'.stmt.boundData = work.stmt.boundData) work t)
    (halone : ∀ sql, Idle (alone sql).run) (h : Known work.stmt t) :
    Ends (dispatch pf lib showOption ingested withBatch alone).run (fun r work' t' =>
      Fulfils pf lib t work.stmt.runUse work.stmt.afterRun r.isOk work'.stmt t') work t := by
  unfold dispatch
  rw [Ends, Attempt.run_read_bind, wp_get]
  split
  · rename_i hingest
    rw [wp_attempt_bind]
    refine wp_mono (fun r work' t₁ h₁ => ?_) (fun _ _ h => h) ends_bulkIngest
    obtain ⟨hstmt, hext⟩ := h₁
    have hdone (succeeded : Bool) : Fulfils pf lib t work.stmt.runUse work.stmt.afterRun succeeded
        work'.stmt t₁ := by
      refine ⟨serves_of_ingest hingest hext, ?_, ?_⟩
      · rw [hstmt]
        exact h.mono hext.subset
      · rw [hstmt, afterRun_of_ingest hingest]
    cases r with
    | ok count => exact hdone true
    | error e => exact hdone false
  · rename_i hingest
    have huse : work.stmt.runUse = work.stmt.sql.bind fun sql =>
        work.stmt.boundData.map fun batch => (batch, some sql) := if_neg hingest
    unfold requireSql
    cases htext : work.stmt.sql with
    | none =>
      rw [htext] at huse
      refine ⟨huse ▸ serves_none (.refl t), h, ?_⟩
      rw [afterRun, huse]
      rfl
    | some text =>
      rw [htext] at huse
      simp only [orFail_some, Attempt.run_of_ok_bind, takeBound, bind_assoc, Attempt.run_read_bind,
        wp_get, Attempt.run_write_bind, wp_put, pure_bind]
      cases hbound : work.stmt.boundData with
      | some batch =>
        rw [hbound] at huse
        refine wp_mono (fun r work' t₁ h₁ => ?_) (fun _ _ h => h) (hwith batch text
          { work with stmt := { work.stmt with boundData := none } } htext h)
        obtain ⟨hserves, hknown, hnone⟩ := h₁
        refine ⟨huse ▸ hserves, hknown, ?_⟩
        rw [hnone, afterRun, huse]
        rfl
      | none =>
        rw [hbound] at huse
        refine wp_mono (fun r work' t₁ h₁ => ?_) (fun _ _ _ => trivial)
          (halone text { work.stmt with boundData := none } t
            { work with stmt := { work.stmt with boundData := none } } t ⟨rfl, .refl t⟩)
        obtain ⟨hstmt, hext⟩ := h₁
        refine ⟨huse ▸ serves_none hext, ?_, ?_⟩
        · rw [hstmt]
          exact h.mono hext.subset
        · rw [hstmt, afterRun, huse]
          exact hbound.symm

/-- What is said of the end of a program, and of whether it succeeds, is said of its value too. -/
theorem ends_bind_pure {P : Bool → Work → List Sent → Prop} {f : α → β} {p : StatementAct α}
    (h : Ends p.run (fun r work' t' => P r.isOk work' t') work t) :
    Ends (p >>= fun a => (pure (f a) : StatementAct β)).run (fun r work' t' => P r.isOk work' t')
      work t := by
  rw [Ends, wp_attempt_bind]
  refine wp_mono (fun r work' t' h => ?_) (fun _ _ h => h) h
  cases r with
  | ok a => exact h
  | error e => exact h

theorem quiet_resultBatches (resultSet : ResultSetInner) : Quiet (resultBatches resultSet).run := by
  unfold resultBatches
  split
  · exact quiet_done _
  · exact quiet_fetchAll _

theorem ends_execute (h : Known work.stmt t) :
    Ends (execute pf lib showOption).run (fun r work' t' =>
      Fulfils pf lib t work.stmt.runUse work.stmt.afterRun r.isOk work'.stmt t') work t := by
  refine ends_dispatch (fun batch text work htext hknown => ?_)
    (fun sql => idle_locked (quiet_query sql)) h
  exact ends_runBoundBatch (fun prepared _ _ conn t => ends_tried_bind (ends_runPrepared conn t)
    fun resultSet => quiet_bind (quiet_resultBatches resultSet) fun _ => quiet_done _) htext hknown

theorem ends_executeUpdate (h : Known work.stmt t) :
    Ends (executeUpdate pf lib showOption).run (fun r work' t' =>
      Fulfils pf lib t work.stmt.runUse work.stmt.afterRun r.isOk work'.stmt t') work t := by
  unfold executeUpdate
  simp only [map_eq_pure_bind]
  refine ends_dispatch (fun batch text work htext hknown => ?_)
    (fun sql => idle_bind (idle_locked (quiet_executeUpdate sql)) fun _ => idle_of _) h
  refine ends_bind_pure (P := fun ok work' t' => Serves pf lib (some (batch, some text)) t ok t' ∧
    Known work'.stmt t' ∧ work'.stmt.boundData = work.stmt.boundData) ?_
  exact ends_runBoundBatch (fun prepared _ _ conn t => ends_tried_bind (ends_runPrepared conn t)
    fun _ => quiet_of _) htext hknown

/-! ### Runs -/

/-- The batch that is bound after a call. -/
def Call.leaves (stmt : FfiStatement) : Call → Option RecordBatch
  | bind batch => some batch
  | bindStream batches => (combined batches).toOption.elim stmt.boundData id
  | execute | executeUpdate => stmt.afterRun
  | _ => stmt.boundData

/-- **Every call serves the batch that it uses**, and no other. -/
theorem ends_act (call : Call) (h : Known work.stmt t) :
    Ends (call.act pf lib showOption).run (fun r work' t' =>
      Fulfils pf lib t (call.uses work.stmt) (call.leaves work.stmt) r.isOk work'.stmt t')
      work t := by
  cases call with
  | setSqlQuery query =>
    refine ⟨serves_none (.refl t), fun p hp => ?_, rfl⟩
    -- Another text has no prepared statement yet.
    by_cases hsame : work.stmt.sql = some query
    · refine ⟨query, rfl, ?_⟩
      obtain ⟨sql, hsql, hmem⟩ := h p ((if_pos hsame).symm.trans hp)
      rw [hsame] at hsql
      cases hsql
      exact hmem
    · cases (if_neg hsame).symm.trans hp
  | setOption key value => exact ⟨serves_none (.refl t), h, rfl⟩
  | bind batch => exact ⟨serves_none (.refl t), h, rfl⟩
  | bindStream batches =>
    refine wp_of_bind (fun batch hbatch => ?_) fun e he => ?_
    · exact ⟨serves_none (.refl t), h, by rw [Call.leaves, hbatch]; rfl⟩
    · exact ⟨serves_none (.refl t), h, by rw [Call.leaves, he]; rfl⟩
  | prepare =>
    refine wp_mono (fun r work' t' h' => ?_) (fun _ _ h => h) (ends_prepare h)
    obtain ⟨hext, ⟨p, hsame⟩, hknown⟩ := h'
    exact ⟨serves_none hext, hknown, by rw [hsame]; rfl⟩
  | execute =>
    exact ends_bind_pure (P := fun ok work' t' =>
      Fulfils pf lib t work.stmt.runUse work.stmt.afterRun ok work'.stmt t') (ends_execute h)
  | executeUpdate =>
    exact ends_bind_pure (P := fun ok work' t' =>
      Fulfils pf lib t work.stmt.runUse work.stmt.afterRun ok work'.stmt t') (ends_executeUpdate h)
  | executeSchema =>
    refine ends_bind_pure (P := fun ok work' t' =>
      Fulfils pf lib t none work.stmt.boundData ok work'.stmt t') ?_
    unfold executeSchema
    rw [Ends, wp_attempt_bind]
    refine wp_mono (fun r work' t' h' => ?_) (fun _ _ h => h) (ends_preparedWithConnection h)
    obtain ⟨⟨hext, ⟨p, hsame⟩, hknown⟩, -⟩ := h'
    have hdone (ok : Bool) : Fulfils pf lib t none work.stmt.boundData ok work'.stmt t' :=
      ⟨serves_none hext, hknown, by rw [hsame]⟩
    cases r with
    | ok prepared => exact hdone _
    | error e => exact hdone _

/-- The invariant of a run. -/
structure Invariant (pf : Platform) (lib : Import.FormatterLibrary) (x : Situation) : Prop where
  delivered : Delivered pf lib x
  known : Known x.stmt x.trace
  /-- The batch that is bound has not been used yet. -/
  unused : (x.uses.map Use.batch ++ x.stmt.boundData.toList).Sublist x.bound

/-- The batch that is used is the one that is bound. -/
theorem runUse_cases (stmt : FfiStatement) : stmt.runUse = none ∨
    ∃ batch sql, stmt.boundData = some batch ∧ stmt.runUse = some (batch, sql) := by
  unfold runUse
  cases hbound : stmt.boundData with
  | none =>
    refine .inl ?_
    split
    · split <;> rfl
    · cases stmt.sql <;> rfl
  | some batch =>
    split
    · split
      · exact .inr ⟨batch, none, rfl, rfl⟩
      · exact .inl rfl
    · cases stmt.sql with
      | none => exact .inl rfl
      | some sql => exact .inr ⟨batch, some sql, rfl, rfl⟩

/-- **The batches that are used and the one that is left** have been bound, in this order. -/
theorem sublist_after {uses bound : List RecordBatch} {stmt : FfiStatement} (call : Call)
    (h : (uses ++ stmt.boundData.toList).Sublist bound) :
    (uses ++ (call.uses stmt).toList.map Prod.fst ++ (call.leaves stmt).toList).Sublist
      (bound ++ call.binds.toList) := by
  have hrun : (uses ++ stmt.runUse.toList.map Prod.fst ++ stmt.afterRun.toList).Sublist bound := by
    rcases runUse_cases stmt with hnone | ⟨batch, sql, hbound, hsome⟩
    · rw [afterRun, hnone]
      simpa using h
    · rw [hbound] at h
      rw [afterRun, hsome]
      simpa using h
  have huses : uses.Sublist bound := (List.sublist_append_left _ _).trans h
  cases call with
  | bind batch =>
    simpa [Call.uses, Call.leaves, Call.binds] using huses.append (List.Sublist.refl [batch])
  | bindStream batches =>
    unfold Call.uses Call.leaves Call.binds
    rcases hbatches : (combined batches).toOption with _ | _ | batch
    · simpa [hbatches] using h
    · simpa [hbatches] using huses
    · simpa [hbatches] using huses.append (List.Sublist.refl [batch])
  | execute => simpa [Call.uses, Call.leaves, Call.binds] using hrun
  | executeUpdate => simpa [Call.uses, Call.leaves, Call.binds] using hrun
  | setSqlQuery query => simpa [Call.uses, Call.leaves, Call.binds] using h
  | setOption key value => simpa [Call.uses, Call.leaves, Call.binds] using h
  | prepare => simpa [Call.uses, Call.leaves, Call.binds] using h
  | executeSchema => simpa [Call.uses, Call.leaves, Call.binds] using h

/-- **A call keeps the invariant**, whatever the server answers. -/
theorem invariant_step (x : Situation) (a : Action) (hx : Invariant pf lib x) :
    Invariant pf lib (step pf lib showOption x a) := by
  have hwp : Ends (a.call.act pf lib showOption).run (fun r work' t' =>
      Invariant pf lib (after x a.call r work'.stmt t')) ⟨x.stmt, a.found, a.passage⟩ x.trace := by
    refine wp_mono (fun r work' t' h => ?_) (fun _ _ h => h) (ends_act a.call hx.known)
    obtain ⟨⟨runs, hext, huse⟩, hknown, hbound⟩ := h
    have hsub := sublist_after a.call hx.unused
    obtain ⟨⟨honce, honly, horder, hprepared⟩, -, -⟩ := hx
    have huses : (after x a.call r work'.stmt t').uses = x.uses ++
        (a.call.uses x.stmt).toList.map fun use => ⟨use.1, use.2, runs, r.isOk⟩ := by
      rw [after, hext.drop_eq]
    have hbatches : (after x a.call r work'.stmt t').uses.map Use.batch =
        x.uses.map Use.batch ++ (a.call.uses x.stmt).toList.map Prod.fst := by
      rw [huses, List.map_append, List.map_map]
      rfl
    have hnew : (∀ use ∈ (a.call.uses x.stmt).toList.map fun use =>
        (⟨use.1, use.2, runs, r.isOk⟩ : Use), use.InOrder pf lib ∧ ∀ e ∈ use.executed, ∃ sql,
          use.sql = some sql ∧ ⟨.createPreparedStatement sql, .ok e.1⟩ ∈ t') ∧
        ((a.call.uses x.stmt).toList.map fun use =>
          (⟨use.1, use.2, runs, r.isOk⟩ : Use)).flatMap Use.executed = runs := by
      cases hcall : a.call.uses x.stmt with
      | none =>
        rw [hcall] at huse
        exact ⟨fun _ h => (nomatch h), huse.symm⟩
      | some use =>
        rw [hcall] at huse
        refine ⟨fun use' h => ?_, List.append_nil runs⟩
        obtain rfl := List.mem_singleton.mp h
        exact huse
    refine ⟨⟨?_, ?_, fun use hmem => ?_, fun use hmem => ?_⟩, hknown, ?_⟩
    · rw [hbatches]
      exact (List.sublist_append_left _ _).trans hsub
    · rw [huses, List.flatMap_append, hnew.2, ← honly]
      exact hext.executions_eq
    · rw [huses, List.mem_append] at hmem
      exact hmem.elim (horder use) fun h => (hnew.1 use h).1
    · rw [huses, List.mem_append] at hmem
      rcases hmem with h | h
      · intro e he
        obtain ⟨sql, hsql, hmem⟩ := hprepared use h e he
        exact ⟨sql, hsql, hext.subset hmem⟩
      · exact (hnew.1 use h).2
    · rw [hbatches]
      exact hbound ▸ hsub
  exact exec_of_wp (fun _ => Set.mem_univ _) hwp

theorem invariant_start : Invariant pf lib {} where
  delivered := ⟨.slnil, rfl, fun _ h => (nomatch h), fun _ h => (nomatch h)⟩
  known := fun _ hp => nomatch hp
  unused := .slnil

/-- **The rows of bound batches are delivered** along every run of calls: each batch to one call at
most, in order and by the prepared statement of the text, whatever the server answers, whatever
other statements do with the connection, and whatever becomes of ingestions. -/
theorem always_delivered (pf : Platform) (lib : Import.FormatterLibrary)
    (showOption : ShowsOption) (run : List Action) :
    Runs.Always (step pf lib showOption) (Delivered pf lib) {} run :=
  (Runs.always_of_step invariant_step invariant_start run).mono fun _ hx => hx.delivered

end Calls

/-! ### An execution that fails -/

/-- A batch of two rows. -/
def twoRows : RecordBatch where
  schema := ⟨[{ name := "B", dataType := .boolean, nullable := true }]⟩
  columns := [⟨.boolean, [some true, none]⟩]
  numRows := 2
  admits := .cons ⟨rfl, by decide⟩ .nil
  lengths := by
    intro c hc
    rw [List.mem_singleton.mp hc]
    rfl

/-- A statement with one parameter and one column. -/
def oneColumn : PreparedStatementHandle :=
  { handle := 7
    numParams := 1
    resultColumns := [{ name := "C", dataType := { typeName := "BOOLEAN" } }] }

/-- The statement is prepared, and executed once; then the connection breaks. -/
def breaksAfterOne (n : ℕ) : (r : Request) → Answer r
  | .createPreparedStatement _ => .ok oneColumn
  | .executePreparedStatement .. =>
    if n < 2 then .ok (.rowCount (SInt.wrap 64 SInt.pos_64 1)) else .error (.ioError "reset")
  | _ => .error (.ioError "reset")

/-- A call on a connection that is open. -/
def Call.onOpen (call : Call) : Action where
  call := call
  found _ := .fresh "1" ⟨"localhost", 8563, "sys", "", none, .fromMillis 30000, none, true, true, none, "", "",
    none⟩
  passage := ⟨.error (.ioError ""), .ok (), false⟩
  answers := breaksAfterOne

example : (Runs.last (step checkedPlatform calendarLibrary fun _ => "") {}
    ([.setSqlQuery "SELECT C FROM T WHERE B = ?", .bind twoRows, .execute, .execute].map
      Call.onOpen)).uses = [⟨twoRows, some "SELECT C FROM T WHERE B = ?",
        [(oneColumn, some [[.bool true]]), (oneColumn, some [[.null]])], false⟩] := rfl

end Exarrow.Ffi.FfiStatement
