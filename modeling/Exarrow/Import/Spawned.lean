import Exarrow.Import.Parallel

/-!
# How an import of one item ends

An import of one item whose stream has a task of its own. The driver waits for the response of the
statement and then for the task, which it aborts if the statement has failed
(`Exarrow.Import.Spawned.poll`). No other task stands between, so a stream that fails before the
response is always reported: **what is owed holds in every run**
(`Exarrow.Import.spawned_always_upheld`).
-/

namespace Exarrow.Import

/-- An import of one item while it runs. Whether the stream had failed when the response arrived
is a part of the history, which nothing reads. -/
structure Spawned (C T S Q : Type) where
  task : StreamTask C T S
  driver : Driver Q := .executing
  /-- The response, once it has arrived. -/
  response : Option (Except String Q) := none
  responseRead : Bool := false
  failedBefore : Bool := false

/-- What can happen during an import of one item. -/
inductive SpawnedAction (E Q : Type) where
  | advance (event : E)
  | respond (response : Except String Q)
  | poll
  /-- The aborted task is dropped. -/
  | cancel

section Spawned

variable {C T E S Q : Type}

namespace Spawned

/-- A step of the driver, unless it has to wait. -/
def poll (x : Spawned C T S Q) : Spawned C T S Q :=
  match x.driver, x.response, x.task.phase with
  | .executing, some (.ok rowCount), _ => { x with driver := .joining rowCount, responseRead := true }
  | .executing, some (.error message), _ =>
    { x with driver := .aborting message, responseRead := true }
  | .joining rowCount, _, .ended outcome =>
    { x with driver := .returned (finishImport (.ok rowCount) outcome) }
  | .aborting message, _, .ended outcome =>
    { x with driver := .returned (finishImport (.error message) outcome) }
  | _, _, _ => x

/-- The task has been aborted, and has not ended. -/
def cancel (x : Spawned C T S Q) : Spawned C T S Q :=
  match x.driver, x.task.phase with
  | .aborting message, .running =>
    { x with
      task := x.task.abort
      driver := .returned (finishImport (.error message) .cancelled) }
  | _, _ => x

/-- The response arrives. -/
def respond (response : Except String Q) (x : Spawned C T S Q) : Spawned C T S Q :=
  match x.response with
  | none => { x with response := some response, failedBefore := x.task.hasFailed }
  | some _ => x

/-- The result of an import, once it has returned. -/
def result (x : Spawned C T S Q) : Option (Except ImportError Q) :=
  match x.driver with
  | .returned result => some result
  | _ => none

/-- An import of one item at its beginning. -/
def begin (streams : Streams C T S E) (client : C) (item : T) : Spawned C T S Q :=
  { task := { client, item, state := streams.init client item } }

end Spawned

variable (streams : Streams C T S E)

/-- A step of an import of one item. -/
def spawnedStep (x : Spawned C T S Q) : SpawnedAction E Q → Spawned C T S Q
  | .advance event => { x with task := x.task.advance streams event }
  | .respond response => x.respond response
  | .poll => x.poll
  | .cancel => x.cancel

/-- **What is owed to the caller and to the connection.** -/
structure SpawnedUpheld (x : Spawned C T S Q) : Prop where
  ran : x.task.Ran streams
  /-- The import returns after the response has been read. -/
  read : x.result.isSome → x.responseRead = true ∧ x.response.isSome
  /-- It reports success if the statement and the stream have succeeded. -/
  success : ∀ rowCount, x.result = some (.ok rowCount) →
    x.response = some (.ok rowCount) ∧ x.task.phase = .ended (.ok (.ok ()))
  /-- It reports the error of the stream if that failed, and a failure from before the response
  is not lost. -/
  ownError : ∀ result e, x.result = some result → x.task.phase = .ended (.ok (.error e)) →
    result = .error e
  noticed : x.failedBefore = true → x.task.hasFailed = true
  /-- The stream does not run on. -/
  stopped : x.result.isSome → x.task.phase ≠ .running

/-- How far the driver has come. -/
def Spawned.Driven (x : Spawned C T S Q) : Driver Q → Prop
  | .executing => x.task.phase ≠ .aborted
  | .joining rowCount => x.task.phase ≠ .aborted ∧ x.responseRead = true ∧
    x.response = some (.ok rowCount)
  | .aborting message => x.task.phase ≠ .aborted ∧ x.responseRead = true ∧
    x.response = some (.error message)
  | .returned result => x.responseRead = true ∧ ∃ statement, x.response = some statement ∧
    ((∃ outcome, x.task.phase = .ended outcome ∧ result = finishImport statement outcome) ∨
      x.task.phase = .aborted ∧ ∃ e, result = .error e)

/-- The invariant of a run. -/
structure SpawnedInvariant (x : Spawned C T S Q) : Prop where
  ran : x.task.Ran streams
  failed : x.failedBefore = true → x.task.hasFailed = true
  driven : x.Driven x.driver

variable {streams} {x : Spawned C T S Q}

/-- A stream that has failed stays so. -/
theorem StreamTask.GoesOn.hasFailed {task task' : StreamTask C T S} (h : task.GoesOn task')
    (hfailed : task.hasFailed = true) : task'.hasFailed = true := by
  obtain ⟨outcome, -, hphase, -⟩ := StreamTask.exists_of_hasFailed hfailed 0
  unfold StreamTask.hasFailed at hfailed ⊢
  rw [hphase] at hfailed
  rwa [h.ended outcome hphase]

theorem spawnedInvariant_advance (hx : SpawnedInvariant streams x) (event : E) :
    SpawnedInvariant streams (spawnedStep streams x (.advance event)) := by
  have hgoes := StreamTask.goesOn_advance streams event x.task
  refine ⟨hx.ran.advance event, fun h => hgoes.hasFailed (hx.failed h), ?_⟩
  have hdriven := hx.driven
  change Spawned.Driven _ x.driver
  revert hdriven
  rcases x.driver with _ | rowCount | message | result
  · exact StreamTask.advance_ne_aborted
  · exact fun ⟨hopen, hread⟩ => ⟨StreamTask.advance_ne_aborted hopen, hread⟩
  · exact fun ⟨hopen, hread⟩ => ⟨StreamTask.advance_ne_aborted hopen, hread⟩
  · rintro ⟨hread, statement, hresponse, ⟨outcome, hended, rfl⟩ | ⟨haborted, hresult⟩⟩
    · exact ⟨hread, statement, hresponse, .inl ⟨outcome, hgoes.ended outcome hended, rfl⟩⟩
    · refine ⟨hread, statement, hresponse, .inr ⟨?_, hresult⟩⟩
      change (x.task.advance streams event).phase = .aborted
      unfold StreamTask.advance
      rw [haborted]
      exact haborted

theorem spawnedInvariant_respond (hx : SpawnedInvariant streams x) (response : Except String Q) :
    SpawnedInvariant streams (x.respond response) := by
  unfold Spawned.respond
  split
  · rename_i hnone
    refine ⟨hx.ran, id, ?_⟩
    have hdriven := hx.driven
    change Spawned.Driven _ x.driver
    revert hdriven
    rcases x.driver with _ | rowCount | message | result
    · exact id
    · rintro ⟨-, -, hsome⟩
      cases hnone.symm.trans hsome
    · rintro ⟨-, -, hsome⟩
      cases hnone.symm.trans hsome
    · rintro ⟨-, statement, hsome, -⟩
      cases hnone.symm.trans hsome
  · exact hx

theorem spawnedInvariant_poll (hx : SpawnedInvariant streams x) :
    SpawnedInvariant streams x.poll := by
  have hdriven := hx.driven
  unfold Spawned.poll
  split
  · rename_i rowCount hdriver hresponse
    rw [hdriver] at hdriven
    exact ⟨hx.ran, hx.failed, hdriven, rfl, hresponse⟩
  · rename_i message hdriver hresponse
    rw [hdriver] at hdriven
    exact ⟨hx.ran, hx.failed, hdriven, rfl, hresponse⟩
  · rename_i rowCount outcome hdriver hended
    rw [hdriver] at hdriven
    obtain ⟨-, hread, hresponse⟩ := hdriven
    exact ⟨hx.ran, hx.failed, hread, _, hresponse, .inl ⟨outcome, hended, rfl⟩⟩
  · rename_i message outcome hdriver hended
    rw [hdriver] at hdriven
    obtain ⟨-, hread, hresponse⟩ := hdriven
    exact ⟨hx.ran, hx.failed, hread, _, hresponse, .inl ⟨outcome, hended, rfl⟩⟩
  · exact hx

theorem spawnedInvariant_cancel (hx : SpawnedInvariant streams x) :
    SpawnedInvariant streams x.cancel := by
  have hdriven := hx.driven
  unfold Spawned.cancel
  split
  · rename_i message hdriver hrunning
    rw [hdriver] at hdriven
    obtain ⟨-, hread, hresponse⟩ := hdriven
    refine ⟨hx.ran.abort, fun h => x.task.goesOn_abort.hasFailed (hx.failed h), hread, _, hresponse,
      .inr ⟨?_, _, rfl⟩⟩
    dsimp only
    unfold StreamTask.abort
    rw [hrunning]
  · exact hx

/-- **What has happened to an import of one item gives what is owed.** -/
theorem SpawnedInvariant.upheld (hx : SpawnedInvariant streams x) : SpawnedUpheld streams x := by
  have hsettled (result : Except ImportError Q) (h : x.result = some result) :
      x.Driven (.returned result) := by
    have hdriven := hx.driven
    unfold Spawned.result at h
    split at h
    · rename_i r hdriver
      cases h
      rwa [hdriver] at hdriven
    · cases h
  refine ⟨hx.ran, fun h => ?_, fun rowCount h => ?_, fun result e h hphase => ?_, hx.failed,
    fun h => ?_⟩
  · obtain ⟨result, hresult⟩ := Option.isSome_iff_exists.mp h
    obtain ⟨hread, statement, hresponse, -⟩ := hsettled result hresult
    exact ⟨hread, by rw [hresponse]; rfl⟩
  · obtain ⟨-, statement, hresponse, ⟨outcome, hended, hresult⟩ | ⟨-, e, hresult⟩⟩ := hsettled _ h
    · rcases statement with message | rows
      · cases hresult
      · rcases outcome with e | e | ⟨⟩
        · cases hresult
        · cases hresult
        · cases hresult
          exact ⟨hresponse, hended⟩
    · cases hresult
  · obtain ⟨-, statement, -, ⟨outcome, hended, rfl⟩ | ⟨haborted, -⟩⟩ := hsettled _ h
    · cases hended.symm.trans hphase
      exact finishImport_error statement e
    · cases haborted.symm.trans hphase
  · obtain ⟨result, hresult⟩ := Option.isSome_iff_exists.mp h
    obtain ⟨-, statement, -, ⟨outcome, hended, -⟩ | ⟨haborted, -⟩⟩ := hsettled result hresult
    · rw [hended]
      exact nofun
    · rw [haborted]
      exact nofun

theorem spawnedInvariant_step (hx : SpawnedInvariant streams x) (a : SpawnedAction E Q) :
    SpawnedInvariant streams (spawnedStep streams x a) := by
  cases a with
  | advance event => exact spawnedInvariant_advance hx event
  | respond response => exact spawnedInvariant_respond hx response
  | poll => exact spawnedInvariant_poll hx
  | cancel => exact spawnedInvariant_cancel hx

theorem spawnedInvariant_begin (streams : Streams C T S E) (client : C) (item : T) :
    SpawnedInvariant streams (Spawned.begin streams client item : Spawned C T S Q) :=
  ⟨⟨⟨[], rfl⟩, nofun⟩, nofun, nofun⟩

/-- **What is owed holds in every run** of an import of one item. -/
theorem spawned_always_upheld (streams : Streams C T S E) (client : C) (item : T)
    (actions : List (SpawnedAction E Q)) :
    Runs.Always (spawnedStep streams) (SpawnedUpheld streams) (Spawned.begin streams client item)
      actions := by
  have hinvariant := Runs.always_of_step (I := SpawnedInvariant streams)
    (fun _ a hx => spawnedInvariant_step hx a)
    (spawnedInvariant_begin (Q := Q) streams client item) actions
  exact hinvariant.mono fun _ hx => hx.upheld

end Spawned

end Exarrow.Import
