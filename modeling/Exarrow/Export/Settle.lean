import Exarrow.Error
import Exarrow.Foundations.Runs

/-!
# How an export ends

Three tasks make up an export: the EXPORT statement, whose response the driver reads off the
connection, the callback that takes the data, and the tunnel, a task of its own that brings
them (`Exarrow.Export.TunnelTask`). The driver waits for them, perhaps for a limited time
(`Exarrow.Export.poll`), and decides which result the export has
(`Exarrow.Export.settleExport`).

The tasks end in any order and with any outcome. The driver notes what it has seen to end
(`Exarrow.Export.Seen`), and from this the rules for errors give the result
(`Exarrow.Export.documented`). **In every run the export has the result that the rules give,
and when it returns, the response has been read or the transport has been terminated**
(`Exarrow.Export.export_settles`).
-/

namespace Exarrow.Export

/-! ### The tunnel -/

/-- How far the tunnel task has come. -/
inductive TunnelPhase where
  /-- The body is forwarded to the consumer. -/
  | forwarding
  /-- The data of the consumer are ended. -/
  | leaving (result : Except ExportError Unit)
  | finished (result : Except ExportError Unit)
  | aborted

/-- The task that forwards the body of the export, and what it shares with the driver. No step
of it panics, so that joining it gives the result that it returns. -/
structure TunnelTask where
  phase : TunnelPhase := .forwarding
  discarding : Bool := false
  failed : Bool := false

namespace TunnelTask

/-- Stop forwarding to the consumer. -/
def discard (t : TunnelTask) : TunnelTask := { t with discarding := true }

/-- Whether a failure has been recorded. -/
def hasFailed (t : TunnelTask) : Bool := t.failed

/-- Stop the task, unless it has finished. -/
def abort (t : TunnelTask) : TunnelTask :=
  match t.phase with
  | .finished _ => t
  | _ => { t with phase := .aborted }

/-- The result of the task, once it has finished. -/
def join (t : TunnelTask) : Option (Except ExportError Unit) :=
  match t.phase with
  | .finished result => some result
  | _ => none

/-- The body has been forwarded, or this has failed. A failure is recorded before the data of
the consumer end. -/
def forwarded (result : Except String Unit) (t : TunnelTask) : TunnelTask :=
  match t.phase, result with
  | .forwarding, .ok () => { t with phase := .leaving (.ok ()) }
  | .forwarding, .error e =>
    { t with
      failed := true
      phase := .leaving (.error (.httpTransportError s!"Failed to handle export request: {e}")) }
  | _, _ => t

/-- The task comes to its end. -/
def leave (t : TunnelTask) : TunnelTask :=
  match t.phase with
  | .leaving result => { t with phase := .finished result }
  | _ => t

end TunnelTask

/-! ### The driver -/

section Driver

variable {Q R : Type}

/-- What the driver has seen to end; for the callback also whether a failure of the tunnel had
been recorded then. -/
inductive Seen (Q R : Type) where
  | callback (result : Except ExportError R) (tunnelFailed : Bool)
  | statement (result : Except ExportError Q)
  | tunnel (result : Except ExportError Unit)

/-- How far the driver has come. -/
inductive Settling (R : Type) where
  /-- It waits for the callback or the statement, whichever ends first. -/
  | racing
  /-- The callback has returned a value: it waits for the statement, and then for the
  tunnel. -/
  | value (value : R)
  | valueJoin (value : R)
  /-- The callback has failed on data that a broken tunnel cut short: it waits for the
  statement, and then for the tunnel. -/
  | broken (e : ExportError)
  | brokenJoin (e : ExportError)
  /-- The callback has failed: it reads the response to keep the transport in step. -/
  | drain (e : ExportError)
  /-- The statement has succeeded: it waits for the tunnel and the callback together. -/
  | both (tunnel : Option (Except ExportError Unit)) (callback : Option (Except ExportError R))
  | returned (result : Except ExportError R)

/-- An export while it runs: how far the driver has come, the tasks, and what has become of the
transport. The history is not read by the driver. -/
structure ExportRun (Q R : Type) where
  settling : Settling R := .racing
  tunnel : TunnelTask := {}
  /-- The response, once it has arrived. -/
  response : Option (Except String Q) := none
  /-- The result of the callback, once there is one. -/
  callback : Option (Except ExportError R) := none
  elapsed : Bool := false
  sqlResponseRead : Bool := false
  terminated : Bool := false
  /-- The result of the export. -/
  result : Option (Except ExportError R) := none
  seen : List (Seen Q R) := []

/-- The result of the statement. -/
def sqlTask (response : Except String Q) : Except ExportError Q :=
  response.mapError .sqlExecutionError

/-- The driver reads the response. -/
def ExportRun.readResponse (x : ExportRun Q R) (response : Except String Q) : ExportRun Q R :=
  { x with sqlResponseRead := true, seen := x.seen ++ [.statement (sqlTask response)] }

/-- The driver sees the callback end. -/
def ExportRun.seeCallback (x : ExportRun Q R) (result : Except ExportError R) : ExportRun Q R :=
  { x with seen := x.seen ++ [.callback result x.tunnel.hasFailed] }

/-- The driver joins the tunnel. -/
def ExportRun.seeTunnel (x : ExportRun Q R) (result : Except ExportError Unit) : ExportRun Q R :=
  { x with seen := x.seen ++ [.tunnel result] }

/-- The driver is at its end. -/
def ExportRun.return (x : ExportRun Q R) (result : Except ExportError R) : ExportRun Q R :=
  { x with settling := .returned result, result := some result }

/-- The callback ends first. -/
def ExportRun.onCallback (x : ExportRun Q R) (result : Except ExportError R) : ExportRun Q R :=
  match result with
  | .ok v => { x with settling := .value v, tunnel := x.tunnel.discard }
  | .error e =>
    if x.tunnel.hasFailed then { x with settling := .broken e }
    else { x with settling := .drain e, tunnel := x.tunnel.abort }

/-- The statement ends first. -/
def ExportRun.onStatement (x : ExportRun Q R) (result : Except ExportError Q) : ExportRun Q R :=
  match result with
  | .error e => { x with tunnel := x.tunnel.abort }.return (.error e)
  | .ok _ => { x with settling := .both none none }

/-- A step of the driver, if it need not wait. The callback is looked at before the
statement. -/
def settleExport (x : ExportRun Q R) : Option (ExportRun Q R) :=
  match x.settling with
  | .racing =>
    match x.callback, x.response with
    | some result, _ => some ((x.seeCallback result).onCallback result)
    | none, some response => some ((x.readResponse response).onStatement (sqlTask response))
    | none, none => none
  | .value v => x.response.map fun response =>
    let x := x.readResponse response
    match sqlTask response with
    | .error e => { x with tunnel := x.tunnel.abort }.return (.error e)
    | .ok _ => { x with settling := .valueJoin v }
  | .valueJoin v => x.tunnel.join.map fun result =>
    (x.seeTunnel result).return (result.map fun _ => v)
  | .broken e => x.response.map fun response =>
    let x := x.readResponse response
    match sqlTask response with
    | .error e => x.return (.error e)
    | .ok _ => { x with settling := .brokenJoin e }
  | .brokenJoin e => x.tunnel.join.map fun result =>
    (x.seeTunnel result).return (result.bind fun _ => .error e)
  | .drain e => x.response.map fun response => (x.readResponse response).return (.error e)
  | .both tunnel callback =>
    match tunnel, callback, x.tunnel.join, x.callback with
    | some tunnel, some callback, _, _ => some (x.return (tunnel.bind fun _ => callback))
    | none, _, some result, _ =>
      some { x.seeTunnel result with settling := .both (some result) callback }
    | _, none, _, some result =>
      some { x.seeCallback result with settling := .both tunnel (some result) }
    | _, _, _, _ => none
  | .returned _ => none

/-- The time is over. -/
def ExportRun.timeOut (x : ExportRun Q R) (timeoutMs : UInt64) : ExportRun Q R :=
  let transportTerminated := !x.sqlResponseRead
  { x with
    tunnel := x.tunnel.abort
    terminated := x.terminated || transportTerminated
    result := some (.error (.timeout timeoutMs transportTerminated)) }

/-- A step of the export, unless it is at its end. The deadline is looked at when the driver has
to wait. A poll goes on until then; the other tasks may go on between its steps. -/
def poll (timeoutMs : Option UInt64) (x : ExportRun Q R) : ExportRun Q R :=
  if x.result.isSome then x
  else
    match settleExport x, timeoutMs with
    | some x', _ => x'
    | none, some timeoutMs => if x.elapsed then x.timeOut timeoutMs else x
    | none, none => x

/-- What can happen during an export. -/
inductive Action (Q R : Type) where
  | respond (response : Except String Q)
  | endCallback (result : Except ExportError R)
  | forwarded (result : Except String Unit)
  | leaveTunnel
  | elapse
  | poll

/-- A step of a run. -/
def step (timeoutMs : Option UInt64) (x : ExportRun Q R) : Action Q R → ExportRun Q R
  | .respond response => { x with response := x.response.or (some response) }
  | .endCallback result => { x with callback := x.callback.or (some result) }
  | .forwarded result => { x with tunnel := x.tunnel.forwarded result }
  | .leaveTunnel => { x with tunnel := x.tunnel.leave }
  | .elapse => { x with elapsed := true }
  | .poll => poll timeoutMs x

end Driver

/-! ### The rules -/

section Rules

variable {Q R : Type}

/-- The result of the callback. -/
def callbackOf (seen : List (Seen Q R)) : Option (Except ExportError R) :=
  seen.findSome? fun
    | .callback result _ => some result
    | _ => none

/-- The result of the statement. -/
def statementOf (seen : List (Seen Q R)) : Option (Except ExportError Q) :=
  seen.findSome? fun
    | .statement result => some result
    | _ => none

/-- The result of the tunnel. -/
def tunnelOf (seen : List (Seen Q R)) : Option (Except ExportError Unit) :=
  seen.findSome? fun
    | .tunnel result => some result
    | _ => none

/-- The callback failed after a broken tunnel had ended its data early. -/
def failedOnBrokenTunnel (seen : List (Seen Q R)) : Bool :=
  seen.any fun
    | .callback (.error _) tunnelFailed => tunnelFailed
    | _ => false

/-- The error of a callback that failed before the statement responded. -/
def failedFirst : List (Seen Q R) → Option ExportError
  | .callback (.error e) _ :: _ => some e
  | .statement _ :: _ => none
  | _ :: seen => failedFirst seen
  | [] => none

/-- **The rules for the result.** The first that matches decides; there is no result as long as
the export has to wait.

1. The callback fails after a broken tunnel ended its data early: the error of the statement, or
   that of the tunnel if the statement succeeded.
2. The callback fails before the statement responds: its error, once there is a response.
3. The statement fails: its error, at once.
4. The tunnel failed: its error.
5. Otherwise the result of the callback. -/
def documented (seen : List (Seen Q R)) : Option (Except ExportError R) :=
  if failedOnBrokenTunnel seen then
    match statementOf seen, tunnelOf seen with
    | some (.error e), _ => some (.error e)
    | some (.ok _), some (.error e) => some (.error e)
    | _, _ => none
  else
    match failedFirst seen, statementOf seen with
    | some e, some _ => some (.error e)
    | none, some (.error e) => some (.error e)
    | none, some (.ok _) =>
      match tunnelOf seen with
      | some (.error e) => some (.error e)
      | some (.ok ()) => callbackOf seen
      | none => none
    | _, none => none

/-- **What is owed to the caller and to the connection.** -/
structure Upheld (x : ExportRun Q R) : Prop where
  /-- The result of the settled export is the one that the rules give. -/
  settled : ∀ result, x.settling = .returned result →
    x.result = some result ∧ documented x.seen = some result
  /-- Another result is that of a deadline, and tells what has become of the transport. -/
  timedOut : ∀ result, x.result = some result → (∀ r, x.settling ≠ .returned r) →
    ∃ timeoutMs, result = .error (.timeout timeoutMs x.terminated) ∧ x.elapsed = true
  /-- The response has been read when the export returns, or the transport is not used
  again. -/
  drained : x.result.isSome → x.sqlResponseRead = true ∨ x.terminated = true

end Rules

/-! ### The invariant -/

section Invariant

variable {Q R : Type}

/-- A recorded failure is the result of the tunnel. -/
def TunnelTask.FailsAsRecorded (t : TunnelTask) : Prop :=
  t.failed = true →
    match t.phase with
    | .forwarding => False
    | .leaving result | .finished result => ∃ e, result = .error e
    | .aborted => True

/-- The tunnel went on: what was recorded and what was joined stays. -/
structure TunnelTask.GoesOn (t t' : TunnelTask) : Prop where
  failed : t.failed = true → t'.failed = true
  join : ∀ result, t.join = some result → t'.join = some result
  asRecorded : t.FailsAsRecorded → t'.FailsAsRecorded

/-- How far the driver has come agrees with what it has seen. -/
inductive Consistent (t : TunnelTask) : Settling R → List (Seen Q R) → Prop
  | racing : Consistent t .racing []
  | value (v : R) (b : Bool) : Consistent t (.value v) [.callback (.ok v) b]
  | valueJoin (v : R) (b : Bool) (q : Q) :
      Consistent t (.valueJoin v) [.callback (.ok v) b, .statement (.ok q)]
  | broken (e : ExportError) (h : t.failed = true) :
      Consistent t (.broken e) [.callback (.error e) true]
  | brokenJoin (e : ExportError) (q : Q) (h : t.failed = true) :
      Consistent t (.brokenJoin e) [.callback (.error e) true, .statement (.ok q)]
  | drain (e : ExportError) : Consistent t (.drain e) [.callback (.error e) false]
  | both (q : Q) : Consistent t (.both none none) [.statement (.ok q)]
  | tunnelEnded (q : Q) (r : Except ExportError Unit) (h : t.join = some r) :
      Consistent t (.both (some r) none) [.statement (.ok q), .tunnel r]
  | callbackEnded (q : Q) (c : Except ExportError R) (b : Bool) (h : b = true → t.failed = true) :
      Consistent t (.both none (some c)) [.statement (.ok q), .callback c b]
  | tunnelFirst (q : Q) (r : Except ExportError Unit) (c : Except ExportError R) (b : Bool)
      (h : b = true → ∃ e, r = .error e) :
      Consistent t (.both (some r) (some c)) [.statement (.ok q), .tunnel r, .callback c b]
  | callbackFirst (q : Q) (r : Except ExportError Unit) (c : Except ExportError R) (b : Bool)
      (h : b = true → ∃ e, r = .error e) :
      Consistent t (.both (some r) (some c)) [.statement (.ok q), .callback c b, .tunnel r]
  | returned (r : Except ExportError R) (seen : List (Seen Q R)) (h : documented seen = some r)
      (hread : (statementOf seen).isSome) : Consistent t (.returned r) seen

/-- **The invariant of a run.** -/
structure Invariant (x : ExportRun Q R) : Prop where
  consistent : Consistent x.tunnel x.settling x.seen
  tunnel : x.tunnel.FailsAsRecorded
  read : x.sqlResponseRead = (statementOf x.seen).isSome
  upheld : Upheld x
  /-- As long as there is no result, the driver has not returned and the transport is there. -/
  running : x.result = none → (∀ r, x.settling ≠ .returned r) ∧ x.terminated = false

/-- Nothing else than the tunnel changes. -/
theorem Consistent.mono {t t' : TunnelTask} (h : t.GoesOn t') {s : Settling R}
    {seen : List (Seen Q R)} (hc : Consistent t s seen) : Consistent t' s seen := by
  cases hc with
  | racing => exact .racing
  | value v b => exact .value v b
  | valueJoin v b q => exact .valueJoin v b q
  | broken e hf => exact .broken e (h.failed hf)
  | brokenJoin e q hf => exact .brokenJoin e q (h.failed hf)
  | drain e => exact .drain e
  | both q => exact .both q
  | tunnelEnded q r hr => exact .tunnelEnded q r (h.join r hr)
  | callbackEnded q c b hb => exact .callbackEnded q c b fun hb' => h.failed (hb hb')
  | tunnelFirst q r c b hb => exact .tunnelFirst q r c b hb
  | callbackFirst q r c b hb => exact .callbackFirst q r c b hb
  | returned r seen hd hread => exact .returned r seen hd hread

namespace TunnelTask

theorem goesOn_forwarded (result : Except String Unit) (t : TunnelTask) :
    t.GoesOn (t.forwarded result) := by
  obtain ⟨phase, discarding, failed⟩ := t
  cases phase <;> rcases result with e | ⟨⟩ <;> constructor <;>
    simp [forwarded, join, FailsAsRecorded]

theorem goesOn_leave (t : TunnelTask) : t.GoesOn t.leave := by
  obtain ⟨phase, discarding, failed⟩ := t
  cases phase <;> constructor <;> simp [leave, join, FailsAsRecorded]

theorem goesOn_discard (t : TunnelTask) : t.GoesOn t.discard := ⟨id, fun _ => id, id⟩

theorem goesOn_abort (t : TunnelTask) : t.GoesOn t.abort := by
  obtain ⟨phase, discarding, failed⟩ := t
  cases phase <;> constructor <;> simp [abort, join, FailsAsRecorded]

/-- A failed tunnel is joined with its error. -/
theorem exists_error_of_join {t : TunnelTask} (h : t.FailsAsRecorded) (hf : t.failed = true)
    {result : Except ExportError Unit} (hjoin : t.join = some result) :
    ∃ e, result = .error e := by
  obtain ⟨phase, discarding, failed⟩ := t
  have hphase := h hf
  cases phase with
  | finished r =>
    cases hjoin
    exact hphase
  | _ => cases hjoin

end TunnelTask

/-- The tunnel and the callback decide after a statement that succeeded, whichever ended
first. -/
theorem documented_both {q : Q} {r : Except ExportError Unit} {c : Except ExportError R} {b : Bool}
    (h : b = true → ∃ e, r = .error e) :
    documented [.statement (.ok q), .tunnel r, .callback c b] = some (r.bind fun _ => c) ∧
      documented [.statement (.ok q), .callback c b, .tunnel r] = some (r.bind fun _ => c) := by
  cases b with
  | true =>
    obtain ⟨e, rfl⟩ := h rfl
    cases c <;> exact ⟨rfl, rfl⟩
  | false => cases r <;> cases c <;> exact ⟨rfl, rfl⟩

/-- What a step of the driver keeps. -/
structure SettlesTo (x x' : ExportRun Q R) : Prop where
  consistent : Consistent x'.tunnel x'.settling x'.seen
  tunnel : x'.tunnel.FailsAsRecorded
  read : x'.sqlResponseRead = (statementOf x'.seen).isSome
  result : ∀ r, x'.settling = .returned r → x'.result = some r
  running : (∀ r, x'.settling ≠ .returned r) → x'.result = x.result
  terminated : x'.terminated = x.terminated

/-- The driver returns. -/
theorem settlesTo_return {x x' : ExportRun Q R} {r : Except ExportError R}
    (ht : x'.tunnel.FailsAsRecorded) (hd : documented x'.seen = some r)
    (hs : (statementOf x'.seen).isSome) (hread : x'.sqlResponseRead = true)
    (hterm : x'.terminated = x.terminated) : SettlesTo x (x'.return r) where
  consistent := .returned r x'.seen hd hs
  tunnel := ht
  read := hread.trans hs.symm
  result _ h := by
    cases h
    rfl
  running h := absurd rfl (h r)
  terminated := hterm

/-- **A step of the driver keeps what it has seen and what it waits for in agreement.** -/
theorem settlesTo_of_settleExport {x x' : ExportRun Q R}
    (hc : Consistent x.tunnel x.settling x.seen) (ht : x.tunnel.FailsAsRecorded)
    (hread : x.sqlResponseRead = (statementOf x.seen).isSome) (h : settleExport x = some x') :
    SettlesTo x x' := by
  obtain ⟨settling, tunnel, response, callback, elapsed, read, terminated, result, seen⟩ := x
  dsimp only at hc ht hread
  have habort := (tunnel.goesOn_abort).asRecorded ht
  have hdiscard := (tunnel.goesOn_discard).asRecorded ht
  unfold settleExport at h
  cases hc with
  | racing =>
    dsimp only at h
    cases callback with
    | some c =>
      cases h
      cases c with
      | ok v => exact ⟨.value v _, hdiscard, hread, nofun, fun _ => rfl, rfl⟩
      | error e =>
        unfold ExportRun.onCallback
        dsimp only
        split
        · rename_i hf
          refine ⟨?_, ht, hread, nofun, fun _ => rfl, rfl⟩
          change Consistent tunnel (.broken e) [.callback (.error e) tunnel.hasFailed]
          have hf' : tunnel.hasFailed = true := hf
          rw [hf']
          exact .broken e hf'
        · rename_i hf
          refine ⟨?_, habort, hread, nofun, fun _ => rfl, rfl⟩
          change Consistent tunnel.abort (.drain e) [.callback (.error e) tunnel.hasFailed]
          have hf' : tunnel.hasFailed = false := Bool.eq_false_iff.mpr hf
          rw [hf']
          exact .drain e
    | none =>
      cases response with
      | none => cases h
      | some r =>
        cases h
        cases r with
        | ok q => exact ⟨.both q, ht, rfl, nofun, fun _ => rfl, rfl⟩
        | error e => exact settlesTo_return habort rfl rfl rfl rfl
  | value v b =>
    obtain ⟨r, rfl, rfl⟩ := Option.map_eq_some_iff.mp h
    cases r with
    | ok q => exact ⟨.valueJoin v b q, ht, rfl, nofun, fun _ => rfl, rfl⟩
    | error e => exact settlesTo_return habort rfl rfl rfl rfl
  | valueJoin v b q =>
    obtain ⟨r, hr, rfl⟩ := Option.map_eq_some_iff.mp h
    refine settlesTo_return ht ?_ rfl hread rfl
    cases r <;> rfl
  | broken e hf =>
    obtain ⟨r, rfl, rfl⟩ := Option.map_eq_some_iff.mp h
    cases r with
    | ok q => exact ⟨.brokenJoin e q hf, ht, rfl, nofun, fun _ => rfl, rfl⟩
    | error e' => exact settlesTo_return ht rfl rfl rfl rfl
  | brokenJoin e q hf =>
    obtain ⟨r, hr, rfl⟩ := Option.map_eq_some_iff.mp h
    obtain ⟨e', rfl⟩ := TunnelTask.exists_error_of_join ht hf hr
    exact settlesTo_return ht rfl rfl hread rfl
  | drain e =>
    obtain ⟨r, rfl, rfl⟩ := Option.map_eq_some_iff.mp h
    exact settlesTo_return ht rfl rfl rfl rfl
  | both q =>
    dsimp only at h
    cases hjoin : tunnel.join with
    | some r =>
      rw [hjoin] at h
      cases h
      exact ⟨.tunnelEnded q r hjoin, ht, hread, nofun, fun _ => rfl, rfl⟩
    | none =>
      rw [hjoin] at h
      cases callback with
      | none => cases h
      | some c =>
        cases h
        exact ⟨.callbackEnded q c _ id, ht, hread, nofun, fun _ => rfl, rfl⟩
  | tunnelEnded q r hr =>
    cases callback with
    | none => cases h
    | some c =>
      cases h
      refine ⟨.tunnelFirst q r c _ fun hf => ?_, ht, hread, nofun, fun _ => rfl, rfl⟩
      exact TunnelTask.exists_error_of_join ht hf hr
  | callbackEnded q c b hb =>
    dsimp only at h
    cases hjoin : tunnel.join with
    | none =>
      rw [hjoin] at h
      cases h
    | some r =>
      rw [hjoin] at h
      cases h
      refine ⟨.callbackFirst q r c b fun hb' => ?_, ht, hread, nofun, fun _ => rfl, rfl⟩
      exact TunnelTask.exists_error_of_join ht (hb hb') hjoin
  | tunnelFirst q r c b hb =>
    cases h
    exact settlesTo_return ht (documented_both hb).1 rfl hread rfl
  | callbackFirst q r c b hb =>
    cases h
    exact settlesTo_return ht (documented_both hb).2 rfl hread rfl
  | returned r seen hd hs => cases h

/-- A step of the driver keeps the invariant. -/
theorem invariant_settled {x x' : ExportRun Q R} (hnone : x.result = none)
    (hterm : x.terminated = false) (h : SettlesTo x x') : Invariant x' := by
  have hreturned (r : Except ExportError R) (hr : x'.settling = .returned r) :
      documented x'.seen = some r ∧ x'.sqlResponseRead = true := by
    have hc := h.consistent
    rw [hr] at hc
    cases hc with
    | returned r seen hd hs => exact ⟨hd, h.read.trans hs⟩
  refine ⟨h.consistent, h.tunnel, h.read, ⟨fun r hr => ⟨h.result r hr, (hreturned r hr).1⟩, ?_, ?_⟩,
    fun hnone' => ⟨fun r hr => ?_, h.terminated.trans hterm⟩⟩
  · intro result hresult hnot
    rw [h.running hnot, hnone] at hresult
    cases hresult
  · intro hsome
    by_cases hnot : ∀ r, x'.settling ≠ .returned r
    · rw [h.running hnot, hnone] at hsome
      cases hsome
    · push Not at hnot
      obtain ⟨r, hr⟩ := hnot
      exact .inl (hreturned r hr).2
  · rw [h.result r hr] at hnone'
    cases hnone'

/-- A deadline keeps the invariant: the transport is terminated unless the response has been
read. -/
theorem invariant_timeOut {x : ExportRun Q R} (h : Invariant x) (hnone : x.result = none)
    (helapsed : x.elapsed = true) (timeoutMs : UInt64) : Invariant (x.timeOut timeoutMs) := by
  obtain ⟨hrunning, hterm⟩ := h.running hnone
  have hgoesOn := x.tunnel.goesOn_abort
  refine ⟨h.consistent.mono hgoesOn, hgoesOn.asRecorded h.tunnel, h.read,
    ⟨fun r hr => absurd hr (hrunning r), fun result hresult _ => ?_, fun _ => ?_⟩, nofun⟩
  · cases hresult
    refine ⟨timeoutMs, ?_, helapsed⟩
    change _ = Except.error (ExportError.timeout timeoutMs (x.terminated || !x.sqlResponseRead))
    rw [hterm, Bool.false_or]
  · change x.sqlResponseRead = true ∨ (x.terminated || !x.sqlResponseRead) = true
    cases x.sqlResponseRead
    · exact .inr (Bool.or_true _)
    · exact .inl rfl

/-- **A step of a run keeps the invariant.** -/
theorem invariant_step (timeoutMs : Option UInt64) (x : ExportRun Q R) (a : Action Q R)
    (h : Invariant x) : Invariant (step timeoutMs x a) := by
  have hgoesOn {t : TunnelTask} (ht : x.tunnel.GoesOn t) : Invariant { x with tunnel := t } :=
    ⟨h.consistent.mono ht, ht.asRecorded h.tunnel, h.read,
      ⟨h.upheld.settled, h.upheld.timedOut, h.upheld.drained⟩, h.running⟩
  cases a with
  | respond response =>
    exact ⟨h.consistent, h.tunnel, h.read,
      ⟨h.upheld.settled, h.upheld.timedOut, h.upheld.drained⟩, h.running⟩
  | endCallback result =>
    exact ⟨h.consistent, h.tunnel, h.read,
      ⟨h.upheld.settled, h.upheld.timedOut, h.upheld.drained⟩, h.running⟩
  | forwarded result => exact hgoesOn (x.tunnel.goesOn_forwarded result)
  | leaveTunnel => exact hgoesOn x.tunnel.goesOn_leave
  | elapse =>
    refine ⟨h.consistent, h.tunnel, h.read, ⟨h.upheld.settled, ?_, h.upheld.drained⟩, h.running⟩
    intro result hresult hnot
    obtain ⟨ms, hms, -⟩ := h.upheld.timedOut result hresult hnot
    exact ⟨ms, hms, rfl⟩
  | poll =>
    change Invariant (poll timeoutMs x)
    unfold poll
    split
    · exact h
    · rename_i hsome
      have hnone : x.result = none := by simpa using hsome
      obtain ⟨hrunning, hterm⟩ := h.running hnone
      split
      · rename_i x' hx'
        exact invariant_settled hnone hterm (settlesTo_of_settleExport h.consistent h.tunnel h.read hx')
      · rename_i ms hx'
        split
        · rename_i helapsed
          exact invariant_timeOut h hnone helapsed ms
        · exact h
      · exact h

end Invariant

end Exarrow.Export
