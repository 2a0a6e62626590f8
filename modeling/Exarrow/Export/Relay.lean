import Exarrow.Export.Settle
import Exarrow.Export.Upload
import Exarrow.Foundations.Piping
import Exarrow.Foundations.Runs

/-!
# From the tunnel to the consumer

While an export runs, one task handles the request of the server and hands the pieces of the
body on (`Exarrow.Export.Relay.serve`), a second one relays them to the consumer
(`Exarrow.Export.Relay.relayPieces`), and the consumer receives them
(`Exarrow.Export.Relay.consume`). The tasks are joined by pipes of bounded capacity, so that each
may have to wait for another one. A consumer may hang up, or keep its end of the pipe and never
receive again; the driver may tell the relay to discard what comes, or stop both tasks.
-/

namespace Exarrow.Export.Relay

open Http Piping

/-! ### The tasks -/

/-- The number of pieces that wait for the consumer, at most. -/
def defaultPipeBufferSize : ℕ := 16

/-- How far the task has come that serves the tunnel. -/
inductive Serving where
  /-- It handles the request, and has these pieces still to hand on. -/
  | sending (unsent : List (List UInt8))
  /-- The request has been handled. -/
  | handled
  /-- A failure has been recorded. -/
  | recorded
  /-- The task has dropped its end of the pipe. -/
  | leaving
  | finished
  | cancelled

/-- How far the relay has come. -/
inductive Relaying where
  /-- It waits for a piece from the tunnel. -/
  | waiting
  /-- It waits for the consumer to take a piece. -/
  | holding (piece : List UInt8)
  | ended
  | cancelled

/-- The tasks, the pipes between them, and what they share. What the consumer has received is
not read by any task. -/
structure Tasks where
  serving : Serving
  fromTunnel : Pipe (List UInt8) 1 := {}
  relaying : Relaying := .waiting
  /-- The relay discards what comes. -/
  discarding : Bool := false
  sink : Pipe (List UInt8) defaultPipeBufferSize := {}
  /-- The driver has told the relay to discard what comes. -/
  discarded : Bool := false
  /-- The relay has still to hear of it. -/
  notified : Bool := false
  /-- A failure of the tunnel is recorded. -/
  failed : Bool := false
  /-- The driver has told both tasks to stop. -/
  aborting : Bool := false
  received : List (List UInt8) := []
  /-- The consumer has seen its data end. -/
  sawEnd : Bool := false

/-- What can happen. -/
inductive Action where
  | serve
  /-- The relay goes on; when it can do both, it may rather discard the piece it holds. -/
  | relay (discardFirst : Bool)
  | consume
  /-- The consumer drops its end of the pipe. -/
  | hangUp
  | discard
  | abort
  | cancelServing
  | cancelRelay

section Steps

variable (h : Handled)

/-- The task that serves the tunnel goes on, unless it has to wait. A failure is recorded before
the pipe is dropped. -/
def serve (x : Tasks) : Tasks :=
  match x.serving with
  | .sending (piece :: unsent) =>
    match x.fromTunnel.send piece with
    -- When nobody relays any more, the piece is lost.
    | some (_, fromTunnel) => { x with serving := .sending unsent, fromTunnel := fromTunnel }
    | none => x
  | .sending [] => { x with serving := .handled }
  | .handled => { x with serving := .recorded, failed := x.failed || !h.result.isOk }
  | .recorded => { x with serving := .leaving, fromTunnel := x.fromTunnel.dropSender }
  | .leaving => { x with serving := .finished }
  | .finished => x
  | .cancelled => x

/-- The relay gives the piece up that it holds. -/
def giveUp (x : Tasks) : Tasks :=
  { x with relaying := .waiting, discarding := true, notified := false }

/-- The relay goes on, unless it has to wait. -/
def relayPieces (discardFirst : Bool) (x : Tasks) : Tasks :=
  match x.relaying with
  | .waiting =>
    match x.fromTunnel.receive with
    | some (some piece, fromTunnel) => { x with
        fromTunnel := fromTunnel
        relaying := if x.discarding then .waiting else .holding piece }
    | some (none, fromTunnel) => { x with
        fromTunnel := fromTunnel.dropReceiver
        relaying := .ended
        sink := x.sink.dropSender }
    | none => x
  | .holding piece =>
    match x.sink.send piece with
    | some (taken, sink) =>
      if x.notified && discardFirst then giveUp x
      else { x with relaying := .waiting, sink := sink, discarding := !taken }
    | none => if x.notified then giveUp x else x
  | .ended => x
  | .cancelled => x

/-- The consumer receives, unless it has to wait or has hung up. -/
def consume (x : Tasks) : Tasks :=
  if x.sink.receiverGone then x
  else
    match x.sink.receive with
    | some (some piece, sink) => { x with sink := sink, received := x.received ++ [piece] }
    | some (none, _) => { x with sawEnd := true }
    | none => x

/-- The task that serves the tunnel stops where it is, if it has been told to. -/
def cancelServing (x : Tasks) : Tasks :=
  match x.aborting, x.serving with
  | true, .sending _ | true, .handled | true, .recorded | true, .leaving =>
    { x with serving := .cancelled, fromTunnel := x.fromTunnel.dropSender }
  | _, _ => x

/-- The relay stops where it is, if it has been told to. -/
def cancelRelay (x : Tasks) : Tasks :=
  match x.aborting, x.relaying with
  | true, .waiting | true, .holding _ =>
    { x with
      relaying := .cancelled
      fromTunnel := x.fromTunnel.dropReceiver
      sink := x.sink.dropSender }
  | _, _ => x

/-- A step of a run. -/
def step (x : Tasks) : Action → Tasks
  | .serve => serve h x
  | .relay discardFirst => relayPieces discardFirst x
  | .consume => consume x
  | .hangUp => { x with sink := x.sink.dropReceiver }
  | .discard => { x with discarded := true, notified := true }
  | .abort => { x with aborting := true }
  | .cancelServing => cancelServing x
  | .cancelRelay => cancelRelay x

/-- The tasks at the beginning. -/
def begin : Tasks := { serving := .sending h.sent }

end Steps

/-! ### The ends of the pipes -/

/-- The task has dropped its end of the pipe. -/
def Serving.isGone : Serving → Bool
  | sending _ | handled | recorded => false
  | leaving | finished | cancelled => true

/-- The task is past the point at which it records a failure. -/
def Serving.IsPast : Serving → Prop
  | sending _ | handled | cancelled => False
  | recorded | leaving | finished => True

/-- The relay has dropped its ends of both pipes. -/
def Relaying.isGone : Relaying → Bool
  | waiting | holding _ => false
  | ended | cancelled => true

section Invariant

variable {h : Handled} {x : Tasks}

/-- **Who holds what.** The ends of the pipes go with the tasks, a task stops only when it is told
to, and a failure is recorded before the relay can come to its end. -/
structure Joined (h : Handled) (x : Tasks) : Prop where
  fromServing : x.fromTunnel.senderGone = x.serving.isGone
  toRelay : x.fromTunnel.receiverGone = x.relaying.isGone
  fromRelay : x.sink.senderGone = x.relaying.isGone
  ended : x.relaying = .ended → x.serving.isGone = true ∧ x.fromTunnel.queue = []
  servingCancelled : x.serving = .cancelled → x.aborting = true
  relayCancelled : x.relaying = .cancelled → x.aborting = true
  holds : ∀ piece, x.relaying = .holding piece → x.discarding = false
  heard : x.discarded = true → x.notified = true ∨ x.discarding = true
  isPast : x.serving.IsPast → x.failed = !h.result.isOk
  failed : x.failed = true → h.result.isOk = false

/-- A step of the task that serves the tunnel. -/
theorem Joined.serve (hx : Joined h x) : Joined h (serve h x) := by
  have hbusy {s : Serving} (hs : x.serving = s) (hgone : s.isGone = false) :
      x.relaying ≠ .ended := by
    intro hended
    have hgone' := (hx.ended hended).1
    rw [hs, hgone] at hgone'
    cases hgone'
  fun_cases Relay.serve h x with
  | case1 piece unsent hserving taken p hsend =>
    obtain ⟨hsender, hreceiver, -, -⟩ := Pipe.send_eq_some hsend
    have hfrom := hx.fromServing
    rw [hserving] at hfrom
    exact { hx with
      fromServing := hsender.trans hfrom
      toRelay := hreceiver.trans hx.toRelay
      ended := fun hended => absurd hended (hbusy hserving rfl)
      servingCancelled := nofun
      isPast := nofun }
  | case2 => exact hx
  | case3 hserving =>
    have hfrom := hx.fromServing
    rw [hserving] at hfrom
    exact { hx with
      fromServing := hfrom
      ended := fun hended => absurd hended (hbusy hserving rfl)
      servingCancelled := nofun
      isPast := nofun }
  | case4 hserving =>
    have hfrom := hx.fromServing
    rw [hserving] at hfrom
    have hfailed : (x.failed || !h.result.isOk) = !h.result.isOk := by
      cases hb : x.failed with
      | false => rfl
      | true =>
        rw [hx.failed hb]
        rfl
    exact { hx with
      fromServing := hfrom
      ended := fun hended => absurd hended (hbusy hserving rfl)
      servingCancelled := nofun
      isPast := fun _ => hfailed
      failed := fun hb => by
        rw [hfailed] at hb
        simpa using hb }
  | case5 hserving =>
    exact { hx with
      fromServing := rfl
      ended := fun hended => absurd hended (hbusy hserving rfl)
      servingCancelled := nofun
      isPast := fun _ => hx.isPast (by rw [hserving]; trivial) }
  | case6 hserving =>
    have hfrom := hx.fromServing
    rw [hserving] at hfrom
    exact { hx with
      fromServing := hfrom
      ended := fun hended => ⟨rfl, (hx.ended hended).2⟩
      servingCancelled := nofun
      isPast := fun _ => hx.isPast (by rw [hserving]; trivial) }
  | case7 => exact hx
  | case8 => exact hx

end Invariant

end Exarrow.Export.Relay
