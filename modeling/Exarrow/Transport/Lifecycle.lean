import Exarrow.Protocol
import Exarrow.Session

/-!
# The lifecycle of a connection

The native and the WebSocket transport share the rules for moving between the states of a
connection (`Exarrow.Transport.ConnectionLifecycle`): the guard before every operation, the
login under what is left of the deadline that connecting has started, the graceful close,
and the termination. A transport supplies the steps that differ
(`Exarrow.Transport.LifecycleSteps`).

The operations of a transport are programs that wait for the network
(`Exarrow.Transport.Operation`). They return a value or an error; they may also wait for
something that does not come, and then only a deadline ends them
(`Exarrow.Transport.SetupDeadline.runTimed`).
-/

namespace Exarrow.Transport

open Checked Client

/-! ### Operations -/

/-- Why an operation does not return a value. -/
inductive Interruption where
  /-- It returns an error, or stops the program. -/
  | fault (f : Fault TransportError)
  /-- It waits for something that does not come. -/
  | waits

/-- An operation of a transport with state `σ`. -/
abbrev Operation (σ Req : Type) (Ans : Req → Type) (α : Type) : Type :=
  Attempt σ Req Ans Interruption α

section Operations

variable {σ Req α : Type} {Ans : Req → Type}

/-- The result of a computation. -/
def ofExec : Exec TransportError α → Except Interruption α
  | .ok a => .ok a
  | .error f => .error (.fault f)

/-- Go on with the result of a computation. -/
def lift (x : Exec TransportError α) : Operation σ Req Ans α := Attempt.of (ofExec x)

/-- Return an error. -/
def failWith (e : TransportError) : Operation σ Req Ans α := lift (fail e)

/-- What the network gives: nothing that comes in time, an error, or a value. -/
abbrev Reply (ε α : Type) : Type := Option (Except ε α)

/-- The value that the network gives, its errors being those of a transport. -/
def Reply.result {ε : Type} (f : ε → TransportError) : Reply ε α → Except Interruption α
  | none => .error .waits
  | some (.error e) => .error (.fault (.error (f e)))
  | some (.ok a) => .ok a

/-- Change the state. -/
def modify (f : σ → σ) : Operation σ Req Ans Unit := Attempt.read >>= fun s => Attempt.write (f s)

/-- Run an operation and look at its error. -/
def attempt (p : Operation σ Req Ans α) : Operation σ Req Ans (Except TransportError α) :=
  ExceptT.mk (p.run.bind fun
    | .ok a => .done (.ok (.ok a))
    | .error (.fault (.error e)) => .done (.ok (.error e))
    | .error i => .done (.error i))

end Operations

/-! ### States and deadlines -/

/-- The connection state of a transport. -/
inductive ConnectionState where
  | disconnected
  | connected
  | authenticated
  /-- Ended by a graceful close or by a login that ran out of time. -/
  | closed
  /-- Ended by a termination, which every later operation but closing names. -/
  | terminated
  deriving DecidableEq

/-- A step of connecting that is named when time runs out. -/
inductive SetupStep where
  | tcpConnect
  | tlsHandshake
  | webSocketUpgrade
  | login
  deriving DecidableEq

/-- The name of a step. -/
def SetupStep.text : SetupStep → String
  | tcpConnect => "TCP connect"
  | tlsHandshake => "TLS handshake"
  | webSocketUpgrade => "WebSocket upgrade"
  | login => "login"

/-- The time for the steps of connecting. -/
structure SetupDeadline where
  budget : Duration
  label : String
  deriving DecidableEq

namespace SetupDeadline

/-- The error of a step for which there was no time. -/
def timeoutError (d : SetupDeadline) (step : SetupStep) : TransportError :=
  .ioError s!"{d.label} timeout after {d.budget.asMillis}ms ({step.text})"

variable {σ Req α : Type} {Ans : Req → Type}

/-- Run a step until it finishes or the deadline passes, and say whether it passed. -/
def runTimed (d : SetupDeadline) (step : SetupStep) (p : Operation σ Req Ans α) :
    Operation σ Req Ans (Except TransportError α × Bool) :=
  ExceptT.mk (p.run.bind fun
    | .ok a => .done (.ok (.ok a, false))
    | .error (.fault (.error e)) => .done (.ok (.error e, false))
    | .error (.fault .panic) => .done (.error (.fault .panic))
    | .error .waits => .done (.ok (.error (d.timeoutError step), true)))

/-- Run a step until it finishes or the deadline passes. -/
def run (d : SetupDeadline) (step : SetupStep) (p : Operation σ Req Ans α) :
    Operation σ Req Ans α := do
  let (result, _) ← d.runTimed step p
  lift (Checked.ofExcept result)

end SetupDeadline

/-- The connection state and the deadline that connecting has started. -/
structure ConnectionLifecycle where
  state : ConnectionState := .disconnected
  deadline : Option SetupDeadline := none
  deriving DecidableEq

/-- The error of every operation on a terminated transport but closing. -/
def terminatedError : TransportError :=
  .protocolError ("Transport was terminated after an export gave up on an in-flight response; " ++
    "reconnect before the next operation")

/-- The text for a login without a connection. -/
def mustConnect : String := "Must connect before authenticating"

namespace ConnectionLifecycle

/-- Whether the connection is open: from a finished connect to a close or a termination. -/
def isOpen (l : ConnectionLifecycle) : Bool := l.state = .connected || l.state = .authenticated

/-- The guard before an operation. -/
def require (l : ConnectionLifecycle) (expected : ConnectionState) (message : String) :
    Exec TransportError Unit :=
  if l.state = expected then .ok ()
  else if l.state = .terminated then fail terminatedError
  else fail (.protocolError message)

/-- Start the deadline. -/
def beginConnect (l : ConnectionLifecycle) (timeoutMs : UInt64) :
    Exec TransportError SetupDeadline := do
  l.require .disconnected "Already connected"
  return ⟨Duration.fromMillis timeoutMs, "Connection"⟩

/-- The lifecycle after a connect. -/
def connected (_ : ConnectionLifecycle) (deadline : SetupDeadline) : ConnectionLifecycle :=
  ⟨.connected, some deadline⟩

variable {l : ConnectionLifecycle} {expected : ConnectionState} {message : String}

/-- The guard lets an operation pass in the state that it expects, and in no other. -/
theorem require_eq_ok_iff : l.require expected message = .ok () ↔ l.state = expected := by
  unfold require
  split
  · rename_i h
    exact ⟨fun _ => h, fun _ => rfl⟩
  · rename_i h
    split <;> exact ⟨fun hok => (nomatch hok), fun heq => absurd heq h⟩

/-- In every other state it returns an error. -/
theorem exists_require_eq_fail (h : l.state ≠ expected) :
    ∃ e, l.require expected message = fail e := by
  unfold require
  rw [if_neg h]
  split <;> exact ⟨_, rfl⟩

/-- A connection is open exactly in two of the states. -/
theorem isOpen_iff : l.isOpen = true ↔ l.state = .connected ∨ l.state = .authenticated := by
  unfold isOpen
  rw [Bool.or_eq_true, decide_eq_true_iff, decide_eq_true_iff]

end ConnectionLifecycle

/-! ### The rules -/

/-- The steps of the lifecycle that differ per transport. -/
structure LifecycleSteps (σ Req : Type) (Ans : Req → Type) where
  /-- The lifecycle of the transport. -/
  lifecycle : σ → ConnectionLifecycle
  /-- The transport with another lifecycle. -/
  withLifecycle : ConnectionLifecycle → σ → σ
  /-- The login on the open connection. -/
  loginExchange : Credentials → Operation σ Req Ans SessionInfo
  /-- The input and output of a graceful close, whose errors do not matter. -/
  sendDisconnect : Operation σ Req Ans Unit
  /-- Drop the connection and the session. -/
  releaseConnection : σ → σ
  /-- Whether the deadline has passed by now. -/
  hasElapsed : Operation σ Req Ans Bool

namespace LifecycleSteps

variable {σ Req : Type} {Ans : Req → Type} (steps : LifecycleSteps σ Req Ans)

/-- The transport in another state. -/
def withState (state : ConnectionState) (t : σ) : σ :=
  steps.withLifecycle { steps.lifecycle t with state } t

/-- Release the connection and note the termination. -/
def terminate (t : σ) : σ := steps.withState .terminated (steps.releaseConnection t)

/-- Release the connection and note that it is closed. -/
def shut (t : σ) : σ := steps.withState .closed (steps.terminate t)

/-- Log in under what is left of the deadline. A login that ran out of time closes the
connection; after any other error it stays connected. -/
def authenticateWithinDeadline (credentials : Credentials) : Operation σ Req Ans SessionInfo := do
  let t ← Attempt.read
  lift ((steps.lifecycle t).require .connected mustConnect)
  let deadline ← lift (orFail (.protocolError mustConnect) (steps.lifecycle t).deadline)
  let (result, timedOut) ← deadline.runTimed .login (steps.loginExchange credentials)
  match result with
  | .ok session =>
    modify (steps.withState .authenticated)
    return session
  | .error error =>
    -- A deadline that has ended the login has passed.
    let elapsed ← if timedOut then pure true else steps.hasElapsed
    if elapsed then modify steps.shut
    failWith error

/-- Close an open transport; one that is not open keeps its state. -/
def closeGracefully : Operation σ Req Ans Unit := do
  let t ← Attempt.read
  if (steps.lifecycle t).isOpen then
    steps.sendDisconnect
    modify steps.shut

end LifecycleSteps

end Exarrow.Transport
