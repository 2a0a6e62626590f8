import Exarrow.Foundations.Runs
import Exarrow.Transport.Lifecycle

/-!
# The life of a transport

A transport is called any number of times, in any order, on a network that may answer anything at
each request, or nothing, and each call may be abandoned at each of its requests. What holds of
every transport whose calls obey the rules (`Exarrow.Transport.TransportProtocol.Rules`) is proved
here once: its parts fit each other in every state, and **once it is closed or terminated it stays
so, and every later call asks the network for nothing** and fails, unless it closes or terminates
(`Exarrow.Transport.TransportProtocol.always_upheld_of_rules`).

The first part has the rules by which operations are verified.
-/

namespace Exarrow.Transport

open Machine Checked Client

section Operations

variable {σ Req S Ω α β : Type} {Ans : Req → Type} {srv : Server S Req Ans Ω} {allowed : Set Ω}
  {K : σ → S → Prop} {post : Except Interruption α → σ → S → Prop} {drop : σ → S → Prop} {t : σ}
  {s : S}

/-! ### Rules for operations -/

/-- Going on with the result of a computation keeps what is kept with its value. -/
theorem keeps_lift_bind {x : Exec TransportError α} {f : α → Operation σ Req Ans β}
    (h : ∀ a, x = .ok a → Keeps srv allowed K (f a).run) :
    Keeps srv allowed K (lift x >>= f).run := by
  refine keeps_of_bind fun a ha => ?_
  rcases x with e | b
  · cases ha
  · cases ha
    exact h _ rfl

/-- The state is read first. -/
theorem wp_read_bind {f : σ → Operation σ Req Ans α} :
    wp srv allowed (Attempt.read >>= f).run post drop t s ↔
      wp srv allowed (f t).run post drop t s := Iff.rfl

/-- A change of the state comes first. -/
theorem wp_modify_bind {g : σ → σ} {f : Unit → Operation σ Req Ans α} :
    wp srv allowed (modify g >>= f).run post drop t s ↔
      wp srv allowed (f ()).run post drop (g t) s := Iff.rfl

/-- A computation comes first. -/
theorem wp_lift_bind {x : Exec TransportError β} {f : β → Operation σ Req Ans α}
    (hok : ∀ b, x = .ok b → wp srv allowed (f b).run post drop t s)
    (herr : ∀ e, x = .error e → post (.error (.fault e)) t s) :
    wp srv allowed (lift x >>= f).run post drop t s := by
  rcases x with e | b
  · exact herr e rfl
  · exact hok b rfl

/-- A request comes first, whose answer does not matter. -/
theorem wp_request_bind {r : Req} {g : Ans r → Except Interruption β}
    {f : β → Operation σ Req Ans α} (hdrop : ∀ s, drop t s) (herr : ∀ e s, post (.error e) t s)
    (hf : ∀ b s, wp srv allowed (f b).run post drop t s) :
    wp srv allowed (Attempt.ask r g >>= f).run post drop t s :=
  wp_ask_bind (hdrop s) fun _ _ => ⟨hdrop _, wp_of_bind (fun b _ => hf b _) fun e _ => herr e _⟩

/-- **What a program keeps holds where the next one starts.** -/
theorem wp_keeps_bind {p : Operation σ Req Ans β} {f : β → Operation σ Req Ans α}
    (hp : Keeps srv allowed K p.run) (hdrop : ∀ t s, K t s → drop t s)
    (herr : ∀ e t s, K t s → post (.error e) t s)
    (hf : ∀ b t s, K t s → wp srv allowed (f b).run post drop t s) (h : K t s) :
    wp srv allowed (p >>= f).run post drop t s := by
  rw [wp_attempt_bind]
  refine wp_mono (fun r t' s' hK => ?_) hdrop (hp t s h)
  cases r with
  | ok b => exact hf b t' s' hK
  | error e => exact herr e t' s' hK

/-- A request by itself leaves the transport as it is. -/
theorem keeps_request {P : σ → Prop} {r : Req} {g : Ans r → Except Interruption α} :
    Keeps srv allowed (fun t _ => P t) (Attempt.ask r g : Operation σ Req Ans α).run :=
  keeps_ask fun _ _ _ _ h => h

/-- A step under a deadline keeps what the step keeps. -/
theorem keeps_deadlineRun {d : SetupDeadline} {step : SetupStep} {p : Operation σ Req Ans α}
    (h : Keeps srv allowed K p.run) : Keeps srv allowed K (d.run step p).run := by
  have htimed : Keeps srv allowed K (d.runTimed step p).run := by
    intro t s hK
    refine wp_bind.mpr (wp_mono (fun r t' s' hK' => ?_) (fun _ _ h => h) (h t s hK))
    rcases r with (⟨e | _⟩ | _) | a <;> exact hK'
  exact keeps_bind htimed fun _ => keeps_done _

/-- A step whose error is looked at keeps what the step keeps. -/
theorem keeps_attempt {p : Operation σ Req Ans α} (h : Keeps srv allowed K p.run) :
    Keeps srv allowed K (attempt p).run := by
  intro t s hK
  refine wp_bind.mpr (wp_mono (fun r t' s' hK' => ?_) (fun _ _ h => h) (h t s hK))
  rcases r with (⟨e | _⟩ | _) | a <;> exact hK'

/-! ### What holds again when an operation returns -/

/-- The operation may break an assertion on its way, and holds it again when it returns. -/
def Restores (srv : Server S Req Ans Ω) (allowed : Set Ω) (K : σ → S → Prop)
    (p : Operation σ Req Ans α) : Prop :=
  ∀ t s, K t s → wp srv allowed p.run (fun _ => K) (fun _ _ => True) t s

theorem restores_of_keeps {p : Operation σ Req Ans α} (h : Keeps srv allowed K p.run) :
    Restores srv allowed K p :=
  fun t s hK => wp_mono (fun _ _ _ h => h) (fun _ _ _ => trivial) (h t s hK)

/-- An error is returned, without a change. -/
abbrev Denied (t : σ) (s : S) : Except Interruption α → σ → S → Prop :=
  fun r t' s' => (∃ e, r = .error (.fault (.error e))) ∧ t' = t ∧ s' = s

/-- There is no request. -/
abbrev NoRequest : σ → S → Prop := fun _ _ => False

theorem refused_bind {p : Operation σ Req Ans α} {f : α → Operation σ Req Ans β}
    (h : wp srv allowed p.run (Denied t s) NoRequest t s) :
    wp srv allowed (p >>= f).run (Denied t s) NoRequest t s := by
  rw [wp_attempt_bind]
  refine wp_mono (fun r t' s' hr => ?_) (fun _ _ h => h) h
  obtain ⟨⟨e, rfl⟩, ht, hs⟩ := hr
  exact ⟨⟨e, rfl⟩, ht, hs⟩

/-- A guard refuses in any state but one. -/
theorem refused_lift_require {l : ConnectionLifecycle} {expected : ConnectionState}
    {message : String} (h : l.state ≠ expected) :
    wp srv allowed (lift (l.require expected message) : Operation σ Req Ans Unit).run (Denied t s)
      NoRequest t s := by
  obtain ⟨e, he⟩ : ∃ e, l.require expected message = fail e :=
    ConnectionLifecycle.exists_require_eq_fail h
  rw [he]
  exact ⟨⟨e, rfl⟩, rfl, rfl⟩

/-- An operation whose value does not matter. -/
def ignored (p : Operation σ Req Ans α) : Operation σ Req Ans Unit := p >>= fun _ => pure ()

theorem keeps_ignored {p : Operation σ Req Ans α} (h : Keeps srv allowed K p.run) :
    Keeps srv allowed K (ignored p).run := keeps_bind h fun _ => keeps_done _

end Operations

/-! ### Calls -/

/-- A transport with state `σ`: its lifecycle and its operations. -/
structure TransportProtocol (σ Req : Type) (Ans : Req → Type) where
  lifecycle : σ → ConnectionLifecycle
  connect : TransportParams → Operation σ Req Ans Unit
  authenticate : Credentials → Operation σ Req Ans SessionInfo
  executeQuery : String → Operation σ Req Ans QueryResult
  fetchResults : SInt 32 → Operation σ Req Ans Messages.ResultData
  closeResultSet : SInt 32 → Operation σ Req Ans Unit
  createPreparedStatement : String → Operation σ Req Ans PreparedStatementHandle
  executePreparedStatement : PreparedStatementHandle → Option (List (List Json.Value)) →
    Operation σ Req Ans QueryResult
  closePreparedStatement : PreparedStatementHandle → Operation σ Req Ans Unit
  setAutocommit : Bool → Operation σ Req Ans Unit
  setQueryTimeout : UInt64 → Operation σ Req Ans Unit
  setCurrentSchema : String → Operation σ Req Ans Unit
  refreshCurrentSchema : Operation σ Req Ans (Option String)
  close : Operation σ Req Ans Unit
  terminate : σ → σ

/-- A call of a transport. -/
inductive Call where
  | connect (params : TransportParams)
  | authenticate (credentials : Credentials)
  | executeQuery (sql : String)
  | fetchResults (handle : SInt 32)
  | closeResultSet (handle : SInt 32)
  | createPreparedStatement (sql : String)
  | executePreparedStatement (handle : PreparedStatementHandle)
      (parameters : Option (List (List Json.Value)))
  | closePreparedStatement (handle : PreparedStatementHandle)
  | setAutocommit (enabled : Bool)
  | setQueryTimeout (timeoutSecs : UInt64)
  | setCurrentSchema (schema : String)
  | refreshCurrentSchema
  | close
  | terminate

/-- The calls that end a transport. -/
def Call.Ends : Call → Prop
  | close | terminate => True
  | _ => False

/-- The calls that need a session. -/
def Call.NeedsSession : Call → Prop
  | .connect _ | .authenticate _ | .close | .terminate => False
  | _ => True

/-- A lifecycle that has ended is neither open nor connected, and has no session. -/
theorem ConnectionLifecycle.state_ne_of_ended {l : ConnectionLifecycle}
    (h : (l.state = .closed || l.state = .terminated) = true) (expected : ConnectionState)
    (hexpected : expected ≠ .closed ∧ expected ≠ .terminated) : l.state ≠ expected := by
  rw [Bool.or_eq_true, decide_eq_true_iff, decide_eq_true_iff] at h
  rcases h with heq | heq <;> rw [heq]
  · exact hexpected.1.symm
  · exact hexpected.2.symm

theorem ConnectionLifecycle.isOpen_of_ended {l : ConnectionLifecycle}
    (h : (l.state = .closed || l.state = .terminated) = true) : l.isOpen = false := by
  rw [Bool.or_eq_true, decide_eq_true_iff, decide_eq_true_iff] at h
  unfold isOpen
  rcases h with heq | heq <;> rw [heq] <;> rfl

theorem ConnectionLifecycle.ended_of_isOpen {l : ConnectionLifecycle} (h : l.isOpen = true) :
    (l.state = .closed || l.state = .terminated) = false := by
  rcases isOpen_iff.mp h with hstate | hstate <;> rw [hstate] <;> rfl

namespace TransportProtocol

variable {σ Req : Type} {Ans : Req → Type} (p : TransportProtocol σ Req Ans)

/-- What a call does. -/
def act : Call → Operation σ Req Ans Unit
  | .connect params => p.connect params
  | .authenticate credentials => ignored (p.authenticate credentials)
  | .executeQuery sql => ignored (p.executeQuery sql)
  | .fetchResults handle => ignored (p.fetchResults handle)
  | .closeResultSet handle => p.closeResultSet handle
  | .createPreparedStatement sql => ignored (p.createPreparedStatement sql)
  | .executePreparedStatement handle parameters =>
    ignored (p.executePreparedStatement handle parameters)
  | .closePreparedStatement handle => p.closePreparedStatement handle
  | .setAutocommit enabled => p.setAutocommit enabled
  | .setQueryTimeout timeoutSecs => p.setQueryTimeout timeoutSecs
  | .setCurrentSchema schema => p.setCurrentSchema schema
  | .refreshCurrentSchema => ignored p.refreshCurrentSchema
  | .close => p.close
  | .terminate => modify p.terminate

/-- A network that answers anything, and counts the requests. -/
def environment : Server ℕ Req Ans (∀ r : Req, Ans r) where
  step n r choice := (choice r, n + 1)

/-- A call, and what becomes of its requests. -/
structure Action (Ans : Req → Type) where
  call : Call
  script : Script (∀ r : Req, Ans r)

/-- What a call has done. -/
structure Done where
  call : Call
  /-- Whether the transport had ended before. -/
  late : Bool
  outcome : Outcome (Except Interruption Unit)
  /-- The number of its requests. -/
  asked : ℕ

/-- The transport is closed or terminated. -/
def hasEnded (t : σ) : Bool :=
  (p.lifecycle t).state = .closed || (p.lifecycle t).state = .terminated

/-- A state of a run: the transport, the number of requests so far, whether the transport has ended
at any time, and what the last call has done. -/
structure Situation (σ : Type) where
  transport : σ
  requests : ℕ := 0
  ended : Bool := false
  last : Option Done := none

/-- The situation after a call. -/
def after (x : Situation σ) (call : Call) (outcome : Outcome (Except Interruption Unit))
    (t : σ) (requests : ℕ) : Situation σ where
  transport := t
  requests := requests
  ended := x.ended || p.hasEnded t
  last := some ⟨call, x.ended, outcome, requests - x.requests⟩

/-- One call. -/
def step (x : Situation σ) (a : Action Ans) : Situation σ :=
  let (outcome, t, requests) :=
    run environment (p.act a.call).run a.script x.transport x.requests
  p.after x a.call outcome t requests

/-- What a call on a transport that has ended comes to: a call that ends succeeds, and any other
returns an error. -/
def Refuses (call : Call) (outcome : Except Interruption Unit) : Prop :=
  call.Ends ∧ outcome = .ok () ∨ ¬call.Ends ∧ ∃ e, outcome = .error (.fault (.error e))

/-- What should hold in every state. -/
structure Upheld (Sane : σ → Prop) (x : Situation σ) : Prop where
  /-- The parts of the transport fit each other. -/
  sane : Sane x.transport
  /-- What has ended stays so. -/
  ended : x.ended = p.hasEnded x.transport
  /-- A call on a transport that has ended asks for nothing. -/
  refused : ∀ c ∈ x.last, c.late = true →
    c.asked = 0 ∧ ∃ r, c.outcome = .returned r ∧ Refuses c.call r

/-- **The rules**: every call keeps the parts fitting, wherever it ends, and what has ended is
neither changed back nor used. -/
structure Rules (Sane : σ → Prop) : Prop where
  keeps : ∀ call, Keeps (environment : Server ℕ Req Ans _) Set.univ (fun t _ => Sane t)
    (p.act call).run
  ended : ∀ call t n, Sane t → p.hasEnded t = true →
    wp (environment : Server ℕ Req Ans _) Set.univ (p.act call).run
      (fun r t' n' => p.hasEnded t' = true ∧ n' = n ∧ Refuses call r) NoRequest t n

variable {p} {Sane : σ → Prop} {x : Situation σ}

/-- What a call leads to is what holds after every behaviour of it. -/
theorem step_of_wp {a : Action Ans} {P : Situation σ → Prop}
    (h : wp environment Set.univ (p.act a.call).run
      (fun r t n => P (p.after x a.call (.returned r) t n))
      (fun t n => P (p.after x a.call .abandoned t n)) x.transport x.requests) :
    P (p.step x a) := by
  have hwithin : a.script.Within Set.univ := ⟨fun _ _ => trivial, fun _ _ => trivial⟩
  have hmeets := meets_of_wp hwithin h
  unfold step
  revert hmeets
  rcases run environment (p.act a.call).run a.script x.transport x.requests with
    ⟨outcome, t, n⟩
  intro hmeets
  cases outcome with
  | returned r => exact hmeets
  | abandoned => exact hmeets

/-- **Every call keeps what should hold.** -/
theorem upheld_step (rules : p.Rules Sane) (a : Action Ans) (hx : p.Upheld Sane x) :
    p.Upheld Sane (p.step x a) := by
  refine step_of_wp ?_
  have hsane := rules.keeps a.call x.transport x.requests hx.sane
  cases hended : p.hasEnded x.transport with
  | false =>
    have hlate : x.ended = false := hx.ended.trans hended
    have hupheld (outcome : Outcome (Except Interruption Unit)) (t : σ) (n : ℕ) (h : Sane t) :
        p.Upheld Sane (p.after x a.call outcome t n) := by
      refine ⟨h, ?_, fun c hc hyes => ?_⟩
      · unfold after
        rw [hlate, Bool.false_or]
      · cases hc
        rw [show x.ended = true from hyes] at hlate
        cases hlate
    exact wp_mono (fun r t n h => hupheld _ t n h) (fun t n h => hupheld _ t n h) hsane
  | true =>
    refine wp_mono (fun r t n h => ?_) (fun _ _ h => h.2.elim)
      (wp_and hsane (rules.ended a.call x.transport x.requests hx.sane hended))
    obtain ⟨h, hstill, rfl, hrefuses⟩ := h
    refine ⟨h, ?_, fun c hc _ => ?_⟩
    · unfold after
      rw [hstill, Bool.or_true]
    · cases hc
      exact ⟨Nat.sub_self _, r, rfl, hrefuses⟩

/-- **The life of a transport**, along every run of calls, whatever the network does to their
requests and wherever they are abandoned. -/
theorem always_upheld_of_rules (rules : p.Rules Sane) {t : σ} (hsane : Sane t)
    (hopen : p.hasEnded t = false) (run : List (Action Ans)) :
    Runs.Always p.step (p.Upheld Sane) { transport := t } run :=
  Runs.always_of_step (fun _ a hx => upheld_step rules a hx)
    ⟨hsane, hopen.symm, fun c hc => absurd hc (Option.not_mem_none c)⟩ run

end TransportProtocol

/-! ### Logging in and closing -/

namespace LifecycleSteps

variable {σ Req S Ω : Type} {Ans : Req → Type} {steps : LifecycleSteps σ Req Ans}
  {srv : Server S Req Ans Ω} {allowed : Set Ω} {Sane : σ → Prop}

/-- **Logging in keeps the parts fitting** if the exchange does: one that succeeds fits the state
after a login, and one that does not fits the state before it and that of a transport which is let
go. -/
theorem keeps_authenticateWithinDeadline {credentials : Credentials}
    (hlogin : ∀ t s, Sane t → (steps.lifecycle t).state = .connected →
      wp srv allowed (steps.loginExchange credentials).run
        (fun r t' _ => match r with
          | .ok _ => Sane (steps.withState .authenticated t')
          | .error _ => Sane t' ∧ Sane (steps.shut t'))
        (fun t' _ => Sane t') t s)
    (helapsed : ∀ t s, Sane t → Sane (steps.shut t) →
      wp srv allowed steps.hasElapsed.run (fun _ t' _ => Sane t' ∧ Sane (steps.shut t'))
        (fun t' _ => Sane t') t s) :
    Keeps srv allowed (fun t _ => Sane t) (steps.authenticateWithinDeadline credentials).run := by
  intro t s h
  unfold authenticateWithinDeadline
  rw [wp_read_bind]
  refine wp_lift_bind (fun _ hrequire => ?_) fun _ _ => h
  have hconnected : (steps.lifecycle t).state = .connected :=
    ConnectionLifecycle.require_eq_ok_iff.mp hrequire
  refine wp_lift_bind (fun deadline _ => ?_) fun _ _ => h
  rw [wp_attempt_bind]
  refine wp_bind.mpr (wp_mono (fun r t' s' hr => ?_) (fun _ _ h => h) (hlogin t s h hconnected))
  have hfailed (hboth : Sane t' ∧ Sane (steps.shut t')) (e : TransportError) (timedOut : Bool) :
      wp srv allowed (do
        let elapsed ← if timedOut then pure true else steps.hasElapsed
        if elapsed then modify steps.shut
        failWith e : Operation σ Req Ans SessionInfo).run (fun _ t _ => Sane t) (fun t _ => Sane t)
        t' s' := by
    have hshut (elapsed : Bool) (t : σ) (s : S) (hboth : Sane t ∧ Sane (steps.shut t)) :
        wp srv allowed (do
          if elapsed then modify steps.shut
          failWith e : Operation σ Req Ans SessionInfo).run (fun _ t _ => Sane t)
          (fun t _ => Sane t) t s := by
      cases elapsed with
      | false => exact hboth.1
      | true => exact hboth.2
    cases timedOut with
    | true => exact hshut true t' s' hboth
    | false =>
      change wp srv allowed (steps.hasElapsed >>= _).run _ _ t' s'
      rw [wp_attempt_bind]
      refine wp_mono (fun r t s hboth => ?_) (fun _ _ h => h) (helapsed t' s' hboth.1 hboth.2)
      cases r with
      | ok elapsed => exact hshut elapsed t s hboth
      | error e => exact hboth.1
  rcases r with (⟨e | _⟩ | _) | session
  · exact hfailed hr e false
  · exact hr.1
  · exact hfailed hr (deadline.timeoutError .login) true
  · exact hr

/-- Without a connection there is no login. -/
theorem refused_authenticateWithinDeadline {credentials : Credentials} {t : σ} {s : S}
    (h : (steps.lifecycle t).state ≠ .connected) :
    wp srv allowed (steps.authenticateWithinDeadline credentials).run (Denied t s) NoRequest
      t s := by
  unfold authenticateWithinDeadline
  rw [wp_read_bind]
  exact refused_bind (refused_lift_require h)

/-- Closing what is not open does nothing. -/
theorem wp_closeGracefully_of_not_open {post : Except Interruption Unit → σ → S → Prop}
    {drop : σ → S → Prop} {t : σ} {s : S} (h : (steps.lifecycle t).isOpen = false)
    (hpost : post (.ok ()) t s) : wp srv allowed steps.closeGracefully.run post drop t s := by
  unfold closeGracefully
  rw [wp_read_bind, h, if_neg Bool.false_ne_true]
  exact hpost

/-- Closing keeps the parts fitting if taking leave does, and if they fit in a transport that is let
go. -/
theorem keeps_closeGracefully {Open : σ → Prop}
    (hopen : ∀ t, Sane t → (steps.lifecycle t).isOpen = true → Open t) (hsane : ∀ t, Open t → Sane t)
    (hshut : ∀ t, Open t → Sane (steps.shut t))
    (hdisconnect : Keeps srv allowed (fun t _ => Open t) steps.sendDisconnect.run) :
    Keeps srv allowed (fun t _ => Sane t) steps.closeGracefully.run := by
  intro t s h
  unfold closeGracefully
  rw [wp_read_bind]
  split_ifs with hisOpen
  · exact wp_keeps_bind hdisconnect (fun t _ h => hsane t h) (fun _ t _ h => hsane t h)
      (fun _ t' _ h' => hshut t' h') (hopen t h hisOpen)
  · exact h

end LifecycleSteps

end Exarrow.Transport
