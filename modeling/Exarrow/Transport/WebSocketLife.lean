import Exarrow.Transport.Life
import Exarrow.Transport.WebSocket

/-!
# The life of a WebSocket transport

The WebSocket transport obeys the rules of `Exarrow.Transport.TransportProtocol`
(`Exarrow.Transport.WebSocket.rules`), whatever comes over the WebSocket and wherever a call is
abandoned: **there is a session exactly after a login, a stream only while the transport is open,
and what is closed or terminated stays so**, without a stream, a session and a schema
(`Exarrow.Transport.WebSocket.upheld_of_runs`).

Unlike the native transport this one takes its stream away before it waits for the end of the
closing handshake. A close that is abandoned there leaves a transport that is still open and has no
stream: its operations fail before they send anything, and a second close succeeds.
-/

namespace Exarrow.Transport.WebSocket

open Machine Checked Client Messages

/-! ### The operations -/

/-- The WebSocket transport. -/
def webSocket (lib : Libraries) :
    TransportProtocol WebSocketTransport NetRequest NetRequest.Answer where
  lifecycle := WebSocketTransport.lifecycle
  connect := connect
  authenticate := authenticate lib
  executeQuery := executeQuery lib
  fetchResults := fetchResults lib
  closeResultSet := closeResultSet lib
  createPreparedStatement := createPreparedStatement lib
  executePreparedStatement := executePreparedStatement lib
  closePreparedStatement := closePreparedStatement lib
  setAutocommit := setAutocommit lib
  setQueryTimeout := setQueryTimeout lib
  setCurrentSchema := setCurrentSchema lib
  refreshCurrentSchema := refreshCurrentSchema lib
  close := close lib
  terminate := terminate lib

/-- The transport is closed or terminated. -/
def hasEnded (t : WebSocketTransport) : Bool :=
  t.lifecycle.state = .closed || t.lifecycle.state = .terminated

/-- A transport whose parts fit each other. -/
structure Sane (t : WebSocketTransport) : Prop where
  /-- There is a stream only while the transport is open. -/
  stream : t.wsStream.isSome = true → t.lifecycle.isOpen = true
  /-- There is a session exactly after a login. -/
  session : t.sessionInfo.isSome = decide (t.lifecycle.state = .authenticated)
  /-- What ends takes the schema with it. -/
  schema : hasEnded t = true → t.currentSchema = none

/-- What an exchange leaves as it is: everything but the schema and the positions. -/
structure Exchanged (t t' : WebSocketTransport) : Prop where
  stream : t'.wsStream = t.wsStream
  session : t'.sessionInfo = t.sessionInfo
  lifecycle : t'.lifecycle = t.lifecycle

section Operations

variable {S Ω : Type} {srv : Server S NetRequest NetRequest.Answer Ω} {allowed : Set Ω}
  {lib : Libraries} {t₀ t : WebSocketTransport} {s : S}

/-! ### What is refused -/

/-- The guard of an operation refuses it in any other state. -/
theorem refused_require {expected : ConnectionState} {message : String}
    (h : t.lifecycle.state ≠ expected) :
    wp srv allowed (require expected message).run (Denied t s) NoRequest t s := by
  unfold require
  rw [wp_read_bind]
  exact refused_lift_require h

/-- **Without a session, what needs one is refused.** -/
theorem refused_of_needsSession {c : Call} (hc : c.NeedsSession)
    (h : t.lifecycle.state ≠ .authenticated) :
    wp srv allowed ((webSocket lib).act c).run (Denied t s) NoRequest t s := by
  have hset (request : JsonRequest) :
      wp srv allowed (setAttributes lib request).run (Denied t s) NoRequest t s :=
    refused_bind (refused_require h)
  cases c with
  | connect params => exact hc.elim
  | authenticate credentials => exact hc.elim
  | executeQuery sql => exact refused_bind (refused_bind (refused_require h))
  | fetchResults handle => exact refused_bind (refused_bind (refused_require h))
  | closeResultSet handle => exact refused_bind (refused_require h)
  | createPreparedStatement sql => exact refused_bind (refused_bind (refused_require h))
  | executePreparedStatement handle parameters =>
    exact refused_bind (refused_bind (refused_require h))
  | closePreparedStatement handle => exact refused_bind (refused_require h)
  | setAutocommit enabled => exact hset _
  | setQueryTimeout timeoutSecs => exact hset _
  | setCurrentSchema schema => exact refused_bind (hset _)
  | refreshCurrentSchema => exact refused_bind (refused_bind (refused_require h))
  | close => exact hc.elim
  | terminate => exact hc.elim

/-! ### What operations keep -/

theorem keeps_exchanged_require {expected : ConnectionState} {message : String} :
    Keeps srv allowed (fun t _ => Exchanged t₀ t) (require expected message).run :=
  keeps_read_bind fun _ => keeps_done _

/-- A change of the schema or of the positions. -/
theorem keeps_exchanged_modify {f : WebSocketTransport → WebSocketTransport}
    (h : ∀ t, Exchanged t (f t)) :
    Keeps srv allowed (fun t _ => Exchanged t₀ t) (modify f : WsOp Unit).run :=
  keeps_modify fun t _ h₀ => ⟨(h t).stream.trans h₀.stream, (h t).session.trans h₀.session,
    (h t).lifecycle.trans h₀.lifecycle⟩

/-- Every note that is skipped leaves the transport as it is, and a response changes the schema. -/
theorem keeps_exchanged_receive (R : ResponseType) (n : ℕ) :
    Keeps srv allowed (fun t _ => Exchanged t₀ t) (receive lib R n).run := by
  induction n with
  | zero => exact keeps_done _
  | succ n ih =>
    refine keeps_bind keeps_request fun text => ?_
    split_ifs
    · exact keeps_lift_bind fun response _ =>
        keeps_bind (keeps_exchanged_modify fun _ => ⟨rfl, rfl, rfl⟩) fun _ => keeps_done _
    · exact ih

theorem keeps_exchanged_sendReceive (request : JsonRequest) :
    Keeps srv allowed (fun t _ => Exchanged t₀ t) (sendReceive lib request).run :=
  keeps_lift_bind fun _ _ => keeps_read_bind fun _ => keeps_lift_bind fun _ _ =>
    keeps_bind keeps_request fun _ => keeps_exchanged_receive _ _

theorem keeps_exchanged_sendChecked (request : JsonRequest) :
    Keeps srv allowed (fun t _ => Exchanged t₀ t) (sendChecked lib request).run :=
  keeps_bind (keeps_exchanged_sendReceive request) fun _ => keeps_lift_bind fun _ _ =>
    keeps_done _

theorem keeps_exchanged_setAttributes (request : JsonRequest) :
    Keeps srv allowed (fun t _ => Exchanged t₀ t) (setAttributes lib request).run :=
  keeps_bind keeps_exchanged_require fun _ =>
    keeps_bind (keeps_exchanged_sendChecked request) fun _ => keeps_done _

theorem keeps_exchanged_queryResultFromResponse (response : Response .execute) :
    Keeps srv allowed (fun t _ => Exchanged t₀ t) (queryResultFromResponse response).run := by
  refine keeps_lift_bind fun _ _ => keeps_lift_bind fun _ _ => keeps_lift_bind fun result _ => ?_
  cases result.kind with
  | resultSet =>
    refine keeps_lift_bind fun resultSet _ => keeps_lift_bind fun _ _ =>
      keeps_bind (keeps_exchanged_modify fun t => ?_) fun _ => keeps_done _
    cases resultSet.resultSetHandle <;> exact ⟨rfl, rfl, rfl⟩
  | rowCount => exact keeps_done _
  | unknown => exact keeps_done _

theorem keeps_exchanged_refreshCurrentSchema :
    Keeps srv allowed (fun t _ => Exchanged t₀ t) (refreshCurrentSchema lib).run :=
  keeps_bind keeps_exchanged_require fun _ =>
    keeps_bind (keeps_exchanged_sendChecked .getAttributes) fun _ =>
      keeps_read_bind fun _ => keeps_done _

/-- **A call that needs a session changes the schema and the positions only.** -/
theorem keeps_exchanged_of_needsSession {c : Call} (hc : c.NeedsSession) :
    Keeps srv allowed (fun t _ => Exchanged t₀ t) ((webSocket lib).act c).run := by
  have hresult (request : JsonRequest) (f : Response request.response → WsOp QueryResult)
      (hf : ∀ r, Keeps srv allowed (fun t _ => Exchanged t₀ t) (f r).run) :
      Keeps srv allowed (fun t _ => Exchanged t₀ t) (sendReceive lib request >>= f).run :=
    keeps_bind (keeps_exchanged_sendReceive request) hf
  cases c with
  | connect params => exact hc.elim
  | authenticate credentials => exact hc.elim
  | executeQuery sql =>
    exact keeps_ignored (keeps_bind keeps_exchanged_require fun _ =>
      hresult (.execute sql) _ keeps_exchanged_queryResultFromResponse)
  | fetchResults handle =>
    exact keeps_ignored (keeps_bind keeps_exchanged_require fun _ => keeps_read_bind fun _ =>
      keeps_bind (keeps_exchanged_sendChecked _) fun _ => keeps_lift_bind fun _ _ =>
        keeps_lift_bind fun _ _ => keeps_bind (keeps_exchanged_modify fun _ => ⟨rfl, rfl, rfl⟩)
          fun _ => keeps_done _)
  | closeResultSet handle =>
    exact keeps_bind keeps_exchanged_require fun _ =>
      keeps_bind (keeps_exchanged_modify fun _ => ⟨rfl, rfl, rfl⟩) fun _ =>
        keeps_bind (keeps_exchanged_sendChecked _) fun _ => keeps_done _
  | createPreparedStatement sql =>
    exact keeps_ignored (keeps_bind keeps_exchanged_require fun _ =>
      keeps_bind (keeps_exchanged_sendChecked _) fun _ => keeps_lift_bind fun _ _ => keeps_done _)
  | executePreparedStatement handle parameters =>
    exact keeps_ignored (keeps_bind keeps_exchanged_require fun _ =>
      hresult (.executePreparedStatement _) _ keeps_exchanged_queryResultFromResponse)
  | closePreparedStatement handle =>
    exact keeps_bind keeps_exchanged_require fun _ =>
      keeps_bind (keeps_exchanged_sendChecked _) fun _ => keeps_done _
  | setAutocommit enabled => exact keeps_exchanged_setAttributes _
  | setQueryTimeout timeoutSecs => exact keeps_exchanged_setAttributes _
  | setCurrentSchema schema =>
    exact keeps_bind (keeps_exchanged_setAttributes _) fun _ =>
      keeps_bind keeps_exchanged_refreshCurrentSchema fun _ => keeps_done _
  | refreshCurrentSchema => exact keeps_ignored keeps_exchanged_refreshCurrentSchema
  | close => exact hc.elim
  | terminate => exact hc.elim

/-! ### What fits -/

/-- An exchange on a transport that has not ended. -/
theorem Sane.exchanged {t t' : WebSocketTransport} (h : Sane t) (hnot : hasEnded t = false)
    (h' : Exchanged t t') : Sane t' := by
  refine ⟨?_, ?_, fun hended => ?_⟩
  · rw [h'.stream, h'.lifecycle]
    exact h.stream
  · rw [h'.session, h'.lifecycle]
    exact h.session
  · unfold hasEnded at hnot hended
    rw [h'.lifecycle, hnot] at hended
    cases hended

/-- A transport that is let go. -/
theorem sane_release {state : ConnectionState} (hstate : state ≠ .authenticated) :
    Sane { t.releaseConnection with lifecycle := { t.lifecycle with state } } :=
  ⟨fun h => absurd h Bool.false_ne_true, (decide_eq_false hstate).symm, fun _ => rfl⟩

/-- **A login that has failed leaves the transport as after an exchange**, and one that has
succeeded has set the session. -/
theorem wp_loginExchange {credentials : Credentials} (h : Exchanged t₀ t) :
    wp srv allowed (loginExchange lib credentials).run
      (fun r t' _ => match r with
        | .ok _ => t'.wsStream = t₀.wsStream ∧ t'.sessionInfo.isSome = true ∧
          t'.lifecycle = t₀.lifecycle
        | .error _ => Exchanged t₀ t')
      (fun t' _ => Exchanged t₀ t') t s := by
  refine wp_keeps_bind (keeps_exchanged_sendChecked _) (fun _ _ h => h) (fun _ _ _ h => h)
    (fun keyResponse t s h => ?_) h
  refine wp_lift_bind (fun keyData _ => ?_) fun _ _ => h
  refine wp_keeps_bind keeps_request (fun _ _ h => h) (fun _ _ _ h => h) (fun rng t s h => ?_) h
  refine wp_lift_bind (fun password _ => ?_) fun _ _ => h
  refine wp_keeps_bind (keeps_exchanged_sendChecked _) (fun _ _ h => h) (fun _ _ _ h => h)
    (fun loginResponse t s h => ?_) h
  refine wp_lift_bind (fun sessionData _ => ?_) fun _ _ => h
  exact ⟨h.stream, rfl, h.lifecycle⟩

theorem keeps_sane_authenticate {credentials : Credentials} :
    Keeps srv allowed (fun t _ => Sane t) (authenticate lib credentials).run := by
  refine LifecycleSteps.keeps_authenticateWithinDeadline (fun t s h hconnected => ?_) ?_
  · have hopen : t.lifecycle.isOpen = true := ConnectionLifecycle.isOpen_iff.mpr (.inl hconnected)
    have hnot : hasEnded t = false := ConnectionLifecycle.ended_of_isOpen hopen
    refine wp_mono (fun r t' _ hr => ?_) (fun t' _ h' => h.exchanged hnot h')
      (wp_loginExchange ⟨rfl, rfl, rfl⟩)
    cases r with
    | ok session => exact ⟨fun _ => rfl, hr.2.1, fun hended => nomatch hended⟩
    | error e => exact ⟨h.exchanged hnot hr, sane_release (by decide)⟩
  · exact fun t s hsane hshut => ⟨hsane, fun _ _ => ⟨hsane, hsane, hshut⟩⟩

theorem keeps_sane_connect {params : TransportParams} :
    Keeps srv allowed (fun t _ => Sane t) (connect params).run := by
  intro t s h
  unfold connect
  rw [wp_read_bind]
  refine wp_lift_bind (fun deadline hbegin => ?_) fun _ _ => h
  have hfresh : t.lifecycle.state = .disconnected := by
    unfold ConnectionLifecycle.beginConnect at hbegin
    obtain ⟨_, hrequire, -⟩ := bind_eq_ok.mp hbegin
    exact ConnectionLifecycle.require_eq_ok_iff.mp hrequire
  have hsession : t.sessionInfo.isSome = false := by
    rw [h.session, hfresh]
    rfl
  -- Until the last step nothing changes.
  have hdrop (t' : WebSocketTransport) (_ : S) (h' : t' = t) : Sane t' := h' ▸ h
  have herror (_ : Interruption) (t' : WebSocketTransport) (_ : S) (h' : t' = t) : Sane t' :=
    h' ▸ h
  have hupgrade (stream : MaybeTlsStream) (t' : WebSocketTransport) (s : S) (h' : t' = t) :
      wp srv allowed (do
        deadline.run .webSocketUpgrade (Attempt.ask (.upgrade (toWebsocketUrl params))
          (Reply.result .webSocketError))
        modify fun t =>
          { t with wsStream := some stream, lifecycle := t.lifecycle.connected deadline } :
          WsOp Unit).run (fun _ t _ => Sane t) (fun t _ => Sane t) t' s := by
    refine wp_keeps_bind (K := fun t' _ => t' = t) (keeps_deadlineRun keeps_request) hdrop herror
      (fun _ t' _ h' => ?_) h'
    subst h'
    exact ⟨fun _ => rfl, hsession, fun hended => nomatch hended⟩
  refine wp_keeps_bind (K := fun t' _ => t' = t) (keeps_deadlineRun keeps_request) hdrop herror
    (fun _ t' s' h' => ?_) rfl
  split_ifs
  · exact wp_keeps_bind (K := fun t' _ => t' = t) (keeps_deadlineRun keeps_request) hdrop herror
      (fun _ t' s' h' => hupgrade .rustls t' s' h') h'
  · exact hupgrade .plain t' s' h'

/-- A transport that is open and may have lost its stream. -/
structure Open (t : WebSocketTransport) : Prop where
  sane : Sane t
  isOpen : t.lifecycle.isOpen = true

theorem keeps_open_drain (n : ℕ) :
    Keeps srv allowed (fun t _ => Open t) (drain n : WsOp Unit).run := by
  induction n with
  | zero => exact keeps_done _
  | succ n ih =>
    refine keeps_bind keeps_request fun message => ?_
    rcases message with _ | _ | _ | _
    · exact keeps_done _
    · exact keeps_done _
    · exact ih
    · exact ih

/-- Taking leave keeps the transport open, with a stream or without. -/
theorem keeps_open_sendDisconnect :
    Keeps srv allowed (fun t _ => Open t) (sendDisconnect lib).run := by
  have hexchange : Keeps srv allowed (fun t _ => Open t) (sendReceive lib .disconnect).run := by
    intro t s h
    have hopen (t' : WebSocketTransport) (h' : Exchanged t t') : Open t' :=
      ⟨h.sane.exchanged (ConnectionLifecycle.ended_of_isOpen h.isOpen) h',
        h'.lifecycle ▸ h.isOpen⟩
    exact wp_mono (fun _ t' _ h' => hopen t' h') (fun t' _ h' => hopen t' h')
      (keeps_exchanged_sendReceive .disconnect t s ⟨rfl, rfl, rfl⟩)
  have hstream : Keeps srv allowed (fun t _ => Open t) (do
      let t ← Attempt.read
      if t.wsStream.isSome then
        modify fun t => { t with wsStream := none }
        let _ ← attempt (Attempt.ask (.sendClose "Client closing connection")
          (Reply.result .sendError))
        drain lib.patience : WsOp Unit).run := by
    refine keeps_read_bind fun t => ?_
    split_ifs
    · have htake : Keeps srv allowed (fun t _ => Open t)
          (modify fun t => { t with wsStream := none } : WsOp Unit).run :=
        keeps_modify fun t _ h =>
          ⟨⟨fun hsome => absurd hsome Bool.false_ne_true, h.sane.session, h.sane.schema⟩, h.isOpen⟩
      exact keeps_bind htake fun _ => keeps_bind (keeps_attempt keeps_request) fun _ =>
        keeps_open_drain _
    · exact keeps_done _
  refine keeps_read_bind fun t => ?_
  split_ifs
  · exact keeps_bind (keeps_attempt hexchange) fun _ => hstream
  · exact hstream

/-- **Every call keeps the parts fitting each other**, however it ends. -/
theorem keeps_sane (c : Call) :
    Keeps srv allowed (fun t _ => Sane t) ((webSocket lib).act c).run := by
  by_cases hc : c.NeedsSession
  · intro t s h
    by_cases hauth : t.lifecycle.state = .authenticated
    · have hnot : hasEnded t = false :=
        ConnectionLifecycle.ended_of_isOpen (ConnectionLifecycle.isOpen_iff.mpr (.inr hauth))
      exact wp_mono (fun _ _ _ h' => h.exchanged hnot h') (fun _ _ h' => h.exchanged hnot h')
        (keeps_exchanged_of_needsSession hc t s ⟨rfl, rfl, rfl⟩)
    · refine wp_mono (fun r t' s' hr => ?_) (fun _ _ h => h.elim)
        (refused_of_needsSession hc hauth)
      obtain ⟨-, rfl, -⟩ := hr
      exact h
  · cases c with
    | connect params => exact keeps_sane_connect
    | authenticate credentials => exact keeps_ignored keeps_sane_authenticate
    | close =>
      exact LifecycleSteps.keeps_closeGracefully (fun t h hopen => ⟨h, hopen⟩) (fun _ h => h.sane)
        (fun _ _ => sane_release (by decide)) keeps_open_sendDisconnect
    | terminate => exact fun t s _ => sane_release (by decide)
    | _ => exact (hc trivial).elim

/-- **A transport that has ended stays so**, and a call on it asks for nothing. -/
theorem wp_ended (c : Call) (hended : hasEnded t = true) :
    wp srv allowed ((webSocket lib).act c).run
      (fun r t' s' => hasEnded t' = true ∧ s' = s ∧ TransportProtocol.Refuses c r) NoRequest
      t s := by
  have hnot := ConnectionLifecycle.state_ne_of_ended hended
  have hrefuse {p : WsOp Unit} (hc : ¬c.Ends)
      (hp : wp srv allowed p.run (Denied t s) NoRequest t s) :
      wp srv allowed p.run
        (fun r t' s' => hasEnded t' = true ∧ s' = s ∧ TransportProtocol.Refuses c r) NoRequest
        t s := by
    refine wp_mono (fun r t' s' hr => ?_) (fun _ _ h => h) hp
    obtain ⟨he, rfl, rfl⟩ := hr
    exact ⟨hended, rfl, .inr ⟨hc, he⟩⟩
  by_cases hc : c.NeedsSession
  · have hends : ¬c.Ends := by
      cases c <;> first | exact fun h => h | exact hc.elim
    exact hrefuse hends (refused_of_needsSession hc (hnot _ (by decide)))
  · cases c with
    | connect params =>
      refine hrefuse (fun h => h) ?_
      dsimp only [TransportProtocol.act, webSocket]
      unfold connect ConnectionLifecycle.beginConnect
      rw [wp_read_bind]
      obtain ⟨e, he⟩ : ∃ e, t.lifecycle.require .disconnected "Already connected" = fail e :=
        ConnectionLifecycle.exists_require_eq_fail (hnot .disconnected (by decide))
      rw [he]
      exact ⟨⟨e, rfl⟩, rfl, rfl⟩
    | authenticate credentials =>
      exact hrefuse (fun h => h) (refused_bind
        (LifecycleSteps.refused_authenticateWithinDeadline (hnot .connected (by decide))))
    | close =>
      exact LifecycleSteps.wp_closeGracefully_of_not_open
        (ConnectionLifecycle.isOpen_of_ended hended) ⟨hended, rfl, .inl ⟨trivial, rfl⟩⟩
    | terminate => exact ⟨rfl, rfl, .inl ⟨trivial, rfl⟩⟩
    | _ => exact (hc trivial).elim

end Operations

/-! ### Whole runs -/

/-- A WebSocket transport obeys the rules. -/
theorem rules (lib : Libraries) : (webSocket lib).Rules Sane where
  keeps call := keeps_sane call
  ended call _ _ _ hended := wp_ended call hended

/-- **The life of a WebSocket transport**, along every run of calls, whatever the network does to
their requests and wherever they are abandoned. -/
theorem upheld_of_runs (lib : Libraries)
    (run : List (TransportProtocol.Action NetRequest.Answer)) :
    Runs.Always (webSocket lib).step ((webSocket lib).Upheld Sane) { transport := {} } run :=
  TransportProtocol.always_upheld_of_rules (rules lib)
    ⟨fun h => absurd h (by decide), rfl, fun _ => rfl⟩ rfl run

end Exarrow.Transport.WebSocket
