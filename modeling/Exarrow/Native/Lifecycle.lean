import Exarrow.Native.Exchanges

/-!
# The life of a native transport

The native transport obeys the rules of `Exarrow.Transport.TransportProtocol`
(`Exarrow.Native.Lifecycle.rules`): it is called in any order, the network may answer anything at
each request, or nothing, and each call may be abandoned at each of its requests.

**What holds in every state** (`Exarrow.Native.Lifecycle.always_upheld`):

* there is a stream exactly while the transport is open, and a session exactly after a login;
* once it is closed or terminated it stays so, without a stream, a session and a schema, and a later
  call fails before it asks the network for anything, unless it closes or terminates;
* a session over a plain stream is encrypted, and one over TLS is not encrypted twice; before the
  first connect there is no cipher.

Nothing is said of the cipher between a connect and a login: the keys are set before the last
exchange of a login, and they stay when that fails.
-/

namespace Exarrow.Native.Lifecycle

open Machine Checked Client Transport

/-! ### The operations -/

/-- The native transport. -/
def native (lib : NativeLibraries) :
    TransportProtocol NativeTcpTransport NetRequest NetRequest.Answer where
  lifecycle := NativeTcpTransport.lifecycle
  connect := Native.connect
  authenticate := Native.authenticate lib
  executeQuery := Native.executeQuery lib
  fetchResults := Native.fetchResults lib
  closeResultSet := Native.closeResultSet lib
  createPreparedStatement := Native.createPreparedStatement lib
  executePreparedStatement := Native.executePreparedStatement lib
  closePreparedStatement := Native.closePreparedStatement lib
  setAutocommit := Native.setAutocommit lib
  setQueryTimeout := Native.setQueryTimeout lib
  setCurrentSchema := Native.setCurrentSchema lib
  refreshCurrentSchema := Native.refreshCurrentSchema lib
  close := Native.close lib
  terminate := Native.terminate lib

/-- The transport is closed or terminated. -/
def hasEnded (t : NativeTcpTransport) : Bool :=
  t.lifecycle.state = .closed || t.lifecycle.state = .terminated

/-- A transport whose parts fit each other. -/
structure Sane (t : NativeTcpTransport) : Prop where
  /-- There is a stream exactly while the transport is open. -/
  stream : t.stream.isSome = t.lifecycle.isOpen
  /-- There is a session exactly after a login. -/
  session : t.session.isSome = decide (t.lifecycle.state = .authenticated)
  /-- What ends takes the schema with it. -/
  schema : hasEnded t = true → t.currentSchema = none
  /-- Over TLS there is no cipher. -/
  tls : t.tlsActive = true → t.encryptor.isActive = false
  /-- After a login there is one, except over TLS. -/
  cipher : t.lifecycle.state = .authenticated → t.encryptor.isActive = !t.tlsActive
  /-- Before the first connect there is none. -/
  fresh : t.lifecycle.state = .disconnected → t.encryptor.isActive = false

/-! ### What is refused -/

section Rules

variable {S Ω α β : Type} {srv : Server S NetRequest NetRequest.Answer Ω} {allowed : Set Ω}
  {lib : NativeLibraries} {t : NativeTcpTransport} {s : S}

/-- The guard of an operation refuses it in any other state. -/
theorem refused_require {expected : ConnectionState} {message : String}
    (h : t.lifecycle.state ≠ expected) :
    wp srv allowed (require expected message).run (Denied t s) NoRequest t s := by
  unfold require
  rw [wp_read_bind]
  exact refused_lift_require h

/-- **Without a session, what needs one is refused.** -/
theorem refused_of_needsSession {c : Call} (hc : c.NeedsSession)
    (h : t.lifecycle.state ≠ .authenticated) :
    wp srv allowed ((native lib).act c).run (Denied t s) NoRequest t s := by
  have hset (attrs : AttributeSet) :
      wp srv allowed (setAttributes lib attrs).run (Denied t s) NoRequest t s :=
    refused_bind (refused_require h)
  cases c with
  | connect params => exact hc.elim
  | authenticate credentials => exact hc.elim
  | executeQuery sql => exact refused_bind (refused_bind (refused_require h))
  | fetchResults handle => exact refused_bind (refused_bind (refused_require h))
  | closeResultSet handle => exact refused_bind (refused_require h)
  | createPreparedStatement sql => exact refused_bind (refused_bind (refused_require h))
  | executePreparedStatement handle parameters =>
    exact refused_bind (refused_bind (refused_require h))
  | closePreparedStatement handle => exact refused_bind (refused_require h)
  | setAutocommit enabled => exact hset _
  | setQueryTimeout timeoutSecs =>
    dsimp only [TransportProtocol.act, native]
    unfold Native.setQueryTimeout
    cases SInt.ofInt? 32 timeoutSecs.toNat with
    | none => exact ⟨⟨_, rfl⟩, rfl, rfl⟩
    | some timeout => exact hset _
  | refreshCurrentSchema => exact refused_bind (refused_bind (refused_require h))
  | setCurrentSchema schema => exact refused_bind (hset _)
  | close => exact hc.elim
  | terminate => exact hc.elim

/-! ### What operations keep -/

/-- What depends on the connection alone. -/
structure Closed (P : NativeTcpTransport → Prop) : Prop where
  exchanged : ∀ t t', Exchanged t t' → P t → P t'
  cached : ∀ t positions columns, P t →
    P { t with fetchPositions := positions, resultColumns := columns }

section Operations

variable {P : NativeTcpTransport → Prop}

theorem keeps_require {expected : ConnectionState} {message : String} :
    Keeps srv allowed (fun t _ => P t) (require expected message).run :=
  keeps_read_bind fun _ => keeps_done _

theorem Closed.keeps_sendAndFillBuf (hP : Closed P) {command : UInt8} {attrs : AttributeSet}
    {extraData : Option (List UInt8)} :
    Keeps srv allowed (fun t _ => P t) (sendAndFillBuf lib command attrs extraData).run :=
  keeps_of_exchanged hP.exchanged fun _ => Native.keeps_sendAndFillBuf lib command attrs extraData

theorem Closed.keeps_sendAndReceive (hP : Closed P) {command : UInt8} {attrs : AttributeSet}
    {extraData : Option (List UInt8)} :
    Keeps srv allowed (fun t _ => P t) (sendAndReceive lib command attrs extraData).run :=
  keeps_of_exchanged hP.exchanged fun _ => Native.keeps_sendAndReceive lib command attrs extraData

theorem Closed.keeps_setAttributes (hP : Closed P) (attrs : AttributeSet) :
    Keeps srv allowed (fun t _ => P t) (setAttributes lib attrs).run :=
  keeps_bind keeps_require fun _ => keeps_bind hP.keeps_sendAndFillBuf fun _ =>
    keeps_read_bind fun _ => keeps_lift_bind fun _ _ => keeps_done _

theorem Closed.keeps_convertAndCacheResult (hP : Closed P) (response : NativeResponse) :
    Keeps srv allowed (fun t _ => P t) (convertAndCacheResult lib response).run := by
  unfold convertAndCacheResult
  dsimp only
  split
  · split_ifs
    · exact keeps_bind (keeps_modify fun t _ h => hP.cached t _ _ h) fun _ => keeps_done _
    · exact keeps_done _
  · exact keeps_done _

theorem Closed.keeps_fetchedData (hP : Closed P) (handle : SInt 32) (startPosition : SInt 64)
    (columns : List NativeColumnMeta) (response : NativeResponse) :
    Keeps srv allowed (fun t _ => P t)
      (fetchedData lib handle startPosition columns response).run := by
  have hadvance (rows : SInt 64) :
      Keeps srv allowed (fun t _ => P t) (advancePosition lib handle startPosition rows).run :=
    keeps_lift_bind fun position _ => keeps_modify fun t _ h => hP.cached t _ t.resultColumns h
  cases response with
  | moreRows data =>
    exact keeps_lift_bind fun parsed _ => keeps_bind (hadvance _) fun _ => keeps_done _
  | resultSet h cs batch total rows => exact keeps_bind (hadvance _) fun _ => keeps_done _
  | _ => exact keeps_done _

theorem keeps_checkAnswer (answer : MessageHeader × List UInt8) :
    Keeps srv allowed (fun t _ => P t) (checkAnswer lib answer).run := by
  unfold checkAnswer
  split_ifs
  · exact keeps_done _
  · exact keeps_lift_bind fun _ _ => keeps_done _

theorem Closed.keeps_runExecutePrepared (hP : Closed P) (data : List UInt8) :
    Keeps srv allowed (fun t _ => P t) (runExecutePrepared lib data).run :=
  keeps_bind hP.keeps_sendAndReceive fun _ => keeps_lift_bind fun _ _ =>
    hP.keeps_convertAndCacheResult _

theorem Closed.keeps_executePreparedRanges (hP : Closed P) (handle : PreparedStatementHandle)
    (encoded : EncodedParameterRows) (ranges : List RowRange) (affected : SInt 64) :
    Keeps srv allowed (fun t _ => P t)
      (executePreparedRanges lib handle encoded ranges affected).run := by
  induction ranges generalizing affected with
  | nil => exact keeps_done _
  | cons range ranges ih =>
    refine keeps_bind (hP.keeps_runExecutePrepared _) fun result => ?_
    cases result with
    | rowCount count => exact keeps_lift_bind fun affected' _ => ih affected'
    | resultSet h data => exact keeps_done _

theorem Closed.keeps_executePreparedStatement (hP : Closed P) (handle : PreparedStatementHandle)
    (parameters : Option (List (List Json.Value))) :
    Keeps srv allowed (fun t _ => P t)
      (Native.executePreparedStatement lib handle parameters).run := by
  have hwhole : Keeps srv allowed (fun t _ => P t) (do
      let data ← lift (buildExecutePreparedPayload lib.encoder handle parameters)
      runExecutePrepared lib data : NativeOp QueryResult).run :=
    keeps_lift_bind fun data _ => hP.keeps_runExecutePrepared data
  refine keeps_bind keeps_require fun _ => keeps_read_bind fun t => ?_
  dsimp only
  split
  · refine keeps_lift_bind fun ranges _ => ?_
    cases ranges with
    | none => exact hwhole
    | some encoded =>
      dsimp only
      split_ifs
      · exact hP.keeps_executePreparedRanges handle encoded _ 0
      · exact hwhole
  · exact hwhole

theorem Closed.keeps_refreshCurrentSchema (hP : Closed P) :
    Keeps srv allowed (fun t _ => P t) (Native.refreshCurrentSchema lib).run := by
  refine keeps_bind keeps_require fun _ => keeps_bind hP.keeps_sendAndFillBuf fun header => ?_
  refine keeps_read_bind fun t => keeps_lift_bind fun _ _ => keeps_lift_bind fun attrs _ => ?_
  refine keeps_bind (keeps_modify fun t _ h => ?_) fun _ => keeps_done _
  exact hP.exchanged t _ ⟨rfl, rfl, rfl, rfl, rfl, rfl, rfl⟩ h

/-- **An operation keeps what depends on the connection alone.** -/
theorem Closed.keeps_call (hP : Closed P) {c : Call} (hc : c.NeedsSession) :
    Keeps srv allowed (fun t _ => P t) ((native lib).act c).run := by
  cases c with
  | connect params => exact hc.elim
  | authenticate credentials => exact hc.elim
  | executeQuery sql =>
    refine keeps_ignored (keeps_bind keeps_require fun _ => ?_)
    exact keeps_bind hP.keeps_sendAndFillBuf fun _ => keeps_read_bind fun _ =>
      keeps_lift_bind fun _ _ => hP.keeps_convertAndCacheResult _
  | fetchResults handle =>
    refine keeps_ignored (keeps_bind keeps_require fun _ => keeps_read_bind fun t => ?_)
    refine keeps_lift_bind fun columns _ => keeps_bind hP.keeps_sendAndFillBuf fun header => ?_
    exact keeps_read_bind fun _ => keeps_lift_bind fun _ _ => hP.keeps_fetchedData _ _ _ _
  | closeResultSet handle =>
    refine keeps_bind keeps_require fun _ => keeps_bind (keeps_modify fun t _ h => ?_) fun _ => ?_
    · exact hP.cached t _ _ h
    · exact keeps_bind hP.keeps_sendAndReceive fun answer => keeps_checkAnswer answer
  | createPreparedStatement sql =>
    refine keeps_ignored (keeps_bind keeps_require fun _ => ?_)
    refine keeps_bind hP.keeps_sendAndReceive fun answer => keeps_lift_bind fun response _ => ?_
    split <;> exact keeps_done _
  | executePreparedStatement handle parameters =>
    exact keeps_ignored (hP.keeps_executePreparedStatement handle parameters)
  | closePreparedStatement handle =>
    exact keeps_bind keeps_require fun _ => keeps_bind hP.keeps_sendAndReceive fun answer =>
      keeps_checkAnswer answer
  | setAutocommit enabled => exact hP.keeps_setAttributes _
  | setQueryTimeout timeoutSecs =>
    dsimp only [TransportProtocol.act, native]
    unfold Native.setQueryTimeout
    cases SInt.ofInt? 32 timeoutSecs.toNat with
    | none => exact keeps_done _
    | some timeout => exact hP.keeps_setAttributes _
  | refreshCurrentSchema => exact keeps_ignored hP.keeps_refreshCurrentSchema
  | setCurrentSchema schema =>
    exact keeps_bind (hP.keeps_setAttributes _) fun _ =>
      keeps_bind hP.keeps_refreshCurrentSchema fun _ => keeps_done _
  | close => exact hc.elim
  | terminate => exact hc.elim

end Operations

end Rules

/-! ### Logging in -/

section Login

variable {S Ω : Type} {srv : Server S NetRequest NetRequest.Answer Ω} {allowed : Set Ω}
  {lib : NativeLibraries} {t₀ t : NativeTcpTransport} {s : S}

/-- What a login leaves as it is until it has succeeded. -/
structure LoggingIn (t₀ t : NativeTcpTransport) : Prop where
  stream : t.stream = t₀.stream
  lifecycle : t.lifecycle = t₀.lifecycle
  session : t.session = t₀.session
  tlsActive : t.tlsActive = t₀.tlsActive
  tls : t.tlsActive = true → t.encryptor.isActive = false

theorem LoggingIn.exchanged {t₀ : NativeTcpTransport} (t t' : NativeTcpTransport)
    (h' : Exchanged t t') (h : LoggingIn t₀ t) : LoggingIn t₀ t' where
  stream := h'.stream.trans h.stream
  lifecycle := h'.lifecycle.trans h.lifecycle
  session := h'.session.trans h.session
  tlsActive := h'.tlsActive.trans h.tlsActive
  tls htls := h'.isActive.trans (h.tls (h'.tlsActive.symm.trans htls))

/-- What a login that has succeeded has set. -/
structure LoggedIn (t₀ t : NativeTcpTransport) : Prop where
  stream : t.stream = t₀.stream
  lifecycle : t.lifecycle = t₀.lifecycle
  session : t.session.isSome = true
  tlsActive : t.tlsActive = t₀.tlsActive
  cipher : t.encryptor.isActive = !t.tlsActive

/-- **The second message has keys** where there are to be any. -/
theorem wp_buildAuthMessage {password : String} {publicKey phrase : List UInt8} {useChacha20 : Bool}
    (h : LoggingIn t₀ t) :
    wp srv allowed (buildAuthMessage lib password publicKey phrase useChacha20).run
      (fun r t' _ => LoggingIn t₀ t' ∧
        ∀ auth, r = .ok auth → useChacha20 = true → auth.sendKey ≠ [])
      (fun t' _ => LoggingIn t₀ t') t s := by
  have herror (e : Interruption) (s : S) : LoggingIn t₀ t ∧
      ∀ auth, (.error e : Except Interruption AuthMessage) = .ok auth →
        useChacha20 = true → auth.sendKey ≠ [] := ⟨h, fun _ he => nomatch he⟩
  have hmessage (keys : Option (List UInt8 × List UInt8)) (attrs : AttributeSet)
      (hkeys : useChacha20 = true → ((keys.map Prod.fst).getD []) ≠ []) (s : S) :
      wp srv allowed (nextSerial >>= fun serial => (pure ⟨authBytes serial attrs,
          (keys.map Prod.fst).getD [], (keys.map Prod.snd).getD []⟩ : NativeOp AuthMessage)).run
        (fun r t' _ => LoggingIn t₀ t' ∧
          ∀ auth, r = .ok auth → useChacha20 = true → auth.sendKey ≠ [])
        (fun t' _ => LoggingIn t₀ t') t s := by
    refine ⟨h.exchanged t _ ⟨rfl, rfl, rfl, rfl, rfl, rfl, rfl⟩, fun auth hauth huse => ?_⟩
    cases hauth
    exact hkeys huse
  have hkeys (padded : List UInt8) (n e : ℕ) (s : S) :
      wp srv allowed (do
        let _ ← lift (exasolEncodePwd lib.parser.overflow padded phrase n e)
        let keys ← if useChacha20 then do
            let sendKey ← Attempt.ask (.random chacha20KeyLen) (fun key => ofExec (key.elim stop .ok))
            let recvKey ← Attempt.ask (.random chacha20KeyLen) (fun key => ofExec (key.elim stop .ok))
            pure (some (sendKey.val, recvKey.val))
          else pure none
        let attrs ← lift (authAttributes lib.parser.overflow padded phrase n e keys)
        let serial ← nextSerial
        return ⟨authBytes serial attrs, (keys.map Prod.fst).getD [],
          (keys.map Prod.snd).getD []⟩ : NativeOp AuthMessage).run
        (fun r t' _ => LoggingIn t₀ t' ∧
          ∀ auth, r = .ok auth → useChacha20 = true → auth.sendKey ≠ [])
        (fun t' _ => LoggingIn t₀ t') t s := by
    refine wp_lift_bind (fun _ _ => ?_) fun e _ => herror _ s
    dsimp only
    split_ifs with huse
    · refine wp_request_bind (fun _ => h) herror fun sendKey s => ?_
      refine wp_request_bind (fun _ => h) herror fun recvKey s => ?_
      rw [pure_bind]
      have hsome : sendKey.val ≠ [] := by
        intro hnil
        have hlength := sendKey.property
        rw [hnil] at hlength
        cases hlength
      exact wp_lift_bind (fun attrs _ => hmessage (some (sendKey.val, recvKey.val)) attrs
        (fun _ => hsome) s) fun e _ => herror _ s
    · rw [pure_bind]
      exact wp_lift_bind (fun attrs _ => hmessage none attrs (fun huse' => absurd huse' huse) s)
        fun e _ => herror _ s
  unfold buildAuthMessage
  refine wp_lift_bind (fun key _ => ?_) fun e _ => herror _ s
  dsimp only
  split
  · exact wp_request_bind (fun _ => h) herror fun bytes s => hkeys _ _ _ s
  · exact hkeys _ _ _ s

/-- The keys that are set are a cipher. -/
theorem isActive_of_setKeys {sendKey recvKey : List UInt8} {e : ChaCha20Encryptor}
    (h : ChaCha20Encryptor.setKeys sendKey recvKey = .ok e) : e.isActive = true := by
  unfold ChaCha20Encryptor.setKeys at h
  split_ifs at h
  · cases h
    rfl
  · cases h

/-- **A login** that succeeds has a session, and a cipher except over TLS; one that does not, or is
abandoned, has no session and no cipher over TLS. -/
theorem wp_loginExchange {credentials : Credentials} (h : LoggingIn t₀ t) :
    wp srv allowed (loginExchange lib credentials).run
      (fun r t' _ => (∀ session, r = .ok session → LoggedIn t₀ t') ∧
        ∀ e, r = .error e → LoggingIn t₀ t')
      (fun t' _ => LoggingIn t₀ t') t s := by
  have hdrop (t : NativeTcpTransport) (_ : S) (h : LoggingIn t₀ t) : LoggingIn t₀ t := h
  have herror (e : Interruption) (t : NativeTcpTransport) (_ : S) (h : LoggingIn t₀ t) :
      (∀ session, (.error e : Except Interruption SessionInfo) = .ok session → LoggedIn t₀ t) ∧
        ∀ e', (.error e : Except Interruption SessionInfo) = .error e' → LoggingIn t₀ t :=
    ⟨fun _ he => (nomatch he), fun _ _ => h⟩
  have hreceive : Keeps srv allowed (fun t _ => LoggingIn t₀ t) (receiveMessage lib).run :=
    keeps_of_exchanged LoggingIn.exchanged fun _ => keeps_receiveMessage lib
  -- The cipher is set before the attributes of the session are asked for.
  have hattributes (session : SessionInfo) (t : NativeTcpTransport) (s : S)
      (h : LoggingIn t₀ t ∧ t.encryptor.isActive = !t.tlsActive) :
      wp srv allowed (do
        sendMessage lib cmdGetAttributes [] none
        let answer ← receiveMessage lib
        lift (rejectException lib "GET_ATTRIBUTES failed" (resultDataSlice answer.1 answer.2))
        let gaAttrs ← lift (Checked.ofExcept (responseAttributes lib answer.1 answer.2))
        let sessionInfo := sessionWithAttributes session gaAttrs
        modify fun t =>
          { t with
            currentSchema := currentSchemaFromGetAttributes gaAttrs, session := some sessionInfo }
        return sessionInfo : NativeOp SessionInfo).run
        (fun r t' _ => (∀ session, r = .ok session → LoggedIn t₀ t') ∧
          ∀ e, r = .error e → LoggingIn t₀ t')
        (fun t' _ => LoggingIn t₀ t') t s := by
    have hclosed (t t' : NativeTcpTransport) (h' : Exchanged t t')
        (h : LoggingIn t₀ t ∧ t.encryptor.isActive = !t.tlsActive) :
        LoggingIn t₀ t' ∧ t'.encryptor.isActive = !t'.tlsActive :=
      ⟨h.1.exchanged t t' h', by rw [h'.isActive, h'.tlsActive, h.2]⟩
    refine wp_keeps_bind (keeps_of_exchanged hclosed fun _ => keeps_sendMessage lib _ _ _)
      (fun t s h => h.1) (fun e t s h => herror e t s h.1) (fun _ t s h => ?_) h
    refine wp_keeps_bind (keeps_of_exchanged hclosed fun _ => keeps_receiveMessage lib)
      (fun t s h => h.1) (fun e t s h => herror e t s h.1) (fun answer t s h => ?_) h
    refine wp_lift_bind (fun _ _ => ?_) fun e _ => herror _ t s h.1
    refine wp_lift_bind (fun gaAttrs _ => ?_) fun e _ => herror _ t s h.1
    exact ⟨fun _ _ => ⟨h.1.stream, h.1.lifecycle, rfl, h.1.tlsActive, h.2⟩, fun _ he => nomatch he⟩
  unfold loginExchange
  refine wp_keeps_bind (keeps_sendRaw _) hdrop herror (fun _ t s h => ?_) h
  refine wp_keeps_bind hreceive hdrop herror (fun login t s h => ?_) h
  obtain ⟨loginHeader, loginPayload⟩ := login
  dsimp only
  refine wp_lift_bind (fun serverAttrs _ => ?_) fun e _ => herror _ t s h
  refine wp_lift_bind (fun publicKey _ => ?_) fun e _ => herror _ t s h
  refine wp_lift_bind (fun randomPhrase _ => ?_) fun e _ => herror _ t s h
  refine wp_lift_bind (fun session _ => ?_) fun e _ => herror _ t s h
  rw [wp_read_bind]
  -- Whether there are to be keys is decided by the stream.
  have huse : (!t.tlsActive) = !t₀.tlsActive := congrArg _ h.tlsActive
  rw [huse, wp_attempt_bind]
  refine wp_mono (fun r t s hr => ?_) hdrop (wp_buildAuthMessage h)
  obtain ⟨h, hkeys⟩ := hr
  cases r with
  | error e => exact herror e t s h
  | ok auth =>
    have hauth := hkeys auth rfl
    dsimp only
    refine wp_keeps_bind (keeps_sendRaw _) hdrop herror (fun _ t s h => ?_) h
    refine wp_keeps_bind hreceive hdrop herror (fun answer t s h => ?_) h
    obtain ⟨header, payload⟩ := answer
    dsimp only
    refine wp_lift_bind (fun _ _ => ?_) fun e _ => herror _ t s h
    split_ifs with hset
    · rw [wp_read_bind]
      refine wp_lift_bind (fun encryptor hencryptor => ?_) fun e _ => herror _ t s h
      have hplain : t.tlsActive = false := by
        rw [h.tlsActive]
        simpa using hset.1
      have hactive : encryptor.isActive = !t.tlsActive := by
        rw [isActive_of_setKeys hencryptor, hplain]
        rfl
      refine hattributes session { t with encryptor } s ⟨⟨h.stream, h.lifecycle, h.session, h.tlsActive, ?_⟩, hactive⟩
      intro htls
      rw [hplain] at htls
      cases htls
    · refine hattributes session t s ⟨h, ?_⟩
      -- Keys that were asked for are there.
      have htls : t.tlsActive = true := by
        by_contra hplain
        have hasked : (!t₀.tlsActive) = true := by rw [← h.tlsActive]; simpa using hplain
        exact hset ⟨hasked, hauth hasked⟩
      rw [h.tls htls, htls]
      rfl

end Login

/-! ### The parts fit each other -/

section Sane

variable {S Ω : Type} {srv : Server S NetRequest NetRequest.Answer Ω} {allowed : Set Ω}
  {lib : NativeLibraries} {t t' : NativeTcpTransport} {s : S}

/-- The parts fit, and nothing has ended. -/
def Running (t : NativeTcpTransport) : Prop := Sane t ∧ hasEnded t = false

theorem closed_running : Closed Running where
  exchanged t t' h' hrunning := by
    obtain ⟨h, hnot⟩ := hrunning
    have hlife := h'.lifecycle
    have hended : hasEnded t' = false := by
      unfold hasEnded
      rw [hlife]
      exact hnot
    refine ⟨⟨?_, ?_, ?_, ?_, ?_, ?_⟩, hended⟩
    · rw [h'.stream, hlife]
      exact h.stream
    · rw [h'.session, hlife]
      exact h.session
    · intro hyes
      rw [hended] at hyes
      cases hyes
    · rw [h'.tlsActive, h'.isActive]
      exact h.tls
    · rw [hlife, h'.tlsActive, h'.isActive]
      exact h.cipher
    · rw [hlife, h'.isActive]
      exact h.fresh
  cached t positions columns h := ⟨⟨h.1.stream, h.1.session, h.1.schema, h.1.tls, h.1.cipher, h.1.fresh⟩, h.2⟩

/-- A transport that is let go. -/
theorem sane_release {state : ConnectionState} (hstate : state = .closed ∨ state = .terminated)
    (htls : t.tlsActive = true → t.encryptor.isActive = false) :
    Sane { t.releaseConnection with lifecycle := { t.lifecycle with state } } := by
  rcases hstate with rfl | rfl
  · exact ⟨rfl, rfl, fun _ => rfl, htls, fun h => (nomatch h), fun h => (nomatch h)⟩
  · exact ⟨rfl, rfl, fun _ => rfl, htls, fun h => (nomatch h), fun h => (nomatch h)⟩

theorem sane_shut (htls : t.tlsActive = true → t.encryptor.isActive = false) :
    Sane ((lifecycleSteps lib).shut t) := sane_release (.inl rfl) htls

/-- A login that did not succeed leaves the transport connected. -/
theorem sane_of_loggingIn (h : Sane t) (hconnected : t.lifecycle.state = .connected)
    (h' : LoggingIn t t') : Sane t' := by
  have hstate : t'.lifecycle.state = .connected := by rw [h'.lifecycle, hconnected]
  refine ⟨?_, ?_, ?_, h'.tls, ?_, ?_⟩
  · rw [h'.stream, h'.lifecycle]
    exact h.stream
  · rw [h'.session, h'.lifecycle]
    exact h.session
  · intro hended
    unfold hasEnded at hended
    rw [hstate] at hended
    cases hended
  · intro hauth
    rw [hstate] at hauth
    cases hauth
  · intro hfresh
    rw [hstate] at hfresh
    cases hfresh

/-- A login that succeeded. -/
theorem sane_of_loggedIn (h : Sane t) (hconnected : t.lifecycle.state = .connected)
    (h' : LoggedIn t t') : Sane ((lifecycleSteps lib).withState .authenticated t') := by
  have hopen : t.stream.isSome = true := by
    rw [h.stream, ConnectionLifecycle.isOpen_iff]
    exact .inl hconnected
  refine ⟨?_, ?_, ?_, ?_, fun _ => h'.cipher, ?_⟩
  · exact (congrArg Option.isSome h'.stream).trans hopen
  · exact h'.session
  · exact fun hended => nomatch hended
  · intro htls
    have hcipher := h'.cipher
    rw [show t'.tlsActive = true from htls] at hcipher
    exact hcipher
  · exact fun hfresh => nomatch hfresh

theorem keeps_sane_authenticate {credentials : Credentials} :
    Keeps srv allowed (fun t _ => Sane t) (Native.authenticate lib credentials).run := by
  refine LifecycleSteps.keeps_authenticateWithinDeadline (fun t s h hconnected => ?_) ?_
  · have hrefl : LoggingIn t t := ⟨rfl, rfl, rfl, rfl, h.tls⟩
    refine wp_mono (fun r t' _ hr => ?_) (fun t' _ h' => sane_of_loggingIn h hconnected h')
      (wp_loginExchange hrefl)
    obtain ⟨hok, herr⟩ := hr
    cases r with
    | ok session => exact sane_of_loggedIn h hconnected (hok session rfl)
    | error e =>
      exact ⟨sane_of_loggingIn h hconnected (herr e rfl), sane_shut (herr e rfl).tls⟩
  · exact fun t s hsane hshut => ⟨hsane, fun _ _ => ⟨hsane, hsane, hshut⟩⟩

theorem keeps_sane_connect {params : TransportParams} :
    Keeps srv allowed (fun t _ => Sane t) (Native.connect params).run := by
  intro t s h
  unfold Native.connect
  rw [wp_read_bind]
  refine wp_lift_bind (fun deadline hbegin => ?_) fun _ _ => h
  have hfresh : t.lifecycle.state = .disconnected := by
    unfold ConnectionLifecycle.beginConnect at hbegin
    obtain ⟨_, hrequire, -⟩ := bind_eq_ok.mp hbegin
    exact ConnectionLifecycle.require_eq_ok_iff.mp hrequire
  have hsession : t.session.isSome = false := by
    rw [h.session, hfresh]
    rfl
  -- Until the last step nothing changes.
  have hdrop (t' : NativeTcpTransport) (_ : S) (h' : t' = t) : Sane t' := h' ▸ h
  have herror (_ : Interruption) (t' : NativeTcpTransport) (_ : S) (h' : t' = t) : Sane t' := h' ▸ h
  have hconnected (stream : NativeStream) (tls : Bool) :
      Sane { t with
        stream := some stream, tlsActive := tls, lifecycle := t.lifecycle.connected deadline } :=
    ⟨rfl, hsession, fun hended => (nomatch hended), fun _ => h.fresh hfresh,
      fun hauth => (nomatch hauth), fun hdisconnected => (nomatch hdisconnected)⟩
  refine wp_keeps_bind (K := fun t' _ => t' = t) (keeps_deadlineRun keeps_request) hdrop herror
    (fun _ t' s' ht => ?_) rfl
  subst ht
  refine wp_keeps_bind (K := fun t'' _ => t'' = t') keeps_request hdrop herror
    (fun _ t'' s'' ht => ?_) rfl
  subst ht
  split_ifs
  · refine wp_keeps_bind (K := fun t' _ => t' = t'') (keeps_deadlineRun keeps_request) hdrop herror
      (fun _ t' s' ht => ?_) rfl
    subst ht
    exact hconnected .tls true
  · exact hconnected .plain t''.tlsActive

/-- **Every call keeps the parts fitting each other**, however it ends. -/
theorem keeps_sane (c : Call) : Keeps srv allowed (fun t _ => Sane t) ((native lib).act c).run := by
  by_cases hc : c.NeedsSession
  · intro t s h
    by_cases hauth : t.lifecycle.state = .authenticated
    · have hrunning : Running t := by
        refine ⟨h, ?_⟩
        unfold hasEnded
        rw [hauth]
        rfl
      exact wp_mono (fun _ _ _ h => h.1) (fun _ _ h => h.1) (closed_running.keeps_call hc t s hrunning)
    · refine wp_mono (fun r t' s' hr => ?_) (fun _ _ h => h.elim) (refused_of_needsSession hc hauth)
      obtain ⟨-, rfl, -⟩ := hr
      exact h
  · cases c with
    | connect params => exact keeps_sane_connect
    | authenticate credentials => exact keeps_bind keeps_sane_authenticate fun _ => keeps_done _
    | close =>
      have hdisconnect : Keeps srv allowed (fun t _ => Running t) (sendDisconnect lib).run := by
        refine keeps_read_bind fun t => ?_
        split_ifs
        · exact keeps_bind (keeps_attempt closed_running.keeps_sendAndReceive) fun _ => keeps_done _
        · exact keeps_done _
      exact LifecycleSteps.keeps_closeGracefully
        (fun t h hopen => ⟨h, ConnectionLifecycle.ended_of_isOpen hopen⟩) (fun _ h => h.1)
        (fun _ h => sane_shut h.1.tls) hdisconnect
    | terminate => exact fun t s h => sane_release (.inr rfl) h.tls
    | _ => exact (hc trivial).elim

/-- **A transport that has ended stays so**, and a call on it asks for nothing. -/
theorem wp_ended (c : Call) (h : Sane t) (hended : hasEnded t = true) :
    wp srv allowed ((native lib).act c).run
      (fun r t' s' => hasEnded t' = true ∧ s' = s ∧ TransportProtocol.Refuses c r) NoRequest t s := by
  have hnot := ConnectionLifecycle.state_ne_of_ended hended
  have hrefuse {p : NativeOp Unit} (hc : ¬c.Ends)
      (hp : wp srv allowed p.run (Denied t s) NoRequest t s) :
      wp srv allowed p.run
        (fun r t' s' => hasEnded t' = true ∧ s' = s ∧ TransportProtocol.Refuses c r) NoRequest t s := by
    refine wp_mono (fun r t' s' hr => ?_) (fun _ _ h => h) hp
    obtain ⟨he, rfl, rfl⟩ := hr
    exact ⟨hended, rfl, .inr ⟨hc, he⟩⟩
  by_cases hc : c.NeedsSession
  · have hends : ¬c.Ends := by
      cases c <;> first | exact fun h => h | exact hc.elim
    exact hrefuse hends (refused_of_needsSession hc (hnot _ (by decide)))
  · cases c with
    | connect params =>
      refine hrefuse (fun h => h) ?_
      dsimp only [TransportProtocol.act, native]
      unfold Native.connect ConnectionLifecycle.beginConnect
      rw [wp_read_bind]
      obtain ⟨e, he⟩ : ∃ e, t.lifecycle.require .disconnected "Already connected" = fail e :=
        ConnectionLifecycle.exists_require_eq_fail (hnot .disconnected (by decide))
      rw [he]
      exact ⟨⟨e, rfl⟩, rfl, rfl⟩
    | authenticate credentials =>
      exact hrefuse (fun h => h) (refused_bind
        (LifecycleSteps.refused_authenticateWithinDeadline (hnot .connected (by decide))))
    | close =>
      exact LifecycleSteps.wp_closeGracefully_of_not_open
        (ConnectionLifecycle.isOpen_of_ended hended) ⟨hended, rfl, .inl ⟨trivial, rfl⟩⟩
    | terminate => exact ⟨rfl, rfl, .inl ⟨trivial, rfl⟩⟩
    | _ => exact (hc trivial).elim

end Sane

/-! ### Whole runs -/

/-- A native transport obeys the rules. -/
theorem rules (lib : NativeLibraries) : (native lib).Rules Sane where
  keeps call := keeps_sane call
  ended call _ _ hsane hended := wp_ended call hsane hended

/-- **The life of a native transport**, along every run of calls, whatever the network does to their
requests and wherever they are abandoned. -/
theorem always_upheld (lib : NativeLibraries)
    (run : List (TransportProtocol.Action NetRequest.Answer)) :
    Runs.Always (native lib).step ((native lib).Upheld Sane) { transport := {} } run :=
  TransportProtocol.always_upheld_of_rules (rules lib)
    ⟨rfl, rfl, fun _ => rfl, fun _ => rfl, fun h => absurd h (by decide), fun _ => rfl⟩ rfl run

end Exarrow.Native.Lifecycle
