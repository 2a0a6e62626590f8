import Exarrow.Native.Endpoint
import Exarrow.Native.Exchanges

/-!
# Responses and their requests

A transport that is logged in talks to a server (`Exarrow.Native.Endpoint`) over a network that
loses nothing (`Exarrow.Native.Pairing.wire`). What goes over it are bytes, encrypted or not, of
headers, payloads and any number of notes that a command is still executing, and nothing in a
response says which request it answers.

**Each exchange has the final response to its own message** all the same
(`Exarrow.Native.Pairing.runExchanges_eq`): whatever is sent one after the other, the two ends
together do what a server would do that is called with the message itself and returns the response
itself (`Exarrow.Native.Pairing.Conversation`). Every message arrives once and in order, the ciphers
of the two ends stay in step, and the current schema is the one that the responses have reported
last. This holds of responses that cannot be read, too: their bytes are read to the end before
anything is made of them.
-/

namespace Exarrow.Native.Pairing

open Machine Checked Keystream Client Transport

variable {lib : NativeLibraries} {App : Type}

/-! ### The two ends -/

/-- A network that loses nothing. A read waits for what the server has not sent. -/
def wire (b : Backend lib App) :
    Server (Endpoint App) NetRequest NetRequest.Answer (∀ r : NetRequest, r.Answer) where
  step s r choice := match r with
    | .writeAll bytes => (some (.ok ()), s.feed b bytes)
    | .flush => (some (.ok ()), s)
    | .readExact n =>
      if h : n ≤ s.outbox.length then
        (some (.ok ⟨s.outbox.take n, List.length_take_of_le h⟩), { s with outbox := s.outbox.drop n })
      else (none, s)
    | r => (choice r, s)

/-- What an exchange sends. A header can announce it. -/
structure Exchange where
  command : UInt8
  attrs : AttributeSet
  extraData : Option (List UInt8)
  short : (requestPayload attrs extraData).length < 2 ^ 32

/-- The message of an exchange. -/
def Exchange.message (x : Exchange) (serial : UInt32) : Message where
  header := requestHeader x.command serial x.attrs x.extraData
  payload := requestPayload x.attrs x.extraData
  sized := by
    have hlength : (requestPayload x.attrs x.extraData).length =
        x.attrs.serialize.length + (x.extraData.getD []).length := List.length_append
    rw [hlength]
    exact UInt32.toNat_ofNat_of_lt' (hlength ▸ x.short)

/-- What the program makes of a final response: its header and its payload, or an error. -/
def received (lib : NativeLibraries) (m : Message) : Except Interruption (MessageHeader × List UInt8) :=
  ofExec do
    let _ ← Checked.ofExcept (responseAttributes lib m.header m.payload)
    let _ ← parseResponse lib.parser (resultDataSlice m.header m.payload)
    return (m.header, m.payload)

/-- The current schema once a response has come. -/
def schemaAfter (lib : NativeLibraries) (schema : Option String) (m : Message) : Option String :=
  match responseAttributes lib m.header m.payload with
  | .ok attrs => (currentSchemaChange attrs).getD schema
  | .error _ => schema

/-- A server that is called with messages and returns responses, and what its caller keeps of
them. -/
structure Conversation (App : Type) where
  app : App
  serial : UInt32
  currentSchema : Option String

/-- One call. -/
def Conversation.exchange (b : Backend lib App) (c : Conversation App) (x : Exchange) :
    Except Interruption (MessageHeader × List UInt8) × Conversation App :=
  let served := b.serve c.app (x.message c.serial)
  (received lib served.final,
    { app := served.app
      serial := c.serial + 1
      currentSchema := (served.notes ++ [served.final]).foldl (schemaAfter lib) c.currentSchema })

/-- One call after the other. -/
def Conversation.run (b : Backend lib App) : List Exchange → Conversation App →
    List (Except Interruption (MessageHeader × List UInt8)) × Conversation App
  | [], c => ([], c)
  | x :: xs, c =>
    let (r, c) := c.exchange b x
    let (rs, c) := c.run b xs
    (r :: rs, c)

theorem Conversation.run_cons (b : Backend lib App) (x : Exchange) (xs : List Exchange)
    (c : Conversation App) :
    Conversation.run b (x :: xs) c =
      ((c.exchange b x).1 :: (Conversation.run b xs (c.exchange b x).2).1,
        (Conversation.run b xs (c.exchange b x).2).2) := rfl

/-- One exchange after the other, over the network. -/
def runExchanges (b : Backend lib App) (choice : ℕ → ∀ r : NetRequest, r.Answer) :
    List Exchange → NativeTcpTransport → Endpoint App →
    List (Except Interruption (MessageHeader × List UInt8)) × NativeTcpTransport × Endpoint App
  | [], t, s => ([], t, s)
  | x :: xs, t, s =>
    let (r, t, s) :=
      exec (wire b) (sendAndReceive lib x.command x.attrs x.extraData).run choice t s
    let (rs, t, s) := runExchanges b choice xs t s
    (r :: rs, t, s)

/-- The conversation that two ends are in. -/
def conversation (t : NativeTcpTransport) (s : Endpoint App) : Conversation App :=
  ⟨s.app, t.serial, t.currentSchema⟩

/-! ### In step -/

/-- The ciphers of a client. -/
def encryptorOf (c : Option (Cipher × Cipher)) : ChaCha20Encryptor :=
  ⟨c.map Prod.fst, c.map Prod.snd⟩

/-- **The client awaits some messages**: they are what is underway, and the ciphers of the server are
ahead by their payloads. -/
structure Awaits (lib : NativeLibraries) (t : NativeTcpTransport) (s : Endpoint App)
    (ms : List Message) : Prop where
  stream : t.stream.isSome = true
  phase : s.phase = .session
  inbox : s.inbox = []
  underway : ∃ c, t.encryptor = encryptorOf c ∧
    s.ciphers = c.map (fun c => (c.1, c.2.advance (Endpoint.payloadLength ms))) ∧
    s.outbox = Endpoint.outgoing lib.keystream (c.map Prod.snd) ms

/-- **The two ends are in step**: nothing is underway, and they have the same ciphers. -/
structure InStep (t : NativeTcpTransport) (s : Endpoint App) : Prop where
  stream : t.stream.isSome = true
  phase : s.phase = .session
  inbox : s.inbox = []
  outbox : s.outbox = []
  ciphers : t.encryptor = s.encryptor

/-- Ends that are in step await nothing. -/
theorem awaits_nil {t : NativeTcpTransport} {s : Endpoint App} :
    Awaits lib t s [] ↔ InStep t s := by
  constructor
  · rintro ⟨hstream, hphase, hinbox, c, ht, hs, hout⟩
    have hc : s.ciphers = c := by
      rw [hs]
      cases c <;> rfl
    exact ⟨hstream, hphase, hinbox, hout, by rw [ht, ← hc]; rfl⟩
  · rintro ⟨hstream, hphase, hinbox, hout, hciphers⟩
    refine ⟨hstream, hphase, hinbox, s.ciphers, hciphers, ?_, hout⟩
    cases s.ciphers <;> rfl

/-! ### Sending -/

section Sending

variable {b : Backend lib App} {allowed : Set (∀ r : NetRequest, r.Answer)} {t : NativeTcpTransport}
  {s : Endpoint App}

/-- What is written comes in on the other side. -/
theorem wp_sendRaw (hstream : t.stream.isSome = true) {data : List UInt8}
    {post : Except Interruption Unit → NativeTcpTransport → Endpoint App → Prop}
    (h : post (.ok ()) t (s.feed b data)) :
    wp (wire b) allowed (sendRaw data).run post (fun _ _ => True) t s := by
  have hsome : ¬t.stream.isNone = true := by
    obtain ⟨stream, hstream⟩ := Option.isSome_iff_exists.mp hstream
    rw [hstream]
    exact Bool.false_ne_true
  unfold sendRaw streamMut
  rw [bind_assoc, wp_read_bind, if_neg hsome]
  exact ⟨trivial, fun _ _ => ⟨trivial, trivial, fun _ _ => ⟨trivial, h⟩⟩⟩

/-- The server has the message as it was before it was encrypted. -/
theorem decrypted_eq {c : Option (Cipher × Cipher)} {m m' : Message} (hciphers : s.ciphers = c)
    (hheader : m'.header = m.header)
    (hpayload : m'.payload = (encryptorOf c).encrypt lib.keystream m.payload) :
    s.decrypted lib.keystream m' = m := by
  refine Message.ext hheader ?_
  change s.ciphers.elim m'.payload (fun c => c.1.apply lib.keystream m'.payload) = m.payload
  rw [hciphers, hpayload]
  cases c with
  | none => rfl
  | some c => exact Cipher.apply_apply c.1 m.payload

/-- **A message is served once**, and then the answers are underway. -/
theorem wp_sendMessageWithSerial (h : InStep t s) (x : Exchange) (serial : UInt32) :
    wp (wire b) allowed
      (sendMessageWithSerial lib x.command x.attrs x.extraData serial).run
      (fun r t' s' =>
        let served := b.serve s.app (x.message serial)
        r = .ok () ∧ Awaits lib t' s' (served.notes ++ [served.final]) ∧ s'.app = served.app ∧
          t'.serial = t.serial ∧ t'.currentSchema = t.currentSchema)
      (fun _ _ => True) t s := by
  obtain ⟨c, hc⟩ : ∃ c, s.ciphers = c := ⟨_, rfl⟩
  have hencryptor : t.encryptor = encryptorOf c := by
    rw [h.ciphers, ← hc]
    rfl
  have hactive : t.encryptor.isActive = c.isSome := by
    rw [hencryptor]
    cases c <;> rfl
  -- What goes over the wire.
  have hlength : ((encryptorOf c).encrypt lib.keystream (x.message serial).payload).length =
      (x.message serial).payload.length := by
    cases c with
    | none => rfl
    | some c => exact Cipher.length_apply c.1 _
  let m : Message := ⟨(x.message serial).header,
    (encryptorOf c).encrypt lib.keystream (x.message serial).payload,
    (x.message serial).sized.trans hlength.symm⟩
  have hserve : (s.feed b m.header.serialize).feed b m.payload = s.serve b m :=
    Endpoint.feed_request b h.phase h.inbox m
  have hdecrypted : s.decrypted lib.keystream m = x.message serial := decrypted_eq hc rfl rfl
  have hawaits (t' : NativeTcpTransport) (hstream : t'.stream.isSome = true)
      (ht' : t'.encryptor = encryptorOf (c.map fun c => (c.1.advance m.payload.length, c.2))) :
      Awaits lib t' (s.serve b m)
        ((b.serve s.app (x.message serial)).notes ++ [(b.serve s.app (x.message serial)).final]) := by
    refine ⟨hstream, ?_, ?_, _, ht', ?_, ?_⟩
    · rw [Endpoint.phase_serve, h.phase]
    · rw [Endpoint.inbox_serve, h.inbox]
    · unfold Endpoint.serve
      rw [Endpoint.foldl_send, hdecrypted]
      dsimp only
      rw [hc]
    · unfold Endpoint.serve
      rw [Endpoint.foldl_send, hdecrypted]
      dsimp only
      rw [hc, h.outbox, List.nil_append]
  have happ : (s.serve b m).app = (b.serve s.app (x.message serial)).app := by
    unfold Endpoint.serve
    rw [Endpoint.foldl_send, hdecrypted]
  have hsend (t' : NativeTcpTransport) (hstream : t'.stream.isSome = true)
      (ht' : t'.encryptor = encryptorOf (c.map fun c => (c.1.advance m.payload.length, c.2)))
      (hserial : t'.serial = t.serial) (hschema : t'.currentSchema = t.currentSchema) :
      wp (wire b) allowed (do
        sendRaw m.header.serialize
        sendRaw m.payload : NativeOp Unit).run
        (fun r t' s' =>
          let served := b.serve s.app (x.message serial)
          r = .ok () ∧ Awaits lib t' s' (served.notes ++ [served.final]) ∧ s'.app = served.app ∧
            t'.serial = t.serial ∧ t'.currentSchema = t.currentSchema)
        (fun _ _ => True) t' s := by
    rw [wp_attempt_bind]
    refine wp_sendRaw hstream (wp_sendRaw hstream ?_)
    rw [hserve]
    exact ⟨rfl, hawaits t' hstream ht', happ, hserial, hschema⟩
  unfold sendMessageWithSerial encryptPayload
  rw [bind_assoc, wp_read_bind]
  cases c with
  | none =>
    rw [if_neg (by rw [hactive]; exact Bool.false_ne_true), pure_bind]
    exact hsend t h.stream hencryptor rfl rfl
  | some c =>
    rw [if_pos (show t.encryptor.isActive = true from hactive), bind_assoc, Attempt.run_write_bind,
      wp_put, pure_bind, hencryptor]
    have hsent : (encryptorOf (some c)).sent (requestPayload x.attrs x.extraData).length =
        encryptorOf (some (c.1.advance m.payload.length, c.2)) := by
      rw [show m.payload.length = (requestPayload x.attrs x.extraData).length from hlength]
      rfl
    exact hsend _ h.stream hsent rfl rfl

end Sending

/-! ### Receiving -/

section Receiving

variable {b : Backend lib App} {allowed : Set (∀ r : NetRequest, r.Answer)} {t : NativeTcpTransport}
  {s : Endpoint App}

/-- What is there is read. -/
theorem wp_readExact {α : Type} {n : ℕ} {pre rest : List UInt8} (hn : pre.length = n)
    (hout : s.outbox = pre ++ rest) {f : Bytes n → NativeOp α}
    {post : Except Interruption α → NativeTcpTransport → Endpoint App → Prop}
    (h : wp (wire b) allowed (f ⟨pre, hn⟩).run post (fun _ _ => True) t { s with outbox := rest }) :
    wp (wire b) allowed (Attempt.ask (.readExact n) (Reply.result .receiveError) >>= f).run post
      (fun _ _ => True) t s := by
  subst hn
  refine ⟨trivial, fun w _ => ⟨trivial, ?_⟩⟩
  have hle : pre.length ≤ s.outbox.length := by
    rw [hout, List.length_append]
    exact Nat.le_add_right ..
  have hdrop : s.outbox.drop pre.length = rest := by rw [hout, List.drop_left]
  have htake : s.outbox.take pre.length = pre := by rw [hout, List.take_left]
  have hbytes : (⟨s.outbox.take pre.length, List.length_take_of_le hle⟩ : Bytes pre.length) =
      ⟨pre, rfl⟩ := Subtype.ext htake
  have hstep : (wire b).step s (.readExact pre.length) w =
      (some (.ok ⟨pre, rfl⟩), { s with outbox := rest }) := by
    unfold wire
    dsimp only
    rw [dif_pos hle, hdrop, hbytes]
  rw [hstep]
  exact h

/-- The bytes of a payload on the way to the client. -/
def encrypted (lib : NativeLibraries) (c : Option (Cipher × Cipher)) (payload : List UInt8) :
    List UInt8 :=
  (c.map Prod.snd).elim payload fun c => c.apply lib.keystream payload

theorem length_encrypted (c : Option (Cipher × Cipher)) (payload : List UInt8) :
    (encrypted lib c payload).length = payload.length := by
  cases c with
  | none => rfl
  | some c => exact Cipher.length_apply c.2 payload

/-- The ciphers of a client that has read a payload. -/
def readOn (c : Option (Cipher × Cipher)) (n : ℕ) : Option (Cipher × Cipher) :=
  c.map fun c => (c.1, c.2.advance n)

/-- **A payload is read and decrypted.** -/
theorem wp_receivePayload (hstream : t.stream.isSome = true) {c : Option (Cipher × Cipher)}
    (hencryptor : t.encryptor = encryptorOf c) (m : Message) {rest : List UInt8}
    (hout : s.outbox = encrypted lib c m.payload ++ rest) :
    wp (wire b) allowed (receivePayload lib m.header).run
      (fun r t' s' => r = .ok () ∧
        t' = { t with
          recvBuf := m.payload, encryptor := encryptorOf (readOn c m.payload.length) } ∧
        s' = { s with outbox := rest })
      (fun _ _ => True) t s := by
  unfold receivePayload
  rw [wp_modify_bind]
  split_ifs with hpos
  · have hsome : ¬t.stream.isNone = true := by
      obtain ⟨stream, hstream⟩ := Option.isSome_iff_exists.mp hstream
      rw [hstream]
      exact Bool.false_ne_true
    rw [wp_modify_bind]
    unfold streamMut
    rw [bind_assoc, wp_read_bind, if_neg hsome]
    refine wp_readExact ((length_encrypted c m.payload).trans m.sized.symm) hout ?_
    cases c with
    | none =>
      have hinactive : ¬t.encryptor.isActive = true := by
        rw [hencryptor]
        exact Bool.false_ne_true
      refine ⟨rfl, ?_, rfl⟩
      dsimp only
      rw [if_neg hinactive, hencryptor]
      rfl
    | some c =>
      have hactive : t.encryptor.isActive = true := by
        rw [hencryptor]
        rfl
      refine ⟨rfl, ?_, rfl⟩
      dsimp only
      rw [if_pos hactive, hencryptor, length_encrypted]
      have hdecrypt : (encryptorOf (some c)).decrypt lib.keystream
          (encrypted lib (some c) m.payload) = m.payload := Cipher.apply_apply c.2 m.payload
      rw [hdecrypt]
      rfl
  · have hempty : m.payload = [] := by
      rw [m.sized] at hpos
      exact List.eq_nil_of_length_eq_zero (Nat.eq_zero_of_not_pos hpos)
    have hnone : encrypted lib c m.payload = [] := by
      rw [← List.length_eq_zero_iff, length_encrypted, hempty]
      rfl
    have hsame : readOn c m.payload.length = c := by
      rw [hempty]
      cases c <;> rfl
    refine ⟨rfl, ?_, ?_⟩
    · rw [hsame, ← hencryptor, hempty]
    · rw [hnone, List.nil_append] at hout
      rw [← hout]

/-- **A response is read to its end**, whatever is made of it. -/
theorem wp_receiveIntoBuf {m : Message} {ms : List Message} (h : Awaits lib t s (m :: ms)) :
    wp (wire b) allowed (receiveIntoBuf lib).run
      (fun r t' s' => (Awaits lib t' s' ms ∧ s'.app = s.app ∧ t'.serial = t.serial ∧
          t'.currentSchema = schemaAfter lib t.currentSchema m ∧ t'.recvBuf = m.payload) ∧
        r = (ofExec (Checked.ofExcept (responseAttributes lib m.header m.payload))).map
          fun _ => m.header)
      (fun _ _ => True) t s := by
  obtain ⟨hstream, hphase, hinbox, c, hencryptor, hciphers, hout⟩ := h
  have hsome : ¬t.stream.isNone = true := by
    obtain ⟨stream, hstream⟩ := Option.isSome_iff_exists.mp hstream
    rw [hstream]
    exact Bool.false_ne_true
  rw [Endpoint.outgoing, List.append_assoc] at hout
  unfold receiveIntoBuf streamMut
  rw [bind_assoc, wp_read_bind, if_neg hsome]
  refine wp_readExact m.header.length_serialize hout ?_
  dsimp only
  rw [MessageHeader.parse_serialize, wp_attempt_bind]
  refine wp_mono (fun r t' s' hr => ?_) (fun _ _ _ => trivial)
    (wp_receivePayload hstream hencryptor m rfl)
  obtain ⟨rfl, rfl, rfl⟩ := hr
  have hawaits (schema : Option String) : Awaits lib
      { t with
        recvBuf := m.payload
        encryptor := encryptorOf (readOn c m.payload.length)
        currentSchema := schema }
      { s with
        outbox := Endpoint.outgoing lib.keystream
          ((c.map Prod.snd).map fun c => c.advance m.payload.length) ms } ms := by
    refine ⟨hstream, hphase, hinbox, readOn c m.payload.length, rfl, ?_, ?_⟩
    · rw [hciphers]
      cases c with
      | none => rfl
      | some c =>
        exact congrArg some (Prod.ext rfl (Cipher.advance_advance c.2 _ _).symm)
    · cases c <;> rfl
  dsimp only
  rw [wp_read_bind]
  dsimp only
  cases hattrs : responseAttributes lib m.header m.payload with
  | error e =>
    have hschema : schemaAfter lib t.currentSchema m = t.currentSchema := by
      unfold schemaAfter
      rw [hattrs]
    exact ⟨⟨hawaits t.currentSchema, rfl, rfl, hschema.symm, rfl⟩, rfl⟩
  | ok attrs =>
    have hschema : schemaAfter lib t.currentSchema m =
        (currentSchemaChange attrs).getD t.currentSchema := by
      unfold schemaAfter
      rw [hattrs]
    exact ⟨⟨hawaits _, rfl, rfl, hschema.symm, rfl⟩, rfl⟩

/-- What a response makes of the attributes and the parts that it carries. -/
theorem received_of_error {m : Message} {e : TransportError}
    (h : responseAttributes lib m.header m.payload = .error e) :
    received lib m = .error (.fault (.error e)) := by
  unfold received
  rw [h]
  rfl

theorem received_of_ok {m : Message} {attrs : AttributeSet}
    (h : responseAttributes lib m.header m.payload = .ok attrs) :
    received lib m = (ofExec (parseResponse lib.parser (resultDataSlice m.header m.payload))).map
      fun _ => (m.header, m.payload) := by
  unfold received
  rw [h]
  change ofExec (parseResponse lib.parser _ >>= fun _ => .ok (m.header, m.payload)) = _
  cases parseResponse lib.parser (resultDataSlice m.header m.payload) <;> rfl

theorem eq_of_received {m : Message} {x : MessageHeader × List UInt8}
    (h : received lib m = .ok x) : x = (m.header, m.payload) := by
  cases hattrs : responseAttributes lib m.header m.payload with
  | error e => exact absurd ((received_of_error hattrs).symm.trans h) nofun
  | ok attrs =>
    rw [received_of_ok hattrs] at h
    cases hparse : parseResponse lib.parser (resultDataSlice m.header m.payload) with
    | error e =>
      rw [hparse] at h
      exact absurd h nofun
    | ok envelope =>
      rw [hparse] at h
      exact (Except.ok.inj h).symm

/-- **The responses to a message are read up to the final one.** -/
theorem wp_awaitResponse (n : ℕ) {notes : List Message} {final : Message}
    (hnotes : ∀ r ∈ notes, r.IsNote lib ∧ r.HasAttributes lib) (hfinal : ¬final.IsNote lib)
    (hn : notes.length < n) (h : Awaits lib t s (notes ++ [final])) :
    wp (wire b) allowed (awaitResponse lib n).run
      (fun r t' s' => (InStep t' s' ∧ s'.app = s.app ∧ t'.serial = t.serial ∧
          t'.currentSchema = (notes ++ [final]).foldl (schemaAfter lib) t.currentSchema ∧
          t'.recvBuf = final.payload) ∧
        r = (received lib final).map Prod.fst)
      (fun _ _ => True) t s := by
  induction n generalizing notes t s with
  | zero => exact absurd hn (Nat.not_lt_zero _)
  | succ n ih =>
    unfold awaitResponse
    rw [wp_attempt_bind]
    rcases notes with _ | ⟨note, notes⟩
    · -- The final response: it is not waited for another one, whether it can be read or not.
      refine wp_mono ?_ (fun _ _ _ => trivial) (wp_receiveIntoBuf h)
      rintro r t' s' ⟨⟨hawaits, happ, hserial, hschema, hbuf⟩, rfl⟩
      have hend : InStep t' s' ∧ s'.app = s.app ∧ t'.serial = t.serial ∧
          t'.currentSchema = ([] ++ [final]).foldl (schemaAfter lib) t.currentSchema ∧
          t'.recvBuf = final.payload := ⟨awaits_nil.mp hawaits, happ, hserial, hschema, hbuf⟩
      cases hattrs : responseAttributes lib final.header final.payload with
      | error e => exact ⟨hend, congrArg (Except.map Prod.fst) (received_of_error hattrs).symm⟩
      | ok attrs =>
        rw [received_of_ok hattrs]
        change wp (wire b) allowed (Attempt.read >>= fun t => _).run _ _ t' s'
        rw [wp_read_bind, hbuf]
        refine wp_lift_bind (fun envelope hparse => ?_) fun e hparse => ?_
        · rw [if_neg fun hstill => hfinal ⟨envelope, hparse, hstill⟩, hparse]
          exact ⟨hend, rfl⟩
        · rw [hparse]
          exact ⟨hend, rfl⟩
    · -- A note: the next response is waited for.
      obtain ⟨⟨envelope, hparse, hstill⟩, attrs, hattrs⟩ := hnotes note List.mem_cons_self
      refine wp_mono ?_ (fun _ _ _ => trivial) (wp_receiveIntoBuf h)
      rintro r t' s' ⟨⟨hawaits, happ, hserial, hschema, hbuf⟩, rfl⟩
      rw [hattrs]
      change wp (wire b) allowed (Attempt.read >>= fun t => _).run _ _ t' s'
      rw [wp_read_bind, hbuf]
      refine wp_lift_bind (fun envelope' hparse' => ?_) fun e hparse' => ?_
      · obtain rfl : envelope = envelope' := Except.ok.inj (hparse.symm.trans hparse')
        rw [if_pos hstill]
        have hrest := ih (fun r hr => hnotes r (List.mem_cons_of_mem _ hr))
          (Nat.lt_of_succ_lt_succ hn) hawaits
        rw [happ, hserial, hschema] at hrest
        exact hrest
      · exact absurd (hparse.symm.trans hparse') nofun

/-- **An exchange is a call of the server.** -/
theorem wp_sendAndReceive (hpatience : ∀ app m, (b.serve app m).notes.length < lib.patience)
    (h : InStep t s) (x : Exchange) :
    wp (wire b) allowed (sendAndReceive lib x.command x.attrs x.extraData).run
      (fun r t' s' => InStep t' s' ∧
        (r, conversation t' s') = (conversation t s).exchange b x)
      (fun _ _ => True) t s := by
  unfold sendAndReceive sendAndFillBuf nextSerial
  rw [wp_attempt_bind, bind_assoc, wp_read_bind, bind_assoc, Attempt.run_write_bind, wp_put,
    pure_bind, wp_attempt_bind]
  have hnext : InStep { t with serial := t.serial + 1 } s :=
    ⟨h.stream, h.phase, h.inbox, h.outbox, h.ciphers⟩
  refine wp_mono ?_ (fun _ _ _ => trivial) (wp_sendMessageWithSerial hnext x t.serial)
  rintro r t₁ s₁ ⟨rfl, hawaits, happ₁, hserial₁, hschema₁⟩
  dsimp only
  refine wp_mono ?_ (fun _ _ _ => trivial) (wp_awaitResponse lib.patience
    (b.notes_isNote s.app (x.message t.serial)) (b.final_not_isNote s.app (x.message t.serial))
    (hpatience s.app (x.message t.serial)) hawaits)
  rintro r t₂ s₂ ⟨⟨hend, happ₂, hserial₂, hschema₂, hbuf⟩, rfl⟩
  have hconversation : conversation t₂ s₂ = ((conversation t s).exchange b x).2 := by
    unfold conversation Conversation.exchange
    rw [happ₂, happ₁, hserial₂, hserial₁, hschema₂, hschema₁]
  have hexchange : (conversation t s).exchange b x =
      (received lib (b.serve s.app (x.message t.serial)).final, conversation t₂ s₂) :=
    Prod.ext rfl hconversation.symm
  cases hr : received lib (b.serve s.app (x.message t.serial)).final with
  | error e => exact ⟨hend, by rw [hexchange, hr]⟩
  | ok got =>
    refine ⟨hend, ?_⟩
    rw [hexchange, hr, eq_of_received hr, hbuf]

end Receiving

/-! ### Whole runs -/

/-- **Each exchange has the final response to its own message**, whatever is sent one after the
other: the two ends together are a server that is called. -/
theorem runExchanges_eq (b : Backend lib App)
    (hpatience : ∀ app m, (b.serve app m).notes.length < lib.patience)
    (choice : ℕ → ∀ r : NetRequest, r.Answer) (xs : List Exchange) {t : NativeTcpTransport}
    {s : Endpoint App} (h : InStep t s) :
    InStep (runExchanges b choice xs t s).2.1 (runExchanges b choice xs t s).2.2 ∧
      ((runExchanges b choice xs t s).1,
          conversation (runExchanges b choice xs t s).2.1 (runExchanges b choice xs t s).2.2) =
        (conversation t s).run b xs := by
  induction xs generalizing t s with
  | nil => exact ⟨h, rfl⟩
  | cons x xs ih =>
    have hallowed : ∀ n, choice n ∈ Set.univ := fun n => Set.mem_univ (choice n)
    obtain ⟨hstep, hfirst⟩ := exec_of_wp hallowed (wp_sendAndReceive hpatience h x)
    obtain ⟨hend, hrest⟩ := ih hstep
    refine ⟨hend, ?_⟩
    rw [Conversation.run_cons, ← hfirst, ← hrest]
    rfl

/-! ### A server that counts -/

/-- Libraries for a wire that is not encrypted, and a server that is waited for twice. -/
def plainNativeLibraries : NativeLibraries where
  parser := plainLibraries
  encoder := plainEncoderLibraries
  keystream _ _ := 0
  clientOs := "linux"
  debugText _ := ""
  patience := 2

/-- A response without attributes. -/
def bareMessage (serial : UInt32) (payload : List UInt8)
    (sized : (UInt32.ofNat payload.length).toNat = payload.length) : Message :=
  ⟨⟨UInt32.ofNat payload.length, 0, serial, 0, 0, 1⟩, payload, sized⟩

/-- The note that a command is still executing. -/
def stillExecutingNote (serial : UInt32) : Message := bareMessage serial [5] rfl

/-- The response of a command without a result. -/
def emptyResponse (serial : UInt32) : Message := bareMessage serial [] rfl

theorem isNote_stillExecutingNote (serial : UInt32) :
    (stillExecutingNote serial).IsNote plainNativeLibraries := by
  have hnote : (match parseResponse plainLibraries [5] with
      | .ok envelope => envelope.terminal.isStillExecuting
      | .error _ => false) = true := by decide +kernel
  cases hparse : parseResponse plainLibraries [5] with
  | error e =>
    rw [hparse] at hnote
    exact absurd hnote Bool.false_ne_true
  | ok envelope =>
    rw [hparse] at hnote
    exact ⟨envelope, hparse, hnote⟩

theorem responseAttributes_bareMessage (lib : NativeLibraries) (serial : UInt32)
    (payload : List UInt8) (sized : (UInt32.ofNat payload.length).toNat = payload.length) :
    responseAttributes lib (bareMessage serial payload sized).header payload = .ok [] :=
  if_pos (.inl rfl)

theorem parseResponse_nil (lib : Libraries) : parseResponse lib [] = .ok (.of .empty) := if_pos rfl

/-- A server that counts the messages that it has served, each after a note. -/
def countingBackend : Backend plainNativeLibraries ℕ where
  greet n _ := (emptyResponse 0, n)
  examine n _ := (emptyResponse 0, .accepted none, n)
  serve n m := ⟨[stillExecutingNote m.header.serial], emptyResponse m.header.serial, n + 1⟩
  notes_isNote _ m := by
    rintro r hr
    obtain rfl := List.mem_singleton.mp hr
    exact ⟨isNote_stillExecutingNote _, [], responseAttributes_bareMessage ..⟩
  final_not_isNote _ m := by
    rintro ⟨envelope, hparse, hstill⟩
    obtain rfl := Except.ok.inj ((parseResponse_nil plainLibraries).symm.trans hparse)
    exact Bool.false_ne_true hstill

/-- An exchange without data. -/
def bareExchange (command : UInt8) : Exchange where
  command
  attrs := []
  extraData := none
  short := by decide

/-- Every message counts. -/
theorem exchange_countingBackend (n : ℕ) (serial : UInt32) (command : UInt8) :
    (⟨n, serial, none⟩ : Conversation ℕ).exchange countingBackend (bareExchange command) =
      (.ok ((emptyResponse serial).header, []), ⟨n + 1, serial + 1, none⟩) := by
  have hfinal : received plainNativeLibraries (emptyResponse serial) =
      .ok ((emptyResponse serial).header, []) := by
    rw [received_of_ok (m := emptyResponse serial) (responseAttributes_bareMessage ..)]
    exact congrArg (fun r => (ofExec r).map _) (parseResponse_nil plainLibraries)
  have hschema (m : Message)
      (hm : responseAttributes plainNativeLibraries m.header m.payload = .ok []) :
      schemaAfter plainNativeLibraries none m = none := by
    unfold schemaAfter
    rw [hm]
    rfl
  refine Prod.ext hfinal (congrArg (Conversation.mk _ _) ?_)
  change [stillExecutingNote serial, emptyResponse serial].foldl
    (schemaAfter plainNativeLibraries) none = none
  rw [List.foldl_cons, hschema (stillExecutingNote serial) (responseAttributes_bareMessage ..),
    List.foldl_cons, hschema (emptyResponse serial) (responseAttributes_bareMessage ..),
    List.foldl_nil]

/-- A network that does nothing by itself. -/
def idleNetwork : ∀ r : NetRequest, r.Answer
  | .connectTcp _ => none
  | .setNodelay => .ok ()
  | .tlsHandshake .. => none
  | .writeAll _ => none
  | .flush => none
  | .readExact _ => none
  | .random _ => none
  | .hasElapsed => false

/-- **Two exchanges** with the server that counts. -/
theorem runExchanges_two :
    let run := runExchanges countingBackend (fun _ => idleNetwork) [bareExchange 12, bareExchange 12]
      { stream := some .plain } { app := 0, live := true, phase := .session }
    run.1 = [.ok ((emptyResponse 1).header, []), .ok ((emptyResponse 2).header, [])] ∧
      conversation run.2.1 run.2.2 = ⟨2, 3, none⟩ := by
  have hinStep : InStep { stream := some .plain }
      ({ app := 0, live := true, phase := .session } : Endpoint ℕ) := ⟨rfl, rfl, rfl, rfl, rfl⟩
  obtain ⟨-, hrun⟩ := runExchanges_eq countingBackend (fun _ _ => Nat.one_lt_two)
    (fun _ => idleNetwork) [bareExchange 12, bareExchange 12] hinStep
  have hconversation : (⟨0, 1, none⟩ : Conversation ℕ).run countingBackend
      [bareExchange 12, bareExchange 12] =
      ([.ok ((emptyResponse 1).header, []), .ok ((emptyResponse 2).header, [])], ⟨2, 3, none⟩) := by
    rw [Conversation.run_cons, exchange_countingBackend, Conversation.run_cons,
      exchange_countingBackend]
    rfl
  have hpair := hrun.trans hconversation
  rw [Prod.mk.injEq] at hpair
  exact hpair

end Exarrow.Native.Pairing
