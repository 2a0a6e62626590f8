import Exarrow.Native.Transport
import Exarrow.Transport.Life

/-!
# What an exchange leaves as it is

An exchange writes and reads messages. It changes the number of the next message, the buffer, the
current schema and the positions of the ciphers, and nothing else of the transport
(`Exarrow.Native.Exchanged`), **whatever the network does and wherever the exchange ends**
(`Exarrow.Native.keeps_sendAndFillBuf`). The rules are those of `Client.Keeps`.
-/

namespace Exarrow.Native

open Machine Checked Keystream Client Transport

/-- Everything but the number of the next message, the buffer, the current schema and the positions
of the ciphers is the same. -/
structure Exchanged (t t' : NativeTcpTransport) : Prop where
  stream : t'.stream = t.stream
  lifecycle : t'.lifecycle = t.lifecycle
  session : t'.session = t.session
  tlsActive : t'.tlsActive = t.tlsActive
  isActive : t'.encryptor.isActive = t.encryptor.isActive
  fetchPositions : t'.fetchPositions = t.fetchPositions
  resultColumns : t'.resultColumns = t.resultColumns

theorem Exchanged.refl (t : NativeTcpTransport) : Exchanged t t := ⟨rfl, rfl, rfl, rfl, rfl, rfl, rfl⟩

theorem Exchanged.trans {t₁ t₂ t₃ : NativeTcpTransport} (h : Exchanged t₁ t₂)
    (h' : Exchanged t₂ t₃) : Exchanged t₁ t₃ where
  stream := h'.stream.trans h.stream
  lifecycle := h'.lifecycle.trans h.lifecycle
  session := h'.session.trans h.session
  tlsActive := h'.tlsActive.trans h.tlsActive
  isActive := h'.isActive.trans h.isActive
  fetchPositions := h'.fetchPositions.trans h.fetchPositions
  resultColumns := h'.resultColumns.trans h.resultColumns

/-! ### Rules for operations -/

section Rules

variable {S Ω α : Type} {srv : Server S NetRequest NetRequest.Answer Ω} {allowed : Set Ω}
  {t₀ : NativeTcpTransport}

/-- What an exchange leaves as it is keeps what depends on that alone. -/
theorem keeps_of_exchanged {P : NativeTcpTransport → Prop}
    (hP : ∀ t t', Exchanged t t' → P t → P t') {p : NativeOp α}
    (h : ∀ t, Keeps srv allowed (fun t' _ => Exchanged t t') p.run) :
    Keeps srv allowed (fun t _ => P t) p.run :=
  fun t s hPt => wp_mono (fun _ t' _ ht => hP t t' ht hPt) (fun t' _ ht => hP t t' ht hPt)
    (h t t s (Exchanged.refl t))

theorem keeps_exchanged_modify {f : NativeTcpTransport → NativeTcpTransport}
    (hf : ∀ t, Exchanged t (f t)) :
    Keeps srv allowed (fun t _ => Exchanged t₀ t) (modify f : NativeOp Unit).run :=
  keeps_modify fun t _ h => h.trans (hf t)

end Rules

/-! ### Sending and receiving -/

section Exchanges

variable {S Ω : Type} {srv : Server S NetRequest NetRequest.Answer Ω} {allowed : Set Ω}
  {t₀ : NativeTcpTransport} (lib : NativeLibraries)

/-- The ciphers stay set. -/
theorem isActive_sent (e : ChaCha20Encryptor) (n : ℕ) : (e.sent n).isActive = e.isActive := by
  unfold ChaCha20Encryptor.sent ChaCha20Encryptor.isActive
  rw [Option.isSome_map]

theorem isActive_received (e : ChaCha20Encryptor) (n : ℕ) :
    (e.received n).isActive = e.isActive := by
  unfold ChaCha20Encryptor.received ChaCha20Encryptor.isActive
  rw [Option.isSome_map]

theorem keeps_streamMut {K : NativeTcpTransport → S → Prop} :
    Keeps srv allowed K streamMut.run := by
  refine keeps_read_bind fun t => ?_
  split_ifs
  · exact keeps_done _
  · exact keeps_done _

theorem keeps_sendRaw {P : NativeTcpTransport → Prop} (data : List UInt8) :
    Keeps srv allowed (fun t _ => P t) (sendRaw data).run :=
  keeps_bind keeps_streamMut fun _ => keeps_bind keeps_request fun _ => keeps_request

theorem keeps_nextSerial : Keeps srv allowed (fun t _ => Exchanged t₀ t) nextSerial.run :=
  fun _ _ h => h.trans ⟨rfl, rfl, rfl, rfl, rfl, rfl, rfl⟩

theorem keeps_encryptPayload (payload : List UInt8) :
    Keeps srv allowed (fun t _ => Exchanged t₀ t) (encryptPayload lib payload).run := by
  intro t s h
  unfold encryptPayload
  rw [wp_read_bind]
  split_ifs
  · exact h.trans ⟨rfl, rfl, rfl, rfl, isActive_sent _ _, rfl, rfl⟩
  · exact h

theorem keeps_sendMessageWithSerial (command : UInt8) (attrs : AttributeSet)
    (extraData : Option (List UInt8)) (serial : UInt32) :
    Keeps srv allowed (fun t _ => Exchanged t₀ t)
      (sendMessageWithSerial lib command attrs extraData serial).run :=
  keeps_bind (keeps_encryptPayload lib _) fun _ =>
    keeps_bind (keeps_sendRaw _) fun _ => keeps_sendRaw _

theorem keeps_sendMessage (command : UInt8) (attrs : AttributeSet)
    (extraData : Option (List UInt8)) :
    Keeps srv allowed (fun t _ => Exchanged t₀ t) (sendMessage lib command attrs extraData).run :=
  keeps_bind keeps_nextSerial fun _ => keeps_sendMessageWithSerial lib _ _ _ _

theorem keeps_receivePayload (header : MessageHeader) :
    Keeps srv allowed (fun t _ => Exchanged t₀ t) (receivePayload lib header).run := by
  refine keeps_bind (keeps_exchanged_modify fun t => ⟨rfl, rfl, rfl, rfl, rfl, rfl, rfl⟩) fun _ => ?_
  split_ifs
  · refine keeps_bind (keeps_exchanged_modify fun t => ⟨rfl, rfl, rfl, rfl, rfl, rfl, rfl⟩) fun _ => ?_
    refine keeps_bind keeps_streamMut fun _ => keeps_bind keeps_request fun bytes => ?_
    refine keeps_exchanged_modify fun t => ?_
    split_ifs
    · exact ⟨rfl, rfl, rfl, rfl, isActive_received _ _, rfl, rfl⟩
    · exact ⟨rfl, rfl, rfl, rfl, rfl, rfl, rfl⟩
  · exact keeps_done _

theorem keeps_receiveIntoBuf :
    Keeps srv allowed (fun t _ => Exchanged t₀ t) (receiveIntoBuf lib).run := by
  refine keeps_bind keeps_streamMut fun _ => keeps_bind keeps_request fun bytes => ?_
  refine keeps_bind (keeps_receivePayload lib _) fun _ => keeps_read_bind fun t => ?_
  refine keeps_lift_bind fun attrs _ => ?_
  exact keeps_bind (keeps_exchanged_modify fun t => ⟨rfl, rfl, rfl, rfl, rfl, rfl, rfl⟩)
    fun _ => keeps_done _

theorem keeps_receiveMessage :
    Keeps srv allowed (fun t _ => Exchanged t₀ t) (receiveMessage lib).run :=
  keeps_bind (keeps_receiveIntoBuf lib) fun _ => keeps_read_bind fun _ => keeps_done _

theorem keeps_awaitResponse (n : ℕ) :
    Keeps srv allowed (fun t _ => Exchanged t₀ t) (awaitResponse lib n).run := by
  induction n with
  | zero => exact keeps_done _
  | succ n ih =>
    refine keeps_bind (keeps_receiveIntoBuf lib) fun header => keeps_read_bind fun t => ?_
    refine keeps_lift_bind fun response _ => ?_
    split_ifs
    · exact ih
    · exact keeps_done _

/-- **An exchange leaves everything else as it is**, whatever the network does. -/
theorem keeps_sendAndFillBuf (command : UInt8) (attrs : AttributeSet)
    (extraData : Option (List UInt8)) :
    Keeps srv allowed (fun t _ => Exchanged t₀ t) (sendAndFillBuf lib command attrs extraData).run :=
  keeps_bind keeps_nextSerial fun _ =>
    keeps_bind (keeps_sendMessageWithSerial lib _ _ _ _) fun _ => keeps_awaitResponse lib _

theorem keeps_sendAndReceive (command : UInt8) (attrs : AttributeSet)
    (extraData : Option (List UInt8)) :
    Keeps srv allowed (fun t _ => Exchanged t₀ t) (sendAndReceive lib command attrs extraData).run :=
  keeps_bind (keeps_sendAndFillBuf lib _ _ _) fun _ => keeps_read_bind fun _ => keeps_done _

end Exchanges

end Exarrow.Native
