import Exarrow.Native.Transport

/-!
# The other end of the native transport

A server that answers the native protocol byte by byte (`Exarrow.Native.Endpoint`). It
collects what comes in and treats a request as soon as it is complete: the first packet of a
login, which it greets; the message with the password, which it accepts or rejects; and then
the messages of the session, which it decrypts and serves
(`Exarrow.Native.Backend`). A served message is answered by some notes that it is still
executing and by one final response.

A request whose header and payload come one after the other is served once
(`Exarrow.Native.Endpoint.feed_request`), whatever its length. The answers stand one behind the other
in what goes out, each encrypted from where the one before it has ended
(`Exarrow.Native.Endpoint.foldl_send`).
-/

namespace Exarrow.Native

open Machine Checked Keystream Client Transport

/-! ### Messages -/

/-- A message: a header and as many bytes as it says. -/
structure Message where
  header : MessageHeader
  payload : List UInt8
  sized : header.messageLength.toNat = payload.length

/-- Messages are equal as soon as their data are. -/
theorem Message.ext {a b : Message} (hh : a.header = b.header) (hp : a.payload = b.payload) :
    a = b := by
  obtain ⟨ha, pa, sa⟩ := a
  obtain ⟨hb, pb, sb⟩ := b
  obtain rfl : ha = hb := hh
  obtain rfl : pa = pb := hp
  rfl

/-- The first message in some bytes, once it is complete, and what follows it. -/
def takeMessage (data : List UInt8) : Option (Message × List UInt8) :=
  let header := MessageHeader.parse (data.take headerLength)
  if h : headerLength + header.messageLength.toNat ≤ data.length then
    some (⟨header, (data.drop headerLength).take header.messageLength.toNat, by
      rw [List.length_take, List.length_drop]
      omega⟩, data.drop (headerLength + header.messageLength.toNat))
  else none

/-- Some bytes begin as the first packet of a login does. -/
def beginsLogin (data : List UInt8) : Bool := natOfLE (data.take 4) = loginMagic

/-- The first packet of a login in some bytes, once it is complete, and what follows it. -/
def takeLogin (data : List UInt8) : Option (List UInt8 × List UInt8) :=
  let length := 8 + natOfLE ((data.drop 4).take 4)
  if 8 ≤ data.length ∧ length ≤ data.length then some (data.take length, data.drop length)
  else none

section Messages

variable {data : List UInt8}

theorem takeMessage_nil : takeMessage [] = none := by
  unfold takeMessage
  exact dif_neg (by simp [headerLength])

theorem takeLogin_nil : takeLogin [] = none := rfl

/-- A header alone is a message only if nothing is to follow. -/
theorem takeMessage_header {header : MessageHeader} (h : 0 < header.messageLength.toNat) :
    takeMessage header.serialize = none := by
  have hlen : header.serialize.length = headerLength := header.length_serialize
  have hparse : MessageHeader.parse (header.serialize.take headerLength) = header := by
    rw [List.take_of_length_le hlen.le, MessageHeader.parse_serialize]
  unfold takeMessage
  simp only [hparse]
  exact dif_neg (by omega)

/-- **A message is taken as it was sent.** -/
theorem takeMessage_append (m : Message) (rest : List UInt8) :
    takeMessage (m.header.serialize ++ m.payload ++ rest) = some (m, rest) := by
  have hlen : m.header.serialize.length = headerLength := m.header.length_serialize
  have hparse : MessageHeader.parse ((m.header.serialize ++ m.payload ++ rest).take headerLength)
      = m.header := by
    rw [List.append_assoc, List.take_left' hlen, MessageHeader.parse_serialize]
  have hfits : headerLength + m.header.messageLength.toNat ≤
      (m.header.serialize ++ m.payload ++ rest).length := by
    rw [List.length_append, List.length_append, hlen, m.sized]
    omega
  have hpayload : ((m.header.serialize ++ m.payload ++ rest).drop headerLength).take
      m.header.messageLength.toNat = m.payload := by
    rw [List.append_assoc, List.drop_left' hlen, List.take_left' m.sized.symm]
  have hrest : (m.header.serialize ++ m.payload ++ rest).drop
      (headerLength + m.header.messageLength.toNat) = rest := by
    rw [List.drop_left' (by rw [List.length_append, hlen, m.sized])]
  unfold takeMessage
  simp only [hparse]
  rw [dif_pos hfits]
  refine congrArg some (Prod.ext (Message.ext rfl hpayload) hrest)

end Messages

/-! ### What the server does -/

/-- The answer to a served message: the notes that it is still executing, and the final
response. -/
structure Served (App : Type) where
  notes : List Message
  final : Message
  app : App

/-- A response is the note that a command is still executing. -/
def Message.IsNote (lib : NativeLibraries) (m : Message) : Prop :=
  ∃ envelope, parseResponse lib.parser (resultDataSlice m.header m.payload) = .ok envelope ∧
    envelope.terminal.isStillExecuting = true

/-- The attributes of a response are well formed. -/
def Message.HasAttributes (lib : NativeLibraries) (m : Message) : Prop :=
  ∃ attrs, responseAttributes lib m.header m.payload = .ok attrs

/-- The keys of a session: for what the client sends and for what it receives. -/
structure SessionKeys where
  send : List UInt8
  receive : List UInt8
  deriving DecidableEq

/-- What the server makes of a password: it rejects it, or it accepts it and uses the keys
that came with it. -/
inductive Admission where
  | rejected
  | accepted (keys : Option SessionKeys)
  deriving DecidableEq

/-- What a server with the state `App` answers. -/
structure Backend (lib : NativeLibraries) (App : Type) where
  /-- The answer to the first packet of a login. -/
  greet : App → List UInt8 → Message × App
  /-- The answer to the password. -/
  examine : App → Message → Message × Admission × App
  /-- The answer to a message of the session. -/
  serve : App → Message → Served App
  /-- A served message has **exactly one final response**, behind well-formed notes. -/
  notes_isNote : ∀ app m, ∀ r ∈ (serve app m).notes, r.IsNote lib ∧ r.HasAttributes lib
  final_not_isNote : ∀ app m, ¬ (serve app m).final.IsNote lib

/-- How far a connection has come. -/
inductive Phase where
  /-- It waits for the first packet of a login. -/
  | greeting
  /-- It waits for the password. -/
  | admission
  /-- It serves messages. -/
  | session
  deriving DecidableEq

/-- The server's end of a connection. -/
structure Endpoint (App : Type) where
  app : App
  /-- There is a connection. -/
  live : Bool := false
  phase : Phase := .greeting
  /-- The ciphers for what comes in and for what goes out. -/
  ciphers : Option (Cipher × Cipher) := none
  /-- What has come in and is not a complete request yet. -/
  inbox : List UInt8 := []
  /-- What goes out and is not read yet. -/
  outbox : List UInt8 := []

namespace Endpoint

variable {App : Type} {lib : NativeLibraries} (b : Backend lib App)

/-- The ciphers that a client has with this server. -/
def encryptor (s : Endpoint App) : ChaCha20Encryptor :=
  ⟨s.ciphers.map Prod.fst, s.ciphers.map Prod.snd⟩

/-- Send a message. -/
def send (stream : Cipher.Stream) (s : Endpoint App) (m : Message) : Endpoint App :=
  { s with
    outbox := s.outbox ++ (m.header.serialize ++
      s.ciphers.elim m.payload fun c => c.2.apply stream m.payload)
    ciphers := s.ciphers.map fun c => (c.1, c.2.advance m.payload.length) }

/-- Greet a login, which starts anew. -/
def greet (s : Endpoint App) (packet : List UInt8) : Endpoint App :=
  let (answer, app) := b.greet s.app packet
  { (s.send lib.keystream answer) with app, phase := .admission }

/-- Accept a password or reject it. The answer is not encrypted yet. -/
def examine (s : Endpoint App) (m : Message) : Endpoint App :=
  let (answer, admission, app) := b.examine s.app m
  let s := { (s.send lib.keystream answer) with app }
  match admission with
  | .rejected => { s with phase := .greeting }
  | .accepted keys =>
    { s with phase := .session, ciphers := keys.map fun k => (⟨k.send, 0⟩, ⟨k.receive, 0⟩) }

/-- The payload of a message that has come in. -/
def decrypted (stream : Cipher.Stream) (s : Endpoint App) (m : Message) : Message where
  header := m.header
  payload := s.ciphers.elim m.payload fun c => c.1.apply stream m.payload
  sized := by
    cases s.ciphers with
    | none => exact m.sized
    | some c => exact m.sized.trans (Cipher.length_apply c.1 m.payload).symm

/-- Serve a message. -/
def serve (s : Endpoint App) (m : Message) : Endpoint App :=
  let served := b.serve s.app (s.decrypted lib.keystream m)
  let s := { s with
    app := served.app
    ciphers := s.ciphers.map fun c => (c.1.advance m.payload.length, c.2) }
  (served.notes ++ [served.final]).foldl (send lib.keystream) s

/-- Treat the request at the start of what has come in, once it is complete. -/
def accept (s : Endpoint App) : Option (Endpoint App) :=
  match s.phase with
  | .greeting => (takeLogin s.inbox).map fun (packet, rest) => greet b { s with inbox := rest } packet
  | .admission =>
    if beginsLogin s.inbox then
      (takeLogin s.inbox).map fun (packet, rest) => greet b { s with inbox := rest } packet
    else (takeMessage s.inbox).map fun (m, rest) => examine b { s with inbox := rest } m
  | .session => (takeMessage s.inbox).map fun (m, rest) => serve b { s with inbox := rest } m

/-- Treat complete requests, so many at most. -/
def drain : ℕ → Endpoint App → Endpoint App
  | 0, s => s
  | n + 1, s => (s.accept b).elim s (drain n)

/-- Take in some bytes. -/
def feed (s : Endpoint App) (bytes : List UInt8) : Endpoint App :=
  drain b (s.inbox.length + bytes.length) { s with inbox := s.inbox ++ bytes }

/-! ### One request after the other -/

/-- The bytes of some messages, encrypted one behind the other. -/
def outgoing (stream : Cipher.Stream) : Option Cipher → List Message → List UInt8
  | _, [] => []
  | c, m :: ms => m.header.serialize ++ (c.elim m.payload fun c => c.apply stream m.payload) ++
      outgoing stream (c.map fun c => c.advance m.payload.length) ms

/-- The number of bytes that some messages take of the cipher. -/
def payloadLength (ms : List Message) : ℕ := (ms.map fun m => m.payload.length).sum

/-- **Messages are sent one behind the other.** -/
theorem foldl_send (stream : Cipher.Stream) (ms : List Message) (s : Endpoint App) :
    ms.foldl (send stream) s = { s with
      outbox := s.outbox ++ outgoing stream (s.ciphers.map Prod.snd) ms
      ciphers := s.ciphers.map fun c => (c.1, c.2.advance (payloadLength ms)) } := by
  induction ms generalizing s with
  | nil =>
    have hciphers : s.ciphers.map (fun c => (c.1, c.2.advance (payloadLength []))) = s.ciphers := by
      cases s.ciphers <;> rfl
    rw [List.foldl_nil, outgoing, List.append_nil, hciphers]
  | cons m ms ih =>
    rw [List.foldl_cons, ih, outgoing]
    unfold send
    cases s.ciphers with
    | none => simp only [Option.map_none, Option.elim_none, List.append_assoc]
    | some c =>
      simp only [Option.map_some, Option.elim_some, List.append_assoc, Cipher.advance_advance,
        payloadLength, List.map_cons, List.sum_cons]

theorem drain_of_accept_eq_none {s : Endpoint App} (h : s.accept b = none) (n : ℕ) :
    drain b n s = s := by
  cases n with
  | zero => rfl
  | succ n => rw [drain, h, Option.elim_none]

/-- Nothing is treated before it has come. -/
theorem accept_eq_none {s : Endpoint App} (hphase : s.phase = .session)
    (h : takeMessage s.inbox = none) : s.accept b = none := by
  unfold accept
  rw [hphase]
  dsimp only
  rw [h, Option.map_none]

theorem phase_serve (s : Endpoint App) (m : Message) : (serve b s m).phase = s.phase := by
  unfold serve
  rw [foldl_send]

theorem inbox_serve (s : Endpoint App) (m : Message) : (serve b s m).inbox = s.inbox := by
  unfold serve
  rw [foldl_send]

/-- A message that has come in whole is served. -/
theorem drain_message {s : Endpoint App} (hphase : s.phase = .session) (hinbox : s.inbox = [])
    (m : Message) (n : ℕ) :
    drain b (n + 1) { s with inbox := m.header.serialize ++ m.payload } = serve b s m := by
  have htake : takeMessage (m.header.serialize ++ m.payload) = some (m, []) := by
    have happend := takeMessage_append m []
    rwa [List.append_nil] at happend
  have heta : { s with inbox := [] } = s := by rw [← hinbox]
  have haccept : accept b { s with inbox := m.header.serialize ++ m.payload } =
      some (serve b { s with inbox := [] } m) := by
    unfold accept
    dsimp only
    rw [hphase]
    dsimp only
    rw [htake, Option.map_some, ← hphase]
  rw [heta] at haccept
  rw [drain, haccept, Option.elim_some]
  refine drain_of_accept_eq_none b (accept_eq_none b ?_ ?_) n
  · rw [phase_serve, hphase]
  · rw [inbox_serve, hinbox, takeMessage_nil]

/-- What is no message yet is kept. -/
theorem feed_of_takeMessage_eq_none {s : Endpoint App} (hphase : s.phase = .session)
    (hinbox : s.inbox = []) {bytes : List UInt8} (h : takeMessage bytes = none) :
    feed b s bytes = { s with inbox := bytes } := by
  unfold feed
  rw [hinbox, List.nil_append]
  exact drain_of_accept_eq_none b (accept_eq_none b (s := { s with inbox := bytes }) hphase h) _

/-- **A request is served once**, when its payload has come in behind its header. -/
theorem feed_request {s : Endpoint App} (hphase : s.phase = .session) (hinbox : s.inbox = [])
    (m : Message) : feed b (feed b s m.header.serialize) m.payload = serve b s m := by
  have hheader : m.header.serialize.length = 20 + 1 := m.header.length_serialize
  by_cases hempty : m.payload = []
  · -- The header alone is the message.
    have hfirst : feed b s m.header.serialize = serve b s m := by
      unfold feed
      rw [hinbox, List.nil_append, List.length_nil, Nat.zero_add, hheader]
      have hserved := drain_message b hphase hinbox m 20
      rwa [hempty, List.append_nil] at hserved
    have hinbox' : (serve b s m).inbox = [] := (inbox_serve b s m).trans hinbox
    rw [hfirst, hempty]
    unfold feed
    rw [hinbox', List.append_nil, List.length_nil, drain]
    rw [← hinbox']
  · have hpos : 0 < m.header.messageLength.toNat := by
      rw [m.sized]
      exact List.length_pos_iff.mpr hempty
    rw [feed_of_takeMessage_eq_none b hphase hinbox (takeMessage_header hpos)]
    unfold feed
    dsimp only
    rw [hheader, Nat.add_right_comm]
    exact drain_message b hphase hinbox m _

end Endpoint

end Exarrow.Native
