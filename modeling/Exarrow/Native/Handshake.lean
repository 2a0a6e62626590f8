import Exarrow.Native.Framing
import Exarrow.Protocol
import Mathlib.Data.Nat.Digits.Defs

/-!
# The handshake of the native protocol

A login sends a packet of its own form (`Exarrow.Native.buildLoginPacket`), and then, in an
ordinary message, the password and the keys for the stream ciphers. These are encrypted
with the public key that the server has sent (`Exarrow.Native.exasolEncodePwd`): the bytes
are interleaved with a random phrase of the server, and every 64 bytes become 128 by the
power of a number.

A public key is a sequence of two integers, or an exponent and a modulus of the same
length (`Exarrow.Native.parseRsaPublicKey`).
-/

namespace Exarrow.Native

open Machine Checked

/-- The name of the driver. -/
def driverName : String := "exarrow-rs"

def loginMagic : ℕ := 0x01121201
def protocolVersion : ℕ := 21
def minProtocolVersion : ℕ := 14
def changeDate : ℕ := 200131112
def maxDataMessageSize : SInt 64 := 67108864

/-- The number of bytes of a key of the stream ciphers. -/
def chacha20KeyLen : ℕ := 32

/-! ### The first packet -/

/-- The attributes that are sent at first. -/
def loginAttributes (clientOs : String) (credentials : Credentials) : AttributeSet :=
  [(attrUsername, .string credentials.username), (attrClientname, .string credentials.clientName),
    (attrDrivername, .string driverName), (attrClientos, .string clientOs),
    (attrClientversion, .string credentials.clientVersion), (attrTsutcEnabled, .bool true)]

/-- The first packet of a login. -/
def buildLoginPacket (clientOs : String) (credentials : Credentials) : List UInt8 :=
  let attrBytes := (loginAttributes clientOs credentials).serialize
  natToLE 4 loginMagic ++ natToLE 4 (8 + attrBytes.length) ++ natToLE 4 protocolVersion ++
    natToLE 4 changeDate ++ attrBytes

/-! ### Public keys -/

/-- The number that a byte string denotes, most significant byte first. -/
def natOfBE (bs : List UInt8) : ℕ := natOfLE bs.reverse

/-- The bytes of a number, most significant byte first; one byte for zero. -/
def natToBE (n : ℕ) : List UInt8 :=
  if n = 0 then [0] else ((Nat.digits 256 n).map UInt8.ofNat).reverse

/-- The first byte counts by the number of those behind it. -/
theorem natOfBE_cons (b : UInt8) (bs : List UInt8) :
    natOfBE (b :: bs) = b.toNat * 256 ^ bs.length + natOfBE bs := by
  rw [natOfBE, List.reverse_cons, natOfLE_append, List.length_reverse, natOfBE, natOfLE, natOfLE]
  ring

/-- The digits of a number as bytes. -/
theorem natOfLE_map_ofNat {ds : List ℕ} (h : ∀ d ∈ ds, d < 256) :
    natOfLE (ds.map UInt8.ofNat) = Nat.ofDigits 256 ds := by
  induction ds with
  | nil => rfl
  | cons d ds ih =>
    have hd : (UInt8.ofNat d).toNat = d := UInt8.toNat_ofNat_of_lt' (h d List.mem_cons_self)
    rw [List.map_cons, natOfLE, hd, ih fun d' hd' => h d' (List.mem_cons_of_mem d hd')]
    exact (Nat.ofDigits_cons ..).symm

/-- **The bytes of a number denote it.** -/
theorem natOfBE_natToBE (n : ℕ) : natOfBE (natToBE n) = n := by
  unfold natToBE
  split_ifs with hzero
  · rw [hzero]
    rfl
  · rw [natOfBE, List.reverse_reverse,
      natOfLE_map_ofNat fun d hd => Nat.digits_lt_base (by norm_num) hd]
    exact Nat.ofDigits_digits 256 n

/-- The error for a key that is not well formed. -/
def invalidDer (what : String) : TransportError := .protocolError ("Invalid DER: " ++ what)

/-- The length of an element, and the number of bytes of the length. -/
def readDerLength : List UInt8 → Except TransportError (ℕ × ℕ)
  | [] => .error (invalidDer "truncated")
  | first :: data =>
    if first.toNat < 0x80 then .ok (first.toNat, 1)
    else
      let numBytes := first.toNat % 0x80
      if numBytes = 0 ∨ 3 < numBytes ∨ data.length < numBytes then
        .error (invalidDer "bad length")
      else .ok (natOfBE (data.take numBytes), 1 + numBytes)

/-- An integer without the byte for its sign, and the number of bytes of the element. -/
def readDerInteger (data : List UInt8) : Except TransportError (List UInt8 × ℕ) := do
  if data.head? ≠ some 0x02 then .error (invalidDer "expected INTEGER")
  else
    let (intLen, lenBytes) ← readDerLength data.tail
    let headerLen := 1 + lenBytes
    if data.length < headerLen + intLen then .error (invalidDer "truncated integer")
    else
      let value := (data.drop headerLen).take intLen
      return (if 1 < value.length ∧ value.head? = some 0 then value.tail else value,
        headerLen + intLen)

/-- The modulus and the exponent of a sequence of two integers. -/
def parseRsaPublicKeyPkcs1Der (der : List UInt8) : Except TransportError (ℕ × ℕ) := do
  if der.head? ≠ some 0x30 then .error (invalidDer "expected SEQUENCE")
  else
    let (seqLen, lenBytes) ← readDerLength der.tail
    let start := 1 + lenBytes
    if der.length < start + seqLen then .error (invalidDer "truncated")
    else
      let body := (der.drop start).take seqLen
      let (n, consumed) ← readDerInteger body
      let (e, consumed') ← readDerInteger (body.drop consumed)
      if consumed + consumed' ≠ seqLen then .error (invalidDer "trailing bytes")
      else return (natOfBE n, natOfBE e)

/-- The modulus and the exponent of a public key. -/
def parseRsaPublicKey (keyData : List UInt8) : Except TransportError (ℕ × ℕ) :=
  if keyData.head? = some 0x30 then parseRsaPublicKeyPkcs1Der keyData
  else if keyData.length < 4 ∨ keyData.length % 2 ≠ 0 then
    .error (.protocolError s!"Invalid raw RSA key: unexpected length {keyData.length}")
  else
    let half := keyData.length / 2
    let e := natOfBE (keyData.take half)
    let n := natOfBE (keyData.drop half)
    if n = 0 ∨ e = 0 then
      .error (.protocolError "Invalid raw RSA key: zero modulus or exponent")
    else .ok (n, e)

/-! ### Passwords and keys -/

/-- The number of bytes of an encrypted block. -/
def rsaKeyLength : ℕ := 128

/-- The number of bytes before the encryption: twice those of the longer text, in blocks. -/
def encodedLength (pwdLen phraseLen : ℕ) : ℕ :=
  let length := 2 * max pwdLen phraseLen
  if length % rsaKeyLength = 0 then length else length + (rsaKeyLength - length % rsaKeyLength)

/-- Put a number at the end of a block. One that is longer than the block overflows the
place where it begins. -/
def placeBlock (ov : Overflow) (encrypted : List UInt8) (start : ℕ) (bytes : List UInt8) :
    Exec TransportError (List UInt8) :=
  if rsaKeyLength < bytes.length ∧ (ov = .panics ∨ start + rsaKeyLength < bytes.length) then stop
  else
    let place := start + rsaKeyLength - bytes.length
    .ok (encrypted.take place ++ bytes ++ encrypted.drop (place + bytes.length))

/-- Encrypt a text together with a phrase. -/
def exasolEncodePwd (ov : Overflow) (data phrase : List UInt8) (n e : ℕ) :
    Exec TransportError (List UInt8) :=
  if phrase = [] then
    fail (.protocolError "Cannot encode password: server-supplied random phrase is empty")
  else
    let pwd := data ++ [0]
    let length := encodedLength pwd.length phrase.length
    let interleaved := (List.range (length / 2)).flatMap fun i =>
      [pwd.getD (i % pwd.length) 0, phrase.getD (i % phrase.length) 0]
    let blocks := 2 * length / rsaKeyLength
    (List.range blocks).foldlM (fun encrypted i =>
      -- A modulus of zero stops the program.
      if n = 0 then stop
      else
        let plaintext := natOfBE ((interleaved.drop (i * (rsaKeyLength / 2))).take
          (rsaKeyLength / 2))
        placeBlock ov encrypted (i * rsaKeyLength) (natToBE (plaintext ^ e % n)))
      (List.replicate (2 * length) 0)

/-- The number of random bytes that fill up a password, if it is filled up. -/
def paddingLength (password phrase : List UInt8) : Option ℕ :=
  if password.length + 2 < phrase.length then some (phrase.length - password.length - 2) else none

/-- A password with its padding. -/
def padPassword (password : List UInt8) : Option (List UInt8) → List UInt8
  | some padding => password ++ [0] ++ padding
  | none => password

/-- The second message of a login, with the keys it has announced. -/
structure AuthMessage where
  wireBytes : List UInt8
  sendKey : List UInt8
  recvKey : List UInt8

/-- The attributes of the second message: the password, and the keys if there are any. -/
def authAttributes (ov : Overflow) (paddedPwd phrase : List UInt8) (n e : ℕ)
    (keys : Option (List UInt8 × List UInt8)) : Exec TransportError AttributeSet := do
  let encryptedPassword ← exasolEncodePwd ov paddedPwd phrase n e
  match keys with
  | none => return [(attrEncodedPassword, .binary encryptedPassword)]
  | some (sendKey, recvKey) =>
    let encryptedSendKey ← exasolEncodePwd ov sendKey phrase n e
    let encryptedRecvKey ← exasolEncodePwd ov recvKey phrase n e
    return [(attrEncodedPassword, .binary encryptedPassword),
      (attrClientSendKey, .binary encryptedSendKey),
      (attrClientReceiveKey, .binary encryptedRecvKey), (attrClientKeysLen, .int32 32)]

/-- The bytes of the second message. -/
def authBytes (serial : UInt32) (attrs : AttributeSet) : List UInt8 :=
  let attrBytes := attrs.serialize
  let length := UInt32.ofNat attrBytes.length
  MessageHeader.serialize ⟨length, cmdSetAttributes, serial, UInt32.ofNat attrs.length, length, 0⟩
    ++ attrBytes

/-- The protocol version of a login. One that is not reported is the highest. -/
def negotiatedProtocolVersion (reported : Option (SInt 64)) : Except TransportError (SInt 32) :=
  match reported with
  | none => .ok 21
  | some version =>
    if version.val < minProtocolVersion then
      .error (.protocolError (s!"unsupported server: native protocol version {version.val} is " ++
        s!"below the minimum supported version {minProtocolVersion}"))
    else
      match SInt.ofInt? 32 version.val with
      | some v => .ok v
      | none =>
        .error (.protocolError (s!"malformed login response: native protocol version " ++
          s!"{version.val} does not fit in 32 bits"))

end Exarrow.Native
