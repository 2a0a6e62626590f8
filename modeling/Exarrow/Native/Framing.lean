import Exarrow.Foundations.Keystream
import Exarrow.Native.Primitives

/-!
# Messages of the native protocol

A message is a header of 21 bytes (`Exarrow.Native.MessageHeader`) and as many bytes as it
says: the attributes (`Exarrow.Native.AttributeSet`) and then the parts of a result. A
header is read back as it was written (`Exarrow.Native.MessageHeader.parse_serialize`).

The bytes behind the header are combined with a stream cipher for each direction once the
keys are set (`Exarrow.Native.ChaCha20Encryptor`). The key stream comes from a library.
-/

namespace Exarrow.Native

open Machine Checked Keystream

/-! ### Commands and attributes -/

/-- Create a prepared statement. -/
def cmdCreatePrepared : UInt8 := 10

/-- Execute a prepared statement. -/
def cmdExecutePrepared : UInt8 := 11

/-- Execute a text. -/
def cmdExecute : UInt8 := 12

/-- Close a result set. -/
def cmdCloseResultset : UInt8 := 13

/-- Close a prepared statement. -/
def cmdClosePrepared : UInt8 := 18

/-- Disconnect. -/
def cmdDisconnect : UInt8 := 32

/-- Report the attributes of the session. -/
def cmdGetAttributes : UInt8 := 34

/-- Set attributes of the session. -/
def cmdSetAttributes : UInt8 := 35

/-- Fetch rows. -/
def cmdFetch2 : UInt8 := 36

def attrUsername : UInt16 := 1
def attrClientname : UInt16 := 2
def attrClientos : UInt16 := 3
def attrDrivername : UInt16 := 4
def attrSessionid : UInt16 := 6
def attrAutocommit : UInt16 := 7
def attrReleaseVersion : UInt16 := 8
def attrClientversion : UInt16 := 10
def attrProtocolVersion : UInt16 := 19
def attrCurrentSchema : UInt16 := 22
def attrDataMessageSize : UInt16 := 26
def attrPublicKey : UInt16 := 32
def attrRandomPhrase : UInt16 := 33
def attrEncodedPassword : UInt16 := 34
def attrQueryTimeout : UInt16 := 35
def attrDatabaseName : UInt16 := 37
def attrProductName : UInt16 := 38
def attrTimezone : UInt16 := 47
def attrTsutcEnabled : UInt16 := 51
def attrClientReceiveKey : UInt16 := 53
def attrClientSendKey : UInt16 := 54
def attrClientKeysLen : UInt16 := 56

/-! ### Headers -/

/-- The number of bytes of a header. -/
def headerLength : ℕ := 21

/-- The header of a message. -/
structure MessageHeader where
  /-- The number of bytes behind the header. -/
  messageLength : UInt32
  command : UInt8
  serial : UInt32
  numAttributes : UInt32
  /-- The number of bytes of the attributes. -/
  attributeDataLen : UInt32
  numResultParts : UInt32
  deriving DecidableEq

namespace MessageHeader

/-- The bytes of a header. -/
def serialize (h : MessageHeader) : List UInt8 :=
  natToLE 4 h.messageLength.toNat ++ [h.command] ++ natToLE 4 h.serial.toNat ++
    natToLE 4 h.numAttributes.toNat ++ natToLE 4 h.attributeDataLen.toNat ++
    natToLE 4 h.numResultParts.toNat

/-- The number of 32 bits at a place. -/
def word (data : List UInt8) (i : ℕ) : UInt32 := UInt32.ofNat (natOfLE ((data.drop i).take 4))

/-- Read a header. -/
def parse (data : List UInt8) : MessageHeader where
  messageLength := word data 0
  command := data.getD 4 0
  serial := word data 5
  numAttributes := word data 9
  attributeDataLen := word data 13
  numResultParts := word data 17

@[simp] theorem length_serialize (h : MessageHeader) : h.serialize.length = headerLength := by
  simp [serialize, headerLength]

/-- A number is read back where it stands. -/
theorem word_append {pre post : List UInt8} {i : ℕ} (hi : pre.length = i) (x : UInt32) :
    word (pre ++ (natToLE 4 x.toNat ++ post)) i = x := by
  unfold word
  rw [List.drop_left' hi, List.take_left' (length_natToLE 4 _), natOfLE_natToLE]
  have hlt := x.toNat_lt
  rw [Nat.mod_eq_of_lt (by norm_num at hlt ⊢; exact hlt)]
  exact UInt32.ofNat_toNat

/-- **A header is read back.** -/
theorem parse_serialize (h : MessageHeader) : parse h.serialize = h := by
  obtain ⟨messageLength, command, serial, numAttributes, attributeDataLen, numResultParts⟩ := h
  generalize hbytes : serialize ⟨messageLength, command, serial, numAttributes, attributeDataLen,
    numResultParts⟩ = bytes
  have hlength : word bytes 0 = messageLength := by
    rw [← hbytes]
    simp only [serialize, List.append_assoc]
    exact @word_append [] _ 0 rfl messageLength
  have hcommand : bytes.getD 4 0 = command := by
    rw [← hbytes]
    simp [serialize]
  have hserial : word bytes 5 = serial := by
    rw [← hbytes]
    have hparts := @word_append (natToLE 4 messageLength.toNat ++ [command]) (natToLE 4
      numAttributes.toNat ++ (natToLE 4 attributeDataLen.toNat ++ natToLE 4 numResultParts.toNat))
      5 (by simp) serial
    simpa only [serialize, List.append_assoc] using hparts
  have hattributes : word bytes 9 = numAttributes := by
    rw [← hbytes]
    have hparts := @word_append (natToLE 4 messageLength.toNat ++ [command] ++ natToLE 4
      serial.toNat) (natToLE 4 attributeDataLen.toNat ++ natToLE 4 numResultParts.toNat)
      9 (by simp) numAttributes
    simpa only [serialize, List.append_assoc] using hparts
  have hdata : word bytes 13 = attributeDataLen := by
    rw [← hbytes]
    have hparts := @word_append (natToLE 4 messageLength.toNat ++ [command] ++ natToLE 4
      serial.toNat ++ natToLE 4 numAttributes.toNat) (natToLE 4 numResultParts.toNat)
      13 (by simp) attributeDataLen
    simpa only [serialize, List.append_assoc] using hparts
  have hresults : word bytes 17 = numResultParts := by
    rw [← hbytes]
    have hparts := @word_append (natToLE 4 messageLength.toNat ++ [command] ++ natToLE 4
      serial.toNat ++ natToLE 4 numAttributes.toNat ++ natToLE 4 attributeDataLen.toNat) []
      17 (by simp) numResultParts
    simpa only [serialize, List.append_assoc, List.append_nil] using hparts
  unfold parse
  rw [hlength, hcommand, hserial, hattributes, hdata, hresults]

end MessageHeader

/-! ### Attributes -/

/-- The value of an attribute. -/
inductive AttributeValue where
  | string (s : String)
  | binary (bytes : List UInt8)
  | int32 (x : SInt 32)
  | int64 (x : SInt 64)
  | bool (b : Bool)
  deriving DecidableEq

/-- A list of attributes, each with its number. -/
abbrev AttributeSet : Type := List (UInt16 × AttributeValue)

/-- The first attribute with a number. -/
def AttributeSet.get (attrs : AttributeSet) (id : UInt16) : Option AttributeValue :=
  (attrs.find? fun a => a.1 = id).map Prod.snd

/-- The bytes of an attribute. -/
def serializeAttribute (attr : UInt16 × AttributeValue) : List UInt8 :=
  natToLE 2 attr.1.toNat ++ match attr.2 with
    | .string s => prefixed (Text.bytes s.toList)
    | .binary bytes => prefixed bytes
    | .int32 x => toLE 4 x.val
    | .int64 x => toLE 8 x.val
    | .bool b => [if b then 1 else 0]

/-- The bytes of some attributes. -/
def AttributeSet.serialize (attrs : AttributeSet) : List UInt8 := attrs.flatMap serializeAttribute

/-- The types of attributes. -/
inductive AttrType where
  | str
  | bin
  | i32
  | i64
  | bool
  deriving DecidableEq

/-- The type of an attribute, from its number. -/
def attributeType (id : UInt16) : AttrType :=
  match id.toNat with
  | 7 | 51 | 57 | 55 | 17 | 15 | 41 | 45 | 50 | 61 | 62 => .bool
  | 19 | 35 | 52 | 56 | 16 | 36 | 40 | 44 | 46 | 60 | 69 | 72 | 73 => .i32
  | 6 | 26 | 201 | 202 | 203 | 18 | 24 | 25 | 42 | 43 | 68 | 70 => .i64
  | 53 | 54 | 32 | 34 | 33 | 65 | 66 => .bin
  | _ => .str

/-- The error for attributes that end too early. -/
def attributesTruncated (what : String) : TransportError :=
  .protocolError ("attribute data truncated: " ++ what)

/-- So many bytes, and what follows them. -/
def splitBytes (n : ℕ) (what : String) (data : List UInt8) :
    Except TransportError (List UInt8 × List UInt8) :=
  if n ≤ data.length then .ok (data.take n, data.drop n) else .error (attributesTruncated what)

/-- Bytes after their length. -/
def readLengthPrefixed (data : List UInt8) : Except TransportError (List UInt8 × List UInt8) := do
  let (length, rest) ← splitBytes 4 "missing length" data
  splitBytes (natOfLE length) s!"need {natOfLE length} bytes, have {rest.length}" rest

section Parse

variable (lib : Libraries)

/-- The value of an attribute, from its number. -/
def readAttributeValue (id : UInt16) (data : List UInt8) :
    Except TransportError (AttributeValue × List UInt8) :=
  match attributeType id with
  | .str => do
    let (bytes, rest) ← readLengthPrefixed data
    match Text.decode? bytes with
    | some s => return (.string (String.ofList s), rest)
    | none => .error (.protocolError
        (s!"invalid UTF-8 in attribute {id.toNat}: " ++ lib.utf8ErrorText bytes))
  | .bin => do
    let (bytes, rest) ← readLengthPrefixed data
    return (.binary bytes, rest)
  | .i32 => do
    let (bytes, rest) ← splitBytes 4 "missing i32" data
    return (.int32 (SInt.wrap 32 SInt.pos_32 (natOfLE bytes)), rest)
  | .i64 => do
    let (bytes, rest) ← splitBytes 8 "missing i64" data
    return (.int64 (SInt.wrap 64 SInt.pos_64 (natOfLE bytes)), rest)
  | .bool => do
    let (bytes, rest) ← splitBytes 1 "missing bool" data
    return (.bool (bytes.headD 0 != 0), rest)

/-- Read so many attributes. -/
def parseAttributes : ℕ → List UInt8 → Except TransportError AttributeSet
  | 0, _ => .ok []
  | count + 1, data => do
    let (idBytes, rest) ← splitBytes 2 "missing attr_id" data
    let id := UInt16.ofNat (natOfLE idBytes)
    let (value, rest) ← readAttributeValue lib id rest
    let attrs ← parseAttributes count rest
    return (id, value) :: attrs

end Parse

/-- An attribute that is sent as bytes or as text. -/
def attributeBytes (attrs : AttributeSet) (id : UInt16) : Option (List UInt8) :=
  match attrs.get id with
  | some (.binary bytes) => some bytes
  | some (.string text) => some (Text.bytes text.toList)
  | _ => none

/-- A text attribute. -/
def attributeText (attrs : AttributeSet) (id : UInt16) : Option String :=
  match attrs.get id with
  | some (.string text) => some text
  | _ => none

/-- An integer attribute. -/
def attributeInteger (attrs : AttributeSet) (id : UInt16) : Option (SInt 64) :=
  match attrs.get id with
  | some (.int64 value) => some value
  | some (.int32 value) => some (value.extend 64 SInt.le_32_64)
  | _ => none

/-! ### Encryption -/

/-- A cipher for each direction, none before the keys are set. -/
structure ChaCha20Encryptor where
  sendCipher : Option Cipher := none
  recvCipher : Option Cipher := none
  deriving DecidableEq

namespace ChaCha20Encryptor

variable (stream : Cipher.Stream)

/-- Whether the keys are set. -/
def isActive (e : ChaCha20Encryptor) : Bool := e.sendCipher.isSome && e.recvCipher.isSome

/-- The ciphers with new keys, of 32 bytes each. -/
def setKeys (sendKey recvKey : List UInt8) : Exec TransportError ChaCha20Encryptor :=
  if sendKey.length = 32 ∧ recvKey.length = 32 then .ok ⟨some ⟨sendKey, 0⟩, some ⟨recvKey, 0⟩⟩
  else stop

/-- The bytes that are sent for a payload. -/
def encrypt (e : ChaCha20Encryptor) (data : List UInt8) : List UInt8 :=
  e.sendCipher.elim data fun c => c.apply stream data

/-- The ciphers after a payload is encrypted. -/
def sent (e : ChaCha20Encryptor) (n : ℕ) : ChaCha20Encryptor :=
  { e with sendCipher := e.sendCipher.map fun c => c.advance n }

/-- The payload of bytes that were received. -/
def decrypt (e : ChaCha20Encryptor) (data : List UInt8) : List UInt8 :=
  e.recvCipher.elim data fun c => c.apply stream data

/-- The ciphers after a payload is decrypted. -/
def received (e : ChaCha20Encryptor) (n : ℕ) : ChaCha20Encryptor :=
  { e with recvCipher := e.recvCipher.map fun c => c.advance n }

end ChaCha20Encryptor

end Exarrow.Native
