import Exarrow.Foundations.Base64
import Exarrow.Foundations.Searching
import Exarrow.Native.Passwords
import Mathlib.Data.Nat.Size

/-!
# The key and the password of a WebSocket login

The server sends its public key as text: the base64 of the encoding of a modulus and an exponent,
between two markers (`Exarrow.Transport.WebSocket.pemToPkcs1Der`,
`Exarrow.Transport.WebSocket.parseRsaPublicKey`). The password is put into a block as long as the
modulus, behind random bytes of which none is zero
(`Exarrow.Transport.WebSocket.pkcs1V15Pad`), and the power of the block is sent in base64
(`Exarrow.Transport.WebSocket.encryptPassword`).

The base64 code and the random bytes of the system are parameters: a code that reads what it has
written (`Base64.Codec`), and bytes that are not zero for ever
(`Exarrow.Transport.WebSocket.SystemRandom`).
-/

namespace Exarrow.Transport.WebSocket

open Machine Checked Native

/-! ### The text of a key -/

/-- The marker in front of a key. -/
def startMarker : List Char := "-----BEGIN RSA PUBLIC KEY-----".toList

/-- The marker behind a key. -/
def endMarker : List Char := "-----END RSA PUBLIC KEY-----".toList

/-- The bytes between the markers. Each marker is searched for in the whole text. -/
def pemToPkcs1Der (base64 : Base64.Codec) (pem : List Char) : Exec String (List UInt8) := do
  let start ← orFail "Missing PEM start marker" (Text.find? startMarker pem)
  let finish ← orFail "Missing PEM end marker" (Text.find? endMarker pem)
  let content ← sliceText (start + Text.byteLen startMarker) finish pem
  orFail "Invalid base64 in PEM" (base64.decode (content.filter fun c => !Text.isWhitespace c))

/-- **An end marker comes early**: both markers are in the text, and before some end marker there is
no whole start marker. -/
def EndsEarly (pem : List Char) : Prop :=
  startMarker <:+: pem ∧
    ∃ before after, pem = before ++ (endMarker ++ after) ∧ ¬startMarker <:+: before

/-- **The only slice that does not exist** is the one of a text in which an end marker comes
early. -/
theorem pemToPkcs1Der_ne_stop_iff {base64 : Base64.Codec} {pem : List Char} :
    pemToPkcs1Der base64 pem ≠ stop ↔ ¬EndsEarly pem := by
  unfold pemToPkcs1Der
  rw [orFail_bind_ne_stop]
  constructor
  · rintro h ⟨hstart, before, after, hpem, hnot⟩
    obtain ⟨i, hi⟩ := Option.ne_none_iff_exists'.mp (mt Text.find?_eq_none.mp (not_not.mpr hstart))
    obtain ⟨j, hj, -⟩ := @Text.exists_find?_le endMarker before after
    rw [← hpem] at hj
    have hlt := (Text.find?_lt_iff hi hj).mpr ⟨before, after, hpem, hnot⟩
    have hslice := (bind_ne_stop.mp (orFail_bind_ne_stop.mp (h i hi) j hj)).1
    exact hslice (if_neg (Nat.not_le_of_lt hlt))
  · intro h i hi
    rw [orFail_bind_ne_stop]
    intro j hj
    have hge : i + Text.byteLen startMarker ≤ j := by
      by_contra hlt
      have hearly := (Text.find?_lt_iff hi hj).mp (Nat.lt_of_not_le hlt)
      refine h ⟨?_, hearly⟩
      by_contra hnot
      rw [Text.find?_eq_none.mpr hnot] at hi
      cases hi
    obtain ⟨u, v, hu, rfl⟩ := Text.exists_of_find? hi
    obtain ⟨u', v', hu', rfl⟩ := Text.exists_of_find? hj
    rw [← Text.byteLen_append] at hge ⊢
    -- What is before the end marker begins with what ends in the start marker.
    obtain ⟨m, rfl⟩ := @Text.prefix_of_byteLen_le pem (u ++ startMarker) u'
      ⟨v, by rw [hu, List.append_assoc]⟩ ⟨endMarker ++ v', hu'.symm⟩ hge
    rw [hu', Text.byteLen_append _ m, List.append_assoc, sliceText_append, ok_bind]
    exact orFail_ne_stop

/-! ### The encoding of a key -/

/-- A length, and the number of its bytes. -/
def readDerLength (data : List UInt8) : Exec String (ℕ × ℕ) :=
  match data with
  | [] => fail "Invalid DER: truncated"
  | first :: _ =>
    if first < 0x80 then .ok (first.toNat, 1)
    else
      let numBytes := (first &&& 0x7F).toNat
      if numBytes = 0 ∨ 3 < numBytes then fail "Invalid DER: truncated"
      else if data.length < 1 + numBytes then fail "Invalid DER: truncated"
      else do
        let bytes ← slice 1 (1 + numBytes) data
        return (bytes.foldl (fun len b => len <<< 8 ||| b.toNat) 0, 1 + numBytes)

theorem readDerLength_ne_stop (data : List UInt8) : readDerLength data ≠ stop := by
  unfold readDerLength
  split
  · exact nofun
  · dsimp only
    split_ifs with hshort hcount hlong
    · exact nofun
    · exact nofun
    · exact nofun
    · rw [slice_of_le (Nat.le_add_right ..) (Nat.le_of_not_lt hlong)]
      exact nofun

/-- A length is in the data. -/
theorem le_of_readDerLength {data : List UInt8} {len lenBytes : ℕ}
    (h : readDerLength data = .ok (len, lenBytes)) : lenBytes ≤ data.length := by
  unfold readDerLength at h
  split at h
  · cases h
  · dsimp only at h
    split_ifs at h with hshort hcount hlong
    · cases h
      exact Nat.le_add_left ..
    · cases h
    · cases h
    · obtain ⟨bytes, -, hok⟩ := bind_eq_ok.mp h
      cases hok
      exact Nat.le_of_not_lt hlong

/-- The bytes of an integer without a zero for its sign, and the number of bytes it takes. -/
def readDerInteger (data : List UInt8) : Exec String (List UInt8 × ℕ) :=
  if data.head? ≠ some 0x02 then fail "Invalid DER: expected INTEGER"
  else do
    let (intLen, lenBytes) ← readDerLength (← slice 1 data.length data)
    let headerLen := 1 + lenBytes
    if data.length < headerLen + intLen then fail "Invalid DER: truncated"
    else
      let value ← slice headerLen (headerLen + intLen) data
      let value := if 1 < value.length ∧ value.head? = some 0 then value.tail else value
      return (value, headerLen + intLen)

theorem readDerInteger_ne_stop (data : List UInt8) : readDerInteger data ≠ stop := by
  unfold readDerInteger
  split_ifs with htag
  · exact nofun
  · have hpos : 1 ≤ data.length := by
      cases data with
      | nil => exact absurd (by decide) htag
      | cons b data => exact Nat.le_add_left ..
    rw [slice_of_le hpos le_rfl, ok_bind, bind_ne_stop]
    refine ⟨readDerLength_ne_stop _, ?_⟩
    rintro ⟨intLen, lenBytes⟩ -
    dsimp only
    split_ifs with hlong
    · exact nofun
    · rw [slice_of_le (Nat.le_add_right ..) (Nat.le_of_not_lt hlong)]
      exact nofun

/-- An integer is in the data. -/
theorem le_of_readDerInteger {data value : List UInt8} {consumed : ℕ}
    (h : readDerInteger data = .ok (value, consumed)) : consumed ≤ data.length := by
  unfold readDerInteger at h
  split_ifs at h with htag
  · cases h
  · obtain ⟨rest, -, h⟩ := bind_eq_ok.mp h
    obtain ⟨⟨intLen, lenBytes⟩, -, h⟩ := bind_eq_ok.mp h
    dsimp only at h
    split_ifs at h with hlong
    · cases h
    · obtain ⟨value', -, hok⟩ := bind_eq_ok.mp h
      cases hok
      exact Nat.le_of_not_lt hlong

/-- The modulus and the exponent of a sequence of two integers. -/
def parseRsaPublicKey (der : List UInt8) : Exec String (ℕ × ℕ) :=
  if der[0]? ≠ some 0x30 then fail "Invalid DER: expected SEQUENCE"
  else do
    let (seqLen, lenBytes) ← readDerLength (← slice 1 der.length der)
    let pos := 1 + lenBytes
    let seqEnd := pos + seqLen
    if der.length < seqEnd then fail "Invalid DER: truncated"
    else
      let (n, consumed) ← readDerInteger (← slice pos seqEnd der)
      let pos := pos + consumed
      let (e, consumed) ← readDerInteger (← slice pos seqEnd der)
      let pos := pos + consumed
      if pos ≠ seqEnd then fail "Invalid DER: trailing bytes after SEQUENCE"
      else return (natOfBE n, natOfBE e)

/-- **No encoding of a key stops the program.** -/
theorem parseRsaPublicKey_ne_stop (der : List UInt8) : parseRsaPublicKey der ≠ stop := by
  unfold parseRsaPublicKey
  split_ifs with htag
  · exact nofun
  · have hpos : 1 ≤ der.length := by
      cases der with
      | nil => exact absurd (by decide) htag
      | cons b der => exact Nat.le_add_left ..
    rw [slice_of_le hpos le_rfl, ok_bind, bind_ne_stop]
    refine ⟨readDerLength_ne_stop _, ?_⟩
    rintro ⟨seqLen, lenBytes⟩ -
    dsimp only
    split_ifs with hlong
    · exact nofun
    · have hend := Nat.le_of_not_lt hlong
      rw [slice_of_le (Nat.le_add_right ..) hend, ok_bind, bind_ne_stop]
      refine ⟨readDerInteger_ne_stop _, ?_⟩
      rintro ⟨n, consumed⟩ hn
      have hconsumed := le_of_readDerInteger hn
      rw [List.length_drop, List.length_take, Nat.min_eq_left hend] at hconsumed
      dsimp only
      rw [slice_of_le (by omega) hend, ok_bind, bind_ne_stop]
      refine ⟨readDerInteger_ne_stop _, ?_⟩
      rintro ⟨e, consumed'⟩ -
      dsimp only
      split_ifs
      · exact nofun
      · exact nofun

/-! ### The block of a password -/

/-- The random bytes of the system, by the number of the request; a request may fail. -/
structure SystemRandom where
  /-- What a request gives. -/
  fill : ℕ → Option UInt8
  settles : ∀ i, ∃ j, i ≤ j ∧ fill j ≠ some 0

/-- The next random byte that is not zero, and the number of the request after it. -/
def nextNonzero (rng : SystemRandom) (i : ℕ) : Exec String (UInt8 × ℕ) :=
  match h : rng.fill i with
  | none => fail "Failed to generate random bytes"
  | some byte => if byte ≠ 0 then .ok (byte, i + 1) else nextNonzero rng (i + 1)
termination_by Nat.find (rng.settles i) - i
decreasing_by
  rename_i hzero
  obtain ⟨hle, hne⟩ := Nat.find_spec (rng.settles i)
  rw [not_not] at hzero
  have hlt : i < Nat.find (rng.settles i) := by
    refine lt_of_le_of_ne hle fun heq => hne ?_
    rw [← heq, h, hzero]
  have hmin : Nat.find (rng.settles (i + 1)) ≤ Nat.find (rng.settles i) :=
    Nat.find_min' _ ⟨hlt, hne⟩
  omega

/-- What the next random byte is. -/
theorem nextNonzero_spec (rng : SystemRandom) (i : ℕ) :
    nextNonzero rng i ≠ stop ∧ (∀ byte j, nextNonzero rng i = .ok (byte, j) → byte ≠ 0) ∧
      ((∀ j, rng.fill j ≠ none) → ∃ byte j, nextNonzero rng i = .ok (byte, j)) := by
  induction i using nextNonzero.induct rng with
  | case1 i h =>
    rw [nextNonzero]
    split
    · exact ⟨nofun, fun _ _ hok => (nomatch hok), fun hall => absurd h (hall i)⟩
    · rename_i byte hbyte
      rw [h] at hbyte
      cases hbyte
  | case2 i byte h hne =>
    have heq : nextNonzero rng i = .ok (byte, i + 1) := by
      rw [nextNonzero]
      split
      · rename_i hnone
        rw [h] at hnone
        cases hnone
      · rename_i byte' hbyte
        rw [h] at hbyte
        cases hbyte
        exact if_pos hne
    rw [heq]
    refine ⟨nofun, ?_, fun _ => ⟨byte, i + 1, rfl⟩⟩
    intro byte' j hok
    cases hok
    exact hne
  | case3 i byte h hzero ih =>
    have heq : nextNonzero rng i = nextNonzero rng (i + 1) := by
      rw [nextNonzero]
      split
      · rename_i hnone
        rw [h] at hnone
        cases hnone
      · rename_i byte' hbyte
        rw [h] at hbyte
        cases hbyte
        exact if_neg hzero
    rw [heq]
    exact ih

/-- Random bytes of which none is zero, from one request on. -/
def fillPadding (rng : SystemRandom) : ℕ → ℕ → Exec String (List UInt8)
  | 0, _ => .ok []
  | count + 1, i => do
    let (byte, i) ← nextNonzero rng i
    let bytes ← fillPadding rng count i
    return byte :: bytes

theorem fillPadding_ne_stop (rng : SystemRandom) (count i : ℕ) : fillPadding rng count i ≠ stop := by
  induction count generalizing i with
  | zero => exact nofun
  | succ count ih =>
    rw [fillPadding, bind_ne_stop]
    refine ⟨(nextNonzero_spec rng i).1, ?_⟩
    rintro ⟨byte, j⟩ -
    dsimp only
    rw [bind_ne_stop]
    exact ⟨ih j, fun bytes _ => nofun⟩

/-- There are as many random bytes as were asked for, and none is zero. -/
theorem fillPadding_eq_ok {rng : SystemRandom} {count i : ℕ} {ps : List UInt8}
    (h : fillPadding rng count i = .ok ps) : ps.length = count ∧ ∀ b ∈ ps, b ≠ 0 := by
  induction count generalizing i ps with
  | zero =>
    cases h
    exact ⟨rfl, fun b hb => absurd hb List.not_mem_nil⟩
  | succ count ih =>
    rw [fillPadding] at h
    obtain ⟨⟨byte, j⟩, hbyte, h⟩ := bind_eq_ok.mp h
    obtain ⟨bytes, hbytes, h⟩ := bind_eq_ok.mp h
    cases h
    obtain ⟨hlen, hall⟩ := ih hbytes
    exact ⟨congrArg (· + 1) hlen,
      List.forall_mem_cons.mpr ⟨(nextNonzero_spec rng i).2.1 byte j hbyte, hall⟩⟩

/-- Where no request fails there are random bytes. -/
theorem exists_fillPadding {rng : SystemRandom} (hall : ∀ j, rng.fill j ≠ none) (count i : ℕ) :
    ∃ ps, fillPadding rng count i = .ok ps := by
  induction count generalizing i with
  | zero => exact ⟨[], rfl⟩
  | succ count ih =>
    obtain ⟨byte, j, hbyte⟩ := (nextNonzero_spec rng i).2.2 hall
    obtain ⟨bytes, hbytes⟩ := ih j
    refine ⟨byte :: bytes, ?_⟩
    rw [fillPadding, hbyte, ok_bind]
    dsimp only
    rw [hbytes]
    rfl

/-- A block of `k` bytes with the message at its end. -/
def pkcs1V15Pad (rng : SystemRandom) (message : List UInt8) (k : ℕ) : Exec String (List UInt8) :=
  if k - 11 < message.length then fail "Message too long for RSA modulus"
  -- The number of random bytes would be negative.
  else if k < message.length + 3 then stop
  else do
    let ps ← fillPadding rng (k - message.length - 3) 0
    return 0x00 :: 0x02 :: (ps ++ 0x00 :: message)

/-- A block of eleven bytes or more is built without a stop. -/
theorem pkcs1V15Pad_ne_stop {rng : SystemRandom} {message : List UInt8} {k : ℕ} (hk : 11 ≤ k) :
    pkcs1V15Pad rng message k ≠ stop := by
  unfold pkcs1V15Pad
  split_ifs with hlong hshort
  · exact nofun
  · omega
  · rw [bind_ne_stop]
    exact ⟨fillPadding_ne_stop rng _ 0, fun ps _ => nofun⟩

/-- **The message of a block**: what stands behind the first zero, if eight bytes or more that are not
zero are in front of it. -/
def unpad (em : List UInt8) : Option (List UInt8) :=
  if em.take 2 = [0x00, 0x02] then
    match (em.drop 2).span (· ≠ 0x00) with
    | (_, []) => none
    | (ps, _ :: message) => if 8 ≤ ps.length then some message else none
  else none

/-- Bytes that are not zero end at the first zero. -/
theorem unpad_eq {ps message : List UInt8} (hps : ∀ b ∈ ps, b ≠ 0) (hlen : 8 ≤ ps.length) :
    unpad (0x00 :: 0x02 :: (ps ++ 0x00 :: message)) = some message := by
  have hall (b : UInt8) (hb : b ∈ ps) : decide (b ≠ 0x00) = true := decide_eq_true (hps b hb)
  have hspan : (ps ++ 0x00 :: message).span (· ≠ 0x00) = (ps, 0x00 :: message) := by
    rw [List.span_eq_takeWhile_dropWhile, List.takeWhile_append_of_pos hall,
      List.dropWhile_append_of_pos hall]
    simp
  have htake : (0x00 :: 0x02 :: (ps ++ 0x00 :: message)).take 2 = [0x00, 0x02] := rfl
  have hdrop : (0x00 :: 0x02 :: (ps ++ 0x00 :: message)).drop 2 = ps ++ 0x00 :: message := rfl
  rw [unpad, if_pos htake, hdrop, hspan]
  exact if_pos hlen

/-- **A block is as long as the modulus, and its message is the one it was built for.** -/
theorem unpad_of_pkcs1V15Pad {rng : SystemRandom} {message em : List UInt8} {k : ℕ}
    (hk : message.length + 11 ≤ k) (h : pkcs1V15Pad rng message k = .ok em) :
    em.length = k ∧ unpad em = some message := by
  unfold pkcs1V15Pad at h
  rw [if_neg (by omega), if_neg (by omega)] at h
  obtain ⟨ps, hps, h⟩ := bind_eq_ok.mp h
  cases h
  obtain ⟨hlen, hall⟩ := fillPadding_eq_ok hps
  refine ⟨?_, unpad_eq hall (by omega)⟩
  simp only [List.length_cons, List.length_append, hlen]
  omega

/-- Where no request for random bytes fails, there is a block for every message that leaves eleven
bytes. -/
theorem exists_pkcs1V15Pad {rng : SystemRandom} (hall : ∀ j, rng.fill j ≠ none)
    {message : List UInt8} {k : ℕ} (hk : message.length + 11 ≤ k) :
    ∃ em, pkcs1V15Pad rng message k = .ok em := by
  obtain ⟨ps, hps⟩ := exists_fillPadding hall (k - message.length - 3) 0
  refine ⟨0x00 :: 0x02 :: (ps ++ 0x00 :: message), ?_⟩
  rw [pkcs1V15Pad, if_neg (by omega), if_neg (by omega), hps]
  rfl

/-! ### The encrypted password -/

/-- The power of a number, up to multiples of a modulus that is not zero. -/
def modpow (m e n : ℕ) : Exec TransportError ℕ := if n = 0 then stop else .ok (m ^ e % n)

/-- Encrypt a password with the public key of the server. -/
def encryptPassword (base64 : Base64.Codec) (rng : SystemRandom) (password publicKeyPem : List Char) :
    Exec TransportError (List Char) := do
  let pkcs1Der ← mapError (fun e => .protocolError s!"Failed to parse RSA public key PEM: {e}")
    (pemToPkcs1Der base64 publicKeyPem)
  let (n, e) ← mapError (fun err => .protocolError s!"Failed to parse RSA public key: {err}")
    (parseRsaPublicKey pkcs1Der)
  let bitLen := Nat.size n
  if ¬(1024 ≤ bitLen ∧ bitLen ≤ 8192) then
    fail (.protocolError s!"Unsupported RSA key size: {bitLen} bits (expected 1024..=8192)")
  else
    let k := (bitLen + 7) / 8
    let em ← mapError (fun err => .protocolError s!"Failed to pad password: {err}")
      (pkcs1V15Pad rng (Text.bytes password) k)
    let c ← modpow (natOfBE em) e n
    let cBytes := natToBE c
    if k < cBytes.length then stop
    else return base64.encode (List.replicate (k - cBytes.length) 0 ++ cBytes)

/-- A number has no more bytes than its bits fill. -/
theorem length_natToBE_le_of_size {n k : ℕ} (hk : 0 < k) (h : Nat.size n ≤ 8 * k) :
    (natToBE n).length ≤ k := by
  have hpow : 2 ^ (8 * k) = 256 ^ k := pow_mul 2 8 k
  exact (length_natToBE_le_iff hk n).mpr ((Nat.size_le.mp h).trans_eq hpow)

/-- A remainder has no more bytes than the modulus. -/
theorem length_natToBE_mod_le {n : ℕ} (hn : 0 < n) (m : ℕ) :
    (natToBE (m % n)).length ≤ (Nat.size n + 7) / 8 := by
  have hpos : 0 < Nat.size n := Nat.size_pos.mpr hn
  have hsize : Nat.size (m % n) ≤ Nat.size n := Nat.size_le_size (Nat.mod_lt m hn).le
  exact length_natToBE_le_of_size (by omega) (by omega)

/-- **The encryption stops the program exactly for the texts in which an end marker comes
early.** -/
theorem encryptPassword_stops_iff {base64 : Base64.Codec} {rng : SystemRandom}
    {password publicKeyPem : List Char} :
    encryptPassword base64 rng password publicKeyPem ≠ stop ↔ ¬EndsEarly publicKeyPem := by
  rw [← @pemToPkcs1Der_ne_stop_iff base64]
  unfold encryptPassword
  rw [bind_ne_stop, mapError_ne_stop]
  refine ⟨And.left, fun h => ⟨h, ?_⟩⟩
  intro der _
  rw [bind_ne_stop, mapError_ne_stop]
  refine ⟨parseRsaPublicKey_ne_stop der, ?_⟩
  rintro ⟨n, e⟩ -
  dsimp only
  split_ifs with hbits
  · have hn : 0 < n := Nat.size_pos.mp (by omega)
    rw [bind_ne_stop, mapError_ne_stop]
    refine ⟨pkcs1V15Pad_ne_stop (by omega), fun em _ => ?_⟩
    rw [modpow, if_neg hn.ne', ok_bind, if_neg (Nat.not_lt.mpr (length_natToBE_mod_le hn _))]
    exact nofun
  · exact nofun

end Exarrow.Transport.WebSocket
