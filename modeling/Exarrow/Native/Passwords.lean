import Exarrow.Foundations.Interleaving
import Exarrow.Native.Transport
import Mathlib.Data.Nat.Digits.Lemmas

/-!
# Passwords in blocks

A password is encrypted together with a phrase of the server: the two are written in turn, around
and around, and every 64 bytes are a number that is raised to a power
(`Exarrow.Native.exasolEncodePwd`). The blocks are `Exarrow.Native.plaintextBlocks`, and the
encryption treats each of them once, in order (`Exarrow.Native.exasolEncodePwd_eq_encryptBlocks`).

* Taken apart again, the blocks give the password, which ends at the first zero, and the phrase
  (`Exarrow.Native.plaintextBlocks_interleaves`). Nothing is lost at the edge of a block, whatever
  the two lengths are.
* The power is written to 128 bytes, which is what a modulus of 1024 bits needs. A modulus of zero,
  which is refused in one form of a key and not in the other, and a power that is longer stop the
  program, and nothing else does (`Exarrow.Native.exasolEncodePwd_ne_stop_iff`).
-/

namespace Exarrow.Native

open Machine Checked Interleaving Client Transport

/-! ### The blocks -/

/-- The bytes before the encryption: the text with a zero behind it and the phrase, in turn. -/
def interleaved (data phrase : List UInt8) : List UInt8 :=
  let pwd := data ++ [0]
  pairs (fun i => pwd.getD (i % pwd.length) 0) (fun i => phrase.getD (i % phrase.length) 0)
    (encodedLength pwd.length phrase.length / 2)

/-- The blocks that are encrypted. -/
def plaintextBlocks (data phrase : List UInt8) : List (List UInt8) :=
  windows (rsaKeyLength / 2)
    (2 * encodedLength (data ++ [0]).length phrase.length / rsaKeyLength) (interleaved data phrase)

/-- Encrypt the blocks one after the other. -/
def encryptBlocks (ov : Overflow) (n e : ℕ) (blocks : List (List UInt8)) :
    Exec TransportError (List UInt8) :=
  blocks.zipIdx.foldlM (fun encrypted block =>
    if n = 0 then stop
    else placeBlock ov encrypted (block.2 * rsaKeyLength) (natToBE (natOfBE block.1 ^ e % n)))
    (List.replicate (rsaKeyLength * blocks.length) 0)

/-- The number of bytes before the encryption: as many as the longer text needs, and no more than
a block in addition. -/
theorem encodedLength_spec (pwdLen phraseLen : ℕ) :
    ∃ k, encodedLength pwdLen phraseLen = 128 * k ∧ 2 * max pwdLen phraseLen ≤ 128 * k ∧
      128 * k < 2 * max pwdLen phraseLen + 128 := by
  have hkey : rsaKeyLength = 128 := rfl
  change ∃ k, (if 2 * max pwdLen phraseLen % rsaKeyLength = 0 then 2 * max pwdLen phraseLen
    else 2 * max pwdLen phraseLen + (rsaKeyLength - 2 * max pwdLen phraseLen % rsaKeyLength)) =
      128 * k ∧ _
  generalize 2 * max pwdLen phraseLen = length
  by_cases hwhole : length % rsaKeyLength = 0
  · rw [if_pos hwhole]
    rw [hkey] at hwhole
    exact ⟨length / 128, by omega, by omega, by omega⟩
  · rw [if_neg hwhole, hkey]
    rw [hkey] at hwhole
    exact ⟨length / 128 + 1, by omega, by omega, by omega⟩

/-- **Each block is encrypted once**, in order. -/
theorem exasolEncodePwd_eq_encryptBlocks (ov : Overflow) (data : List UInt8)
    {phrase : List UInt8} (hphrase : phrase ≠ []) (n e : ℕ) :
    exasolEncodePwd ov data phrase n e = encryptBlocks ov n e (plaintextBlocks data phrase) := by
  obtain ⟨k, hk, -, -⟩ := encodedLength_spec (data ++ [0]).length phrase.length
  have hcount : 2 * encodedLength (data ++ [0]).length phrase.length / rsaKeyLength = 2 * k := by
    rw [hk, rsaKeyLength]
    omega
  have hsize : rsaKeyLength * (plaintextBlocks data phrase).length =
      2 * encodedLength (data ++ [0]).length phrase.length := by
    rw [plaintextBlocks, length_windows, hcount, hk, rsaKeyLength]
    omega
  unfold exasolEncodePwd encryptBlocks
  rw [if_neg hphrase, hsize]
  dsimp only
  have hblocks : (plaintextBlocks data phrase).zipIdx =
      (List.range (2 * encodedLength (data ++ [0]).length phrase.length / rsaKeyLength)).map
        fun i => (((interleaved data phrase).drop (i * (rsaKeyLength / 2))).take
          (rsaKeyLength / 2), i) := by
    refine List.ext_getElem? fun i => ?_
    rw [List.getElem?_zipIdx, plaintextBlocks, windows, List.getElem?_map, List.getElem?_map]
    cases hi : (List.range (2 * encodedLength (data ++ [0]).length phrase.length /
        rsaKeyLength))[i]? with
    | none => rfl
    | some j =>
      obtain ⟨hlt, rfl⟩ := List.getElem?_eq_some_iff.mp hi
      rw [List.getElem_range, Nat.zero_add]
      rfl
  rw [hblocks, List.foldlM_map]
  rfl

/-! ### Taken apart again -/

/-- **The blocks interleave a password and a phrase**: they are full, and every second byte gives
the password up to the first zero, and the phrase around and around. -/
structure Interleaves (password phrase : List UInt8) (blocks : List (List UInt8)) : Prop where
  /-- Every block has 64 bytes. -/
  sizes : ∀ block ∈ blocks, block.length = 64
  /-- The password stands in front, with a zero behind it. -/
  begins : ∃ rest, evens blocks.flatten = password ++ 0 :: rest
  /-- What stands before the first zero is the password. -/
  recovered : (evens blocks.flatten).takeWhile (· ≠ 0) = password
  /-- The other bytes are the phrase around and around. -/
  cyclic : odds blocks.flatten = cycle phrase 0 (32 * blocks.length)
  /-- The whole phrase is among them. -/
  whole : ∃ rest, odds blocks.flatten = phrase ++ rest

/-- A password with its padding begins with the password and a zero. -/
theorem exists_padPassword (password : List UInt8) (padding : Option (List UInt8)) :
    ∃ rest, padPassword password padding ++ [0] = password ++ 0 :: rest := by
  cases padding with
  | none => exact ⟨[], rfl⟩
  | some padding =>
    refine ⟨padding ++ [0], ?_⟩
    rw [padPassword, List.append_assoc, List.append_assoc]
    rfl

/-- **The blocks of a password.** -/
theorem plaintextBlocks_interleaves {password phrase : List UInt8} (hzero : 0 ∉ password)
    (padding : Option (List UInt8)) :
    Interleaves password phrase (plaintextBlocks (padPassword password padding) phrase) := by
  obtain ⟨tail, htail⟩ := exists_padPassword password padding
  obtain ⟨k, hk, hlong, -⟩ :=
    encodedLength_spec (padPassword password padding ++ [0]).length phrase.length
  generalize hpwd : padPassword password padding ++ [0] = pwd at hk hlong htail
  have hcount : 2 * encodedLength pwd.length phrase.length / rsaKeyLength = 2 * k := by
    rw [hk, rsaKeyLength]
    omega
  have hhalf : encodedLength pwd.length phrase.length / 2 = 64 * k := by omega
  have hblocks : plaintextBlocks (padPassword password padding) phrase = windows 64 (2 * k)
      (pairs (fun i => pwd.getD (i % pwd.length) 0) (fun i => phrase.getD (i % phrase.length) 0)
        (64 * k)) := by
    unfold plaintextBlocks interleaved
    rw [hpwd, hcount]
    dsimp only
    rw [hhalf]
    rfl
  have hlen : (pairs (fun i => pwd.getD (i % pwd.length) 0)
      (fun i => phrase.getD (i % phrase.length) 0) (64 * k)).length = 2 * k * 64 := by
    rw [length_pairs]
    omega
  rw [hblocks]
  have hevens : evens (windows 64 (2 * k) (pairs (fun i => pwd.getD (i % pwd.length) 0)
      (fun i => phrase.getD (i % phrase.length) 0) (64 * k))).flatten = cycle pwd 0 (64 * k) := by
    rw [flatten_windows hlen, evens_pairs]
    rfl
  have hodds : odds (windows 64 (2 * k) (pairs (fun i => pwd.getD (i % pwd.length) 0)
      (fun i => phrase.getD (i % phrase.length) 0) (64 * k))).flatten = cycle phrase 0 (64 * k) := by
    rw [flatten_windows hlen, odds_pairs]
    rfl
  obtain ⟨more, hmore⟩ := exists_cycle_eq_append (l := pwd) 0 (n := 64 * k) (by omega)
  have hfront : cycle pwd 0 (64 * k) = password ++ 0 :: (tail ++ more) := by
    rw [hmore, htail, List.append_assoc]
    rfl
  refine ⟨fun block hblock => length_of_mem_windows hlen hblock, ?_, ?_, ?_, ?_⟩
  · rw [hevens]
    exact ⟨_, hfront⟩
  · rw [hevens, hfront, List.takeWhile_append_of_pos]
    · simp
    · intro b hb
      rw [decide_eq_true_eq]
      rintro rfl
      exact hzero hb
  · rw [hodds, length_windows]
    congr 1
    omega
  · rw [hodds]
    exact exists_cycle_eq_append 0 (by omega)

/-! ### The encryption of a block -/

/-- **A block can be encrypted**: the modulus is not zero, and the power fits 1024 bits. -/
def Fits (n e : ℕ) (block : List UInt8) : Prop := n ≠ 0 ∧ natOfBE block ^ e % n < 2 ^ 1024

/-- A power in 128 bytes, with zeros in front. -/
def encryptBlock (n e : ℕ) (block : List UInt8) : List UInt8 :=
  let power := natToBE (natOfBE block ^ e % n)
  List.replicate (rsaKeyLength - power.length) 0 ++ power

/-- How many bytes a number has. -/
theorem length_natToBE_le_iff {k : ℕ} (hk : 0 < k) (n : ℕ) :
    (natToBE n).length ≤ k ↔ n < 256 ^ k := by
  unfold natToBE
  split
  · rename_i hzero
    subst hzero
    exact iff_of_true hk (pow_pos (by norm_num) k)
  · rw [List.length_reverse, List.length_map]
    exact Nat.digits_length_le_iff (by norm_num) n

/-- The numbers of 128 bytes. -/
theorem pow_rsaKeyLength : (256 : ℕ) ^ rsaKeyLength = 2 ^ 1024 := by
  rw [rsaKeyLength, show (256 : ℕ) = 2 ^ 8 from rfl, ← pow_mul]

/-- A block that can be encrypted has a power of 128 bytes at most. -/
theorem Fits.length_le {n e : ℕ} {block : List UInt8} (h : Fits n e block) :
    (natToBE (natOfBE block ^ e % n)).length ≤ rsaKeyLength := by
  refine (length_natToBE_le_iff (by decide) _).mpr ?_
  rw [pow_rsaKeyLength]
  exact h.2

theorem length_encryptBlock {n e : ℕ} {block : List UInt8} (h : Fits n e block) :
    (encryptBlock n e block).length = rsaKeyLength := by
  have hle := h.length_le
  unfold encryptBlock
  dsimp only
  rw [List.length_append, List.length_replicate]
  omega

/-- **The power is put behind zeros**, in front of what is still to come. -/
theorem placeBlock_fits (ov : Overflow) {n e : ℕ} {block : List UInt8} (h : Fits n e block)
    {done : List UInt8} {i : ℕ} (hdone : done.length = i * rsaKeyLength) (rest : List UInt8) :
    placeBlock ov (done ++ (List.replicate rsaKeyLength 0 ++ rest)) (i * rsaKeyLength)
        (natToBE (natOfBE block ^ e % n)) =
      .ok (done ++ encryptBlock n e block ++ rest) := by
  have hle := h.length_le
  unfold placeBlock encryptBlock
  dsimp only
  generalize natToBE (natOfBE block ^ e % n) = power at hle
  rw [if_neg (fun hlong => absurd hlong.1 (by omega)), ← hdone]
  have htake : (done ++ (List.replicate rsaKeyLength 0 ++ rest)).take
      (done.length + rsaKeyLength - power.length) =
        done ++ List.replicate (rsaKeyLength - power.length) 0 := by
    rw [Nat.add_sub_assoc hle, List.take_length_add_append, List.take_append_of_le_length
      (by rw [List.length_replicate]; omega), List.take_replicate, min_eq_left (by omega)]
  have hdrop : (done ++ (List.replicate rsaKeyLength 0 ++ rest)).drop
      (done.length + rsaKeyLength - power.length + power.length) = rest := by
    rw [Nat.sub_add_cancel (by omega), List.drop_length_add_append, List.drop_left'
      List.length_replicate]
  rw [htake, hdrop, List.append_assoc done]

/-- Without a modulus, or where the power is too long, nothing is put anywhere. -/
theorem placeBlock_of_not_fits {n e : ℕ} (hn : n ≠ 0) {block : List UInt8}
    (h : ¬Fits n e block) (encrypted : List UInt8) (start : ℕ) :
    placeBlock .panics encrypted start (natToBE (natOfBE block ^ e % n)) = stop := by
  have hlong : rsaKeyLength < (natToBE (natOfBE block ^ e % n)).length := by
    by_contra hle
    refine h ⟨hn, ?_⟩
    have hlt := (length_natToBE_le_iff (by decide) _).mp (Nat.le_of_not_lt hle)
    rwa [pow_rsaKeyLength] at hlt
  unfold placeBlock
  rw [if_pos ⟨hlong, .inl rfl⟩]

/-- **The encryption of blocks that fit** is that of each, one after the other. -/
theorem encryptBlocks_fits (ov : Overflow) {n e : ℕ} {blocks : List (List UInt8)}
    (h : ∀ block ∈ blocks, Fits n e block) :
    encryptBlocks ov n e blocks = .ok (blocks.flatMap (encryptBlock n e)) := by
  suffices hrun : ∀ (i : ℕ) (done : List UInt8), done.length = i * rsaKeyLength →
      (blocks.zipIdx i).foldlM (fun encrypted block =>
        if n = 0 then stop
        else placeBlock ov encrypted (block.2 * rsaKeyLength)
          (natToBE (natOfBE block.1 ^ e % n)))
        (done ++ List.replicate (rsaKeyLength * blocks.length) 0) =
      .ok (done ++ blocks.flatMap (encryptBlock n e)) from hrun 0 [] (Nat.zero_mul _).symm
  induction blocks with
  | nil =>
    intro i done _
    rfl
  | cons block blocks ih =>
    intro i done hdone
    have hfits := h block List.mem_cons_self
    have hzeros : List.replicate (rsaKeyLength * (block :: blocks).length) (0 : UInt8) =
        List.replicate rsaKeyLength 0 ++ List.replicate (rsaKeyLength * blocks.length) 0 := by
      rw [List.length_cons, Nat.mul_succ, Nat.add_comm, List.replicate_add]
    rw [List.zipIdx_cons, List.foldlM_cons, if_neg hfits.1, hzeros]
    dsimp only
    rw [placeBlock_fits ov hfits hdone, ok_bind, List.flatMap_cons, ← List.append_assoc]
    refine ih (fun b hb => h b (List.mem_cons_of_mem _ hb)) (i + 1) _ ?_
    rw [List.length_append, length_encryptBlock hfits, hdone, Nat.succ_mul]

/-- **The encryption stops at a block that does not fit.** -/
theorem encryptBlocks_stop {n e : ℕ} {blocks : List (List UInt8)}
    (h : ¬∀ block ∈ blocks, Fits n e block) : encryptBlocks .panics n e blocks = stop := by
  unfold encryptBlocks
  generalize List.replicate (rsaKeyLength * blocks.length) (0 : UInt8) = encrypted
  suffices hrun : ∀ (i : ℕ) (encrypted : List UInt8),
      (blocks.zipIdx i).foldlM (fun encrypted block =>
        if n = 0 then stop
        else placeBlock .panics encrypted (block.2 * rsaKeyLength)
          (natToBE (natOfBE block.1 ^ e % n))) encrypted = stop from hrun 0 encrypted
  induction blocks with
  | nil => exact absurd (fun block hblock => absurd hblock List.not_mem_nil) h
  | cons block blocks ih =>
    intro i encrypted
    rw [List.zipIdx_cons, List.foldlM_cons]
    dsimp only
    by_cases hn : n = 0
    · rw [if_pos hn]
      rfl
    rw [if_neg hn]
    by_cases hfits : Fits n e block
    · have hrest : ¬∀ block ∈ blocks, Fits n e block := fun hall =>
        h fun b hb => (List.mem_cons.mp hb).elim (fun heq => heq ▸ hfits) (hall b)
      have hplace : ∃ encrypted', placeBlock .panics encrypted (i * rsaKeyLength)
          (natToBE (natOfBE block ^ e % n)) = .ok encrypted' := by
        unfold placeBlock
        rw [if_neg (fun hlong => absurd hfits.length_le (by omega))]
        exact ⟨_, rfl⟩
      obtain ⟨encrypted', hplace⟩ := hplace
      rw [hplace, ok_bind]
      exact ih hrest (i + 1) encrypted'
    · rw [placeBlock_of_not_fits hn hfits]
      rfl

/-- **What is given for a text and a phrase**, if its blocks fit. -/
theorem exasolEncodePwd_fits (ov : Overflow) {data phrase : List UInt8} (hphrase : phrase ≠ [])
    {n e : ℕ} (h : ∀ block ∈ plaintextBlocks data phrase, Fits n e block) :
    exasolEncodePwd ov data phrase n e =
      .ok ((plaintextBlocks data phrase).flatMap (encryptBlock n e)) :=
  (exasolEncodePwd_eq_encryptBlocks ov data hphrase n e).trans (encryptBlocks_fits ov h)

/-- The encryption of a text stops if a block does not fit. -/
theorem exasolEncodePwd_stop {data phrase : List UInt8} (hphrase : phrase ≠ []) {n e : ℕ}
    (h : ¬∀ block ∈ plaintextBlocks data phrase, Fits n e block) :
    exasolEncodePwd .panics data phrase n e = stop :=
  (exasolEncodePwd_eq_encryptBlocks .panics data hphrase n e).trans (encryptBlocks_stop h)

/-- **A password reaches the server whole**: for every phrase that is not empty and every password
without a zero, of any length, the blocks that are encrypted are the password with a zero behind it
and the phrase around and around, in turn; they are encrypted in order, each of them once; and if
each of them fits, what is sent is the power of each, one behind the other. -/
theorem password_blocks (password : String) (phrase : List UInt8) (hphrase : phrase ≠ [])
    (hzero : Char.ofNat 0 ∉ password.toList) (padding : Option (List UInt8)) :
    let data := padPassword (Text.bytes password.toList) padding
    Interleaves (Text.bytes password.toList) phrase (plaintextBlocks data phrase) ∧
      ∀ ov n e, exasolEncodePwd ov data phrase n e =
          encryptBlocks ov n e (plaintextBlocks data phrase) ∧
        ((∀ block ∈ plaintextBlocks data phrase, Fits n e block) →
          exasolEncodePwd ov data phrase n e =
            .ok ((plaintextBlocks data phrase).flatMap (encryptBlock n e))) := by
  have hbytes : (0 : UInt8) ∉ Text.bytes password.toList := fun hmem =>
    hzero (Text.mem_of_mem_bytes (d := Char.ofNat 0) (by decide) hmem)
  exact ⟨plaintextBlocks_interleaves hbytes padding, fun ov n e =>
    ⟨exasolEncodePwd_eq_encryptBlocks ov _ hphrase n e, exasolEncodePwd_fits ov hphrase⟩⟩

/-- A password of three characters and a phrase of one byte. -/
theorem password_blocks_sys :
    Interleaves (Text.bytes "sys".toList) [7]
      (plaintextBlocks (padPassword (Text.bytes "sys".toList) none) [7]) :=
  (password_blocks "sys" [7] (by decide) (by decide) none).1

/-! ### The second message of a login -/

section Message

/-- The transport's libraries in a build that checks its arithmetic, or in one that does not. -/
def NativeLibraries.build (lib : NativeLibraries) (ov : Overflow) : NativeLibraries :=
  { lib with parser := { lib.parser with overflow := ov } }

/-- What the operating system and the network answer, chosen anew at each request. -/
def answering : Server Unit NetRequest NetRequest.Answer (∀ r : NetRequest, r.Answer) where
  step _ r choice := (choice r, ())

/-- The random generator delivers keys. -/
def DeliversKeys : Set (∀ r : NetRequest, r.Answer) :=
  {choice | ∃ key, choice (.random chacha20KeyLen) = some key}

/-- A program does not panic, whatever it is answered. -/
def Safe {α : Type} (program : NativeOp α) (t : NativeTcpTransport) : Prop :=
  wp answering DeliversKeys program.run (fun result _ _ => result ≠ .error (.fault .panic))
    (fun _ _ => True) t ()

/-- **The second message is built without a panic**: whichever build of the program it is, and
whatever random bytes it draws, it returns the message or an error. -/
def NeverPanics (lib : NativeLibraries) (password : String) (publicKeyData phrase : List UInt8)
    (useChacha20 : Bool) : Prop :=
  ∀ ov t, Safe (buildAuthMessage (lib.build ov) password publicKeyData phrase useChacha20) t

/-- The blocks of the password, whatever its padding is, and of every key fit. -/
def AllFit (password : String) (phrase : List UInt8) (useChacha20 : Bool) (n e : ℕ) : Prop :=
  (∀ padding : Option (List UInt8),
    padding.map List.length = paddingLength (Text.bytes password.toList) phrase →
      ∀ block ∈ plaintextBlocks (padPassword (Text.bytes password.toList) padding) phrase,
        Fits n e block) ∧
  (useChacha20 = true → ∀ key : List UInt8, key.length = chacha20KeyLen →
    ∀ block ∈ plaintextBlocks key phrase, Fits n e block)

variable {α β : Type} {t : NativeTcpTransport}

/-- A computation goes on with its value. -/
theorem safe_lift_bind {x : Exec TransportError α} {f : α → NativeOp β} :
    Safe (lift x >>= f) t ↔ x ≠ stop ∧ ∀ a, x = .ok a → Safe (f a) t := by
  rcases x with (e | _) | a
  · constructor
    · intro _
      exact ⟨(by intro h; cases h), fun a h => by cases h⟩
    · intro _ h
      cases h
  · exact iff_of_false (fun h => h rfl) fun h => h.1 rfl
  · constructor
    · intro h
      refine ⟨(by intro hstop; cases hstop), fun b hb => ?_⟩
      cases hb
      exact h
    · intro h
      exact h.2 a rfl

/-- An answer of the random generator that is not a given one. -/
def otherAnswer : ∀ r : NetRequest, r.Answer
  | .connectTcp _ => none
  | .setNodelay => .ok ()
  | .tlsHandshake .. => none
  | .writeAll _ => none
  | .flush => none
  | .readExact _ => none
  | .random n => some ⟨List.replicate n 0, List.length_replicate⟩
  | .hasElapsed => false

open Classical in
/-- Any bytes may be drawn. -/
theorem exists_answer {n : ℕ} (bytes : Bytes n) :
    ∃ choice ∈ DeliversKeys, choice (.random n) = some bytes := by
  refine ⟨Function.update otherAnswer (.random n) (some bytes), ?_, Function.update_self _ _ _⟩
  obtain heq | hne := eq_or_ne (NetRequest.random chacha20KeyLen) (.random n)
  · cases heq
    exact ⟨bytes, Function.update_self _ _ _⟩
  · exact ⟨_, Function.update_of_ne hne _ _⟩

/-- A key is drawn. -/
theorem safe_key_bind {f : Bytes chacha20KeyLen → NativeOp β} :
    Safe (Attempt.ask (.random chacha20KeyLen) (fun key => ofExec (key.elim stop .ok)) >>= f) t ↔
      ∀ key, Safe (f key) t := by
  constructor
  · intro h key
    obtain ⟨choice, hmem, hchoice⟩ := exists_answer key
    have hnext := (h.2 choice hmem).2
    have hstep : (answering.step () (.random chacha20KeyLen) choice).1 = some key := hchoice
    rw [hstep] at hnext
    exact hnext
  · intro h
    refine ⟨trivial, fun choice hmem => ⟨trivial, ?_⟩⟩
    obtain ⟨key, hkey⟩ := hmem
    have hstep : (answering.step () (.random chacha20KeyLen) choice).1 = some key := hkey
    rw [hstep]
    exact h key

/-- A padding is drawn, or the generator fails. -/
theorem safe_padding_bind {n : ℕ} {e : TransportError} {f : Bytes n → NativeOp β} :
    Safe (Attempt.ask (.random n) (fun bytes => ofExec (orFail e bytes)) >>= f) t ↔
      ∀ bytes, Safe (f bytes) t := by
  constructor
  · intro h bytes
    obtain ⟨choice, hmem, hchoice⟩ := exists_answer bytes
    have hnext := (h.2 choice hmem).2
    have hstep : (answering.step () (.random n) choice).1 = some bytes := hchoice
    rw [hstep] at hnext
    exact hnext
  · intro h
    refine ⟨trivial, fun choice _ => ⟨trivial, ?_⟩⟩
    have hstep : (answering.step () (.random n) choice).1 = choice (.random n) := rfl
    rw [hstep]
    cases choice (.random n) with
    | none => exact fun h => by cases h
    | some bytes => exact h bytes

/-- What follows once everything is encrypted. -/
theorem safe_message (attrs : AttributeSet) (sendKey recvKey : List UInt8) :
    Safe (nextSerial >>= fun serial =>
      pure (⟨authBytes serial attrs, sendKey, recvKey⟩ : AuthMessage)) t :=
  fun h => by cases h

/-- The keys that are made, if there are to be any. -/
def KeysFor (useChacha20 : Bool) (keys : Option (List UInt8 × List UInt8)) : Prop :=
  keys.isSome = useChacha20 ∧
    ∀ k ∈ keys, k.1.length = chacha20KeyLen ∧ k.2.length = chacha20KeyLen

/-- The attributes need the password to be encrypted. -/
theorem encodePwd_ne_stop {ov : Overflow} {padded phrase : List UInt8} {n e : ℕ}
    {keys : Option (List UInt8 × List UInt8)}
    (h : authAttributes ov padded phrase n e keys ≠ stop) :
    exasolEncodePwd ov padded phrase n e ≠ stop := fun hstop =>
  h (bind_eq_stop.mpr (.inl hstop))

/-- The message after the padding has been drawn. -/
theorem safe_afterPadding {ov : Overflow} {padded phrase : List UInt8} {n e : ℕ}
    {useChacha20 : Bool} :
    Safe (do
      let _ ← lift (exasolEncodePwd ov padded phrase n e)
      let keys ← if useChacha20 then do
          let sendKey ← Attempt.ask (.random chacha20KeyLen) (fun key => ofExec (key.elim stop .ok))
          let recvKey ← Attempt.ask (.random chacha20KeyLen) (fun key => ofExec (key.elim stop .ok))
          pure (some (sendKey.val, recvKey.val))
        else pure none
      let attrs ← lift (authAttributes ov padded phrase n e keys)
      let serial ← nextSerial
      return (⟨authBytes serial attrs, (keys.map Prod.fst).getD [],
        (keys.map Prod.snd).getD []⟩ : AuthMessage)) t ↔
      exasolEncodePwd ov padded phrase n e ≠ stop ∧
        ∀ encrypted, exasolEncodePwd ov padded phrase n e = .ok encrypted →
          ∀ keys, KeysFor useChacha20 keys → authAttributes ov padded phrase n e keys ≠ stop := by
  rw [safe_lift_bind]
  refine and_congr_right fun _ => forall₂_congr fun encrypted _ => ?_
  cases useChacha20 with
  | false =>
    rw [if_neg Bool.false_ne_true, pure_bind, safe_lift_bind]
    constructor
    · rintro h keys ⟨hnone, -⟩
      obtain rfl := Option.not_isSome_iff_eq_none.mp (Bool.eq_false_iff.mp hnone)
      exact h.1
    · intro h
      exact ⟨h none ⟨rfl, fun k hk => by cases hk⟩, fun attrs _ => safe_message attrs [] []⟩
  | true =>
    rw [if_pos rfl]
    simp only [pure_bind, safe_key_bind, safe_lift_bind]
    constructor
    · rintro h keys ⟨hsome, hlen⟩
      obtain ⟨⟨sendKey, recvKey⟩, rfl⟩ := Option.isSome_iff_exists.mp hsome
      obtain ⟨hsend, hrecv⟩ := hlen _ rfl
      exact (h ⟨sendKey, hsend⟩ ⟨recvKey, hrecv⟩).1
    · intro h sendKey recvKey
      refine ⟨h _ ⟨rfl, fun k hk => ?_⟩, fun attrs _ => safe_message attrs _ _⟩
      obtain rfl := Option.some.inj hk
      exact ⟨sendKey.property, recvKey.property⟩

/-- There is a padding, if one is needed, and there are keys. -/
theorem exists_padding_keys (password phrase : List UInt8) (useChacha20 : Bool) :
    (∃ padding : Option (List UInt8), padding.map List.length = paddingLength password phrase) ∧
      ∃ keys, KeysFor useChacha20 keys := by
  refine ⟨⟨(paddingLength password phrase).map fun n => List.replicate n 0, ?_⟩, ?_⟩
  · rw [Option.map_map]
    cases paddingLength password phrase with
    | none => rfl
    | some n => exact congrArg some List.length_replicate
  · cases useChacha20 with
    | false => exact ⟨none, rfl, fun k hk => by cases hk⟩
    | true =>
      refine ⟨some (List.replicate 32 0, List.replicate 32 0), rfl, fun k hk => ?_⟩
      obtain rfl := Option.some.inj hk
      exact ⟨List.length_replicate, List.length_replicate⟩

/-- **What the second message needs**: the password, with any padding, and then it and any keys are
encrypted. -/
theorem safe_buildAuthMessage {lib : NativeLibraries} {password : String}
    {publicKeyData phrase : List UInt8} {useChacha20 : Bool} :
    Safe (buildAuthMessage lib password publicKeyData phrase useChacha20) t ↔
      ∀ n e, parseRsaPublicKey publicKeyData = .ok (n, e) → ∀ padding : Option (List UInt8),
        padding.map List.length = paddingLength (Text.bytes password.toList) phrase →
          ∀ keys, KeysFor useChacha20 keys → authAttributes lib.parser.overflow
            (padPassword (Text.bytes password.toList) padding) phrase n e keys ≠ stop := by
  obtain ⟨-, someKeys, hsomeKeys⟩ :=
    exists_padding_keys (Text.bytes password.toList) phrase useChacha20
  have hencodes (padded : List UInt8) (n e : ℕ) :
      (exasolEncodePwd lib.parser.overflow padded phrase n e ≠ stop ∧
        ∀ encrypted, exasolEncodePwd lib.parser.overflow padded phrase n e = .ok encrypted →
          ∀ keys, KeysFor useChacha20 keys →
            authAttributes lib.parser.overflow padded phrase n e keys ≠ stop) ↔
        ∀ keys, KeysFor useChacha20 keys →
          authAttributes lib.parser.overflow padded phrase n e keys ≠ stop := by
    constructor
    · rintro ⟨hne, hok⟩ keys hkeys hstop
      obtain hstop' | ⟨encrypted, hencrypted, -⟩ := bind_eq_stop.mp hstop
      · exact hne hstop'
      · exact hok encrypted hencrypted keys hkeys hstop
    · intro h
      exact ⟨encodePwd_ne_stop (h someKeys hsomeKeys), fun _ _ => h⟩
  unfold buildAuthMessage
  rw [safe_lift_bind]
  constructor
  · rintro ⟨-, h⟩ n e hparse padding hpadding
    have hrest := h (n, e) (ofExcept_eq_ok.mpr hparse)
    dsimp only at hrest
    cases hlen : paddingLength (Text.bytes password.toList) phrase with
    | none =>
      rw [hlen] at hrest hpadding
      obtain rfl := Option.map_eq_none_iff.mp hpadding
      dsimp only at hrest
      rw [pure_bind] at hrest
      exact (hencodes _ n e).mp (safe_afterPadding.mp hrest)
    | some length =>
      rw [hlen] at hrest hpadding
      obtain ⟨bytes, rfl, hbytes⟩ := Option.map_eq_some_iff.mp hpadding
      dsimp only at hrest
      rw [safe_padding_bind] at hrest
      have hdrawn := hrest ⟨bytes, hbytes⟩
      rw [pure_bind] at hdrawn
      exact (hencodes _ n e).mp (safe_afterPadding.mp hdrawn)
  · intro h
    refine ⟨?_, ?_⟩
    · cases parseRsaPublicKey publicKeyData <;> exact fun hstop => by cases hstop
    rintro ⟨n, e⟩ hparse
    have hall := h n e (ofExcept_eq_ok.mp hparse)
    dsimp only
    cases hlen : paddingLength (Text.bytes password.toList) phrase with
    | none =>
      rw [hlen] at hall
      dsimp only
      rw [pure_bind]
      exact safe_afterPadding.mpr ((hencodes _ n e).mpr (hall none rfl))
    | some length =>
      rw [hlen] at hall
      dsimp only
      rw [safe_padding_bind]
      intro bytes
      rw [pure_bind]
      exact safe_afterPadding.mpr ((hencodes _ n e).mpr
        (hall (some bytes.val) (congrArg some bytes.property)))

/-- Without a phrase nothing is encrypted. -/
theorem authAttributes_nil {ov : Overflow} {padded : List UInt8} {n e : ℕ}
    {keys : Option (List UInt8 × List UInt8)} : authAttributes ov padded [] n e keys ≠ stop := by
  intro h
  cases h

/-- **Where everything fits, everything is encrypted.** -/
theorem authAttributes_fits {ov : Overflow} {padded phrase : List UInt8} {n e : ℕ}
    {useChacha20 : Bool} {keys : Option (List UInt8 × List UInt8)}
    (hkeys : KeysFor useChacha20 keys) (hphrase : phrase ≠ [])
    (hpadded : ∀ block ∈ plaintextBlocks padded phrase, Fits n e block)
    (hall : useChacha20 = true → ∀ key : List UInt8, key.length = chacha20KeyLen →
      ∀ block ∈ plaintextBlocks key phrase, Fits n e block) :
    authAttributes ov padded phrase n e keys ≠ stop := by
  unfold authAttributes
  rw [exasolEncodePwd_fits ov hphrase hpadded, ok_bind]
  obtain ⟨hsome, hlen⟩ := hkeys
  cases keys with
  | none => exact fun h => by cases h
  | some keys =>
    obtain ⟨hsend, hrecv⟩ := hlen keys rfl
    dsimp only
    rw [exasolEncodePwd_fits ov hphrase (hall hsome.symm _ hsend), ok_bind,
      exasolEncodePwd_fits ov hphrase (hall hsome.symm _ hrecv), ok_bind]
    exact fun h => by cases h

/-- **The second message is built without a panic exactly when everything fits**: the key is
refused, the phrase is empty, which is an error, or the modulus is not zero and the power of every
block of the password and of the keys fits 128 bytes. -/
theorem neverPanics_iff (lib : NativeLibraries) (password : String)
    (publicKeyData phrase : List UInt8) (useChacha20 : Bool) :
    NeverPanics lib password publicKeyData phrase useChacha20 ↔
      ∀ n e, parseRsaPublicKey publicKeyData = .ok (n, e) →
        phrase = [] ∨ AllFit password phrase useChacha20 n e := by
  unfold NeverPanics
  simp only [safe_buildAuthMessage]
  constructor
  · intro h n e hparse
    by_cases hphrase : phrase = []
    · exact .inl hphrase
    have hstop := h .panics {} n e hparse
    obtain ⟨⟨padding, hpadding⟩, someKeys, hsomeKeys⟩ :=
      exists_padding_keys (Text.bytes password.toList) phrase useChacha20
    have hpassword (padding : Option (List UInt8))
        (hpadding : padding.map List.length =
          paddingLength (Text.bytes password.toList) phrase) :
        ∀ block ∈ plaintextBlocks (padPassword (Text.bytes password.toList) padding) phrase,
          Fits n e block := by
      by_contra hnot
      exact encodePwd_ne_stop (hstop padding hpadding someKeys hsomeKeys)
        (exasolEncodePwd_stop hphrase hnot)
    refine .inr ⟨hpassword, ?_⟩
    rintro rfl key hkey
    by_contra hnot
    refine hstop padding hpadding (some (key, key)) ⟨rfl, fun k hk => ?_⟩ ?_
    · obtain rfl := Option.some.inj hk
      exact ⟨hkey, hkey⟩
    · unfold authAttributes
      have hov : (lib.build .panics).parser.overflow = .panics := rfl
      rw [hov, exasolEncodePwd_fits .panics hphrase (hpassword padding hpadding), ok_bind]
      dsimp only
      rw [exasolEncodePwd_stop hphrase hnot]
      rfl
  · intro h ov t n e hparse padding hpadding keys hkeys
    obtain rfl | ⟨hpassword, hall⟩ := h n e hparse
    · exact authAttributes_nil
    · by_cases hphrase : phrase = []
      · subst hphrase
        exact authAttributes_nil
      · exact authAttributes_fits hkeys hphrase (hpassword padding hpadding) hall

/-- A modulus of 1024 bits at most has powers that fit. -/
theorem fits_of_le {n e : ℕ} (hn : n ≠ 0) (hle : n ≤ 2 ^ 1024) (block : List UInt8) :
    Fits n e block :=
  ⟨hn, (Nat.mod_lt _ (Nat.pos_of_ne_zero hn)).trans_le hle⟩

/-- There is always a block. -/
theorem plaintextBlocks_ne_nil (data phrase : List UInt8) : plaintextBlocks data phrase ≠ [] := by
  obtain ⟨k, hk, hlong, -⟩ := encodedLength_spec (data ++ [0]).length phrase.length
  have hpos : 0 < (data ++ [0]).length := List.length_pos_iff.mpr (List.append_ne_nil_of_right_ne_nil
    _ (List.cons_ne_nil _ _))
  intro hnil
  have hlen := congrArg List.length hnil
  rw [plaintextBlocks, length_windows, hk, rsaKeyLength, List.length_nil] at hlen
  omega

/-- **A modulus of zero stops the program**, whatever the password and the phrase are. -/
theorem not_neverPanics_of_zero {lib : NativeLibraries} {password : String}
    {publicKeyData phrase : List UInt8} {useChacha20 : Bool} {e : ℕ}
    (hparse : parseRsaPublicKey publicKeyData = .ok (0, e)) (hphrase : phrase ≠ []) :
    ¬NeverPanics lib password publicKeyData phrase useChacha20 := by
  intro h
  obtain ⟨⟨padding, hpadding⟩, keys, hkeys⟩ :=
    exists_padding_keys (Text.bytes password.toList) phrase useChacha20
  refine encodePwd_ne_stop (safe_buildAuthMessage.mp (h .panics {}) 0 e hparse padding hpadding keys
    hkeys) (exasolEncodePwd_stop hphrase fun hall => ?_)
  obtain ⟨block, hblock⟩ := List.exists_mem_of_ne_nil _ (plaintextBlocks_ne_nil
    (padPassword (Text.bytes password.toList) padding) phrase)
  exact (hall block hblock).1 rfl

/-- A public key of two integers, of which the modulus is zero. -/
def zeroModulusKey : List UInt8 := [0x30, 6, 2, 1, 0, 2, 1, 3]

/-- **A key with a modulus of zero is accepted** in this form, and then stops the program. -/
theorem panics_zeroModulusKey : parseRsaPublicKey zeroModulusKey = .ok (0, 3) ∧
    ∀ lib, ¬NeverPanics lib "sys" zeroModulusKey [7] false := by
  have hparse : parseRsaPublicKey zeroModulusKey = .ok (0, 3) := by decide
  exact ⟨hparse, fun lib => not_neverPanics_of_zero hparse (List.cons_ne_nil _ _)⟩

end Message

end Exarrow.Native
