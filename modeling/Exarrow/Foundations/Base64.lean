import Mathlib.Data.List.Nodup
import Mathlib.Tactic.Common

/-!
# Base64

Bytes written with 64 characters: three bytes are four characters, and what is missing of the last
group is filled up with `=`. A program that uses such a code relies on three facts about it, which
`Base64.Codec` collects: what was written is read back, only the characters of the code are
written, and so many of them that the groups are whole. `Base64.standard` is the code with the usual
alphabet, which reads a text only if it is the one that would have been written.
-/

namespace Base64

/-- The characters that stand for six bits each. -/
def alphabet : List Char := "ABCDEFGHIJKLMNOPQRSTUVWXYZabcdefghijklmnopqrstuvwxyz0123456789+/".toList

/-- A code of bytes in the characters of base64. -/
structure Codec where
  /-- Write bytes. -/
  encode : List UInt8 → List Char
  /-- Read bytes, none if the text is not well formed. -/
  decode : List Char → Option (List UInt8)
  decode_encode : ∀ bytes, decode (encode bytes) = some bytes
  mem_encode : ∀ bytes, ∀ c ∈ encode bytes, c ∈ alphabet ∨ c = '='
  length_encode : ∀ bytes, (encode bytes).length = (bytes.length + 2) / 3 * 4

/-! ### The characters -/

/-- The character for six bits. -/
def digit (i : ℕ) : Char := alphabet.getD i '='

/-- The six bits of a character. -/
def value? (c : Char) : Option ℕ := if c ∈ alphabet then some (alphabet.idxOf c) else none

theorem length_alphabet : alphabet.length = 64 := by decide +kernel

theorem nodup_alphabet : alphabet.Nodup := by decide +kernel

theorem digit_eq {i : ℕ} (h : i < alphabet.length) : digit i = alphabet[i] :=
  (List.getElem_eq_getD '=').symm

theorem digit_mem {i : ℕ} (h : i < 64) : digit i ∈ alphabet := by
  rw [digit_eq (length_alphabet ▸ h)]
  exact List.getElem_mem _

/-- The bits of a character are those it was written for. -/
theorem value?_digit {i : ℕ} (h : i < 64) : value? (digit i) = some i := by
  rw [value?, if_pos (digit_mem h), digit_eq (length_alphabet ▸ h), nodup_alphabet.idxOf_getElem]

theorem digit_ne {i : ℕ} (h : i < 64) : digit i ≠ '=' := by
  intro heq
  have hnot : '=' ∉ alphabet := by decide +kernel
  exact hnot (heq ▸ digit_mem h)

/-! ### The usual code -/

/-- Write bytes, three at a time. -/
def encode : List UInt8 → List Char
  | [] => []
  | [x] => [digit (x.toNat / 4), digit (x.toNat % 4 * 16), '=', '=']
  | [x, y] =>
    [digit (x.toNat / 4), digit (x.toNat % 4 * 16 + y.toNat / 16), digit (y.toNat % 16 * 4), '=']
  | x :: y :: z :: bytes =>
    digit (x.toNat / 4) :: digit (x.toNat % 4 * 16 + y.toNat / 16) ::
      digit (y.toNat % 16 * 4 + z.toNat / 64) :: digit (z.toNat % 64) :: encode bytes

/-- The byte that ends in the second character of a group. -/
def firstByte (i j : ℕ) : UInt8 := UInt8.ofNat (i * 4 + j / 16)

/-- The byte that ends in the third character of a group. -/
def secondByte (j k : ℕ) : UInt8 := UInt8.ofNat (j % 16 * 16 + k / 4)

/-- The byte that ends in the fourth character of a group. -/
def thirdByte (k l : ℕ) : UInt8 := UInt8.ofNat (k % 4 * 64 + l)

/-- Read bytes, four characters at a time. The bits that no byte takes are zero. -/
def decode : List Char → Option (List UInt8)
  | [] => some []
  | a :: b :: c :: d :: s => do
    let i ← value? a
    let j ← value? b
    if c = '=' ∧ d = '=' ∧ s = [] then
      if j % 16 = 0 then some [firstByte i j] else none
    else
      let k ← value? c
      if d = '=' ∧ s = [] then
        if k % 4 = 0 then some [firstByte i j, secondByte j k] else none
      else
        let l ← value? d
        let bytes ← decode s
        some (firstByte i j :: secondByte j k :: thirdByte k l :: bytes)
  | _ => none

/-- A byte is put together again. -/
theorem ofNat_eq {n : ℕ} {x : UInt8} (h : n = x.toNat) : UInt8.ofNat n = x := by
  rw [h, UInt8.ofNat_toNat]

theorem firstByte_eq {x : UInt8} {r : ℕ} (hr : r < 16) :
    firstByte (x.toNat / 4) (x.toNat % 4 * 16 + r) = x := ofNat_eq (by omega)

theorem secondByte_eq {y : UInt8} {q r : ℕ} (hr : r < 4) :
    secondByte (q * 16 + y.toNat / 16) (y.toNat % 16 * 4 + r) = y := by
  have hy := y.toNat_lt
  exact ofNat_eq (by omega)

theorem thirdByte_eq {z : UInt8} {q : ℕ} : thirdByte (q * 4 + z.toNat / 64) (z.toNat % 64) = z := by
  have hz := z.toNat_lt
  exact ofNat_eq (by omega)

/-- **What was written is read back.** -/
theorem decode_encode (bytes : List UInt8) : decode (encode bytes) = some bytes := by
  induction bytes using encode.induct with
  | case1 => rfl
  | case2 x =>
    have hx := x.toNat_lt
    have hi : value? (digit (x.toNat / 4)) = some (x.toNat / 4) := value?_digit (by omega)
    have hj : value? (digit (x.toNat % 4 * 16)) = some (x.toNat % 4 * 16) := value?_digit (by omega)
    have h1 : firstByte (x.toNat / 4) (x.toNat % 4 * 16) = x := @firstByte_eq x 0 (by omega)
    simp only [encode, decode, hi, hj, Option.bind_eq_bind, Option.bind_some, and_self, if_true,
      Nat.mul_mod_left, h1]
  | case3 x y =>
    have hx := x.toNat_lt
    have hy := y.toNat_lt
    have hk : y.toNat % 16 * 4 < 64 := by omega
    have h1 : firstByte (x.toNat / 4) (x.toNat % 4 * 16 + y.toNat / 16) = x :=
      firstByte_eq (by omega)
    have h2 : secondByte (x.toNat % 4 * 16 + y.toNat / 16) (y.toNat % 16 * 4) = y :=
      @secondByte_eq y (x.toNat % 4) 0 (by omega)
    simp only [encode, decode, value?_digit (show x.toNat / 4 < 64 by omega),
      value?_digit (show x.toNat % 4 * 16 + y.toNat / 16 < 64 by omega), value?_digit hk,
      digit_ne hk, false_and, if_false, Option.bind_eq_bind, Option.bind_some, and_self, if_true,
      Nat.mul_mod_left, h1, h2]
  | case4 x y z bytes ih =>
    have hx := x.toNat_lt
    have hy := y.toNat_lt
    have hz := z.toNat_lt
    have hk : y.toNat % 16 * 4 + z.toNat / 64 < 64 := by omega
    have hl : z.toNat % 64 < 64 := by omega
    have h1 : firstByte (x.toNat / 4) (x.toNat % 4 * 16 + y.toNat / 16) = x :=
      firstByte_eq (by omega)
    have h2 : secondByte (x.toNat % 4 * 16 + y.toNat / 16)
        (y.toNat % 16 * 4 + z.toNat / 64) = y := secondByte_eq (by omega)
    simp only [encode, decode, value?_digit (show x.toNat / 4 < 64 by omega),
      value?_digit (show x.toNat % 4 * 16 + y.toNat / 16 < 64 by omega), value?_digit hk,
      value?_digit hl, digit_ne hk, digit_ne hl, false_and, if_false, Option.bind_eq_bind,
      Option.bind_some, ih, h1, h2, thirdByte_eq]

theorem mem_encode (bytes : List UInt8) : ∀ c ∈ encode bytes, c ∈ alphabet ∨ c = '=' := by
  induction bytes using encode.induct with
  | case1 => exact fun c hc => absurd hc List.not_mem_nil
  | case2 x =>
    have hx := x.toNat_lt
    intro c hc
    simp only [encode, List.mem_cons, List.not_mem_nil, or_false] at hc
    rcases hc with rfl | rfl | rfl | rfl
    · exact .inl (digit_mem (by omega))
    · exact .inl (digit_mem (by omega))
    · exact .inr rfl
    · exact .inr rfl
  | case3 x y =>
    have hx := x.toNat_lt
    have hy := y.toNat_lt
    intro c hc
    simp only [encode, List.mem_cons, List.not_mem_nil, or_false] at hc
    rcases hc with rfl | rfl | rfl | rfl
    · exact .inl (digit_mem (by omega))
    · exact .inl (digit_mem (by omega))
    · exact .inl (digit_mem (by omega))
    · exact .inr rfl
  | case4 x y z bytes ih =>
    have hx := x.toNat_lt
    have hy := y.toNat_lt
    have hz := z.toNat_lt
    intro c hc
    simp only [encode, List.mem_cons] at hc
    rcases hc with rfl | rfl | rfl | rfl | hc
    · exact .inl (digit_mem (by omega))
    · exact .inl (digit_mem (by omega))
    · exact .inl (digit_mem (by omega))
    · exact .inl (digit_mem (by omega))
    · exact ih c hc

theorem length_encode (bytes : List UInt8) :
    (encode bytes).length = (bytes.length + 2) / 3 * 4 := by
  induction bytes using encode.induct with
  | case1 => rfl
  | case2 x => simp only [encode, List.length_cons, List.length_nil]
  | case3 x y => simp only [encode, List.length_cons, List.length_nil]
  | case4 x y z bytes ih =>
    simp only [encode, List.length_cons, ih]
    omega

/-- The usual code. -/
def standard : Codec where
  encode := encode
  decode := decode
  decode_encode := decode_encode
  mem_encode := mem_encode
  length_encode := length_encode

example : standard.encode [0x30, 0x82, 0x01, 0x0a] = "MIIBCg==".toList := by decide +kernel

end Base64
