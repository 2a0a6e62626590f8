import Mathlib.Data.UInt
import Mathlib.Tactic.Common

/-!
# Stream ciphers

A stream cipher combines data with the bytes that a key yields, one after the other, and
remembers how far it has come (`Keystream.Cipher`). What the bytes are is not fixed here.

* `Keystream.Cipher.apply` – the data that a cipher makes of data. It has the same length
  (`Keystream.Cipher.length_apply`), and **the same cipher makes the data of it again**
  (`Keystream.Cipher.apply_apply`).
* `Keystream.Cipher.advance` – the cipher after so many bytes. Data in pieces is made into
  the pieces of what the whole is made into (`Keystream.Cipher.apply_append`), so two ends
  that advance by the same messages stay together.
-/

namespace Keystream

/-- A stream cipher: its key, and the number of bytes that it has combined. -/
structure Cipher where
  key : List UInt8
  position : ℕ := 0
  deriving DecidableEq

namespace Cipher

/-- The bytes that a key yields. -/
abbrev Stream : Type := List UInt8 → ℕ → UInt8

variable (stream : Stream)

/-- Combine data with the bytes of the key. -/
def apply (c : Cipher) (data : List UInt8) : List UInt8 :=
  data.mapIdx fun i b => b ^^^ stream c.key (c.position + i)

/-- The cipher after so many bytes. -/
def advance (c : Cipher) (n : ℕ) : Cipher := { c with position := c.position + n }

variable {stream}

@[simp] theorem length_apply (c : Cipher) (data : List UInt8) :
    (c.apply stream data).length = data.length := List.length_mapIdx

@[simp] theorem apply_nil (c : Cipher) : c.apply stream [] = [] := rfl

theorem advance_advance (c : Cipher) (m n : ℕ) : (c.advance m).advance n = c.advance (m + n) := by
  unfold advance
  rw [Nat.add_assoc]

/-- **The same cipher makes the data again.** -/
@[simp] theorem apply_apply (c : Cipher) (data : List UInt8) :
    c.apply stream (c.apply stream data) = data := by
  unfold apply
  rw [List.mapIdx_mapIdx]
  refine List.ext_getElem (by simp) fun i h1 h2 => ?_
  simp [UInt8.xor_assoc]

/-- **Data in pieces** is made into pieces. -/
theorem apply_append (c : Cipher) (xs ys : List UInt8) :
    c.apply stream (xs ++ ys) = c.apply stream xs ++ (c.advance xs.length).apply stream ys := by
  unfold apply advance
  rw [List.mapIdx_append]
  refine congrArg _ (List.ext_getElem (by simp) fun i h1 h2 => ?_)
  simp only [List.getElem_mapIdx]
  rw [Nat.add_comm i, Nat.add_assoc]

end Cipher

end Keystream
