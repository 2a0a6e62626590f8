import Mathlib.Algebra.GCDMonoid.Nat
import Mathlib.FieldTheory.Finite.Basic

/-!
# Powers that undo each other

A modulus is the product of two primes, and two exponents undo each other: their product leaves the
remainder 1 in the least common multiple of what the primes are the successors of
(`Rsa.KeyPair`). **A number below the modulus is the power of its power**
(`Rsa.KeyPair.decrypt_encrypt`), whatever it has in common with the modulus.
-/

namespace Rsa

/-- A modulus with two exponents. -/
structure KeyPair where
  p : ℕ
  q : ℕ
  /-- The exponent that everyone knows. -/
  e : ℕ
  /-- The exponent that one side knows. -/
  d : ℕ
  prime_p : p.Prime
  prime_q : q.Prime
  distinct : p ≠ q
  inverse : e * d % Nat.lcm (p - 1) (q - 1) = 1

namespace KeyPair

variable (key : KeyPair)

/-- The modulus. -/
def modulus : ℕ := key.p * key.q

/-- The power that everyone can take. -/
def encrypt (m : ℕ) : ℕ := m ^ key.e % key.modulus

/-- The power that one side can take. -/
def decrypt (c : ℕ) : ℕ := c ^ key.d % key.modulus

theorem modulus_pos : 0 < key.modulus := Nat.mul_pos key.prime_p.pos key.prime_q.pos

/-- **A power with the remainder 1 is the number itself**, in the remainders of a prime. -/
theorem modEq_pow {p : ℕ} (hp : p.Prime) {k : ℕ} (hk : k % (p - 1) = 1 % (p - 1)) (hpos : 0 < k)
    (m : ℕ) : m ^ k ≡ m [MOD p] := by
  have : Fact p.Prime := ⟨hp⟩
  rw [← ZMod.natCast_eq_natCast_iff, Nat.cast_pow]
  by_cases hm : (m : ZMod p) = 0
  · rw [hm, zero_pow hpos.ne']
  · obtain ⟨j, hj⟩ : ∃ j, k = 1 + (p - 1) * j := by
      obtain ⟨j, hj⟩ := (Nat.modEq_iff_dvd' hpos).mp (show 1 ≡ k [MOD p - 1] from hk.symm)
      exact ⟨j, by omega⟩
    rw [hj, pow_add, pow_one, pow_mul, ZMod.pow_card_sub_one_eq_one hm, one_pow, mul_one]

/-- The exponents undo each other in the remainders of both primes. -/
theorem exponents_pos : 0 < key.e * key.d := by
  refine Nat.pos_of_ne_zero fun hzero => ?_
  have hinverse := key.inverse
  rw [hzero, Nat.zero_mod] at hinverse
  cases hinverse

theorem mod_of_dvd {r : ℕ} (h : r ∣ Nat.lcm (key.p - 1) (key.q - 1)) :
    key.e * key.d % r = 1 % r := by
  rw [← Nat.mod_mod_of_dvd _ h, key.inverse]

/-- **What was encrypted is decrypted.** -/
theorem decrypt_encrypt {m : ℕ} (hm : m < key.modulus) : key.decrypt (key.encrypt m) = m := by
  have hp : m ^ (key.e * key.d) ≡ m [MOD key.p] :=
    modEq_pow key.prime_p (key.mod_of_dvd (Nat.dvd_lcm_left _ _)) key.exponents_pos m
  have hq : m ^ (key.e * key.d) ≡ m [MOD key.q] :=
    modEq_pow key.prime_q (key.mod_of_dvd (Nat.dvd_lcm_right _ _)) key.exponents_pos m
  have hcoprime : key.p.Coprime key.q :=
    (Nat.coprime_primes key.prime_p key.prime_q).mpr key.distinct
  have hboth : m ^ (key.e * key.d) ≡ m [MOD key.modulus] :=
    (Nat.modEq_and_modEq_iff_modEq_mul hcoprime).mp ⟨hp, hq⟩
  calc key.decrypt (key.encrypt m) = (m ^ key.e) ^ key.d % key.modulus := (Nat.pow_mod ..).symm
    _ = m ^ (key.e * key.d) % key.modulus := by rw [pow_mul]
    _ = m % key.modulus := hboth
    _ = m := Nat.mod_eq_of_lt hm

end KeyPair

end Rsa
