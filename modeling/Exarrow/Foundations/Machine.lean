import Mathlib.Data.Int.Basic
import Mathlib.Tactic.Ring
import Mathlib.Tactic.Linarith
import Mathlib.Tactic.NormNum

/-!
# Machine integers and their little-endian bytes

Fixed-width two's-complement integers as subtypes of `ℤ`, and the byte strings
that carry them on a wire. Two facts are what everything else uses:

* a signed integer of `8 * n` bits survives its `n` little-endian bytes
  (`Machine.ofLE_toLE`), so a reader that takes the right number of bytes gives
  back the number that was written;
* the bytes of an integer have exactly the announced length
  (`Machine.length_toLE`), so a sequence of such fields never loses its place.

The range of an integer type is carried by the value
(`Machine.SInt`), so a number that does not fit its type cannot be built; a cast
that drops bits is `Machine.SInt.wrap`, a checked one is `Machine.SInt.ofInt?`.
-/

namespace Machine

/-! ### Signed integers of a given width -/

/-- A two's-complement integer of `w` bits: an integer together with the proof
that it lies in the range of the type. -/
structure SInt (w : ℕ) where
  /-- The number itself. -/
  val : ℤ
  /-- It is at least the least value of the type. -/
  ge : -2 ^ (w - 1) ≤ val
  /-- It is at most the greatest value of the type. -/
  lt : val < 2 ^ (w - 1)
  deriving DecidableEq

namespace SInt

variable {w : ℕ}

/-- Two machine integers are equal as soon as their numbers are. -/
@[ext] theorem ext {a b : SInt w} (h : a.val = b.val) : a = b := by
  cases a
  cases b
  simpa using h

/-- The checked conversion: `none` when the number is outside the type. -/
def ofInt? (w : ℕ) (x : ℤ) : Option (SInt w) :=
  if h : -2 ^ (w - 1) ≤ x ∧ x < 2 ^ (w - 1) then some ⟨x, h.1, h.2⟩ else none

/-- A number in range converts to itself. -/
theorem ofInt?_eq_some {x : ℤ} {a : SInt w} : ofInt? w x = some a ↔ a.val = x := by
  unfold ofInt?
  constructor
  · intro h
    split at h
    · simpa using (congrArg SInt.val (Option.some.inj h)).symm
    · simp at h
  · rintro rfl
    rw [dif_pos ⟨a.ge, a.lt⟩]

/-- The conversion fails exactly outside the range. -/
theorem ofInt?_eq_none {x : ℤ} :
    ofInt? w x = none ↔ ¬(-2 ^ (w - 1) ≤ x ∧ x < 2 ^ (w - 1)) := by
  unfold ofInt?
  split <;> simp_all

/-- Converting the number of a machine integer gives the machine integer. -/
@[simp] theorem ofInt?_val (a : SInt w) : ofInt? w a.val = some a :=
  ofInt?_eq_some.mpr rfl

/-- The range of a type of positive width, in the shape `Int.bmod` speaks of. -/
theorem two_pow_pred_mul_two (hw : 0 < w) : (2 : ℤ) ^ (w - 1) * 2 = 2 ^ w := by
  rw [← pow_succ, Nat.sub_add_cancel hw]

/-! The widths of the machine integers, and which of them are wider. -/

theorem pos_8 : 0 < 8 := by decide
theorem pos_16 : 0 < 16 := by decide
theorem pos_32 : 0 < 32 := by decide
theorem pos_64 : 0 < 64 := by decide
theorem pos_128 : 0 < 128 := by decide
theorem le_8_32 : 8 ≤ 32 := by decide
theorem le_16_32 : 16 ≤ 32 := by decide
theorem le_16_64 : 16 ≤ 64 := by decide
theorem le_32_64 : 32 ≤ 64 := by decide
theorem le_32_128 : 32 ≤ 128 := by decide
theorem le_64_128 : 64 ≤ 128 := by decide

/-- Reducing modulo `2 ^ w` into the signed range: the wrapping cast. -/
def wrap (w : ℕ) (hw : 0 < w) (x : ℤ) : SInt w where
  val := x.bmod (2 ^ w)
  ge := by
    have h := Int.le_bmod (x := x) (m := 2 ^ w) (Nat.two_pow_pos w)
    have h2 := two_pow_pred_mul_two hw
    push_cast at h
    omega
  lt := by
    have h := Int.bmod_lt (x := x) (m := 2 ^ w) (Nat.two_pow_pos w)
    have h2 := two_pow_pred_mul_two hw
    push_cast at h
    omega

theorem val_wrap (hw : 0 < w) (x : ℤ) : (wrap w hw x).val = x.bmod (2 ^ w) := rfl

/-- A number in range is its own wrapped value. -/
theorem bmod_eq_self (hw : 0 < w) {x : ℤ} (h1 : -2 ^ (w - 1) ≤ x) (h2 : x < 2 ^ (w - 1)) :
    x.bmod (2 ^ w) = x := by
  have h := two_pow_pred_mul_two hw
  refine Int.bmod_eq_of_le ?_ ?_
  · push_cast
    omega
  · push_cast
    omega

/-- The wrapping cast of a number in range. -/
theorem val_wrap_of_mem (hw : 0 < w) {x : ℤ} (h1 : -2 ^ (w - 1) ≤ x) (h2 : x < 2 ^ (w - 1)) :
    (wrap w hw x).val = x := bmod_eq_self hw h1 h2

/-- Reduction to fewer bits and to more bits agree exactly when the latter leaves
a number of fewer bits. -/
theorem bmod_eq_bmod_iff {v : ℕ} (hv : 0 < v) (hvw : v ≤ w) (x : ℤ) :
    x.bmod (2 ^ v) = x.bmod (2 ^ w) ↔
      -2 ^ (v - 1) ≤ x.bmod (2 ^ w) ∧ x.bmod (2 ^ w) < 2 ^ (v - 1) := by
  constructor
  · intro h
    rw [← h]
    exact ⟨(wrap v hv x).ge, (wrap v hv x).lt⟩
  · rintro ⟨h1, h2⟩
    rw [← bmod_eq_self hv h1 h2, Int.bmod_bmod_of_dvd (Nat.pow_dvd_pow 2 hvw)]

/-- Wrapping a number that already is a machine integer changes nothing. -/
theorem wrap_val (hw : 0 < w) (a : SInt w) : wrap w hw a.val = a :=
  SInt.ext (bmod_eq_self hw a.ge a.lt)

/-- The same number in a wider type. -/
def extend (v : ℕ) (h : w ≤ v) (a : SInt w) : SInt v where
  val := a.val
  ge := by
    have hpow : (2 : ℤ) ^ (w - 1) ≤ 2 ^ (v - 1) :=
      pow_le_pow_right₀ one_le_two (Nat.sub_le_sub_right h 1)
    exact le_trans (neg_le_neg hpow) a.ge
  lt := lt_of_lt_of_le a.lt (pow_le_pow_right₀ one_le_two (Nat.sub_le_sub_right h 1))

@[simp] theorem val_extend {v : ℕ} (h : w ≤ v) (a : SInt w) : (a.extend v h).val = a.val := rfl

/-- A number is in the range of the type. -/
def Fits (w : ℕ) (x : ℤ) : Prop := -2 ^ (w - 1) ≤ x ∧ x < 2 ^ (w - 1)

instance (w : ℕ) (x : ℤ) : Decidable (Fits w x) := inferInstanceAs (Decidable (_ ∧ _))

/-- A number between a machine integer and zero is in range. -/
theorem mem_range_of_between (a : SInt w) {x : ℤ} (h1 : min a.val 0 ≤ x) (h2 : x ≤ max a.val 0) :
    -2 ^ (w - 1) ≤ x ∧ x < 2 ^ (w - 1) := by
  have hpos : (0 : ℤ) < 2 ^ (w - 1) := by positivity
  have hge := a.ge
  have hlt := a.lt
  omega

/-- The quotient by a natural, rounded downwards. -/
def divEuclid (a : SInt w) (n : ℕ) : SInt w :=
  have h : min a.val 0 ≤ a.val / n ∧ a.val / n ≤ max a.val 0 := by
    rcases Nat.eq_zero_or_pos n with rfl | hn
    · simp
    · have hn' : (1 : ℤ) ≤ n := by exact_mod_cast hn
      rcases le_total 0 a.val with ha | ha
      · exact ⟨le_trans (min_le_right ..) (Int.ediv_nonneg ha (by omega)),
          le_trans (Int.ediv_le_self _ ha) (le_max_left ..)⟩
      · refine ⟨le_trans (min_le_left ..) (Int.le_ediv_of_mul_le (by omega) ?_),
          le_trans (Int.ediv_nonpos_of_nonpos_of_neg ha (by omega)) (le_max_right ..)⟩
        nlinarith
  ⟨a.val / n, (a.mem_range_of_between h.1 h.2).1, (a.mem_range_of_between h.1 h.2).2⟩

@[simp] theorem val_divEuclid (a : SInt w) (n : ℕ) : (a.divEuclid n).val = a.val / n := rfl

/-- The quotient by a natural, rounded towards zero. -/
def divTrunc (a : SInt w) (n : ℕ) : SInt w :=
  have h : min a.val 0 ≤ a.val.tdiv n ∧ a.val.tdiv n ≤ max a.val 0 := by
    rcases le_total 0 a.val with ha | ha
    · exact ⟨le_trans (min_le_right ..) (Int.tdiv_nonneg ha (Int.natCast_nonneg n)),
        le_trans (Int.tdiv_le_self _ ha) (le_max_left ..)⟩
    · have hneg : 0 ≤ -a.val := by omega
      have h1 := Int.tdiv_nonneg hneg (Int.natCast_nonneg n)
      have h2 := Int.tdiv_le_self (n : ℤ) hneg
      rw [Int.neg_tdiv] at h1 h2
      omega
  ⟨a.val.tdiv n, (a.mem_range_of_between h.1 h.2).1, (a.mem_range_of_between h.1 h.2).2⟩

@[simp] theorem val_divTrunc (a : SInt w) (n : ℕ) : (a.divTrunc n).val = a.val.tdiv n := rfl

/-- Machine integers are ordered as their numbers are. -/
instance {w : ℕ} : LinearOrder (SInt w) := LinearOrder.lift' SInt.val fun _ _ => SInt.ext

end SInt

/-- Bytes are linearly ordered, with the comparisons they come with. -/
instance linearOrderUInt8 : LinearOrder UInt8 where
  le_refl := UInt8.le_refl
  le_trans _ _ _ := UInt8.le_trans
  le_antisymm _ _ := UInt8.le_antisymm
  le_total := UInt8.le_total
  lt_iff_le_not_ge a b := by
    simp only [UInt8.lt_iff_toNat_lt, UInt8.le_iff_toNat_le]
    omega
  toDecidableLE := inferInstance
  max_def _ _ := rfl
  min_def _ _ := rfl

/-! ### Little-endian bytes of naturals -/

/-- The natural that a byte string denotes, least significant byte first. -/
def natOfLE : List UInt8 → ℕ
  | [] => 0
  | b :: bs => b.toNat + 256 * natOfLE bs

/-- The `n` least significant bytes of a natural, least significant first. -/
def natToLE : ℕ → ℕ → List UInt8
  | 0, _ => []
  | n + 1, x => UInt8.ofNat (x % 256) :: natToLE n (x / 256)

@[simp] theorem length_natToLE (n x : ℕ) : (natToLE n x).length = n := by
  induction n generalizing x with
  | zero => rfl
  | succ n ih => rw [natToLE, List.length_cons, ih]

/-- Reading back the bytes of a natural gives its remainder. -/
theorem natOfLE_natToLE (n x : ℕ) : natOfLE (natToLE n x) = x % 256 ^ n := by
  induction n generalizing x with
  | zero => rw [natToLE, natOfLE, pow_zero, Nat.mod_one]
  | succ n ih =>
    have h : (UInt8.ofNat (x % 256)).toNat = x % 256 := by
      rw [UInt8.toNat_ofNat']
      exact Nat.mod_eq_of_lt (Nat.mod_lt x (by norm_num))
    rw [natToLE, natOfLE, h, ih, pow_succ', Nat.mod_mul]

theorem natOfLE_lt (bs : List UInt8) : natOfLE bs < 256 ^ bs.length := by
  induction bs with
  | nil => exact Nat.one_pos
  | cons b bs ih =>
    have hb := b.toNat_lt
    rw [natOfLE, List.length_cons, pow_succ]
    omega

/-- Bytes behind others count more by the length of these. -/
theorem natOfLE_append (as bs : List UInt8) :
    natOfLE (as ++ bs) = natOfLE as + 256 ^ as.length * natOfLE bs := by
  induction as with
  | nil => rw [List.nil_append, List.length_nil, pow_zero, one_mul, natOfLE, zero_add]
  | cons a as ih =>
    rw [List.cons_append, natOfLE, natOfLE, ih, List.length_cons, pow_succ]
    ring

/-- The bytes of the natural that a byte string denotes are that string. -/
theorem natToLE_natOfLE (bs : List UInt8) : natToLE bs.length (natOfLE bs) = bs := by
  induction bs with
  | nil => rfl
  | cons b bs ih =>
    have hb := b.toNat_lt
    have hmod : (b.toNat + 256 * natOfLE bs) % 256 = b.toNat := by omega
    have hdiv : (b.toNat + 256 * natOfLE bs) / 256 = natOfLE bs := by omega
    rw [List.length_cons, natOfLE, natToLE, hmod, hdiv, ih, UInt8.ofNat_toNat]

/-! ### Little-endian bytes of signed integers -/

/-- The signed integer that a byte string denotes in two's complement. -/
def ofLE (bs : List UInt8) : ℤ := (natOfLE bs : ℤ).bmod (2 ^ (8 * bs.length))

/-- The `n` little-endian bytes of an integer in two's complement. -/
def toLE (n : ℕ) (x : ℤ) : List UInt8 := natToLE n (x % 2 ^ (8 * n)).toNat

@[simp] theorem length_toLE (n : ℕ) (x : ℤ) : (toLE n x).length = n := length_natToLE _ _

/-- **Little-endian bytes carry an integer that fits them.** -/
theorem ofLE_toLE {n : ℕ} (hn : 0 < n) (a : SInt (8 * n)) : ofLE (toLE n a.val) = a.val := by
  have hpow : (256 : ℕ) ^ n = 2 ^ (8 * n) := by rw [pow_mul]; norm_num
  have hpos : (0 : ℤ) < 2 ^ (8 * n) := by positivity
  have hlt : (a.val % 2 ^ (8 * n)).toNat < 256 ^ n := by
    have h1 := Int.emod_lt_of_pos a.val hpos
    have h2 := Int.emod_nonneg a.val hpos.ne'
    zify
    rw [Int.toNat_of_nonneg h2]
    have h3 : ((256 : ℤ)) ^ n = 2 ^ (8 * n) := by exact_mod_cast hpow
    rw [h3]
    exact h1
  have hcast : ((natOfLE (toLE n a.val) : ℕ) : ℤ) = a.val % 2 ^ (8 * n) := by
    rw [toLE, natOfLE_natToLE, Nat.mod_eq_of_lt hlt]
    exact Int.toNat_of_nonneg (Int.emod_nonneg a.val hpos.ne')
  rw [ofLE, hcast, length_toLE]
  have h := Int.emod_bmod a.val (2 ^ (8 * n))
  push_cast at h
  rw [h]
  exact SInt.bmod_eq_self (by omega) a.ge a.lt

/-- Every byte string denotes an integer of its width. -/
theorem exists_toLE_eq {n : ℕ} (hn : 0 < n) {bs : List UInt8} (h : bs.length = n) :
    ∃ a : SInt (8 * n), toLE n a.val = bs := by
  subst h
  refine ⟨SInt.wrap (8 * bs.length) (by omega) (natOfLE bs), ?_⟩
  have hlt : (natOfLE bs : ℤ) < 2 ^ (8 * bs.length) := by
    have h := natOfLE_lt bs
    rw [show (256 : ℕ) = 2 ^ 8 from rfl, ← pow_mul] at h
    exact_mod_cast h
  have hmod : (natOfLE bs : ℤ).bmod (2 ^ (8 * bs.length)) % 2 ^ (8 * bs.length) = natOfLE bs := by
    have h := @Int.bmod_emod (natOfLE bs) (2 ^ (8 * bs.length))
    push_cast at h
    rw [h]
    exact Int.emod_eq_of_lt (Int.natCast_nonneg _) hlt
  rw [toLE, SInt.val_wrap, hmod, Int.toNat_natCast, natToLE_natOfLE]

end Machine
