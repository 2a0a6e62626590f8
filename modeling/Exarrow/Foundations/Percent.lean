import Exarrow.Foundations.Numeral
import Exarrow.Foundations.Text

/-!
# Percent-encoding

A text is written with letters, digits and four marks only (`Percent.isUnreserved`) by replacing
the bytes of every other character by a percent sign and two digits (`Percent.encode`). Reading
puts the bytes back (`Percent.unescape`); a percent sign that no two digits follow stands for
itself.

**What was written reads back** (`Percent.unescape_encode`), the written text holds no separator
(`Percent.mem_encode`), and a text is written as itself exactly when all of its characters are
unreserved (`Percent.encode_eq_self_iff`).
-/

namespace Percent

open Numeral Text

/-- The characters that stand for themselves. -/
def isUnreserved (a : Char) : Bool :=
  a.isDigit || ('a' ≤ a && a ≤ 'z') || ('A' ≤ a && a ≤ 'Z') || a = '-' || a = '_' || a = '.' ||
    a = '~'

/-- A byte as a percent sign and two digits. -/
def escapeByte (b : UInt8) : List Char :=
  ['%', (Nat.digitChar (b.toNat / 16)).toUpper, (Nat.digitChar (b.toNat % 16)).toUpper]

/-- A character as it is written. -/
def encodeChar (a : Char) : List Char :=
  if isUnreserved a then [a] else (String.utf8EncodeChar a).flatMap escapeByte

/-- A text as it is written. -/
def encode (s : List Char) : List Char := s.flatMap encodeChar

/-- The byte that two digits stand for. -/
def byteOf? (x y : Char) : Option UInt8 := do
  let high ← hexDigitValue? x
  let low ← hexDigitValue? y
  return UInt8.ofNat (high * 16 + low)

/-- The bytes that a written text stands for. -/
def unescape : List Char → List UInt8
  | [] => []
  | '%' :: x :: y :: s =>
    match byteOf? x y with
    | some b => b :: unescape s
    | none => String.utf8EncodeChar '%' ++ unescape (x :: y :: s)
  | a :: s => String.utf8EncodeChar a ++ unescape s

/-! ### What is written -/

/-- A digit of base sixteen is unreserved. -/
theorem isUnreserved_digit : ∀ d < 16, isUnreserved (Nat.digitChar d).toUpper = true := by decide

/-- **A written text holds unreserved characters and percent signs only.** -/
theorem mem_encode {s : List Char} {a : Char} (h : a ∈ encode s) :
    isUnreserved a = true ∨ a = '%' := by
  obtain ⟨x, -, hx⟩ := List.mem_flatMap.mp h
  unfold encodeChar at hx
  split at hx
  · rename_i hu
    rw [List.mem_singleton] at hx
    exact .inl (hx ▸ hu)
  · obtain ⟨b, -, hb⟩ := List.mem_flatMap.mp hx
    have hlt : b.toNat < 256 := b.toNat_lt
    simp only [escapeByte, List.mem_cons, List.not_mem_nil, or_false] at hb
    rcases hb with rfl | rfl | rfl
    · exact .inr rfl
    · exact .inl (isUnreserved_digit _ (by omega))
    · exact .inl (isUnreserved_digit _ (Nat.mod_lt _ (by norm_num)))

/-- A separator is not in a written text. -/
theorem notMem_encode {s : List Char} {a : Char} (hu : isUnreserved a = false) (hp : a ≠ '%') :
    a ∉ encode s := by
  intro h
  rcases mem_encode h with h | h
  · exact Bool.false_ne_true (hu.symm.trans h)
  · exact hp h

@[simp] theorem encode_nil : encode [] = [] := rfl

@[simp] theorem encode_cons (a : Char) (s : List Char) :
    encode (a :: s) = encodeChar a ++ encode s := rfl

theorem encodeChar_of_isUnreserved {a : Char} (h : isUnreserved a = true) : encodeChar a = [a] :=
  if_pos h

/-- A character that is not unreserved is written with three characters or more. -/
theorem length_encodeChar {a : Char} (h : isUnreserved a = false) : 3 ≤ (encodeChar a).length := by
  have hne : String.utf8EncodeChar a ≠ [] := by
    intro hnil
    have hlen := congrArg List.length hnil
    rw [String.length_utf8EncodeChar, List.length_nil] at hlen
    exact absurd hlen a.utf8Size_pos.ne'
  obtain ⟨b, bs, hb⟩ := List.exists_cons_of_ne_nil hne
  rw [encodeChar, if_neg (by rw [h]; exact Bool.false_ne_true), hb, List.flatMap_cons,
    List.length_append]
  exact Nat.le_add_right 3 _

/-- No text is written shorter than it is. -/
theorem length_le_length_encode (s : List Char) : s.length ≤ (encode s).length := by
  induction s with
  | nil => exact Nat.le_refl _
  | cons a s ih =>
    have ha : 1 ≤ (encodeChar a).length := by
      cases hu : isUnreserved a with
      | true => rw [encodeChar_of_isUnreserved hu, List.length_singleton]
      | false => exact le_trans (by norm_num) (length_encodeChar hu)
    rw [encode_cons, List.length_append, List.length_cons]
    omega

@[simp] theorem encode_eq_nil {s : List Char} : encode s = [] ↔ s = [] := by
  constructor
  · intro h
    have hlen := length_le_length_encode s
    rw [h, List.length_nil, Nat.le_zero] at hlen
    exact List.length_eq_zero_iff.mp hlen
  · rintro rfl
    rfl

/-- **A text is written as itself exactly when its characters are unreserved.** -/
theorem encode_eq_self_iff {s : List Char} : encode s = s ↔ ∀ a ∈ s, isUnreserved a = true := by
  induction s with
  | nil => simp
  | cons a s ih =>
    rw [List.forall_mem_cons, ← ih, encode_cons]
    cases hu : isUnreserved a with
    | true => simp [encodeChar_of_isUnreserved hu]
    | false =>
      refine ⟨fun h => ?_, fun h => absurd h.1 Bool.false_ne_true⟩
      have hlen := congrArg List.length h
      have hthree := length_encodeChar hu
      have hrest := length_le_length_encode s
      rw [List.length_append, List.length_cons] at hlen
      omega

/-! ### Reading back -/

/-- Two written digits stand for their byte. -/
theorem byteOf?_digits (b : UInt8) :
    byteOf? (Nat.digitChar (b.toNat / 16)).toUpper (Nat.digitChar (b.toNat % 16)).toUpper
      = some b := by
  have hlt : b.toNat < 256 := b.toNat_lt
  have hvalue : b.toNat / 16 * 16 + b.toNat % 16 = b.toNat := by omega
  rw [byteOf?, hexDigitValue?_digitChar _ (by omega),
    hexDigitValue?_digitChar _ (Nat.mod_lt _ (by norm_num))]
  change some (UInt8.ofNat (b.toNat / 16 * 16 + b.toNat % 16)) = some b
  rw [hvalue, UInt8.ofNat_toNat]

theorem unescape_cons {a : Char} (h : a ≠ '%') (s : List Char) :
    unescape (a :: s) = String.utf8EncodeChar a ++ unescape s := by
  rw [unescape]
  intro x y t heq
  exact absurd heq h

theorem unescape_escapeByte (b : UInt8) (s : List Char) :
    unescape (escapeByte b ++ s) = b :: unescape s := by
  change unescape ('%' :: _ :: _ :: s) = _
  rw [unescape, byteOf?_digits]

theorem unescape_escapeBytes (bs : List UInt8) (s : List Char) :
    unescape (bs.flatMap escapeByte ++ s) = bs ++ unescape s := by
  induction bs with
  | nil => rfl
  | cons b bs ih =>
    rw [List.flatMap_cons, List.append_assoc, unescape_escapeByte, ih, List.cons_append]

/-- **What was written stands for the bytes of the text.** -/
theorem unescape_encode (s : List Char) : unescape (encode s) = bytes s := by
  induction s with
  | nil => rfl
  | cons a s ih =>
    have hbytes : bytes (a :: s) = String.utf8EncodeChar a ++ bytes s := rfl
    rw [encode_cons, hbytes, ← ih]
    cases hu : isUnreserved a with
    | true =>
      have hp : a ≠ '%' := by
        rintro rfl
        exact absurd hu (by decide)
      rw [encodeChar_of_isUnreserved hu, List.singleton_append, unescape_cons hp]
    | false =>
      rw [encodeChar, if_neg (by rw [hu]; exact Bool.false_ne_true), unescape_escapeBytes]

end Percent
