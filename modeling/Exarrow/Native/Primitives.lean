import Exarrow.Conversion
import Exarrow.Error
import Exarrow.Foundations.Reader
import Exarrow.Foundations.Text
import Exarrow.Types

/-!
# Primitive readers of the native protocol

The numbers, bytes and texts of which native messages are made, little-endian. A reader
fails with a protocol error when the message is too short
(`Exarrow.Native.readInt`, `Exarrow.Native.readFloat`). A length is read as a signed
number and used as a size (`Exarrow.Native.readBytes`): **adding it to the offset is the
one addition that can overflow**, and it stops the program (`Exarrow.Native.Guard.advance`).
Where a build wraps instead, the end of the slice comes before its beginning, which stops
the program as well, or the offset moves back.

What is reserved for a message is asked of `Exarrow.Native.Libraries`, which also knows the
texts of the errors of other libraries.

Each primitive reads back what was written for it, wherever it stands
(`Exarrow.Native.reads_int`, `Exarrow.Native.reads_float`, `Exarrow.Native.reads_bytes`).
-/

namespace Exarrow.Native

open Machine Ieee Checked Arrow Wire

/-! ### Guards -/

/-- Memory that is reserved before its contents are read. -/
inductive Reservation where
  /-- Descriptions of columns. -/
  | columns (count : ℕ)
  /-- Values of a column. -/
  | values (dataType : DataType) (count : ℕ)
  deriving DecidableEq

/-- What the parser takes from the libraries it is built on. -/
structure Libraries where
  /-- What arithmetic does when a result does not fit. -/
  overflow : Overflow
  /-- Whether memory can be reserved. -/
  grants : Reservation → Bool
  /-- No allocation is larger than half of the address space. -/
  columns_lt : ∀ n, grants (.columns n) = true → n < 2 ^ 63
  /-- The text of an Arrow error. -/
  arrowErrorText : ArrowError → String
  /-- The text of the error for bytes that are not UTF-8. -/
  utf8ErrorText : List UInt8 → String

/-- Libraries that reserve what can be reserved. -/
def plainLibraries : Libraries where
  overflow := .panics
  grants
    | .columns n => decide (n < 2 ^ 63)
    | .values .. => true
  columns_lt _ h := of_decide_eq_true h
  arrowErrorText _ := "invalid argument"
  utf8ErrorText _ := "invalid utf-8"

/-- A place at which the parser stops unless its numbers are in range. -/
inductive Guard where
  /-- A length is added to an offset. -/
  | advance (offset : ℕ) (len : SInt 32)
  /-- The count of columns is reserved. -/
  | columns (count : SInt 32)
  /-- The size of the values of a column is estimated. -/
  | estimate (rows : ℕ)
  /-- The values of a column are reserved. -/
  | values (dataType : DataType) (rows : ℕ)
  /-- The end of a value is noted in the 32-bit offsets of a column. -/
  | valueEnd (total : ℕ)
  /-- The days of a date are counted. -/
  | day (year : SInt 16) (month day : UInt8)
  /-- The microseconds of a timestamp are counted. -/
  | instant (year : SInt 16) (month day hour minute second : UInt8) (nanos : SInt 32)
  /-- The text of an interval is read. -/
  | interval (text : List Char)
  deriving DecidableEq

/-- The days of a date. -/
def daysOf (ov : Overflow) (year : SInt 16) (month day : UInt8) : Exec Empty (SInt 32) :=
  ymdToDays ov (year.extend 32 SInt.le_16_32) month.toNat day.toNat

/-- The microseconds of a timestamp. -/
def microsOf (ov : Overflow) (year : SInt 16) (month day hour minute second : UInt8)
    (nanos : SInt 32) : Exec Empty (SInt 64) :=
  ymdHmsNanosToMicros ov (year.extend 32 SInt.le_16_32) month.toNat day.toNat hour.toNat
    minute.toNat second.toNat nanos

/-- The program is not stopped by a computation. -/
def returns {ε α : Type} : Exec ε α → Bool
  | .error .panic => false
  | _ => true

/-- Whether the program goes on at a guard. -/
def Guard.holds (lib : Libraries) : Guard → Bool
  | advance offset len => decide (offset + asUsize len.val < 2 ^ 64)
  | columns count => lib.grants (.columns (asUsize count.val))
  | estimate rows => decide (rows * 16 < 2 ^ 64)
  | values dataType rows => lib.grants (.values dataType rows)
  | valueEnd total => decide (total < 2 ^ 31)
  | .day y m d => returns (daysOf lib.overflow y m d)
  | instant y m d hour minute second nanos =>
    returns (microsOf lib.overflow y m d hour minute second nanos)
  | interval text => returns (parseInterval lib.overflow text)

/-- A part of the parser. -/
abbrev Parse (α : Type) := Reader Guard TransportError α

/-! ### Readers -/

/-- The error of a message that ends too early. -/
def truncated (what : String) : TransportError :=
  .protocolError ("Data truncated (" ++ what ++ ")")

/-- Read a byte. -/
def readU8 : Parse UInt8 := .take 1 (truncated "u8") fun bs => .done (bs.headD 0)

/-- Read a signed integer of `w` bits, that is `n` bytes. -/
def readInt (w n : ℕ) (hw : 0 < w) (what : String) : Parse (SInt w) :=
  .take n (truncated what) fun bs => .done (SInt.wrap w hw (natOfLE bs))

/-- Read 16 bits. -/
def readI16 : Parse (SInt 16) := readInt 16 2 (by norm_num) "i16"

/-- Read 32 bits. -/
def readI32 : Parse (SInt 32) := readInt 32 4 (by norm_num) "i32"

/-- Read 64 bits. -/
def readI64 : Parse (SInt 64) := readInt 64 8 (by norm_num) "i64"

/-- Read 128 bits. -/
def readI128 : Parse (SInt 128) := readInt 128 16 (by norm_num) "i128"

/-- The bytes of a float. -/
def floatToLE {fb eb : ℕ} (n : ℕ) (x : Pattern fb eb) : List UInt8 := natToLE n x.bits

/-- Read a float of `n` bytes. -/
def readFloat (fb eb n : ℕ) (what : String) : Parse (Pattern fb eb) :=
  .take n (truncated what) fun bs =>
    .done ⟨natOfLE bs % 2 ^ (fb + eb + 1), Nat.mod_lt _ (Nat.two_pow_pos _)⟩

/-- Read a double. -/
def readF64 : Parse F64 := readFloat 52 11 8 "f64"

/-- Read a single. -/
def readF32 : Parse F32 := readFloat 23 8 4 "f32"

/-- Take bytes of a length that was read before. -/
def takeBytes (len : SInt 32) (tooShort : TransportError) : Parse (List UInt8) :=
  .offset fun o => .guard (.advance o len) (.take (asUsize len.val) tooShort .done)

/-- Read bytes after their length. -/
def readBytes (tooShort : TransportError) : Parse (List UInt8) := do
  let len ← readI32
  takeBytes len tooShort

/-- The bytes as a text, or else an error. -/
def decodeText (e : TransportError) (bs : List UInt8) : Parse String :=
  match Text.decode? bs with
  | some s => .done (String.ofList s)
  | none => .fail e

/-- Read what is left. -/
def readRest : Parse (List UInt8) :=
  .remaining fun r => .take r (truncated "u8") .done

/-! ### Reading back -/

section Reads

variable {lib : Libraries} {limit : ℕ}

theorem reads_u8 (b : UInt8) : Reads (Guard.holds lib) limit readU8 [b] b :=
  @Reads.take _ _ _ _ _ _ [b] _ _ .done

/-- **An integer is read back from its bytes.** -/
theorem reads_int {w n : ℕ} (hw : 0 < w) (h : 8 * n = w) (what : String) (a : SInt w) :
    Reads (Guard.holds lib) limit (readInt w n hw what) (toLE n a.val) a := by
  subst h
  have hvalue : SInt.wrap (8 * n) hw (natOfLE (toLE n a.val)) = a := by
    refine SInt.ext ?_
    have hread := ofLE_toLE (by omega) a
    rw [ofLE, length_toLE] at hread
    exact hread
  have hlen : (toLE n a.val).length = n := length_toLE n a.val
  have hreads : Reads (Guard.holds lib) limit (.take (toLE n a.val).length (truncated what)
      fun bs => .done (SInt.wrap (8 * n) hw (natOfLE bs))) (toLE n a.val) a := by
    refine .take ?_
    rw [hvalue]
    exact .done
  rwa [hlen] at hreads

theorem reads_i16 (a : SInt 16) : Reads (Guard.holds lib) limit readI16 (toLE 2 a.val) a :=
  @reads_int lib limit 16 2 (by norm_num) rfl "i16" a

theorem reads_i32 (a : SInt 32) : Reads (Guard.holds lib) limit readI32 (toLE 4 a.val) a :=
  @reads_int lib limit 32 4 (by norm_num) rfl "i32" a

theorem reads_i64 (a : SInt 64) : Reads (Guard.holds lib) limit readI64 (toLE 8 a.val) a :=
  @reads_int lib limit 64 8 (by norm_num) rfl "i64" a

theorem reads_i128 (a : SInt 128) : Reads (Guard.holds lib) limit readI128 (toLE 16 a.val) a :=
  @reads_int lib limit 128 16 (by norm_num) rfl "i128" a

/-- **A float is read back from its bytes**, bit by bit. -/
theorem reads_float {fb eb n : ℕ} (h : 8 * n = fb + eb + 1) (what : String) (x : Pattern fb eb) :
    Reads (Guard.holds lib) limit (readFloat fb eb n what) (floatToLE n x) x := by
  have hpow : 256 ^ n = 2 ^ (fb + eb + 1) := by
    rw [← h, pow_mul]
    norm_num
  have hbits : natOfLE (floatToLE n x) % 2 ^ (fb + eb + 1) = x.bits := by
    rw [floatToLE, natOfLE_natToLE, hpow, Nat.mod_mod, Nat.mod_eq_of_lt x.lt]
  have hlen : (floatToLE n x).length = n := length_natToLE n x.bits
  have hx : (⟨natOfLE (floatToLE n x) % 2 ^ (fb + eb + 1), Nat.mod_lt _ (Nat.two_pow_pos _)⟩ :
      Pattern fb eb) = x := by
    cases x
    exact (Pattern.mk.injEq ..).mpr hbits
  have hreads : Reads (Guard.holds lib) limit (.take (floatToLE n x).length (truncated what)
      fun bs => .done ⟨natOfLE bs % 2 ^ (fb + eb + 1), Nat.mod_lt _ (Nat.two_pow_pos _)⟩)
      (floatToLE n x) x := by
    refine .take ?_
    rw [hx]
    exact .done
  rwa [hlen] at hreads

theorem reads_f64 (x : F64) : Reads (Guard.holds lib) limit readF64 (floatToLE 8 x) x :=
  reads_float rfl _ x

theorem reads_f32 (x : F32) : Reads (Guard.holds lib) limit readF32 (floatToLE 4 x) x :=
  reads_float rfl _ x

/-- A length that fits 32 bits. -/
def lengthOf (bs : List UInt8) (h : bs.length < 2 ^ 31) : SInt 32 :=
  ⟨bs.length, by have := Int.natCast_nonneg bs.length; norm_num, by exact_mod_cast h⟩

/-- The bytes of a byte string after its length. -/
def prefixed (bs : List UInt8) : List UInt8 := toLE 4 bs.length ++ bs

/-- **Bytes are read back after their length.** -/
theorem reads_bytes (hlimit : limit ≤ 2 ^ 63) (tooShort : TransportError) {bs : List UInt8}
    (h : bs.length < 2 ^ 31) :
    Reads (Guard.holds lib) limit (readBytes tooShort) (prefixed bs) bs := by
  have hsize : asUsize (lengthOf bs h).val = bs.length := by
    show ((bs.length : ℤ) % 2 ^ 64).toNat = bs.length
    omega
  have htake : Reads (Guard.holds lib) limit (takeBytes (lengthOf bs h) tooShort) bs bs := by
    intro o post hlt
    have hfits : o + asUsize (lengthOf bs h).val < 2 ^ 64 := by
      rw [hsize]
      omega
    have hguard : (Guard.advance o (lengthOf bs h)).holds lib = true := decide_eq_true hfits
    have hread : Reads (Guard.holds lib) limit
        (.guard (.advance o (lengthOf bs h)) (.take bs.length tooShort .done)) bs bs :=
      .guard hguard (.take .done)
    rw [← hsize] at hread
    exact hread o post hlt
  exact (reads_i32 (lengthOf bs h)).bind htake

/-- The bytes of a text are decoded as that text. -/
theorem reads_decodeText (e : TransportError) (s : String) :
    Reads (Guard.holds lib) limit (decodeText e (Text.bytes s.toList)) [] s := by
  unfold decodeText
  rw [Text.decode?_bytes]
  dsimp only
  rw [String.ofList_toList]
  exact .done

end Reads

end Exarrow.Native
