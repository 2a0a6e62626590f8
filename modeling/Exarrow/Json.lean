import Exarrow.Foundations.Ieee
import Exarrow.Foundations.Machine

/-!
# JSON values

The JSON values that carry result data and statement parameters. A number is an
unsigned or a negative integer of 64 bits or a finite 64-bit float
(`Exarrow.Json.Number`), which is what a JSON text can hold: `Exarrow.Json.ofFloat`
turns a float into a value, and a float without a JSON form becomes `null`.
-/

namespace Exarrow.Json

open Machine Ieee

/-- A JSON number. -/
inductive Number where
  /-- An integer from zero upwards. -/
  | posInt (n : ℕ) (lt : n < 2 ^ 64)
  /-- A negative integer. -/
  | negInt (n : SInt 64) (neg : n.val < 0)
  /-- A finite float. -/
  | float (f : F64) (finite : f.isFinite = true)
  deriving DecidableEq

/-- A JSON value. -/
inductive Value where
  | null
  | bool (b : Bool)
  | number (n : Number)
  | string (s : String)
  | array (items : List Value)
  | object (members : List (String × Value))

/-- The number as a signed integer, if it is one of 64 bits. -/
def Number.asI64 : Number → Option (SInt 64)
  | .posInt n _ => SInt.ofInt? 64 n
  | .negInt n _ => some n
  | .float .. => none

/-- The number as a float; an integer is rounded. -/
def Number.asF64 : Number → F64
  | .posInt n _ => F64.ofInt n
  | .negInt n _ => F64.ofInt n.val
  | .float f _ => f

namespace Value

/-- Whether the value is `null`. -/
def isNull : Value → Bool
  | null => true
  | _ => false

/-- The value as a boolean. -/
def asBool : Value → Option Bool
  | bool b => some b
  | _ => none

/-- The value as a signed integer. -/
def asI64 : Value → Option (SInt 64)
  | number n => n.asI64
  | _ => none

/-- The value as a float. -/
def asF64 : Value → Option F64
  | number n => some n.asF64
  | _ => none

/-- The value as a string. -/
def asStr : Value → Option String
  | string s => some s
  | _ => none

end Value

/-- A signed integer as a value. -/
def ofI64 (n : SInt 64) : Value :=
  if h : n.val < 0 then .number (.negInt n h)
  else .number (.posInt n.val.toNat (by have := n.lt; omega))

/-- A float as a value; JSON has no infinity and no not-a-number. -/
def ofFloat (f : F64) : Value :=
  if h : f.isFinite = true then .number (.float f h) else .null

/-- A signed integer survives. -/
@[simp] theorem asI64_ofI64 (n : SInt 64) : (ofI64 n).asI64 = some n := by
  unfold ofI64
  split
  · rfl
  · rename_i h
    rw [Value.asI64, Number.asI64, SInt.ofInt?_eq_some]
    omega

/-- A finite float survives. -/
theorem asF64_ofFloat {f : F64} (h : f.isFinite = true) : (ofFloat f).asF64 = some f := by
  unfold ofFloat
  rw [dif_pos h]
  rfl

/-- **A float becomes `null` exactly when it is not finite.** -/
theorem isNull_ofFloat (f : F64) : (ofFloat f).isNull = !f.isFinite := by
  unfold ofFloat
  split
  · rename_i h
    rw [h]
    rfl
  · rename_i h
    rw [Bool.not_eq_true] at h
    rw [h]
    rfl

end Exarrow.Json
