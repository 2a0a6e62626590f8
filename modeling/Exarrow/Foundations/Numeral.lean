import Mathlib.Data.Rat.Defs
import Mathlib.Algebra.Order.Field.Rat
import Mathlib.Data.List.Basic
import Mathlib.Tactic.Ring

/-!
# Numbers as decimal text

Printing and reading of numbers in base ten, on lists of characters.

* `Numeral.natText`, `Numeral.intText` and `Numeral.pad` print; a padded text is
  filled with zeros on the left.
* `Numeral.parseNat?` and `Numeral.parseInt?` read: digits only, an integer with
  an optional sign. They invert the printers (`Numeral.parseNat?_natText`,
  `Numeral.parseInt?_intText`, `Numeral.parseNat?_pad`).
* `Numeral.value?` is the rational number that a decimal text denotes: an
  optional sign, digits, and optionally a point and more digits. A printed
  integer denotes itself (`Numeral.value?_intText`), and a text with a point
  denotes the number with so many fraction digits (`Numeral.value?_point`,
  `Numeral.value?_neg_point`).
-/

namespace Numeral

/-! ### Printing -/

/-- The decimal digits of a natural. -/
def natText (n : ℕ) : List Char := Nat.toDigits 10 n

/-- The decimal text of an integer, with a minus sign when it is negative. -/
def intText (x : ℤ) : List Char := if x < 0 then '-' :: natText x.natAbs else natText x.natAbs

/-- A text filled with zeros on the left to at least the given width. -/
def pad (w : ℕ) (s : List Char) : List Char := List.replicate (w - s.length) '0' ++ s

/-- Every character is a decimal digit. -/
def AllDigits (s : List Char) : Prop := ∀ c ∈ s, c.isDigit = true

instance : DecidablePred AllDigits := fun s => List.decidableBAll _ s

theorem natText_ne_nil (n : ℕ) : natText n ≠ [] := Nat.toDigits_ne_nil

theorem allDigits_natText (n : ℕ) : AllDigits (natText n) :=
  fun _ hc => Nat.isDigit_of_mem_toDigits (by norm_num) (le_refl 10) hc

theorem allDigits_pad {w : ℕ} {s : List Char} (h : AllDigits s) : AllDigits (pad w s) := by
  intro c hc
  rcases List.mem_append.mp hc with hc | hc
  · rw [List.eq_of_mem_replicate hc]
    rfl
  · exact h c hc

/-- A text that fits its width is filled to exactly that width. -/
theorem length_pad {w : ℕ} {s : List Char} (h : s.length ≤ w) : (pad w s).length = w := by
  rw [pad, List.length_append, List.length_replicate, Nat.sub_add_cancel h]

theorem length_natText_le {n k : ℕ} (hk : 0 < k) (h : n < 10 ^ k) : (natText n).length ≤ k :=
  (Nat.length_toDigits_le_iff (by norm_num) hk).mpr h

theorem AllDigits.ne {s : List Char} (h : AllDigits s) {c : Char} (hc : c.isDigit = false) :
    c ∉ s := by
  intro hm
  rw [h c hm] at hc
  exact Bool.noConfusion hc

theorem allDigits_padded (w n : ℕ) : AllDigits (pad w (natText n)) :=
  allDigits_pad (allDigits_natText n)

theorem padded_ne_nil (w n : ℕ) : pad w (natText n) ≠ [] :=
  List.append_ne_nil_of_right_ne_nil _ (natText_ne_nil n)

/-- The characters of a number. -/
theorem mem_intText {x : ℤ} {a : Char} (h : a ∈ intText x) : a = '-' ∨ a.isDigit = true := by
  unfold intText at h
  split at h
  · rcases List.mem_cons.mp h with h | h
    · exact .inl h
    · exact .inr (allDigits_natText _ a h)
  · exact .inr (allDigits_natText _ a h)

theorem natText_eq_intText (n : ℕ) : natText n = intText n := by
  rw [intText, if_neg (by omega)]
  rfl

/-- Another character is in no number. -/
theorem notMem_intText {x : ℤ} {a : Char} (hdash : a ≠ '-') (hdigit : a.isDigit = false) :
    a ∉ intText x := by
  intro h
  rcases mem_intText h with h | h
  · exact hdash h
  · exact Bool.false_ne_true (hdigit.symm.trans h)

theorem notMem_natText {n : ℕ} {a : Char} (hdigit : a.isDigit = false) : a ∉ natText n :=
  (allDigits_natText n).ne hdigit

/-- Digits before a character that is none are cut off there. -/
theorem splitOn_cons {a : Char} (ha : a.isDigit = false) {s : List Char} (hs : AllDigits s)
    (t : List Char) : (s ++ a :: t).splitOn a = s :: t.splitOn a :=
  List.splitOn_append_cons_self_of_not_mem (hs.ne ha) t

/-- Digits are not cut. -/
theorem splitOn_digits {a : Char} (ha : a.isDigit = false) {s : List Char} (hs : AllDigits s) :
    s.splitOn a = [s] := List.splitOn_eq_singleton (hs.ne ha)

/-! ### Reading -/

/-- The natural that a text of digits denotes. -/
def ofDigits (s : List Char) : ℕ := Nat.ofDigitChars 10 s 0

/-- Reads a natural: at least one digit, and nothing but digits. -/
def parseNat? (s : List Char) : Option ℕ :=
  if s ≠ [] ∧ AllDigits s then some (ofDigits s) else none

/-- Reads an integer: digits after an optional sign. -/
def parseInt? : List Char → Option ℤ
  | '-' :: s => (parseNat? s).map fun n : ℕ => -(n : ℤ)
  | '+' :: s => (parseNat? s).map fun n : ℕ => (n : ℤ)
  | s => (parseNat? s).map fun n : ℕ => (n : ℤ)

/-- Reads a natural: digits after an optional plus sign. -/
def parseUnsigned? : List Char → Option ℕ
  | '+' :: s => parseNat? s
  | s => parseNat? s

theorem ofDigits_append (s t : List Char) :
    ofDigits (s ++ t) = 10 ^ t.length * ofDigits s + ofDigits t := by
  rw [ofDigits, Nat.ofDigitChars_append, Nat.ofDigitChars_eq_ofDigitChars_zero]
  rfl

@[simp] theorem ofDigits_natText (n : ℕ) : ofDigits (natText n) = n :=
  Nat.ofDigitChars_ten_toDigits

@[simp] theorem ofDigits_pad (w : ℕ) (s : List Char) : ofDigits (pad w s) = ofDigits s := by
  rw [pad, ofDigits_append]
  have h : ofDigits (List.replicate (w - s.length) '0') = 0 := by
    rw [ofDigits, Nat.ofDigitChars_replicate_zero, Nat.mul_zero]
  rw [h, Nat.mul_zero, Nat.zero_add]

/-- A number of so many digits is below the power of ten. -/
theorem ofDigits_lt {s : List Char} (h : AllDigits s) : ofDigits s < 10 ^ s.length := by
  induction s with
  | nil => exact Nat.one_pos
  | cons c s ih =>
    have hc := h c List.mem_cons_self
    have hrest := ih fun d hd => h d (List.mem_cons_of_mem c hd)
    have hdigit : c.toNat - '0'.toNat ≤ 9 := by
      rw [Char.isDigit_iff_toNat] at hc
      obtain ⟨-, hc⟩ := hc
      have hnine : '9'.toNat = 57 := rfl
      have hzero : '0'.toNat = 48 := rfl
      omega
    have heq : ofDigits (c :: s) = 10 ^ s.length * (c.toNat - '0'.toNat) + ofDigits s := by
      unfold ofDigits
      rw [Nat.ofDigitChars_cons, Nat.mul_zero, Nat.zero_add, Nat.ofDigitChars_eq_ofDigitChars_zero]
    rw [heq, List.length_cons, Nat.pow_succ]
    calc 10 ^ s.length * (c.toNat - '0'.toNat) + ofDigits s
        < 10 ^ s.length * (c.toNat - '0'.toNat) + 10 ^ s.length := Nat.add_lt_add_left hrest _
      _ = 10 ^ s.length * (c.toNat - '0'.toNat + 1) := by rw [Nat.mul_succ]
      _ ≤ 10 ^ s.length * 10 := Nat.mul_le_mul_left _ (by omega)

theorem parseNat?_of_digits {s : List Char} (h1 : s ≠ []) (h2 : AllDigits s) :
    parseNat? s = some (ofDigits s) := if_pos ⟨h1, h2⟩

/-- A printed natural reads back. -/
@[simp] theorem parseNat?_natText (n : ℕ) : parseNat? (natText n) = some n := by
  rw [parseNat?_of_digits (natText_ne_nil n) (allDigits_natText n), ofDigits_natText]

/-- A printed natural reads back from a padded text. -/
@[simp] theorem parseNat?_pad (w n : ℕ) : parseNat? (pad w (natText n)) = some n := by
  have hne : pad w (natText n) ≠ [] := by
    intro h
    exact natText_ne_nil n (List.append_eq_nil_iff.mp h).2
  rw [parseNat?_of_digits hne (allDigits_pad (allDigits_natText n)), ofDigits_pad,
    ofDigits_natText]

/-- A printed natural reads back where a sign is allowed. -/
@[simp] theorem parseUnsigned?_natText (n : ℕ) : parseUnsigned? (natText n) = some n := by
  have hdigits := allDigits_natText n
  unfold parseUnsigned?
  split
  · rename_i heq
    rw [heq] at hdigits
    exact absurd (hdigits '+' List.mem_cons_self) (by decide)
  · exact parseNat?_natText _

/-- A text of digits carries no sign, so that reading it as an integer reads the
natural. -/
theorem parseInt?_of_digits {s : List Char} (h1 : s ≠ []) (h2 : AllDigits s) :
    parseInt? s = some (ofDigits s : ℤ) := by
  have hn : '-' ∉ s := h2.ne rfl
  have hp : '+' ∉ s := h2.ne rfl
  have hs := parseNat?_of_digits h1 h2
  unfold parseInt?
  split
  · exact absurd (List.mem_cons_self ..) hn
  · exact absurd (List.mem_cons_self ..) hp
  · rw [hs]
    rfl

/-- A printed integer reads back. -/
@[simp] theorem parseInt?_intText (x : ℤ) : parseInt? (intText x) = some x := by
  by_cases hx : x < 0
  · rw [intText, if_pos hx, parseInt?, parseNat?_natText, Option.map_some]
    exact congrArg some (by omega)
  · rw [intText, if_neg hx, parseInt?_of_digits (natText_ne_nil _) (allDigits_natText _),
      ofDigits_natText]
    exact congrArg some (by omega)

/-! ### The number a decimal text denotes -/

/-- The value of digits with at most one point among them. -/
def unsignedValue? (s : List Char) : Option ℚ :=
  match s.splitOn '.' with
  | [i] => (parseNat? i).map fun n : ℕ => (n : ℚ)
  | [i, f] => (parseNat? i).bind fun n : ℕ =>
      (parseNat? f).map fun k : ℕ => (n : ℚ) + k / 10 ^ f.length
  | _ => none

/-- **The value of a decimal text**: an optional sign before digits with at most
one point. -/
def value? : List Char → Option ℚ
  | '-' :: s => (unsignedValue? s).map fun q => -q
  | '+' :: s => unsignedValue? s
  | s => unsignedValue? s

theorem splitOn_of_digits {s : List Char} (h : AllDigits s) : s.splitOn '.' = [s] :=
  List.splitOn_eq_singleton (h.ne rfl)

theorem splitOn_point {s t : List Char} (hs : AllDigits s) (ht : AllDigits t) :
    (s ++ '.' :: t).splitOn '.' = [s, t] := by
  rw [List.splitOn_append_cons_self_of_not_mem (hs.ne rfl), splitOn_of_digits ht]

theorem unsignedValue?_of_digits {s : List Char} (h1 : s ≠ []) (h2 : AllDigits s) :
    unsignedValue? s = some (ofDigits s : ℚ) := by
  rw [unsignedValue?, splitOn_of_digits h2]
  simp only [parseNat?_of_digits h1 h2, Option.map_some]

theorem unsignedValue?_point {s t : List Char} (hs : s ≠ []) (hs' : AllDigits s) (ht : t ≠ [])
    (ht' : AllDigits t) :
    unsignedValue? (s ++ '.' :: t) = some ((ofDigits s : ℚ) + ofDigits t / 10 ^ t.length) := by
  rw [unsignedValue?, splitOn_point hs' ht']
  simp only [parseNat?_of_digits hs hs', parseNat?_of_digits ht ht', Option.bind_some,
    Option.map_some]

/-- A text that begins with a digit carries no sign. -/
theorem value?_of_digits_append {s t : List Char} (hs : s ≠ []) (hs' : AllDigits s) :
    value? (s ++ t) = unsignedValue? (s ++ t) := by
  cases s with
  | nil => exact absurd rfl hs
  | cons c s =>
    have hc := hs' c (List.mem_cons_self ..)
    rw [List.cons_append]
    unfold value?
    split
    · rename_i h
      rw [(List.cons.inj h).1] at hc
      exact absurd hc (by decide)
    · rename_i h
      rw [(List.cons.inj h).1] at hc
      exact absurd hc (by decide)
    · rfl

/-- A printed integer denotes itself. -/
@[simp] theorem value?_intText (x : ℤ) : value? (intText x) = some (x : ℚ) := by
  have hv := unsignedValue?_of_digits (natText_ne_nil x.natAbs) (allDigits_natText _)
  rw [ofDigits_natText] at hv
  by_cases hx : x < 0
  · have habs : ((x.natAbs : ℕ) : ℤ) = -x := by omega
    have hcast : ((x.natAbs : ℕ) : ℚ) = -x := by
      rw [← Int.cast_natCast, habs, Int.cast_neg]
    rw [intText, if_pos hx, value?, hv, Option.map_some, hcast, neg_neg]
  · have habs : ((x.natAbs : ℕ) : ℤ) = x := by omega
    have hcast : ((x.natAbs : ℕ) : ℚ) = x := by
      rw [← Int.cast_natCast, habs]
    have h : value? (natText x.natAbs ++ []) = _ :=
      value?_of_digits_append (natText_ne_nil x.natAbs) (allDigits_natText _)
    rw [List.append_nil] at h
    rw [intText, if_neg hx, h, hv, hcast]

/-- A text with a point denotes its integer digits and its fraction digits. -/
theorem value?_point {s t : List Char} (hs : s ≠ []) (hs' : AllDigits s) (ht : t ≠ [])
    (ht' : AllDigits t) :
    value? (s ++ '.' :: t) = some ((ofDigits s : ℚ) + ofDigits t / 10 ^ t.length) := by
  rw [value?_of_digits_append hs hs', unsignedValue?_point hs hs' ht ht']

/-- The same after a minus sign. -/
theorem value?_neg_point {s t : List Char} (hs : s ≠ []) (hs' : AllDigits s) (ht : t ≠ [])
    (ht' : AllDigits t) :
    value? ('-' :: (s ++ '.' :: t)) = some (-((ofDigits s : ℚ) + ofDigits t / 10 ^ t.length)) := by
  rw [value?, unsignedValue?_point hs hs' ht ht', Option.map_some]

/-- A text that begins with no sign is read as a natural. -/
theorem parseInt?_of_head_ne {s : List Char} (hm : s.head? ≠ some '-') (hp : s.head? ≠ some '+') :
    parseInt? s = (parseNat? s).map fun n : ℕ => (n : ℤ) := by
  unfold parseInt?
  split
  · exact absurd rfl hm
  · exact absurd rfl hp
  · rfl

/-- The number of an integer with a fraction, which has the sign of the text. -/
def withFraction (negative : Bool) (x : ℤ) (k : ℕ) (digits : ℕ) : ℚ :=
  if negative then x - k / 10 ^ digits else x + k / 10 ^ digits

/-- The value of the parts of a text whose first part has a sign in front of it. -/
theorem unsignedValue?_pieces {s first i : List Char} {rest : List (List Char)} {negative : Bool}
    (hs : s.splitOn '.' = first :: rest) (hhead : (i.head? == some '-') = negative)
    (hi : parseInt? i = (parseNat? first).map fun n : ℕ => if negative then -(n : ℤ) else n) :
    ((unsignedValue? s).map fun q => if negative then -q else q) =
      match i :: rest with
      | [i] => (parseInt? i).map fun x : ℤ => (x : ℚ)
      | [i, f] => (parseInt? i).bind fun x => (parseNat? f).map fun k =>
          withFraction (i.head? == some '-') x k f.length
      | _ => none := by
  unfold unsignedValue?
  rw [hs]
  rcases rest with _ | ⟨f, _ | ⟨x, rest⟩⟩
  · simp only [hi, Option.map_map]
    refine congrArg (Option.map · (parseNat? first)) (funext fun n => ?_)
    rcases negative with _ | _ <;> simp
  · simp only [hi, hhead]
    rcases parseNat? first with _ | n
    · rfl
    rcases parseNat? f with _ | k
    · rfl
    rcases negative with _ | _
    · simp [withFraction]
    · simp only [Option.bind_some, Option.map_some, withFraction, if_true, Option.some.injEq]
      push_cast
      ring
  · rfl

/-- **The value of a text by its parts before and after the point**: the sign is one of the
part before it. -/
theorem value?_eq (s : List Char) : value? s =
    match s.splitOn '.' with
    | [i] => (parseInt? i).map fun x : ℤ => (x : ℚ)
    | [i, f] => (parseInt? i).bind fun x => (parseNat? f).map fun k =>
        withFraction (i.head? == some '-') x k f.length
    | _ => none := by
  have hid (o : Option ℚ) : (o.map fun q => if false then -q else q) = o := by cases o <;> rfl
  unfold value?
  split
  · rename_i t
    obtain ⟨first, rest, ht⟩ := List.exists_cons_of_ne_nil (List.splitOn_ne_nil '.' t)
    rw [List.splitOn_cons_eq_if_modifyHead, if_neg (by decide), ht, List.modifyHead_cons]
    exact @unsignedValue?_pieces t first ('-' :: first) rest true ht rfl rfl
  · rename_i t
    obtain ⟨first, rest, ht⟩ := List.exists_cons_of_ne_nil (List.splitOn_ne_nil '.' t)
    rw [List.splitOn_cons_eq_if_modifyHead, if_neg (by decide), ht, List.modifyHead_cons,
      ← hid (unsignedValue? t)]
    exact @unsignedValue?_pieces t first ('+' :: first) rest false ht rfl rfl
  · rename_i hm hp
    obtain ⟨first, rest, hs⟩ := List.exists_cons_of_ne_nil (List.splitOn_ne_nil '.' s)
    -- The first part begins as the text does, or is empty.
    have hhead : ∀ c ∈ first.head?, s.head? = some c := by
      rcases s with _ | ⟨c, t⟩
      · cases hs
        exact fun c hc => (nomatch hc)
      · rw [List.splitOn_cons_eq_if_modifyHead] at hs
        split at hs
        · cases hs
          exact fun c hc => (nomatch hc)
        · obtain ⟨piece, pieces, ht⟩ := List.exists_cons_of_ne_nil (List.splitOn_ne_nil '.' t)
          rw [ht, List.modifyHead_cons] at hs
          cases hs
          exact fun d hd => hd
    have hne (c : Char) (hc : ∀ t, s = c :: t → False) : first.head? ≠ some c := by
      intro h
      obtain ⟨t, ht⟩ : ∃ t, s = c :: t := by
        have hs' := hhead c h
        rcases s with _ | ⟨d, t⟩
        · cases hs'
        · cases hs'
          exact ⟨t, rfl⟩
      exact hc t ht
    have hint := parseInt?_of_head_ne (hne '-' hm) (hne '+' hp)
    rw [hs, ← hid (unsignedValue? s)]
    exact @unsignedValue?_pieces s first first rest false hs (beq_eq_false_iff_ne.mpr (hne '-' hm))
      hint

example : value? "-0.05".toList = some (-1 / 20) := by decide +kernel

/-! ### Base sixteen -/

/-- The hexadecimal digits of a natural, in upper case. -/
def hexText (n : ℕ) : List Char := (Nat.toDigits 16 n).map Char.toUpper

/-- The value of a digit of base sixteen, in upper or in lower case. -/
def hexDigitValue? (c : Char) : Option ℕ :=
  if c.isDigit then some (c.toNat - '0'.toNat)
  else if 'a' ≤ c ∧ c ≤ 'f' then some (c.toNat - 'a'.toNat + 10)
  else if 'A' ≤ c ∧ c ≤ 'F' then some (c.toNat - 'A'.toNat + 10)
  else none

/-- Why a text is not a number. -/
inductive ParseIntError where
  | empty
  | invalidDigit
  | posOverflow
  deriving DecidableEq

/-- The text of the error. -/
def ParseIntError.text : ParseIntError → String
  | empty => "cannot parse integer from empty string"
  | invalidDigit => "invalid digit found in string"
  | posOverflow => "number too large to fit in target type"

/-- One more digit of a number below a bound. -/
def hexStep (bound n : ℕ) (c : Char) : Except ParseIntError ℕ :=
  match hexDigitValue? c with
  | none => .error .invalidDigit
  | some d => if n * 16 + d < bound then .ok (n * 16 + d) else .error .posOverflow

/-- Reads a natural below a bound in base sixteen: digits after an optional plus sign. -/
def parseHex (bound : ℕ) : List Char → Except ParseIntError ℕ
  | [] => .error .empty
  | ['+'] => .error .invalidDigit
  | ['-'] => .error .invalidDigit
  | '+' :: s => s.foldlM (hexStep bound) 0
  | s => s.foldlM (hexStep bound) 0

/-- A printed digit has its value. -/
theorem hexDigitValue?_digitChar :
    ∀ d < 16, hexDigitValue? (Nat.digitChar d).toUpper = some d := by decide

theorem hexText_ne_nil (n : ℕ) : hexText n ≠ [] := by simp [hexText]

/-- A printed digit is one of sixteen characters. -/
theorem exists_digitChar_of_mem_hexText {n : ℕ} {c : Char} (h : c ∈ hexText n) :
    ∃ d < 16, c = (Nat.digitChar d).toUpper := by
  unfold hexText at h
  induction n using Nat.strongRecOn with
  | ind n ih =>
    rw [Nat.toDigits_eq_if (by norm_num)] at h
    split at h
    · rename_i hn
      exact ⟨n, hn, by simpa using h⟩
    · rename_i hn
      rw [List.map_append, List.mem_append] at h
      rcases h with h | h
      · exact ih (n / 16) (by omega) h
      · exact ⟨n % 16, Nat.mod_lt _ (by norm_num), by simpa using h⟩

theorem foldlM_hexStep_hexText {bound n : ℕ} (hn : n < bound) :
    (hexText n).foldlM (hexStep bound) 0 = .ok n := by
  unfold hexText
  induction n using Nat.strongRecOn with
  | ind n ih =>
    rw [Nat.toDigits_eq_if (by norm_num)]
    split
    · rename_i hlt
      rw [List.map_singleton, List.foldlM_cons, hexStep, hexDigitValue?_digitChar n hlt]
      dsimp only
      rw [Nat.zero_mul, Nat.zero_add, if_pos hn]
      rfl
    · rename_i hge
      have hdiv := ih (n / 16) (by omega) (by omega)
      have hsum : n / 16 * 16 + n % 16 = n := by omega
      rw [List.map_append, List.foldlM_append, hdiv]
      change List.foldlM (hexStep bound) (n / 16) ([(n % 16).digitChar].map Char.toUpper) = _
      rw [List.map_singleton, List.foldlM_cons, hexStep,
        hexDigitValue?_digitChar _ (Nat.mod_lt _ (by norm_num))]
      dsimp only
      rw [hsum, if_pos hn]
      rfl

/-- The number that digits of base sixteen denote. -/
def hexValue (s : List Char) : ℕ := s.foldl (fun n c => n * 16 + (hexDigitValue? c).getD 0) 0

/-- Only digits are read, and as what they denote. -/
theorem foldlM_hexStep_eq_ok {bound a n : ℕ} {s : List Char}
    (h : s.foldlM (hexStep bound) a = .ok n) :
    (∀ c ∈ s, (hexDigitValue? c).isSome = true) ∧
      s.foldl (fun n c => n * 16 + (hexDigitValue? c).getD 0) a = n := by
  induction s generalizing a with
  | nil => exact ⟨List.forall_mem_nil _, Except.ok.inj h⟩
  | cons c s ih =>
    rw [List.foldlM_cons] at h
    unfold hexStep at h
    cases hc : hexDigitValue? c with
    | none =>
      rw [hc] at h
      cases h
    | some d =>
      rw [hc] at h
      dsimp only at h
      split at h
      · obtain ⟨hs, hn⟩ := ih h
        refine ⟨List.forall_mem_cons.mpr ⟨by rw [hc]; rfl, hs⟩, ?_⟩
        rw [List.foldl_cons, hc]
        exact hn
      · cases h

/-- **What is read in base sixteen** is digits, with or without a plus sign. -/
theorem parseHex_eq_ok {bound n : ℕ} {s : List Char} (h : parseHex bound s = .ok n) :
    ∃ digits, (s = digits ∨ s = '+' :: digits) ∧ digits ≠ [] ∧
      (∀ c ∈ digits, (hexDigitValue? c).isSome = true) ∧ hexValue digits = n := by
  unfold parseHex at h
  split at h
  · cases h
  · cases h
  · cases h
  · rename_i digits hne
    obtain ⟨hdigits, hn⟩ := foldlM_hexStep_eq_ok h
    exact ⟨digits, .inr rfl, hne, hdigits, hn⟩
  · rename_i hne _ _ _
    obtain ⟨hdigits, hn⟩ := foldlM_hexStep_eq_ok h
    exact ⟨s, .inl rfl, hne, hdigits, hn⟩

/-- **A printed natural reads back** in base sixteen. -/
theorem parseHex_hexText {bound n : ℕ} (hn : n < bound) : parseHex bound (hexText n) = .ok n := by
  have hfold := foldlM_hexStep_hexText hn
  have hsign : ∀ d < 16, (Nat.digitChar d).toUpper ≠ '+' ∧ (Nat.digitChar d).toUpper ≠ '-' := by
    decide
  have hne := hexText_ne_nil n
  have hhead (c : Char) (hc : c ∈ hexText n) : c ≠ '+' ∧ c ≠ '-' := by
    obtain ⟨d, hd, rfl⟩ := exists_digitChar_of_mem_hexText hc
    exact hsign d hd
  generalize hexText n = s at hfold hne hhead
  unfold parseHex
  split
  · exact absurd rfl hne
  · exact absurd rfl (hhead '+' (List.mem_singleton_self _)).1
  · exact absurd rfl (hhead '-' (List.mem_singleton_self _)).2
  · exact absurd rfl (hhead '+' (List.mem_cons_self ..)).1
  · exact hfold

end Numeral
