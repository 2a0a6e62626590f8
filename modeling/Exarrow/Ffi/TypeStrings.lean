import Exarrow.Ddl.Types
import Exarrow.Ffi.Parameters
import Exarrow.Inference
import Exarrow.Statement

/-!
# Type names of system views

A system view names the type of a column by a text, which `Exarrow.Ffi.parseExasolTypeString` turns
into an Exasol type. The text is compared with whole names and with beginnings, one family after the
other, and the parameters are searched for between parentheses; they are read as integers
(`Exarrow.Ffi.ParsedType`) and then cast to the widths of the type (`Exarrow.Ffi.ParsedType.cast`).

**Which types come back from their DDL text?** All but a HASHTYPE of another size than the default,
whose size is written with a unit, and sizes that no integer holds
(`Exarrow.Ffi.parse_toDdlType_iff`). **Which texts are read soundly**, without a panic and without
a parameter that the cast changes? Those whose parentheses are not crossed and whose numbers fit
(`Exarrow.Ffi.sound_iff`). The two together are `Exarrow.Ffi.type_strings`.
-/

namespace Exarrow.Ffi

open Machine Checked Numeral Text

/-! ### Parameters in parentheses -/

/-- The position of the first occurrence of a character. -/
def find (a : Char) (s : List Char) : Option ℕ := (splitOnce a s).map fun parts => parts.1.length

/-- The position of the last occurrence of a character. -/
def rfind (a : Char) (s : List Char) : Option ℕ := (rsplitOnce a s).map fun parts => parts.1.length

/-- The text between two positions; the program stops when they are crossed. -/
def between {ε : Type} (s : List Char) (start stop : ℕ) : Exec ε (List Char) :=
  if start + 1 ≤ stop then .ok ((s.take stop).drop (start + 1)) else Checked.stop

/-- An integer of 64 bits between white space. -/
def parseI64? (s : List Char) : Option (SInt 64) := parseSigned? 64 (trimWhitespace s)

/-- The number between the first parentheses. -/
def extractSingleParam {ε : Type} (s : List Char) : Exec ε (Option (SInt 64)) :=
  match find '(' s, find ')' s with
  | some start, some stop => do
    let inner ← between s start stop
    return parseI64? inner
  | _, _ => .ok none

/-- The number between the last parentheses. -/
def extractLastParam (s : List Char) : Option (SInt 64) :=
  match rfind '(' s, rfind ')' s with
  | some start, some stop =>
    if start < stop then parseI64? ((s.take stop).drop (start + 1)) else none
  | _, _ => none

/-- One number, with zero for the second, or two numbers with a comma between them. -/
def parsePair? (inner : List Char) : Option (SInt 64 × SInt 64) :=
  match inner.splitOn ',' with
  | [x, y] => do
    let a ← parseI64? x
    let b ← parseI64? y
    return (a, b)
  | [x] => (parseI64? x).map fun a => (a, 0)
  | _ => none

/-- The numbers between the first parentheses. -/
def extractTwoParams {ε : Type} (s : List Char) : Exec ε (Option (SInt 64 × SInt 64)) :=
  match find '(' s, find ')' s with
  | some start, some stop => do
    let inner ← between s start stop
    return parsePair? inner
  | _, _ => .ok none

/-! ### Types with their parameters -/

/-- A type with its parameters as they are read. -/
inductive ParsedType where
  | plain (t : ExasolType)
  | intervalDayToSecond (precision : SInt 64)
  | geometry (srid : Option (SInt 64))
  | hashtype (byteSize : SInt 64)
  | char (size : SInt 64)
  | varchar (size : SInt 64)
  | decimal (precision scale : SInt 64)

/-- The type, whose parameters are cast to their widths. -/
def ParsedType.cast : ParsedType → ExasolType
  | plain t => t
  | intervalDayToSecond precision => .intervalDayToSecond (asU8 precision.val)
  | geometry srid => .geometry (srid.map fun n => SInt.wrap 32 SInt.pos_32 n.val)
  | hashtype size => .hashtype (asUsize size.val)
  | char size => .char (asUsize size.val)
  | varchar size => .varchar (asUsize size.val)
  | decimal precision scale => .decimal (asU8 precision.val) (asI8 scale.val)

/-- **No cast changes a parameter.** -/
def ParsedType.Kept : ParsedType → Prop
  | plain _ => True
  | intervalDayToSecond precision => ((asU8 precision.val).toNat : ℤ) = precision.val
  | geometry srid => ∀ n, srid = some n → (SInt.wrap 32 SInt.pos_32 n.val).val = n.val
  | hashtype size | char size | varchar size => (asUsize size.val : ℤ) = size.val
  | decimal precision scale =>
    ((asU8 precision.val).toNat : ℤ) = precision.val ∧ (asI8 scale.val).val = scale.val

/-! ### The families -/

/-- The text begins with a name. -/
def startsWith (name : String) (s : List Char) : Bool := name.toList.isPrefixOf s

/-- Types without parameters. -/
def parseUnparameterizedType (s : List Char) : Option ExasolType :=
  if s = "BOOLEAN".toList then some .boolean
  else if s = "DATE".toList then some .date
  else if s = "DOUBLE".toList ∨ s = "DOUBLE PRECISION".toList ∨ s = "FLOAT".toList ∨
      s = "REAL".toList then some .double
  else if s = "BIGINT".toList ∨ s = "INT".toList ∨ s = "INTEGER".toList ∨
      s = "SMALLINT".toList ∨ s = "TINYINT".toList then some (.decimal 18 0)
  else none

/-- Large texts, whose length is passed over. -/
def parseLargeCharacterType (s : List Char) : Option ExasolType :=
  if s = "CLOB".toList ∨ startsWith "LONG VARCHAR" s then some longestVarchar else none

/-- Timestamps and intervals. -/
def parseTemporalType (s : List Char) : Option ParsedType :=
  if startsWith "TIMESTAMP" s then
    some (.plain (.timestamp ("WITH LOCAL TIME ZONE".toList.isSuffixOf s)))
  else if startsWith "INTERVAL YEAR" s ∧ occursIn "TO MONTH".toList s then
    some (.plain .intervalYearToMonth)
  else if startsWith "INTERVAL DAY" s ∧ occursIn "TO SECOND".toList s then
    some (.intervalDayToSecond ((extractLastParam s).getD 3))
  else none

/-- The types with sizes or precisions. -/
def parseSizedType {ε : Type} (s : List Char) : Exec ε (Option ParsedType) :=
  if startsWith "GEOMETRY" s then do
    let srid ← extractSingleParam s
    return some (.geometry srid)
  else if startsWith "HASHTYPE" s then do
    let size ← extractSingleParam s
    return some (.hashtype (size.getD 16))
  else if startsWith "CHAR" s ∧ ¬startsWith "CHAR VARYING" s then do
    let size ← extractSingleParam s
    return some (.char (size.getD 1))
  else if startsWith "VARCHAR" s ∨ startsWith "CHAR VARYING" s then do
    let size ← extractSingleParam s
    return some (.varchar (size.getD 2000000))
  else if startsWith "DECIMAL" s ∨ startsWith "NUMERIC" s then do
    let digits ← extractTwoParams s
    return some (.decimal (digits.getD (18, 0)).1 (digits.getD (18, 0)).2)
  else .ok none

/-- **The type that a text in upper case names**, family after family. -/
def readType {ε : Type} (s : List Char) : Exec ε (Option ParsedType) :=
  match parseUnparameterizedType s <|> parseLargeCharacterType s with
  | some t => .ok (some (.plain t))
  | none =>
    match parseTemporalType s with
    | some p => .ok (some p)
    | none => parseSizedType s

/-- The text as it is compared: without white space around it, and in upper case. -/
def typeUpper (typeStr : String) : List Char := (trimWhitespace typeStr.toList).flatMap upperChar

/-- **The Exasol type that a type name stands for.** -/
def parseExasolTypeString (typeStr : String) : Exec AdbcError ExasolType := do
  let parsed ← readType (typeUpper typeStr)
  match parsed with
  | some p => return p.cast
  | none => fail ⟨.text ("Unknown Exasol type: " ++ typeStr), .internal⟩

/-! ### Reading what was written -/

section Written

variable {ε : Type}

theorem find_append {a : Char} {s : List Char} (h : a ∉ s) (t : List Char) :
    find a (s ++ a :: t) = some s.length := by
  rw [find, splitOnce_append h, Option.map_some]

theorem rfind_append {a : Char} {t : List Char} (s : List Char) (h : a ∉ t) :
    rfind a (s ++ a :: t) = some s.length := by
  rw [rfind, rsplitOnce_append s h, Option.map_some]

/-- The text between the positions of two characters. -/
theorem take_drop_between (s inner t : List Char) (a b : Char) :
    ((s ++ a :: inner ++ b :: t).take (s ++ a :: inner).length).drop (s.length + 1) = inner := by
  have hfront : s ++ a :: inner = (s ++ [a]) ++ inner := by simp
  have hlength : s.length + 1 = (s ++ [a]).length := by simp
  rw [List.take_left, hfront, hlength, List.drop_left]

/-- The first parentheses are found. -/
theorem between_parentheses (s inner t : List Char) :
    (between (s ++ '(' :: inner ++ ')' :: t) s.length (s ++ '(' :: inner).length :
      Exec ε (List Char)) = .ok inner := by
  have hle : s.length + 1 ≤ (s ++ '(' :: inner).length := by simp
  rw [between, if_pos hle, take_drop_between]

section Found

variable {s inner t : List Char} (hs : '(' ∉ s) (hs' : ')' ∉ s) (hinner : ')' ∉ inner)

include hs hs' hinner

theorem find_parentheses : find '(' (s ++ '(' :: inner ++ ')' :: t) = some s.length ∧
    find ')' (s ++ '(' :: inner ++ ')' :: t) = some (s ++ '(' :: inner).length := by
  have hclose : ')' ∉ s ++ '(' :: inner := by
    rw [List.mem_append, List.mem_cons, not_or, not_or]
    exact ⟨hs', by decide, hinner⟩
  have hassoc : s ++ '(' :: inner ++ ')' :: t = s ++ '(' :: (inner ++ ')' :: t) := by simp
  refine ⟨?_, find_append hclose t⟩
  rw [hassoc, find_append hs]

theorem extractSingleParam_append :
    (extractSingleParam (s ++ '(' :: inner ++ ')' :: t) : Exec ε _) = .ok (parseI64? inner) := by
  obtain ⟨hopen, hclose⟩ := @find_parentheses s inner t hs hs' hinner
  rw [extractSingleParam, hopen, hclose]
  dsimp only
  rw [between_parentheses]
  rfl

theorem extractTwoParams_append :
    (extractTwoParams (s ++ '(' :: inner ++ ')' :: t) : Exec ε _) = .ok (parsePair? inner) := by
  obtain ⟨hopen, hclose⟩ := @find_parentheses s inner t hs hs' hinner
  rw [extractTwoParams, hopen, hclose]
  dsimp only
  rw [between_parentheses]
  rfl

end Found

theorem extractLastParam_append (s : List Char) {inner t : List Char} (hinner : '(' ∉ inner)
    (ht : '(' ∉ t) (ht' : ')' ∉ t) :
    extractLastParam (s ++ '(' :: inner ++ ')' :: t) = parseI64? inner := by
  have hopen : '(' ∉ inner ++ ')' :: t := by
    rw [List.mem_append, List.mem_cons, not_or, not_or]
    exact ⟨hinner, by decide, ht⟩
  have hassoc : s ++ '(' :: inner ++ ')' :: t = s ++ '(' :: (inner ++ ')' :: t) := by simp
  have hlt : s.length < (s ++ '(' :: inner).length := by simp
  have hfirst : rfind '(' (s ++ '(' :: inner ++ ')' :: t) = some s.length := by
    rw [hassoc, rfind_append s hopen]
  rw [extractLastParam, hfirst, rfind_append _ ht']
  dsimp only
  rw [if_pos hlt, take_drop_between]

/-- Digits hold no white space at their ends. -/
theorem isWhitespace_of_isDigit {a : Char} (h : a.isDigit = true) : isWhitespace a = false := by
  simp only [Char.isDigit, Bool.and_eq_true, decide_eq_true_eq, ge_iff_le,
    UInt32.le_iff_toNat_le] at h
  have hlow : 48 ≤ a.toNat := h.1
  have hhigh : a.toNat ≤ 57 := h.2
  unfold isWhitespace
  simp only [Bool.or_eq_false_iff, Bool.and_eq_false_iff, decide_eq_false_iff_not]
  omega

theorem isWhitespace_intText (x : ℤ) : ∀ a ∈ intText x, isWhitespace a = false := by
  intro a h
  rcases mem_intText h with rfl | h
  · decide
  · exact isWhitespace_of_isDigit h

/-- A written number is read, if it fits. -/
theorem parseI64?_intText (x : ℤ) : parseI64? (intText x) = SInt.ofInt? 64 x := by
  have htrim := trimWhitespace_append (isWhitespace_intText x) (List.forall_mem_nil _)
  rw [List.append_nil] at htrim
  rw [parseI64?, htrim, parseSigned?, parseInt?_intText, Option.bind_some]

theorem parseI64?_natText (n : ℕ) : parseI64? (natText n) = SInt.ofInt? 64 n := by
  rw [natText_eq_intText, parseI64?_intText]

/-- A number with its unit is not read. -/
theorem parseI64?_bytes (n : ℕ) : parseI64? (natText n ++ " BYTE".toList) = none := by
  obtain ⟨a, s, hs⟩ := List.exists_cons_of_ne_nil (natText_ne_nil n)
  have ha : a.isDigit = true := allDigits_natText n a (hs ▸ List.mem_cons_self)
  have htrim : trimWhitespace (natText n ++ " BYTE".toList) = natText n ++ " BYTE".toList := by
    refine trimWhitespace_eq (fun c hc => ?_) (fun c hc => ?_)
    · rw [hs, List.cons_append, List.head?_cons, Option.mem_some] at hc
      exact hc ▸ isWhitespace_of_isDigit ha
    · rw [List.getLast?_append] at hc
      cases hc
      decide
  have hno : parseNat? (natText n ++ " BYTE".toList) = none := by
    refine if_neg fun h => ?_
    exact absurd (h.2 ' ' (List.mem_append_right _ List.mem_cons_self)) (by decide)
  rw [parseI64?, htrim, parseSigned?, parseInt?_of_head_ne, hno]
  · rfl
  · rw [hs, List.cons_append, List.head?_cons]
    rintro h
    rw [Option.some.inj h] at ha
    exact absurd ha (by decide)
  · rw [hs, List.cons_append, List.head?_cons]
    rintro h
    rw [Option.some.inj h] at ha
    exact absurd ha (by decide)

/-! ### Types come back -/

theorem upperChar_of_lt {a : Char} (h : a.toNat < 97) : upperChar a = [a] := by
  have hupper : a.toUpper = a := by
    unfold Char.toUpper
    rw [dif_neg]
    rintro ⟨hlow, -⟩
    have hle : 97 ≤ a.toNat := UInt32.le_iff_toNat_le.mp hlow
    omega
  unfold upperChar
  split
  all_goals first | omega | rw [hupper]

/-- A text that is compared as it is. -/
theorem typeUpper_eq {s : List Char} {a b : Char} (hhead : s.head? = some a)
    (hlast : s.getLast? = some b) (ha : isWhitespace a = false) (hb : isWhitespace b = false)
    (hlow : ∀ c ∈ s, c.toNat < 97) : typeUpper (String.ofList s) = s := by
  have htrim : trimWhitespace s = s := by
    refine trimWhitespace_eq (fun c hc => ?_) (fun c hc => ?_)
    · rw [hhead, Option.mem_some] at hc
      exact hc ▸ ha
    · rw [hlast, Option.mem_some] at hc
      exact hc ▸ hb
  rw [typeUpper, String.toList_ofList, htrim]
  have hmap (t : List Char) (ht : ∀ c ∈ t, c.toNat < 97) : t.flatMap upperChar = t := by
    induction t with
    | nil => rfl
    | cons c t ih =>
      rw [List.flatMap_cons, upperChar_of_lt (ht c List.mem_cons_self),
        ih fun d hd => ht d (List.mem_cons_of_mem _ hd), List.singleton_append]
  exact hmap s hlow

theorem low_of_all {s : List Char} (h : s.all (fun a => a.toNat < 97) = true) :
    ∀ a ∈ s, a.toNat < 97 := by
  intro a ha
  simpa using List.all_eq_true.mp h a ha

theorem low_intText (x : ℤ) : ∀ a ∈ intText x, a.toNat < 97 := by
  intro a h
  rcases mem_intText h with rfl | h
  · decide
  · simp only [Char.isDigit, Bool.and_eq_true, decide_eq_true_eq, ge_iff_le,
      UInt32.le_iff_toNat_le] at h
    have hhigh : a.toNat ≤ 57 := h.2
    omega

theorem low_natText (n : ℕ) : ∀ a ∈ natText n, a.toNat < 97 := by
  rw [natText_eq_intText]
  exact low_intText n

/-- The DDL text of a type has no small letters. -/
theorem low_toDdlType (t : ExasolType) : ∀ a ∈ t.toDdlType, a.toNat < 97 := by
  cases t with
  | boolean | double | date | intervalYearToMonth => exact low_of_all (by decide +kernel)
  | timestamp tz => cases tz <;> exact low_of_all (by decide +kernel)
  | char size | varchar size | hashtype size =>
    exact List.forall_mem_append.mpr ⟨List.forall_mem_append.mpr ⟨low_of_all rfl, low_natText _⟩,
      low_of_all rfl⟩
  | decimal precision scale =>
    refine List.forall_mem_append.mpr ⟨List.forall_mem_append.mpr ⟨List.forall_mem_append.mpr
      ⟨?_, low_of_all rfl⟩, low_intText _⟩, low_of_all rfl⟩
    exact List.forall_mem_append.mpr ⟨low_of_all rfl, low_natText _⟩
  | intervalDayToSecond precision =>
    refine List.forall_mem_append.mpr ⟨List.forall_mem_append.mpr ⟨List.forall_mem_append.mpr
      ⟨?_, low_of_all rfl⟩, low_natText _⟩, low_of_all rfl⟩
    exact List.forall_mem_append.mpr ⟨low_of_all rfl, low_natText _⟩
  | geometry srid =>
    cases srid with
    | none => exact low_of_all (by decide +kernel)
    | some srid =>
      exact List.forall_mem_append.mpr ⟨List.forall_mem_append.mpr
        ⟨low_of_all rfl, low_intText _⟩, low_of_all rfl⟩

/-- **The DDL text of a type is compared as it is.** -/
theorem typeUpper_toDdlType (t : ExasolType) :
    typeUpper (String.ofList t.toDdlType) = t.toDdlType := by
  have hlow := low_toDdlType t
  have hlast (s : List Char) (a : Char) : (s ++ [a]).getLast? = some a :=
    List.getLast?_append_of_ne_nil _ (List.cons_ne_nil _ _)
  cases t with
  | boolean | double | date | intervalYearToMonth => decide +kernel
  | timestamp tz => cases tz <;> decide +kernel
  | char size | varchar size => exact typeUpper_eq rfl (hlast _ ')') rfl rfl hlow
  | hashtype size =>
    exact typeUpper_eq rfl (List.getLast?_append_of_ne_nil _ (List.cons_ne_nil _ _)) rfl rfl hlow
  | decimal precision scale => exact typeUpper_eq rfl (hlast _ ')') rfl rfl hlow
  | intervalDayToSecond precision => exact typeUpper_eq rfl (hlast _ ')') rfl rfl hlow
  | geometry srid =>
    cases srid with
    | none => decide +kernel
    | some srid => exact typeUpper_eq rfl (hlast _ ')') rfl rfl hlow

theorem le_8_64 : 8 ≤ 64 := by norm_num

/-- **What is read of the DDL text of a type.** -/
def readBack : ExasolType → ParsedType
  | .char size => .char ((SInt.ofInt? 64 size).getD 1)
  | .varchar size => .varchar ((SInt.ofInt? 64 size).getD 2000000)
  | .decimal precision scale =>
    .decimal (SInt.wrap 64 SInt.pos_64 precision.toNat) (scale.extend 64 le_8_64)
  | .intervalDayToSecond precision =>
    .intervalDayToSecond (SInt.wrap 64 SInt.pos_64 precision.toNat)
  | .geometry srid => .geometry (srid.map fun n => n.extend 64 SInt.le_32_64)
  | .hashtype _ => .hashtype 16
  | t => .plain t

theorem ofInt?_byte (n : UInt8) :
    SInt.ofInt? 64 (n.toNat : ℤ) = some (SInt.wrap 64 SInt.pos_64 n.toNat) := by
  have hlt : n.toNat < 256 := n.toNat_lt
  refine SInt.ofInt?_eq_some.mpr (SInt.val_wrap_of_mem SInt.pos_64 ?_ ?_)
  · omega
  · norm_num
    omega

/-- The two numbers of a decimal type. -/
theorem parsePair?_append (p : UInt8) (n : SInt 8) :
    parsePair? (natText p.toNat ++ ',' :: intText n.val) =
      some (SInt.wrap 64 SInt.pos_64 p.toNat, n.extend 64 le_8_64) := by
  have hfirst : ',' ∉ natText p.toNat := notMem_natText rfl
  have hsecond : ',' ∉ intText n.val := notMem_intText (by decide) rfl
  have hsplit : (natText p.toNat ++ ',' :: intText n.val).splitOn ',' =
      [natText p.toNat, intText n.val] := by
    have hjoin : natText p.toNat ++ ',' :: intText n.val =
        [','].intercalate [natText p.toNat, intText n.val] := by
      simp [List.intercalate]
    rw [hjoin]
    refine List.splitOn_intercalate ',' ?_ (List.cons_ne_nil _ _)
    simpa using And.intro hfirst hsecond
  have hfits : SInt.ofInt? 64 n.val = some (n.extend 64 le_8_64) := SInt.ofInt?_eq_some.mpr rfl
  rw [parsePair?, hsplit]
  change ((parseI64? (natText p.toNat)).bind fun a =>
    (parseI64? (intText n.val)).bind fun b => some (a, b)) = _
  rw [parseI64?_natText, ofInt?_byte, parseI64?_intText, hfits]
  rfl

theorem append_pair (s x y : List Char) :
    s ++ x ++ [','] ++ y ++ [')'] = s ++ (x ++ ',' :: y ++ [')']) := by
  simp

/-! A family is known by the beginning of the text. -/

section Families

variable (r : List Char)

theorem readType_char : (readType ("CHAR(".toList ++ r) : Exec ε _) =
    (extractSingleParam ("CHAR(".toList ++ r)).bind fun size =>
      .ok (some (.char (size.getD 1))) := rfl

theorem readType_varchar : (readType ("VARCHAR(".toList ++ r) : Exec ε _) =
    (extractSingleParam ("VARCHAR(".toList ++ r)).bind fun size =>
      .ok (some (.varchar (size.getD 2000000))) := rfl

theorem readType_hashtype : (readType ("HASHTYPE(".toList ++ r) : Exec ε _) =
    (extractSingleParam ("HASHTYPE(".toList ++ r)).bind fun size =>
      .ok (some (.hashtype (size.getD 16))) := rfl

theorem readType_geometry : (readType ("GEOMETRY(".toList ++ r) : Exec ε _) =
    (extractSingleParam ("GEOMETRY(".toList ++ r)).bind fun srid =>
      .ok (some (.geometry srid)) := rfl

theorem readType_decimal : (readType ("DECIMAL(".toList ++ r) : Exec ε _) =
    (extractTwoParams ("DECIMAL(".toList ++ r)).bind fun digits =>
      .ok (some (.decimal (digits.getD (18, 0)).1 (digits.getD (18, 0)).2)) := rfl

theorem readType_daySecond : (readType ("INTERVAL DAY(9) TO SECOND(".toList ++ r) : Exec ε _) =
    .ok (some (.intervalDayToSecond
      ((extractLastParam ("INTERVAL DAY(9) TO SECOND(".toList ++ r)).getD 3))) := rfl

end Families

/-- **The DDL text of every type is read.** -/
theorem readType_toDdlType (t : ExasolType) :
    (readType t.toDdlType : Exec ε _) = .ok (some (readBack t)) := by
  cases t with
  | boolean | double | date | intervalYearToMonth => rfl
  | timestamp tz => cases tz <;> rfl
  | char size =>
    have htext : (ExasolType.char size).toDdlType = "CHAR(".toList ++ (natText size ++ [')']) :=
      List.append_assoc _ _ _
    have hparam : (extractSingleParam ("CHAR(".toList ++ (natText size ++ [')'])) : Exec ε _) =
        .ok (parseI64? (natText size)) :=
      @extractSingleParam_append ε "CHAR".toList _ [] (by decide) (by decide) (notMem_natText rfl)
    rw [htext, readType_char, hparam, parseI64?_natText]
    rfl
  | varchar size =>
    have htext : (ExasolType.varchar size).toDdlType =
        "VARCHAR(".toList ++ (natText size ++ [')']) := List.append_assoc _ _ _
    have hparam : (extractSingleParam ("VARCHAR(".toList ++ (natText size ++ [')'])) :
        Exec ε _) = .ok (parseI64? (natText size)) :=
      @extractSingleParam_append ε "VARCHAR".toList _ [] (by decide) (by decide)
        (notMem_natText rfl)
    rw [htext, readType_varchar, hparam, parseI64?_natText]
    rfl
  | hashtype size =>
    have hinner : ')' ∉ natText size ++ " BYTE".toList := by
      rw [List.mem_append, not_or]
      exact ⟨notMem_natText rfl, by decide⟩
    have htext : (ExasolType.hashtype size).toDdlType =
        "HASHTYPE(".toList ++ (natText size ++ " BYTE".toList ++ [')']) := by
      rw [List.append_assoc]
      exact List.append_assoc _ _ _
    have hparam : (extractSingleParam ("HASHTYPE(".toList ++
        (natText size ++ " BYTE".toList ++ [')'])) : Exec ε _) =
          .ok (parseI64? (natText size ++ " BYTE".toList)) :=
      @extractSingleParam_append ε "HASHTYPE".toList _ [] (by decide) (by decide) hinner
    rw [htext, readType_hashtype, hparam, parseI64?_bytes]
    rfl
  | decimal precision scale =>
    have hinner : ')' ∉ natText precision.toNat ++ ',' :: intText scale.val := by
      rw [List.mem_append, List.mem_cons, not_or, not_or]
      exact ⟨notMem_natText rfl, by decide, notMem_intText (by decide) rfl⟩
    have htext : (ExasolType.decimal precision scale).toDdlType = "DECIMAL(".toList ++
        (natText precision.toNat ++ ',' :: intText scale.val ++ [')']) :=
      append_pair "DECIMAL(".toList _ _
    have hparam : (extractTwoParams ("DECIMAL(".toList ++
        (natText precision.toNat ++ ',' :: intText scale.val ++ [')'])) : Exec ε _) =
          .ok (parsePair? (natText precision.toNat ++ ',' :: intText scale.val)) :=
      @extractTwoParams_append ε "DECIMAL".toList _ [] (by decide) (by decide) hinner
    rw [htext, readType_decimal, hparam, parsePair?_append]
    rfl
  | intervalDayToSecond precision =>
    have htext : (ExasolType.intervalDayToSecond precision).toDdlType =
        "INTERVAL DAY(9) TO SECOND(".toList ++ (natText precision.toNat ++ [')']) :=
      List.append_assoc "INTERVAL DAY(9) TO SECOND(".toList _ _
    have hparam : extractLastParam ("INTERVAL DAY(9) TO SECOND(".toList ++
        (natText precision.toNat ++ [')'])) = parseI64? (natText precision.toNat) :=
      extractLastParam_append "INTERVAL DAY(9) TO SECOND".toList (notMem_natText rfl)
        List.not_mem_nil List.not_mem_nil
    rw [htext, readType_daySecond, hparam, parseI64?_natText, ofInt?_byte]
    rfl
  | geometry srid =>
    cases srid with
    | none => rfl
    | some srid =>
      have hfits : SInt.ofInt? 64 srid.val = some (srid.extend 64 SInt.le_32_64) :=
        SInt.ofInt?_eq_some.mpr rfl
      have htext : (ExasolType.geometry (some srid)).toDdlType =
          "GEOMETRY(".toList ++ (intText srid.val ++ [')']) := List.append_assoc _ _ _
      have hparam : (extractSingleParam ("GEOMETRY(".toList ++ (intText srid.val ++ [')'])) :
          Exec ε _) = .ok (parseI64? (intText srid.val)) :=
        @extractSingleParam_append ε "GEOMETRY".toList _ [] (by decide) (by decide)
          (notMem_intText (by decide) rfl)
      rw [htext, readType_geometry, hparam, parseI64?_intText, hfits]
      rfl

/-- The types that come back from their DDL text. -/
def ComesBack : ExasolType → Prop
  | .hashtype size => size = 16
  | .char size | .varchar size => size < 2 ^ 63
  | _ => True

theorem asU8_wrap (n : UInt8) : asU8 (SInt.wrap 64 SInt.pos_64 n.toNat).val = n := by
  have hval := SInt.ofInt?_eq_some.mp (ofInt?_byte n)
  have hlt : n.toNat < 256 := n.toNat_lt
  have hmod : ((n.toNat : ℤ) % 256).toNat = n.toNat := by omega
  rw [hval, asU8, hmod, UInt8.ofNat_toNat]

theorem asUsize_of_fits {n : ℕ} {a : SInt 64} (h : SInt.ofInt? 64 n = some a) :
    asUsize a.val = n := by
  have hval := SInt.ofInt?_eq_some.mp h
  have hlt := a.lt
  have hmod : ((n : ℤ) % 2 ^ 64).toNat = n := by
    norm_num at hlt ⊢
    omega
  rw [hval, asUsize, hmod]

/-- Sizes are read back exactly if 64 bits with a sign hold them. -/
theorem asUsize_getD_iff (n : ℕ) {d : SInt 64} (hd : (asUsize d.val) < 2 ^ 63) :
    asUsize ((SInt.ofInt? 64 n).getD d).val = n ↔ n < 2 ^ 63 := by
  rcases h : SInt.ofInt? 64 (n : ℤ) with _ | a
  · have hout := SInt.ofInt?_eq_none.mp h
    rw [Option.getD_none]
    constructor
    · intro heq
      rwa [heq] at hd
    · intro hlt
      norm_num at hout hlt
      omega
  · have hlt := a.lt
    rw [SInt.ofInt?_eq_some.mp h] at hlt
    rw [Option.getD_some, asUsize_of_fits h]
    refine iff_of_true rfl ?_
    exact_mod_cast hlt

theorem cast_readBack_iff (t : ExasolType) : (readBack t).cast = t ↔ ComesBack t := by
  have hone : asUsize (1 : SInt 64).val < 2 ^ 63 := by decide
  have hmax : asUsize (2000000 : SInt 64).val < 2 ^ 63 := by decide
  cases t with
  | boolean | double | date | timestamp | intervalYearToMonth => exact iff_of_true rfl trivial
  | char size =>
    refine Iff.trans ⟨fun h => ?_, fun h => ?_⟩ (asUsize_getD_iff size hone)
    · exact ExasolType.char.inj h
    · exact congrArg ExasolType.char h
  | varchar size =>
    refine Iff.trans ⟨fun h => ?_, fun h => ?_⟩ (asUsize_getD_iff size hmax)
    · exact ExasolType.varchar.inj h
    · exact congrArg ExasolType.varchar h
  | hashtype size =>
    refine ⟨fun h => ?_, fun h => ?_⟩
    · exact (ExasolType.hashtype.inj h).symm
    · rw [show size = 16 from h]
      rfl
  | decimal precision scale =>
    refine iff_of_true ?_ trivial
    have hscale : asI8 (scale.extend 64 le_8_64).val = scale := SInt.wrap_val SInt.pos_8 scale
    exact congrArg₂ ExasolType.decimal (asU8_wrap precision) hscale
  | intervalDayToSecond precision =>
    exact iff_of_true (congrArg ExasolType.intervalDayToSecond (asU8_wrap precision)) trivial
  | geometry srid =>
    refine iff_of_true ?_ trivial
    cases srid with
    | none => rfl
    | some srid =>
      have hsrid : SInt.wrap 32 SInt.pos_32 (srid.extend 64 SInt.le_32_64).val = srid :=
        SInt.wrap_val SInt.pos_32 srid
      exact congrArg (fun n => ExasolType.geometry (some n)) hsrid

/-- **Which types come back from their DDL text.** -/
theorem parse_toDdlType_iff (t : ExasolType) :
    parseExasolTypeString (String.ofList t.toDdlType) = .ok t ↔ ComesBack t := by
  have hparse : parseExasolTypeString (String.ofList t.toDdlType) = .ok (readBack t).cast := by
    rw [parseExasolTypeString, typeUpper_toDdlType, readType_toDdlType]
    rfl
  rw [hparse, ← cast_readBack_iff]
  exact ⟨fun h => Except.ok.inj h, fun h => congrArg Except.ok h⟩

/-! ### Where parentheses stand -/

/-- The first closing parenthesis stands before the first opening one. -/
def Crossed (u : List Char) : Prop := ∃ s t, u = s ++ ')' :: t ∧ '(' ∉ s ∧ ')' ∉ s ∧ '(' ∈ t

/-- What stands between the first parentheses. -/
def Inside (u inner : List Char) : Prop :=
  ∃ s t, u = s ++ '(' :: inner ++ ')' :: t ∧ '(' ∉ s ∧ ')' ∉ s ∧ ')' ∉ inner

/-- What stands between the last parentheses. -/
def LastInside (u inner : List Char) : Prop :=
  ∃ s t, u = s ++ '(' :: inner ++ ')' :: t ∧ '(' ∉ inner ∧ '(' ∉ t ∧ ')' ∉ t

theorem find_eq_none {a : Char} {s : List Char} : find a s = none ↔ a ∉ s := by
  rw [find, Option.map_eq_none_iff, splitOnce_eq_none_iff]

theorem find_eq_some {a : Char} {s : List Char} {i : ℕ} :
    find a s = some i ↔ ∃ x y, s = x ++ a :: y ∧ a ∉ x ∧ x.length = i := by
  rw [find, Option.map_eq_some_iff]
  constructor
  · rintro ⟨⟨x, y⟩, h, rfl⟩
    obtain ⟨heq, hx⟩ := splitOnce_eq_some.mp h
    exact ⟨x, y, heq, hx, rfl⟩
  · rintro ⟨x, y, heq, hx, rfl⟩
    exact ⟨(x, y), splitOnce_eq_some.mpr ⟨heq, hx⟩, rfl⟩

theorem not_crossed_of_inside {u inner : List Char} (h : Inside u inner) : ¬Crossed u := by
  obtain ⟨s, t, rfl, -, hs, hinner⟩ := h
  rintro ⟨s', t', heq, hopen, hclose, -⟩
  have hfront : ')' ∉ s ++ '(' :: inner := by
    rw [List.mem_append, List.mem_cons, not_or, not_or]
    exact ⟨hs, by decide, hinner⟩
  have hsame := splitOnce_append hfront t
  rw [heq, splitOnce_append hclose] at hsame
  have hs' : s' = s ++ '(' :: inner := congrArg Prod.fst (Option.some.inj hsame)
  exact hopen (hs' ▸ List.mem_append_right _ List.mem_cons_self)

/-- The text inside the first parentheses is one. -/
theorem Inside.unique {u x y : List Char} (hx : Inside u x) (hy : Inside u y) : x = y := by
  obtain ⟨s, t, rfl, hs, -, hinner⟩ := hx
  obtain ⟨s', t', heq, hs', -, hinner'⟩ := hy
  rw [List.append_assoc, List.append_assoc, List.cons_append, List.cons_append] at heq
  have hsame := splitOnce_append hs (x ++ ')' :: t)
  rw [heq, splitOnce_append hs'] at hsame
  have hrest : y ++ ')' :: t' = x ++ ')' :: t := congrArg Prod.snd (Option.some.inj hsame)
  have hsplit := splitOnce_append hinner t
  rw [← hrest, splitOnce_append hinner'] at hsplit
  exact (congrArg Prod.fst (Option.some.inj hsplit)).symm

/-- Without one of the parentheses nothing is crossed, and nothing is inside. -/
theorem mem_of_crossed_or_inside {u : List Char} (h : Crossed u ∨ ∃ inner, Inside u inner) :
    '(' ∈ u ∧ ')' ∈ u := by
  rcases h with ⟨s, t, rfl, -, -, ht⟩ | ⟨inner, s, t, rfl, -, -, -⟩
  · exact ⟨List.mem_append_right _ (List.mem_cons_of_mem _ ht),
      List.mem_append_right _ List.mem_cons_self⟩
  · exact ⟨List.mem_append_left _ (List.mem_append_right _ List.mem_cons_self),
      List.mem_append_right _ List.mem_cons_self⟩

/-- What both searches between the first parentheses do: they stop when these
are crossed, read what is inside, or find nothing. -/
theorem extract_cases (u : List Char) :
    (Crossed u ∧ (extractSingleParam u : Exec ε _) = stop ∧
      (extractTwoParams u : Exec ε _) = stop) ∨
    (∃ inner, Inside u inner ∧ (extractSingleParam u : Exec ε _) = .ok (parseI64? inner) ∧
      (extractTwoParams u : Exec ε _) = .ok (parsePair? inner)) ∨
    (¬Crossed u ∧ (∀ inner, ¬Inside u inner) ∧ (extractSingleParam u : Exec ε _) = .ok none ∧
      (extractTwoParams u : Exec ε _) = .ok none) := by
  by_cases hopen : '(' ∈ u
  · by_cases hclose : ')' ∈ u
    · obtain ⟨⟨x, y⟩, hsplit⟩ := Option.ne_none_iff_exists'.mp fun h =>
        splitOnce_eq_none_iff.mp h hopen
      obtain ⟨rfl, hx⟩ := splitOnce_eq_some.mp hsplit
      by_cases hbefore : ')' ∈ x
      · -- the first closing parenthesis stands before the first opening one
        obtain ⟨⟨s, t⟩, hfirst⟩ := Option.ne_none_iff_exists'.mp fun h =>
          splitOnce_eq_none_iff.mp h hbefore
        obtain ⟨rfl, hs⟩ := splitOnce_eq_some.mp hfirst
        have hassoc : s ++ ')' :: t ++ '(' :: y = s ++ ')' :: (t ++ '(' :: y) := by simp
        have hopens : find '(' (s ++ ')' :: t ++ '(' :: y) = some (s ++ ')' :: t).length :=
          find_append hx y
        have hcloses : find ')' (s ++ ')' :: t ++ '(' :: y) = some s.length := by
          rw [hassoc, find_append hs]
        have hlt : ¬(s ++ ')' :: t).length + 1 ≤ s.length := by
          rw [List.length_append]
          omega
        refine .inl ⟨⟨s, _, hassoc, fun h => hx (List.mem_append_left _ h), hs,
          List.mem_append_right _ List.mem_cons_self⟩, ?_, ?_⟩
        · rw [extractSingleParam, hopens, hcloses]
          dsimp only
          rw [between, if_neg hlt]
          rfl
        · rw [extractTwoParams, hopens, hcloses]
          dsimp only
          rw [between, if_neg hlt]
          rfl
      · have hafter : ')' ∈ y := by
          rcases List.mem_append.mp hclose with h | h
          · exact absurd h hbefore
          · exact (List.mem_cons.mp h).resolve_left (by decide)
        obtain ⟨⟨inner, t⟩, hfirst⟩ := Option.ne_none_iff_exists'.mp fun h =>
          splitOnce_eq_none_iff.mp h hafter
        obtain ⟨rfl, hinner⟩ := splitOnce_eq_some.mp hfirst
        have hassoc : x ++ '(' :: (inner ++ ')' :: t) = x ++ '(' :: inner ++ ')' :: t := by simp
        rw [hassoc]
        exact .inr (.inl ⟨inner, ⟨x, t, rfl, hx, hbefore, hinner⟩,
          extractSingleParam_append hx hbefore hinner, extractTwoParams_append hx hbefore hinner⟩)
    · have hno := fun h => hclose (mem_of_crossed_or_inside h).2
      refine .inr (.inr ⟨fun h => hno (.inl h), fun inner h => hno (.inr ⟨inner, h⟩), ?_, ?_⟩)
      · rw [extractSingleParam, find_eq_none.mpr hclose]
        cases find '(' u <;> rfl
      · rw [extractTwoParams, find_eq_none.mpr hclose]
        cases find '(' u <;> rfl
  · have hno := fun h => hopen (@mem_of_crossed_or_inside u h).1
    refine .inr (.inr ⟨fun h => hno (.inl h), fun inner h => hno (.inr ⟨inner, h⟩), ?_, ?_⟩)
    · rw [extractSingleParam, find_eq_none.mpr hopen]
    · rw [extractTwoParams, find_eq_none.mpr hopen]

/-- What the search between the last parentheses does. -/
theorem extractLastParam_eq_some {u : List Char} {n : SInt 64} :
    extractLastParam u = some n ↔ ∃ inner, LastInside u inner ∧ parseI64? inner = some n := by
  constructor
  · intro h
    rcases hopen : rsplitOnce '(' u with _ | ⟨x, y⟩
    · rw [extractLastParam, rfind, hopen] at h
      cases h
    rcases hclose : rsplitOnce ')' u with _ | ⟨x', t⟩
    · rw [extractLastParam, rfind, rfind, hopen, hclose] at h
      cases h
    obtain ⟨rfl, hy⟩ := rsplitOnce_eq_some.mp hopen
    obtain ⟨heq, ht⟩ := rsplitOnce_eq_some.mp hclose
    rw [extractLastParam, rfind, rfind, hopen, hclose] at h
    dsimp only [Option.map_some] at h
    by_cases hlt : x.length < x'.length
    · obtain ⟨inner, rfl⟩ : ∃ inner, x' = x ++ '(' :: inner := by
        have hle : (x ++ ['(']).length ≤ x'.length := by
          rw [List.length_append, List.length_singleton]
          exact hlt
        have hassoc : (x ++ ['(']) ++ y = x' ++ ')' :: t := by simpa using heq
        obtain ⟨inner, hinner⟩ := List.prefix_of_prefix_length_le
          ⟨y, hassoc⟩ (List.prefix_append x' (')' :: t)) hle
        exact ⟨inner, by simpa using hinner.symm⟩
      rw [if_pos hlt, heq, take_drop_between] at h
      have hy' : y = inner ++ ')' :: t := by simpa using heq
      rw [hy', List.mem_append, List.mem_cons, not_or, not_or] at hy
      exact ⟨inner, ⟨x, t, heq, hy.1, hy.2.2, ht⟩, h⟩
    · rw [if_neg hlt] at h
      cases h
  · rintro ⟨inner, ⟨s, t, rfl, hinner, ht, ht'⟩, h⟩
    rw [extractLastParam_append s hinner ht ht', h]

/-! ### Families -/

/-- The family that a text belongs to. -/
inductive Family where
  | fixed
  | daySecond
  | geometry
  | sized
  | decimal
  | unknown
  deriving DecidableEq

/-- **The family of a text**, found by the beginnings alone. -/
def family (u : List Char) : Family :=
  if (parseUnparameterizedType u <|> parseLargeCharacterType u).isSome then .fixed
  else if startsWith "TIMESTAMP" u ∨ (startsWith "INTERVAL YEAR" u ∧ occursIn "TO MONTH".toList u)
  then .fixed
  else if startsWith "INTERVAL DAY" u ∧ occursIn "TO SECOND".toList u then .daySecond
  else if startsWith "GEOMETRY" u then .geometry
  else if startsWith "HASHTYPE" u ∨ startsWith "CHAR" u ∨ startsWith "VARCHAR" u then .sized
  else if startsWith "DECIMAL" u ∨ startsWith "NUMERIC" u then .decimal
  else .unknown

/-- A type with a size. -/
inductive Sized : (SInt 64 → ParsedType) → SInt 64 → Prop
  | hashtype : Sized .hashtype 16
  | char : Sized .char 1
  | varchar : Sized .varchar 2000000

/-- What is read in a family. -/
def Read (u : List Char) (r : Exec ε (Option ParsedType)) : Family → Prop
  | .fixed => ∃ t, r = .ok (some (.plain t))
  | .daySecond => r = .ok (some (.intervalDayToSecond ((extractLastParam u).getD 3)))
  | .geometry => r = (extractSingleParam u).bind fun srid => .ok (some (.geometry srid))
  | .sized => ∃ f d, Sized f d ∧
      r = (extractSingleParam u).bind fun size => .ok (some (f (size.getD d)))
  | .decimal => r = (extractTwoParams u).bind fun digits =>
      .ok (some (.decimal (digits.getD (18, 0)).1 (digits.getD (18, 0)).2))
  | .unknown => r = .ok none

/-- A longer beginning has the shorter one. -/
theorem startsWith_char_of_varying {u : List Char} (h : startsWith "CHAR VARYING" u = true) :
    startsWith "CHAR" u = true := by
  have hshort : "CHAR".toList <+: "CHAR VARYING".toList := ⟨" VARYING".toList, rfl⟩
  exact List.isPrefixOf_iff_prefix.mpr (hshort.trans (List.isPrefixOf_iff_prefix.mp h))

theorem readSized (u : List Char) (hgeometry : startsWith "GEOMETRY" u = false)
    (h : startsWith "HASHTYPE" u ∨ startsWith "CHAR" u ∨ startsWith "VARCHAR" u) :
    Read u (parseSizedType u : Exec ε _) .sized := by
  unfold parseSizedType
  rw [hgeometry, if_neg Bool.false_ne_true]
  by_cases hhash : startsWith "HASHTYPE" u = true
  · rw [if_pos hhash]
    exact ⟨_, _, .hashtype, rfl⟩
  rw [if_neg hhash]
  by_cases hvarying : startsWith "CHAR VARYING" u = true
  · rw [if_neg fun hc => hc.2 hvarying, if_pos (.inr hvarying)]
    exact ⟨_, _, .varchar, rfl⟩
  by_cases hchar : startsWith "CHAR" u = true
  · rw [if_pos ⟨hchar, hvarying⟩]
    exact ⟨_, _, .char, rfl⟩
  · have hvarchar := (h.resolve_left hhash).resolve_left hchar
    rw [if_neg fun hc => hchar hc.1, if_pos (.inl hvarchar)]
    exact ⟨_, _, .varchar, rfl⟩

section Orders

variable {u : List Char}
  (hfixed : (parseUnparameterizedType u <|> parseLargeCharacterType u) = none)

include hfixed

theorem readType_of_temporal {p : ParsedType} (h : parseTemporalType u = some p) :
    (readType u : Exec ε _) = .ok (some p) := by
  rw [readType, hfixed, h]

theorem readType_of_sized (h : parseTemporalType u = none) :
    (readType u : Exec ε _) = parseSizedType u := by
  rw [readType, hfixed, h]

end Orders

/-- **What is read of a text, family by family.** -/
theorem read_readType (u : List Char) : Read u (readType u : Exec ε _) (family u) := by
  unfold family
  rcases hfixed : (parseUnparameterizedType u <|> parseLargeCharacterType u) with _ | t
  swap
  · rw [Option.isSome_some, if_pos rfl]
    exact ⟨t, by rw [readType, hfixed]⟩
  rw [Option.isSome_none, if_neg Bool.false_ne_true]
  by_cases hstamp : startsWith "TIMESTAMP" u = true
  · rw [if_pos (.inl hstamp)]
    exact ⟨_, readType_of_temporal hfixed (by rw [parseTemporalType, if_pos hstamp])⟩
  by_cases hyear : startsWith "INTERVAL YEAR" u = true ∧ occursIn "TO MONTH".toList u = true
  · rw [if_pos (.inr hyear)]
    exact ⟨_, readType_of_temporal hfixed
      (by rw [parseTemporalType, if_neg hstamp, if_pos hyear])⟩
  rw [if_neg (not_or.mpr ⟨hstamp, hyear⟩)]
  by_cases hday : startsWith "INTERVAL DAY" u = true ∧ occursIn "TO SECOND".toList u = true
  · rw [if_pos hday]
    exact readType_of_temporal hfixed
      (by rw [parseTemporalType, if_neg hstamp, if_neg hyear, if_pos hday])
  have hnone : parseTemporalType u = none := by
    rw [parseTemporalType, if_neg hstamp, if_neg hyear, if_neg hday]
  rw [if_neg hday, readType_of_sized hfixed hnone]
  by_cases hgeometry : startsWith "GEOMETRY" u = true
  · rw [if_pos hgeometry, parseSizedType, if_pos hgeometry]
    rfl
  rw [if_neg hgeometry]
  by_cases hsized : startsWith "HASHTYPE" u = true ∨ startsWith "CHAR" u = true ∨
      startsWith "VARCHAR" u = true
  · rw [if_pos hsized]
    exact readSized u (Bool.eq_false_iff.mpr hgeometry) hsized
  rw [if_neg hsized]
  rw [not_or, not_or] at hsized
  have hvarying : ¬startsWith "CHAR VARYING" u = true := fun h =>
    hsized.2.1 (startsWith_char_of_varying h)
  rw [parseSizedType, if_neg hgeometry, if_neg hsized.1, if_neg fun h => hsized.2.1 h.1,
    if_neg (not_or.mpr ⟨hsized.2.2, hvarying⟩)]
  by_cases hdecimal : startsWith "DECIMAL" u = true ∨ startsWith "NUMERIC" u = true
  · rw [if_pos hdecimal, if_pos hdecimal]
    rfl
  · rw [if_neg hdecimal, if_neg hdecimal]
    rfl

/-! ### Sound texts -/

/-- A number of some width, between two bounds. -/
def Within (least greatest : ℤ) (n : SInt 64) : Prop := least ≤ n.val ∧ n.val ≤ greatest

/-- **The texts of a family whose parentheses are not crossed and whose numbers
fit.** -/
def Fine (u : List Char) : Family → Prop
  | .fixed | .unknown => True
  | .daySecond => ∀ inner, LastInside u inner → ∀ n, parseI64? inner = some n → Within 0 255 n
  | .geometry => ¬Crossed u ∧ ∀ inner, Inside u inner → ∀ n, parseI64? inner = some n →
      Within (-2147483648) 2147483647 n
  | .sized => ¬Crossed u ∧ ∀ inner, Inside u inner → ∀ n, parseI64? inner = some n → 0 ≤ n.val
  | .decimal => ¬Crossed u ∧ ∀ inner, Inside u inner → ∀ n m, parsePair? inner = some (n, m) →
      Within 0 255 n ∧ Within (-128) 127 m

/-- **A text is read without a panic and without a parameter that a cast
changes.** -/
structure Sound (typeStr : String) : Prop where
  returns : parseExasolTypeString typeStr ≠ stop
  unwrapped : ∀ t, parseExasolTypeString typeStr = .ok t →
    ∃ p, (readType (typeUpper typeStr) : Exec AdbcError _) = .ok (some p) ∧ t = p.cast ∧ p.Kept

theorem asU8_eq_iff (n : SInt 64) : ((asU8 n.val).toNat : ℤ) = n.val ↔ Within 0 255 n := by
  have hlt : (n.val % 256).toNat < 256 := by omega
  rw [asU8, UInt8.toNat_ofNat_of_lt' hlt, Within]
  omega

theorem asUsize_eq_iff (n : SInt 64) : (asUsize n.val : ℤ) = n.val ↔ 0 ≤ n.val := by
  have hlt := n.lt
  norm_num at hlt
  rw [asUsize]
  norm_num
  omega

/-- A cast to fewer bits changes nothing exactly within these. -/
theorem wrap_eq_iff {w : ℕ} (hw : 0 < w) (x : ℤ) :
    (SInt.wrap w hw x).val = x ↔ -2 ^ (w - 1) ≤ x ∧ x ≤ 2 ^ (w - 1) - 1 := by
  constructor
  · intro h
    have hge := (SInt.wrap w hw x).ge
    have hlt := (SInt.wrap w hw x).lt
    rw [h] at hge hlt
    exact ⟨hge, Int.le_sub_one_of_lt hlt⟩
  · rintro ⟨hge, hle⟩
    exact SInt.val_wrap_of_mem hw hge (Int.lt_of_le_sub_one hle)

theorem Sized.kept_iff {f : SInt 64 → ParsedType} {d : SInt 64} (h : Sized f d) (n : SInt 64) :
    (f n).Kept ↔ 0 ≤ n.val := by
  cases h <;> exact asUsize_eq_iff n

theorem Sized.default_kept {f : SInt 64 → ParsedType} {d : SInt 64} (h : Sized f d) :
    0 ≤ d.val := by
  cases h <;> decide

/-- What is read is sound. -/
def SoundRead (r : Exec ε (Option ParsedType)) : Prop :=
  r ≠ stop ∧ ∀ p, r = .ok (some p) → p.Kept

theorem soundRead_ok {p : ParsedType} :
    SoundRead (.ok (some p) : Exec ε (Option ParsedType)) ↔ p.Kept := by
  refine ⟨fun h => h.2 p rfl, fun h => ⟨fun hstop => ?_, fun q hq => ?_⟩⟩
  · cases hstop
  · cases hq
    exact h

/-- **Parameters are read soundly** exactly if the parentheses are not crossed
and every value inside is kept. -/
theorem soundRead_bind {β : Type} {u : List Char} {extract : Exec ε (Option β)}
    {parse : List Char → Option β} {g : Option β → ParsedType} {Q : β → Prop}
    (hcases : (Crossed u ∧ extract = stop) ∨ (∃ inner, Inside u inner ∧
      extract = .ok (parse inner)) ∨ (¬Crossed u ∧ (∀ inner, ¬Inside u inner) ∧
        extract = .ok none))
    (hnone : (g none).Kept) (hsome : ∀ b, (g (some b)).Kept ↔ Q b) :
    SoundRead (extract.bind fun b => .ok (some (g b))) ↔
      ¬Crossed u ∧ ∀ inner, Inside u inner → ∀ b, parse inner = some b → Q b := by
  rcases hcases with ⟨hcrossed, rfl⟩ | ⟨inner, hinner, rfl⟩ | ⟨hcrossed, hno, rfl⟩
  · exact iff_of_false (fun h => h.1 rfl) fun h => h.1 hcrossed
  · refine soundRead_ok.trans ⟨fun h => ⟨not_crossed_of_inside hinner, fun x hx b hb => ?_⟩,
      fun h => ?_⟩
    · rw [hinner.unique hx, hb] at h
      exact (hsome b).mp h
    · rcases hb : parse inner with _ | b
      · exact hnone
      · exact (hsome b).mpr (h.2 inner hinner b hb)
  · exact iff_of_true (soundRead_ok.mpr hnone) ⟨hcrossed, fun x hx => absurd hx (hno x)⟩

/-- **What a family reads is sound** exactly on its fine texts. -/
theorem soundRead_iff {u : List Char} {r : Exec ε (Option ParsedType)} {f : Family}
    (h : Read u r f) : SoundRead r ↔ Fine u f := by
  have hsingle : (Crossed u ∧ (extractSingleParam u : Exec ε _) = stop) ∨ (∃ inner, Inside u inner ∧
      (extractSingleParam u : Exec ε _) = .ok (parseI64? inner)) ∨ (¬Crossed u ∧
        (∀ inner, ¬Inside u inner) ∧ (extractSingleParam u : Exec ε _) = .ok none) := by
    rcases @extract_cases ε u with ⟨h, h', -⟩ | ⟨x, h, h', -⟩ | ⟨h, h', h'', -⟩
    · exact .inl ⟨h, h'⟩
    · exact .inr (.inl ⟨x, h, h'⟩)
    · exact .inr (.inr ⟨h, h', h''⟩)
  cases f with
  | fixed =>
    obtain ⟨t, rfl⟩ := h
    exact soundRead_ok
  | unknown =>
    rw [show r = .ok none from h]
    refine iff_of_true ⟨fun hstop => ?_, fun p hp => ?_⟩ trivial
    · cases hstop
    · cases hp
  | daySecond =>
    rw [show r = _ from h]
    have hkept (n : SInt 64) : (ParsedType.intervalDayToSecond n).Kept ↔ Within 0 255 n :=
      asU8_eq_iff n
    refine (soundRead_ok.trans (hkept _)).trans ⟨fun hin inner hinner n hn => ?_,
      fun hfine => ?_⟩
    · rw [extractLastParam_eq_some.mpr ⟨inner, hinner, hn⟩] at hin
      exact hin
    · rcases hlast : extractLastParam u with _ | n
      · exact ⟨by decide, by decide⟩
      · obtain ⟨inner, hinner, hn⟩ := extractLastParam_eq_some.mp hlast
        exact hfine inner hinner n hn
  | geometry =>
    rw [show r = _ from h]
    refine soundRead_bind hsingle (fun n hn => ?_) fun n => ?_
    · cases hn
    · refine Iff.trans ⟨fun hkept => hkept n rfl, fun hkept m hm => ?_⟩
        (wrap_eq_iff SInt.pos_32 n.val)
      rw [← Option.some.inj hm]
      exact hkept
  | sized =>
    obtain ⟨g, d, hg, rfl⟩ := h
    exact soundRead_bind hsingle ((hg.kept_iff d).mpr hg.default_kept) hg.kept_iff
  | decimal =>
    rw [show r = _ from h]
    have hpair : (Crossed u ∧ (extractTwoParams u : Exec ε _) = stop) ∨ (∃ inner, Inside u inner ∧
        (extractTwoParams u : Exec ε _) = .ok (parsePair? inner)) ∨ (¬Crossed u ∧
          (∀ inner, ¬Inside u inner) ∧ (extractTwoParams u : Exec ε _) = .ok none) := by
      rcases @extract_cases ε u with ⟨h, -, h'⟩ | ⟨x, h, -, h'⟩ | ⟨h, h', -, h''⟩
      · exact .inl ⟨h, h'⟩
      · exact .inr (.inl ⟨x, h, h'⟩)
      · exact .inr (.inr ⟨h, h', h''⟩)
    have hkept (n m : SInt 64) :
        (ParsedType.decimal n m).Kept ↔ Within 0 255 n ∧ Within (-128) 127 m :=
      and_congr (asU8_eq_iff n) (wrap_eq_iff SInt.pos_8 m.val)
    have hdefault : (ParsedType.decimal 18 0).Kept := ⟨by decide, by decide⟩
    refine (@soundRead_bind _ _ _ _ parsePair?
      (fun digits => .decimal (digits.getD (18, 0)).1 (digits.getD (18, 0)).2)
      (fun b => Within 0 255 b.1 ∧ Within (-128) 127 b.2) hpair hdefault
      fun b => hkept b.1 b.2).trans ?_
    exact and_congr_right fun _ => ⟨fun h inner hinner n m hm => h inner hinner (n, m) hm,
      fun h inner hinner b hb => h inner hinner b.1 b.2 hb⟩

/-- A type is read soundly exactly if its parameters are. -/
theorem sound_iff_read (typeStr : String) :
    Sound typeStr ↔ SoundRead (readType (typeUpper typeStr) : Exec AdbcError _) := by
  constructor
  · intro h
    refine ⟨fun hstop => h.returns (by rw [parseExasolTypeString, hstop]; rfl), fun p hp => ?_⟩
    obtain ⟨q, hq, -, hkept⟩ := h.unwrapped p.cast (by rw [parseExasolTypeString, hp]; rfl)
    rw [hp] at hq
    cases hq
    exact hkept
  · rintro ⟨hstop, hkept⟩
    rcases hread : (readType (typeUpper typeStr) : Exec AdbcError _) with e | parsed
    · have herror : parseExasolTypeString typeStr = .error e := by
        rw [parseExasolTypeString, hread]
        rfl
      rw [hread] at hstop
      refine ⟨fun h => hstop ?_, fun t ht => ?_⟩
      · rw [herror] at h
        exact congrArg Except.error (Except.error.inj h)
      · rw [herror] at ht
        cases ht
    · cases parsed with
      | none =>
        have herror : parseExasolTypeString typeStr =
            fail ⟨.text ("Unknown Exasol type: " ++ typeStr), .internal⟩ := by
          rw [parseExasolTypeString, hread]
          rfl
        refine ⟨fun h => ?_, fun t ht => ?_⟩
        · rw [herror] at h
          cases h
        · rw [herror] at ht
          cases ht
      | some p =>
        have hok : parseExasolTypeString typeStr = .ok p.cast := by
          rw [parseExasolTypeString, hread]
          rfl
        refine ⟨fun h => ?_, fun t ht => ⟨p, hread, ?_, hkept p hread⟩⟩
        · rw [hok] at h
          cases h
        · rw [hok] at ht
          exact (Except.ok.inj ht).symm

/-- **Which texts are read soundly.** -/
theorem sound_iff (typeStr : String) :
    Sound typeStr ↔ Fine (typeUpper typeStr) (family (typeUpper typeStr)) :=
  (sound_iff_read typeStr).trans (soundRead_iff (read_readType _))

end Written

/-- **The DDL text of a type is read as this type exactly if it comes back, and
a text is read soundly exactly if it is fine for its family.** -/
theorem type_strings (t : ExasolType) (typeStr : String) :
    (parseExasolTypeString (String.ofList t.toDdlType) = .ok t ↔ ComesBack t) ∧
      (Sound typeStr ↔ Fine (typeUpper typeStr) (family (typeUpper typeStr))) :=
  ⟨parse_toDdlType_iff t, sound_iff typeStr⟩

/-- **The unit of a size is not read**: a HASHTYPE of 32 bytes comes back with
16. Crossed parentheses stop the program, and a precision of 300 becomes 44. -/
theorem hashtype_size_is_lost :
    parseExasolTypeString (String.ofList (ExasolType.hashtype 32).toDdlType) =
      .ok (.hashtype 16) ∧
    parseExasolTypeString "GEOMETRY)(" = stop ∧
    parseExasolTypeString "DECIMAL(300,0)" = .ok (.decimal 44 0) := by
  refine ⟨?_, ?_, ?_⟩
  · rw [parseExasolTypeString, typeUpper_toDdlType, readType_toDdlType]
    rfl
  · rfl
  · rfl

end Exarrow.Ffi
