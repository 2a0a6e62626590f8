import Exarrow.Conversion
import Exarrow.Foundations.FloatText
import Exarrow.Types

/-!
# Result columns

Result data as a transport delivers it: rows of JSON values, or a record batch
(`Exarrow.Messages.ResultPayload`). `Exarrow.ResultSet.payloadToRecordBatch` makes
a record batch of it under the schema of the result, column by column
(`Exarrow.ResultSet.jsonColumnToArray`). A value of an unexpected shape becomes a
null; only a decimal text, an interval or an impossible type fails.

What the language and the JSON library leave open is `Exarrow.Platform`.
-/

namespace Exarrow

open Machine Ieee Checked Arrow

/-- What differs between builds and platforms, and the texts in which the JSON
library shows a value. -/
structure Platform where
  /-- What arithmetic does when a result does not fit. -/
  overflow : Overflow
  /-- The powers of ten of floats, whose precision is not specified. -/
  powi10 : SInt 32 → F64
  /-- The JSON text of a value. -/
  display : Json.Value → String
  /-- The text of a value for a developer. -/
  debug : Json.Value → String
  /-- The text of an Arrow type. -/
  displayType : DataType → String

/-- A build that checks its arithmetic. -/
def checkedPlatform : Platform where
  overflow := .panics
  powi10 n := Pattern.ofRat 52 11 false (10 ^ n.val)
  display _ := ""
  debug _ := ""
  displayType _ := ""

/-- The cast of a 64-bit float to a 128-bit integer. -/
def castToI128 (x : F64) : SInt 128 :=
  have h : (-2 ^ 127 : ℤ) ≤ x.toIntSat (-2 ^ 127) (2 ^ 127 - 1) ∧
      x.toIntSat (-2 ^ 127) (2 ^ 127 - 1) ≤ 2 ^ 127 - 1 :=
    F64.toIntSat_mem (by norm_num) (by norm_num) x
  ⟨x.toIntSat (-2 ^ 127) (2 ^ 127 - 1), h.1, Int.lt_of_le_sub_one h.2⟩

/-- Apply a function to every element and its position; the first failure ends it. -/
def eachRow {ε α β : Type} (f : ℕ → α → Exec ε β) (values : List α) : Exec ε (List β) :=
  values.zipIdx.mapM fun p => f p.2 p.1

/-- What success says of every element. -/
theorem eachRow_eq_ok {ε α β : Type} {f : ℕ → α → Exec ε β} {values : List α} {out : List β}
    (h : eachRow f values = .ok out) :
    List.Forall₂ (fun a b => ∃ row, f row a = .ok b) values out := by
  have h2 := mapM_eq_ok.mp h
  have h3 : List.Forall₂ (fun a b => ∃ row, f row a = .ok b) (values.zipIdx.map Prod.fst) out :=
    List.forall₂_map_left_iff.mpr (h2.imp fun p _ hp => ⟨p.2, hp⟩)
  rwa [List.zipIdx_map_fst] at h3

/-- Success, where it does not depend on the positions. -/
theorem eachRow_eq_ok_iff {ε α β : Type} {f : ℕ → α → Exec ε β} {P : α → β → Prop}
    (h : ∀ row a b, f row a = .ok b ↔ P a b) {values : List α} {out : List β} :
    eachRow f values = .ok out ↔ List.Forall₂ P values out := by
  have hpairs : List.Forall₂ (fun (p : α × ℕ) b => f p.2 p.1 = .ok b) values.zipIdx out ↔
      List.Forall₂ (fun p : α × ℕ => P p.1) values.zipIdx out :=
    ⟨fun hf => hf.imp fun (p : α × ℕ) b => (h p.2 p.1 b).mp,
      fun hf => hf.imp fun (p : α × ℕ) b => (h p.2 p.1 b).mpr⟩
  have hfst : List.Forall₂ (fun p : α × ℕ => P p.1) values.zipIdx out ↔
      List.Forall₂ P (values.zipIdx.map Prod.fst) out := List.forall₂_map_left_iff.symm
  unfold eachRow
  rw [mapM_eq_ok, hpairs, hfst, List.zipIdx_map_fst]

/-- The element that fails. -/
theorem eachRow_eq_error {ε α β : Type} {f : ℕ → α → Exec ε β} {values : List α} {e : Fault ε}
    (h : eachRow f values = .error e) : ∃ row a, values[row]? = some a ∧ f row a = .error e := by
  obtain ⟨before, ⟨a, row⟩, after, hsplit, -, hfail⟩ := mapM_eq_error.mp h
  have hmem : (a, row) ∈ values.zipIdx := hsplit ▸ List.mem_append_right before List.mem_cons_self
  exact ⟨row, a, List.mem_zipIdx_iff_getElem?.mp hmem, hfail⟩

/-- What success says of the element at a position. -/
theorem getElem?_of_eachRow {ε α β : Type} {f : ℕ → α → Exec ε β} {values : List α}
    {out : List β} (h : eachRow f values = .ok out) {i : ℕ} {a : α} (ha : values[i]? = some a) :
    ∃ b, out[i]? = some b ∧ f i a = .ok b := by
  have h2 := mapM_eq_ok.mp h
  obtain ⟨hi, rfl⟩ := List.getElem?_eq_some_iff.mp ha
  have hi' : i < values.zipIdx.length := by rw [List.length_zipIdx]; exact hi
  have ho : i < out.length := h2.length_eq ▸ hi'
  have hget := (List.forall₂_iff_get.mp h2).2 i hi' ho
  simp only [List.get_eq_getElem, List.getElem_zipIdx, Nat.zero_add] at hget
  exact ⟨out[i], List.getElem?_eq_getElem ho, hget⟩

theorem length_of_eachRow {ε α β : Type} {f : ℕ → α → Exec ε β} {values : List α} {out : List β}
    (h : eachRow f values = .ok out) : out.length = values.length := by
  rw [← (mapM_eq_ok.mp h).length_eq, List.length_zipIdx]

/-- The check that Arrow makes of the digits of a decimal type. -/
def checkDecimalType (precision : UInt8) (scale : SInt 8) : Except ArrowError Unit :=
  if precision = 0 ∨ 38 < precision.toNat ∨ 38 < scale.val ∨
      (0 < scale.val ∧ precision.toNat < scale.val.toNat) then
    .error (.decimalType precision scale)
  else .ok ()

namespace Messages

/-- Result data: rows of JSON values or a record batch. -/
inductive ResultPayload where
  | json (rows : List (List Json.Value))
  | arrow (batch : RecordBatch)

/-- The number of rows. -/
def ResultPayload.numRows : ResultPayload → ℕ
  | json rows => rows.length
  | arrow batch => batch.numRows

/-- Whether there are no rows. -/
def ResultPayload.isEmpty : ResultPayload → Bool
  | json rows => rows.isEmpty
  | arrow batch => batch.numRows == 0

/-- Result data with its columns and the reported number of rows. -/
structure ResultData where
  /-- The columns. -/
  columns : List ColumnInfo
  /-- The data. -/
  data : ResultPayload
  /-- The number of rows that the server reports. -/
  totalRows : SInt 64

/-- Data is empty exactly when it has no rows. -/
theorem ResultPayload.isEmpty_iff (p : ResultPayload) : p.isEmpty = true ↔ p.numRows = 0 := by
  cases p with
  | json rows => exact List.isEmpty_iff_length_eq_zero
  | arrow batch => exact beq_iff_eq

end Messages

/-- Why a decimal text could not be scaled. -/
structure DecimalParseFailure where
  /-- What went wrong. -/
  reason : String
  /-- Whether a number did not fit. -/
  overflow : Bool

namespace DecimalParseFailure

/-- A text of the wrong form. -/
def invalid (reason : String) : DecimalParseFailure := ⟨reason, false⟩

/-- A number that does not fit. -/
def outOfRange (reason : String) : DecimalParseFailure := ⟨reason, true⟩

/-- The failure of a value at a row. -/
def atRow (row : ℕ) (f : DecimalParseFailure) : ColumnConversionError :=
  .value row f.reason f.overflow

end DecimalParseFailure

/-- Whether a text that is not read as an integer of `w` bits has leading digits
that are too large already; other texts are not well formed. -/
def leadingDigitsOverflow (w : ℕ) (s : List Char) : Bool :=
  let (negative, body) := match s with
    | '-' :: body => (true, body)
    | '+' :: body => (false, body)
    | _ => (false, s)
  let n : ℤ := Numeral.ofDigits (body.takeWhile Char.isDigit)
  (SInt.ofInt? w (if negative then -n else n)).isNone

namespace ResultSet

/-! ### Decimals -/

/-- Read a decimal text as an integer scaled by ten to the scale; digits beyond
the scale are cut. -/
def parseStringToDecimal (ov : Overflow) (s : List Char) (scale : SInt 8) :
    Exec DecimalParseFailure (SInt 128) :=
  if s = [] then fail (.invalid "Empty decimal string")
  else do
    let scaleSize := (scale.val % 2 ^ 64).toNat
    let (integerPart, decimalPart) ←
      decimalParts (.invalid s!"Invalid decimal format: {str s}") s
    let integer ← orFail (if leadingDigitsOverflow 128 integerPart then
        .outOfRange s!"integer part {str integerPart} exceeds the 128-bit range"
      else .invalid s!"Invalid integer part: {str integerPart}") (parseSigned? 128 integerPart)
    let result ← orFail (.outOfRange "Decimal overflow")
      (checkedMul integer (← pow10 ov (scale.val % 2 ^ 32).toNat))
    if decimalPart = [] then return result
    else
      let decimalDigits := min (Text.byteLen decimalPart) scaleSize
      match Text.takeBytes? decimalDigits decimalPart with
      | none => stop
      | some digits =>
        let decimalValue ← orFail (.invalid s!"Invalid decimal part: {str decimalPart}")
          (parseSigned? 128 digits)
        let scaledDecimal ← mul ov decimalValue
          (← pow10 ov ((scaleSize - decimalDigits) % 2 ^ 32))
        let signed ← (if integerPart.head? = some '-' then neg ov scaledDecimal
          else .ok scaledDecimal)
        orFail (.outOfRange "Decimal overflow") (checkedAdd result signed)

variable (pf : Platform)

/-- One value of a decimal column: a text is read, an integer is multiplied in 64
bits, another number as a float, and anything else is a null. -/
def scaleToDecimal (value : Json.Value) (scale : SInt 8) :
    Exec DecimalParseFailure (Option (SInt 128)) :=
  match value.asStr with
  | some text => do return some (← parseStringToDecimal pf.overflow text.toList scale)
  | none =>
    match value.asI64 with
    | some integer => do
      let power : SInt 64 ← fit pf.overflow (10 ^ (scale.val % 2 ^ 32).toNat)
      let product ← mul pf.overflow integer power
      return some (product.extend 128 SInt.le_64_128)
    | none =>
      match value.asF64 with
      | some float =>
        .ok (some (castToI128 (F64.mul float (pf.powi10 (scale.extend 32 SInt.le_8_32)))))
      | none => .ok none

/-! ### Arrays -/

/-- The text of a value for a text column: a string as it is, anything else in its
JSON form. -/
def renderAsText (value : Json.Value) : String := value.asStr.getD (pf.display value)

/-- One value of an interval column. -/
def intervalCell (row : ℕ) : Json.Value →
    Exec ColumnConversionError (Option IntervalMonthDayNano)
  | .null => .ok none
  | .string text => do
    return some (← mapError (.invalidValue row) (parseInterval pf.overflow text.toList))
  | other => fail (.invalidValue row s!"Expected an INTERVAL string, got {pf.display other}")

/-- A value that is read from a text; a text that cannot be read is a null. -/
def textCell {α : Type} (parse : List Char → Exec String α) (value : Json.Value) :
    Exec ColumnConversionError (Option α) :=
  match value.asStr with
  | some s => attempt (parse s.toList)
  | none => .ok none

/-- The array of a column of JSON values. -/
def jsonColumnToArray (field : Field) (values : List Json.Value) :
    Exec ColumnConversionError Column :=
  match field.dataType with
  | .boolean => .ok ⟨.boolean, values.map Json.Value.asBool⟩
  | .int32 => .ok ⟨.int32, values.map fun v => v.asI64.map fun i : SInt 64 =>
      SInt.wrap 32 SInt.pos_32 i.val⟩
  | .int64 => .ok ⟨.int64, values.map Json.Value.asI64⟩
  | .float64 => .ok ⟨.float64, values.map Json.Value.asF64⟩
  | .utf8 => .ok ⟨.utf8, values.map fun v => if v.isNull then none else some (renderAsText pf v)⟩
  | .decimal128 precision scale => do
    mapError (fun e => .other (.arrowError e)) (ofExcept (checkDecimalType precision scale))
    let cells ← eachRow (fun row v =>
      mapError (DecimalParseFailure.atRow row) (scaleToDecimal pf v scale)) values
    return ⟨.decimal128 precision scale, cells⟩
  | .date32 => do
    return ⟨.date32, ← values.mapM (textCell (parseDateToDays pf.overflow))⟩
  | .timestamp _ timezone => do
    let cells ← values.mapM (textCell (parseTimestampToMicros pf.overflow))
    return ⟨.timestamp .microsecond (timezone.map fun _ => "UTC"), cells⟩
  | .interval .monthDayNano => do
    return ⟨.interval .monthDayNano, ← eachRow (intervalCell pf) values⟩
  | .binary => .ok ⟨.binary, values.map fun v => v.asStr.map fun s => Text.bytes s.toList⟩
  | other =>
    fail (.other (.schemaMismatch (s!"Column {field.name} has Arrow type " ++
      s!"{pf.displayType other}, which no result set column maps to")))

/-- The column at an index; a row that is too short has a null there. -/
def columnOf (rows : List (List Json.Value)) (columnIndex : ℕ) : List Json.Value :=
  rows.map fun row => row[columnIndex]?.getD .null

/-- The batch of a schema without rows. -/
def emptyRecordBatch (schema : Schema) : Exec ConversionError RecordBatch :=
  mapError .arrowError (ofExcept (RecordBatch.tryNew schema (schema.types.map Column.empty)))

/-- Rows of JSON values as a record batch. -/
def columnMajorToRecordBatch (rows : List (List Json.Value)) (schema : Schema) :
    Exec ConversionError RecordBatch :=
  if rows = [] then emptyRecordBatch schema
  else do
    let arrays ← eachRow (fun index field =>
      mapError (ColumnConversionError.intoConversionError index field.name (columnOf rows index)
        field.dataType) (jsonColumnToArray pf field (columnOf rows index))) schema.fields
    mapError .arrowError (ofExcept (RecordBatch.tryNew schema arrays))

/-- A record batch with the field metadata of a schema. -/
def withFieldMetadata (batch : RecordBatch) (schema : Schema) : Exec ConversionError RecordBatch :=
  if batch.schema.fields.length ≠ schema.fields.length then
    fail (.schemaMismatch (s!"Arrow batch has {batch.schema.fields.length} columns, but the " ++
      s!"result set metadata schema has {schema.fields.length}"))
  else
    let fields := (batch.schema.fields.zip schema.fields).map fun p =>
      { p.1 with metadata := p.2.metadata }
    mapError .arrowError (ofExcept
      (RecordBatch.tryNewWithOptions ⟨fields⟩ batch.columns (some batch.numRows)))

/-- Result data as a record batch. -/
def payloadToRecordBatch (data : Messages.ResultData) (schema : Schema) :
    Exec ConversionError RecordBatch :=
  match data.data with
  | .arrow batch => withFieldMetadata batch schema
  | .json rows => columnMajorToRecordBatch pf rows schema

/-! ### How many rows there are -/

section Rows

variable {pf}

/-- An array has a value for each JSON value. -/
theorem length_of_jsonColumnToArray {field : Field} {values : List Json.Value} {c : Column}
    (h : jsonColumnToArray pf field values = .ok c) : c.length = values.length := by
  unfold jsonColumnToArray at h
  unfold Column.length
  split at h
  · rw [← Except.ok.inj h, List.length_map]
  · rw [← Except.ok.inj h, List.length_map]
  · rw [← Except.ok.inj h, List.length_map]
  · rw [← Except.ok.inj h, List.length_map]
  · rw [← Except.ok.inj h, List.length_map]
  · obtain ⟨-, -, h⟩ := bind_eq_ok.mp h
    obtain ⟨cells, hcells, h⟩ := bind_eq_ok.mp h
    rw [← Except.ok.inj h]
    exact length_of_eachRow hcells
  · obtain ⟨cells, hcells, h⟩ := bind_eq_ok.mp h
    rw [← Except.ok.inj h]
    exact (mapM_eq_ok.mp hcells).length_eq.symm
  · obtain ⟨cells, hcells, h⟩ := bind_eq_ok.mp h
    rw [← Except.ok.inj h]
    exact (mapM_eq_ok.mp hcells).length_eq.symm
  · obtain ⟨cells, hcells, h⟩ := bind_eq_ok.mp h
    rw [← Except.ok.inj h]
    exact length_of_eachRow hcells
  · rw [← Except.ok.inj h, List.length_map]
  · cases h

/-- A batch without rows has none. -/
theorem numRows_of_emptyRecordBatch {schema : Schema} {b : RecordBatch}
    (h : emptyRecordBatch schema = .ok b) : b.numRows = 0 := by
  obtain ⟨-, -, hn⟩ := RecordBatch.tryNewWithOptions_eq_ok
    (ofExcept_eq_ok.mp (mapError_eq_ok.mp h))
  cases ht : schema.types with
  | nil =>
    rw [ht] at hn
    cases hn
  | cons t ts =>
    rw [ht] at hn
    exact (Option.some.inj hn).symm

/-- **A batch has the rows of the data it was made from.** -/
theorem numRows_of_payloadToRecordBatch {data : Messages.ResultData} {schema : Schema}
    {b : RecordBatch} (h : payloadToRecordBatch pf data schema = .ok b) :
    b.numRows = data.data.numRows := by
  unfold payloadToRecordBatch at h
  split at h
  · rename_i batch hdata
    rw [hdata]
    unfold withFieldMetadata at h
    split at h
    · cases h
    · obtain ⟨-, -, hn⟩ := RecordBatch.tryNewWithOptions_eq_ok
        (ofExcept_eq_ok.mp (mapError_eq_ok.mp h))
      exact (Option.some.inj hn).symm
  · rename_i rows hdata
    rw [hdata]
    unfold columnMajorToRecordBatch at h
    split at h
    · rename_i hnil
      rw [numRows_of_emptyRecordBatch h, hnil]
      rfl
    · obtain ⟨arrays, harrays, h⟩ := bind_eq_ok.mp h
      obtain ⟨-, -, hn⟩ := RecordBatch.tryNewWithOptions_eq_ok
        (ofExcept_eq_ok.mp (mapError_eq_ok.mp h))
      cases arrays with
      | nil => cases hn
      | cons c cs =>
        have hf : 0 < schema.fields.length := by
          rw [← length_of_eachRow harrays]
          exact Nat.succ_pos _
        obtain ⟨c', hc', hc⟩ := getElem?_of_eachRow harrays (List.getElem?_eq_getElem hf)
        obtain rfl := Option.some.inj hc'
        have hl := length_of_jsonColumnToArray (mapError_eq_ok.mp hc)
        rw [columnOf, List.length_map] at hl
        exact (Option.some.inj hn).symm.trans hl

end Rows

end ResultSet

end Exarrow
