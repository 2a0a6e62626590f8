import Exarrow.Foundations.Machine
import Exarrow.Foundations.Ieee

/-!
# Arrow data

The columnar data the driver takes from its callers and hands back to them: data
types, columns of nullable values, schemas and record batches. A column carries
values of its own type (`Exarrow.Arrow.DataType.Native`), so an ill-typed column
cannot be built, and a record batch carries the proof that its columns agree with
its schema and have one length (`Exarrow.Arrow.RecordBatch`).

A batch is built by `Exarrow.Arrow.RecordBatch.tryNew`, which makes the checks
that Arrow makes; `Exarrow.Arrow.RecordBatch.tryNew_eq_ok` says what the result
then holds. Batches of one schema are put after each other by
`Exarrow.Arrow.concatBatches`.
-/

namespace Exarrow.Arrow

open Machine Ieee

/-! ### Types and their values -/

/-- The unit of a timestamp. -/
inductive TimeUnit where
  | second
  | millisecond
  | microsecond
  | nanosecond
  deriving DecidableEq

/-- The unit of an interval. -/
inductive IntervalUnit where
  | yearMonth
  | dayTime
  | monthDayNano
  deriving DecidableEq

/-- An Arrow data type. The types that the driver never looks into have one
constructor, by name. -/
inductive DataType where
  | boolean
  | int8
  | int16
  | int32
  | int64
  | uint8
  | uint16
  | uint32
  | uint64
  | float32
  | float64
  | utf8
  | largeUtf8
  | utf8View
  | binary
  | largeBinary
  | binaryView
  | fixedSizeBinary (size : SInt 32)
  | date32
  | date64
  | timestamp (unit : TimeUnit) (timezone : Option String)
  | interval (unit : IntervalUnit)
  | decimal128 (precision : UInt8) (scale : SInt 8)
  | decimal256 (precision : UInt8) (scale : SInt 8)
  | dictionary (key value : DataType)
  | other (name : String)
  deriving DecidableEq

/-- An interval of months, days and nanoseconds. -/
structure IntervalMonthDayNano where
  /-- The months. -/
  months : SInt 32
  /-- The days. -/
  days : SInt 32
  /-- The nanoseconds. -/
  nanoseconds : SInt 64
  deriving DecidableEq

/-- The values of a data type. A slot of a dictionary is the value that its key points
to, which may be a null. -/
abbrev DataType.Native : DataType → Type
  | .boolean => Bool
  | .int8 => SInt 8
  | .int16 => SInt 16
  | .int32 => SInt 32
  | .int64 => SInt 64
  | .uint8 => UInt8
  | .uint16 => UInt16
  | .uint32 => UInt32
  | .uint64 => UInt64
  | .float32 => F32
  | .float64 => F64
  | .utf8 | .largeUtf8 | .utf8View => String
  | .binary | .largeBinary | .binaryView | .fixedSizeBinary _ => List UInt8
  | .date32 => SInt 32
  | .date64 => SInt 64
  | .timestamp .. => SInt 64
  | .interval .yearMonth => SInt 32
  | .interval .dayTime => SInt 32 × SInt 32
  | .interval .monthDayNano => IntervalMonthDayNano
  | .decimal128 .. => SInt 128
  | .decimal256 .. => SInt 256
  | .dictionary _ value => Option value.Native
  | .other _ => Unit

instance DataType.decEqNative : (t : DataType) → DecidableEq t.Native
  | .dictionary _ value =>
    have := decEqNative value
    inferInstanceAs (DecidableEq (Option value.Native))
  | .boolean => inferInstanceAs (DecidableEq Bool)
  | .int8 => inferInstanceAs (DecidableEq (SInt 8))
  | .int16 => inferInstanceAs (DecidableEq (SInt 16))
  | .int32 | .date32 | .interval .yearMonth => inferInstanceAs (DecidableEq (SInt 32))
  | .int64 | .date64 | .timestamp .. => inferInstanceAs (DecidableEq (SInt 64))
  | .uint8 => inferInstanceAs (DecidableEq UInt8)
  | .uint16 => inferInstanceAs (DecidableEq UInt16)
  | .uint32 => inferInstanceAs (DecidableEq UInt32)
  | .uint64 => inferInstanceAs (DecidableEq UInt64)
  | .float32 => inferInstanceAs (DecidableEq F32)
  | .float64 => inferInstanceAs (DecidableEq F64)
  | .utf8 | .largeUtf8 | .utf8View => inferInstanceAs (DecidableEq String)
  | .binary | .largeBinary | .binaryView | .fixedSizeBinary _ =>
    inferInstanceAs (DecidableEq (List UInt8))
  | .interval .dayTime => inferInstanceAs (DecidableEq (SInt 32 × SInt 32))
  | .interval .monthDayNano => inferInstanceAs (DecidableEq IntervalMonthDayNano)
  | .decimal128 .. => inferInstanceAs (DecidableEq (SInt 128))
  | .decimal256 .. => inferInstanceAs (DecidableEq (SInt 256))
  | .other _ => inferInstanceAs (DecidableEq Unit)

/-- A column: a data type and nullable values of it. -/
structure Column where
  /-- The type of the values. -/
  dataType : DataType
  /-- The values, `none` for a null. -/
  cells : List (Option dataType.Native)
  deriving DecidableEq

/-- The number of values of a column. -/
def Column.length (c : Column) : ℕ := c.cells.length

/-- The column of a type without values. -/
def Column.empty (t : DataType) : Column := ⟨t, []⟩

@[simp] theorem Column.length_empty (t : DataType) : (Column.empty t).length = 0 := rfl

/-! ### Schemas and batches -/

/-- A field of a schema. -/
structure Field where
  /-- The name of the column. -/
  name : String
  /-- The type of the column. -/
  dataType : DataType
  /-- Whether the column may hold nulls. -/
  nullable : Bool
  /-- Key and value pairs, as a map holds them: no key twice. -/
  metadata : List (String × String) := []
  deriving DecidableEq

/-- A schema. -/
structure Schema where
  /-- The fields, in column order. -/
  fields : List Field
  deriving DecidableEq

/-- The data types of a schema. -/
def Schema.types (s : Schema) : List DataType := s.fields.map Field.dataType

/-- A field and a column agree: the types are the same, and a field without nulls
has a column without nulls. -/
def Field.Admits (f : Field) (c : Column) : Prop :=
  c.dataType = f.dataType ∧ (f.nullable = false → none ∉ c.cells)

instance (f : Field) (c : Column) : Decidable (f.Admits c) :=
  inferInstanceAs (Decidable (_ ∧ (_ → _)))

/-- A record batch: columns of one length that agree with a schema. -/
structure RecordBatch where
  /-- The schema. -/
  schema : Schema
  /-- The columns. -/
  columns : List Column
  /-- The number of rows, which a batch has also when it has no columns. -/
  numRows : ℕ
  /-- Fields and columns agree, one by one. -/
  admits : List.Forall₂ Field.Admits schema.fields columns
  /-- Every column has one value for each row. -/
  lengths : ∀ c ∈ columns, c.length = numRows

namespace RecordBatch

/-- Two batches are equal as soon as their data are. -/
@[ext] theorem ext {a b : RecordBatch} (hs : a.schema = b.schema) (hc : a.columns = b.columns)
    (hn : a.numRows = b.numRows) : a = b := by
  cases a
  cases b
  simp only [mk.injEq] at *
  exact ⟨hs, hc, hn⟩

/-- The columns of a batch have the types of its schema. -/
theorem types_columns (b : RecordBatch) : b.columns.map Column.dataType = b.schema.types := by
  have h := b.admits
  unfold Schema.types
  generalize b.schema.fields = fs at h
  generalize b.columns = cs at h
  induction h with
  | nil => rfl
  | cons h _ ih => rw [List.map_cons, List.map_cons, h.1, ih]

end RecordBatch

/-- Why a batch cannot be built. -/
inductive ArrowError where
  /-- The numbers of columns and fields differ. -/
  | columnCount (columns fields : ℕ)
  /-- There is neither a column nor a given number of rows. -/
  | noRowCount
  /-- A field without nulls has a column with one. -/
  | unexpectedNull (field : String)
  /-- The columns have different lengths. -/
  | columnLength
  /-- A column has another type than its field. -/
  | columnType (expected found : DataType)
  /-- A decimal type with digits that do not exist. -/
  | decimalType (precision : UInt8) (scale : SInt 8)
  deriving DecidableEq

/-- The number of rows that a batch of these columns has. -/
def rowCount? (given : Option ℕ) (columns : List Column) : Option ℕ :=
  given <|> (columns.head?.map Column.length)

/-- The first field that its column contradicts. -/
def firstMismatch (fields : List Field) (columns : List Column) : Option (Field × Column) :=
  (fields.zip columns).find? fun p => !decide (p.1.Admits p.2)

theorem firstMismatch_eq_none {fields : List Field} {columns : List Column}
    (hl : fields.length = columns.length) :
    firstMismatch fields columns = none ↔ List.Forall₂ Field.Admits fields columns := by
  induction fields generalizing columns with
  | nil =>
    cases columns with
    | nil => exact ⟨fun _ => .nil, fun _ => rfl⟩
    | cons c cs => exact absurd hl (by simp)
  | cons f fs ih =>
    cases columns with
    | nil => exact absurd hl (by simp)
    | cons c cs =>
      have ih := @ih cs (by simpa using hl)
      unfold firstMismatch at *
      rw [List.zip_cons_cons, List.find?_cons, List.forall₂_cons, ← ih]
      by_cases h : f.Admits c <;> simp [h]

namespace RecordBatch

/-- Build a batch, with a given number of rows or the length of the first
column. The checks are made in the order in which Arrow makes them, except that
nulls and types are reported field by field. -/
def tryNewWithOptions (schema : Schema) (columns : List Column) (given : Option ℕ) :
    Except ArrowError RecordBatch :=
  if hl : schema.fields.length = columns.length then
    match rowCount? given columns with
    | none => .error .noRowCount
    | some n =>
      if hn : ∀ c ∈ columns, c.length = n then
        match hm : firstMismatch schema.fields columns with
        | none => .ok ⟨schema, columns, n, (firstMismatch_eq_none hl).mp hm, hn⟩
        | some (f, c) =>
          if c.dataType = f.dataType then .error (.unexpectedNull f.name)
          else .error (.columnType f.dataType c.dataType)
      else .error .columnLength
  else .error (.columnCount columns.length schema.fields.length)

/-- Build a batch from its columns. -/
def tryNew (schema : Schema) (columns : List Column) : Except ArrowError RecordBatch :=
  tryNewWithOptions schema columns none

/-- **A batch that is built holds what it was built from.** -/
theorem tryNewWithOptions_eq_ok {schema : Schema} {columns : List Column} {given : Option ℕ}
    {b : RecordBatch} (h : tryNewWithOptions schema columns given = .ok b) :
    b.schema = schema ∧ b.columns = columns ∧ rowCount? given columns = some b.numRows := by
  unfold tryNewWithOptions at h
  split at h
  · split at h
    · cases h
    · rename_i n hn
      split at h
      · split at h
        · cases h
          exact ⟨rfl, rfl, hn⟩
        · split at h <;> cases h
      · cases h
  · cases h

/-- The columns that Arrow accepts. -/
theorem tryNewWithOptions_ok {schema : Schema} {columns : List Column} {given : Option ℕ} {n : ℕ}
    (ha : List.Forall₂ Field.Admits schema.fields columns) (hr : rowCount? given columns = some n)
    (hn : ∀ c ∈ columns, c.length = n) :
    tryNewWithOptions schema columns given = .ok ⟨schema, columns, n, ha, hn⟩ := by
  have hl : schema.fields.length = columns.length := ha.length_eq
  have hm : firstMismatch schema.fields columns = none := (firstMismatch_eq_none hl).mpr ha
  unfold tryNewWithOptions
  rw [dif_pos hl, hr]
  dsimp only
  rw [dif_pos hn]
  split
  · rfl
  · rename_i h
    rw [hm] at h
    cases h

/-- The batch of a schema without rows. -/
def newEmpty (schema : Schema) : RecordBatch where
  schema := schema
  columns := schema.types.map Column.empty
  numRows := 0
  admits := by
    unfold Schema.types
    rw [List.map_map]
    exact List.forall₂_map_right_iff.mpr
      (List.forall₂_same.mpr fun f _ => ⟨rfl, fun _ => List.not_mem_nil⟩)
  lengths := by
    intro c hc
    obtain ⟨t, -, rfl⟩ := List.mem_map.mp hc
    rfl

end RecordBatch

/-! ### Concatenation -/

/-- One column after another of the same type. -/
def Column.append? (a b : Column) : Option Column :=
  if h : b.dataType = a.dataType then some ⟨a.dataType, a.cells ++ h ▸ b.cells⟩ else none

/-- The columns of batches put after each other, starting from empty columns of
the given types. A batch that has no such column, or one of another type, ends in
failure. -/
def concatColumns (types : List DataType) : List RecordBatch → Option (List Column)
  | [] => some (types.map Column.empty)
  | b :: bs => do
    let rest ← concatColumns types bs
    if types.length ≤ b.columns.length then
      (b.columns.zip rest).mapM fun (c, d) => c.append? d
    else none

/-- Batches put after each other under one schema. -/
def concatBatches (schema : Schema) (batches : List RecordBatch) :
    Except ArrowError RecordBatch :=
  if schema.fields = [] then
    RecordBatch.tryNewWithOptions schema [] (some (batches.map RecordBatch.numRows).sum)
  else
    match concatColumns schema.types batches with
    | some columns => RecordBatch.tryNew schema columns
    | none => .error .columnLength

end Exarrow.Arrow
