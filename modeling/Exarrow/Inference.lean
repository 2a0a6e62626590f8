import Exarrow.Foundations.Checked
import Exarrow.Foundations.Merging
import Exarrow.Types

/-!
# Inferred table schemas

The column types that a table gets when its schema is inferred from files. An
Arrow type becomes an Exasol type (`Exarrow.TypeMapper.arrowToExasol`); the
columns of several files are merged one file after another, where two types become
a common wider one (`Exarrow.widenType`) and a column may hold nulls when one of
them may.

`Exarrow.widenType` looks at its two arguments case by case, and for most pairs it
falls back to the longest VARCHAR. What makes it a least upper bound all the same
is that the types fall into *families* (`Exarrow.ExasolType.Family`): within a
family the parameters are compared, and **across families everything is the
longest VARCHAR** (`Exarrow.widenType_of_family_ne`), which absorbs every type
within the limits of Exasol (`Exarrow.ExasolType.Valid`).
`Exarrow.widenType_laws` states the laws, and
`Exarrow.merged_schema_unique` draws the conclusion for files: neither their order
nor the grouping of the merges shows in the result.
-/

namespace Exarrow

open Machine Checked Arrow Merging

/-! ### The Exasol type of an Arrow type -/

/-- A type that the keys of a dictionary may have. -/
def isDictionaryKeyType : DataType → Bool
  | .int8 | .int16 | .int32 | .int64 | .uint8 | .uint16 | .uint32 | .uint64 => true
  | _ => false

/-- The longest VARCHAR. -/
def longestVarchar : ExasolType := .varchar 2000000

/-- The largest precision of a DECIMAL. -/
def maxDecimalPrecision : UInt8 := 36

/-- The Exasol type of an Arrow type; `debug` writes an Arrow type for a
developer. -/
def TypeMapper.arrowToExasol (debug : DataType → String) (t : DataType) :
    Except ConversionError ExasolType :=
  match t with
  | .boolean => .ok .boolean
  | .utf8 | .largeUtf8 | .utf8View | .binary | .largeBinary | .binaryView
  | .fixedSizeBinary _ => .ok longestVarchar
  | .dictionary key value =>
    if isDictionaryKeyType key ∧ (value = .utf8 ∨ value = .largeUtf8) then .ok longestVarchar
    else .error (.unsupportedType s!"Arrow type {debug t}")
  | .int8 | .int16 | .int32 => .ok (.decimal 18 0)
  | .int64 => .ok (.decimal 36 0)
  | .uint8 | .uint16 | .uint32 => .ok (.decimal 18 0)
  | .uint64 => .ok (.decimal 36 0)
  | .float32 | .float64 => .ok .double
  | .decimal128 precision scale | .decimal256 precision scale =>
    if (1 ≤ precision ∧ precision ≤ maxDecimalPrecision) ∧
        (0 ≤ scale.val ∧ scale.val ≤ precision.toNat) then
      .ok (.decimal precision scale)
    else .error (.unsupportedType (s!"Arrow type {debug t}, because Exasol DECIMAL takes a " ++
      s!"precision from 1 to {maxDecimalPrecision} and a scale from 0 to the precision"))
  | .date32 | .date64 => .ok .date
  | .timestamp _ tz => .ok (.timestamp tz.isSome)
  | .interval .yearMonth => .ok .intervalYearToMonth
  -- Exasol stores INTERVAL DAY TO SECOND values in whole milliseconds.
  | .interval .dayTime | .interval .monthDayNano => .ok (.intervalDayToSecond 3)
  | .other _ => .error (.unsupportedType s!"Arrow type {debug t}")

/-! ### Names of columns -/

/-- How column names are written in DDL. -/
inductive ColumnNameMode where
  | quoted
  | sanitize
  deriving DecidableEq

/-- A column name in double quotes, those in it doubled. -/
def quoteColumnName (name : String) : String :=
  String.ofList ('"' :: name.toList.flatMap (fun c => if c = '"' then ['"', '"'] else [c]) ++ ['"'])

/-- A column name made into an identifier that needs no quotes. -/
def sanitizeColumnName (name : String) : String :=
  let result := name.toList.map fun c =>
    if c.isAlphanum || c = '_' then c.toUpper else '_'
  match result with
  | [] => "_"
  | c :: _ => String.ofList (if c.isDigit then '_' :: result else result)

/-- A column name written in the given mode. -/
def formatColumnName (name : String) : ColumnNameMode → String
  | .quoted => quoteColumnName name
  | .sanitize => sanitizeColumnName name

/-- An inferred column. -/
structure InferredColumn where
  /-- The name of the column in the file. -/
  originalName : String
  /-- The name as DDL writes it. -/
  ddlName : String
  /-- The inferred type. -/
  exasolType : ExasolType
  /-- Whether the column may hold nulls. -/
  nullable : Bool
  deriving DecidableEq

/-- A schema inferred from files. -/
structure InferredTableSchema (Path : Type) where
  /-- The columns, in order. -/
  columns : List InferredColumn
  /-- The files that it was inferred from. -/
  sourceFiles : List Path

/-! ### Wider types -/

/-- A common type of two types. -/
def widenType (a b : ExasolType) : ExasolType :=
  if a = b then a
  else
    match a, b with
    | .decimal p1 s1, .decimal p2 s2 => .decimal (min (max p1 p2) 36) (max s1 s2)
    | .varchar s1, .varchar s2 => .varchar (min (max s1 s2) 2000000)
    | .char s1, .char s2 => .char (min (max s1 s2) 2000)
    | .char s1, .varchar s2 | .varchar s2, .char s1 => .varchar (min (max s1 s2) 2000000)
    | .decimal .., .double | .double, .decimal .. => .double
    | .timestamp tz1, .timestamp tz2 => .timestamp (tz1 || tz2)
    | .intervalDayToSecond p1, .intervalDayToSecond p2 => .intervalDayToSecond (max p1 p2)
    | _, _ => .varchar 2000000

/-- A column with what another one adds to it. -/
def mergeColumn (column other : InferredColumn) : InferredColumn :=
  { column with
    exasolType := widenType column.exasolType other.exasolType
    nullable := column.nullable || other.nullable }

/-- Columns with what the columns of another file add to them. -/
def mergeColumns (columns fileColumns : List InferredColumn) : List InferredColumn :=
  List.zipWith mergeColumn columns fileColumns

/-! ### Inferring the schema of files -/

/-- How CSV files are parsed when their schema is inferred. -/
structure CsvInferenceOptions where
  /-- The field delimiter. -/
  delimiter : UInt8
  /-- Whether the first row is a header. -/
  hasHeader : Bool
  /-- The quote character. -/
  quote : Option UInt8
  /-- The escape character. -/
  escape : Option UInt8
  /-- How many records are looked at, all if not given. -/
  maxSampleRecords : Option ℕ
  /-- How column names are written. -/
  columnNameMode : ColumnNameMode

/-- The format of a CSV file as its reader takes it. -/
structure CsvFormat where
  /-- Whether the first row is a header. -/
  header : Bool
  /-- The field delimiter. -/
  delimiter : UInt8
  /-- The quote character, if it is not the usual one. -/
  quote : Option UInt8
  /-- The escape character. -/
  escape : Option UInt8

/-- The format that options describe. -/
def buildCsvFormat (options : CsvInferenceOptions) : CsvFormat where
  header := options.hasHeader
  delimiter := options.delimiter
  quote := options.quote
  escape := options.escape

/-- The files and the readers of their schemas. -/
structure SchemaReaders (Path File : Type) where
  /-- The text of a path. -/
  display : Path → String
  /-- Open a file. -/
  openFile : Path → Except String File
  /-- The Arrow schema of a CSV file and the number of records read for it. -/
  inferSchema : CsvFormat → File → Option ℕ → Except String (Schema × ℕ)
  /-- The Arrow schema in the footer of a Parquet file. -/
  footerSchema : File → Except String Schema
  /-- The text of an Arrow type for a developer. -/
  debug : DataType → String

section Readers

variable {Path File : Type} (lib : SchemaReaders Path File)

/-- The text of an error of the type mapping. -/
def unsupportedText : ConversionError → String
  | .unsupportedType exasolType => s!"Unsupported Exasol type: {exasolType}"
  | _ => ""

/-- The file at a path. -/
def openFile (path : Path) : Except ImportError File :=
  (lib.openFile path).mapError fun e =>
    .schemaInferenceError s!"Failed to open file '{lib.display path}': {e}"

/-- The columns of an Arrow schema inferred from CSV: without a header they are
numbered, and a type without an Exasol type becomes the longest VARCHAR. -/
def csvSchemaToColumns (options : CsvInferenceOptions) (schema : Schema) : List InferredColumn :=
  schema.fields.mapIdx fun i field =>
    let originalName := if options.hasHeader then field.name else s!"col_{i + 1}"
    { originalName := originalName
      ddlName := formatColumnName originalName options.columnNameMode
      exasolType := (TypeMapper.arrowToExasol lib.debug field.dataType).toOption.getD longestVarchar
      nullable := field.nullable }

/-- The columns inferred from a CSV file. -/
def csvFileColumns (options : CsvInferenceOptions) (path : Path) :
    Except ImportError (List InferredColumn) := do
  let file ← openFile lib path
  let (schema, recordsRead) ←
    (lib.inferSchema (buildCsvFormat options) file options.maxSampleRecords).mapError fun e =>
      .schemaInferenceError s!"Failed to infer CSV schema from '{lib.display path}': {e}"
  if recordsRead = 0 then
    .error (.schemaInferenceError s!"CSV file '{lib.display path}' contains no data rows")
  else .ok (csvSchemaToColumns lib options schema)

/-- The error for files whose numbers of columns differ. -/
def columnCountMismatch (first path : Path) (columns fileColumns : ℕ) : ImportError :=
  .schemaMismatchError (s!"Schema mismatch: '{lib.display first}' has {columns} columns, but " ++
    s!"'{lib.display path}' has {fileColumns} columns")

/-- The schema of a CSV file. -/
def inferSchemaFromCsv (options : CsvInferenceOptions) (path : Path) :
    Except ImportError (InferredTableSchema Path) := do
  return { columns := ← csvFileColumns lib options path, sourceFiles := [path] }

/-- Merge the columns of CSV files into those merged so far, file after file. -/
def mergeCsvFiles (options : CsvInferenceOptions) (first : Path) :
    Option (List InferredColumn) → List Path → Except ImportError (Option (List InferredColumn))
  | merged, [] => .ok merged
  | none, path :: paths => do
    mergeCsvFiles options first (some (← csvFileColumns lib options path)) paths
  | some columns, path :: paths => do
    let fileColumns ← csvFileColumns lib options path
    if fileColumns.length ≠ columns.length then
      .error (columnCountMismatch lib first path columns.length fileColumns.length)
    else mergeCsvFiles options first (some (mergeColumns columns fileColumns)) paths

/-- The schema of several CSV files. -/
def inferSchemaFromCsvFiles (options : CsvInferenceOptions) (filePaths : List Path) :
    Except ImportError (InferredTableSchema Path) :=
  match filePaths with
  | [] => .error (.schemaInferenceError "No files provided for schema inference")
  | [path] => inferSchemaFromCsv lib options path
  | first :: _ => do
    -- Some columns are merged once the first file is read.
    return { columns := (← mergeCsvFiles lib options first none filePaths).getD []
             sourceFiles := filePaths }

/-- The column of a field of a Parquet file. -/
def parquetColumn (mode : ColumnNameMode) (field : Field) : Except ImportError InferredColumn := do
  let exasolType ← (TypeMapper.arrowToExasol lib.debug field.dataType).mapError fun e =>
    .schemaInferenceError s!"Failed to map type for column '{field.name}': {unsupportedText e}"
  return { originalName := field.name, ddlName := formatColumnName field.name mode
           exasolType := exasolType, nullable := field.nullable }

/-- The columns of the Arrow schema of a Parquet file. -/
def arrowSchemaToColumns (mode : ColumnNameMode) (schema : Schema) :
    Except ImportError (List InferredColumn) := schema.fields.mapM (parquetColumn lib mode)

/-- The Arrow schema of a Parquet file. -/
def parquetSchema (path : Path) : Except ImportError Schema := do
  let file ← openFile lib path
  (lib.footerSchema file).mapError fun e =>
    .schemaInferenceError s!"Failed to read Parquet metadata from '{lib.display path}': {e}"

/-- The schema of a Parquet file. -/
def inferSchemaFromParquet (mode : ColumnNameMode) (path : Path) :
    Except ImportError (InferredTableSchema Path) := do
  let schema ← parquetSchema lib path
  return { columns := ← arrowSchemaToColumns lib mode schema, sourceFiles := [path] }

/-- A column with what a field of another Parquet file adds to it. -/
def mergeField (path : Path) (p : InferredColumn × Field) : Except ImportError InferredColumn := do
  let (column, field) := p
  let otherType ← (TypeMapper.arrowToExasol lib.debug field.dataType).mapError fun e =>
    .schemaInferenceError (s!"Failed to map type for column '{field.name}' in " ++
      s!"'{lib.display path}': {unsupportedText e}")
  return { column with
    exasolType := widenType column.exasolType otherType
    nullable := column.nullable || field.nullable }

/-- Merge the fields of Parquet files into columns, file after file. -/
def mergeParquetSchemas (first : Path) :
    List InferredColumn → List (Path × Schema) → Except ImportError (List InferredColumn)
  | columns, [] => .ok columns
  | columns, (path, schema) :: schemas =>
    if schema.fields.length ≠ columns.length then
      .error (columnCountMismatch lib first path columns.length schema.fields.length)
    else do
      mergeParquetSchemas first (← (columns.zip schema.fields).mapM (mergeField lib path)) schemas

/-- The schema of several Parquet files. -/
def inferSchemaFromParquetFiles (mode : ColumnNameMode) (filePaths : List Path) :
    Except ImportError (InferredTableSchema Path) :=
  match filePaths with
  | [] => .error (.schemaInferenceError "No files provided for schema inference")
  | [path] => inferSchemaFromParquet lib mode path
  | first :: _ => do
    -- Every footer is read before the first type is mapped.
    let schemas ← filePaths.mapM fun path => do return (path, ← parquetSchema lib path)
    match schemas with
    | [] => return { columns := [], sourceFiles := filePaths }
    | (_, firstSchema) :: rest => do
      let columns ← arrowSchemaToColumns lib mode firstSchema
      return { columns := ← mergeParquetSchemas lib first columns rest, sourceFiles := filePaths }

end Readers

/-! ### Families of types -/

namespace ExasolType

/-- A kind of types whose parameters are compared when they are merged. -/
inductive Family where
  | boolean | text | number | date | timestamp | yearMonth | daySecond | geometry | hashtype
  deriving DecidableEq

/-- The family of a type. -/
def family : ExasolType → Family
  | boolean => .boolean
  | char _ | varchar _ => .text
  | decimal .. | double => .number
  | date => .date
  | timestamp _ => .timestamp
  | intervalYearToMonth => .yearMonth
  | intervalDayToSecond _ => .daySecond
  | geometry _ => .geometry
  | hashtype _ => .hashtype

/-- A family whose types have no common type but the longest VARCHAR. -/
def Family.Flat : Family → Prop
  | boolean | date | yearMonth | geometry | hashtype => True
  | text | number | timestamp | daySecond => False

/-- A type whose parameters are within the limits of Exasol. -/
def Valid : ExasolType → Prop
  | char size => size ≤ 2000
  | varchar size => size ≤ 2000000
  | decimal precision _ => precision ≤ maxDecimalPrecision
  | _ => True

end ExasolType

open ExasolType

/-- A type that an Arrow type maps to is valid. -/
theorem valid_of_arrowToExasol {debug : DataType → String} {t : DataType} {e : ExasolType}
    (h : TypeMapper.arrowToExasol debug t = .ok e) : e.Valid := by
  cases t with
  | dictionary key value =>
    rw [TypeMapper.arrowToExasol] at h
    split at h
    · cases h
      exact le_rfl
    · cases h
  | decimal128 precision scale | decimal256 precision scale =>
    rw [TypeMapper.arrowToExasol] at h
    split at h
    · rename_i hp
      cases h
      exact hp.1.2
    · cases h
  | interval unit =>
    cases unit <;> cases h <;> exact trivial
  | utf8 | largeUtf8 | utf8View | binary | largeBinary | binaryView | fixedSizeBinary _ =>
    cases h
    exact le_rfl
  | int8 | int16 | int32 | int64 | uint8 | uint16 | uint32 | uint64 =>
    cases h
    change _ ≤ maxDecimalPrecision
    decide
  | boolean | float32 | float64 | date32 | date64 | timestamp _ _ =>
    cases h
    exact trivial
  | other _ => cases h

@[simp] theorem widenType_self (a : ExasolType) : widenType a a = a := if_pos rfl

/-- Across families everything is the longest VARCHAR. -/
theorem widenType_of_family_ne {a b : ExasolType} (h : a.family ≠ b.family) :
    widenType a b = longestVarchar := by
  have hne : a ≠ b := fun hab => h (congrArg family hab)
  unfold widenType
  rw [if_neg hne]
  split <;> first | rfl | exact absurd rfl h

/-- In a flat family different types become the longest VARCHAR. -/
theorem widenType_of_flat {a b : ExasolType} (ha : a.family.Flat) (hne : a ≠ b) :
    widenType a b = longestVarchar := by
  unfold widenType
  rw [if_neg hne]
  split <;> first | rfl | exact absurd ha id

/-! ### Within a family -/

section Within

variable {p1 p2 : UInt8} {s1 s2 : SInt 8} {m n : ℕ}

theorem widenType_decimal (h1 : p1 ≤ maxDecimalPrecision) (h2 : p2 ≤ maxDecimalPrecision) :
    widenType (.decimal p1 s1) (.decimal p2 s2) = .decimal (max p1 p2) (max s1 s2) := by
  rw [widenType]
  split
  · rename_i h
    cases h
    rw [max_self, max_self]
  · exact congrArg (ExasolType.decimal · _) (min_eq_left (max_le h1 h2))

theorem widenType_varchar (hm : m ≤ 2000000) (hn : n ≤ 2000000) :
    widenType (.varchar m) (.varchar n) = .varchar (max m n) := by
  rw [widenType]
  split
  · rename_i h
    cases h
    rw [max_self]
  · exact congrArg ExasolType.varchar (min_eq_left (max_le hm hn))

theorem widenType_char (hm : m ≤ 2000) (hn : n ≤ 2000) :
    widenType (.char m) (.char n) = .char (max m n) := by
  rw [widenType]
  split
  · rename_i h
    cases h
    rw [max_self]
  · exact congrArg ExasolType.char (min_eq_left (max_le hm hn))

theorem widenType_char_varchar (hm : m ≤ 2000) (hn : n ≤ 2000000) :
    widenType (.char m) (.varchar n) = .varchar (max m n) :=
  congrArg ExasolType.varchar (min_eq_left (max_le (hm.trans (by norm_num)) hn))

theorem widenType_varchar_char (hm : m ≤ 2000) (hn : n ≤ 2000000) :
    widenType (.varchar n) (.char m) = .varchar (max m n) :=
  congrArg ExasolType.varchar (min_eq_left (max_le (hm.trans (by norm_num)) hn))

theorem widenType_decimal_double : widenType (.decimal p1 s1) .double = .double := rfl

theorem widenType_double_decimal : widenType .double (.decimal p1 s1) = .double := rfl

theorem widenType_timestamp (a b : Bool) :
    widenType (.timestamp a) (.timestamp b) = .timestamp (a || b) := by
  cases a <;> cases b <;> rfl

theorem widenType_intervalDayToSecond :
    widenType (.intervalDayToSecond p1) (.intervalDayToSecond p2) =
      .intervalDayToSecond (max p1 p2) := by
  rw [widenType]
  split
  · rename_i h
    cases h
    rw [max_self]
  · rfl

end Within

/-! ### The laws of widening -/

section Laws

variable {a b c : ExasolType}

/-- The longest VARCHAR absorbs every valid type. -/
theorem widenType_longestVarchar (ha : a.Valid) :
    widenType a longestVarchar = longestVarchar ∧ widenType longestVarchar a = longestVarchar := by
  by_cases h : a.family = .text
  · cases a <;> try (cases h; done)
    case char m =>
      have hm : max m 2000000 = 2000000 := max_eq_right (le_trans ha (by norm_num))
      have hl : longestVarchar = .varchar 2000000 := rfl
      rw [hl, widenType_char_varchar ha le_rfl, widenType_varchar_char ha le_rfl, hm]
      exact ⟨rfl, rfl⟩
    case varchar m =>
      have hm : max m 2000000 = 2000000 := max_eq_right ha
      have hl : longestVarchar = .varchar 2000000 := rfl
      rw [hl, widenType_varchar ha le_rfl, widenType_varchar le_rfl ha, max_comm 2000000, hm]
      exact ⟨rfl, rfl⟩
  · exact ⟨widenType_of_family_ne h, widenType_of_family_ne (Ne.symm h)⟩

/-- Widening stays within the limits, and within a family or at the longest
VARCHAR. -/
theorem widenType_mem (ha : a.Valid) (hb : b.Valid) : (widenType a b).Valid ∧
    ((widenType a b).family = a.family ∨ widenType a b = longestVarchar) := by
  by_cases h : a.family = b.family
  · by_cases hflat : a.family.Flat
    · rcases eq_or_ne a b with rfl | hne
      · rw [widenType_self]
        exact ⟨ha, .inl rfl⟩
      · rw [widenType_of_flat hflat hne]
        exact ⟨le_rfl, .inr rfl⟩
    cases a <;> cases b <;> try (cases h; done)
    case char.char => rw [widenType_char ha hb]; exact ⟨max_le ha hb, .inl rfl⟩
    case char.varchar =>
      rw [widenType_char_varchar ha hb]
      exact ⟨max_le (le_trans ha (by norm_num)) hb, .inl rfl⟩
    case varchar.char =>
      rw [widenType_varchar_char hb ha]
      exact ⟨max_le (le_trans hb (by norm_num)) ha, .inl rfl⟩
    case varchar.varchar => rw [widenType_varchar ha hb]; exact ⟨max_le ha hb, .inl rfl⟩
    case decimal.decimal => rw [widenType_decimal ha hb]; exact ⟨max_le ha hb, .inl rfl⟩
    case timestamp.timestamp => rw [widenType_timestamp]; exact ⟨trivial, .inl rfl⟩
    case intervalDayToSecond.intervalDayToSecond =>
      rw [widenType_intervalDayToSecond]
      exact ⟨trivial, .inl rfl⟩
    case decimal.double | double.decimal | double.double => exact ⟨trivial, .inl rfl⟩
    all_goals exact absurd trivial hflat
  · rw [widenType_of_family_ne h]
    exact ⟨le_rfl, .inr rfl⟩

/-- Widening does not depend on the order. -/
theorem widenType_comm (ha : a.Valid) (hb : b.Valid) : widenType a b = widenType b a := by
  rcases eq_or_ne a b with rfl | hne
  · rfl
  by_cases h : a.family = b.family
  · by_cases hflat : a.family.Flat
    · rw [widenType_of_flat hflat hne, widenType_of_flat (h ▸ hflat) hne.symm]
    cases a <;> cases b <;> try (cases h; done)
    case char.char => rw [widenType_char ha hb, widenType_char hb ha, max_comm]
    case char.varchar => rw [widenType_char_varchar ha hb, widenType_varchar_char ha hb]
    case varchar.char => rw [widenType_char_varchar hb ha, widenType_varchar_char hb ha]
    case varchar.varchar => rw [widenType_varchar ha hb, widenType_varchar hb ha, max_comm]
    case decimal.decimal p1 s1 p2 s2 =>
      rw [widenType_decimal ha hb, widenType_decimal hb ha, max_comm p1, max_comm s1]
    case timestamp.timestamp => rw [widenType_timestamp, widenType_timestamp, Bool.or_comm]
    case intervalDayToSecond.intervalDayToSecond =>
      rw [widenType_intervalDayToSecond, widenType_intervalDayToSecond, max_comm]
    case decimal.double | double.decimal | double.double => rfl
    all_goals exact absurd trivial hflat
  · rw [widenType_of_family_ne h, widenType_of_family_ne (Ne.symm h)]

/-- Where two of three types are of different families, everything becomes the
longest VARCHAR. -/
theorem widenType_widenType_of_ne (ha : a.Valid) (hb : b.Valid) (hc : c.Valid)
    (h : ¬(a.family = b.family ∧ b.family = c.family)) :
    widenType (widenType a b) c = longestVarchar := by
  by_cases hab : a.family = b.family
  · have hbc : a.family ≠ c.family := fun hac => h ⟨hab, hab ▸ hac⟩
    rcases (widenType_mem ha hb).2 with hfam | htop
    · exact widenType_of_family_ne (hfam ▸ hbc)
    · rw [htop, (widenType_longestVarchar hc).2]
  · rw [widenType_of_family_ne hab, (widenType_longestVarchar hc).2]

/-- In a flat family the grouping does not matter. -/
theorem widenType_assoc_of_flat (ha : a.Valid) (hc : c.Valid) (hfa : a.family.Flat)
    (hfb : b.family.Flat) : widenType (widenType a b) c = widenType a (widenType b c) := by
  rcases eq_or_ne a b with rfl | hab
  · rw [widenType_self]
    rcases eq_or_ne a c with rfl | hac
    · rw [widenType_self, widenType_self]
    · rw [widenType_of_flat hfa hac, (widenType_longestVarchar ha).1]
  · rw [widenType_of_flat hfa hab, (widenType_longestVarchar hc).2]
    rcases eq_or_ne b c with rfl | hbc
    · rw [widenType_self, widenType_of_flat hfa hab]
    · rw [widenType_of_flat hfb hbc, (widenType_longestVarchar ha).1]

/-- Widening does not depend on the grouping. -/
theorem widenType_assoc (ha : a.Valid) (hb : b.Valid) (hc : c.Valid) :
    widenType (widenType a b) c = widenType a (widenType b c) := by
  by_cases h : a.family = b.family ∧ b.family = c.family
  · obtain ⟨hab, hbc⟩ := h
    by_cases hflat : a.family.Flat
    · exact widenType_assoc_of_flat ha hc hflat (hab ▸ hflat)
    have hv {n : ℕ} (hn : n ≤ 2000) : n ≤ 2000000 := hn.trans (by norm_num)
    cases a <;> cases b <;> try (cases hab; done)
    case char.char m n =>
      cases c <;> try (cases hbc; done)
      case char k =>
        rw [widenType_char ha hb, widenType_char (max_le ha hb) hc, widenType_char hb hc,
          widenType_char ha (max_le hb hc), max_assoc]
      case varchar k =>
        rw [widenType_char ha hb, widenType_char_varchar (max_le ha hb) hc,
          widenType_char_varchar hb hc, widenType_char_varchar ha (max_le (hv hb) hc), max_assoc]
    case char.varchar m n =>
      cases c <;> try (cases hbc; done)
      case char k =>
        rw [widenType_char_varchar ha hb, widenType_varchar_char hc (max_le (hv ha) hb),
          widenType_varchar_char hc hb, widenType_char_varchar ha (max_le (hv hc) hb),
          max_left_comm]
      case varchar k =>
        rw [widenType_char_varchar ha hb, widenType_varchar (max_le (hv ha) hb) hc,
          widenType_varchar hb hc, widenType_char_varchar ha (max_le hb hc), max_assoc]
    case varchar.char m n =>
      cases c <;> try (cases hbc; done)
      case char k =>
        rw [widenType_varchar_char hb ha, widenType_varchar_char hc (max_le (hv hb) ha),
          widenType_char hb hc, widenType_varchar_char (max_le hb hc) ha, max_left_comm,
          max_assoc]
      case varchar k =>
        rw [widenType_varchar_char hb ha, widenType_varchar (max_le (hv hb) ha) hc,
          widenType_char_varchar hb hc, widenType_varchar ha (max_le (hv hb) hc), max_comm n m,
          max_assoc]
    case varchar.varchar m n =>
      cases c <;> try (cases hbc; done)
      case char k =>
        rw [widenType_varchar ha hb, widenType_varchar_char hc (max_le ha hb),
          widenType_varchar_char hc hb, widenType_varchar ha (max_le (hv hc) hb), max_left_comm]
      case varchar k =>
        rw [widenType_varchar ha hb, widenType_varchar (max_le ha hb) hc,
          widenType_varchar hb hc, widenType_varchar ha (max_le hb hc), max_assoc]
    case decimal.decimal p1 s1 p2 s2 =>
      cases c <;> try (cases hbc; done)
      case decimal p3 s3 =>
        rw [widenType_decimal ha hb, widenType_decimal (max_le ha hb) hc,
          widenType_decimal hb hc, widenType_decimal ha (max_le hb hc), max_assoc, max_assoc]
      case double => rw [widenType_decimal ha hb]; rfl
    case decimal.double => cases c <;> first | (cases hbc; done) | rfl
    case double.decimal =>
      cases c <;> try (cases hbc; done)
      case decimal p3 s3 => rw [widenType_decimal hb hc]; rfl
      case double => rfl
    case double.double => cases c <;> first | (cases hbc; done) | rfl
    case timestamp.timestamp =>
      cases c <;> try (cases hbc; done)
      rw [widenType_timestamp, widenType_timestamp, widenType_timestamp, widenType_timestamp,
        Bool.or_assoc]
    case intervalDayToSecond.intervalDayToSecond =>
      cases c <;> try (cases hbc; done)
      simp only [widenType_intervalDayToSecond, max_assoc]
    all_goals exact absurd trivial hflat
  · rw [widenType_widenType_of_ne ha hb hc h, widenType_comm ha (widenType_mem hb hc).1,
      widenType_widenType_of_ne hb hc ha fun h' => h ⟨(h'.1.trans h'.2).symm, h'.1⟩]

end Laws

/-- **The laws of widening**, on the types within the limits of Exasol. -/
theorem widenType_laws : Laws widenType ExasolType.Valid where
  closed _ _ ha hb := (widenType_mem ha hb).1
  comm _ _ := widenType_comm
  assoc _ _ _ := widenType_assoc
  idem a _ := widenType_self a

/-- A column of the given name, as a file has it. -/
structure IsColumn (mode : ColumnNameMode) (name : String) (c : InferredColumn) : Prop where
  /-- The name of the column. -/
  originalName : c.originalName = name
  /-- The name is written in the mode. -/
  ddlName : c.ddlName = formatColumnName name mode
  /-- The type is within the limits of Exasol. -/
  valid : c.exasolType.Valid

/-- Columns of the given names, as a file has them. -/
abbrev IsFileSchema (mode : ColumnNameMode) (names : List String)
    (columns : List InferredColumn) : Prop := List.Forall₂ (IsColumn mode) names columns

/-- The laws of merging two columns. -/
theorem mergeColumn_laws (mode : ColumnNameMode) (name : String) :
    Laws mergeColumn (IsColumn mode name) where
  closed a b ha hb := ⟨ha.originalName, ha.ddlName, (widenType_mem ha.valid hb.valid).1⟩
  comm a b ha hb := by
    rw [mergeColumn, mergeColumn, widenType_comm ha.valid hb.valid, Bool.or_comm,
      ha.originalName, hb.originalName, ha.ddlName, hb.ddlName]
  assoc a b c ha hb hc := by
    rw [mergeColumn, mergeColumn, mergeColumn, mergeColumn,
      widenType_assoc ha.valid hb.valid hc.valid, Bool.or_assoc]
  idem a _ := by rw [mergeColumn, widenType_self, Bool.or_self]

/-- The laws of merging the columns of two files. -/
theorem mergeColumns_laws (mode : ColumnNameMode) (names : List String) :
    Laws mergeColumns (IsFileSchema mode names) :=
  Laws.zipWith (mergeColumn_laws mode) names

/-! ### What the files of a table give -/

section Files

variable {Path File : Type} {lib : SchemaReaders Path File}

/-- Names and types of columns that were inferred determine their kind. -/
theorem isFileSchema_of_forall {mode : ColumnNameMode} {columns : List InferredColumn}
    (h : ∀ c ∈ columns, c.ddlName = formatColumnName c.originalName mode ∧ c.exasolType.Valid) :
    IsFileSchema mode (columns.map InferredColumn.originalName) columns := by
  refine List.forall₂_map_left_iff.mpr (List.forall₂_same.mpr fun c hc => ?_)
  exact ⟨rfl, (h c hc).1, (h c hc).2⟩

/-- The columns of a CSV file are of the kind that is merged. -/
theorem isFileSchema_csvFileColumns {options : CsvInferenceOptions} {path : Path}
    {columns : List InferredColumn} (h : csvFileColumns lib options path = .ok columns) :
    IsFileSchema options.columnNameMode (columns.map InferredColumn.originalName) columns := by
  obtain ⟨file, -, h⟩ := bind_eq_ok.mp h
  obtain ⟨⟨schema, recordsRead⟩, -, h⟩ := bind_eq_ok.mp h
  simp only at h
  split at h
  · cases h
  obtain rfl := Except.ok.inj h
  refine isFileSchema_of_forall fun c hc => ?_
  obtain ⟨i, hi, rfl⟩ := List.mem_mapIdx.mp hc
  refine ⟨rfl, ?_⟩
  change ExasolType.Valid ((TypeMapper.arrowToExasol lib.debug _).toOption.getD longestVarchar)
  cases ht : TypeMapper.arrowToExasol lib.debug schema.fields[i].dataType with
  | error e => exact le_rfl
  | ok t => exact valid_of_arrowToExasol ht

/-- The columns of a Parquet file. -/
def parquetFileColumns (lib : SchemaReaders Path File) (mode : ColumnNameMode) (path : Path) :
    Except ImportError (List InferredColumn) := do
  arrowSchemaToColumns lib mode (← parquetSchema lib path)

theorem parquetColumn_eq_ok {mode : ColumnNameMode} {field : Field} {c : InferredColumn} :
    parquetColumn lib mode field = .ok c ↔
      ∃ t, TypeMapper.arrowToExasol lib.debug field.dataType = .ok t ∧
        c = ⟨field.name, formatColumnName field.name mode, t, field.nullable⟩ := by
  unfold parquetColumn
  cases TypeMapper.arrowToExasol lib.debug field.dataType with
  | error e => exact ⟨fun h => (nomatch h), fun ⟨_, h, _⟩ => (nomatch h)⟩
  | ok t =>
    refine ⟨fun h => ⟨t, rfl, (Except.ok.inj h).symm⟩, ?_⟩
    rintro ⟨_, h, rfl⟩
    obtain rfl := Except.ok.inj h
    rfl

/-- The columns of a Parquet file are of the kind that is merged. -/
theorem isFileSchema_parquetFileColumns {mode : ColumnNameMode} {path : Path}
    {columns : List InferredColumn} (h : parquetFileColumns lib mode path = .ok columns) :
    IsFileSchema mode (columns.map InferredColumn.originalName) columns := by
  obtain ⟨schema, -, h⟩ := bind_eq_ok.mp h
  refine isFileSchema_of_forall fun c hc => ?_
  obtain ⟨field, -, hfield⟩ := exists_of_mem_mapM h hc
  obtain ⟨t, ht, rfl⟩ := parquetColumn_eq_ok.mp hfield
  exact ⟨rfl, valid_of_arrowToExasol ht⟩

/-- The columns are those of the files, merged in their order; every file gives
columns, and as many as the first. -/
def MergedFrom (columnsOf : Path → Except ImportError (List InferredColumn)) (paths : List Path)
    (columns : List InferredColumn) : Prop :=
  ∃ c cs, List.Forall₂ (fun path d => columnsOf path = .ok d) paths (c :: cs) ∧
    (∀ d ∈ cs, d.length = c.length) ∧ columns = cs.foldl mergeColumns c

theorem length_mergeColumns {columns fileColumns : List InferredColumn}
    (h : fileColumns.length = columns.length) :
    (mergeColumns columns fileColumns).length = columns.length := by
  rw [mergeColumns, List.length_zipWith, h, min_self]

/-- Merging further CSV files into columns. -/
theorem mergeCsvFiles_eq_ok {options : CsvInferenceOptions} {first : Path}
    {columns : List InferredColumn} {paths : List Path} {r : Option (List InferredColumn)} :
    mergeCsvFiles lib options first (some columns) paths = .ok r ↔
      ∃ cs, List.Forall₂ (fun path d => csvFileColumns lib options path = .ok d) paths cs ∧
        (∀ d ∈ cs, d.length = columns.length) ∧ r = some (cs.foldl mergeColumns columns) := by
  induction paths generalizing columns with
  | nil =>
    constructor
    · intro h
      exact ⟨[], .nil, List.forall_mem_nil _, (Except.ok.inj h).symm⟩
    · rintro ⟨cs, h, -, rfl⟩
      obtain rfl := List.forall₂_nil_left_iff.mp h
      rfl
  | cons path paths ih =>
    rw [mergeCsvFiles, bind_eq_ok]
    constructor
    · rintro ⟨d, hd, h⟩
      split at h
      · cases h
      rename_i hlen
      have hlen := not_ne_iff.mp hlen
      obtain ⟨cs, hcs, hl, rfl⟩ := ih.mp h
      refine ⟨d :: cs, .cons hd hcs, List.forall_mem_cons.mpr ⟨hlen, fun e he => ?_⟩, rfl⟩
      rw [hl e he, length_mergeColumns hlen]
    · rintro ⟨ds, hds, hl, rfl⟩
      obtain ⟨d, cs, hd, hcs, rfl⟩ := List.forall₂_cons_left_iff.mp hds
      obtain ⟨hlen, hl⟩ := List.forall_mem_cons.mp hl
      refine ⟨d, hd, ?_⟩
      rw [if_neg (not_ne_iff.mpr hlen)]
      exact ih.mpr ⟨cs, hcs, fun e he => (hl e he).trans (length_mergeColumns hlen).symm, rfl⟩

/-- A single file gives its own columns. -/
theorem mergedFrom_singleton {columnsOf : Path → Except ImportError (List InferredColumn)}
    {path : Path} {columns : List InferredColumn} :
    MergedFrom columnsOf [path] columns ↔ columnsOf path = .ok columns := by
  constructor
  · rintro ⟨c, cs, hcs, -, rfl⟩
    obtain ⟨hc, hnil⟩ := List.forall₂_cons.mp hcs
    obtain rfl := List.forall₂_nil_left_iff.mp hnil
    exact hc
  · intro h
    exact ⟨columns, [], .cons h .nil, List.forall_mem_nil _, rfl⟩

/-- **The schema of CSV files** is merged from theirs. -/
theorem inferSchemaFromCsvFiles_eq_ok {options : CsvInferenceOptions} {paths : List Path}
    {s : InferredTableSchema Path} : inferSchemaFromCsvFiles lib options paths = .ok s ↔
      MergedFrom (csvFileColumns lib options) paths s.columns ∧ s.sourceFiles = paths := by
  rcases paths with _ | ⟨first, _ | ⟨second, rest⟩⟩
  · refine ⟨fun h => (nomatch h), ?_⟩
    rintro ⟨⟨c, cs, hcs, -⟩, -⟩
    cases hcs
  · rw [inferSchemaFromCsvFiles, inferSchemaFromCsv, bind_eq_ok, mergedFrom_singleton]
    constructor
    · rintro ⟨d, hd, h⟩
      obtain rfl := Except.ok.inj h
      exact ⟨hd, rfl⟩
    · rintro ⟨h, hs⟩
      refine ⟨_, h, ?_⟩
      rw [← hs]
      rfl
  · unfold inferSchemaFromCsvFiles
    dsimp only
    rw [mergeCsvFiles, bind_eq_ok]
    constructor
    · rintro ⟨merged, h, hs⟩
      obtain ⟨d, hd, h⟩ := bind_eq_ok.mp h
      obtain ⟨cs, hcs, hl, rfl⟩ := mergeCsvFiles_eq_ok.mp h
      obtain rfl := Except.ok.inj hs
      exact ⟨⟨d, cs, .cons hd hcs, hl, rfl⟩, rfl⟩
    · rintro ⟨⟨d, cs, hcs, hl, hcol⟩, hs⟩
      obtain ⟨hd, hcs⟩ := List.forall₂_cons.mp hcs
      refine ⟨_, bind_eq_ok.mpr ⟨d, hd, mergeCsvFiles_eq_ok.mpr ⟨cs, hcs, hl, rfl⟩⟩, ?_⟩
      rw [← hs, Option.getD_some, ← hcol]
      rfl

/-- Merging a field of a Parquet file into a column merges its column. -/
theorem mergeField_eq_ok {mode : ColumnNameMode} {path : Path} {column r : InferredColumn}
    {field : Field} : mergeField lib path (column, field) = .ok r ↔
      ∃ d, parquetColumn lib mode field = .ok d ∧ r = mergeColumn column d := by
  simp only [parquetColumn_eq_ok]
  unfold mergeField
  dsimp only
  cases TypeMapper.arrowToExasol lib.debug field.dataType with
  | error e => exact ⟨fun h => (nomatch h), fun ⟨_, ⟨_, h, _⟩, _⟩ => (nomatch h)⟩
  | ok t =>
    constructor
    · intro h
      obtain rfl := Except.ok.inj h
      exact ⟨_, ⟨t, rfl, rfl⟩, rfl⟩
    · rintro ⟨_, ⟨_, h, rfl⟩, rfl⟩
      obtain rfl := Except.ok.inj h
      rfl

/-- Merging a Parquet file into columns merges the columns of the file. -/
theorem mapM_mergeField (mode : ColumnNameMode) {path : Path} {columns r : List InferredColumn}
    {fields : List Field} (h : fields.length = columns.length) :
    (columns.zip fields).mapM (mergeField lib path) = .ok r ↔
      ∃ d, fields.mapM (parquetColumn lib mode) = .ok d ∧ r = mergeColumns columns d := by
  simp only [mapM_eq_ok]
  induction columns generalizing fields r with
  | nil =>
    obtain rfl := List.length_eq_zero_iff.mp h
    simp [mergeColumns]
  | cons column columns ih =>
    obtain ⟨field, fields, rfl⟩ := List.exists_cons_of_length_eq_add_one h
    rw [List.zip_cons_cons, List.forall₂_cons_left_iff]
    constructor
    · rintro ⟨x, xs, hx, hxs, rfl⟩
      obtain ⟨d, hd, rfl⟩ := mergeField_eq_ok.mp hx
      obtain ⟨ds, hds, rfl⟩ := (ih (Nat.succ.inj h)).mp hxs
      exact ⟨d :: ds, .cons hd hds, rfl⟩
    · rintro ⟨all, hall, rfl⟩
      obtain ⟨d, ds, hd, hds, rfl⟩ := List.forall₂_cons_left_iff.mp hall
      exact ⟨_, _, mergeField_eq_ok.mpr ⟨d, hd, rfl⟩,
        (ih (Nat.succ.inj h)).mpr ⟨ds, hds, rfl⟩, rfl⟩

/-- Merging further Parquet files into columns. -/
theorem mergeParquetSchemas_eq_ok {mode : ColumnNameMode} {first : Path}
    {columns r : List InferredColumn} {schemas : List (Path × Schema)} :
    mergeParquetSchemas lib first columns schemas = .ok r ↔
      ∃ cs, List.Forall₂ (fun p d => arrowSchemaToColumns lib mode p.2 = .ok d) schemas cs ∧
        (∀ d ∈ cs, d.length = columns.length) ∧ r = cs.foldl mergeColumns columns := by
  induction schemas generalizing columns with
  | nil =>
    constructor
    · intro h
      exact ⟨[], .nil, List.forall_mem_nil _, (Except.ok.inj h).symm⟩
    · rintro ⟨cs, h, -, rfl⟩
      obtain rfl := List.forall₂_nil_left_iff.mp h
      rfl
  | cons p schemas ih =>
    obtain ⟨path, schema⟩ := p
    have hlength {d : List InferredColumn} (hd : arrowSchemaToColumns lib mode schema = .ok d) :
        d.length = schema.fields.length := (mapM_eq_ok.mp hd).length_eq.symm
    rw [mergeParquetSchemas]
    constructor
    · intro h
      split at h
      · cases h
      rename_i hlen
      have hlen := not_ne_iff.mp hlen
      obtain ⟨merged, hm, h⟩ := bind_eq_ok.mp h
      obtain ⟨d, hd, rfl⟩ := (mapM_mergeField mode hlen).mp hm
      obtain ⟨cs, hcs, hl, rfl⟩ := ih.mp h
      have hdl : d.length = columns.length := (hlength hd).trans hlen
      refine ⟨d :: cs, .cons hd hcs, List.forall_mem_cons.mpr ⟨hdl, fun e he => ?_⟩, rfl⟩
      rw [hl e he, length_mergeColumns hdl]
    · rintro ⟨ds, hds, hl, rfl⟩
      obtain ⟨d, cs, hd, hcs, rfl⟩ := List.forall₂_cons_left_iff.mp hds
      obtain ⟨hdl, hl⟩ := List.forall_mem_cons.mp hl
      have hlen : schema.fields.length = columns.length := (hlength hd).symm.trans hdl
      rw [if_neg (not_ne_iff.mpr hlen)]
      refine bind_eq_ok.mpr ⟨_, (mapM_mergeField mode hlen).mpr ⟨d, hd, rfl⟩, ?_⟩
      exact ih.mpr ⟨cs, hcs, fun e he => (hl e he).trans (length_mergeColumns hdl).symm, rfl⟩

/-- Reading the footers of Parquet files. -/
theorem mapM_parquetSchema {paths : List Path} {schemas : List (Path × Schema)} :
    (paths.mapM fun path => do return (path, ← parquetSchema lib path)) = .ok schemas ↔
      List.Forall₂ (fun path p => p.1 = path ∧ parquetSchema lib path = .ok p.2) paths schemas := by
  rw [mapM_eq_ok]
  have hone (path : Path) (p : Path × Schema) :
      (do return (path, ← parquetSchema lib path) : Except ImportError (Path × Schema)) = .ok p ↔
        p.1 = path ∧ parquetSchema lib path = .ok p.2 := by
    rw [bind_eq_ok]
    constructor
    · rintro ⟨schema, hschema, h⟩
      obtain rfl := Except.ok.inj h
      exact ⟨rfl, hschema⟩
    · rintro ⟨rfl, hschema⟩
      exact ⟨p.2, hschema, rfl⟩
  simp only [hone]

/-- Footers that are read and their columns are the columns of the files. -/
theorem forall₂_parquetFileColumns {mode : ColumnNameMode} {paths : List Path}
    {cs : List (List InferredColumn)} :
    List.Forall₂ (fun path d => parquetFileColumns lib mode path = .ok d) paths cs ↔
      ∃ schemas : List (Path × Schema),
        List.Forall₂ (fun path p => p.1 = path ∧ parquetSchema lib path = .ok p.2) paths schemas ∧
        List.Forall₂ (fun p d => arrowSchemaToColumns lib mode p.2 = .ok d) schemas cs := by
  constructor
  · intro h
    induction h with
    | nil => exact ⟨[], .nil, .nil⟩
    | @cons path _ _ _ hd _ ih =>
      obtain ⟨schema, hschema, hcols⟩ := bind_eq_ok.mp hd
      obtain ⟨schemas, h1, h2⟩ := ih
      exact ⟨(path, schema) :: schemas, .cons ⟨rfl, hschema⟩ h1, .cons hcols h2⟩
  · rintro ⟨schemas, h1, h2⟩
    induction h1 generalizing cs with
    | nil =>
      obtain rfl := List.forall₂_nil_left_iff.mp h2
      exact .nil
    | cons hp _ ih =>
      obtain ⟨d, ds, hd, hds, rfl⟩ := List.forall₂_cons_left_iff.mp h2
      exact .cons (bind_eq_ok.mpr ⟨_, hp.2, hd⟩) (ih hds)

/-- **The schema of Parquet files** is merged from theirs. -/
theorem inferSchemaFromParquetFiles_eq_ok {mode : ColumnNameMode} {paths : List Path}
    {s : InferredTableSchema Path} : inferSchemaFromParquetFiles lib mode paths = .ok s ↔
      MergedFrom (parquetFileColumns lib mode) paths s.columns ∧ s.sourceFiles = paths := by
  rcases paths with _ | ⟨first, _ | ⟨second, rest⟩⟩
  · refine ⟨fun h => (nomatch h), ?_⟩
    rintro ⟨⟨c, cs, hcs, -⟩, -⟩
    cases hcs
  · rw [inferSchemaFromParquetFiles, inferSchemaFromParquet, bind_eq_ok, mergedFrom_singleton]
    constructor
    · rintro ⟨schema, hschema, h⟩
      obtain ⟨d, hd, h⟩ := bind_eq_ok.mp h
      obtain rfl := Except.ok.inj h
      exact ⟨bind_eq_ok.mpr ⟨schema, hschema, hd⟩, rfl⟩
    · rintro ⟨h, hs⟩
      obtain ⟨schema, hschema, hd⟩ := bind_eq_ok.mp h
      refine ⟨schema, hschema, bind_eq_ok.mpr ⟨_, hd, ?_⟩⟩
      rw [← hs]
      rfl
  · unfold inferSchemaFromParquetFiles
    dsimp only
    rw [bind_eq_ok]
    simp only [mapM_parquetSchema]
    constructor
    · rintro ⟨schemas, hschemas, h⟩
      obtain ⟨⟨path, firstSchema⟩, others, hp, hothers, rfl⟩ :=
        List.forall₂_cons_left_iff.mp hschemas
      obtain ⟨d, hd, h⟩ := bind_eq_ok.mp h
      obtain ⟨merged, hm, h⟩ := bind_eq_ok.mp h
      obtain ⟨cs, hcs, hl, rfl⟩ := mergeParquetSchemas_eq_ok.mp hm
      obtain rfl := Except.ok.inj h
      refine ⟨⟨d, cs, ?_, hl, rfl⟩, rfl⟩
      exact forall₂_parquetFileColumns.mpr ⟨_, hschemas, .cons hd hcs⟩
    · rintro ⟨⟨d, cs, hcs, hl, hcol⟩, hs⟩
      obtain ⟨schemas, hschemas, hcs⟩ := forall₂_parquetFileColumns.mp hcs
      obtain ⟨⟨path, firstSchema⟩, others, hd, hothers, rfl⟩ := List.forall₂_cons_right_iff.mp hcs
      refine ⟨_, hschemas, bind_eq_ok.mpr ⟨d, hd, bind_eq_ok.mpr
        ⟨_, mergeParquetSchemas_eq_ok.mpr ⟨cs, hothers, hl, rfl⟩, ?_⟩⟩⟩
      rw [← hs, ← hcol]
      rfl

/-- **Columns merged from files do not depend on the order of the files**, where
all have the same column names. -/
theorem MergedFrom.perm {columnsOf : Path → Except ImportError (List InferredColumn)}
    {mode : ColumnNameMode} {names : List String} {paths paths' : List Path}
    {columns : List InferredColumn} (h : MergedFrom columnsOf paths columns)
    (hp : paths.Perm paths')
    (hnames : ∀ path ∈ paths, ∀ d, columnsOf path = .ok d → IsFileSchema mode names d) :
    MergedFrom columnsOf paths' columns := by
  obtain ⟨c, cs, hcs, hl, rfl⟩ := h
  obtain ⟨ds, hds, hperm⟩ := List.perm_comp_forall₂ hp.symm hcs
  have hkind : ∀ d ∈ c :: cs, IsFileSchema mode names d := by
    intro d hd
    obtain ⟨path, hpath, hok⟩ := exists_of_mem_mapM (mapM_eq_ok.mpr hcs) hd
    exact hnames path hpath d hok
  rcases ds with _ | ⟨e, es⟩
  · exact absurd hperm.length_eq (by simp)
  have hlen {d : List InferredColumn} (hd : d ∈ e :: es) : d.length = names.length :=
    (hkind d (hperm.mem_iff.mp hd)).length_eq.symm
  refine ⟨e, es, hds, fun d hd => ?_, ?_⟩
  · rw [hlen (List.mem_cons_of_mem _ hd), hlen List.mem_cons_self]
  · have hplans : (Plan.inOrder c cs).eval mergeColumns = (Plan.inOrder e es).eval mergeColumns :=
      Plan.eval_eq (mergeColumns_laws mode names) (by simpa using hkind) fun d => by
        simpa using hperm.symm.mem_iff
    simpa using hplans

end Files

/-! ### Order and grouping do not matter -/

/-- Merging files gives one result in any order and any grouping. -/
structure MergesFreely {Path File : Type} (lib : SchemaReaders Path File) : Prop where
  /-- Widening types is commutative, associative and idempotent within the limits of
  Exasol. -/
  types : Laws widenType ExasolType.Valid
  /-- Inference produces types within these limits. -/
  inferred : ∀ t e, TypeMapper.arrowToExasol lib.debug t = .ok e → e.Valid
  /-- So is merging columns of the same names. -/
  columns : ∀ mode names, Laws mergeColumns (IsFileSchema mode names)
  /-- Plans with the same schemas, each as often, have the same result. -/
  plans : ∀ mode names (p q : Plan (List InferredColumn)),
    (∀ c ∈ p.parts, IsFileSchema mode names c) → p.parts.Perm q.parts →
      p.eval mergeColumns = q.eval mergeColumns
  /-- CSV files with the same column names, in another order, give the same columns. -/
  csv : ∀ options names (paths paths' : List Path), paths.Perm paths' →
    (∀ path ∈ paths, ∀ d, csvFileColumns lib options path = .ok d →
      d.map InferredColumn.originalName = names) →
    ∀ s, inferSchemaFromCsvFiles lib options paths = .ok s →
      ∃ s', inferSchemaFromCsvFiles lib options paths' = .ok s' ∧ s'.columns = s.columns
  /-- Parquet files with the same column names, in another order, give the same
  columns. -/
  parquet : ∀ mode names (paths paths' : List Path), paths.Perm paths' →
    (∀ path ∈ paths, ∀ d, parquetFileColumns lib mode path = .ok d →
      d.map InferredColumn.originalName = names) →
    ∀ s, inferSchemaFromParquetFiles lib mode paths = .ok s →
      ∃ s', inferSchemaFromParquetFiles lib mode paths' = .ok s' ∧ s'.columns = s.columns

/-- **The merged schema of files is unique**: neither the order of the files nor the
grouping of the merges shows in the types and the nullability of its columns. -/
theorem merged_schema_unique {Path File : Type} (lib : SchemaReaders Path File) :
    MergesFreely lib where
  types := widenType_laws
  inferred _ _ := valid_of_arrowToExasol
  columns := mergeColumns_laws
  plans mode names _ _ hp hperm := Plan.eval_eq (mergeColumns_laws mode names) hp
    fun _ => hperm.mem_iff
  csv options names paths paths' hperm hnames s hs := by
    obtain ⟨hm, -⟩ := inferSchemaFromCsvFiles_eq_ok.mp hs
    have hm' : MergedFrom (csvFileColumns lib options) paths' s.columns :=
      hm.perm hperm fun path hpath d hd =>
        hnames path hpath d hd ▸ isFileSchema_csvFileColumns hd
    exact ⟨⟨s.columns, paths'⟩, inferSchemaFromCsvFiles_eq_ok.mpr ⟨hm', rfl⟩, rfl⟩
  parquet mode names paths paths' hperm hnames s hs := by
    obtain ⟨hm, -⟩ := inferSchemaFromParquetFiles_eq_ok.mp hs
    have hm' : MergedFrom (parquetFileColumns lib mode) paths' s.columns :=
      hm.perm hperm fun path hpath d hd =>
        hnames path hpath d hd ▸ isFileSchema_parquetFileColumns hd
    exact ⟨⟨s.columns, paths'⟩, inferSchemaFromParquetFiles_eq_ok.mpr ⟨hm', rfl⟩, rfl⟩

end Exarrow
