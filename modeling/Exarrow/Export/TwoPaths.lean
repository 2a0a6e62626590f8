import Exarrow.Export.Batches

/-!
# Two ways to export rows

The rows of an export become record batches in two ways: for Arrow data
(`Exarrow.Export.recordBatchesOf`, and `Exarrow.Export.buildRecordBatch` for the reader of CSV
lines) and for a Parquet file (`Exarrow.Export.rowsToRecordBatches`). The two differ by design in
three respects. A field that a row lacks is an empty text for the first and an error for the
second; an empty text is always a null for the first, for the second only where there is no null
marker; and where a text column has no nulls, a null is the empty text for the first and an error
for the second.

**Where these respects do not matter, the two ways come to the same**
(`Exarrow.Export.paths_agree`): both succeed or none does, and the values and nulls are equal.
The schema that the driver derives for a Parquet file (`Exarrow.Export.exasolTypesToArrowSchema`)
has the types of the arrays that are built, so that no batch is refused.
-/

namespace Exarrow

/-- The text of an error. -/
def ArrowExportError.display : ArrowExportError → String
  | .csvParseError row message => s!"CSV parsing error at row {row}: {message}"
  | .typeConversionError row column message =>
    s!"Type conversion error at row {row}, column {column}: {message}"
  | .schemaError message => s!"Schema error: {message}"
  | .ioError message => s!"I/O error: {message}"
  | .arrowError message => s!"Arrow error: {message}"
  | .transportError message => s!"Transport error: {message}"

namespace Export

open Machine Ieee Checked Arrow

section Conversion

variable (texts : LibraryTexts) (ov : Overflow) (schema : Schema) (nullValue : Option (List Char))

/-! ### Batches of Arrow data -/

/-- The texts of a column. A row that has no such field has an empty one. -/
def columnTexts (rows : List Csv.Row) (colIdx : ℕ) : List (List Char) :=
  rows.map fun row => row[colIdx]?.getD []

/-- The array of a column of rows, the first of which has the given index. -/
def arrayOf (rows : List Csv.Row) (startRow : ℕ) (field : Arrow.Field × ℕ) :
    Exec ArrowExportError Column :=
  buildArrayFromStrings texts ov (columnTexts rows field.2) field.1.nullable nullValue startRow
    field.2 field.1.dataType

/-- The batch that a reader builds of the rows it has read last. -/
def buildRecordBatch (currentRow : ℕ) (rows : List Csv.Row) :
    Exec ArrowExportError RecordBatch := do
  let arrays ← schema.fields.zipIdx.mapM (arrayOf texts ov nullValue rows (currentRow - rows.length))
  mapError (fun e => .arrowError (texts.arrowError e)) (ofExcept (RecordBatch.tryNew schema arrays))

/-- Rows, so many at a time, and so many times at most. -/
def chunksUpTo (size : ℕ) : ℕ → List Csv.Row → List (List Csv.Row)
  | 0, _ => []
  | n + 1, rows => if rows = [] then [] else rows.take size :: chunksUpTo size n (rows.drop size)

/-- The batch of a chunk. -/
def exportChunk (rows : List Csv.Row) : Exec ExportError RecordBatch := do
  let arrays ← mapError (fun e => .csvParseError 0 e.display)
    (schema.fields.zipIdx.mapM (arrayOf texts ov nullValue rows 0))
  mapError (fun e => .csvParseError 0 (texts.arrowError e))
    (ofExcept (RecordBatch.tryNew schema arrays))

/-- **The batches of the rows of an export** to Arrow data. There are no chunks of size 0. -/
def recordBatchesOf (rows : List Csv.Row) (batchSize : ℕ) : Exec ExportError (List RecordBatch) :=
  if batchSize = 0 then stop
  else (chunksUpTo batchSize rows.length rows).mapM (exportChunk texts ov schema nullValue)

end Conversion

/-! ### The schema of a Parquet file -/

/-- The Arrow type of an Exasol type whose values are texts. -/
def conversionTypeToArrow : ExasolType → DataType
  | .boolean => .boolean
  | .char _ | .varchar _ => .utf8
  | .decimal precision scale => .decimal128 precision scale
  | .double => .float64
  | .date => .date32
  | .timestamp true => .timestamp .microsecond (some "UTC")
  | .timestamp false => .timestamp .microsecond none
  | .intervalYearToMonth | .intervalDayToSecond _ => .int64
  | .geometry _ | .hashtype _ => .binary

/-- The Arrow type that a text of an Exasol type is converted to. -/
def exasolTypeToArrow : ExasolType → DataType
  -- For these there is no conversion, and the text is kept.
  | .intervalYearToMonth | .intervalDayToSecond _ | .geometry _ | .hashtype _ => .utf8
  -- Exasol writes the time of the session.
  | .timestamp true => .timestamp .microsecond none
  | t => conversionTypeToArrow t

/-- The schema for columns of Exasol types. -/
def exasolTypesToArrowSchema (columnNames : List String) (columnTypes : List ExasolType) :
    Except ParquetExportError Schema :=
  if columnNames.length ≠ columnTypes.length then
    .error (.schema (s!"Column names count ({columnNames.length}) doesn't match types count " ++
      s!"({columnTypes.length})"))
  else .ok ⟨(columnNames.zip columnTypes).map fun (name, exasolType) =>
    { name, dataType := exasolTypeToArrow exasolType, nullable := true }⟩

section Readers

variable (texts : LibraryTexts) (ov : Overflow)

/-! ### The same values -/

/-- The special floats are read alike without names of their own. -/
theorem specialFloat?_or (value : List Char) :
    (specialFloat? value <|> F64.parse? value) = F64.parse? value := by
  unfold specialFloat?
  have hlist {s : String} (h : String.ofList value = s) : value = s.toList := by
    rw [← h, String.toList_ofList]
  split
  · rename_i h
    rw [hlist h]
    decide +kernel
  · rename_i h
    rw [hlist h]
    decide +kernel
  · rename_i h
    rw [hlist h]
    decide +kernel
  · rename_i h
    rw [hlist h]
    decide +kernel
  · rename_i h
    rw [hlist h]
    decide +kernel
  · rename_i h
    rw [hlist h]
    decide +kernel
  · rfl

/-- The type of the arrays that are built for fields of a type. -/
def arrayType : DataType → DataType
  | .timestamp .microsecond _ => .timestamp .microsecond none
  | t => t

/-- How the two ways build the arrays of a type. -/
inductive Builders (dataType : DataType) (colIdx : ℕ) : Prop
  /-- Neither builds any. -/
  | neither {e : ArrowExportError} {e' : ParquetExportError}
    (hstrings : ∀ values nullable nullValue startRow, buildArrayFromStrings texts ov values nullable
      nullValue startRow colIdx dataType = fail e)
    (hcsv : ∀ values field, field.dataType = dataType →
      buildArrayFromCsvColumn texts ov values colIdx field = fail e')
  /-- Both read the same values. -/
  | readers {t : DataType} {read read' : List Char → Exec String t.Native}
    (hread : ∀ value a, read value = .ok a ↔ read' value = .ok a)
    (ht : t = arrayType dataType)
    (hstrings : ∀ values nullable nullValue startRow, buildArrayFromStrings texts ov values nullable
      nullValue startRow colIdx dataType =
        fromStrings ⟨t, read⟩ values nullable nullValue startRow colIdx)
    (hcsv : ∀ values field, field.dataType = dataType →
      buildArrayFromCsvColumn texts ov values colIdx field = fromCsv ⟨t, read'⟩ values)
  /-- Texts are taken as they are. -/
  | utf8 (ht : dataType = .utf8)

theorem orFail_read {α : Type} {e e' : String} {o o' : Option α} (h : o = o') (a : α) :
    orFail e o = .ok a ↔ orFail e' o' = .ok a := by
  rw [orFail_eq_ok, orFail_eq_ok, h]

/-- A type for which neither builds arrays. -/
theorem builders_unsupported {dataType : DataType} {colIdx : ℕ}
    (hstrings : ∀ values nullable nullValue startRow, buildArrayFromStrings texts ov values nullable
      nullValue startRow colIdx dataType =
        fail (.schemaError s!"Unsupported data type: {texts.debugType dataType}"))
    (hcsv : ∀ values field, field.dataType = dataType →
      buildArrayFromCsvColumn texts ov values colIdx field =
        fail (.schema s!"Unsupported data type for Parquet export: {texts.debugType dataType}")) :
    Builders texts ov dataType colIdx := .neither hstrings hcsv

theorem builders (dataType : DataType) (colIdx : ℕ) : Builders texts ov dataType colIdx := by
  -- Each type has a line of its own in both tables.
  have hcsv {t : DataType} (values : List (Option (List Char))) (field : Arrow.Field)
      (h : field.dataType = t) : buildArrayFromCsvColumn texts ov values colIdx field =
        buildArrayFromCsvColumn texts ov values colIdx { field with dataType := t } := by
    subst h
    rfl
  cases dataType with
  | boolean =>
    exact .readers (fun value a => orFail_read rfl a) rfl (fun _ _ _ _ => rfl)
      fun values field h => hcsv values field h
  | int64 =>
    exact .readers (fun value a => orFail_read rfl a) rfl (fun _ _ _ _ => rfl)
      fun values field h => hcsv values field h
  | float64 =>
    exact .readers (fun value a => orFail_read (specialFloat?_or value) a) rfl (fun _ _ _ _ => rfl)
      fun values field h => hcsv values field h
  | utf8 => exact .utf8 rfl
  | date32 =>
    exact .readers (fun value a => mapError_eq_ok.symm) rfl (fun _ _ _ _ => rfl)
      fun values field h => hcsv values field h
  | timestamp unit timezone =>
    cases unit with
    | microsecond =>
      exact .readers (fun value a => mapError_eq_ok.symm) rfl (fun _ _ _ _ => rfl)
        fun values field h => hcsv values field h
    | second | millisecond | nanosecond =>
      exact builders_unsupported texts ov (fun _ _ _ _ => rfl) fun values field h =>
        (hcsv values field h).trans rfl
  | decimal128 precision scale =>
    cases hcheck : checkDecimalType precision scale with
    | error e =>
      refine @Builders.neither texts ov _ colIdx (.arrowError (texts.arrowError e))
        (.arrow (texts.arrowError e)) (fun values nullable nullValue startRow => ?_)
        fun values field h => (hcsv values field h).trans ?_
      · change buildDecimal128Array texts ov values nullable nullValue startRow colIdx precision
          scale = fail (.arrowError (texts.arrowError e))
        unfold buildDecimal128Array
        rw [hcheck]
        rfl
      · change buildDecimal128ArrayFromCsv texts ov values colIdx precision scale =
          fail (.arrow (texts.arrowError e))
        unfold buildDecimal128ArrayFromCsv
        rw [hcheck]
        rfl
    | ok u =>
      refine @Builders.readers texts ov _ colIdx (.decimal128 precision scale)
        (fun value => parseDecimalToI128 ov value scale)
        (fun value => mapError (atColumn colIdx) (parseDecimalToI128 ov value scale))
        (fun value a => mapError_eq_ok.symm) rfl
        (fun values nullable nullValue startRow => ?_) fun values field h =>
          (hcsv values field h).trans ?_
      · change buildDecimal128Array texts ov values nullable nullValue startRow colIdx precision
          scale = _
        unfold buildDecimal128Array
        rw [hcheck]
        rfl
      · change buildDecimal128ArrayFromCsv texts ov values colIdx precision scale = _
        unfold buildDecimal128ArrayFromCsv
        rw [hcheck]
        rfl
  | _ =>
    exact builders_unsupported texts ov (fun _ _ _ _ => rfl) fun values field h =>
      (hcsv values field h).trans rfl

end Readers

/-! ### Rows for which the ways agree -/

/-- **A row on which the two ways do not differ**: it has as many fields as the schema, no empty
field if there is a null marker other than the empty text, and no null for a text column without
nulls. -/
structure Regular (schema : Schema) (nullValue : Option (List Char)) (row : Csv.Row) : Prop where
  width : row.length = schema.fields.length
  marker : ∀ marker, nullValue = some marker → marker ≠ [] → [] ∉ row
  texts : ∀ field ∈ schema.fields.zipIdx, field.1.dataType = .utf8 → field.1.nullable = false →
    ∀ value, row[field.2]? = some value → isNullValue value nullValue = false

section Agreement

variable {texts : LibraryTexts} {ov : Overflow} {schema : Schema} {nullValue : Option (List Char)}

/-- The two rules for nulls agree on a value. -/
theorem Regular.fieldValue {row : Csv.Row} (h : Regular schema nullValue row) {value : List Char}
    (hvalue : value ∈ row) :
    Export.fieldValue value nullValue = if isNullValue value nullValue then none else some value := by
  unfold Export.fieldValue isNullValue
  cases nullValue with
  | none => simp
  | some marker =>
    by_cases hmarker : marker = []
    · subst hmarker
      simp
    · have hne : value ≠ [] := fun hnil => h.marker marker rfl hmarker (hnil ▸ hvalue)
      simp [hne]

/-- The cell of a row is the same in both ways. -/
theorem stringCell_iff {t : DataType} {read read' : List Char → Exec String t.Native}
    (hread : ∀ value a, read value = .ok a ↔ read' value = .ok a) {row : Csv.Row}
    (hrow : Regular schema nullValue row) {field : Arrow.Field × ℕ} (hfield : field.2 < row.length)
    {cells : List (Option t.Native)} (hadmits : field.1.Admits ⟨t, cells⟩) {cell : Option t.Native}
    (hcell : cell ∈ cells) :
    StringCell read field.1.nullable nullValue (row[field.2]?.getD []) cell ↔
      CellOf nullValue ⟨t, read'⟩ field.2 row cell := by
  have hget : row[field.2]? = some row[field.2] := List.getElem?_eq_getElem hfield
  have hrule := hrow.fieldValue (List.getElem_mem hfield)
  unfold StringCell CellOf
  rw [hget, Option.getD_some]
  generalize row[field.2] = value at hrule
  have hsome : (∃ text, some value = some text ∧
      CellReader.readValue ⟨t, read'⟩ (Export.fieldValue text nullValue) = .ok cell) ↔
      CellReader.readValue ⟨t, read'⟩ (Export.fieldValue value nullValue) = .ok cell :=
    ⟨fun ⟨_, h, hval⟩ => Option.some.inj h ▸ hval, fun h => ⟨value, rfl, h⟩⟩
  rw [hsome, hrule]
  split
  · -- A null that the array admits.
    constructor
    · rintro ⟨-, rfl⟩
      rfl
    · intro h
      obtain rfl := Except.ok.inj h
      refine ⟨?_, rfl⟩
      by_contra hnull
      exact hadmits.2 (Bool.eq_false_iff.mpr hnull) hcell
  · change _ ↔ some <$> read' value = .ok cell
    constructor
    · rintro ⟨a, ha, rfl⟩
      rw [(hread value a).mp ha]
      rfl
    · intro h
      cases hval : read' value with
      | error fault =>
        rw [hval] at h
        cases h
      | ok a =>
        rw [hval] at h
        exact ⟨a, (hread value a).mpr hval, (Except.ok.inj h).symm⟩

/-- **The two ways build the same array** of regular rows, as far as its field admits it. -/
theorem arrayOf_iff {rows : List Csv.Row} (hrows : ∀ row ∈ rows, Regular schema nullValue row)
    {startRow : ℕ} {field : Arrow.Field × ℕ} (hfield : field ∈ schema.fields.zipIdx) {c : Column} :
    (arrayOf texts ov nullValue rows startRow field = .ok c ∧ field.1.Admits c) ↔
      ColumnFor (IsColumn texts ov nullValue) rows field c := by
  have hindex : field.2 < schema.fields.length := by
    have hget := List.mem_zipIdx_iff_getElem?.mp hfield
    exact (List.getElem?_eq_some_iff.mp hget).1
  -- It is enough to have readers of the same values.
  have key {t : DataType} {read read' : List Char → Exec String t.Native}
      (hread : ∀ value a, read value = .ok a ↔ read' value = .ok a)
      (hstrings : arrayOf texts ov nullValue rows startRow field =
        fromStrings ⟨t, read⟩ (columnTexts rows field.2) field.1.nullable nullValue startRow field.2)
      (hcsv : ∀ values, buildArrayFromCsvColumn texts ov values field.2 field.1 =
        fromCsv ⟨t, read'⟩ values) :
      (arrayOf texts ov nullValue rows startRow field = .ok c ∧ field.1.Admits c) ↔
        ColumnFor (IsColumn texts ov nullValue) rows field c := by
    unfold ColumnFor IsColumn
    rw [hstrings, fromStrings_eq_ok, columnArray_eq_ok hcsv]
    refine and_congr_left fun hadmits => exists_congr fun cells => and_congr_right fun hc => ?_
    subst hc
    unfold columnTexts
    rw [List.forall₂_map_left_iff]
    exact forall₂_congr_mem fun row hrow cell hcell => stringCell_iff hread (hrows row hrow)
      ((hrows row hrow).width ▸ hindex) hadmits hcell
  obtain ⟨hstrings, hcsv⟩ | ⟨hread, -, hstrings, hcsv⟩ | ht :=
    builders texts ov field.1.dataType field.2
  · have hfail : ∀ values, buildArrayFromCsvColumn texts ov values field.2 field.1 = fail _ :=
      fun values => hcsv values field.1 rfl
    refine ⟨fun h => ?_, fun h => absurd h.1 (columnArray_ne_ok hfail)⟩
    have harray := h.1
    unfold arrayOf at harray
    rw [hstrings] at harray
    cases harray
  · exact key hread (hstrings _ _ _ _) fun values => hcsv values field.1 rfl
  · refine @key .utf8 (fun value => .ok (String.ofList value))
      (fun value => .ok (String.ofList value)) (fun _ _ => Iff.rfl) ?_ fun values => ?_
    · unfold arrayOf
      rw [ht]
      refine buildStringArray_eq (fun hnull value hvalue => ?_) startRow field.2
      obtain ⟨row, hrow, rfl⟩ := List.mem_map.mp hvalue
      have hlt : field.2 < row.length := (hrows row hrow).width ▸ hindex
      rw [List.getElem?_eq_getElem hlt]
      exact (hrows row hrow).texts field hfield ht hnull _ (List.getElem?_eq_getElem hlt)
    · unfold buildArrayFromCsvColumn
      rw [ht]
      rfl

/-! ### The same batches -/

/-- The array is one of the rows. The index of the first row is only for errors. -/
def IsArray (texts : LibraryTexts) (ov : Overflow) (nullValue : Option (List Char))
    (rows : List Csv.Row) (field : Arrow.Field × ℕ) (c : Column) : Prop :=
  arrayOf texts ov nullValue rows 0 field = .ok c

/-- How an array is read off the rows: by a reader, or as texts. -/
theorem arrayOf_cases (texts : LibraryTexts) (ov : Overflow) (nullValue : Option (List Char))
    (field : Arrow.Field × ℕ) :
    (∀ rows startRow c, arrayOf texts ov nullValue rows startRow field ≠ .ok c) ∨
      ∃ cell : Csv.Row → Option (arrayType field.1.dataType).Native → Prop, ∀ rows startRow c,
        arrayOf texts ov nullValue rows startRow field = .ok c ↔
          ∃ cells, c = ⟨arrayType field.1.dataType, cells⟩ ∧ List.Forall₂ cell rows cells := by
  unfold arrayOf
  obtain ⟨hstrings, -⟩ | @⟨t, read, read', -, rfl, hstrings, -⟩ | ht :=
    builders texts ov field.1.dataType field.2
  · refine .inl fun rows startRow c h => ?_
    rw [hstrings] at h
    cases h
  · refine .inr ⟨fun row => StringCell read field.1.nullable nullValue (row[field.2]?.getD []),
      fun rows startRow c => ?_⟩
    rw [hstrings, fromStrings_eq_ok]
    unfold columnTexts
    simp only [List.forall₂_map_left_iff]
  · rw [ht]
    refine .inr ⟨fun row cell => cell = if isNullValue (row[field.2]?.getD []) nullValue then
      (if field.1.nullable then none else some "") else
        some (String.ofList (row[field.2]?.getD [])), fun rows startRow c => ?_⟩
    change buildStringArray _ _ _ = _ ↔ _
    unfold buildStringArray columnTexts
    rw [List.map_map]
    constructor
    · intro h
      obtain rfl := Except.ok.inj h
      exact ⟨_, rfl, List.forall₂_map_right_iff.mpr (List.forall₂_same.mpr fun _ _ => rfl)⟩
    · rintro ⟨cells, rfl, hcells⟩
      have heq : List.Forall₂ (· = ·) (rows.map _) cells :=
        List.forall₂_map_left_iff.mpr (hcells.imp fun _ _ h => h.symm)
      rw [List.forall₂_eq_eq_eq] at heq
      subst heq
      rfl

/-- **The arrays are made row by row.** -/
theorem rowWise_isArray : RowWise (IsArray texts ov nullValue) := by
  intro field
  obtain hnone | ⟨cell, hcell⟩ := arrayOf_cases texts ov nullValue field
  · exact .inl fun rows c => hnone rows 0 c
  · exact .inr ⟨_, cell, fun rows c => hcell rows 0 c⟩

/-- The index of the first row makes no difference to an array. -/
theorem arrayOf_eq_ok {rows : List Csv.Row} {startRow : ℕ} {field : Arrow.Field × ℕ} {c : Column} :
    arrayOf texts ov nullValue rows startRow field = .ok c ↔
      IsArray texts ov nullValue rows field c := by
  unfold IsArray
  obtain hnone | ⟨cell, hcell⟩ := arrayOf_cases texts ov nullValue field
  · exact ⟨fun h => absurd h (hnone _ _ _), fun h => absurd h (hnone _ _ _)⟩
  · rw [hcell, hcell]

/-- **The batch that a reader builds** is that of the arrays of the rows. -/
theorem buildRecordBatch_eq_ok {rows : List Csv.Row} {currentRow : ℕ} {b : RecordBatch} :
    buildRecordBatch texts ov schema nullValue currentRow rows = .ok b ↔
      BatchOf (IsArray texts ov nullValue) schema rows b :=
  tryNew_of_arrays rowWise_isArray fun _ _ => arrayOf_eq_ok

/-- A reader builds a batch of regular rows exactly when there is one for a Parquet file. -/
theorem buildRecordBatch_iff {rows : List Csv.Row}
    (hrows : ∀ row ∈ rows, Regular schema nullValue row) {currentRow : ℕ} {b : RecordBatch} :
    buildRecordBatch texts ov schema nullValue currentRow rows = .ok b ↔
      chunkToRecordBatch texts ov schema nullValue rows = .ok b := by
  rw [buildRecordBatch_eq_ok, chunkToRecordBatch_eq_ok]
  have hcolumns : List.Forall₂ (ColumnFor (IsArray texts ov nullValue) rows) schema.fields.zipIdx
      b.columns ↔ List.Forall₂ (ColumnFor (IsColumn texts ov nullValue) rows) schema.fields.zipIdx
      b.columns := forall₂_congr_mem fun field hfield c _ => arrayOf_iff hrows hfield
  exact ⟨fun ⟨hne, hschema, hnum, hall⟩ => ⟨hne, hschema, hnum, hcolumns.mp hall⟩,
    fun ⟨hne, hschema, hnum, hall⟩ => ⟨hne, hschema, hnum, hcolumns.mpr hall⟩⟩

/-- An export builds the batch of a chunk as a reader would build it. -/
theorem exportChunk_iff {rows : List Csv.Row} {b : RecordBatch} :
    exportChunk texts ov schema nullValue rows = .ok b ↔
      buildRecordBatch texts ov schema nullValue rows.length rows = .ok b := by
  unfold exportChunk buildRecordBatch
  rw [bind_eq_ok, bind_eq_ok, Nat.sub_self]
  simp only [mapError_eq_ok]

/-- A success is the same whatever errors there could be. -/
theorem ok_eq_ok_iff {ε δ α : Type} {a b : α} :
    (.ok a : Exec ε α) = .ok b ↔ (.ok a : Exec δ α) = .ok b := by
  rw [Except.ok.injEq, Except.ok.injEq]

/-- **The chunks are the same in both ways**, and so are their batches. -/
theorem mapM_exportChunk_iff {rows : List Csv.Row}
    (hrows : ∀ row ∈ rows, Regular schema nullValue row) {size : ℕ} (hsize : 0 < size) {n first : ℕ}
    {batches : List RecordBatch} :
    (chunksUpTo size n rows).mapM (exportChunk texts ov schema nullValue) = .ok batches ↔
      batchesFrom texts ov schema nullValue size n first (rows.map .ok) = .ok batches := by
  have hmax : max size 1 = size := max_eq_left hsize
  induction n generalizing rows first batches with
  | zero => exact ok_eq_ok_iff
  | succ n ih =>
    rw [chunksUpTo, batchesFrom, hmax, takeChunk_ok fun row hrow =>
      (hrows row (List.mem_of_mem_take hrow)).width, ok_bind]
    dsimp only
    by_cases hnil : rows = []
    · subst hnil
      rw [if_pos rfl, if_pos List.take_nil]
      exact ok_eq_ok_iff
    have hne : rows.take size ≠ [] := fun h => by
      obtain h | h := List.take_eq_nil_iff.mp h
      · exact hsize.ne' h
      · exact hnil h
    rw [if_neg hnil, if_neg hne, List.mapM_cons, bind_eq_ok, bind_eq_ok]
    refine exists_congr fun b => ?_
    rw [exportChunk_iff, buildRecordBatch_iff fun row hrow => hrows row (List.mem_of_mem_take hrow),
      mapError_eq_ok, bind_eq_ok, bind_eq_ok]
    refine and_congr_right fun _ => exists_congr fun more => and_congr ?_ ok_eq_ok_iff
    exact ih fun row hrow => hrows row (List.mem_of_mem_drop hrow)

/-- The batches for Arrow data, by those for a Parquet file. -/
theorem recordBatchesOf_iff {rows : List Csv.Row}
    (hrows : ∀ row ∈ rows, Regular schema nullValue row) (hne : rows ≠ []) {size : ℕ}
    (hsize : 0 < size) {batches : List RecordBatch} :
    recordBatchesOf texts ov schema nullValue rows size = .ok batches ↔
      rowsToRecordBatches texts ov schema nullValue (rows.map .ok) size = .ok batches := by
  have hchunks (found : List RecordBatch) :=
    @mapM_exportChunk_iff texts ov schema nullValue rows hrows size hsize rows.length 0 found
  unfold recordBatchesOf rowsToRecordBatches
  rw [if_neg hsize.ne', List.length_map, hchunks, bind_eq_ok]
  -- There are rows, and so there are batches.
  have hsome {found : List RecordBatch} (hfound : batchesFrom texts ov schema nullValue size
      rows.length 0 (rows.map .ok) = .ok found) : found ≠ [] := by
    rintro rfl
    have hcut := (@batchesFrom_outcome texts ov nullValue schema size rows.length 0 rows
      le_rfl).eq_ok hfound
    cases hcut
    exact hne rfl
  constructor
  · intro h
    exact ⟨batches, h, by rw [if_neg (hsome h)]; rfl⟩
  · rintro ⟨found, hfound, h⟩
    rw [if_neg (hsome hfound)] at h
    obtain rfl := Except.ok.inj h
    exact hfound

/-! ### Batches that are not refused -/

/-- The type of the array that is built for a field. -/
theorem type_arrayOf {rows : List Csv.Row} {startRow : ℕ} {field : Arrow.Field × ℕ} {c : Column}
    (h : arrayOf texts ov nullValue rows startRow field = .ok c) :
    c.dataType = arrayType field.1.dataType := by
  unfold arrayOf at h
  obtain ⟨hstrings, -⟩ | ⟨-, rfl, hstrings, -⟩ | ht := builders texts ov field.1.dataType field.2
  · rw [hstrings] at h
    cases h
  · rw [hstrings] at h
    obtain ⟨cells, rfl, -⟩ := fromStrings_eq_ok.mp h
    rfl
  · rw [ht] at h ⊢
    obtain rfl := Except.ok.inj h
    rfl

theorem type_columnArray {rows : List Csv.Row} {field : Arrow.Field × ℕ} {c : Column}
    (h : columnArray texts ov nullValue rows field = .ok c) :
    c.dataType = arrayType field.1.dataType := by
  obtain ⟨-, hcsv⟩ | ⟨-, ht, -, hcsv⟩ | ht := builders texts ov field.1.dataType field.2
  · exact absurd h (columnArray_ne_ok fun values => hcsv values field.1 rfl)
  · obtain ⟨cells, rfl, -⟩ := (columnArray_eq_ok fun values => hcsv values field.1 rfl).mp h
    exact ht
  · have hcsv (values : List (Option (List Char))) :
        buildArrayFromCsvColumn texts ov values field.2 field.1 =
          fromCsv ⟨.utf8, fun s => .ok (String.ofList s)⟩ values := by
      unfold buildArrayFromCsvColumn
      rw [ht]
      rfl
    obtain ⟨cells, rfl, -⟩ := (columnArray_eq_ok hcsv).mp h
    rw [ht]
    rfl

/-- The fields of the schema for a Parquet file admit nulls, and their types are those of the
arrays that are built for them. -/
theorem fields_of_exasolTypesToArrowSchema {names : List String} {types : List ExasolType}
    (h : exasolTypesToArrowSchema names types = .ok schema) :
    ∀ field ∈ schema.fields, field.nullable = true ∧ arrayType field.dataType = field.dataType := by
  unfold exasolTypesToArrowSchema at h
  split at h
  · cases h
  · cases h
    intro field hfield
    obtain ⟨⟨name, t⟩, -, rfl⟩ := List.mem_map.mp hfield
    refine ⟨rfl, ?_⟩
    dsimp only
    cases t with
    | timestamp withLocalTimeZone => cases withLocalTimeZone <;> rfl
    | _ => rfl

/-- **A batch of the arrays of fields that admit them is not refused.** -/
theorem exists_tryNew {ε : Type} {g : Arrow.Field × ℕ → Exec ε Column} {n : ℕ}
    (hlen : ∀ p c, g p = .ok c → c.length = n)
    (hadmits : ∀ p ∈ schema.fields.zipIdx, ∀ c, g p = .ok c → p.1.Admits c)
    (hne : schema.fields ≠ []) {arrays : List Column}
    (harrays : schema.fields.zipIdx.mapM g = .ok arrays) :
    ∃ b, RecordBatch.tryNew schema arrays = .ok b := by
  have hmade := mapM_eq_ok.mp harrays
  have hall : List.Forall₂ Field.Admits schema.fields arrays := by
    have hpairs : List.Forall₂ (fun (p : Arrow.Field × ℕ) c => p.1.Admits c)
        schema.fields.zipIdx arrays := List.forall₂_iff_get.mpr ⟨hmade.length_eq, fun i hi hi' =>
      hadmits _ (List.getElem_mem hi) _ ((List.forall₂_iff_get.mp hmade).2 i hi hi')⟩
    rw [← List.forall₂_map_left_iff (f := Prod.fst), List.zipIdx_map_fst] at hpairs
    exact hpairs
  have hlengths : ∀ c ∈ arrays, c.length = n := by
    intro c hc
    obtain ⟨i, hi, rfl⟩ := List.getElem_of_mem hc
    exact hlen _ _ ((List.forall₂_iff_get.mp hmade).2 i (hmade.length_eq ▸ hi) hi)
  have hcount : rowCount? none arrays = some n := by
    obtain ⟨f, fs, hf⟩ := List.exists_cons_of_ne_nil hne
    rw [hf] at hall
    obtain ⟨c, cs, -, -, rfl⟩ := List.forall₂_cons_left_iff.mp hall
    rw [← hlengths c List.mem_cons_self]
    rfl
  exact ⟨_, RecordBatch.tryNewWithOptions_ok hall hcount hlengths⟩

/-! ### The agreement -/

/-- **Two conversions of the same rows agree**: both succeed or none does, they come to the same
values and nulls, and every array has the type of its field. -/
structure ConversionsAgree {ε δ : Type} (schema : Schema) (run : Exec ε (List RecordBatch))
    (run' : Exec δ (List RecordBatch)) : Prop where
  success : (∃ batches, run = .ok batches) ↔ ∃ batches, run' = .ok batches
  contents : ∀ batches batches', run = .ok batches → run' = .ok batches' →
    ∃ whole, concatBatches schema batches = .ok whole ∧ concatBatches schema batches' = .ok whole
  types : ∀ batches, run = .ok batches ∨ run' = .ok batches →
    ∀ b ∈ batches, b.columns.map Column.dataType = schema.types

/-- **No batch is refused** once its arrays are built. -/
def NotRefused (texts : LibraryTexts) (ov : Overflow) (schema : Schema)
    (nullValue : Option (List Char)) : Prop :=
  ∀ rows startRow arrays,
    schema.fields.zipIdx.mapM (arrayOf texts ov nullValue rows startRow) = .ok arrays ∨
      schema.fields.zipIdx.mapM (columnArray texts ov nullValue rows) = .ok arrays →
    ∃ b, RecordBatch.tryNew schema arrays = .ok b

/-- The schema for a Parquet file is one under which no batch is refused. -/
theorem notRefused_of_exasolTypes {names : List String} {types : List ExasolType}
    (h : exasolTypesToArrowSchema names types = .ok schema) (hne : schema.fields ≠ []) :
    NotRefused texts ov schema nullValue := by
  have hfields := fields_of_exasolTypesToArrowSchema h
  have hadmits {field : Arrow.Field × ℕ} (hfield : field ∈ schema.fields.zipIdx) {c : Column}
      (hc : c.dataType = arrayType field.1.dataType) : field.1.Admits c := by
    have hmem : field.1 ∈ schema.fields :=
      List.mem_of_getElem? (List.mem_zipIdx_iff_getElem?.mp hfield)
    obtain ⟨hnullable, htype⟩ := hfields field.1 hmem
    exact ⟨hc.trans htype, fun hnot => nomatch hnullable.symm.trans hnot⟩
  rintro rows startRow arrays (harrays | harrays)
  · exact exists_tryNew (fun _ _ h => length_of_rowWise rowWise_isArray (arrayOf_eq_ok.mp h))
      (fun field hfield c hc => hadmits hfield (type_arrayOf hc)) hne harrays
  · exact exists_tryNew (fun _ _ h => length_of_rowWise rowWise_isColumn h)
      (fun field hfield c hc => hadmits hfield (type_columnArray hc)) hne harrays

/-- The two exports agree on regular rows. -/
theorem exports_agree {rows : List Csv.Row} (hrows : ∀ row ∈ rows, Regular schema nullValue row)
    {size : ℕ} (hsize : 0 < size) (size' : ℕ) :
    ConversionsAgree schema (recordBatchesOf texts ov schema nullValue rows size)
      (rowsToRecordBatches texts ov schema nullValue (rows.map .ok) size') := by
  by_cases hne : rows = []
  · subst hne
    have hrun : recordBatchesOf texts ov schema nullValue [] size = .ok [] := if_neg hsize.ne'
    have hrun' : rowsToRecordBatches texts ov schema nullValue ([].map .ok) size' =
        .ok [RecordBatch.newEmpty schema] := rfl
    obtain ⟨whole, hwhole⟩ := concatBatches_newEmpty schema
    rw [hrun, hrun']
    refine ⟨⟨fun _ => ⟨_, rfl⟩, fun _ => ⟨_, rfl⟩⟩, ?_, ?_⟩
    · rintro _ _ ⟨⟩ ⟨⟩
      refine ⟨whole, ?_, hwhole⟩
      -- No batch holds what a batch without rows holds.
      have hcolumns := concatColumns_single (RecordBatch.newEmpty schema)
      unfold concatBatches at hwhole ⊢
      split
      · rename_i hnil
        rwa [if_pos hnil] at hwhole
      · rename_i hsome
        rw [if_neg hsome] at hwhole
        have hnone : concatColumns schema.types [] =
            some (RecordBatch.newEmpty schema).columns := rfl
        rw [hnone]
        rwa [show concatColumns schema.types [RecordBatch.newEmpty schema] =
          some (RecordBatch.newEmpty schema).columns from hcolumns] at hwhole
    · rintro _ (⟨⟨⟩⟩ | ⟨⟨⟩⟩) b hb
      · exact absurd hb List.not_mem_nil
      · obtain rfl := List.mem_singleton.mp hb
        exact RecordBatch.types_columns _
  have hsizes := rowsToRecordBatches_sizes texts ov schema nullValue rows size size'
  have hpath (batches : List RecordBatch) :=
    @recordBatchesOf_iff texts ov schema nullValue rows hrows hne size hsize batches
  have hout := @rowsToRecordBatches_outcome texts ov nullValue schema rows hne
  refine ⟨(exists_congr hpath).trans hsizes.success, ?_, ?_⟩
  · intro batches batches' hrun hrun'
    exact hsizes.contents batches batches' ((hpath batches).mp hrun) hrun'
  · rintro batches (hrun | hrun)
    · exact ((hout size).eq_ok ((hpath batches).mp hrun)).joined.types
    · exact ((hout size').eq_ok hrun).joined.types

/-- A reader and the export of a Parquet file agree on regular rows. -/
theorem reader_agrees {rows : List Csv.Row} (hrows : ∀ row ∈ rows, Regular schema nullValue row)
    (hne : rows ≠ []) (currentRow size' : ℕ) :
    ConversionsAgree schema
      ((fun b => [b]) <$> buildRecordBatch texts ov schema nullValue currentRow rows)
      (rowsToRecordBatches texts ov schema nullValue (rows.map .ok) size') := by
  have hout := @rowsToRecordBatches_outcome texts ov nullValue schema rows hne size'
  have hread {batches : List RecordBatch} :
      (fun b => [b]) <$> buildRecordBatch texts ov schema nullValue currentRow rows = .ok batches ↔
        ∃ b, chunkToRecordBatch texts ov schema nullValue rows = .ok b ∧ [b] = batches := by
    simp only [← @buildRecordBatch_iff texts ov schema nullValue rows hrows currentRow]
    cases buildRecordBatch texts ov schema nullValue currentRow rows with
    | error fault => exact ⟨nofun, fun ⟨_, h, _⟩ => nomatch h⟩
    | ok b => exact ⟨fun h => ⟨b, rfl, Except.ok.inj h⟩, fun ⟨_, h, hb⟩ =>
        hb ▸ Except.ok.inj h ▸ rfl⟩
  refine ⟨?_, ?_, ?_⟩
  · rw [hout.exists_ok]
    simp only [hread]
    constructor
    · rintro ⟨_, b, hb, -⟩ row hrow
      exact ⟨(hrows row hrow).width, (exists_chunkToRecordBatch_iff hne).mp ⟨b, hb⟩ row hrow⟩
    · intro hall
      obtain ⟨b, hb⟩ := (exists_chunkToRecordBatch_iff hne).mpr fun row hrow => (hall row hrow).2
      exact ⟨[b], b, hb, rfl⟩
  · rintro batches batches' hrun hrun'
    obtain ⟨b, hb, rfl⟩ := hread.mp hrun
    have hone : Cut texts ov schema nullValue rows.length rows [b] := by
      have hcut := Cut.cons hne le_rfl (fun h => absurd rfl h) (fun row hrow =>
        (hrows row hrow).width) hb Cut.nil
      rwa [List.append_nil] at hcut
    exact ⟨b, hone.concatBatches hne hb, (hout.eq_ok hrun').concatBatches hne hb⟩
  · rintro batches (hrun | hrun)
    · obtain ⟨b, hb, rfl⟩ := hread.mp hrun
      intro c hc
      obtain rfl := List.mem_singleton.mp hc
      rw [c.types_columns, (chunkToRecordBatch_eq_ok.mp hb).schema_eq]
    · exact (hout.eq_ok hrun).joined.types

end Agreement

/-- **The two ways of an export agree** on rows for which their rules do not differ, and under the
schema for a Parquet file no batch is refused. -/
theorem paths_agree (texts : LibraryTexts) (ov : Overflow) (schema : Schema)
    (nullValue : Option (List Char)) {rows : List Csv.Row}
    (hrows : ∀ row ∈ rows, Regular schema nullValue row) {size : ℕ} (hsize : 0 < size)
    (size' : ℕ) :
    ConversionsAgree schema (recordBatchesOf texts ov schema nullValue rows size)
        (rowsToRecordBatches texts ov schema nullValue (rows.map .ok) size') ∧
      (rows ≠ [] → ∀ currentRow, ConversionsAgree schema
        ((fun b => [b]) <$> buildRecordBatch texts ov schema nullValue currentRow rows)
        (rowsToRecordBatches texts ov schema nullValue (rows.map .ok) size')) ∧
      ∀ names types, exasolTypesToArrowSchema names types = .ok schema → schema.fields ≠ [] →
        NotRefused texts ov schema nullValue :=
  ⟨exports_agree hrows hsize size', fun hne currentRow => reader_agrees hrows hne currentRow size',
    fun _ _ h hne => notRefused_of_exasolTypes h hne⟩

/-- The texts of no library. -/
def noTexts : LibraryTexts := ⟨fun _ => "", fun _ => "", fun _ => "", fun _ => ""⟩

/-- One column of texts. -/
def textSchema : Schema := ⟨[{ name := "T", dataType := .utf8, nullable := true }]⟩

/-- One row with a text. -/
theorem paths_agree_text :
    ConversionsAgree textSchema (recordBatchesOf noTexts .panics textSchema none [[['a']]] 1)
        (rowsToRecordBatches noTexts .panics textSchema none ([[['a']]].map .ok) 1) ∧
      ([[['a']]] ≠ [] → ∀ currentRow, ConversionsAgree textSchema
        ((fun b => [b]) <$> buildRecordBatch noTexts .panics textSchema none currentRow [[['a']]])
        (rowsToRecordBatches noTexts .panics textSchema none ([[['a']]].map .ok) 1)) ∧
      ∀ names types, exasolTypesToArrowSchema names types = .ok textSchema →
        textSchema.fields ≠ [] → NotRefused noTexts .panics textSchema none :=
  paths_agree noTexts .panics textSchema none (by
    intro row hrow
    obtain rfl := List.mem_singleton.mp hrow
    refine ⟨rfl, nofun, ?_⟩
    rintro field hfield - hnull
    obtain rfl := List.mem_singleton.mp hfield
    cases hnull) Nat.one_pos 1

/-- **The two ways do not always agree**: an empty text where there is a null marker, a row that is
too short, and a null in a text column without nulls. -/
theorem paths_not_agree :
    (RecordBatch.columns <$> buildRecordBatch noTexts .panics textSchema (some ['N']) 1 [[[]]] =
        .ok [⟨.utf8, [none]⟩] ∧
      List.map RecordBatch.columns <$>
          rowsToRecordBatches noTexts .panics textSchema (some ['N']) ([[[]]].map .ok) 1 =
        .ok [[⟨.utf8, [some ""]⟩]]) ∧
    (RecordBatch.columns <$> buildRecordBatch noTexts .panics textSchema none 1 [[]] =
        .ok [⟨.utf8, [none]⟩] ∧
      ∃ e, rowsToRecordBatches noTexts .panics textSchema none ([[]].map .ok) 1 = fail e) ∧
    let strict : Schema := ⟨[{ name := "T", dataType := .utf8, nullable := false }]⟩
    RecordBatch.columns <$> buildRecordBatch noTexts .panics strict none 1 [[[]]] =
        .ok [⟨.utf8, [some ""]⟩] ∧
      ∃ e, rowsToRecordBatches noTexts .panics strict none ([[[]]].map .ok) 1 = fail e :=
  ⟨⟨rfl, rfl⟩, ⟨rfl, _, rfl⟩, rfl, _, rfl⟩

end Export

end Exarrow
