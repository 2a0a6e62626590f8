import Exarrow.Export.Arrays
import Exarrow.RowWise

/-!
# Batches of exported rows

The rows of a CSV document become record batches of a given size
(`Exarrow.Export.rowsToRecordBatches`): so many rows are taken, each is checked for its width, and
the columns of these rows are converted one after the other (`Exarrow.Export.chunkToRecordBatch`).
A row that an error names is numbered within its chunk at first, and then within the document.

The columns are made row by row (`Exarrow.Export.rowWise_isColumn`), so that a chunk is converted
exactly when each of its rows would be, alone, and chunks one behind the other hold what one chunk
of all their rows holds. **So the size of the batches decides neither whether the conversion
succeeds nor what the batches hold together, and whatever row an error names would fail alone,
with the same text** (`Exarrow.Export.rowsToRecordBatches_sizes`).
-/

namespace Exarrow.Export

open Machine Ieee Checked Arrow

section Conversion

variable (texts : LibraryTexts) (ov : Overflow) (schema : Schema) (nullValue : Option (List Char))

/-! ### The conversion -/

/-- The values of a column. Every row has one. -/
def columnValues (rows : List Csv.Row) (colIdx : ℕ) :
    Exec ParquetExportError (List (Option (List Char))) :=
  rows.mapM fun row =>
    match row[colIdx]? with
    | some field => .ok (fieldValue field nullValue)
    | none => stop

/-- The array of a column of rows. -/
def columnArray (rows : List Csv.Row) (field : Arrow.Field × ℕ) :
    Exec ParquetExportError Column := do
  let values ← columnValues nullValue rows field.2
  buildArrayFromCsvColumn texts ov values field.2 field.1

/-- The batch of some rows. -/
def chunkToRecordBatch (rows : List Csv.Row) : Exec ParquetExportError RecordBatch := do
  let arrays ← schema.fields.zipIdx.mapM (columnArray texts ov nullValue rows)
  mapError (fun e => .arrow (texts.arrowError e)) (ofExcept (RecordBatch.tryNew schema arrays))

/-- A row that has not as many fields as the schema. -/
def wrongWidth (index : ℕ) (row : Csv.Row) : ParquetExportError :=
  .csvParse index s!"Expected {schema.fields.length} columns, found {row.length}"

/-- Take so many rows at most, the first of which has the given index, and check them. -/
def takeChunk : ℕ → ℕ → List (Except ParquetExportError Csv.Row) →
    Exec ParquetExportError (List Csv.Row × List (Except ParquetExportError Csv.Row))
  | 0, _, rows => .ok ([], rows)
  | _ + 1, _, [] => .ok ([], [])
  | n + 1, index, row :: rows => do
    let row ← ofExcept row
    if row.length ≠ schema.fields.length then fail (wrongWidth schema index row)
    else do
      let (chunk, rest) ← takeChunk n (index + 1) rows
      return (row :: chunk, rest)

/-- An error that names a row of a chunk, as it names the row of the document. -/
def inDocument (firstRowOfChunk : ℕ) : ParquetExportError → ParquetExportError
  | .csvParse row message => .csvParse (firstRowOfChunk + row) message
  | other => other

/-- The batches of the rows from the given index on, so many at most. -/
def batchesFrom (batchSize : ℕ) : ℕ → ℕ → List (Except ParquetExportError Csv.Row) →
    Exec ParquetExportError (List RecordBatch)
  | 0, _, _ => .ok []
  | n + 1, firstRowOfChunk, rows => do
    let (chunk, rest) ← takeChunk schema (max batchSize 1) firstRowOfChunk rows
    if chunk = [] then .ok []
    else do
      let batch ← mapError (inDocument firstRowOfChunk)
        (chunkToRecordBatch texts ov schema nullValue chunk)
      let batches ← batchesFrom batchSize n (firstRowOfChunk + chunk.length) rest
      return batch :: batches

/-- **The batches of the rows of a document**, one of them without rows if there are none. -/
def rowsToRecordBatches (rows : List (Except ParquetExportError Csv.Row)) (batchSize : ℕ) :
    Exec ParquetExportError (List RecordBatch) := do
  let batches ← batchesFrom texts ov schema nullValue batchSize rows.length 0 rows
  return if batches = [] then [RecordBatch.newEmpty schema] else batches

end Conversion

/-! ### Columns of rows -/

section Columns

variable {texts : LibraryTexts} {ov : Overflow} {nullValue : Option (List Char)}

/-- The column is that of the rows. -/
def IsColumn (texts : LibraryTexts) (ov : Overflow) (nullValue : Option (List Char))
    (rows : List Csv.Row) (field : Arrow.Field × ℕ) (c : Column) : Prop :=
  columnArray texts ov nullValue rows field = .ok c

/-- What a column is made of a row. -/
def CellOf (nullValue : Option (List Char)) (reader : CellReader) (colIdx : ℕ) (row : Csv.Row)
    (cell : Option reader.dataType.Native) : Prop :=
  ∃ field, row[colIdx]? = some field ∧ reader.readValue (fieldValue field nullValue) = .ok cell

/-- The values of a column are found one by one. -/
theorem columnValues_eq_ok {rows : List Csv.Row} {colIdx : ℕ}
    {values : List (Option (List Char))} :
    columnValues nullValue rows colIdx = .ok values ↔
      List.Forall₂ (fun row value => ∃ field, row[colIdx]? = some field ∧
        fieldValue field nullValue = value) rows values := by
  have hrow (row : Csv.Row) (value : Option (List Char)) :
      (match row[colIdx]? with
        | some field => (.ok (fieldValue field nullValue) : Exec ParquetExportError _)
        | none => stop) = .ok value ↔
      ∃ field, row[colIdx]? = some field ∧ fieldValue field nullValue = value := by
    cases row[colIdx]? with
    | none => exact ⟨nofun, fun ⟨_, h, _⟩ => (nomatch h)⟩
    | some field =>
      exact ⟨fun h => ⟨field, rfl, Except.ok.inj h⟩,
        fun ⟨_, h, hv⟩ => hv ▸ Option.some.inj h ▸ rfl⟩
  unfold columnValues
  rw [mapM_eq_ok]
  exact ⟨fun h => h.imp fun row value => (hrow row value).mp,
    fun h => h.imp fun row value => (hrow row value).mpr⟩

/-- **The column of some rows**, where there is a reader for its type, has one cell for each
row, which depends on nothing but the row. -/
theorem columnArray_eq_ok {reader : CellReader} {field : Arrow.Field × ℕ}
    (hreader : ∀ values, buildArrayFromCsvColumn texts ov values field.2 field.1 =
      fromCsv reader values) {rows : List Csv.Row} {c : Column} :
    columnArray texts ov nullValue rows field = .ok c ↔ ∃ cells, c = ⟨reader.dataType, cells⟩ ∧
      List.Forall₂ (CellOf nullValue reader field.2) rows cells := by
  unfold columnArray
  rw [bind_eq_ok]
  constructor
  · rintro ⟨values, hvalues, hc⟩
    rw [hreader] at hc
    obtain ⟨cells, rfl, hcells⟩ := fromCsv_eq_ok.mp hc
    refine ⟨cells, rfl, ?_⟩
    have hrows := columnValues_eq_ok.mp hvalues
    clear hvalues hc
    induction hrows generalizing cells with
    | nil =>
      cases hcells
      exact .nil
    | cons hrow _ ih =>
      obtain ⟨cell, more, hcell, hmore, rfl⟩ := List.forall₂_cons_left_iff.mp hcells
      obtain ⟨text, htext, rfl⟩ := hrow
      exact .cons ⟨text, htext, hcell⟩ (ih more hmore)
  · rintro ⟨cells, rfl, hcells⟩
    have hvalues : ∃ values, columnValues nullValue rows field.2 = .ok values ∧
        List.Forall₂ (fun value cell => reader.readValue value = .ok cell) values cells := by
      simp only [columnValues_eq_ok]
      induction hcells with
      | nil => exact ⟨[], .nil, .nil⟩
      | cons hcell _ ih =>
        obtain ⟨text, htext, hcell⟩ := hcell
        obtain ⟨values, hvalues, hread⟩ := ih
        exact ⟨_ :: values, .cons ⟨text, htext, rfl⟩ hvalues, .cons hcell hread⟩
    obtain ⟨values, hvalues, hread⟩ := hvalues
    exact ⟨values, hvalues, (hreader values).trans (fromCsv_eq_ok.mpr ⟨cells, rfl, hread⟩)⟩

/-- No column is built of a type without a reader. -/
theorem columnArray_ne_ok {e : ParquetExportError} {field : Arrow.Field × ℕ}
    (hfail : ∀ values, buildArrayFromCsvColumn texts ov values field.2 field.1 = fail e)
    {rows : List Csv.Row} {c : Column} : columnArray texts ov nullValue rows field ≠ .ok c := by
  unfold columnArray
  intro h
  obtain ⟨values, -, hc⟩ := bind_eq_ok.mp h
  rw [hfail] at hc
  cases hc

/-- **The columns are made row by row.** -/
theorem rowWise_isColumn : RowWise (IsColumn texts ov nullValue) := by
  intro field
  obtain ⟨e, -, hfail⟩ | ⟨reader, hreader⟩ :=
    buildArrayFromCsvColumn_cases texts ov field.1 field.2
  · exact .inl fun rows c h => columnArray_ne_ok hfail h
  · exact .inr ⟨reader.dataType, CellOf nullValue reader field.2, fun rows c =>
      columnArray_eq_ok hreader⟩

theorem isColumn_unique {rows : List Csv.Row} {field : Arrow.Field × ℕ} {c c' : Column}
    (h : IsColumn texts ov nullValue rows field c) (h' : IsColumn texts ov nullValue rows field c') :
    c = c' := Except.ok.inj (h.symm.trans h')

/-- **The batch of some rows** is that of their columns. -/
theorem chunkToRecordBatch_eq_ok {schema : Schema} {rows : List Csv.Row} {b : RecordBatch} :
    chunkToRecordBatch texts ov schema nullValue rows = .ok b ↔
      BatchOf (IsColumn texts ov nullValue) schema rows b :=
  tryNew_of_arrays rowWise_isColumn fun _ _ => Iff.rfl

/-! ### Rows that fail -/

/-- **A row that an error of a column names** fails alone as well, with the same text. -/
theorem columnArray_eq_fail {rows : List Csv.Row} {field : Arrow.Field × ℕ} {i : ℕ}
    {message : String}
    (h : columnArray texts ov nullValue rows field = fail (.csvParse i message)) :
    ∃ row, rows[i]? = some row ∧
      columnArray texts ov nullValue [row] field = fail (.csvParse 0 message) := by
  unfold columnArray at h
  cases hvalues : columnValues nullValue rows field.2 with
  | error fault =>
    -- The values of a column are there, or the program stops.
    rw [hvalues] at h
    cases h
    obtain ⟨_, row, _, -, -, hrow⟩ := mapM_eq_error.mp hvalues
    split at hrow <;> cases hrow
  | ok values =>
    rw [hvalues] at h
    change buildArrayFromCsvColumn texts ov values field.2 field.1 = _ at h
    obtain ⟨e, hne, hfail⟩ | ⟨reader, hreader⟩ :=
      buildArrayFromCsvColumn_cases texts ov field.1 field.2
    · rw [hfail] at h
      cases h
      exact absurd rfl (hne i message)
    rw [hreader] at h
    obtain ⟨j, value, m, hvalue, hread, heq⟩ := fromCsv_eq_fail h
    cases heq
    have hrows := columnValues_eq_ok.mp hvalues
    obtain ⟨hi, rfl⟩ := List.getElem?_eq_some_iff.mp hvalue
    have hi' : i < rows.length := hrows.length_eq ▸ hi
    obtain ⟨text, htext, hval⟩ := (List.forall₂_iff_get.mp hrows).2 i hi' hi
    rw [List.get_eq_getElem] at htext hval
    refine ⟨rows[i], List.getElem?_eq_getElem hi', ?_⟩
    have hone : columnValues nullValue [rows[i]] field.2 = .ok [values[i]] :=
      columnValues_eq_ok.mpr (.cons ⟨text, htext, hval⟩ .nil)
    unfold columnArray
    rw [hone, ok_bind, hreader]
    unfold fromCsv eachRow
    rw [List.zipIdx_singleton, List.mapM_cons]
    dsimp only
    rw [hread]
    rfl

variable {schema : Schema}

/-- **A row that an error of a chunk names** fails alone as well, with the same text. -/
theorem chunkToRecordBatch_eq_fail {rows : List Csv.Row} {i : ℕ} {message : String}
    (h : chunkToRecordBatch texts ov schema nullValue rows = fail (.csvParse i message)) :
    ∃ row, rows[i]? = some row ∧
      chunkToRecordBatch texts ov schema nullValue [row] = fail (.csvParse 0 message) := by
  unfold chunkToRecordBatch at h
  cases harrays : schema.fields.zipIdx.mapM (columnArray texts ov nullValue rows) with
  | ok arrays =>
    rw [harrays, ok_bind] at h
    obtain ⟨e, -, he⟩ := mapError_eq_fail.mp h
    cases he
  | error fault =>
    rw [harrays] at h
    cases h
    -- The columns before the one that fails are there for each of the rows.
    obtain ⟨before, field, after, hsplit, hbefore, hfail⟩ := mapM_eq_error.mp harrays
    obtain ⟨row, hrow, halone⟩ := columnArray_eq_fail hfail
    refine ⟨row, hrow, ?_⟩
    have hone : schema.fields.zipIdx.mapM (columnArray texts ov nullValue [row]) =
        fail (.csvParse 0 message) := by
      refine mapM_eq_error.mpr ⟨before, field, after, hsplit, fun p hp => ?_, halone⟩
      obtain ⟨c, hc⟩ := hbefore p hp
      exact rowWise_single rowWise_isColumn hc (List.mem_of_getElem? hrow)
    unfold chunkToRecordBatch
    rw [hone, fail_bind]

/-- **A chunk is converted exactly when each of its rows is**, alone. -/
theorem exists_chunkToRecordBatch_iff {rows : List Csv.Row} (hrows : rows ≠ []) :
    (∃ b, chunkToRecordBatch texts ov schema nullValue rows = .ok b) ↔
      ∀ row ∈ rows, ∃ b, chunkToRecordBatch texts ov schema nullValue [row] = .ok b := by
  simp only [chunkToRecordBatch_eq_ok]
  exact exists_batchOf_iff rowWise_isColumn hrows

/-! ### Chunks -/

/-- A chunk of rows of the right width. -/
theorem takeChunk_ok {rows : List Csv.Row} {n index : ℕ}
    (h : ∀ row ∈ rows.take n, row.length = schema.fields.length) :
    takeChunk schema n index (rows.map .ok) = .ok (rows.take n, (rows.drop n).map .ok) := by
  induction n generalizing rows index with
  | zero => rfl
  | succ n ih =>
    cases rows with
    | nil => rfl
    | cons row rows =>
      rw [List.take_succ_cons, List.forall_mem_cons] at h
      rw [List.map_cons, takeChunk]
      change (if row.length ≠ _ then _ else _) = _
      rw [if_neg (not_not_intro h.1), ih h.2]
      rfl

/-- A chunk with a row of another width. -/
theorem takeChunk_fail {rows : List Csv.Row} {n index : ℕ}
    (h : ¬∀ row ∈ rows.take n, row.length = schema.fields.length) :
    ∃ i row, rows[i]? = some row ∧ row.length ≠ schema.fields.length ∧
      takeChunk schema n index (rows.map .ok) = fail (wrongWidth schema (index + i) row) := by
  induction n generalizing rows index with
  | zero => exact absurd (fun row hrow => absurd hrow List.not_mem_nil) h
  | succ n ih =>
    cases rows with
    | nil => exact absurd (fun row hrow => absurd hrow List.not_mem_nil) h
    | cons row rows =>
      rw [List.take_succ_cons, List.forall_mem_cons] at h
      rw [List.map_cons, takeChunk]
      change ∃ i row', _ ∧ _ ∧ (if row.length ≠ _ then _ else _) = _
      by_cases hrow : row.length = schema.fields.length
      · obtain ⟨i, row', hi, hwidth, hfail⟩ := @ih rows (index + 1) fun hall => h ⟨hrow, hall⟩
        refine ⟨i + 1, row', hi, hwidth, ?_⟩
        rw [if_neg (not_not_intro hrow), hfail, Nat.add_assoc, Nat.add_comm 1 i]
        rfl
      · exact ⟨0, row, rfl, hrow, if_pos hrow⟩

/-! ### Runs -/

/-- The row is converted, alone. -/
def Converts (texts : LibraryTexts) (ov : Overflow) (schema : Schema)
    (nullValue : Option (List Char)) (row : Csv.Row) : Prop :=
  row.length = schema.fields.length ∧
    ∃ b, chunkToRecordBatch texts ov schema nullValue [row] = .ok b

/-- **The rows are cut into batches** of a size: each has so many rows, but the last, which may
have less. -/
inductive Cut (texts : LibraryTexts) (ov : Overflow) (schema : Schema)
    (nullValue : Option (List Char)) (size : ℕ) : List Csv.Row → List RecordBatch → Prop
  | nil : Cut texts ov schema nullValue size [] []
  | cons {xs ys : List Csv.Row} {b : RecordBatch} {batches : List RecordBatch} (hne : xs ≠ [])
    (hle : xs.length ≤ size) (hfull : ys ≠ [] → xs.length = size)
    (hwidth : ∀ row ∈ xs, row.length = schema.fields.length)
    (hb : chunkToRecordBatch texts ov schema nullValue xs = .ok b)
    (hrest : Cut texts ov schema nullValue size ys batches) :
    Cut texts ov schema nullValue size (xs ++ ys) (b :: batches)

/-- The outcome of a row alone. -/
def alone (texts : LibraryTexts) (ov : Overflow) (schema : Schema)
    (nullValue : Option (List Char)) (row : Csv.Row) : Exec ParquetExportError (List RecordBatch) :=
  rowsToRecordBatches texts ov schema nullValue [.ok row] 1

theorem alone_of_width {row : Csv.Row} (h : row.length ≠ schema.fields.length) :
    alone texts ov schema nullValue row = fail (wrongWidth schema 0 row) := by
  have hchunk : takeChunk schema 1 0 [.ok row] = fail (wrongWidth schema 0 row) := if_pos h
  unfold alone rowsToRecordBatches
  rw [List.length_singleton, batchesFrom, max_self, hchunk]
  rfl

theorem alone_of_chunk {row : Csv.Row} (hwidth : row.length = schema.fields.length) {message : String}
    (h : chunkToRecordBatch texts ov schema nullValue [row] = fail (.csvParse 0 message)) :
    alone texts ov schema nullValue row = fail (.csvParse 0 message) := by
  have hchunk : takeChunk schema 1 0 [.ok row] = .ok ([row], []) := if_neg (not_not_intro hwidth)
  unfold alone rowsToRecordBatches
  rw [List.length_singleton, batchesFrom, max_self, hchunk, ok_bind]
  dsimp only
  rw [if_neg (List.cons_ne_nil row []), h]
  rfl

/-- The outcome of the rows from an index on: they are cut into batches, or there is an error, and
not all of them are converted. A row that the error names fails alone. -/
inductive Outcome (texts : LibraryTexts) (ov : Overflow) (schema : Schema)
    (nullValue : Option (List Char)) (size first : ℕ) (rows : List Csv.Row)
    (result : Exec ParquetExportError (List RecordBatch)) : Prop
  | cut {batches : List RecordBatch} (hresult : result = .ok batches)
    (hcut : Cut texts ov schema nullValue size rows batches)
  | failed {fault : Fault ParquetExportError} (hresult : result = .error fault)
    (hrow : ∃ row ∈ rows, ¬Converts texts ov schema nullValue row)
    (hnamed : ∀ index message, fault = .error (.csvParse index message) →
      ∃ i row, index = first + i ∧ rows[i]? = some row ∧
        alone texts ov schema nullValue row = fail (.csvParse 0 message))

/-- **The rows from an index on.** -/
theorem batchesFrom_outcome {batchSize n first : ℕ} {rows : List Csv.Row} (hn : rows.length ≤ n) :
    Outcome texts ov schema nullValue (max batchSize 1) first rows
      (batchesFrom texts ov schema nullValue batchSize n first (rows.map .ok)) := by
  induction n generalizing first rows with
  | zero =>
    obtain rfl : rows = [] := List.length_eq_zero_iff.mp (Nat.le_zero.mp hn)
    exact .cut rfl .nil
  | succ n ih =>
    have hpos : 0 < max batchSize 1 := lt_of_lt_of_le Nat.one_pos (le_max_right _ _)
    rw [batchesFrom]
    generalize max batchSize 1 = size at *
    by_cases hwidth : ∀ row ∈ rows.take size, row.length = schema.fields.length
    swap
    · obtain ⟨i, row, hrow, hwrong, hfail⟩ := @takeChunk_fail schema rows size first hwidth
      rw [hfail]
      refine .failed rfl ⟨row, List.mem_of_getElem? hrow, fun h => hwrong h.1⟩ ?_
      rintro index message heq
      cases heq
      exact ⟨i, row, rfl, hrow, alone_of_width hwrong⟩
    rw [takeChunk_ok hwidth, ok_bind]
    dsimp only
    by_cases hnil : rows = []
    · subst hnil
      rw [if_pos List.take_nil]
      exact .cut rfl .nil
    have hne : rows.take size ≠ [] := fun h => by
      obtain h | h := List.take_eq_nil_iff.mp h
      · exact hpos.ne' h
      · exact hnil h
    rw [if_neg hne]
    have hsplit : rows.take size ++ rows.drop size = rows := List.take_append_drop size rows
    cases hchunk : chunkToRecordBatch texts ov schema nullValue (rows.take size) with
    | error fault =>
      have hrow : ∃ row ∈ rows, ¬Converts texts ov schema nullValue row := by
        by_contra hall
        push Not at hall
        obtain ⟨b, hb⟩ := (exists_chunkToRecordBatch_iff hne).mpr fun row hrow =>
          (hall row (List.mem_of_mem_take hrow)).2
        rw [hb] at hchunk
        cases hchunk
      cases fault with
      | panic => exact .failed rfl hrow fun _ _ h => nomatch h
      | error e =>
        refine .failed rfl hrow fun index message heq => ?_
        cases e with
        | csvParse i m =>
          cases heq
          obtain ⟨row, hget, halone⟩ := chunkToRecordBatch_eq_fail hchunk
          have hmem : row ∈ rows.take size := List.mem_of_getElem? hget
          refine ⟨i, row, rfl, ?_, alone_of_chunk (hwidth row hmem) halone⟩
          rw [List.getElem?_take] at hget
          split at hget
          · exact hget
          · cases hget
        | io | parquet | arrow | schema => cases heq
    | ok b =>
      rw [mapError_ok, ok_bind]
      have hlen : (rows.take size).length ≤ size := List.length_take_le size rows
      have hrest : (rows.drop size).length ≤ n := by
        rw [List.length_drop]
        have := List.length_pos_iff.mpr hnil
        omega
      obtain ⟨hresult, hcut⟩ | ⟨hresult, ⟨row, hrow, hnot⟩, hnamed⟩ :=
        @ih (first + (rows.take size).length) (rows.drop size) hrest
      · rw [hresult]
        have hfull : rows.drop size ≠ [] → (rows.take size).length = size := by
          intro h
          rw [List.length_take, min_eq_left]
          by_contra hlt
          exact h (List.drop_eq_nil_of_le (Nat.le_of_not_le hlt))
        have hall := Cut.cons hne hlen hfull hwidth hchunk hcut
        rw [hsplit] at hall
        exact .cut rfl hall
      · rw [hresult]
        refine .failed rfl ⟨row, List.mem_of_mem_drop hrow, hnot⟩ fun index message heq => ?_
        obtain ⟨i, row', rfl, hget, halone⟩ := hnamed index message heq
        refine ⟨(rows.take size).length + i, row', Nat.add_assoc _ _ _, ?_, halone⟩
        have hat : (rows.take size ++ rows.drop size)[(rows.take size).length + i]? =
            (rows.drop size)[i]? := by
          rw [List.getElem?_append_right (Nat.le_add_right _ _), Nat.add_sub_cancel_left]
        rw [hsplit] at hat
        exact hat.trans hget

/-! ### What the batches hold -/

theorem Cut.converts {size : ℕ} {rows : List Csv.Row} {batches : List RecordBatch}
    (h : Cut texts ov schema nullValue size rows batches) :
    ∀ row ∈ rows, Converts texts ov schema nullValue row := by
  induction h with
  | nil => exact fun row hrow => absurd hrow List.not_mem_nil
  | cons hne _ _ hwidth hb _ ih =>
    intro row hrow
    obtain hrow | hrow := List.mem_append.mp hrow
    · exact ⟨hwidth row hrow, (exists_chunkToRecordBatch_iff hne).mp ⟨_, hb⟩ row hrow⟩
    · exact ih row hrow

/-- Batches that rows are cut into have the size, but the last, which may be smaller. -/
theorem Cut.sizes {size : ℕ} {rows : List Csv.Row} {batches : List RecordBatch}
    (h : Cut texts ov schema nullValue size rows batches) :
    (∀ b ∈ batches.dropLast, b.numRows = size) ∧ ∀ b ∈ batches, b.numRows ≤ size := by
  induction h with
  | nil => exact ⟨fun b hb => absurd hb List.not_mem_nil, fun b hb => absurd hb List.not_mem_nil⟩
  | @cons xs ys b batches _ hle hfull _ hb hrest ih =>
    have hrows : b.numRows = xs.length := (chunkToRecordBatch_eq_ok.mp hb).numRows_eq
    refine ⟨?_, fun c hc => ?_⟩
    · cases hrest with
      | nil => exact fun c hc => absurd hc List.not_mem_nil
      | @cons xs' ys' b' batches' hne' hle' hfull' hwidth' hb' hrest' =>
        rw [List.dropLast_cons_cons]
        intro c hc
        obtain rfl | hc := List.mem_cons.mp hc
        · exact hrows.trans (hfull (List.append_ne_nil_of_left_ne_nil hne' ys'))
        · exact ih.1 c hc
    · obtain rfl | hc := List.mem_cons.mp hc
      · exact hrows.trans_le hle
      · exact ih.2 c hc

theorem Cut.joined {size : ℕ} {rows : List Csv.Row} {batches : List RecordBatch}
    (h : Cut texts ov schema nullValue size rows batches) :
    Joined (IsColumn texts ov nullValue) schema rows batches := by
  induction h with
  | nil => exact .nil
  | cons hne _ _ _ hb _ ih => exact .cons hne (chunkToRecordBatch_eq_ok.mp hb) ih

/-- The batches put after each other are the batch of all the rows. -/
theorem Cut.concatBatches {size : ℕ} {rows : List Csv.Row} {batches : List RecordBatch}
    (h : Cut texts ov schema nullValue size rows batches) (hne : rows ≠ []) {whole : RecordBatch}
    (hwhole : chunkToRecordBatch texts ov schema nullValue rows = .ok whole) :
    Arrow.concatBatches schema batches = .ok whole :=
  h.joined.concatBatches rowWise_isColumn (fun _ _ _ => isColumn_unique) hne
    (chunkToRecordBatch_eq_ok.mp hwhole)

/-- The outcome for a document with rows. -/
theorem rowsToRecordBatches_outcome {rows : List Csv.Row} (hne : rows ≠ []) (batchSize : ℕ) :
    Outcome texts ov schema nullValue (max batchSize 1) 0 rows
      (rowsToRecordBatches texts ov schema nullValue (rows.map .ok) batchSize) := by
  have houtcome := @batchesFrom_outcome texts ov nullValue schema batchSize rows.length 0 rows le_rfl
  unfold rowsToRecordBatches
  rw [List.length_map]
  obtain ⟨hresult, hcut⟩ | ⟨hresult, hrow, hnamed⟩ := houtcome
  · refine .cut ?_ hcut
    rw [hresult, ok_bind, if_neg]
    · rfl
    · rintro rfl
      cases hcut
      exact hne rfl
  · refine .failed ?_ hrow hnamed
    rw [hresult]
    rfl

/-- **The outcomes of two batch sizes agree**: both conversions succeed or none does, the batches
hold the same together, all but the last have the size, and an error names a row that fails. -/
structure SizesAgree (schema : Schema) (rows : List Csv.Row)
    (alone : Csv.Row → Exec ParquetExportError (List RecordBatch)) (size size' : ℕ)
    (run run' : Exec ParquetExportError (List RecordBatch)) : Prop where
  success : (∃ batches, run = .ok batches) ↔ ∃ batches, run' = .ok batches
  contents : ∀ batches batches', run = .ok batches → run' = .ok batches' →
    ∃ whole, concatBatches schema batches = .ok whole ∧ concatBatches schema batches' = .ok whole
  sizes : ∀ batches, run = .ok batches →
    (∀ b ∈ batches.dropLast, b.numRows = size) ∧ ∀ b ∈ batches, b.numRows ≤ size
  sizes' : ∀ batches, run' = .ok batches →
    (∀ b ∈ batches.dropLast, b.numRows = size') ∧ ∀ b ∈ batches, b.numRows ≤ size'
  /-- Alone in a document, the row fails with the same text. -/
  named : ∀ index message, run = fail (.csvParse index message) ∨
      run' = fail (.csvParse index message) →
    ∃ row, rows[index]? = some row ∧ alone row = fail (.csvParse 0 message)

/-- An error of a conversion names a row that fails alone. -/
theorem Outcome.named {size : ℕ} {rows : List Csv.Row}
    {result : Exec ParquetExportError (List RecordBatch)}
    (h : Outcome texts ov schema nullValue size 0 rows result) {index : ℕ} {message : String}
    (hfail : result = fail (.csvParse index message)) : ∃ row, rows[index]? = some row ∧
      alone texts ov schema nullValue row = fail (.csvParse 0 message) := by
  obtain ⟨hresult, -⟩ | ⟨hresult, -, hnamed⟩ := h
  · cases hresult.symm.trans hfail
  · obtain ⟨i, row, rfl, hrow⟩ := hnamed index message (Except.error.inj (hresult.symm.trans hfail))
    rw [Nat.zero_add]
    exact ⟨row, hrow⟩

/-- A conversion succeeds exactly when it cuts the rows into batches. -/
theorem Outcome.eq_ok {size first : ℕ} {rows : List Csv.Row}
    {result : Exec ParquetExportError (List RecordBatch)}
    (h : Outcome texts ov schema nullValue size first rows result) {batches : List RecordBatch}
    (hok : result = .ok batches) : Cut texts ov schema nullValue size rows batches := by
  obtain ⟨hresult, hcut⟩ | ⟨hresult, -⟩ := h
  · cases hresult.symm.trans hok
    exact hcut
  · cases hresult.symm.trans hok

/-- A conversion succeeds exactly when every row is converted, alone. -/
theorem Outcome.exists_ok {size first : ℕ} {rows : List Csv.Row}
    {result : Exec ParquetExportError (List RecordBatch)}
    (h : Outcome texts ov schema nullValue size first rows result) :
    (∃ batches, result = .ok batches) ↔ ∀ row ∈ rows, Converts texts ov schema nullValue row := by
  constructor
  · rintro ⟨batches, hok⟩
    exact (h.eq_ok hok).converts
  · intro hall
    obtain ⟨hresult, -⟩ | ⟨-, ⟨row, hrow, hnot⟩, -⟩ := h
    · exact ⟨_, hresult⟩
    · exact absurd (hall row hrow) hnot

end Columns

/-- **The size of the batches makes no difference** to what becomes of the rows of a document. A
size of nothing counts as one. -/
theorem rowsToRecordBatches_sizes (texts : LibraryTexts) (ov : Overflow) (schema : Schema)
    (nullValue : Option (List Char)) (rows : List Csv.Row) (size size' : ℕ) :
    SizesAgree schema rows (alone texts ov schema nullValue) (max size 1) (max size' 1)
      (rowsToRecordBatches texts ov schema nullValue (rows.map .ok) size)
      (rowsToRecordBatches texts ov schema nullValue (rows.map .ok) size') := by
  by_cases hne : rows = []
  · subst hne
    have hrun (n : ℕ) : rowsToRecordBatches texts ov schema nullValue ([].map .ok) n =
        .ok [RecordBatch.newEmpty schema] := rfl
    obtain ⟨whole, hwhole⟩ := concatBatches_newEmpty schema
    rw [hrun, hrun]
    have hsizes (n : ℕ) : ∀ batches,
        (.ok [RecordBatch.newEmpty schema] : Exec ParquetExportError _) = .ok batches →
        (∀ b ∈ batches.dropLast, b.numRows = n) ∧ ∀ b ∈ batches, b.numRows ≤ n := by
      rintro batches h
      cases h
      exact ⟨fun b hb => absurd hb List.not_mem_nil, fun b hb => List.mem_singleton.mp hb ▸ n.zero_le⟩
    refine ⟨Iff.rfl, ?_, hsizes _, hsizes _, ?_⟩
    · rintro _ _ ⟨⟩ ⟨⟩
      exact ⟨whole, hwhole, hwhole⟩
    · rintro index message (h | h) <;> cases h
  have hout := @rowsToRecordBatches_outcome texts ov nullValue schema rows hne
  refine ⟨(hout size).exists_ok.trans (hout size').exists_ok.symm, ?_, ?_, ?_, ?_⟩
  · intro batches batches' hok hok'
    have hcut := (hout size).eq_ok hok
    obtain ⟨whole, hwhole⟩ := (exists_chunkToRecordBatch_iff hne).mpr fun row hrow =>
      (hcut.converts row hrow).2
    exact ⟨whole, hcut.concatBatches hne hwhole,
      ((hout size').eq_ok hok').concatBatches hne hwhole⟩
  · exact fun batches hok => ((hout size).eq_ok hok).sizes
  · exact fun batches hok => ((hout size').eq_ok hok).sizes
  · rintro index message (hfail | hfail)
    · exact (hout size).named hfail
    · exact (hout size').named hfail

end Exarrow.Export
