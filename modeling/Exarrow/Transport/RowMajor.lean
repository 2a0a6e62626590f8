import Exarrow.Json

/-!
# Columns that become rows while they are read

The server sends result data column by column, and the rows are grown while the columns are read
(`Exarrow.RowMajor.toRowMajor`). A column may be longer or shorter than those before it: a row
that it is the first to reach gets a null for each earlier column
(`Exarrow.RowMajor.ColumnVisitor.push`), and a row that it does not reach gets a null for it
(`Exarrow.RowMajor.ColumnVisitor.padRows`).

The rows are described without the loop: `Exarrow.RowMajor.transpose` has as many rows as the
longest column (`Exarrow.RowMajor.longest`) and in each row the cell of every column
(`Exarrow.RowMajor.cell`). One column takes the transpose of the columns before it to the transpose
of these and itself (`Exarrow.RowMajor.ColumnVisitor.visitSeq_transpose`), and so the data becomes
the transpose of its columns (`Exarrow.RowMajor.toRowMajor_array`).
-/

namespace Exarrow.RowMajor

open Json

/-- A value of another shape than the one that is expected. -/
structure InvalidType where
  /-- The value. -/
  found : Value
  /-- What was expected. -/
  expecting : String

namespace ColumnVisitor

/-- What the visitor of a column expects. -/
def expecting : String := "array of column values"

/-- One value of a column goes into its row. -/
def push (colIdx : ℕ) (rows : List (List Value)) (rowIdx : ℕ) (value : Value) :
    List (List Value) :=
  if colIdx = 0 then rows ++ [[value]]
  else if rowIdx < rows.length then rows.modify rowIdx fun row => row ++ [value]
  else rows ++ [List.replicate colIdx .null ++ [value]]

/-- The values of a column from one row on, with the row after the last of them. -/
def pushAll (colIdx : ℕ) : List (List Value) → ℕ → List Value → List (List Value) × ℕ
  | rows, rowIdx, [] => (rows, rowIdx)
  | rows, rowIdx, value :: values => pushAll colIdx (push colIdx rows rowIdx value) (rowIdx + 1)
      values

/-- The rows from one row on get a null. -/
def padRows (rows : List (List Value)) (rowIdx : ℕ) : List (List Value) :=
  if rowIdx < rows.length then padRows (rows.modify rowIdx fun row => row ++ [.null]) (rowIdx + 1)
  else rows
termination_by rows.length - rowIdx
decreasing_by rw [List.length_modify]; omega

/-- The values of one column are distributed to the rows. -/
def visitSeq (colIdx : ℕ) (rows : List (List Value)) (values : List Value) : List (List Value) :=
  let (rows, rowIdx) := pushAll colIdx rows 0 values
  padRows rows rowIdx

end ColumnVisitor

/-- The seed of a column: it must be an array. -/
def columnSeed (colIdx : ℕ) (rows : List (List Value)) : Value →
    Except InvalidType (List (List Value))
  | .array values => .ok (ColumnVisitor.visitSeq colIdx rows values)
  | found => .error ⟨found, ColumnVisitor.expecting⟩

namespace DataVisitor

/-- What the visitor of the data expects. -/
def expecting : String := "column-major data array"

/-- The columns from one index on, read into the rows of the columns before. -/
def visitFrom : ℕ → List (List Value) → List Value → Except InvalidType (List (List Value))
  | _, rows, [] => .ok rows
  | colIdx, rows, column :: columns => do
    visitFrom (colIdx + 1) (← columnSeed colIdx rows column) columns

/-- The columns are read one after the other. -/
def visitSeq (columns : List Value) : Except InvalidType (List (List Value)) :=
  visitFrom 0 [] columns

end DataVisitor

/-- Column-major data as rows. -/
def toRowMajor : Value → Except InvalidType (List (List Value))
  | .array columns => DataVisitor.visitSeq columns
  | found => .error ⟨found, DataVisitor.expecting⟩

/-- Column-major data that may be missing, as rows. -/
def toRowMajorOption : Value → Except InvalidType (Option (List (List Value)))
  | .null => .ok none
  | data => some <$> toRowMajor data

/-! ### The transpose of columns of any lengths -/

/-- The length of the longest column. -/
def longest (columns : List (List Value)) : ℕ := (columns.map List.length).foldr max 0

/-- The entry of a column in one row: null where the column is shorter. -/
def cell (column : List Value) (row : ℕ) : Value := column[row]?.getD .null

/-- The rows of the columns: as many as the longest column has values, each with the cell of every
column. -/
def transpose (columns : List (List Value)) : List (List Value) :=
  (List.range (longest columns)).map fun row => columns.map fun column => cell column row

/-- No column is longer than the longest. -/
theorem length_le_longest {columns : List (List Value)} {column : List Value}
    (h : column ∈ columns) : column.length ≤ longest columns := by
  induction columns with
  | nil => exact absurd h List.not_mem_nil
  | cons first columns ih =>
    obtain rfl | h := List.mem_cons.mp h
    · exact le_max_left _ _
    · exact (ih h).trans (le_max_right _ _)

/-- One column more. -/
theorem longest_concat (columns : List (List Value)) (column : List Value) :
    longest (columns ++ [column]) = max (longest columns) column.length := by
  induction columns with
  | nil =>
    change max column.length 0 = max 0 column.length
    exact max_comm _ _
  | cons first columns ih =>
    change max first.length (longest (columns ++ [column])) = _
    rw [ih, ← max_assoc]
    rfl

/-- Some column is the longest, unless there is none. -/
theorem exists_longest {columns : List (List Value)} (h : columns ≠ []) :
    ∃ column ∈ columns, column.length = longest columns := by
  induction columns with
  | nil => exact absurd rfl h
  | cons first columns ih =>
    change ∃ column ∈ first :: columns, column.length = max first.length (longest columns)
    obtain hle | hle := le_total (longest columns) first.length
    · exact ⟨first, List.mem_cons_self, (max_eq_left hle).symm⟩
    obtain rfl | hne := eq_or_ne columns []
    · exact ⟨first, List.mem_cons_self, (max_eq_left (Nat.zero_le _)).symm⟩
    · obtain ⟨column, hmem, hlen⟩ := ih hne
      exact ⟨column, List.mem_cons_of_mem _ hmem, hlen.trans (max_eq_right hle).symm⟩

/-- The transpose has as many rows as the longest column has values. -/
@[simp] theorem length_transpose (columns : List (List Value)) :
    (transpose columns).length = longest columns := by
  rw [transpose, List.length_map, List.length_range]

/-- A row of the transpose. -/
theorem getElem?_transpose (columns : List (List Value)) (r : ℕ) :
    (transpose columns)[r]? =
      if r < longest columns then some (columns.map fun column => cell column r) else none := by
  rw [transpose, List.getElem?_map]
  split
  · rename_i h
    rw [List.getElem?_range h]
    rfl
  · rename_i h
    rw [List.getElem?_eq_none (by rw [List.length_range]; omega)]
    rfl

/-- The cell of a column that is too short is null. -/
theorem cell_of_le {column : List Value} {r : ℕ} (h : column.length ≤ r) :
    cell column r = .null := by
  rw [cell, List.getElem?_eq_none h]
  rfl

/-- Below the longest column there are only nulls. -/
theorem map_cell_of_longest_le {columns : List (List Value)} {r : ℕ}
    (h : longest columns ≤ r) :
    (columns.map fun column => cell column r) = List.replicate columns.length .null := by
  rw [List.eq_replicate_iff, List.length_map]
  refine ⟨rfl, fun value hvalue => ?_⟩
  obtain ⟨column, hmem, rfl⟩ := List.mem_map.mp hvalue
  exact cell_of_le ((length_le_longest hmem).trans h)

/-! ### One column -/

namespace ColumnVisitor

/-- What stands in the rows once a column has been read up to one row: the rows above it have the
values of the column behind those of the earlier columns, the others are as they were. -/
structure ReadUpTo (columns : List (List Value)) (column : List Value) (rowIdx : ℕ)
    (rows : List (List Value)) : Prop where
  length_eq : rows.length = max (longest columns) rowIdx
  above : ∀ r < rowIdx, rows[r]? = some ((columns ++ [column]).map fun col => cell col r)
  below : ∀ r, rowIdx ≤ r → r < longest columns →
    rows[r]? = some (columns.map fun col => cell col r)

/-- Before the first value the rows are the transpose of the earlier columns. -/
theorem readUpTo_zero (columns : List (List Value)) (column : List Value) :
    ReadUpTo columns column 0 (transpose columns) where
  length_eq := by rw [length_transpose, max_eq_left (Nat.zero_le _)]
  above r hr := absurd hr (Nat.not_lt_zero r)
  below r _ hr := by rw [getElem?_transpose, if_pos hr]

/-- A row that the column reaches gets the column's cell, whichever way it is made. -/
theorem ReadUpTo.modify {columns : List (List Value)} {column : List Value} {rowIdx : ℕ}
    {rows : List (List Value)} (h : ReadUpTo columns column rowIdx rows)
    (hlt : rowIdx < longest columns) :
    ReadUpTo columns column (rowIdx + 1)
      (rows.modify rowIdx fun row => row ++ [cell column rowIdx]) where
  length_eq := by
    rw [List.length_modify, h.length_eq]
    omega
  above r hr := by
    rw [List.getElem?_modify]
    obtain rfl | hne := eq_or_ne r rowIdx
    · rw [h.below r le_rfl hlt, List.map_append]
      simp
    · rw [h.above r (by omega)]
      simp [hne.symm]
  below r hle hr := by
    have hne : rowIdx ≠ r := by omega
    rw [List.getElem?_modify, h.below r (by omega) hr]
    simp [hne]

/-- A row that no earlier column has reached is made with nulls in front. -/
theorem ReadUpTo.concat {columns : List (List Value)} {column : List Value} {rowIdx : ℕ}
    {rows : List (List Value)} (h : ReadUpTo columns column rowIdx rows)
    (hle : longest columns ≤ rowIdx) :
    ReadUpTo columns column (rowIdx + 1)
      (rows ++ [List.replicate columns.length .null ++ [cell column rowIdx]]) where
  length_eq := by
    rw [List.length_append, h.length_eq, List.length_singleton]
    omega
  above r hr := by
    have hlen : rows.length = rowIdx := h.length_eq.trans (max_eq_right hle)
    obtain hlt | rfl : r < rowIdx ∨ r = rowIdx := by omega
    · rw [List.getElem?_append_left (by omega), h.above r hlt]
    · rw [List.getElem?_append_right (by omega), hlen, Nat.sub_self, List.map_append,
        map_cell_of_longest_le hle]
      rfl
  below r hr hlt := by omega

/-- **One value**: the row it belongs to becomes that of the columns up to this one. -/
theorem push_readUpTo {columns : List (List Value)} {column : List Value} {rowIdx : ℕ}
    {rows : List (List Value)} (h : ReadUpTo columns column rowIdx rows) :
    ReadUpTo columns column (rowIdx + 1)
      (push columns.length rows rowIdx (cell column rowIdx)) := by
  unfold push
  split
  -- the first column: there are no earlier rows
  · rename_i hzero
    obtain rfl := List.eq_nil_of_length_eq_zero hzero
    exact h.concat (Nat.zero_le _)
  split
  · rename_i hlt
    refine h.modify ?_
    rw [h.length_eq] at hlt
    omega
  · rename_i hlt
    refine h.concat ?_
    rw [h.length_eq] at hlt
    omega

/-- All the values of the column. -/
theorem pushAll_readUpTo {columns : List (List Value)} {column : List Value} {values : List Value}
    {rowIdx : ℕ} {rows : List (List Value)} (h : ReadUpTo columns column rowIdx rows)
    (hvalues : column.drop rowIdx = values) (hle : rowIdx ≤ column.length) :
    ReadUpTo columns column column.length (pushAll columns.length rows rowIdx values).1 ∧
      (pushAll columns.length rows rowIdx values).2 = column.length := by
  induction values generalizing rowIdx rows with
  | nil =>
    have : rowIdx = column.length := by
      have := List.drop_eq_nil_iff.mp hvalues
      omega
    subst this
    exact ⟨h, rfl⟩
  | cons value values ih =>
    have hlt : rowIdx < column.length := by
      by_contra hge
      rw [List.drop_eq_nil_iff.mpr (by omega)] at hvalues
      exact List.cons_ne_nil _ _ hvalues.symm
    rw [List.drop_eq_getElem_cons hlt] at hvalues
    obtain ⟨hvalue, hrest⟩ := List.cons.inj hvalues
    have hcell : cell column rowIdx = value := by
      rw [cell, List.getElem?_eq_getElem hlt]
      exact hvalue
    have hnext := push_readUpTo h
    rw [hcell] at hnext
    exact ih hnext hrest hlt

/-- The rows below a column get the null that is the column's cell there. -/
theorem padRows_readUpTo {columns : List (List Value)} {column : List Value} {rowIdx : ℕ}
    {rows : List (List Value)} (h : ReadUpTo columns column rowIdx rows)
    (hle : column.length ≤ rowIdx) :
    ReadUpTo columns column (max (longest columns) rowIdx) (padRows rows rowIdx) := by
  induction rows, rowIdx using padRows.induct with
  | case1 rows rowIdx hlt ih =>
    rw [padRows, if_pos hlt]
    rw [h.length_eq] at hlt
    have hnext := h.modify (by omega)
    rw [cell_of_le hle] at hnext
    have hpadded := ih hnext (by omega)
    rwa [(by omega : max (longest columns) (rowIdx + 1) = max (longest columns) rowIdx)]
      at hpadded
  | case2 rows rowIdx hlt =>
    rw [padRows, if_neg hlt]
    rw [h.length_eq] at hlt
    rwa [(by omega : max (longest columns) rowIdx = rowIdx)]

/-- **One column** takes the transpose of the columns before it to the transpose of these and
itself. -/
theorem visitSeq_transpose (columns : List (List Value)) (column : List Value) :
    visitSeq columns.length (transpose columns) column = transpose (columns ++ [column]) := by
  obtain ⟨hpushed, hidx⟩ := pushAll_readUpTo (readUpTo_zero columns column) List.drop_zero
    (Nat.zero_le _)
  have hpadded := padRows_readUpTo hpushed le_rfl
  change padRows (pushAll columns.length (transpose columns) 0 column).1
    (pushAll columns.length (transpose columns) 0 column).2 = _
  rw [hidx]
  refine List.ext_getElem? fun r => ?_
  rw [getElem?_transpose, longest_concat]
  split
  · rename_i hr
    exact hpadded.above r hr
  · rename_i hr
    refine List.getElem?_eq_none ?_
    rw [hpadded.length_eq]
    omega

end ColumnVisitor

/-! ### The data -/

/-- The columns after some that have been read. -/
theorem DataVisitor.visitFrom_transpose (before columns : List (List Value)) :
    visitFrom before.length (transpose before) (columns.map Value.array) =
      .ok (transpose (before ++ columns)) := by
  induction columns generalizing before with
  | nil => rw [List.append_nil]; rfl
  | cons column columns ih =>
    have hrest := ih (before ++ [column])
    rw [← ColumnVisitor.visitSeq_transpose, List.append_assoc] at hrest
    rw [List.length_append] at hrest
    exact hrest

/-- **The data becomes the transpose of its columns.** -/
theorem toRowMajor_array (columns : List (List Value)) :
    toRowMajor (.array (columns.map Value.array)) = .ok (transpose columns) :=
  DataVisitor.visitFrom_transpose [] columns

/-- What the rows of columns of any lengths are. -/
structure RowsOf (columns : List (List Value)) (rows : List (List Value)) : Prop where
  /-- There is a row for each value of the longest column. -/
  length_eq : rows.length = longest columns
  /-- Each row has one entry per column. -/
  widths : ∀ row ∈ rows, row.length = columns.length
  /-- An entry is the value of its column, and null where the column is shorter. -/
  entries : ∀ (r c : ℕ) (row column : List Value), rows[r]? = some row →
    columns[c]? = some column → row[c]? = some (column[r]?.getD .null)

/-- The transpose has the rows of the columns. -/
theorem rowsOf_transpose (columns : List (List Value)) : RowsOf columns (transpose columns) where
  length_eq := length_transpose columns
  widths row hrow := by
    obtain ⟨r, -, rfl⟩ := List.mem_map.mp hrow
    rw [List.length_map]
  entries r c row column hrow hcolumn := by
    rw [getElem?_transpose] at hrow
    split at hrow
    · obtain rfl := Option.some.inj hrow
      rw [List.getElem?_map, hcolumn]
      rfl
    · exact absurd hrow.symm (Option.some_ne_none _)

/-- The rows of columns are determined by these. -/
theorem RowsOf.eq_transpose {columns rows : List (List Value)} (h : RowsOf columns rows) :
    rows = transpose columns := by
  refine List.ext_getElem? fun r => ?_
  rw [getElem?_transpose]
  split
  · rename_i hr
    have hr' : r < rows.length := h.length_eq ▸ hr
    rw [List.getElem?_eq_getElem hr']
    refine congrArg some (List.ext_getElem? fun c => ?_)
    rw [List.getElem?_map]
    obtain hc | hc := lt_or_ge c columns.length
    · rw [List.getElem?_eq_getElem hc]
      exact h.entries r c _ _ (List.getElem?_eq_getElem hr') (List.getElem?_eq_getElem hc)
    · rw [List.getElem?_eq_none hc]
      exact List.getElem?_eq_none ((h.widths _ (List.getElem_mem hr')).trans_le hc)
  · rename_i hr
    exact List.getElem?_eq_none (by rw [h.length_eq]; omega)

/-- Columns of one length are all the longest. -/
theorem longest_of_forall {columns : List (List Value)} {n : ℕ} (hne : columns ≠ [])
    (h : ∀ column ∈ columns, column.length = n) : longest columns = n := by
  obtain ⟨column, hmem, hlen⟩ := exists_longest hne
  exact hlen.symm.trans (h column hmem)

/-- The values at one place of the rows of rectangular data are the column there. -/
theorem map_getElem?_transpose {columns : List (List Value)} {n c : ℕ} {column : List Value}
    (h : ∀ column ∈ columns, column.length = n) (hcolumn : columns[c]? = some column) :
    (transpose columns).map (fun row => row[c]?.getD Value.null) = column := by
  have hmem := List.mem_of_getElem? hcolumn
  have hlen : longest columns = column.length :=
    (longest_of_forall (List.ne_nil_of_mem hmem) h).trans (h column hmem).symm
  refine List.ext_getElem? fun r => ?_
  rw [List.getElem?_map, getElem?_transpose, hlen]
  split
  · rename_i hr
    rw [Option.map_some, List.getElem?_map, hcolumn, Option.map_some, Option.getD_some, cell,
      List.getElem?_eq_getElem hr, Option.getD_some]
  · rename_i hr
    rw [Option.map_none, List.getElem?_eq_none (by omega)]

/-- **The rows that columns become**: for every list of columns of any lengths there are as many
rows as the longest column has values, each with exactly one entry per column, which is the
column's value or a null where the column is shorter; of columns of one length the rows are the
exact transpose, so that the values at one place of the rows are the column there. -/
theorem toRowMajor_rowsOf (columns : List (List Value)) :
    ∃ rows, toRowMajor (.array (columns.map Value.array)) = .ok rows ∧ RowsOf columns rows ∧
      ∀ n, (∀ column ∈ columns, column.length = n) → ∀ (c : ℕ) column, columns[c]? = some column →
        rows.map (fun row => row[c]?.getD Value.null) = column :=
  ⟨transpose columns, toRowMajor_array columns, rowsOf_transpose columns,
    fun _ h _ _ hcolumn => map_getElem?_transpose h hcolumn⟩

/-- Data that is read is an array of columns, and the rows are theirs. -/
theorem exists_columns_of_toRowMajor {data : Value} {rows : List (List Value)}
    (h : toRowMajor data = .ok rows) :
    ∃ columns, data = .array (columns.map Value.array) ∧ rows = transpose columns := by
  cases data with
  | array items =>
    have hcols : ∀ (items : List Value) (idx : ℕ) (before rows : List (List Value)),
        DataVisitor.visitFrom idx before items = .ok rows →
          ∃ columns : List (List Value), items = columns.map Value.array := by
      intro items
      induction items with
      | nil => exact fun _ _ _ _ => ⟨[], rfl⟩
      | cons item items ih =>
        intro idx before rows h
        cases item with
        | array values =>
          obtain ⟨columns, rfl⟩ := ih (idx + 1) (ColumnVisitor.visitSeq idx before values) rows h
          exact ⟨values :: columns, rfl⟩
        | _ => cases h
    obtain ⟨columns, rfl⟩ := hcols items 0 [] rows h
    rw [toRowMajor_array] at h
    exact ⟨columns, rfl, (Except.ok.inj h).symm⟩
  | _ => cases h

end Exarrow.RowMajor
