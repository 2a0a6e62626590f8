import Exarrow.Ddl.Tokens
import Exarrow.Ffi.TypeStrings

/-!
# Results of system views

The metadata functions of a connection query the system views and read the columns of the result
batches: texts (`Exarrow.Ffi.stringColumn`), flags that are truth values or words
(`Exarrow.Ffi.getNullableValue`), numbers (`Exarrow.Ffi.getIntValue`).

A batch lists rows if its columns hold a part of each of them (`Exarrow.Ffi.HoldsTexts`), and
batches list the rows that they list one after the other (`Exarrow.Ffi.Lists`). What is done for
each batch is then done for all rows at once (`Exarrow.Ffi.mapM_lists`).
-/

namespace Exarrow.Ffi

open Machine Checked Arrow Ieee

/-! ### Queries -/

/-- What a connection answers to a query. -/
abbrev RunsQuery : Type := List Char → Except QueryError (List RecordBatch)

/-- The connection, if there is one. -/
def requireConnection (inner : Option RunsQuery) : Exec AdbcError RunsQuery :=
  orFail ⟨.text "Connection not established. Call new_statement() or connect first.",
    .invalidState⟩ inner

/-- The batches of a result. -/
def queryBatches (conn : RunsQuery) (sql : List Char) : Exec AdbcError (List RecordBatch) :=
  match conn sql with
  | .ok batches => .ok batches
  | .error e => fail (toAdbcError e)

/-! ### Columns -/

/-- A column of a batch; without it the program stops. -/
def columnAt (batch : RecordBatch) (index : ℕ) : Exec AdbcError Column :=
  match batch.columns[index]? with
  | some column => .ok column
  | none => stop

/-- The cells of a column of texts. -/
def textCells : Column → Option (List (Option String))
  | ⟨.utf8, cells⟩ => some cells
  | _ => none

/-- A column as texts. -/
def stringColumn (batch : RecordBatch) (index : ℕ) (field : String) :
    Exec AdbcError (List (Option String)) := do
  let column ← columnAt batch index
  orFail ⟨.text s!"Expected string column for {field}", .internal⟩ (textCells column)

/-- The text of a row; a null has no characters. -/
def textAt (cells : List (Option String)) (row : ℕ) : Exec AdbcError String :=
  match cells[row]? with
  | some cell => .ok (cell.getD "")
  | none => stop

/-- The value of a cell that there is. -/
def cellAt {α : Type} (cells : List (Option α)) (row : ℕ) : Option α := (cells[row]?).join

/-- The number of a row, within 32 bits. -/
def getIntValue (array : Column) (idx : ℕ) : Option (SInt 32) :=
  match array with
  | ⟨.float64, cells⟩ => (cellAt cells idx).map fun value : F64 =>
      SInt.wrap 32 SInt.pos_32 (value.toIntSat (-2147483648) 2147483647)
  | ⟨.decimal128 _ _, cells⟩ => (cellAt cells idx).map fun value : SInt 128 =>
      SInt.wrap 32 SInt.pos_32 value.val
  | _ => none

/-- A word that means yes. -/
def spellsAffirmative (flag : String) : Bool :=
  let upper := flag.toList.flatMap upperChar
  upper = "TRUE".toList ∨ upper = "YES".toList ∨ upper = "1".toList

/-- The flag of a row. What is not told is true. -/
def getNullableValue (array : Column) (idx : ℕ) : Bool :=
  match array with
  | ⟨.boolean, cells⟩ => (cellAt cells idx).getD true
  | ⟨.utf8, cells⟩ => ((cellAt cells idx).map spellsAffirmative).getD true
  | _ => true

/-! ### Batches that list rows -/

section Lists

variable {ρ : Type}

/-- A column of a batch has a text of each row. -/
def HoldsTexts (batch : RecordBatch) (index : ℕ) (text : ρ → Option String) (rows : List ρ) : Prop :=
  batch.columns[index]? = some ⟨.utf8, rows.map text⟩

/-- Batches list rows, each batch a part of them. -/
def Lists (listed : RecordBatch → List ρ → Prop) (batches : List RecordBatch)
    (rows : List ρ) : Prop :=
  ∃ pieces, List.Forall₂ listed batches pieces ∧ rows = pieces.flatten

theorem stringColumn_eq {batch : RecordBatch} {index : ℕ} {text : ρ → Option String}
    {rows : List ρ} (h : HoldsTexts batch index text rows) (field : String) :
    stringColumn batch index field = .ok (rows.map text) := by
  rw [stringColumn, columnAt, h]
  rfl

theorem textAt_eq {text : ρ → Option String} {rows : List ρ} {i : ℕ} {row : ρ}
    (h : rows[i]? = some row) : textAt (rows.map text) i = .ok ((text row).getD "") := by
  rw [textAt, List.getElem?_map, h]
  rfl

theorem cellAt_eq {α : Type} {cell : ρ → Option α} {rows : List ρ} {i : ℕ} {row : ρ}
    (h : rows[i]? = some row) : cellAt (rows.map cell) i = cell row := by
  rw [cellAt, List.getElem?_map, h]
  rfl

/-- **What is done row by row**, each by its index. -/
theorem mapM_range {α ε : Type} {rows : List ρ} {read : ℕ → Exec ε α} {f : ρ → Exec ε α}
    (h : ∀ (i : ℕ) row, rows[i]? = some row → read i = f row) :
    (List.range rows.length).mapM read = rows.mapM f := by
  have hrows : (List.range rows.length).mapM read =
      ((List.range rows.length).map read).mapM id := by
    rw [List.mapM_map]
    rfl
  have hread : (List.range rows.length).map read = rows.map f := by
    refine List.ext_getElem (by simp) fun i hi _ => ?_
    rw [List.getElem_map, List.getElem_map, List.getElem_range]
    have hlt : i < rows.length := by simpa using hi
    exact h i _ (List.getElem?_eq_getElem hlt)
  rw [hrows, hread, List.mapM_map]
  rfl

/-- **What is done batch by batch** is done for all rows. -/
theorem mapM_lists {α ε : Type} {listed : RecordBatch → List ρ → Prop}
    {read : RecordBatch → Exec ε (List α)} {f : ρ → Exec ε α}
    (h : ∀ batch rows, listed batch rows → read batch = rows.mapM f)
    {batches : List RecordBatch} {rows : List ρ} (hlists : Lists listed batches rows) :
    (batches.mapM read >>= fun found => .ok found.flatten) = rows.mapM f := by
  obtain ⟨pieces, hpieces, rfl⟩ := hlists
  induction hpieces with
  | nil => rfl
  | cons hbatch _ ih =>
    rw [List.mapM_cons, h _ _ hbatch, List.flatten_cons, List.mapM_append]
    rw [← ih]
    simp only [bind_assoc, pure_bind]
    rfl

/-- The same for what never fails. -/
theorem mapM_lists_ok {α ε : Type} {listed : RecordBatch → List ρ → Prop}
    {read : RecordBatch → Exec ε (List α)} {f : ρ → α}
    (h : ∀ batch rows, listed batch rows → read batch = .ok (rows.map f))
    {batches : List RecordBatch} {rows : List ρ} (hlists : Lists listed batches rows) :
    ∃ found, batches.mapM read = .ok found ∧ found.flatten = rows.map f := by
  obtain ⟨pieces, hpieces, rfl⟩ := hlists
  refine ⟨pieces.map (List.map f), mapM_eq_ok.mpr ?_, List.map_flatten.symm⟩
  rw [List.forall₂_map_right_iff]
  exact hpieces.imp h

end Lists

end Exarrow.Ffi
