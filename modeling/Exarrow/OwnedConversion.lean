import Exarrow.Agreement
import Exarrow.RowWise
import Exarrow.Transport.RowMajor

/-!
# The JSON to Arrow converter that consumes its input

The converter has a second entry that moves the values out of the rows
(`Exarrow.ArrowConverter.convertToRecordBatchOwned`). Where the first entry looks each column up in
every row, and takes null where the row ends before it (`Exarrow.ResultSet.columnOf`), this one
pushes the values of the rows to the columns one by one (`Exarrow.ArrowConverter.distribute`), so
that a row that is too short leaves no trace in the columns it does not reach
(`Exarrow.ArrowConverter.distribute_eq`).

Only the width of the first row is checked. While no row is shorter than that, the columns are the
same (`Exarrow.ArrowConverter.columnsOwned_eq`), and this is so for all data that was read from
columns (`Exarrow.ArrowConverter.owned_eq_of_toRowMajor`). A shorter row makes the columns ragged,
and Arrow then refuses them, unless the short rows have no value at all
(`Exarrow.ArrowConverter.widths_of_owned`).
-/

namespace Exarrow

open Checked Arrow Json

/-! ### One array -/

namespace Builders

variable {pf : Platform}

/-- What is made of a value does not depend on its row, which is for errors. -/
def RowFree {α : Type} (f : ℕ → Value → Exec ColumnConversionError α) : Prop :=
  ∀ row row' v a, f row v = .ok a → f row' v = .ok a

theorem rowFree_booleanValue : RowFree (booleanValue pf) := by
  intro row row' v a h
  cases v with
  | bool b => exact h
  | _ => exact absurd h unexpected_ne_ok

theorem rowFree_stringValue : RowFree (stringValue pf) := by
  intro row row' v a h
  cases v with
  | string s => exact h
  | _ => exact absurd h unexpected_ne_ok

theorem rowFree_parsedValue {α : Type} {expected : String} {parse : List Char → Exec String α} :
    RowFree (parsedValue pf expected parse) := by
  intro row row' v a h
  cases v with
  | string s => exact mapError_eq_ok.mpr (mapError_eq_ok.mp h)
  | _ => exact absurd h unexpected_ne_ok

theorem rowFree_binaryValue : RowFree (binaryValue pf) := by
  intro row row' v a h
  cases v with
  | string s => exact mapError_eq_ok.mpr (mapError_eq_ok.mp h)
  | _ => exact absurd h unexpected_ne_ok

theorem rowFree_doubleValue : RowFree (doubleValue pf) := by
  intro row row' v a h
  cases v with
  | number n => exact h
  | string s =>
    simp only [doubleValue, Value.asF64, Value.asStr] at h ⊢
    split at h
    · exact h
    · exact h
    · exact h
    · exact orFail_eq_ok.mpr (orFail_eq_ok.mp h)
    · cases h
  | _ => exact absurd h unexpected_ne_ok

theorem rowFree_parseDecimal {precision : UInt8} {scale : Machine.SInt 8} :
    RowFree (parseDecimal pf precision scale) := by
  intro row row' v a h
  cases v with
  | number n =>
    unfold parseDecimal at h ⊢
    have hi : (Value.number n).asI64 = n.asI64 := rfl
    have hf : (Value.number n).asF64 = some n.asF64 := rfl
    rw [hi, hf] at h ⊢
    cases hn : n.asI64 with
    | some i =>
      rw [hn] at h
      exact h
    | none =>
      rw [hn] at h
      exact orFail_eq_ok.mpr (orFail_eq_ok.mp h)
  | string s =>
    obtain ⟨u, hu, hs⟩ := bind_eq_ok.mp h
    exact bind_eq_ok.mpr ⟨u, validateDecimalPrecision_eq_ok.mpr
      (validateDecimalPrecision_eq_ok.mp hu), mapError_eq_ok.mpr (mapError_eq_ok.mp hs)⟩
  | _ => exact absurd h unexpected_ne_ok

/-- The cells of a column whose values do not depend on their rows. -/
theorem eachRow_nullable {α : Type} {f : ℕ → Value → Exec ColumnConversionError α}
    (hf : RowFree f) {values : List Value} {cells : List (Option α)} :
    eachRow (fun row => nullable (f row)) values = .ok cells ↔
      List.Forall₂ (fun v cell => nullable (f 0) v = .ok cell) values cells := by
  refine eachRow_eq_ok_iff fun row v cell => ?_
  cases v with
  | null => rfl
  | _ =>
    constructor
    · intro h
      obtain ⟨a, ha, hcell⟩ := bind_eq_ok.mp h
      exact bind_eq_ok.mpr ⟨a, hf row 0 _ a ha, hcell⟩
    · intro h
      obtain ⟨a, ha, hcell⟩ := bind_eq_ok.mp h
      exact bind_eq_ok.mpr ⟨a, hf 0 row _ a ha, hcell⟩

/-- How an array is made cell by cell, of a null a null. -/
def MadeOfValues (build : List Value → Exec ColumnConversionError Column) : Prop :=
  ∃ (t : DataType) (cell : Value → Option t.Native → Prop), cell .null none ∧
    ∀ values c, build values = .ok c ↔ ∃ cells, c = ⟨t, cells⟩ ∧ List.Forall₂ cell values cells

/-- An array whose values do not depend on their rows. -/
theorem madeOfValues (t : DataType) (f : ℕ → Value → Exec ColumnConversionError t.Native)
    (hf : RowFree f) {build : List Value → Exec ColumnConversionError Column}
    (hbuild : ∀ values, build values =
      do return (⟨t, ← eachRow (fun row => nullable (f row)) values⟩ : Column)) :
    MadeOfValues build := by
  refine ⟨t, fun v cell => nullable (f 0) v = .ok cell, rfl, fun values c => ?_⟩
  rw [hbuild]
  refine bind_eq_ok.trans (exists_congr fun cells => ?_)
  rw [eachRow_nullable hf, and_comm]
  exact and_congr_left fun _ => ⟨fun h => (Except.ok.inj h).symm, fun h => congrArg Except.ok h.symm⟩

/-- **How an array is made of the values of a column**: there is none of its type, or each cell is
made of its value alone. -/
theorem buildTypedArray_cases (pf : Platform) (exasolType : ExasolType) :
    (∀ values c, buildTypedArray pf exasolType values ≠ .ok c) ∨
      MadeOfValues (buildTypedArray pf exasolType) := by
  cases exasolType with
  | boolean => exact .inr (madeOfValues .boolean _ rowFree_booleanValue fun _ => rfl)
  | char _ | varchar _ => exact .inr (madeOfValues .utf8 _ rowFree_stringValue fun _ => rfl)
  | decimal precision scale =>
    cases hcheck : checkDecimalType precision scale with
    | error e =>
      refine .inl fun values c h => ?_
      obtain ⟨u, hu, -⟩ := bind_eq_ok.mp h
      rw [hcheck] at hu
      cases hu
    | ok u =>
      refine .inr (madeOfValues (.decimal128 precision scale) (parseDecimal pf precision scale)
        rowFree_parseDecimal fun values => ?_)
      unfold buildTypedArray
      dsimp only
      rw [hcheck]
      rfl
  | double => exact .inr (madeOfValues .float64 _ rowFree_doubleValue fun _ => rfl)
  | date => exact .inr (madeOfValues .date32 _ rowFree_parsedValue fun _ => rfl)
  | timestamp withLocalTimeZone =>
    exact .inr (madeOfValues (.timestamp .microsecond _) _ rowFree_parsedValue fun _ => rfl)
  | intervalYearToMonth | intervalDayToSecond _ =>
    exact .inr (madeOfValues (.interval .monthDayNano) _ rowFree_parsedValue fun _ => rfl)
  | geometry _ | hashtype _ =>
    exact .inr (madeOfValues .binary _ rowFree_binaryValue fun _ => rfl)

/-- An array has a cell for each value. -/
theorem length_of_buildTypedArray {exasolType : ExasolType} {values : List Value} {c : Column}
    (h : buildTypedArray pf exasolType values = .ok c) : c.length = values.length := by
  obtain hnone | ⟨t, cell, -, hcell⟩ := buildTypedArray_cases pf exasolType
  · exact absurd h (hnone values c)
  · obtain ⟨cells, rfl, hcells⟩ := (hcell values c).mp h
    exact hcells.length_eq.symm

end Builders

namespace ArrowConverter

/-! ### The values of the rows, column by column -/

/-- The values of a row are pushed to their columns, from one column on; what is beyond the last
column is dropped. -/
def distribute : ℕ → List (List Value) → List Value → List (List Value)
  | _, columns, [] => columns
  | colIdx, columns, value :: values =>
    distribute (colIdx + 1)
      (if colIdx < columns.length then columns.modify colIdx fun column => column ++ [value]
        else columns) values

/-- The values of all rows, moved to the columns. -/
def columnsOwned (numColumns : ℕ) (rows : List (List Value)) : List (List Value) :=
  rows.foldl (distribute 0) (List.replicate numColumns [])

/-- Result data as a record batch, with the values moved out of it. -/
def convertToRecordBatchOwned (pf : Platform) (conv : ArrowConverter)
    (resultData : Messages.ResultData) : Exec ConversionError RecordBatch :=
  match resultData.data with
  | .arrow batch => .ok batch
  | .json rows =>
    if rows = [] then .ok (RecordBatch.newEmpty conv.schema)
    else do
      conv.checkRowWidth rows
      conv.buildRecordBatch pf (columnsOwned conv.columnTypes.length rows)

/-- A column that is not there is not changed. -/
theorem push_eq (columns : List (List Value)) (colIdx : ℕ) (value : Value) :
    (if colIdx < columns.length then columns.modify colIdx fun column => column ++ [value]
      else columns) = columns.modify colIdx fun column => column ++ [value] := by
  split
  · rfl
  · rename_i h
    exact (List.modify_eq_self (Nat.le_of_not_lt h)).symm

/-- One row adds its value to each column that it reaches. -/
theorem getElem?_distribute (k : ℕ) (columns : List (List Value)) (row : List Value) (i : ℕ) :
    (distribute k columns row)[i]? =
      columns[i]?.map (· ++ if k ≤ i then row[i - k]?.toList else []) := by
  induction row generalizing k columns with
  | nil =>
    rw [distribute, List.getElem?_nil, Option.toList_none, ite_self]
    simp
  | cons value values ih =>
    rw [distribute, ih, push_eq, List.getElem?_modify]
    cases columns[i]? with
    | none => rfl
    | some column =>
      refine congrArg some ?_
      dsimp only
      obtain hlt | rfl | hlt := lt_trichotomy k i
      · obtain ⟨m, rfl⟩ : ∃ m, i = k + (m + 1) := ⟨i - (k + 1), by omega⟩
        have hm : k + (m + 1) - (k + 1) = m := by omega
        rw [if_neg hlt.ne, if_pos (Nat.succ_le_of_lt hlt), if_pos hlt.le, hm,
          Nat.add_sub_cancel_left, List.getElem?_cons_succ]
      · rw [if_pos rfl, if_neg (Nat.not_succ_le_self k), if_pos le_rfl, Nat.sub_self,
          List.append_nil]
        rfl
      · rw [if_neg hlt.ne', if_neg (by omega : ¬k + 1 ≤ i), if_neg (by omega : ¬k ≤ i)]

/-- The values of some rows are behind those that were there. -/
theorem getElem?_foldl_distribute (columns : List (List Value)) (rows : List (List Value))
    (i : ℕ) : (rows.foldl (distribute 0) columns)[i]? =
      columns[i]?.map (· ++ rows.filterMap fun row => row[i]?) := by
  induction rows generalizing columns with
  | nil => simp
  | cons row rows ih =>
    rw [List.foldl_cons, ih, getElem?_distribute, if_pos (Nat.zero_le i), Nat.sub_zero,
      Option.map_map]
    congr 1
    funext column
    cases hrow : row[i]? <;> simp [hrow]

/-- **A column has the values of the rows that reach it.** -/
theorem getElem?_columnsOwned {numColumns i : ℕ} (hi : i < numColumns)
    (rows : List (List Value)) :
    (columnsOwned numColumns rows)[i]? = some (rows.filterMap fun row => row[i]?) := by
  rw [columnsOwned, getElem?_foldl_distribute, List.getElem?_replicate, if_pos hi, Option.map_some,
    List.nil_append]

/-- Beyond the last column there is none. -/
theorem getElem?_columnsOwned_of_le {numColumns i : ℕ} (hi : numColumns ≤ i)
    (rows : List (List Value)) : (columnsOwned numColumns rows)[i]? = none := by
  rw [columnsOwned, getElem?_foldl_distribute, List.getElem?_replicate, if_neg (by omega),
    Option.map_none]

/-- A column that every row reaches. -/
theorem filterMap_eq_columnOf {i : ℕ} {rows : List (List Value)}
    (h : ∀ row ∈ rows, i < row.length) :
    (rows.filterMap fun row => row[i]?) = ResultSet.columnOf rows i := by
  induction rows with
  | nil => rfl
  | cons row rows ih =>
    obtain ⟨value, hrow⟩ : ∃ value, row[i]? = some value :=
      ⟨_, List.getElem?_eq_getElem (h row List.mem_cons_self)⟩
    have hfirst : (row :: rows).filterMap (fun row => row[i]?) =
        value :: rows.filterMap fun row => row[i]? := List.filterMap_cons_some hrow
    rw [hfirst, ih fun row hmem => h row (List.mem_cons_of_mem _ hmem), ResultSet.columnOf,
      ResultSet.columnOf, List.map_cons, hrow]
    rfl

/-- **While no row is too short the columns are the same.** -/
theorem columnsOwned_eq {numColumns : ℕ} {rows : List (List Value)}
    (h : ∀ row ∈ rows, numColumns ≤ row.length) :
    columnsOwned numColumns rows = (List.range numColumns).map (ResultSet.columnOf rows) := by
  refine List.ext_getElem? fun i => ?_
  rw [List.getElem?_map]
  obtain hi | hi := lt_or_ge i numColumns
  · rw [getElem?_columnsOwned hi, List.getElem?_range hi, Option.map_some,
      filterMap_eq_columnOf fun row hrow => hi.trans_le (h row hrow)]
  · rw [getElem?_columnsOwned_of_le hi,
      List.getElem?_eq_none (by rw [List.length_range]; exact hi), Option.map_none]

/-! ### The batch of some rows -/

/-- The array of a field is made of the values that the rows have for it. -/
def IsArrayOf (pf : Platform) (conv : ArrowConverter) (rows : List (List Value))
    (field : Field × ℕ) (c : Column) : Prop :=
  ∃ t, conv.columnTypes[field.2]? = some t ∧
    Builders.buildTypedArray pf t (ResultSet.columnOf rows field.2) = .ok c

/-- The arrays are made row by row. -/
theorem rowWise_isArrayOf (pf : Platform) (conv : ArrowConverter) :
    RowWise (IsArrayOf pf conv) := by
  intro field
  unfold IsArrayOf
  cases conv.columnTypes[field.2]? with
  | none => exact .inl fun rows c h => by obtain ⟨t, ht, -⟩ := h; cases ht
  | some t =>
    have hsome (rows : List (List Value)) (c : Column) : (∃ u, some t = some u ∧
        Builders.buildTypedArray pf u (ResultSet.columnOf rows field.2) = .ok c) ↔
        Builders.buildTypedArray pf t (ResultSet.columnOf rows field.2) = .ok c :=
      ⟨fun ⟨_, h, hc⟩ => Option.some.inj h ▸ hc, fun h => ⟨t, rfl, h⟩⟩
    simp only [hsome]
    obtain hnone | ⟨u, cell, -, hcell⟩ := Builders.buildTypedArray_cases pf t
    · exact .inl fun rows c => hnone _ c
    · refine .inr ⟨u, fun row => cell (row[field.2]?.getD .null), fun rows c => ?_⟩
      rw [hcell, ResultSet.columnOf]
      simp only [List.forall₂_map_left_iff]

/-- The array of a row without values, where there is one of another row. -/
theorem exists_isArrayOf_nil {pf : Platform} {conv : ArrowConverter} {rows : List (List Value)}
    {field : Field × ℕ} {c : Column} (h : IsArrayOf pf conv rows field c) :
    ∃ d : Column, IsArrayOf pf conv [[]] field d ∧ d.dataType = c.dataType := by
  obtain ⟨t, ht, hc⟩ := h
  obtain hnone | ⟨u, cell, hnull, hcell⟩ := Builders.buildTypedArray_cases pf t
  · exact absurd hc (hnone _ c)
  · obtain ⟨cells, rfl, -⟩ := (hcell _ _).mp hc
    exact ⟨⟨u, [none]⟩, ⟨t, ht, (hcell _ _).mpr ⟨_, rfl, .cons hnull .nil⟩⟩, rfl⟩

/-- Two lists whose elements are treated alike, position by position. -/
theorem eachRow_congr {ε α β γ : Type} {f : ℕ → α → Exec ε γ} {g : ℕ → β → Exec ε γ}
    {xs : List α} {ys : List β} (hlen : xs.length = ys.length)
    (h : ∀ (i : ℕ) x y, xs[i]? = some x → ys[i]? = some y → f i x = g i y) :
    eachRow f xs = eachRow g ys := by
  have hmap : (xs.zipIdx.map fun p => f p.2 p.1) = ys.zipIdx.map fun p => g p.2 p.1 := by
    refine List.ext_getElem? fun i => ?_
    rw [List.getElem?_map, List.getElem?_map, List.getElem?_zipIdx, List.getElem?_zipIdx,
      Nat.zero_add]
    obtain hi | hi := lt_or_ge i xs.length
    · have hx := List.getElem?_eq_getElem hi
      have hy := List.getElem?_eq_getElem (hlen ▸ hi : i < ys.length)
      rw [hx, hy]
      exact congrArg some (h i _ _ hx hy)
    · rw [List.getElem?_eq_none hi, List.getElem?_eq_none (hlen ▸ hi)]
      rfl
  have hid {δ : Type} (l : List δ) (k : δ → Exec ε γ) : (l.map k).mapM id = l.mapM k := by
    rw [List.mapM_map]
    rfl
  unfold eachRow
  rw [← hid, ← hid ys.zipIdx, hmap]

section Batch

variable {pf : Platform} {conv : ArrowConverter}
  (hfields : conv.schema.fields.length = conv.columnTypes.length)
include hfields

/-- **The batch of columns that are those of some rows.** -/
theorem buildRecordBatch_eq_ok {columns rows : List (List Value)} {b : RecordBatch}
    (hcolumns : ∀ i < conv.columnTypes.length,
      columns[i]? = some (ResultSet.columnOf rows i)) :
    conv.buildRecordBatch pf columns = .ok b ↔
      BatchOf (IsArrayOf pf conv) conv.schema rows b := by
  let array (p : Field × ℕ) : Exec ConversionError Column :=
    conv.columnTypes[p.2]?.elim stop fun exasolType => columns[p.2]?.elim stop fun values =>
      Builders.buildArray pf exasolType values p.2 p.1.name
  unfold buildRecordBatch
  rw [eachRow_congr (g := fun index field => array (field, index)) hfields.symm
    fun i t field ht hfield => ?_]
  · refine tryNew_of_arrays (rowWise_isArrayOf pf conv) fun p c => ?_
    unfold IsArrayOf
    simp only [array]
    cases ht : conv.columnTypes[p.2]? with
    | none =>
      refine iff_of_false (fun h => by cases h) ?_
      rintro ⟨t, h, -⟩
      cases h
    | some t =>
      have hi : p.2 < conv.columnTypes.length := (List.getElem?_eq_some_iff.mp ht).1
      rw [hcolumns p.2 hi]
      constructor
      · intro h
        exact ⟨t, rfl, mapError_eq_ok.mp h⟩
      · rintro ⟨u, hu, h⟩
        obtain rfl := Option.some.inj hu
        exact mapError_eq_ok.mpr h
  · simp only [array, ht, hfield]
    cases columns[i]? <;> rfl

omit hfields in
/-- The columns of a batch have as many values as the batch has rows. -/
theorem length_of_buildRecordBatch {columns : List (List Value)} {b : RecordBatch}
    (h : conv.buildRecordBatch pf columns = .ok b) {i : ℕ} (hi : i < conv.columnTypes.length) :
    ∃ values, columns[i]? = some values ∧ values.length = b.numRows := by
  obtain ⟨arrays, harrays, hb⟩ := bind_eq_ok.mp h
  obtain ⟨-, hcolumns, -⟩ :=
    RecordBatch.tryNewWithOptions_eq_ok (ofExcept_eq_ok.mp (mapError_eq_ok.mp hb))
  obtain ⟨c, hc, hmade⟩ := getElem?_of_eachRow harrays (List.getElem?_eq_getElem hi)
  have hlen : c.length = b.numRows := b.lengths c (hcolumns ▸ List.mem_of_getElem? hc)
  cases hvalues : columns[i]? with
  | none =>
    rw [hvalues] at hmade
    cases hmade
  | some values =>
    refine ⟨values, rfl, ?_⟩
    rw [hvalues] at hmade
    cases hfield : conv.schema.fields[i]? with
    | none =>
      rw [hfield] at hmade
      cases hmade
    | some field =>
      rw [hfield] at hmade
      rw [← hlen, Builders.length_of_buildTypedArray (mapError_eq_ok.mp hmade)]

end Batch

/-! ### Rows that are too short -/

/-- A list in which as many elements meet a condition as a weaker one. -/
theorem forall_imp_of_countP_eq {α : Type} {p q : α → Bool} {l : List α}
    (hqp : ∀ a ∈ l, q a = true → p a = true) (h : l.countP p = l.countP q) :
    ∀ a ∈ l, p a = true → q a = true := by
  induction l with
  | nil => exact fun a ha => absurd ha List.not_mem_nil
  | cons x l ih =>
    have hmono : l.countP q ≤ l.countP p :=
      List.countP_mono_left fun a ha => hqp a (List.mem_cons_of_mem x ha)
    rw [List.countP_cons, List.countP_cons] at h
    have hx := hqp x List.mem_cons_self
    have heq : (p x = true → q x = true) ∧ l.countP p = l.countP q := by
      cases hp : p x <;> cases hq : q x <;> simp_all
      omega
    intro a ha
    obtain rfl | ha := List.mem_cons.mp ha
    · exact heq.1
    · exact ih (fun a ha => hqp a (List.mem_cons_of_mem x ha)) heq.2 a ha

/-- How many rows reach a column. -/
theorem length_filterMap_getElem? (rows : List (List Value)) (i : ℕ) :
    (rows.filterMap fun row => row[i]?).length = rows.countP fun row => decide (i < row.length) := by
  induction rows with
  | nil => rfl
  | cons row rows ih =>
    rw [List.countP_cons, List.filterMap_cons]
    obtain hi | hi := lt_or_ge i row.length
    · rw [List.getElem?_eq_getElem hi]
      simp [hi, ih]
    · rw [List.getElem?_eq_none hi]
      simp [hi, ih]

/-- Rows without values leave nothing in the columns. -/
theorem columnsOwned_filter (numColumns : ℕ) (rows : List (List Value)) :
    columnsOwned numColumns rows = columnsOwned numColumns (rows.filter fun row => !row.isEmpty) := by
  refine List.ext_getElem? fun i => ?_
  obtain hi | hi := lt_or_ge i numColumns
  · rw [getElem?_columnsOwned hi, getElem?_columnsOwned hi, List.filterMap_filter]
    refine congrArg (fun f => some (rows.filterMap f)) (funext fun row => ?_)
    cases row <;> rfl
  · rw [getElem?_columnsOwned_of_le hi, getElem?_columnsOwned_of_le hi]

/-- No row of the data is shorter than the first. -/
def NoShortRow : Messages.ResultPayload → Prop
  | .arrow _ => True
  | .json rows => ∀ first, rows.head? = some first → ∀ row ∈ rows, first.length ≤ row.length

/-- **Both fail, or both succeed with equal results.** -/
def SameOutcome {ε α : Type} (x y : Exec ε α) : Prop := ∀ a, x = .ok a ↔ y = .ok a

section Paths

variable {pf : Platform} {conv : ArrowConverter} {resultData : Messages.ResultData}

/-- The width of the first row is checked. -/
theorem checkRowWidth_eq_ok {first : List Value} {rows : List (List Value)} {u : Unit} :
    conv.checkRowWidth (first :: rows) = .ok u ↔ first.length = conv.columnTypes.length := by
  unfold checkRowWidth
  dsimp only
  split
  · rename_i h
    exact iff_of_false (fun hu => by cases hu) h
  · rename_i h
    exact iff_of_true rfl (not_not.mp h)

/-- What it means that the first entry succeeds on rows. -/
theorem convert_eq_ok {first : List Value} {rows : List (List Value)} {b : RecordBatch}
    (hdata : resultData.data = .json (first :: rows)) :
    conv.convertToRecordBatch pf resultData = .ok b ↔
      first.length = conv.columnTypes.length ∧ conv.buildRecordBatch pf
        ((List.range conv.columnTypes.length).map (ResultSet.columnOf (first :: rows))) = .ok b := by
  unfold convertToRecordBatch
  rw [hdata]
  dsimp only
  rw [if_neg (List.cons_ne_nil _ _), bind_eq_ok]
  simp only [checkRowWidth_eq_ok]
  exact ⟨fun ⟨_, h⟩ => h, fun h => ⟨(), h⟩⟩

/-- What it means that the second entry succeeds on rows. -/
theorem owned_eq_ok {first : List Value} {rows : List (List Value)} {b : RecordBatch}
    (hdata : resultData.data = .json (first :: rows)) :
    conv.convertToRecordBatchOwned pf resultData = .ok b ↔
      first.length = conv.columnTypes.length ∧ conv.buildRecordBatch pf
        (columnsOwned conv.columnTypes.length (first :: rows)) = .ok b := by
  unfold convertToRecordBatchOwned
  rw [hdata]
  dsimp only
  rw [if_neg (List.cons_ne_nil _ _), bind_eq_ok]
  simp only [checkRowWidth_eq_ok]
  exact ⟨fun ⟨_, h⟩ => h, fun h => ⟨(), h⟩⟩

/-- **While no row is shorter than the first, both entries do the same**, errors included. -/
theorem owned_eq_of_noShortRow (h : NoShortRow resultData.data) :
    conv.convertToRecordBatchOwned pf resultData = conv.convertToRecordBatch pf resultData := by
  unfold convertToRecordBatchOwned convertToRecordBatch
  cases hdata : resultData.data with
  | arrow batch => rfl
  | json rows =>
    rw [hdata] at h
    cases rows with
    | nil => rfl
    | cons first rows =>
      dsimp only
      rw [if_neg (List.cons_ne_nil _ _), if_neg (List.cons_ne_nil _ _)]
      cases hcheck : conv.checkRowWidth (first :: rows) with
      | error fault => rfl
      | ok u =>
        have hwidth := checkRowWidth_eq_ok.mp hcheck
        rw [columnsOwned_eq fun row hrow => hwidth ▸ h first rfl row hrow]

/-- **A row of the second entry's batch is empty or wide enough.** -/
theorem widths_of_owned {first : List Value} {rows : List (List Value)} {b : RecordBatch}
    (hdata : resultData.data = .json (first :: rows))
    (h : conv.convertToRecordBatchOwned pf resultData = .ok b) :
    ∀ row ∈ first :: rows, row ≠ [] → first.length ≤ row.length := by
  obtain ⟨hwidth, hbuild⟩ := (owned_eq_ok hdata).mp h
  intro row hrow hne
  cases hn : conv.columnTypes.length with
  | zero => omega
  | succ n =>
    have hcount (i : ℕ) (hi : i < conv.columnTypes.length) :
        (first :: rows).countP (fun row => decide (i < row.length)) = b.numRows := by
      obtain ⟨values, hvalues, hlen⟩ := length_of_buildRecordBatch hbuild hi
      rw [getElem?_columnsOwned hi] at hvalues
      obtain rfl := Option.some.inj hvalues
      rw [← hlen, length_filterMap_getElem?]
    -- As many rows reach the first column as the last.
    have hlast := forall_imp_of_countP_eq (p := fun row => decide (0 < row.length))
      (q := fun row => decide (n < row.length)) (fun a _ ha => by
        rw [decide_eq_true_eq] at ha ⊢
        omega) ((hcount 0 (by omega)).trans (hcount n (by omega)).symm) row hrow
    rw [decide_eq_true_eq, decide_eq_true_eq] at hlast
    have := hlast (List.length_pos_iff.mpr hne)
    omega

/-- **Where the first entry pads a row, the second gives no equal batch.** -/
theorem noShortRow_of_same {b : RecordBatch}
    (h : conv.convertToRecordBatch pf resultData = .ok b)
    (howned : conv.convertToRecordBatchOwned pf resultData = .ok b) :
    NoShortRow resultData.data := by
  cases hdata : resultData.data with
  | arrow batch => trivial
  | json rows =>
    cases rows with
    | nil => exact fun first hfirst => by cases hfirst
    | cons first rows =>
      intro head hhead row hrow
      obtain rfl := Option.some.inj hhead
      obtain ⟨hwidth, hbuild⟩ := (convert_eq_ok hdata).mp h
      obtain ⟨-, hbuild'⟩ := (owned_eq_ok hdata).mp howned
      by_contra hshort
      have hi : row.length < conv.columnTypes.length := by omega
      obtain ⟨values, hvalues, hlen⟩ := length_of_buildRecordBatch hbuild hi
      obtain ⟨values', hvalues', hlen'⟩ := length_of_buildRecordBatch hbuild' hi
      rw [List.getElem?_map, List.getElem?_range hi] at hvalues
      obtain rfl := Option.some.inj hvalues
      rw [getElem?_columnsOwned hi] at hvalues'
      obtain rfl := Option.some.inj hvalues'
      rw [length_filterMap_getElem?] at hlen'
      rw [ResultSet.columnOf, List.length_map] at hlen
      have hall := List.countP_eq_length.mp (hlen'.trans hlen.symm) row hrow
      rw [decide_eq_true_eq] at hall
      omega

variable {columns : List Messages.ColumnInfo} (hconv : ArrowConverter.new columns = .ok conv)
include hconv

/-- The fields of a converter that is made are as many as its types, and all of them may have
nulls. -/
theorem fields_of_new : conv.schema.fields.length = conv.columnTypes.length ∧
    ∀ field ∈ conv.schema.fields, field.nullable = true := by
  obtain ⟨metadata, hm, hconv⟩ := bind_eq_ok.mp hconv
  cases hconv
  refine ⟨by simp [SchemaBuilder.build], fun field hfield => ?_⟩
  obtain ⟨m, hmem, rfl⟩ := List.mem_map.mp hfield
  obtain ⟨i, hi, rfl⟩ := List.getElem_of_mem hmem
  have hmade := mapM_eq_ok.mp hm
  obtain ⟨t, -, hcol⟩ := bind_eq_ok.mp ((List.forall₂_iff_get.mp hmade).2 i
    (hmade.length_eq ▸ hi) hi)
  exact congrArg ColumnMetadata.nullable (Except.ok.inj hcol).symm

/-- **What the second entry accepts the first does**, with nulls for the rows without values. -/
theorem exists_convert_of_owned {b : RecordBatch}
    (h : conv.convertToRecordBatchOwned pf resultData = .ok b) :
    ∃ b', conv.convertToRecordBatch pf resultData = .ok b' := by
  cases hdata : resultData.data with
  | arrow batch =>
    refine ⟨batch, ?_⟩
    unfold convertToRecordBatch
    rw [hdata]
  | json rows =>
    cases rows with
    | nil =>
      refine ⟨RecordBatch.newEmpty conv.schema, ?_⟩
      unfold convertToRecordBatch
      rw [hdata]
      rfl
    | cons first rows =>
      obtain ⟨hlen, hnullable⟩ := fields_of_new hconv
      obtain ⟨hwidth, hbuild⟩ := (owned_eq_ok hdata).mp h
      by_cases hzero : conv.columnTypes.length = 0
      · refine ⟨b, ?_⟩
        rw [← owned_eq_of_noShortRow, h]
        rw [hdata]
        intro head hhead row _
        obtain rfl := Option.some.inj hhead
        omega
      -- The second entry builds the batch of the rows that have a value.
      have hwidths : ∀ row ∈ (first :: rows).filter fun row => !row.isEmpty,
          conv.columnTypes.length ≤ row.length := by
        intro row hrow
        obtain ⟨hmem, hne⟩ := List.mem_filter.mp hrow
        rw [← hwidth]
        refine widths_of_owned hdata h row hmem ?_
        rintro rfl
        cases hne
      have hfirst : first ∈ (first :: rows).filter fun row => !row.isEmpty := by
        refine List.mem_filter.mpr ⟨List.mem_cons_self, ?_⟩
        cases first with
        | nil => exact absurd hwidth.symm hzero
        | cons value values => rfl
      rw [columnsOwned_filter, columnsOwned_eq hwidths, @buildRecordBatch_eq_ok pf conv hlen _
        ((first :: rows).filter fun row => !row.isEmpty) b
        fun i hi => by rw [List.getElem?_map, List.getElem?_range hi, Option.map_some]] at hbuild
      have hR := rowWise_isArrayOf pf conv
      have hkept := (exists_batchOf_iff hR (List.ne_nil_of_mem hfirst)).mp ⟨b, hbuild⟩
      -- A row without values has a batch of nulls.
      have hnil : ∃ b, BatchOf (IsArrayOf pf conv) conv.schema [[]] b := by
        obtain ⟨hne, hall⟩ := (exists_batchOf hR).mp ⟨b, hbuild⟩
        refine (exists_batchOf hR).mpr ⟨hne, fun field hfield => ?_⟩
        obtain ⟨c, hc, hadmits⟩ := hall field hfield
        obtain ⟨d, hd, htype⟩ := exists_isArrayOf_nil hc
        refine ⟨d, hd, htype.trans hadmits.1, fun hnot => ?_⟩
        rw [hnullable field.1 (List.fst_mem_of_mem_zipIdx hfield)] at hnot
        cases hnot
      obtain ⟨b', hb'⟩ := (exists_batchOf_iff hR (List.cons_ne_nil first rows)).mpr
        fun row hrow => by
          cases row with
          | nil => exact hnil
          | cons value values => exact hkept _ (List.mem_filter.mpr ⟨hrow, rfl⟩)
      refine ⟨b', (convert_eq_ok hdata).mpr ⟨hwidth, (buildRecordBatch_eq_ok hlen
        fun i hi => ?_).mpr hb'⟩⟩
      rw [List.getElem?_map, List.getElem?_range hi, Option.map_some]

/-- **The two entries of the converter.** While no row is shorter than the first, they do the same,
errors included. They have the same outcome, that is, both fail or both give equal batches, exactly
when no row is shorter than the first or the first entry fails, which pads a shorter row with
nulls; and the second entry fails on data with a shorter row that has a value. -/
theorem owned_spec (pf : Platform) (resultData : Messages.ResultData) :
    (SameOutcome (conv.convertToRecordBatch pf resultData)
        (conv.convertToRecordBatchOwned pf resultData) ↔
      NoShortRow resultData.data ∨ ∀ b, conv.convertToRecordBatch pf resultData ≠ .ok b) ∧
    (NoShortRow resultData.data →
      conv.convertToRecordBatchOwned pf resultData = conv.convertToRecordBatch pf resultData) ∧
    ∀ (first : List Value) rows, resultData.data = .json (first :: rows) → ∀ row ∈ rows,
      row.length < first.length → row ≠ [] →
        ∀ b, conv.convertToRecordBatchOwned pf resultData ≠ .ok b := by
  refine ⟨⟨fun hsame => ?_, ?_⟩, owned_eq_of_noShortRow, ?_⟩
  · by_cases hfail : ∀ b, conv.convertToRecordBatch pf resultData ≠ .ok b
    · exact .inr hfail
    · obtain ⟨b, hb⟩ := not_forall_not.mp hfail
      exact .inl (noShortRow_of_same hb ((hsame b).mp hb))
  · rintro (hshort | hfail) b
    · rw [owned_eq_of_noShortRow hshort]
    · refine iff_of_false (hfail b) fun howned => ?_
      obtain ⟨b', hb'⟩ := exists_convert_of_owned hconv howned
      exact hfail b' hb'
  · intro first rows hdata row hrow hshort hne b howned
    have := widths_of_owned hdata howned row (List.mem_cons_of_mem _ hrow) hne
    omega

end Paths

/-! ### Two columns, and a row with one value -/

/-- A result with two columns of truth values. -/
def flagColumns : List Messages.ColumnInfo :=
  [⟨"A", { typeName := "BOOLEAN" }⟩, ⟨"B", { typeName := "BOOLEAN" }⟩]

/-- The converter of that result. -/
def flagConverter : ArrowConverter where
  schema := SchemaBuilder.build [⟨"A", .boolean, true⟩, ⟨"B", .boolean, true⟩]
  columnTypes := [.boolean, .boolean]

/-- The data of that result. -/
def flagData (rows : List (List Value)) : Messages.ResultData :=
  ⟨flagColumns, .json rows, Machine.SInt.wrap 64 Machine.SInt.pos_64 rows.length⟩

/-- **A second row with one value** is padded by the first entry and refused by the second. -/
theorem owned_differs : ArrowConverter.new flagColumns = .ok flagConverter ∧
    ¬SameOutcome
      (flagConverter.convertToRecordBatch checkedPlatform
        (flagData [[.bool true, .bool true], [.bool true]]))
      (flagConverter.convertToRecordBatchOwned checkedPlatform
        (flagData [[.bool true, .bool true], [.bool true]])) := by
  refine ⟨rfl, fun h => ?_⟩
  have hpadded : ∃ b, flagConverter.convertToRecordBatch checkedPlatform
      (flagData [[.bool true, .bool true], [.bool true]]) = .ok b := ⟨_, rfl⟩
  obtain ⟨b, hb⟩ := hpadded
  have howned := (h b).mp hb
  cases howned

/-- Two rows with a value for each column. -/
theorem owned_spec_flags : ArrowConverter.new flagColumns = .ok flagConverter ∧
    flagConverter.convertToRecordBatchOwned checkedPlatform
        (flagData [[.bool true, .bool true], [.bool false, .null]]) =
      flagConverter.convertToRecordBatch checkedPlatform
        (flagData [[.bool true, .bool true], [.bool false, .null]]) :=
  ⟨rfl, (@owned_spec flagConverter flagColumns rfl checkedPlatform _).2.1
    fun first hfirst row hrow => by
      obtain rfl := Option.some.inj hfirst
      obtain rfl | hrow := List.mem_cons.mp hrow
      · exact le_rfl
      · obtain rfl := List.mem_singleton.mp hrow
        exact le_rfl⟩

/-! ### Data that was read from columns -/

/-- **Rows that were read from columns are all of one width**, so that both entries do the same. -/
theorem owned_eq_of_toRowMajor {pf : Platform} {conv : ArrowConverter} {data : Value}
    {rows : List (List Value)} (h : RowMajor.toRowMajor data = .ok rows)
    (columns : List Messages.ColumnInfo) (totalRows : Machine.SInt 64) :
    conv.convertToRecordBatchOwned pf ⟨columns, .json rows, totalRows⟩ =
      conv.convertToRecordBatch pf ⟨columns, .json rows, totalRows⟩ := by
  obtain ⟨read, -, rfl⟩ := RowMajor.exists_columns_of_toRowMajor h
  refine owned_eq_of_noShortRow fun first hfirst row hrow => ?_
  have hwidths := (RowMajor.rowsOf_transpose read).widths
  rw [hwidths first (List.mem_of_mem_head? hfirst), hwidths row hrow]

end ArrowConverter

end Exarrow
