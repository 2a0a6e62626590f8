import Exarrow.Ffi.SystemViews
import Exarrow.Types
import Mathlib.Data.List.Sort

/-!
# The schema of a table

The columns of a table are looked up in a system view, by the name of the table and, if it is told,
by its schema, and in the order of their positions (`Exarrow.Ffi.tableSchemaQuery`). What the
database makes of the query is said by its tokens (`Exarrow.Ffi.ColumnsQuery`): the columns of all
tables that it names, where columns of one position come in any order.

**Without a schema the columns of several tables are mixed**: what is returned belongs to one table,
or is an error, exactly if no two tables of the name have columns, or the lookup fails
(`Exarrow.Ffi.oneTable_iff`).
-/

namespace Exarrow.Ffi

open Machine Checked Arrow Lexing Query

/-! ### The lookup -/

/-- The condition on the schema, if it is told. -/
def schemaCondition (dbSchema : Option (List Char)) : List Char :=
  match dbSchema with
  | some schema => " AND COLUMN_SCHEMA = '".toList ++ escapeQuotes schema ++ ['\'']
  | none => []

/-- The query up to the name of the table, which a quote opens. -/
def selectColumns : List Char :=
  "SELECT COLUMN_NAME, COLUMN_TYPE, COLUMN_MAXSIZE, COLUMN_NUM_PREC, ".toList ++
    "COLUMN_NUM_SCALE, COLUMN_IS_NULLABLE FROM SYS.EXA_ALL_COLUMNS WHERE COLUMN_TABLE = '".toList

/-- The order of the columns. -/
def orderByPosition : List Char := " ORDER BY COLUMN_ORDINAL_POSITION".toList

/-- The query for the columns of a table. -/
def tableSchemaQuery (dbSchema : Option (List Char)) (tableName : List Char) : List Char :=
  selectColumns ++ escapeQuotes tableName ++ ['\''] ++ schemaCondition dbSchema ++ orderByPosition

/-- The field of a row. -/
def tableSchemaField (names types : List (Option String)) (nullableFlags : Column) (row : ℕ) :
    Exec AdbcError Field := do
  let nullable := getNullableValue nullableFlags row
  let typeStr ← textAt types row
  let exasolType ← parseExasolTypeString typeStr
  let name ← textAt names row
  return { name, dataType := TypeMapper.exasolToArrow exasolType, nullable }

/-- The fields of a batch. -/
def tableSchemaBatch (batch : RecordBatch) : Exec AdbcError (List Field) := do
  let names ← stringColumn batch 0 "COLUMN_NAME"
  let types ← stringColumn batch 1 "COLUMN_TYPE"
  let nullableFlags ← columnAt batch 5
  (List.range batch.numRows).mapM (tableSchemaField names types nullableFlags)

/-- **The fields of the batches.** -/
def tableSchemaFieldsFrom (batches : List RecordBatch) : Exec AdbcError (List Field) := do
  let fields ← batches.mapM tableSchemaBatch
  return fields.flatten

/-- **The schema of a table.** -/
def getTableSchema (inner : Option RunsQuery) (dbSchema : Option (List Char))
    (tableName : List Char) : Exec AdbcError Schema := do
  let conn ← requireConnection inner
  let batches ← queryBatches conn (tableSchemaQuery dbSchema tableName)
  let fields ← tableSchemaFieldsFrom batches
  if fields.isEmpty then
    fail ⟨.text s!"Table '{String.ofList tableName}' not found", .notFound⟩
  else return { fields }

/-! ### The database -/

/-- A column of a table; the name of its type has no parentheses that are
crossed. -/
structure CatalogColumn where
  name : String
  typeName : String
  nullable : Option Bool
  uncrossed : parseExasolTypeString typeName ≠ stop

/-- A table, with its columns in the order of their positions. -/
structure CatalogTable where
  schema : List Char
  name : List Char
  columns : List CatalogColumn

/-- The tables of a database: a schema has no two of one name. -/
structure Catalog where
  tables : List CatalogTable
  apart : tables.Pairwise fun a b => ¬(a.schema = b.schema ∧ a.name = b.name)

/-- A query for the columns of the tables of a name. -/
structure ColumnsQuery where
  schema : Option (List Char)
  table : List Char

/-- The tokens of the condition on the schema. -/
def schemaTokens (schema : Option (List Char)) : List Token :=
  match schema with
  | some schema => keyword "AND" :: optionTokens ["COLUMN_SCHEMA"] schema
  | none => []

/-- The tokens up to the name of the table. -/
def selectTokens : List Token :=
  keyword "SELECT" :: [Token.symbol ','].intercalate (["COLUMN_NAME", "COLUMN_TYPE",
    "COLUMN_MAXSIZE", "COLUMN_NUM_PREC", "COLUMN_NUM_SCALE", "COLUMN_IS_NULLABLE"].map fun name =>
      [keyword name]) ++
    [keyword "FROM", keyword "SYS", .symbol '.', keyword "EXA_ALL_COLUMNS", keyword "WHERE",
      keyword "COLUMN_TABLE", .symbol '=']

/-- **The tokens of a query.** -/
def ColumnsQuery.tokens (q : ColumnsQuery) : List Token :=
  selectTokens ++ [.string q.table] ++
    (schemaTokens q.schema ++ ["ORDER", "BY", "COLUMN_ORDINAL_POSITION"].map keyword)

/-- The tables that a query names. -/
def ColumnsQuery.Names (q : ColumnsQuery) (t : CatalogTable) : Prop :=
  t.name = q.table ∧ (q.schema = none ∨ q.schema = some t.schema)

instance (q : ColumnsQuery) : DecidablePred q.Names := fun _ => inferInstanceAs (Decidable (_ ∧ _))

/-- The rows of a query: the columns of the tables that it names, with their
positions. -/
def ColumnsQuery.rows (q : ColumnsQuery) (catalog : Catalog) : List (CatalogColumn × ℕ) :=
  (catalog.tables.filter q.Names).flatMap fun t => t.columns.zipIdx 1

/-- A batch that lists columns. -/
structure ListsColumns (batch : RecordBatch) (rows : List (CatalogColumn × ℕ)) : Prop where
  numRows : batch.numRows = rows.length
  names : HoldsTexts batch 0 (fun row => some row.1.name) rows
  types : HoldsTexts batch 1 (fun row => some row.1.typeName) rows
  flags : batch.columns[5]? = some ⟨.boolean, rows.map fun row => row.1.nullable⟩

/-- **A database** answers with the rows of a query, sorted by their positions. -/
structure ViewServer where
  query : Catalog → RunsQuery
  answers : ∀ catalog sql (q : ColumnsQuery) batches, lex sql = some q.tokens →
    query catalog sql = .ok batches →
      ∃ rows, rows.Perm (q.rows catalog) ∧ rows.Pairwise (fun a b => a.2 ≤ b.2) ∧
        Lists ListsColumns batches rows

/-! ### What is meant -/

/-- The field that stands for a column. -/
def catalogField (column : CatalogColumn) : Exec AdbcError Field := do
  let exasolType ← parseExasolTypeString column.typeName
  return { name := column.name
           dataType := TypeMapper.exasolToArrow exasolType
           nullable := column.nullable.getD true }

/-- **A result is about one table**, with all of its columns in order, or it is an
error. -/
inductive OneTable (catalog : Catalog) (q : ColumnsQuery) : Exec AdbcError Schema → Prop
  | listed {table : CatalogTable} {fields : List Field} (hmem : table ∈ catalog.tables)
      (hnames : q.Names table) (hfields : table.columns.mapM catalogField = .ok fields) :
      OneTable catalog q (.ok { fields })
  | failed (e : AdbcError) : OneTable catalog q (fail e)

/-- No two tables that a query names have columns. -/
def Unambiguous (catalog : Catalog) (q : ColumnsQuery) : Prop :=
  ∀ a ∈ catalog.tables, ∀ b ∈ catalog.tables, q.Names a → q.Names b → a.columns ≠ [] →
    b.columns ≠ [] → a = b

/-- The query fails, or some column that it finds has a type that is not known. -/
def LookupFails (server : ViewServer) (catalog : Catalog) (q : ColumnsQuery) : Prop :=
  (∃ e, server.query catalog (tableSchemaQuery q.schema q.table) = .error e) ∨
    ∃ table ∈ catalog.tables, q.Names table ∧ ∃ column ∈ table.columns,
      ∃ e, parseExasolTypeString column.typeName = fail e

/-! ### The tokens of the query -/

/-- The condition on the schema is one literal. -/
theorem clause_schemaCondition (schema : Option (List Char)) :
    Clause (schemaCondition schema) (schemaTokens schema) := by
  cases schema with
  | none => exact clause_nil
  | some schema =>
    have hopen : " AND COLUMN_SCHEMA = '".toList = " AND COLUMN_SCHEMA = ".toList ++ ['\''] := by
      decide +kernel
    have htext : schemaCondition (some schema) =
        " AND COLUMN_SCHEMA = ".toList ++ quote schema := by
      unfold schemaCondition
      rw [hopen, quote_eq]
      simp only [List.append_assoc, List.cons_append, List.nil_append]
    rw [htext]
    exact @Clause.after _ _ [keyword "AND", keyword "COLUMN_SCHEMA", .symbol '='] _
      (by decide +kernel) (clause_quote schema)

/-- The order is read as it is written, behind anything that a blank ends. -/
theorem clause_orderByPosition :
    Clause orderByPosition (["ORDER", "BY", "COLUMN_ORDINAL_POSITION"].map keyword) ∧
      Spaced orderByPosition := by
  refine ⟨⟨.word "COLUMN_ORDINAL_POSITION".toList,
    ⟨["ORDER", "BY"].map keyword, by decide +kernel, rfl⟩, closed_word _⟩, ?_⟩
  have h := @spaced_append orderByPosition (by decide +kernel) []
  rwa [List.append_nil] at h

theorem spaced_schemaCondition (schema : Option (List Char)) :
    Spaced (schemaCondition schema ++ orderByPosition) := by
  cases schema with
  | none => exact clause_orderByPosition.2
  | some schema =>
    unfold schemaCondition
    simp only [List.append_assoc]
    exact spaced_append (by decide +kernel) _

/-- **The query asks for the columns of the table**, whatever its name is. -/
theorem lex_tableSchemaQuery (q : ColumnsQuery) :
    lex (tableSchemaQuery q.schema q.table) = some q.tokens := by
  -- The characters of the literals are written out, so that they need not be decoded.
  obtain ⟨columns, hcolumns, hlast, hrun⟩ : ∃ columns, selectColumns = columns ∧
      columns = columns.dropLast ++ ['\''] ∧
        run .between columns.dropLast = (selectTokens, .between) :=
    ⟨_, congrArg₂ (· ++ ·) String.toList_ofList String.toList_ofList, by decide +kernel,
      by decide +kernel⟩
  have hopened := hcolumns.trans hlast
  generalize columns.dropLast = opened at hrun hopened
  have hselect : Clause (opened ++ quote q.table) (selectTokens ++ [.string q.table]) :=
    Clause.after hrun (clause_quote q.table)
  have hclause := hselect.append ((clause_schemaCondition q.schema).append
    clause_orderByPosition.1 clause_orderByPosition.2) (spaced_schemaCondition q.schema)
  have htext : tableSchemaQuery q.schema q.table =
      opened ++ quote q.table ++ (schemaCondition q.schema ++ orderByPosition) := by
    unfold tableSchemaQuery
    rw [hopened, quote_eq]
    simp only [List.append_assoc, List.cons_append, List.nil_append]
  rw [htext]
  exact hclause.lex_eq

/-! ### The result -/

/-- A batch gives the fields of the columns that it lists. -/
theorem tableSchemaBatch_eq {batch : RecordBatch} {rows : List (CatalogColumn × ℕ)}
    (h : ListsColumns batch rows) :
    tableSchemaBatch batch = rows.mapM fun row => catalogField row.1 := by
  have hflags : columnAt batch 5 = .ok ⟨.boolean, rows.map fun row => row.1.nullable⟩ := by
    rw [columnAt, h.flags]
  rw [tableSchemaBatch, stringColumn_eq h.names, ok_bind, stringColumn_eq h.types, ok_bind, hflags,
    ok_bind, h.numRows]
  refine mapM_range fun i row hrow => ?_
  have hnullable : getNullableValue ⟨.boolean, rows.map fun row => row.1.nullable⟩ i =
      row.1.nullable.getD true := by
    change (cellAt (rows.map fun row => row.1.nullable) i).getD true = _
    rw [cellAt_eq hrow]
  rw [tableSchemaField, hnullable, textAt_eq hrow, ok_bind, textAt_eq hrow, catalogField]
  rfl

/-- **The fields are those of the rows.** -/
theorem tableSchemaFieldsFrom_eq {batches : List RecordBatch} {rows : List (CatalogColumn × ℕ)}
    (h : Lists ListsColumns batches rows) :
    tableSchemaFieldsFrom batches = rows.mapM fun row => catalogField row.1 :=
  mapM_lists (fun _ _ hbatch => tableSchemaBatch_eq hbatch) h

/-- The field of a column is an error if its type is not known; the program does
not stop. -/
theorem catalogField_cases (column : CatalogColumn) :
    (∃ field, catalogField column = .ok field) ∨
      ∃ e, parseExasolTypeString column.typeName = fail e ∧ catalogField column = fail e := by
  have huncrossed := column.uncrossed
  unfold catalogField
  rcases hparse : parseExasolTypeString column.typeName with (e | _) | t
  · exact .inr ⟨e, rfl, rfl⟩
  · exact absurd hparse huncrossed
  · exact .inl ⟨_, rfl⟩

/-- So are the fields of columns. -/
theorem catalogFields_cases (rows : List (CatalogColumn × ℕ)) :
    (∃ fields, (rows.mapM fun row => catalogField row.1) = .ok fields ∧
      fields.length = rows.length) ∨
    ∃ row ∈ rows, ∃ e, parseExasolTypeString row.1.typeName = fail e ∧
      (rows.mapM fun row => catalogField row.1) = fail e := by
  rcases hfields : (rows.mapM fun row => catalogField row.1) with e | fields
  · obtain ⟨before, row, after, hrows, -, hrow⟩ := mapM_eq_error.mp hfields
    rcases catalogField_cases row.1 with ⟨field, hok⟩ | ⟨e', hparse, he'⟩
    · rw [hok] at hrow
      cases hrow
    · rw [he'] at hrow
      obtain rfl := Except.error.inj hrow
      exact .inr ⟨row, by rw [hrows]; simp, e', hparse, hfields⟩
  · exact .inl ⟨fields, hfields, (mapM_eq_ok.mp hfields).length_eq.symm⟩

section Rows

variable {catalog : Catalog} {q : ColumnsQuery}

theorem mem_rows {row : CatalogColumn × ℕ} : row ∈ q.rows catalog ↔
    ∃ table ∈ catalog.tables, q.Names table ∧ row ∈ table.columns.zipIdx 1 := by
  rw [ColumnsQuery.rows, List.mem_flatMap]
  constructor
  · rintro ⟨table, htable, hrow⟩
    obtain ⟨hmem, hnames⟩ := List.mem_filter.mp htable
    exact ⟨table, hmem, of_decide_eq_true hnames, hrow⟩
  · rintro ⟨table, hmem, hnames, hrow⟩
    exact ⟨table, List.mem_filter.mpr ⟨hmem, decide_eq_true hnames⟩, hrow⟩

/-- No table is listed twice. -/
theorem nodup_tables : (catalog.tables.filter q.Names).Nodup := by
  refine (catalog.apart.imp fun {a b} hab => ?_).filter _
  rintro rfl
  exact hab ⟨rfl, rfl⟩

/-- Among the tables that a query names, each has its place. -/
theorem exists_split {table : CatalogTable} (hmem : table ∈ catalog.tables)
    (hnames : q.Names table) :
    ∃ before after, catalog.tables.filter q.Names = before ++ table :: after ∧
      table ∉ before ++ after := by
  have hfiltered : table ∈ catalog.tables.filter q.Names :=
    List.mem_filter.mpr ⟨hmem, decide_eq_true hnames⟩
  obtain ⟨before, after, hsplit⟩ := List.append_of_mem hfiltered
  refine ⟨before, after, hsplit, ?_⟩
  have hnodup := @nodup_tables catalog q
  rw [hsplit] at hnodup
  exact (List.nodup_middle.mp hnodup).notMem

/-- **The rows of a query that is not ambiguous are those of one table**, unless
there are none. -/
theorem rows_of_unambiguous (h : Unambiguous catalog q) (hne : q.rows catalog ≠ []) :
    ∃ table ∈ catalog.tables, q.Names table ∧ q.rows catalog = table.columns.zipIdx 1 := by
  obtain ⟨row, hrow⟩ := List.exists_mem_of_ne_nil _ hne
  obtain ⟨table, hmem, hnames, hin⟩ := mem_rows.mp hrow
  have hcolumns : table.columns ≠ [] := by
    intro hnil
    rw [hnil] at hin
    cases hin
  refine ⟨table, hmem, hnames, ?_⟩
  obtain ⟨before, after, hsplit, hnot⟩ := exists_split hmem hnames
  -- the other tables of the name have no columns
  have hother : ∀ other ∈ before ++ after, other.columns.zipIdx 1 = [] := by
    intro other hother
    have hfiltered : other ∈ catalog.tables.filter q.Names := by
      rw [hsplit, List.mem_append, List.mem_cons]
      exact (List.mem_append.mp hother).imp_right Or.inr
    obtain ⟨hmem', hnames'⟩ := List.mem_filter.mp hfiltered
    by_contra hothers
    have hothers' : other.columns ≠ [] := by
      intro hnil
      rw [hnil] at hothers
      exact hothers rfl
    have heq := h other hmem' table hmem (of_decide_eq_true hnames') hnames hothers' hcolumns
    exact hnot (heq ▸ hother)
  obtain ⟨hbefore, hafter⟩ := List.forall_mem_append.mp hother
  rw [ColumnsQuery.rows, hsplit, List.flatMap_append, List.flatMap_cons,
    List.flatMap_eq_nil_iff.mpr hbefore, List.flatMap_eq_nil_iff.mpr hafter, List.append_nil,
    List.nil_append]

/-- **Rows that are as many as the columns of one table** are all of this table. -/
theorem unambiguous_of_length {table : CatalogTable} (hmem : table ∈ catalog.tables)
    (hnames : q.Names table) (hlength : (q.rows catalog).length = table.columns.length) :
    Unambiguous catalog q := by
  obtain ⟨before, after, hsplit, -⟩ := exists_split hmem hnames
  have hothers : (before ++ after).flatMap (fun t => t.columns.zipIdx 1) = [] := by
    rw [ColumnsQuery.rows, hsplit, List.flatMap_append, List.flatMap_cons, List.length_append,
      List.length_append, List.length_zipIdx] at hlength
    rw [List.flatMap_append, ← List.length_eq_zero_iff, List.length_append]
    omega
  have honly : ∀ other ∈ catalog.tables, q.Names other → other.columns ≠ [] → other = table := by
    intro other hother hnames' hcolumns
    have hfiltered : other ∈ catalog.tables.filter q.Names :=
      List.mem_filter.mpr ⟨hother, decide_eq_true hnames'⟩
    rw [hsplit, List.mem_append, List.mem_cons] at hfiltered
    by_contra hne
    have hin : other ∈ before ++ after := by
      rw [List.mem_append]
      exact hfiltered.imp_right fun h => h.resolve_left hne
    have hnil := List.flatMap_eq_nil_iff.mp hothers other hin
    rw [← List.length_eq_zero_iff, List.length_zipIdx] at hnil
    exact hcolumns (List.length_eq_zero_iff.mp hnil)
  intro a ha b hb hnamesA hnamesB hcolumnsA hcolumnsB
  rw [honly a ha hnamesA hcolumnsA, honly b hb hnamesB hcolumnsB]

/-- Sorted rows of one table are its columns in order. -/
theorem eq_zipIdx_of_perm {columns : List CatalogColumn} {rows : List (CatalogColumn × ℕ)}
    (hperm : rows.Perm (columns.zipIdx 1)) (hsorted : rows.Pairwise fun a b => a.2 ≤ b.2) :
    rows = columns.zipIdx 1 := by
  have hstrict (n : ℕ) : (columns.zipIdx n).Pairwise fun a b => a.2 ≤ b.2 := by
    clear hperm
    induction columns generalizing n with
    | nil => exact .nil
    | cons column columns ih =>
      refine .cons (fun row hrow => ?_) (ih (n + 1))
      exact (Nat.le_succ n).trans (List.le_snd_of_mem_zipIdx hrow)
  refine hperm.eq_of_pairwise (fun a b ha hb hab hba => ?_) hsorted (hstrict 1)
  obtain ⟨a, i⟩ := a
  obtain ⟨b, j⟩ := b
  obtain rfl : i = j := le_antisymm hab hba
  have ha := (List.mk_mem_zipIdx_iff_le_and_getElem?_sub.mp (hperm.mem_iff.mp ha)).2
  have hb := (List.mk_mem_zipIdx_iff_le_and_getElem?_sub.mp hb).2
  rw [ha] at hb
  rw [Option.some.inj hb]

end Rows

/-- The lookup, given the rows that are listed. -/
theorem getTableSchema_of_lists {conn : RunsQuery} {q : ColumnsQuery} {batches : List RecordBatch}
    {rows : List (CatalogColumn × ℕ)}
    (hquery : conn (tableSchemaQuery q.schema q.table) = .ok batches)
    (hlists : Lists ListsColumns batches rows) :
    getTableSchema (some conn) q.schema q.table =
      (rows.mapM (fun row => catalogField row.1) >>= fun fields =>
        if fields.isEmpty then
          fail ⟨.text s!"Table '{String.ofList q.table}' not found", .notFound⟩
        else .ok { fields }) := by
  have hbatches : queryBatches conn (tableSchemaQuery q.schema q.table) = .ok batches := by
    rw [queryBatches, hquery]
  rw [getTableSchema, requireConnection, orFail_some, ok_bind, hbatches, ok_bind,
    tableSchemaFieldsFrom_eq hlists]
  rfl

/-- A result with fields is about one table exactly if the query is not ambiguous. -/
theorem oneTable_ok_iff {catalog : Catalog} {q : ColumnsQuery} {rows : List (CatalogColumn × ℕ)}
    {fields : List Field} (hperm : rows.Perm (q.rows catalog))
    (hsorted : rows.Pairwise fun a b => a.2 ≤ b.2) (hne : fields ≠ [])
    (hfields : (rows.mapM fun row => catalogField row.1) = .ok fields) :
    OneTable catalog q (.ok { fields }) ↔ Unambiguous catalog q := by
  have hlength : rows.length = fields.length := (mapM_eq_ok.mp hfields).length_eq
  constructor
  · intro h
    cases h with
    | listed hmem hnames htable =>
      refine unambiguous_of_length hmem hnames ?_
      rw [← hperm.length_eq, hlength, ← (mapM_eq_ok.mp htable).length_eq]
  · intro h
    have hrows : q.rows catalog ≠ [] := by
      intro hnil
      rw [hnil] at hperm
      rw [hperm.eq_nil] at hlength
      exact hne (List.length_eq_zero_iff.mp hlength.symm)
    obtain ⟨table, hmem, hnames, htable⟩ := rows_of_unambiguous h hrows
    rw [htable] at hperm
    rw [eq_zipIdx_of_perm hperm hsorted] at hfields
    refine .listed hmem hnames (Eq.trans ?_ hfields)
    conv_lhs => rw [← List.zipIdx_map_fst 1 table.columns, List.mapM_map]
    rfl

/-- A lookup that finds fields does not fail. -/
theorem not_lookupFails {server : ViewServer} {catalog : Catalog} {q : ColumnsQuery}
    {batches : List RecordBatch} {rows : List (CatalogColumn × ℕ)} {fields : List Field}
    (hquery : server.query catalog (tableSchemaQuery q.schema q.table) = .ok batches)
    (hperm : rows.Perm (q.rows catalog))
    (hfields : (rows.mapM fun row => catalogField row.1) = .ok fields) :
    ¬LookupFails server catalog q := by
  rintro (⟨e, he⟩ | ⟨table, hmem, hnames, column, hcolumn, e, hparse⟩)
  · rw [hquery] at he
    cases he
  · obtain ⟨i, hi, rfl⟩ := List.getElem_of_mem hcolumn
    have hin : (table.columns[i], 1 + i) ∈ rows :=
      hperm.mem_iff.mpr (mem_rows.mpr ⟨table, hmem, hnames,
        List.mk_add_mem_zipIdx_iff_getElem?.mpr (List.getElem?_eq_getElem hi)⟩)
    obtain ⟨j, hj, hrow⟩ := List.getElem_of_mem hin
    have hall := mapM_eq_ok.mp hfields
    have hread := (List.forall₂_iff_get.mp hall).2 j hj (hall.length_eq ▸ hj)
    rw [List.get_eq_getElem, hrow] at hread
    dsimp only at hread
    rw [catalogField, hparse] at hread
    cases hread

/-- **The schema of a table is that of one table, or an error, exactly if no two
tables of the name have columns, or the lookup fails.** -/
theorem oneTable_iff (server : ViewServer) (catalog : Catalog) (q : ColumnsQuery) :
    OneTable catalog q (getTableSchema (some (server.query catalog)) q.schema q.table) ↔
      Unambiguous catalog q ∨ LookupFails server catalog q := by
  rcases hquery : server.query catalog (tableSchemaQuery q.schema q.table) with e | batches
  · -- the database does not answer
    have hfail : getTableSchema (some (server.query catalog)) q.schema q.table =
        fail (toAdbcError e) := by
      rw [getTableSchema, requireConnection, orFail_some, ok_bind, queryBatches, hquery]
      rfl
    rw [hfail]
    exact iff_of_true (.failed _) (.inr (.inl ⟨e, hquery⟩))
  obtain ⟨rows, hperm, hsorted, hlists⟩ :=
    server.answers _ _ q batches (lex_tableSchemaQuery q) hquery
  have hlookup := getTableSchema_of_lists hquery hlists
  rcases catalogFields_cases rows with ⟨fields, hfields, hlength⟩ | ⟨row, hrow, e, hparse, hfields⟩
  · rw [hlookup, hfields, ok_bind]
    cases fields with
    | nil =>
      -- no table of the name has columns
      refine iff_of_true (.failed _) (.inl fun a ha b _ hnames _ hcolumns _ => ?_)
      obtain ⟨i, hi⟩ := List.exists_mem_of_ne_nil (a.columns.zipIdx 1)
        (fun hnil => hcolumns (List.zipIdx_eq_nil_iff.mp hnil))
      have hin := hperm.mem_iff.mpr (mem_rows.mpr ⟨a, ha, hnames, hi⟩)
      rw [List.length_eq_zero_iff.mp hlength.symm] at hin
      cases hin
    | cons field fields =>
      have hiff := oneTable_ok_iff hperm hsorted (List.cons_ne_nil field fields) hfields
      exact hiff.trans (or_iff_left (not_lookupFails hquery hperm hfields)).symm
  · -- a type is not known
    obtain ⟨table, hmem, hnames, hin⟩ := mem_rows.mp (hperm.mem_iff.mp hrow)
    rw [hlookup, hfields, fail_bind]
    exact iff_of_true (.failed e) (.inr (.inr ⟨table, hmem, hnames, row.1,
      List.fst_mem_of_mem_zipIdx hin, e, hparse⟩))

/-! ### A database -/

/-- The query of tokens. -/
def ColumnsQuery.ofTokens? (tokens : List Token) : Option ColumnsQuery :=
  match tokens.drop selectTokens.length with
  | [.string table, _, _, _, .string schema, _, _, _] => some ⟨some schema, table⟩
  | .string table :: _ => some ⟨none, table⟩
  | _ => none

theorem ofTokens?_tokens (q : ColumnsQuery) : ColumnsQuery.ofTokens? q.tokens = some q := by
  obtain ⟨schema, table⟩ := q
  cases schema with
  | none => rfl
  | some schema => rfl

/-- The fields of a batch of columns. -/
def columnsSchema : Schema where
  fields := [("COLUMN_NAME", DataType.utf8), ("COLUMN_TYPE", .utf8),
    ("COLUMN_MAXSIZE", .decimal128 18 0), ("COLUMN_NUM_PREC", .decimal128 18 0),
    ("COLUMN_NUM_SCALE", .decimal128 18 0), ("COLUMN_IS_NULLABLE", .boolean)].map fun field =>
      { name := field.1, dataType := field.2, nullable := true }

/-- A batch that lists columns; sizes are left out. -/
def columnsBatch (rows : List (CatalogColumn × ℕ)) : RecordBatch where
  schema := columnsSchema
  columns := [⟨.utf8, rows.map fun row => some row.1.name⟩,
    ⟨.utf8, rows.map fun row => some row.1.typeName⟩,
    ⟨.decimal128 18 0, rows.map fun _ => none⟩, ⟨.decimal128 18 0, rows.map fun _ => none⟩,
    ⟨.decimal128 18 0, rows.map fun _ => none⟩, ⟨.boolean, rows.map fun row => row.1.nullable⟩]
  numRows := rows.length
  admits := by
    refine .cons ?_ (.cons ?_ (.cons ?_ (.cons ?_ (.cons ?_ (.cons ?_ .nil))))) <;>
      exact ⟨rfl, fun h => by cases h⟩
  lengths := by
    simp [Column.length]

theorem listsColumns_columnsBatch (rows : List (CatalogColumn × ℕ)) :
    ListsColumns (columnsBatch rows) rows := ⟨rfl, rfl, rfl, rfl⟩

/-- The rows of a query, sorted by their positions. -/
def sortedRows (q : ColumnsQuery) (catalog : Catalog) : List (CatalogColumn × ℕ) :=
  (q.rows catalog).insertionSort fun a b => a.2 ≤ b.2

theorem lists_sortedRows (q : ColumnsQuery) (catalog : Catalog) :
    Lists ListsColumns [columnsBatch (sortedRows q catalog)] (sortedRows q catalog) :=
  ⟨[sortedRows q catalog], .cons (listsColumns_columnsBatch _) .nil, (List.append_nil _).symm⟩

/-- The answer to a query, if it is one for columns. -/
def answerTo (catalog : Catalog) : Option ColumnsQuery → Except QueryError (List RecordBatch)
  | some q => .ok [columnsBatch (sortedRows q catalog)]
  | none => .error (.syntaxError 0 "syntax error")

theorem answerTo_tokens {catalog : Catalog} {sql : List Char} {q : ColumnsQuery}
    (h : lex sql = some q.tokens) :
    answerTo catalog (lex sql >>= ColumnsQuery.ofTokens?) =
      .ok [columnsBatch (sortedRows q catalog)] := by
  rw [h]
  change answerTo catalog (ColumnsQuery.ofTokens? q.tokens) = _
  rw [ofTokens?_tokens]
  rfl

/-- A database that answers queries for columns in one batch. -/
def listingServer : ViewServer where
  query catalog sql := answerTo catalog (lex sql >>= ColumnsQuery.ofTokens?)
  answers catalog sql q batches hlex hquery := by
    rw [answerTo_tokens hlex] at hquery
    obtain rfl := Except.ok.inj hquery
    exact ⟨sortedRows q catalog, List.perm_insertionSort _ _, List.pairwise_insertionSort _ _,
      lists_sortedRows q catalog⟩

theorem query_listingServer (catalog : Catalog) (sql : List Char) :
    listingServer.query catalog sql = answerTo catalog (lex sql >>= ColumnsQuery.ofTokens?) := rfl

/-- The lookup in this database. -/
theorem getTableSchema_listing (catalog : Catalog) (q : ColumnsQuery) :
    getTableSchema (some (listingServer.query catalog)) q.schema q.table =
      ((sortedRows q catalog).mapM (fun row => catalogField row.1) >>= fun fields =>
        if fields.isEmpty then
          fail ⟨.text s!"Table '{String.ofList q.table}' not found", .notFound⟩
        else .ok { fields }) := by
  refine getTableSchema_of_lists ?_ (lists_sortedRows q catalog)
  rw [query_listingServer]
  exact answerTo_tokens (lex_tableSchemaQuery q)

theorem parse_boolean : parseExasolTypeString "BOOLEAN" = .ok .boolean := rfl

theorem parse_date : parseExasolTypeString "DATE" = .ok .date := rfl

/-- A column of truth values. -/
def flagColumn (name : String) : CatalogColumn where
  name := name
  typeName := "BOOLEAN"
  nullable := some true
  uncrossed := by
    rw [parse_boolean]
    intro h
    cases h

/-- A column of days. -/
def dayColumn (name : String) : CatalogColumn where
  name := name
  typeName := "DATE"
  nullable := some false
  uncrossed := by
    rw [parse_date]
    intro h
    cases h

/-- Two schemas, each with a table of the same name. -/
def twoSchemas : Catalog where
  tables := [⟨"SALES".toList, "T".toList, [flagColumn "PAID", dayColumn "DAY"]⟩,
    ⟨"STAGING".toList, "T".toList, [dayColumn "LOADED"]⟩]
  apart := List.pairwise_pair.mpr (by decide +kernel)

/-- **The columns of two tables are mixed**, in the order of their positions. -/
theorem columns_of_two_tables :
    getTableSchema (some (listingServer.query twoSchemas)) none "T".toList =
      .ok { fields := [⟨"PAID", .boolean, true, []⟩, ⟨"LOADED", .date32, false, []⟩,
        ⟨"DAY", .date32, false, []⟩] } ∧
    ¬OneTable twoSchemas ⟨none, "T".toList⟩
      (getTableSchema (some (listingServer.query twoSchemas)) none "T".toList) := by
  have hlisting := getTableSchema_listing twoSchemas ⟨none, "T".toList⟩
  have hrows : sortedRows ⟨none, "T".toList⟩ twoSchemas =
      [(flagColumn "PAID", 1), (dayColumn "LOADED", 1), (dayColumn "DAY", 2)] := rfl
  rw [hrows] at hlisting
  have hresult : getTableSchema (some (listingServer.query twoSchemas)) none "T".toList =
      .ok { fields := [⟨"PAID", .boolean, true, []⟩, ⟨"LOADED", .date32, false, []⟩,
        ⟨"DAY", .date32, false, []⟩] } := hlisting
  refine ⟨hresult, fun h => ?_⟩
  rw [hresult] at h
  cases h with
  | @listed table _ hmem hnames hfields =>
    have hlength : table.columns.length = 3 := (mapM_eq_ok.mp hfields).length_eq
    rcases List.mem_cons.mp hmem with rfl | hmem
    · cases hlength
    · rw [List.mem_singleton.mp hmem] at hlength
      cases hlength

end Exarrow.Ffi
