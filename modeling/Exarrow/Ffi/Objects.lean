import Exarrow.Ffi.Ingest
import Exarrow.Ffi.SystemViews
import Exarrow.Foundations.Nested

/-!
# The catalog as a nested batch

Three queries list the schemas, the tables and the columns. Their rows are grouped by the names of
their owners (`Exarrow.Ffi.tablesBySchemaFrom`, `Exarrow.Ffi.columnsByTableFrom`) and written into
the builders of a nested batch (`Exarrow.Ffi.buildGetObjectsBatch`), down to the depth that is asked
for.

**The rows of the batch are the catalog** (`Exarrow.Ffi.listing`): each schema that is listed, with
its own tables, each with its own columns, as long as the offsets of the batch have room for them
(`Exarrow.Ffi.getObjects_rows`). Names that are longer than the offsets can tell stop the program
(`Exarrow.Ffi.getObjects_stop`).
-/

namespace Exarrow.Ffi

open Machine Checked Arrow Nested Query

/-! ### Depths -/

/-- How deep the catalog is listed. -/
inductive ObjectDepth where
  | all
  | catalogs
  | schemas
  | tables
  | columns
  deriving DecidableEq

/-- The levels that are filled in. -/
structure ObjectDepthLevels where
  schemas : Bool
  tables : Bool
  columns : Bool

/-- The levels of a depth. -/
def ObjectDepthLevels.ofDepth (depth : ObjectDepth) : ObjectDepthLevels where
  schemas := depth ∈ [ObjectDepth.schemas, .tables, .columns, .all]
  tables := depth ∈ [ObjectDepth.tables, .columns, .all]
  columns := depth ∈ [ObjectDepth.columns, .all]

/-! ### The queries -/

/-- A condition on a column; quotes in the pattern are doubled. -/
def likeCondition (column : String) (pattern : List Char) : List Char :=
  column.toList ++ " LIKE '".toList ++ escapeQuotes pattern ++ ['\'']

/-- A condition for each pattern that is told. -/
def likeConditions (patterns : List (String × Option (List Char))) : List (List Char) :=
  patterns.filterMap fun p => p.2.map (likeCondition p.1)

/-- Conditions behind a query, if there are any. -/
def appendWhereClause (sql : List Char) (conditions : List (List Char)) : List Char :=
  if conditions.isEmpty then sql
  else sql ++ " WHERE ".toList ++ " AND ".toList.intercalate conditions

/-- The query for the schemas. -/
def getObjectsSchemasQuery (dbSchema : Option (List Char)) : List Char :=
  appendWhereClause "SELECT SCHEMA_NAME FROM SYS.EXA_ALL_SCHEMAS".toList
    (likeConditions [("SCHEMA_NAME", dbSchema)]) ++ " ORDER BY SCHEMA_NAME".toList

/-- The condition on the type of a table. -/
def typeCondition (types : List (List Char)) : List Char :=
  "OBJECT_TYPE IN (".toList ++
    [','].intercalate (types.map fun t => '\'' :: escapeQuotes t ++ ['\'']) ++ [')']

/-- The query for the tables. -/
def getObjectsTablesQuery (dbSchema tableName : Option (List Char))
    (tableType : Option (List (List Char))) : List Char :=
  appendWhereClause "SELECT OBJECT_NAME, OBJECT_TYPE, ROOT_NAME FROM SYS.EXA_ALL_OBJECTS".toList
    ("OBJECT_TYPE IN ('TABLE', 'VIEW')".toList ::
      likeConditions [("ROOT_NAME", dbSchema), ("OBJECT_NAME", tableName)] ++
      (tableType.map typeCondition).toList) ++ " ORDER BY ROOT_NAME, OBJECT_NAME".toList

/-- The query for the columns. -/
def getObjectsColumnsQuery (dbSchema tableName columnName : Option (List Char)) : List Char :=
  appendWhereClause ("SELECT COLUMN_NAME, COLUMN_ORDINAL_POSITION, COLUMN_TYPE, ".toList ++
      "COLUMN_SCHEMA, COLUMN_TABLE FROM SYS.EXA_ALL_COLUMNS".toList)
    (likeConditions [("COLUMN_SCHEMA", dbSchema), ("COLUMN_TABLE", tableName),
      ("COLUMN_NAME", columnName)]) ++
    " ORDER BY COLUMN_SCHEMA, COLUMN_TABLE, COLUMN_ORDINAL_POSITION".toList

/-! ### Rows, grouped by their owners -/

/-- A column of a table. -/
structure ColumnEntry where
  name : String
  ordinal : SInt 32
  typeName : String

/-- The names and types of the tables of each schema. -/
abbrev TablesBySchema : Type := String → Option (List (String × String))

/-- The columns of each table of each schema. -/
abbrev ColumnMetadataMap : Type := String × String → Option (List ColumnEntry)

/-- Push a value behind those of its key. -/
def pushEntry {κ β : Type} [DecidableEq κ] (m : κ → Option (List β)) (entry : κ × β) :
    κ → Option (List β) :=
  Function.update m entry.1 (some ((m entry.1).getD [] ++ [entry.2]))

/-- The names of the schemas, without nulls. -/
def schemaNamesFrom (batches : List RecordBatch) : Exec AdbcError (List String) := do
  let names ← batches.mapM fun batch => stringColumn batch 0 "SCHEMA_NAME"
  return names.flatten.filterMap id

/-- The table of a row, with its schema. -/
def tableRow (names types schemas : List (Option String)) (row : ℕ) :
    Exec AdbcError (String × (String × String)) := do
  let schema ← textAt schemas row
  let name ← textAt names row
  let type ← textAt types row
  return (schema, (name, type))

/-- The tables of a batch. -/
def tableRows (batch : RecordBatch) : Exec AdbcError (List (String × (String × String))) := do
  let names ← stringColumn batch 0 "OBJECT_NAME"
  let types ← stringColumn batch 1 "OBJECT_TYPE"
  let schemas ← stringColumn batch 2 "ROOT_NAME"
  (List.range batch.numRows).mapM (tableRow names types schemas)

/-- **The tables, grouped by their schema.** -/
def tablesBySchemaFrom (batches : List RecordBatch) : Exec AdbcError TablesBySchema := do
  let rows ← batches.mapM tableRows
  return rows.flatten.foldl pushEntry fun _ => none

section Columns

variable (ov : Overflow)

/-- The position of a row in its batch, from one. -/
def rowPosition (row : ℕ) : Exec AdbcError (SInt 32) :=
  fit ov ((SInt.wrap 32 SInt.pos_32 row).val + 1)

/-- The column of a row, with its schema and table. A position that cannot be
read is that of the row. -/
def columnEntryRow (names : List (Option String)) (ordinals : Column)
    (types schemas tables : List (Option String)) (row : ℕ) :
    Exec AdbcError ((String × String) × ColumnEntry) := do
  let position ← rowPosition ov row
  let schema ← textAt schemas row
  let table ← textAt tables row
  let name ← textAt names row
  let typeName ← textAt types row
  return ((schema, table), { name, ordinal := (getIntValue ordinals row).getD position, typeName })

/-- The columns of a batch. -/
def columnEntryRows (batch : RecordBatch) :
    Exec AdbcError (List ((String × String) × ColumnEntry)) := do
  let names ← stringColumn batch 0 "COLUMN_NAME"
  let ordinals ← columnAt batch 1
  let types ← stringColumn batch 2 "COLUMN_TYPE"
  let schemas ← stringColumn batch 3 "COLUMN_SCHEMA"
  let tables ← stringColumn batch 4 "COLUMN_TABLE"
  (List.range batch.numRows).mapM (columnEntryRow ov names ordinals types schemas tables)

/-- **The columns, grouped by their schema and table.** -/
def columnsByTableFrom (batches : List RecordBatch) : Exec AdbcError ColumnMetadataMap := do
  let rows ← batches.mapM (columnEntryRows ov)
  return rows.flatten.foldl pushEntry fun _ => none

end Columns

/-! ### The shape of the batch -/

/-- Fields, each with its shape and whether it may be null. -/
abbrev Fields : Type := List (String × Shape × Bool)

/-- A structure of fields. -/
def structOf (fields : Fields) : Shape :=
  .struct (fields.map fun f => (f.1, f.2.2)) (fields.map fun f => f.2.1)

/-- A list of structures. -/
def listOfStructs (fields : Fields) : Shape := .list (structOf fields)

/-- The fields of a column. -/
def getObjectsColumnFields : Fields :=
  [("column_name", .utf8, false), ("ordinal_position", .int32, false),
    ("xdbc_type_name", .utf8, true)]

/-- The fields of a constraint. -/
def getObjectsConstraintFields : Fields :=
  [("constraint_name", .utf8, true), ("constraint_type", .utf8, false)]

/-- The fields of a table. -/
def getObjectsTableFields : Fields :=
  [("table_name", .utf8, false), ("table_type", .utf8, false),
    ("table_columns", listOfStructs getObjectsColumnFields, true),
    ("table_constraints", listOfStructs getObjectsConstraintFields, true)]

/-- The fields of a schema. -/
def getObjectsSchemaFields : Fields :=
  [("db_schema_name", .utf8, true),
    ("db_schema_tables", listOfStructs getObjectsTableFields, true)]

/-- The fields of the batch. -/
def buildGetObjectsSchema : Fields :=
  [("catalog_name", .utf8, false),
    ("catalog_db_schemas", listOfStructs getObjectsSchemaFields, true)]

/-! ### Writing the batch -/

/-- A builder that is not there, or has another type. -/
def builderError (field : String) : AdbcError :=
  ⟨.text s!"Failed to access Arrow builder for field '{field}'", .internal⟩

/-- Change a builder that has the type that is expected. -/
def downcast (expected : Builder → Bool) (field : String)
    (change : Builder → Exec AdbcError Builder) (b : Builder) : Exec AdbcError Builder :=
  if expected b then change b else fail (builderError field)

/-- Change the builder of the structures of a list. -/
def onListStruct (field : String) (change : Builder → Exec AdbcError Builder) :
    Builder → Exec AdbcError Builder := onItem (downcast Builder.isStruct field change)

/-- Append a text to a field of a structure. -/
def appendStringField (index : ℕ) (field value : String) : Builder → Exec AdbcError Builder :=
  onField index (downcast Builder.isUtf8 field (appendText value))

/-- Change the list in a field of a structure. -/
def onListField (index : ℕ) (field : String) (change : Builder → Exec AdbcError Builder) :
    Builder → Exec AdbcError Builder := onField index (downcast Builder.isList field change)

/-- The structure of a column. -/
def appendColumnFields (column : ColumnEntry) (entry : Builder) : Exec AdbcError Builder := do
  let entry ← appendStringField 0 "column_name" column.name entry
  let entry ← onField 1
    (downcast Builder.isInt32 "ordinal_position" (appendInt column.ordinal)) entry
  let entry ← appendStringField 2 "xdbc_type_name" column.typeName entry
  appendStruct true entry

/-- The columns of a table. -/
def appendTableColumns (tableColumns : List ColumnEntry) (columnsList : Builder) :
    Exec AdbcError Builder :=
  tableColumns.foldlM (fun columnsList column =>
    onListStruct "table_columns downcast" (appendColumnFields column) columnsList) columnsList

/-- The list of the columns of a table, if they are asked for. -/
def appendColumnList (tableColumns : Option (List ColumnEntry)) (includeColumns : Bool)
    (columnsList : Builder) : Exec AdbcError Builder :=
  if includeColumns then do
    let columnsList ← appendTableColumns (tableColumns.getD []) columnsList
    appendList true columnsList
  else appendList false columnsList

/-- The structure of a table, with its columns if they are asked for. There are no
constraints. -/
def appendTableFields (tableName tableType : String) (tableColumns : Option (List ColumnEntry))
    (includeColumns : Bool) (entry : Builder) : Exec AdbcError Builder := do
  let entry ← appendStringField 0 "table_name" tableName entry
  let entry ← appendStringField 1 "table_type" tableType entry
  let entry ← onListField 2 "table_columns" (appendColumnList tableColumns includeColumns) entry
  let entry ← onListField 3 "table_constraints" (appendList false) entry
  appendStruct true entry

/-- A table. -/
def appendTableEntry (tableName tableType : String) (tableColumns : Option (List ColumnEntry))
    (includeColumns : Bool) : Builder → Exec AdbcError Builder :=
  onListStruct "db_schema_tables downcast"
    (appendTableFields tableName tableType tableColumns includeColumns)

section Schemas

variable (tables : TablesBySchema) (columns : ColumnMetadataMap) (levels : ObjectDepthLevels)

/-- The list of the tables of a schema. -/
def appendTableList (schemaName : String) (tablesList : Builder) : Exec AdbcError Builder := do
  let tablesList ← ((tables schemaName).getD []).foldlM (fun tablesList table =>
    appendTableEntry table.1 table.2 (columns (schemaName, table.1)) levels.columns tablesList)
    tablesList
  appendList true tablesList

/-- The structure of a schema, with its tables if they are asked for. -/
def appendSchemaFields (schemaName : String) (entry : Builder) : Exec AdbcError Builder := do
  let entry ← appendStringField 0 "db_schema_name" schemaName entry
  let entry ← onListField 1 "db_schema_tables"
    (if levels.tables then appendTableList tables columns levels schemaName else appendList false)
    entry
  appendStruct true entry

/-- A schema. -/
def appendSchemaEntry (schemaName : String) : Builder → Exec AdbcError Builder :=
  onItem (appendSchemaFields tables columns levels schemaName)

/-- The list of the schemas, if they are asked for. -/
def appendSchemaList (schemas : List String) (schemaList : Builder) : Exec AdbcError Builder :=
  if levels.schemas then do
    let schemaList ← schemas.foldlM (fun schemaList schemaName =>
      appendSchemaEntry tables columns levels schemaName schemaList) schemaList
    appendList true schemaList
  else appendList false schemaList

/-- A batch of nested columns. -/
structure NestedBatch where
  fields : Fields
  columns : List Builder

/-- The rows of a batch. -/
def NestedBatch.rows (batch : NestedBatch) : List Value :=
  structRows (Nested.columnRows batch.columns)
    (List.replicate ((batch.columns.head?.map Builder.len).getD 0) true)

/-- The Arrow type of a shape, for an error. -/
def shapeType : Shape → DataType
  | .utf8 => .utf8
  | .int32 => .int32
  | .list _ => .other "List"
  | .struct .. => .other "Struct"

/-- A batch, unless its columns are no columns of its fields. -/
def NestedBatch.tryNew (fields : Fields) (columns : List Builder) :
    Except ArrowError NestedBatch :=
  if columns.length ≠ fields.length then .error (.columnCount columns.length fields.length)
  else
    match columns.head?.map Builder.len with
    | none => .error .noRowCount
    | some rows =>
      match (fields.zip columns).find? fun p => !p.1.2.2 && p.2.hasNull with
      | some p => .error (.unexpectedNull p.1.1)
      | none =>
        if columns.any fun column => column.len ≠ rows then .error .columnLength
        else
          match (fields.zip columns).find? fun p => !p.1.2.1.same p.2.shape with
          | some p => .error (.columnType (shapeType p.1.2.1) (shapeType p.2.shape))
          | none => .ok ⟨fields, columns⟩

/-- **The batch of the catalog.** -/
def buildGetObjectsBatch (schemas : List String) : Exec AdbcError NestedBatch := do
  let catalogName ← appendText "EXA" (.utf8 [])
  let schemaList ← appendSchemaList tables columns levels schemas
    (.list (makeBuilder (structOf getObjectsSchemaFields)) [0] [])
  let catalogName ← finish catalogName
  let schemaList ← finish schemaList
  match NestedBatch.tryNew buildGetObjectsSchema [catalogName, schemaList] with
  | .ok batch => return batch
  | .error e => fail ⟨.arrow e, .internal⟩

end Schemas

/-- The rows of a query, unless they are not asked for. -/
def rowsIf {α : Type} (asked : Bool) (otherwise : α) (rows : Exec AdbcError α) : Exec AdbcError α :=
  if asked then rows else .ok otherwise

/-- **The catalog.** A catalog of another name is empty. -/
def getObjects (ov : Overflow) (inner : Option RunsQuery) (depth : ObjectDepth)
    (catalog dbSchema tableName : Option (List Char)) (tableType : Option (List (List Char)))
    (columnName : Option (List Char)) : Exec AdbcError (List NestedBatch) :=
  if !catalogIsExasol catalog then .ok []
  else do
    let conn ← requireConnection inner
    let levels := ObjectDepthLevels.ofDepth depth
    let schemas ← rowsIf levels.schemas []
      (queryBatches conn (getObjectsSchemasQuery dbSchema) >>= schemaNamesFrom)
    let tables ← rowsIf levels.tables (fun _ => none)
      (queryBatches conn (getObjectsTablesQuery dbSchema tableName tableType) >>=
        tablesBySchemaFrom)
    let columns ← rowsIf levels.columns (fun _ => none)
      (queryBatches conn (getObjectsColumnsQuery dbSchema tableName columnName) >>=
        columnsByTableFrom ov)
    let batch ← buildGetObjectsBatch tables columns levels schemas
    return [batch]

/-! ### What is listed -/

/-- A constraint of a table. -/
structure ConstraintEntry where
  name : String
  type : String

/-- A table, with its columns as far as they are asked for. -/
structure TableEntry where
  name : String
  type : String
  columns : Option (List ColumnEntry)
  constraints : Option (List ConstraintEntry)

/-- A schema, with its tables as far as they are asked for. -/
structure SchemaEntry where
  name : String
  tables : Option (List TableEntry)

/-- A table of a schema. -/
structure TableRow where
  schema : String
  name : String
  type : String

/-- A column of a table of a schema. -/
structure ColumnRow where
  schema : String
  table : String
  column : ColumnEntry

/-- The results of the three queries. -/
structure CatalogRows where
  schemas : List (Option String)
  tables : List TableRow
  columns : List ColumnRow

/-- How many levels a depth has below the catalog. -/
def ObjectDepth.level : ObjectDepth → ℕ
  | catalogs => 0
  | schemas => 1
  | tables => 2
  | columns | all => 3

section Listing

variable (depth : ObjectDepth) (r : CatalogRows)

/-- A level is null below the depth that is asked for. -/
def atLevel {α : Type} (n : ℕ) (entries : List α) : Option (List α) :=
  if n ≤ depth.level then some entries else none

/-- The columns of a table. -/
def columnsOf (schema table : String) : List ColumnEntry :=
  (r.columns.filter fun c => c.schema = schema ∧ c.table = table).map ColumnRow.column

/-- The tables of a schema, each with its columns. -/
def tablesOf (schema : String) : List TableEntry :=
  (r.tables.filter fun t => t.schema = schema).map fun t =>
    { name := t.name
      type := t.type
      columns := atLevel depth 3 (columnsOf r schema t.name)
      constraints := none }

/-- **The catalog**: the schemas in order, each with its own tables in order, and
each of these with its own columns in order. -/
def listing : Option (List SchemaEntry) :=
  atLevel depth 1 ((r.schemas.filterMap id).map fun schema =>
    { name := schema, tables := atLevel depth 2 (tablesOf depth r schema) })

end Listing

/-! ### Columns of entries -/

/-- The columns of columns. -/
def columnEntry : ColumnOf ColumnEntry :=
  .struct [⟨"column_name", false, ColumnOf.text.comap ColumnEntry.name, .inr fun _ => rfl⟩,
    ⟨"ordinal_position", false, ColumnOf.int.comap ColumnEntry.ordinal, .inr fun _ => rfl⟩,
    ⟨"xdbc_type_name", true, ColumnOf.text.comap ColumnEntry.typeName, .inl rfl⟩]

/-- The columns of constraints. -/
def constraintEntry : ColumnOf ConstraintEntry :=
  .struct [⟨"constraint_name", true, ColumnOf.text.comap ConstraintEntry.name, .inl rfl⟩,
    ⟨"constraint_type", false, ColumnOf.text.comap ConstraintEntry.type, .inr fun _ => rfl⟩]

/-- The columns of tables. -/
def tableEntry : ColumnOf TableEntry :=
  .struct [⟨"table_name", false, ColumnOf.text.comap TableEntry.name, .inr fun _ => rfl⟩,
    ⟨"table_type", false, ColumnOf.text.comap TableEntry.type, .inr fun _ => rfl⟩,
    ⟨"table_columns", true, columnEntry.list.comap TableEntry.columns, .inl rfl⟩,
    ⟨"table_constraints", true, constraintEntry.list.comap TableEntry.constraints, .inl rfl⟩]

/-- The columns of schemas. -/
def schemaEntry : ColumnOf SchemaEntry :=
  .struct [⟨"db_schema_name", true, ColumnOf.text.comap SchemaEntry.name, .inl rfl⟩,
    ⟨"db_schema_tables", true, tableEntry.list.comap SchemaEntry.tables, .inl rfl⟩]

/-- They have the shapes that the fields tell. -/
theorem shape_schemaEntry : schemaEntry.shape = structOf getObjectsSchemaFields := rfl

/-! ### Appending entries -/

theorem downcast_eq {expected : Builder → Bool} {b : Builder} (h : expected b = true)
    (field : String) (change : Builder → Exec AdbcError Builder) :
    downcast expected field change b = change b := if_pos h

/-- A text is appended to a field of texts. -/
theorem appendStringField_eq {names : List (String × Bool)} {fields : List Builder}
    {validity : List Bool} {index : ℕ} {values : List String} {value : String} (field : String)
    (hfield : fields[index]? = some (.utf8 values))
    (h : textBytes (values ++ [value]) ≤ largestOffset) :
    appendStringField index field value (.struct names fields validity) =
      .ok (.struct names (fields.set index (.utf8 (values ++ [value]))) validity) :=
  onField_eq hfield ((downcast_eq rfl field _).trans (appendText_eq h))

/-- The list in a field is changed. -/
theorem onListField_eq {names : List (String × Bool)} {fields : List Builder}
    {validity : List Bool} {index : ℕ} {change : Builder → Exec AdbcError Builder} {b b' : Builder}
    (field : String) (hfield : fields[index]? = some b) (hlist : b.isList = true)
    (h : change b = .ok b') :
    onListField index field change (.struct names fields validity) =
      .ok (.struct names (fields.set index b') validity) :=
  onField_eq hfield ((downcast_eq hlist field _).trans h)

/-- A structure is appended behind a list that is not closed. -/
theorem onListStruct_open {α : Type} (c : ColumnOf α) (field : String)
    (hstruct : ∀ xs, (c.build xs).isStruct = true) {lists : List (Option (List α))}
    {pending : List α} {x : α} {change : Builder → Exec AdbcError Builder}
    (h : change (c.build (items lists ++ pending)) =
      .ok (c.build (items lists ++ pending ++ [x]))) :
    onListStruct field change (c.openList lists pending) =
      .ok (c.openList lists (pending ++ [x])) :=
  c.onItem_open ((downcast_eq (hstruct _) field change).trans h)

/-- What the builder of columns holds. -/
theorem build_columnEntry (xs : List ColumnEntry) : columnEntry.build xs = .struct
    [("column_name", false), ("ordinal_position", false), ("xdbc_type_name", true)]
    [.utf8 (xs.map ColumnEntry.name), .int32 (xs.map ColumnEntry.ordinal),
      .utf8 (xs.map ColumnEntry.typeName)] (xs.map fun _ => true) := rfl

/-- When the offsets of columns fit. -/
theorem fits_columnEntry {xs : List ColumnEntry} : columnEntry.fits xs ↔
    textBytes (xs.map ColumnEntry.name) ≤ largestOffset ∧
      textBytes (xs.map ColumnEntry.typeName) ≤ largestOffset := by
  change (∀ f ∈ [_, _, _], _) ↔ _
  rw [List.forall_mem_cons, List.forall_mem_cons, List.forall_mem_singleton]
  exact and_congr_right fun _ => Iff.of_eq (true_and _)

/-- **A column is appended.** -/
theorem appendColumnFields_eq {done : List ColumnEntry} {column : ColumnEntry}
    (h : columnEntry.fits (done ++ [column])) :
    appendColumnFields column (columnEntry.build done) =
      .ok (columnEntry.build (done ++ [column])) := by
  obtain ⟨hname, htype⟩ := fits_columnEntry.mp h
  rw [build_columnEntry, build_columnEntry]
  simp only [List.map_append, List.map_singleton] at hname htype ⊢
  rw [appendColumnFields, appendStringField_eq "column_name" rfl hname, ok_bind]
  have hordinal : onField 1 (downcast Builder.isInt32 "ordinal_position" (appendInt column.ordinal))
      (.struct [("column_name", false), ("ordinal_position", false), ("xdbc_type_name", true)]
        [.utf8 (done.map ColumnEntry.name ++ [column.name]),
          .int32 (done.map ColumnEntry.ordinal), .utf8 (done.map ColumnEntry.typeName)]
        (done.map fun _ => true)) = _ := onField_eq rfl rfl
  dsimp only [List.set_cons_zero]
  rw [hordinal, ok_bind]
  rw [appendStringField_eq "xdbc_type_name" rfl htype]
  rfl

/-- The columns of a table are appended, one after the other. -/
theorem appendTableColumns_eq {lists : List (Option (List ColumnEntry))}
    {columns : List ColumnEntry} (h : columnEntry.fits (items lists ++ columns)) :
    appendTableColumns columns (columnEntry.openList lists []) =
      .ok (columnEntry.openList lists columns) := by
  have hstep (pending : List ColumnEntry) (column : ColumnEntry)
      (hfits : columnEntry.fits (items lists ++ (pending ++ [id column]))) :
      onListStruct "table_columns downcast" (appendColumnFields column)
        (columnEntry.openList lists pending) =
          .ok (columnEntry.openList lists (pending ++ [id column])) := by
    rw [← List.append_assoc] at hfits
    exact onListStruct_open columnEntry _ (fun _ => rfl) (appendColumnFields_eq hfits)
  have hfold := @ColumnOf.foldlM_open _ AdbcError columnEntry _ lists (fun columnsList column =>
    onListStruct "table_columns downcast" (appendColumnFields column) columnsList)
    id hstep columns []
  rw [List.map_id, List.nil_append] at hfold
  exact hfold h

/-- **The list of the columns of a table** is closed, or it is null. -/
theorem appendColumnList_eq {lists : List (Option (List ColumnEntry))}
    {tableColumns : Option (List ColumnEntry)} {includeColumns : Bool}
    {columns : Option (List ColumnEntry)}
    (hcolumns : columns = if includeColumns then some (tableColumns.getD []) else none)
    (h : columnEntry.list.fits (lists ++ [columns])) :
    appendColumnList tableColumns includeColumns (columnEntry.list.build lists) =
      .ok (columnEntry.list.build (lists ++ [columns])) := by
  obtain ⟨hfits, hlength⟩ := h
  rw [items_append, items_singleton] at hfits hlength
  cases includeColumns with
  | false =>
    rw [if_neg Bool.false_ne_true] at hcolumns
    rw [hcolumns, Option.getD_none, List.append_nil] at hlength
    rw [hcolumns]
    exact columnEntry.appendList_null hlength
  | true =>
    rw [if_pos rfl] at hcolumns
    rw [hcolumns, Option.getD_some] at hfits hlength
    rw [hcolumns]
    change (appendTableColumns (tableColumns.getD []) (columnEntry.openList lists []) >>=
      fun columnsList => appendList true columnsList) = _
    rw [appendTableColumns_eq hfits, ok_bind]
    exact columnEntry.appendList_open hlength

/-- What the builder of tables holds. -/
theorem build_tableEntry (xs : List TableEntry) : tableEntry.build xs = .struct
    [("table_name", false), ("table_type", false), ("table_columns", true),
      ("table_constraints", true)]
    [.utf8 (xs.map TableEntry.name), .utf8 (xs.map TableEntry.type),
      columnEntry.list.build (xs.map TableEntry.columns),
      constraintEntry.list.build (xs.map TableEntry.constraints)] (xs.map fun _ => true) := rfl

/-- When the offsets of tables fit. -/
theorem fits_tableEntry {xs : List TableEntry} : tableEntry.fits xs ↔
    textBytes (xs.map TableEntry.name) ≤ largestOffset ∧
      textBytes (xs.map TableEntry.type) ≤ largestOffset ∧
        columnEntry.list.fits (xs.map TableEntry.columns) ∧
          constraintEntry.list.fits (xs.map TableEntry.constraints) := by
  change (∀ f ∈ [_, _, _, _], _) ↔ _
  rw [List.forall_mem_cons, List.forall_mem_cons, List.forall_mem_cons, List.forall_mem_singleton]
  rfl

/-- **A table is appended.** -/
theorem appendTableFields_eq {done : List TableEntry} {table : TableEntry}
    {tableColumns : Option (List ColumnEntry)} {includeColumns : Bool}
    (hcolumns : table.columns = if includeColumns then some (tableColumns.getD []) else none)
    (hconstraints : table.constraints = none) (h : tableEntry.fits (done ++ [table])) :
    appendTableFields table.name table.type tableColumns includeColumns (tableEntry.build done) =
      .ok (tableEntry.build (done ++ [table])) := by
  obtain ⟨hname, htype, hlist, hnull⟩ := fits_tableEntry.mp h
  rw [build_tableEntry, build_tableEntry]
  simp only [List.map_append, List.map_singleton] at hname htype hlist hnull ⊢
  have hcolumnList := appendColumnList_eq hcolumns hlist
  have hconstraintList : (appendList false
      (constraintEntry.list.build (done.map TableEntry.constraints)) : Exec AdbcError Builder) =
        .ok (constraintEntry.list.build
          (done.map TableEntry.constraints ++ [table.constraints])) := by
    have hlength := hnull.2
    rw [hconstraints, items_append, items_singleton, Option.getD_none, List.append_nil] at hlength
    rw [hconstraints]
    exact constraintEntry.appendList_null hlength
  rw [appendTableFields, appendStringField_eq "table_name" rfl hname, ok_bind]
  dsimp only [List.set_cons_zero]
  rw [appendStringField_eq "table_type" rfl htype, ok_bind]
  dsimp only [List.set_cons_zero, List.set_cons_succ]
  rw [onListField_eq "table_columns" rfl rfl hcolumnList, ok_bind]
  dsimp only [List.set_cons_zero, List.set_cons_succ]
  rw [onListField_eq "table_constraints" rfl rfl hconstraintList]
  rfl

section Written

variable (tables : TablesBySchema) (columns : ColumnMetadataMap) (levels : ObjectDepthLevels)

/-- The table that is written. -/
def writtenTable (schemaName : String) (table : String × String) : TableEntry where
  name := table.1
  type := table.2
  columns := if levels.columns then some ((columns (schemaName, table.1)).getD []) else none
  constraints := none

/-- The schema that is written. -/
def writtenSchema (schemaName : String) : SchemaEntry where
  name := schemaName
  tables := if levels.tables then
    some (((tables schemaName).getD []).map (writtenTable columns levels schemaName)) else none

/-- **The list of the tables of a schema** is closed. -/
theorem appendTableList_eq {lists : List (Option (List TableEntry))} {schemaName : String}
    (h : tableEntry.list.fits (lists ++ [some (((tables schemaName).getD []).map
      (writtenTable columns levels schemaName))])) :
    appendTableList tables columns levels schemaName (tableEntry.list.build lists) =
      .ok (tableEntry.list.build (lists ++ [some (((tables schemaName).getD []).map
        (writtenTable columns levels schemaName))])) := by
  obtain ⟨hfits, hlength⟩ := h
  rw [items_append, items_singleton, Option.getD_some] at hfits hlength
  have hstep (pending : List TableEntry) (table : String × String)
      (hfits : tableEntry.fits
        (items lists ++ (pending ++ [writtenTable columns levels schemaName table]))) :
      appendTableEntry table.1 table.2 (columns (schemaName, table.1)) levels.columns
        (tableEntry.openList lists pending) =
          .ok (tableEntry.openList lists
            (pending ++ [writtenTable columns levels schemaName table])) := by
    rw [← List.append_assoc] at hfits
    have hfields := @appendTableFields_eq (items lists ++ pending)
      (writtenTable columns levels schemaName table) (columns (schemaName, table.1))
      levels.columns rfl rfl hfits
    exact onListStruct_open tableEntry _ (fun _ => rfl) hfields
  have hfold : ((tables schemaName).getD []).foldlM (fun tablesList table =>
      appendTableEntry table.1 table.2 (columns (schemaName, table.1)) levels.columns tablesList)
      (tableEntry.openList lists []) = .ok (tableEntry.openList lists
        ([] ++ ((tables schemaName).getD []).map (writtenTable columns levels schemaName))) := by
    refine ColumnOf.foldlM_open tableEntry hstep ?_
    rw [List.nil_append]
    exact hfits
  rw [List.nil_append] at hfold
  rw [appendTableList, ColumnOf.list_build, hfold, ok_bind, ColumnOf.list_build]
  exact tableEntry.appendList_open hlength

/-- What the builder of schemas holds. -/
theorem build_schemaEntry (xs : List SchemaEntry) : schemaEntry.build xs = .struct
    [("db_schema_name", true), ("db_schema_tables", true)]
    [.utf8 (xs.map SchemaEntry.name), tableEntry.list.build (xs.map SchemaEntry.tables)]
    (xs.map fun _ => true) := rfl

/-- When the offsets of schemas fit. -/
theorem fits_schemaEntry {xs : List SchemaEntry} : schemaEntry.fits xs ↔
    textBytes (xs.map SchemaEntry.name) ≤ largestOffset ∧
      tableEntry.list.fits (xs.map SchemaEntry.tables) := by
  change (∀ f ∈ [_, _], _) ↔ _
  rw [List.forall_mem_cons, List.forall_mem_singleton]
  rfl

/-- **A schema is appended.** -/
theorem appendSchemaFields_eq {done : List SchemaEntry} {schemaName : String}
    (h : schemaEntry.fits (done ++ [writtenSchema tables columns levels schemaName])) :
    appendSchemaFields tables columns levels schemaName (schemaEntry.build done) =
      .ok (schemaEntry.build (done ++ [writtenSchema tables columns levels schemaName])) := by
  obtain ⟨hname, hlist⟩ := fits_schemaEntry.mp h
  rw [build_schemaEntry, build_schemaEntry]
  simp only [List.map_append, List.map_singleton] at hname hlist ⊢
  have htables : (if levels.tables then appendTableList tables columns levels schemaName
      else appendList false) (tableEntry.list.build (done.map SchemaEntry.tables)) =
        .ok (tableEntry.list.build (done.map SchemaEntry.tables ++
          [(writtenSchema tables columns levels schemaName).tables])) := by
    unfold writtenSchema at hlist ⊢
    dsimp only at hlist ⊢
    by_cases hlevel : levels.tables = true
    · rw [if_pos hlevel] at hlist ⊢
      rw [if_pos hlevel]
      exact appendTableList_eq tables columns levels hlist
    · rw [if_neg hlevel] at hlist ⊢
      rw [if_neg hlevel]
      have hlength := hlist.2
      rw [items_append, items_singleton, Option.getD_none, List.append_nil] at hlength
      exact tableEntry.appendList_null hlength
  have hself : (writtenSchema tables columns levels schemaName).name = schemaName := rfl
  rw [hself] at hname ⊢
  rw [appendSchemaFields, appendStringField_eq "db_schema_name" rfl hname, ok_bind]
  dsimp only [List.set_cons_zero]
  rw [onListField_eq "db_schema_tables" rfl rfl htables]
  rfl

/-- The builder to begin with holds no schemas. -/
theorem open_nil : Builder.list (makeBuilder (structOf getObjectsSchemaFields)) [0] [] =
    schemaEntry.openList [] [] := by
  rw [← shape_schemaEntry, schemaEntry.make]
  rfl

/-- The schemas that are written. -/
def writtenSchemas (schemas : List String) : Option (List SchemaEntry) :=
  if levels.schemas then some (schemas.map (writtenSchema tables columns levels)) else none

/-- **The list of the schemas** is closed. -/
theorem appendSchemaList_eq {schemas : List String}
    (h : schemaEntry.list.fits [writtenSchemas tables columns levels schemas]) :
    appendSchemaList tables columns levels schemas
        (.list (makeBuilder (structOf getObjectsSchemaFields)) [0] []) =
      .ok (schemaEntry.list.build [writtenSchemas tables columns levels schemas]) := by
  obtain ⟨hfits, hlength⟩ := h
  rw [items_singleton] at hfits hlength
  unfold writtenSchemas at hfits hlength ⊢
  rw [open_nil, appendSchemaList]
  by_cases hlevel : levels.schemas = true
  · rw [if_pos hlevel] at hfits hlength ⊢
    rw [if_pos hlevel]
    rw [Option.getD_some] at hfits hlength
    have hstep (pending : List SchemaEntry) (schemaName : String)
        (hfits : schemaEntry.fits
          (items [] ++ (pending ++ [writtenSchema tables columns levels schemaName]))) :
        appendSchemaEntry tables columns levels schemaName (schemaEntry.openList [] pending) =
          .ok (schemaEntry.openList []
            (pending ++ [writtenSchema tables columns levels schemaName])) := by
      rw [← List.append_assoc] at hfits
      exact schemaEntry.onItem_open (appendSchemaFields_eq tables columns levels hfits)
    have hfold : schemas.foldlM (fun schemaList schemaName =>
        appendSchemaEntry tables columns levels schemaName schemaList)
        (schemaEntry.openList [] []) = .ok (schemaEntry.openList []
          ([] ++ schemas.map (writtenSchema tables columns levels))) := by
      refine ColumnOf.foldlM_open schemaEntry hstep ?_
      rw [List.nil_append]
      exact hfits
    rw [List.nil_append] at hfold
    rw [hfold, ok_bind, ColumnOf.list_build]
    exact schemaEntry.appendList_open hlength
  · rw [if_neg hlevel] at hfits hlength ⊢
    rw [if_neg hlevel, ColumnOf.list_build]
    exact schemaEntry.appendList_null (Nat.zero_le _)

/-- The batch of schemas. -/
def catalogBatch (schemas : Option (List SchemaEntry)) : NestedBatch where
  fields := buildGetObjectsSchema
  columns := [ColumnOf.text.build ["EXA"], schemaEntry.list.build [schemas]]

/-- **The rows of the batch.** -/
theorem rows_catalogBatch (schemas : Option (List SchemaEntry)) :
    (catalogBatch schemas).rows =
      [.struct [.text "EXA", listValue schemaEntry.value schemas]] := by
  rw [NestedBatch.rows, catalogBatch]
  dsimp only
  rw [Nested.columnRows, Nested.columnRows, Nested.columnRows, ColumnOf.rows_build,
    ColumnOf.rows_build]
  rfl

/-- Its columns are columns of its fields. -/
theorem tryNew_catalogBatch (schemas : Option (List SchemaEntry)) :
    NestedBatch.tryNew buildGetObjectsSchema [ColumnOf.text.build ["EXA"],
      schemaEntry.list.build [schemas]] = .ok (catalogBatch schemas) := by
  rfl

/-- **The batch is built.** -/
theorem buildGetObjectsBatch_eq {schemas : List String}
    (h : schemaEntry.list.fits [writtenSchemas tables columns levels schemas]) :
    buildGetObjectsBatch tables columns levels schemas =
      .ok (catalogBatch (writtenSchemas tables columns levels schemas)) := by
  have hname : (appendText "EXA" (.utf8 []) : Exec AdbcError Builder) =
      .ok (ColumnOf.text.build ["EXA"]) := rfl
  have hfinish {α : Type} (c : ColumnOf α) (xs : List α) :
      (finish (c.build xs) : Exec AdbcError Builder) = .ok (c.build xs) :=
    if_pos (c.even_build xs)
  rw [buildGetObjectsBatch, hname, ok_bind, appendSchemaList_eq tables columns levels h, ok_bind,
    hfinish, ok_bind, hfinish, ok_bind,
    tryNew_catalogBatch]
  rfl

end Written

/-! ### Grouping rows -/

/-- **The values of a key** are those that were pushed for it, in order. -/
theorem foldl_pushEntry {κ β : Type} [DecidableEq κ] (rows : List (κ × β))
    (m : κ → Option (List β)) (k : κ) : ((rows.foldl pushEntry m) k).getD [] =
      (m k).getD [] ++ (rows.filter fun row => row.1 = k).map Prod.snd := by
  induction rows generalizing m with
  | nil => exact (List.append_nil _).symm
  | cons row rows ih =>
    rw [List.foldl_cons, ih, pushEntry]
    by_cases hk : row.1 = k
    · rw [← hk, Function.update_self, List.filter_cons_of_pos (by simp), List.map_cons,
        Option.getD_some, List.append_assoc]
      rfl
    · rw [Function.update_of_ne (Ne.symm hk), List.filter_cons_of_neg (by simpa using hk)]

/-! ### Reading rows -/

/-- A batch that lists schemas. -/
def ListsSchemas (batch : RecordBatch) (rows : List (Option String)) : Prop :=
  HoldsTexts batch 0 id rows

/-- A batch that lists tables. -/
structure ListsTables (batch : RecordBatch) (rows : List TableRow) : Prop where
  numRows : batch.numRows = rows.length
  names : HoldsTexts batch 0 (fun t => some t.name) rows
  types : HoldsTexts batch 1 (fun t => some t.type) rows
  schemas : HoldsTexts batch 2 (fun t => some t.schema) rows

/-- A batch that lists columns: their positions are decimals of scale zero. A
batch has no more texts than it has offsets for. -/
structure ListsColumnRows (batch : RecordBatch) (rows : List ColumnRow) : Prop where
  numRows : batch.numRows = rows.length
  few : rows.length ≤ largestOffset
  names : HoldsTexts batch 0 (fun c => some c.column.name) rows
  ordinals : ∃ precision, batch.columns[1]? = some ⟨.decimal128 precision 0,
    rows.map fun c => some (c.column.ordinal.extend 128 SInt.le_32_128)⟩
  types : HoldsTexts batch 2 (fun c => some c.column.typeName) rows
  schemas : HoldsTexts batch 3 (fun c => some c.schema) rows
  tables : HoldsTexts batch 4 (fun c => some c.table) rows

theorem schemaNamesFrom_eq {batches : List RecordBatch} {rows : List (Option String)}
    (h : Lists ListsSchemas batches rows) :
    schemaNamesFrom batches = .ok (rows.filterMap id) := by
  have hbatch (batch : RecordBatch) (rows : List (Option String))
      (hlists : ListsSchemas batch rows) :
      stringColumn batch 0 "SCHEMA_NAME" = .ok (rows.map id) := stringColumn_eq hlists _
  obtain ⟨found, hfound, hflatten⟩ := mapM_lists_ok hbatch h
  rw [schemaNamesFrom, hfound, ok_bind, hflatten, List.map_id]
  rfl

/-- Rows that never fail. -/
theorem mapM_range_ok {ρ α ε : Type} {rows : List ρ} {read : ℕ → Exec ε α} {f : ρ → α}
    (h : ∀ (i : ℕ) row, rows[i]? = some row → read i = .ok (f row)) :
    (List.range rows.length).mapM read = .ok (rows.map f) := by
  rw [mapM_range h]
  exact List.mapM_pure

theorem tablesBySchemaFrom_eq {batches : List RecordBatch} {rows : List TableRow}
    (h : Lists ListsTables batches rows) :
    tablesBySchemaFrom batches =
      .ok ((rows.map fun t => (t.schema, (t.name, t.type))).foldl pushEntry fun _ => none) := by
  have hbatch (batch : RecordBatch) (rows : List TableRow) (hlists : ListsTables batch rows) :
      tableRows batch = .ok (rows.map fun t => (t.schema, (t.name, t.type))) := by
    rw [tableRows, stringColumn_eq hlists.names, ok_bind, stringColumn_eq hlists.types, ok_bind,
      stringColumn_eq hlists.schemas, ok_bind, hlists.numRows]
    refine mapM_range_ok fun i row hrow => ?_
    rw [tableRow, textAt_eq hrow, ok_bind, textAt_eq hrow, ok_bind, textAt_eq hrow, ok_bind]
    rfl
  obtain ⟨found, hfound, hflatten⟩ := mapM_lists_ok hbatch h
  rw [tablesBySchemaFrom, hfound, ok_bind, hflatten]
  rfl

/-- The position of a row that has an offset. -/
theorem rowPosition_ok (ov : Overflow) {row : ℕ} (h : row < largestOffset) :
    ∃ position, rowPosition ov row = .ok position := by
  have hrow : (SInt.wrap 32 SInt.pos_32 (row : ℤ)).val = row :=
    SInt.val_wrap_of_mem SInt.pos_32 (by omega) (by unfold largestOffset at h; omega)
  obtain ⟨position, hposition, -⟩ : Yields (fit ov ((row : ℤ) + 1) : Exec AdbcError (SInt 32))
      ((row : ℤ) + 1) := yields_fit (by omega) (by unfold largestOffset at h; omega)
  refine ⟨position, ?_⟩
  rw [rowPosition, hrow]
  exact hposition

/-- A decimal of scale zero is read as its number. -/
theorem getIntValue_eq {precision : UInt8} {rows : List ColumnRow} {i : ℕ} {row : ColumnRow}
    (hrow : rows[i]? = some row) :
    getIntValue ⟨.decimal128 precision 0,
      rows.map fun c => some (c.column.ordinal.extend 128 SInt.le_32_128)⟩ i =
        some row.column.ordinal := by
  change (cellAt (rows.map fun c => some (c.column.ordinal.extend 128 SInt.le_32_128)) i).map
    (fun value : SInt 128 => SInt.wrap 32 SInt.pos_32 value.val) = _
  rw [cellAt_eq hrow, Option.map_some, SInt.val_extend, SInt.wrap_val]

theorem columnsByTableFrom_eq (ov : Overflow) {batches : List RecordBatch} {rows : List ColumnRow}
    (h : Lists ListsColumnRows batches rows) :
    columnsByTableFrom ov batches =
      .ok ((rows.map fun c => ((c.schema, c.table), c.column)).foldl pushEntry fun _ => none) := by
  have hbatch (batch : RecordBatch) (rows : List ColumnRow) (hlists : ListsColumnRows batch rows) :
      columnEntryRows ov batch = .ok (rows.map fun c => ((c.schema, c.table), c.column)) := by
    obtain ⟨precision, hordinals⟩ := hlists.ordinals
    have hcolumn : columnAt batch 1 = .ok ⟨.decimal128 precision 0,
        rows.map fun c => some (c.column.ordinal.extend 128 SInt.le_32_128)⟩ := by
      rw [columnAt, hordinals]
    rw [columnEntryRows, stringColumn_eq hlists.names, ok_bind, hcolumn, ok_bind,
      stringColumn_eq hlists.types, ok_bind, stringColumn_eq hlists.schemas, ok_bind,
      stringColumn_eq hlists.tables, ok_bind, hlists.numRows]
    refine mapM_range_ok fun i row hrow => ?_
    obtain ⟨position, hposition⟩ := rowPosition_ok ov
      (lt_of_lt_of_le (List.getElem?_eq_some_iff.mp hrow).1 hlists.few)
    rw [columnEntryRow, hposition, ok_bind, textAt_eq hrow, ok_bind, textAt_eq hrow, ok_bind,
      textAt_eq hrow, ok_bind, textAt_eq hrow, ok_bind, getIntValue_eq hrow]
    rfl
  obtain ⟨found, hfound, hflatten⟩ := mapM_lists_ok hbatch h
  rw [columnsByTableFrom, hfound, ok_bind, hflatten]
  rfl

/-! ### The catalog is listed -/

section Catalog

variable (r : CatalogRows)

/-- The tables, by their schema. -/
def groupedTables : TablesBySchema :=
  (r.tables.map fun t => (t.schema, (t.name, t.type))).foldl pushEntry fun _ => none

/-- The columns, by their schema and table. -/
def groupedColumns : ColumnMetadataMap :=
  (r.columns.map fun c => ((c.schema, c.table), c.column)).foldl pushEntry fun _ => none

theorem groupedTables_getD (schema : String) : (groupedTables r schema).getD [] =
    (r.tables.filter fun t => t.schema = schema).map fun t => (t.name, t.type) := by
  rw [groupedTables, foldl_pushEntry, List.filter_map, List.map_map]
  rfl

theorem groupedColumns_getD (schema table : String) :
    (groupedColumns r (schema, table)).getD [] = columnsOf r schema table := by
  rw [groupedColumns, foldl_pushEntry, List.filter_map, List.map_map, columnsOf]
  have hkey : ((fun row : (String × String) × ColumnEntry => decide (row.1 = (schema, table))) ∘
      fun c : ColumnRow => ((c.schema, c.table), c.column)) =
        fun c => decide (c.schema = schema ∧ c.table = table) := by
    funext c
    simp [Prod.ext_iff]
  rw [hkey]
  rfl

variable (depth : ObjectDepth)

theorem levels_ofDepth : (ObjectDepthLevels.ofDepth depth).schemas = decide (1 ≤ depth.level) ∧
    (ObjectDepthLevels.ofDepth depth).tables = decide (2 ≤ depth.level) ∧
    (ObjectDepthLevels.ofDepth depth).columns = decide (3 ≤ depth.level) := by
  cases depth <;> decide

theorem ite_level {α : Type} (n : ℕ) (entries : List α) :
    (if decide (n ≤ depth.level) = true then some entries else none) =
      atLevel depth n entries := by
  unfold atLevel
  by_cases h : n ≤ depth.level
  · rw [if_pos h, if_pos (decide_eq_true h)]
  · rw [if_neg h, if_neg (by simpa using h)]

/-- **What is written is what is to be listed.** -/
theorem writtenSchemas_eq {tables : TablesBySchema} {columns : ColumnMetadataMap}
    (htables : 2 ≤ depth.level → tables = groupedTables r)
    (hcolumns : 3 ≤ depth.level → columns = groupedColumns r) :
    writtenSchemas tables columns (ObjectDepthLevels.ofDepth depth) (r.schemas.filterMap id) =
      listing depth r := by
  obtain ⟨hschemaLevel, htableLevel, hcolumnLevel⟩ := levels_ofDepth depth
  have htable (schema : String) (t : TableRow) :
      writtenTable columns (ObjectDepthLevels.ofDepth depth) schema (t.name, t.type) =
        { name := t.name
          type := t.type
          columns := atLevel depth 3 (columnsOf r schema t.name)
          constraints := none } := by
    rw [writtenTable, hcolumnLevel, ite_level]
    by_cases h : 3 ≤ depth.level
    · rw [hcolumns h, groupedColumns_getD]
    · unfold atLevel
      rw [if_neg h, if_neg h]
  have hschema (schema : String) :
      writtenSchema tables columns (ObjectDepthLevels.ofDepth depth) schema =
        { name := schema, tables := atLevel depth 2 (tablesOf depth r schema) } := by
    rw [writtenSchema, htableLevel, ite_level]
    by_cases h : 2 ≤ depth.level
    · rw [htables h, groupedTables_getD, List.map_map, tablesOf]
      congr 2
      exact List.map_congr_left fun t _ => htable schema t
    · unfold atLevel
      rw [if_neg h, if_neg h]
  rw [writtenSchemas, hschemaLevel, ite_level, listing]
  congr 1
  exact List.map_congr_left fun schema _ => hschema schema

/-- All tables of schemas. -/
def allTables (schemas : List SchemaEntry) : List TableEntry :=
  items (schemas.map SchemaEntry.tables)

/-- All columns of the tables of schemas. -/
def allColumns (schemas : List SchemaEntry) : List ColumnEntry :=
  items ((allTables schemas).map TableEntry.columns)

/-- **The offsets of a batch have room** for the schemas: for their number and that
of all tables and columns, and for the bytes of each kind of text. -/
structure FitsOffsets (listed : List SchemaEntry) : Prop where
  schemas : listed.length ≤ largestOffset
  schemaNames : textBytes (listed.map SchemaEntry.name) ≤ largestOffset
  tables : (allTables listed).length ≤ largestOffset
  tableNames : textBytes ((allTables listed).map TableEntry.name) ≤ largestOffset
  tableTypes : textBytes ((allTables listed).map TableEntry.type) ≤ largestOffset
  columns : (allColumns listed).length ≤ largestOffset
  columnNames : textBytes ((allColumns listed).map ColumnEntry.name) ≤ largestOffset
  columnTypes : textBytes ((allColumns listed).map ColumnEntry.typeName) ≤ largestOffset

theorem mem_of_mem_atLevel {α : Type} {n : ℕ} {entries : List α} {entry : α}
    (h : entry ∈ (atLevel depth n entries).getD []) : entry ∈ entries := by
  unfold atLevel at h
  split_ifs at h
  · exact h
  · cases h

/-- No table that is listed has constraints. -/
theorem constraints_listing : ∀ table ∈ allTables ((listing depth r).getD []),
    table.constraints = none := by
  intro table htable
  obtain ⟨tables, htables, hmem⟩ := List.mem_flatMap.mp htable
  obtain ⟨schema, hschema, rfl⟩ := List.mem_map.mp htables
  obtain ⟨name, -, rfl⟩ := List.mem_map.mp (mem_of_mem_atLevel depth hschema)
  obtain ⟨t, -, rfl⟩ := List.mem_map.mp (mem_of_mem_atLevel depth hmem)
  rfl

/-- Then a batch of the catalog is built. -/
theorem fits_listing (h : FitsOffsets ((listing depth r).getD [])) :
    schemaEntry.list.fits [listing depth r] := by
  have hconstraints : items ((allTables ((listing depth r).getD [])).map TableEntry.constraints) =
      [] := by
    refine List.flatMap_eq_nil_iff.mpr fun constraints hmem => ?_
    obtain ⟨table, htable, rfl⟩ := List.mem_map.mp hmem
    rw [constraints_listing r depth table htable]
    rfl
  have hconstraintFits : constraintEntry.list.fits
      ((allTables ((listing depth r).getD [])).map TableEntry.constraints) := by
    change constraintEntry.fits (items _) ∧ (items _).length ≤ largestOffset
    rw [hconstraints]
    refine ⟨fun f hf => ?_, Nat.zero_le _⟩
    rcases List.mem_cons.mp hf with rfl | hf
    · exact Nat.zero_le _
    · rw [List.mem_singleton.mp hf]
      exact Nat.zero_le _
  change schemaEntry.fits (items [listing depth r]) ∧
    (items [listing depth r]).length ≤ largestOffset
  rw [items_singleton]
  refine ⟨fits_schemaEntry.mpr ⟨h.schemaNames, fits_tableEntry.mpr
    ⟨h.tableNames, h.tableTypes, ⟨fits_columnEntry.mpr ⟨h.columnNames, h.columnTypes⟩, h.columns⟩,
      hconstraintFits⟩, h.tables⟩, h.schemas⟩

end Catalog

/-- The three queries are answered with rows, in batches. -/
structure Answers (conn : RunsQuery) (dbSchema tableName : Option (List Char))
    (tableType : Option (List (List Char))) (columnName : Option (List Char))
    (r : CatalogRows) : Prop where
  schemas : ∃ batches, conn (getObjectsSchemasQuery dbSchema) = .ok batches ∧
    Lists ListsSchemas batches r.schemas
  tables : ∃ batches, conn (getObjectsTablesQuery dbSchema tableName tableType) = .ok batches ∧
    Lists ListsTables batches r.tables
  columns : ∃ batches, conn (getObjectsColumnsQuery dbSchema tableName columnName) = .ok batches ∧
    Lists ListsColumnRows batches r.columns

/-- A query that is asked and answered, or not asked. -/
theorem rowsIf_eq {α : Type} {asked : Bool} {otherwise found : α} {rows : Exec AdbcError α}
    (h : rows = .ok found) :
    ∃ value, rowsIf asked otherwise rows = .ok value ∧ (asked = true → value = found) := by
  cases asked with
  | false => exact ⟨otherwise, rfl, fun hasked => by cases hasked⟩
  | true => exact ⟨found, h, fun _ => rfl⟩

theorem queryBatches_eq {conn : RunsQuery} {sql : List Char} {batches : List RecordBatch}
    (h : conn sql = .ok batches) : queryBatches conn sql = .ok batches := by
  rw [queryBatches, h]

section Result

variable {ov : Overflow} {conn : RunsQuery} {depth : ObjectDepth}
  {catalog dbSchema tableName : Option (List Char)} {tableType : Option (List (List Char))}
  {columnName : Option (List Char)} {r : CatalogRows}

/-- The three results, as far as they are asked for, make the batch. -/
theorem getObjects_eq (hcatalog : catalogIsExasol catalog = true)
    (hanswers : Answers conn dbSchema tableName tableType columnName r) :
    ∃ schemas tables columns, (1 ≤ depth.level → schemas = r.schemas.filterMap id) ∧
      (2 ≤ depth.level → tables = groupedTables r) ∧
      (3 ≤ depth.level → columns = groupedColumns r) ∧
      getObjects ov (some conn) depth catalog dbSchema tableName tableType columnName =
        (buildGetObjectsBatch tables columns (ObjectDepthLevels.ofDepth depth) schemas >>=
          fun batch => .ok [batch]) := by
  obtain ⟨schemaBatches, hschemas, hschemaRows⟩ := hanswers.schemas
  obtain ⟨tableBatches, htables, htableRows⟩ := hanswers.tables
  obtain ⟨columnBatches, hcolumns, hcolumnRows⟩ := hanswers.columns
  obtain ⟨hschemaLevel, htableLevel, hcolumnLevel⟩ := levels_ofDepth depth
  have hschemaRead : (queryBatches conn (getObjectsSchemasQuery dbSchema) >>= schemaNamesFrom) =
      .ok (r.schemas.filterMap id) := by
    rw [queryBatches_eq hschemas, ok_bind, schemaNamesFrom_eq hschemaRows]
  have htableRead : (queryBatches conn (getObjectsTablesQuery dbSchema tableName tableType) >>=
      tablesBySchemaFrom) = .ok (groupedTables r) := by
    rw [queryBatches_eq htables, ok_bind, tablesBySchemaFrom_eq htableRows]
    rfl
  have hcolumnRead : (queryBatches conn (getObjectsColumnsQuery dbSchema tableName columnName) >>=
      columnsByTableFrom ov) = .ok (groupedColumns r) := by
    rw [queryBatches_eq hcolumns, ok_bind, columnsByTableFrom_eq ov hcolumnRows]
    rfl
  obtain ⟨schemas, hschemaValue, hschemaAsked⟩ := @rowsIf_eq _
    (ObjectDepthLevels.ofDepth depth).schemas [] _ _ hschemaRead
  obtain ⟨tables, htableValue, htableAsked⟩ := @rowsIf_eq _
    (ObjectDepthLevels.ofDepth depth).tables (fun _ => none) _ _ htableRead
  obtain ⟨columns, hcolumnValue, hcolumnAsked⟩ := @rowsIf_eq _
    (ObjectDepthLevels.ofDepth depth).columns (fun _ => none) _ _ hcolumnRead
  refine ⟨schemas, tables, columns, fun h => hschemaAsked (by rw [hschemaLevel, decide_eq_true h]),
    fun h => htableAsked (by rw [htableLevel, decide_eq_true h]),
    fun h => hcolumnAsked (by rw [hcolumnLevel, decide_eq_true h]), ?_⟩
  rw [getObjects, hcatalog, requireConnection, orFail_some]
  change (rowsIf _ _ _ >>= _) = _
  rw [hschemaValue, ok_bind, htableValue, ok_bind, hcolumnValue, ok_bind]
  rfl

/-- What is written does not depend on results that are not asked for. -/
theorem writtenSchemas_level {tables : TablesBySchema} {columns : ColumnMetadataMap}
    {schemas : List String} (h : 1 ≤ depth.level → schemas = r.schemas.filterMap id) :
    writtenSchemas tables columns (ObjectDepthLevels.ofDepth depth) schemas =
      writtenSchemas tables columns (ObjectDepthLevels.ofDepth depth)
        (r.schemas.filterMap id) := by
  rw [writtenSchemas, writtenSchemas, (levels_ofDepth depth).1, ite_level, ite_level]
  unfold atLevel
  by_cases hlevel : 1 ≤ depth.level
  · rw [h hlevel]
  · rw [if_neg hlevel, if_neg hlevel]

/-- **The rows of the batch are the catalog**, as long as its offsets have room. -/
theorem getObjects_rows (hcatalog : catalogIsExasol catalog = true)
    (hanswers : Answers conn dbSchema tableName tableType columnName r)
    (hfits : FitsOffsets ((listing depth r).getD [])) :
    ∃ batch, getObjects ov (some conn) depth catalog dbSchema tableName tableType columnName =
        .ok [batch] ∧
      batch.rows = [.struct [.text "EXA", listValue schemaEntry.value (listing depth r)]] := by
  obtain ⟨schemas, tables, columns, hschemas, htables, hcolumns, hresult⟩ :=
    @getObjects_eq ov conn depth catalog dbSchema tableName tableType columnName r hcatalog hanswers
  have hwritten := (writtenSchemas_level hschemas).trans
    (writtenSchemas_eq r depth htables hcolumns)
  have hroom := fits_listing r depth hfits
  rw [← hwritten] at hroom
  have hbuilt := buildGetObjectsBatch_eq tables columns (ObjectDepthLevels.ofDepth depth) hroom
  rw [hwritten] at hbuilt
  refine ⟨_, ?_, rows_catalogBatch (listing depth r)⟩
  rw [hresult, hbuilt, ok_bind]

end Result

/-! ### A connection that answers -/

/-- A batch of columns. -/
def batchOf (n : ℕ) (columns : List Column) (h : ∀ c ∈ columns, c.length = n) : RecordBatch where
  schema := ⟨columns.map fun c => { name := "", dataType := c.dataType, nullable := true }⟩
  columns := columns
  numRows := n
  admits := List.forall₂_map_left_iff.mpr (List.forall₂_same.mpr fun c _ => by
    refine ⟨rfl, fun h => ?_⟩
    cases h)
  lengths := h

/-- A batch of one schema. -/
def schemaBatch (name : Option String) : RecordBatch :=
  batchOf 1 [⟨.utf8, [name]⟩] (List.forall_mem_singleton.mpr rfl)

/-- A batch of tables. -/
def tableBatch (rows : List TableRow) : RecordBatch :=
  batchOf rows.length [⟨.utf8, rows.map fun t => some t.name⟩,
    ⟨.utf8, rows.map fun t => some t.type⟩, ⟨.utf8, rows.map fun t => some t.schema⟩]
    (by simp [Column.length])

/-- A batch of columns of tables. -/
def columnBatch (rows : List ColumnRow) : RecordBatch :=
  batchOf rows.length [⟨.utf8, rows.map fun c => some c.column.name⟩,
    ⟨.decimal128 18 0, rows.map fun c => some (c.column.ordinal.extend 128 SInt.le_32_128)⟩,
    ⟨.utf8, rows.map fun c => some c.column.typeName⟩, ⟨.utf8, rows.map fun c => some c.schema⟩,
    ⟨.utf8, rows.map fun c => some c.table⟩] (by simp [Column.length])

/-- A connection that answers the three queries, each schema in a batch of its
own. -/
def answering (r : CatalogRows) : RunsQuery := fun sql =>
  if sql = getObjectsSchemasQuery none then .ok (r.schemas.map schemaBatch)
  else if sql = getObjectsTablesQuery none none none then .ok [tableBatch r.tables]
  else .ok [columnBatch r.columns]

theorem queries_differ : getObjectsTablesQuery none none none ≠ getObjectsSchemasQuery none ∧
    getObjectsColumnsQuery none none none ≠ getObjectsSchemasQuery none ∧
    getObjectsColumnsQuery none none none ≠ getObjectsTablesQuery none none none := by
  decide +kernel

theorem answers_answering {r : CatalogRows} (h : r.columns.length ≤ largestOffset) :
    Answers (answering r) none none none none r := by
  obtain ⟨htable, hcolumn, hcolumn'⟩ := queries_differ
  refine ⟨⟨_, if_pos rfl, r.schemas.map fun s => [s], ?_, ?_⟩,
    ⟨_, (if_neg htable).trans (if_pos rfl), [r.tables], .cons ?_ .nil, (List.append_nil _).symm⟩,
    ⟨_, (if_neg hcolumn).trans (if_neg hcolumn'), [r.columns], .cons ?_ .nil,
      (List.append_nil _).symm⟩⟩
  · rw [List.forall₂_map_left_iff, List.forall₂_map_right_iff]
    exact List.forall₂_same.mpr fun s _ => rfl
  · exact (List.flatMap_singleton' r.schemas).symm
  · exact ⟨rfl, rfl, rfl, rfl⟩
  · exact ⟨rfl, h, rfl, ⟨18, rfl⟩, rfl, rfl, rfl⟩

/-- One schema, with a table of one column, and a table of a schema that is not
listed. -/
def smallCatalog : CatalogRows where
  schemas := [some "SALES", none]
  tables := [⟨"SALES", "T", "TABLE"⟩, ⟨"SYS", "T", "VIEW"⟩]
  columns := [⟨"SALES", "T", "A", 1, "BOOLEAN"⟩, ⟨"SYS", "T", "B", 1, "DATE"⟩]

/-- A small catalog is listed. -/
theorem getObjects_rows_small : listing .all smallCatalog =
      some [⟨"SALES", some [⟨"T", "TABLE", some [⟨"A", 1, "BOOLEAN"⟩], none⟩]⟩] ∧
    ∃ batch, getObjects .panics (some (answering smallCatalog)) .all none none none none none =
        .ok [batch] ∧
      batch.rows =
        [.struct [.text "EXA", listValue schemaEntry.value (listing .all smallCatalog)]] := by
  have hlisting : listing .all smallCatalog =
      some [⟨"SALES", some [⟨"T", "TABLE", some [⟨"A", 1, "BOOLEAN"⟩], none⟩]⟩] := by
    simp [listing, atLevel, ObjectDepth.level, smallCatalog, tablesOf, columnsOf]
  refine ⟨hlisting, getObjects_rows rfl (answers_answering ?_) ?_⟩
  · decide
  · rw [hlisting]
    exact ⟨by decide, by decide +kernel, by decide, by decide +kernel, by decide +kernel,
      by decide, by decide +kernel, by decide +kernel⟩

/-! ### Offsets without room -/

/-- A name for which there is no room stops the program. -/
theorem appendSchemaEntry_stop {tables : TablesBySchema} {columns : ColumnMetadataMap}
    {levels : ObjectDepthLevels} {pending : List SchemaEntry} {schemaName : String}
    (h : largestOffset < textBytes (pending.map SchemaEntry.name ++ [schemaName])) :
    appendSchemaEntry tables columns levels schemaName (schemaEntry.openList [] pending) =
      stop := by
  have htext : (appendText schemaName (.utf8 (pending.map SchemaEntry.name)) :
      Exec AdbcError Builder) = stop := if_neg (not_le_of_gt h)
  have hname : appendStringField 0 "db_schema_name" schemaName (schemaEntry.build pending) = stop :=
    onField_stop rfl ((downcast_eq rfl _ _).trans htext)
  rw [appendSchemaEntry, ColumnOf.openList]
  change (appendSchemaFields tables columns levels schemaName (schemaEntry.build pending) >>= _) = _
  rw [appendSchemaFields, hname]
  rfl

/-- Texts that are too long are too long from some text on. -/
theorem exists_first_over {n : ℕ} {done xs : List String} (h : textBytes done ≤ n)
    (hover : n < textBytes (done ++ xs)) : ∃ before x after, xs = before ++ x :: after ∧
      textBytes (done ++ before) ≤ n ∧ n < textBytes (done ++ before ++ [x]) := by
  induction xs generalizing done with
  | nil =>
    rw [List.append_nil] at hover
    exact absurd h (not_le_of_gt hover)
  | cons x xs ih =>
    by_cases hx : n < textBytes (done ++ [x])
    · exact ⟨[], x, xs, rfl, by rwa [List.append_nil], by rwa [List.append_nil]⟩
    · have hsplit : done ++ x :: xs = done ++ [x] ++ xs := by simp
      rw [hsplit] at hover
      obtain ⟨before, y, after, rfl, hbefore, hy⟩ := ih (not_lt.mp hx) hover
      refine ⟨x :: before, y, after, rfl, ?_, ?_⟩
      · simpa using hbefore
      · simpa using hy

/-- The schemas alone have room if their names have. -/
theorem fits_schemasOnly {names : List String} (h : textBytes names ≤ largestOffset) :
    schemaEntry.fits (names.map fun name => ⟨name, none⟩) := by
  have hempty : tableEntry.fits [] := by
    have hroom := fits_listing ⟨[], [], []⟩ .schemas ⟨Nat.zero_le _, Nat.zero_le _, Nat.zero_le _,
      Nat.zero_le _, Nat.zero_le _, Nat.zero_le _, Nat.zero_le _, Nat.zero_le _⟩
    exact (fits_schemaEntry.mp hroom.1).2.1
  have hitems : items (names.map fun _ => (none : Option (List TableEntry))) = [] := by
    refine List.flatMap_eq_nil_iff.mpr fun l hl => ?_
    obtain ⟨name, -, rfl⟩ := List.mem_map.mp hl
    rfl
  rw [fits_schemaEntry, List.map_map, List.map_map]
  refine ⟨?_, ?_⟩
  · have hnames : names.map (SchemaEntry.name ∘ fun name => ⟨name, none⟩) = names :=
      List.map_id names
    rwa [hnames]
  · change tableEntry.fits (items (names.map fun _ => none)) ∧
      (items (names.map fun _ => none)).length ≤ largestOffset
    rw [hitems]
    exact ⟨hempty, Nat.zero_le _⟩

/-- **Names that are longer than the offsets can tell** stop the program. -/
theorem getObjects_stop {ov : Overflow} {names : List String}
    (h : largestOffset < textBytes names) :
    getObjects ov (some (answering ⟨names.map some, [], []⟩)) .schemas none none none none none =
      stop := by
  obtain ⟨schemas, tables, columns, hschemas, -, -, hresult⟩ :=
    @getObjects_eq ov _ .schemas none none none none none _ rfl
      (@answers_answering ⟨names.map some, [], []⟩ (Nat.zero_le _))
  have hnames : schemas = names := by
    rw [hschemas le_rfl, List.filterMap_map]
    exact List.filterMap_some
  obtain ⟨before, x, after, hsplit, hbefore, hx⟩ :=
    @exists_first_over largestOffset [] names (Nat.zero_le _) h
  rw [List.nil_append] at hbefore hx
  -- the schemas before the first name without room are written
  have hstep (pending : List SchemaEntry) (name : String)
      (hfits : schemaEntry.fits (items [] ++ (pending ++ [⟨name, none⟩]))) :
      appendSchemaEntry tables columns (ObjectDepthLevels.ofDepth .schemas) name
        (schemaEntry.openList [] pending) =
          .ok (schemaEntry.openList [] (pending ++ [⟨name, none⟩])) := by
    rw [← List.append_assoc] at hfits
    exact schemaEntry.onItem_open (appendSchemaFields_eq tables columns _ hfits)
  have hfold : before.foldlM (fun schemaList name =>
      appendSchemaEntry tables columns (ObjectDepthLevels.ofDepth .schemas) name schemaList)
      (schemaEntry.openList [] []) = .ok (schemaEntry.openList []
        ([] ++ before.map fun name => ⟨name, none⟩)) := by
    refine ColumnOf.foldlM_open schemaEntry hstep ?_
    rw [List.nil_append]
    exact fits_schemasOnly hbefore
  have hstops : appendSchemaEntry tables columns (ObjectDepthLevels.ofDepth .schemas) x
      (schemaEntry.openList [] ([] ++ before.map fun name => ⟨name, none⟩)) = stop := by
    refine appendSchemaEntry_stop ?_
    rw [List.nil_append, List.map_map]
    have hnames : before.map (SchemaEntry.name ∘ fun name => ⟨name, none⟩) = before :=
      List.map_id before
    rwa [hnames]
  have hlist : appendSchemaList tables columns (ObjectDepthLevels.ofDepth .schemas) names
      (schemaEntry.openList [] []) = stop := by
    have hlevel : (ObjectDepthLevels.ofDepth .schemas).schemas = true := rfl
    rw [appendSchemaList, if_pos hlevel, hsplit, List.foldlM_append, hfold, ok_bind,
      List.foldlM_cons, hstops]
    rfl
  rw [hresult, hnames, buildGetObjectsBatch, open_nil]
  change ((appendSchemaList tables columns (ObjectDepthLevels.ofDepth .schemas) names
    (schemaEntry.openList [] []) >>= _) >>= _) = _
  rw [hlist]
  rfl

/-- Numbered names of the greatest length that a name has. -/
def numberedName (i : ℕ) : String := String.ofList (Numeral.pad 128 (Numeral.natText i))

/-- A text of digits has a byte for each. -/
theorem utf8ByteSize_of_digits {s : List Char} (h : Numeral.AllDigits s) :
    (String.ofList s).utf8ByteSize = s.length := by
  induction s with
  | nil => rfl
  | cons c s ih =>
    obtain ⟨hc, hs⟩ := List.forall_mem_cons.mp h
    have hsize : c.utf8Size = 1 := by
      have hdigit : c.val ≤ 57 := of_decide_eq_true (Bool.and_eq_true_iff.mp hc).2
      have hlow : (57 : UInt32) ≤ 127 := by decide
      exact if_pos (UInt32.le_trans hdigit hlow)
    rw [String.ofList_cons, String.utf8ByteSize_append, String.utf8ByteSize_singleton, ih hs, hsize,
      List.length_cons, Nat.add_comm]

theorem utf8ByteSize_numberedName {i : ℕ} (h : i < 10 ^ 128) :
    (numberedName i).utf8ByteSize = 128 := by
  rw [numberedName, utf8ByteSize_of_digits (Numeral.allDigits_padded 128 i)]
  exact Numeral.length_pad (Numeral.length_natText_le (by decide) h)

theorem textBytes_numberedNames {n : ℕ} (h : n ≤ 10 ^ 128) :
    textBytes ((List.range n).map numberedName) = 128 * n := by
  induction n with
  | zero => rfl
  | succ n ih =>
    rw [List.range_succ, List.map_append, List.map_singleton, textBytes_append,
      ih (Nat.le_of_succ_le h), textBytes, List.map_singleton, List.sum_singleton,
      utf8ByteSize_numberedName h]
    rfl

/-- **Sixteen million schemas** with names of the greatest length stop the program. -/
theorem many_schemas_stop : getObjects .wraps
    (some (answering ⟨((List.range 16777216).map numberedName).map some, [], []⟩))
    .schemas none none none none none = stop := by
  have hstop {n : ℕ} (h : n ≤ 10 ^ 128) (hover : largestOffset < 128 * n) : getObjects .wraps
      (some (answering ⟨((List.range n).map numberedName).map some, [], []⟩))
      .schemas none none none none none = stop := by
    refine getObjects_stop ?_
    rwa [textBytes_numberedNames h]
  exact hstop (by norm_num) (by decide)

end Exarrow.Ffi
