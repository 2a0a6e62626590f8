import Exarrow.Ddl.Tokens
import Exarrow.Ffi.Parameters
import Exarrow.Foundations.Replacing
import Exarrow.Import.Options
import Exarrow.Inference

/-!
# Bulk ingestion

Ingesting a bound batch sends statements that create or drop the target table, and then an IMPORT
(`Exarrow.Ffi.executeBulkIngest`). Names are put in quotes, so that any text may be a name
(`Exarrow.Ffi.quoteIdentifier`); the name of the table is put together once and is part of every
statement. The statement that creates a table unless it exists is made from the other one by
replacing text.

**The statements have the tokens that are meant** (`Exarrow.Ffi.Intended`) **unless a name holds
the text that is replaced** (`Exarrow.Ffi.intended_iff`): the replacement reaches into the quotes.
-/

namespace Exarrow.Ffi

open Lexing Arrow Query Ddl Import Replacing Text Numeral
open Csv (Tunnel)

/-! ### Options -/

/-- The value of an option. -/
inductive OptionValue where
  | string (s : List Char)
  | bytes (bs : List UInt8)
  | int (n : Machine.SInt 64)
  | double (x : Ieee.F64)

/-- The text of an option, if it has one. -/
def stringOption : Option OptionValue → Option (List Char)
  | some (.string s) => some s
  | _ => none

/-- The options of an ingestion. -/
structure IngestOptions where
  targetTable : Option OptionValue := none
  temporary : Option OptionValue := none
  targetDbSchema : Option OptionValue := none
  mode : Option OptionValue := none
  targetCatalog : Option OptionValue := none

/-- How a table is ingested into. -/
inductive IngestMode where
  | create
  | append
  | createAppend
  | replace
  deriving DecidableEq

/-- The text of a mode. -/
def IngestMode.text : IngestMode → String
  | create => "adbc.ingest.mode.create"
  | append => "adbc.ingest.mode.append"
  | createAppend => "adbc.ingest.mode.create_append"
  | replace => "adbc.ingest.mode.replace"

/-- The mode of a text. -/
def IngestMode.ofText? (s : List Char) : Option IngestMode :=
  [create, append, createAppend, replace].find? fun mode => mode.text.toList = s

/-- What an ingestion is into, and how. -/
structure IngestTarget where
  schema : Option (List Char)
  table : List Char
  mode : IngestMode

/-- The target, unless an option is missing or not supported. -/
def ingestTarget (options : IngestOptions) : Except AdbcError IngestTarget :=
  match stringOption options.targetTable with
  | none => .error ⟨.text "Target table not set for bulk ingestion", .invalidState⟩
  | some table =>
    if stringOption options.temporary = some "true".toList then
      .error ⟨.text "Exasol does not support temporary tables", .notImplemented⟩
    else
      let modeText := (stringOption options.mode).getD IngestMode.append.text.toList
      match IngestMode.ofText? modeText with
      | some mode => .ok { schema := stringOption options.targetDbSchema, table, mode }
      | none => .error (invalidArgument s!"Unknown ingest mode: {String.ofList modeText}")

/-! ### Checks -/

/-- A catalog that is not told, or is `EXA` in any case. -/
def catalogIsExasol (catalog : Option (List Char)) : Bool :=
  match catalog with
  | none => true
  | some name => name.map Char.toUpper = "EXA".toList

/-- The text of the value of an option for a developer. -/
abbrev ShowsOption : Type := OptionValue → String

/-- There is only one catalog. -/
def checkIngestTargetCatalog (showOption : ShowsOption) (catalog : Option OptionValue) :
    Except AdbcError Unit :=
  let unsupported (value : OptionValue) : AdbcError := invalidArgument
    s!"Target catalog {showOption value} is not supported: Exasol has only the catalog EXA"
  match catalog with
  | none => .ok ()
  | some (.string name) =>
    if catalogIsExasol (some name) then .ok () else .error (unsupported (.string name))
  | some other => .error (unsupported other)

section Statements

variable (lib : FormatterLibrary)

/-- A column has an Exasol type. -/
def checkIngestColumnType (field : Field) : Except AdbcError Unit :=
  match TypeMapper.arrowToExasol lib.debug field.dataType with
  | .ok _ => .ok ()
  | .error e => .error (invalidArgument (s!"Cannot ingest column '{field.name}' of Arrow type " ++
      s!"{lib.debug field.dataType}: {unsupportedText e}"))

/-- Every column has an Exasol type, and its values can be written. -/
def checkIngestColumnTypes (schema : Schema) : Except AdbcError Unit := do
  forM schema.fields (checkIngestColumnType lib)
  (checkSchemaConverts lib schema).mapError fun e =>
    invalidArgument s!"Cannot ingest the bound columns: {e.text}"

/-! ### Statements -/

/-- A name in double quotes; those within it are doubled. -/
def quoteIdentifier (name : List Char) : List Char :=
  '"' :: name.flatMap (fun a => if a = '"' then ['"', '"'] else [a]) ++ ['"']

/-- **The name of a table with its schema.** Without a schema of its own, a name
with a point in it is taken for both. -/
def buildQualifiedTableName (schema : Option (List Char)) (table : List Char) : List Char :=
  match schema with
  | some schema => quoteIdentifier schema ++ '.' :: quoteIdentifier table
  | none =>
    match splitOnce '.' table with
    | some (schemaPart, tablePart) => quoteIdentifier schemaPart ++ '.' :: quoteIdentifier tablePart
    | none => quoteIdentifier table

/-- The definition of a column. -/
def columnDefinition (field : Field) (t : ExasolType) : List Char :=
  if field.nullable then quoteIdentifier field.name.toList ++ ' ' :: t.toDdlType
  else quoteIdentifier field.name.toList ++ ' ' :: t.toDdlType ++ " NOT NULL".toList

/-- A field with its Exasol type. -/
def mapField (field : Field) : Except AdbcError (Field × ExasolType) :=
  match TypeMapper.arrowToExasol lib.debug field.dataType with
  | .ok t => .ok (field, t)
  | .error e => .error (invalidArgument (s!"Cannot map Arrow type {lib.debug field.dataType} " ++
      s!"for column '{field.name}': {unsupportedText e}"))

/-- The statement that creates a table with columns. -/
def createTableText (tableName : List Char) (columns : List (Field × ExasolType)) : List Char :=
  "CREATE TABLE ".toList ++ tableName ++ " (".toList ++
    ", ".toList.intercalate (columns.map fun column => columnDefinition column.1 column.2) ++ [')']

/-- **The statement that creates a table for a schema.** -/
def generateCreateTableDdl (tableName : List Char) (schema : Schema) :
    Except AdbcError (List Char) := do
  let columns ← schema.fields.mapM (mapField lib)
  return createTableText tableName columns

/-- What is replaced, to create a table only unless it exists. -/
def createTable : List Char := "CREATE TABLE".toList

/-- What it is replaced by. -/
def createTableIfNotExists : List Char := "CREATE TABLE IF NOT EXISTS".toList

/-- The statements ahead of the import. -/
def ingestDdl (mode : IngestMode) (tableName : List Char) (schema : Schema) :
    Except AdbcError (List (List Char)) :=
  match mode with
  | .create => do
    let ddl ← generateCreateTableDdl lib tableName schema
    return [ddl]
  | .createAppend => do
    let ddl ← generateCreateTableDdl lib tableName schema
    return [replaceAll createTable createTableIfNotExists ddl]
  | .replace => do
    let ddl ← generateCreateTableDdl lib tableName schema
    return ["DROP TABLE IF EXISTS ".toList ++ tableName, ddl]
  | .append => .ok []

/-- The IMPORT into a table through a tunnel. -/
def importStatement (tableName : List Char) (tunnel : Tunnel) : ImportQuery :=
  (csvImportOptions {}).buildQuery tableName tunnel.internalAddress tunnel.publicKeyFingerprint

/-- The statements of an ingestion, each sent when the one before has been
executed. -/
structure IngestPlan where
  ddl : List (List Char)
  importSql : Tunnel → List Char

/-- The statements for a target and a schema. -/
def ingestPlan (showOption : ShowsOption) (catalog : Option OptionValue) (connected : Bool)
    (target : IngestTarget) (schema : Schema) : Except AdbcError IngestPlan := do
  checkIngestTargetCatalog showOption catalog
  checkIngestColumnTypes lib schema
  let tableName := buildQualifiedTableName target.schema target.table
  if connected then do
    let ddl ← ingestDdl lib target.mode tableName schema
    return { ddl, importSql := fun tunnel => (importStatement tableName tunnel).build }
  else .error ⟨.text "No connection available", .invalidState⟩

/-- What an ingestion works on. -/
structure IngestStatement where
  options : IngestOptions
  boundData : Option Schema
  connected : Bool

/-- **Ingest the bound batch.** The batch is bound no more once the target is
known. -/
def executeBulkIngest (showOption : ShowsOption) (stmt : IngestStatement) :
    Except AdbcError IngestPlan × IngestStatement :=
  match ingestTarget stmt.options with
  | .error e => (.error e, stmt)
  | .ok target =>
    match stmt.boundData with
    | none => (.error ⟨.text "No data bound for bulk ingestion", .invalidState⟩, stmt)
    | some schema =>
      (ingestPlan lib showOption stmt.options.targetCatalog stmt.connected target schema,
        { stmt with boundData := none })

end Statements

/-! ### What is meant -/

/-- **The names that are requested**: the table, with its schema. A name with a
point in it stands for both if no schema is given. -/
def requestedNames (schema : Option (List Char)) (table : List Char) : List (List Char) :=
  match schema with
  | some schema => [schema, table]
  | none =>
    match splitOnce '.' table with
    | some (schemaPart, tablePart) => [schemaPart, tablePart]
    | none => [table]

/-- The tokens of the name of a table. -/
def tableTokens (names : List (List Char)) : List Token :=
  [Token.symbol '.'].intercalate (names.map fun name => [.quoted name])

/-- The tokens of the definition of a column. -/
def definitionTokens (field : Field) (t : ExasolType) : List Token :=
  .quoted field.name.toList ::
    (typeTokens t ++ if field.nullable then [] else [keyword "NOT", keyword "NULL"])

/-- The tokens of a statement that creates a table. -/
def createTokens (condition : List Token) (names : List (List Char))
    (columns : List (Field × ExasolType)) : List Token :=
  [keyword "CREATE", keyword "TABLE"] ++ condition ++ tableTokens names ++ .symbol '(' ::
    ([Token.symbol ','].intercalate (columns.map fun column =>
      definitionTokens column.1 column.2) ++ [.symbol ')'])

/-- The condition that a table does not exist. -/
def unlessItExists : List Token := [keyword "IF", keyword "NOT", keyword "EXISTS"]

/-- The tokens of the statements ahead of the import. -/
def ddlTokens (mode : IngestMode) (names : List (List Char))
    (columns : List (Field × ExasolType)) : List (List Token) :=
  match mode with
  | .create => [createTokens [] names columns]
  | .createAppend => [createTokens unlessItExists names columns]
  | .replace =>
    [[keyword "DROP", keyword "TABLE", keyword "IF", keyword "EXISTS"] ++ tableTokens names,
      createTokens [] names columns]
  | .append => []

/-- The tokens of the import. -/
def importTokens (names : List (List Char)) (tunnel : Tunnel) : List Token :=
  let query := importStatement [] tunnel
  [keyword "IMPORT", keyword "INTO"] ++ tableTokens names ++
    (query.sourceTokens ++ query.csvOptionTokens)

/-- The columns are the fields in order, each with the type it maps to. -/
def Maps (lib : FormatterLibrary) (schema : Schema) (columns : List (Field × ExasolType)) : Prop :=
  columns.map Prod.fst = schema.fields ∧
    ∀ column ∈ columns, TypeMapper.arrowToExasol lib.debug column.1.dataType = .ok column.2

/-- **The statements have the tokens that are meant**: one definition for each
field, the same names everywhere. -/
def Intended (lib : FormatterLibrary) (target : IngestTarget) (schema : Schema)
    (plan : IngestPlan) : Prop :=
  ∃ columns, Maps lib schema columns ∧
    plan.ddl.map lex = (ddlTokens target.mode (requestedNames target.schema target.table)
      columns).map some ∧
    ∀ tunnel, lex (plan.importSql tunnel) =
      some (importTokens (requestedNames target.schema target.table) tunnel)

/-- **No name holds the text that is replaced**, if it is. -/
def Spared (target : IngestTarget) (schema : Schema) : Prop :=
  target.mode = .createAppend →
    ∀ name ∈ requestedNames target.schema target.table ++ schema.fields.map (·.name.toList),
      ¬createTable <:+: name

/-! ### Names are read back -/

/-- The name of a table is one quoted name, or two with a point between them. -/
theorem tableName_cases (schema : Option (List Char)) (table : List Char) :
    (∃ t, requestedNames schema table = [t] ∧
      buildQualifiedTableName schema table = quotedName t) ∨
    ∃ s t, requestedNames schema table = [s, t] ∧
      buildQualifiedTableName schema table = quotedName s ++ '.' :: quotedName t := by
  rcases schema with _ | s
  · rcases hsplit : splitOnce '.' table with _ | ⟨s, t⟩
    · refine .inl ⟨table, by rw [requestedNames, hsplit], ?_⟩
      rw [buildQualifiedTableName, hsplit]
      rfl
    · refine .inr ⟨s, t, by rw [requestedNames, hsplit], ?_⟩
      rw [buildQualifiedTableName, hsplit]
      rfl
  · exact .inr ⟨s, table, rfl, rfl⟩

/-- **Any number of quoted names with points between them.** -/
def qualifiedText (names : List (List Char)) : List Char := ['.'].intercalate (names.map quotedName)

theorem buildQualifiedTableName_eq (schema : Option (List Char)) (table : List Char) :
    buildQualifiedTableName schema table = qualifiedText (requestedNames schema table) := by
  rcases tableName_cases schema table with ⟨t, hnames, htext⟩ | ⟨s, t, hnames, htext⟩
  · rw [hnames, htext]
    simp [qualifiedText]
  · rw [hnames, htext]
    simp [qualifiedText, List.intercalate_cons_cons]

/-- **Quoted names are read back**, whatever their texts. -/
theorem reads_qualifiedText {names : List (List Char)} (hne : names ≠ []) :
    ∃ last, Reads (qualifiedText names) (tableTokens names) last ∧ EndsName last := by
  induction names with
  | nil => exact absurd rfl hne
  | cons name names ih =>
    cases names with
    | nil =>
      simp only [qualifiedText, tableTokens, List.map_cons, List.map_nil,
        List.intercalate_singleton]
      exact reads_quoted name
    | cons next names =>
      obtain ⟨m, hreads, hm⟩ := reads_quoted name
      obtain ⟨last, ⟨done, hrun, htokens⟩, hlast⟩ := ih (List.cons_ne_nil _ _)
      -- a quote behind the point does not go on with it
      have hquote : ∃ s, qualifiedText (next :: names) = '"' :: s := by
        cases names with
        | nil => exact ⟨double '"' next ++ ['"'], by simp [qualifiedText, quotedName]⟩
        | cons other names =>
          exact ⟨_, by
            simp only [qualifiedText, List.map_cons, List.intercalate_cons_cons, quotedName,
              List.cons_append]
            rfl⟩
      obtain ⟨s, hs⟩ := hquote
      have hpoint : Reads ('.' :: qualifiedText (next :: names))
          (.symbol '.' :: tableTokens (next :: names)) last := by
        refine ⟨.symbol '.' :: done, ?_, by rw [htokens, List.cons_append]⟩
        rw [run_cons]
        change (([] : List Token) ++ (run .dot (qualifiedText (next :: names))).1,
          (run .dot (qualifiedText (next :: names))).2) = _
        rw [hs, run_of_extend_eq_none rfl, ← hs, hrun]
        rfl
      refine ⟨last, ?_, hlast⟩
      have htext : qualifiedText (name :: next :: names) =
          quotedName name ++ '.' :: qualifiedText (next :: names) := by
        simp [qualifiedText, List.intercalate_cons_cons]
      have htoken : tableTokens (name :: next :: names) =
          [.quoted name] ++ .symbol '.' :: tableTokens (next :: names) := by
        simp [tableTokens, List.intercalate_cons_cons]
      rw [htext, htoken]
      exact hreads.append hpoint (List.cons_ne_nil _ _) (hm.extend '.' (by decide) (by decide))

/-- **The definition of a column is read back.** -/
theorem reads_columnDefinition (field : Field) (t : ExasolType) :
    ∃ last, Reads (columnDefinition field t) (definitionTokens field t) last ∧ EndsName last := by
  obtain ⟨m, hname, hm⟩ := reads_quoted field.name.toList
  obtain ⟨last, htype, hlast⟩ := reads_toDdlType t
  have hblank : Reads [' '] [] .between := ⟨[], rfl, rfl⟩
  have hdefinition := hname.append
    (hblank.append htype (toDdlType_ne_nil t) (parted_between _))
    (List.cons_ne_nil _ _) (hm.extend ' ' (by decide) (by decide))
  unfold columnDefinition definitionTokens
  split_ifs with hnullable
  · rw [List.append_nil]
    exact ⟨last, hdefinition, hlast⟩
  · have hnull : Reads " NOT NULL".toList [keyword "NOT", keyword "NULL"] (.word "NULL".toList) :=
      ⟨[keyword "NOT"], by decide +kernel, rfl⟩
    refine ⟨_, ?_, endsName_word "NULL".toList⟩
    exact hdefinition.append hnull (by decide) (hlast.extend ' ' (by decide) (by decide))

/-- The columns in parentheses. -/
def columnsText (columns : List (Field × ExasolType)) : List Char :=
  ", ".toList.intercalate (columns.map fun column => columnDefinition column.1 column.2) ++ [')']

/-- A statement that creates a table, with other words ahead. -/
def createText (head : List Char) (names : List (List Char)) (columns : List (Field × ExasolType)) :
    List Char :=
  head ++ ' ' :: (qualifiedText names ++ (" (".toList ++ columnsText columns))

theorem createTableText_eq (names : List (List Char)) (columns : List (Field × ExasolType)) :
    createTableText (qualifiedText names) columns = createText createTable names columns := by
  have hhead : "CREATE TABLE ".toList = createTable ++ [' '] := by decide +kernel
  have hassoc (label : List Char) (name opening inner : List Char) (close : List Char) :
      label ++ [' '] ++ name ++ opening ++ inner ++ close =
        label ++ ' ' :: (name ++ (opening ++ (inner ++ close))) := by simp
  unfold createTableText
  rw [hhead]
  exact hassoc createTable (qualifiedText names) " (".toList _ [')']

/-- **A list of columns is read back.** -/
theorem reads_columnsText (columns : List (Field × ExasolType)) :
    Reads (columnsText columns) ([Token.symbol ','].intercalate (columns.map fun column =>
      definitionTokens column.1 column.2) ++ [.symbol ')']) .between := by
  have hchars : ", ".toList = [',', ' '] := by decide +kernel
  have hreads := @reads_list
    (columns.map fun column =>
      (columnDefinition column.1 column.2, definitionTokens column.1 column.2))
    ", ".toList [')'] [.symbol ')'] rfl ⟨')', [], rfl, by decide, by decide⟩ (by decide +kernel)
    ⟨[' '], hchars⟩ fun item hitem => by
      obtain ⟨column, -, rfl⟩ := List.mem_map.mp hitem
      exact reads_columnDefinition column.1 column.2
  rw [List.map_map, List.map_map] at hreads
  exact hreads

/-- **A statement that creates a table is read back**, whatever the names. -/
theorem lex_createText {head : List Char} {condition : List Token} {names : List (List Char)}
    (hhead : run .between (head ++ [' ']) =
      ([keyword "CREATE", keyword "TABLE"] ++ condition, .between))
    (hne : names ≠ []) (columns : List (Field × ExasolType)) :
    lex (createText head names columns) = some (createTokens condition names columns) := by
  obtain ⟨last, hnames, hlast⟩ := reads_qualifiedText hne
  have hopen : run .between " (".toList = ([.symbol '('], .between) := by decide +kernel
  have hcolumns := Clause.after hopen ⟨_, reads_columnsText columns, closed_between⟩
  have hnames : Clause (qualifiedText names) (tableTokens names) := ⟨last, hnames, hlast.closed⟩
  have hall := Clause.after hhead
    (hnames.append hcolumns (spaced_append (by decide +kernel) _))
  have htext : createText head names columns =
      head ++ [' '] ++ (qualifiedText names ++ (" (".toList ++ columnsText columns)) := by
    simp [createText]
  rw [htext, hall.lex_eq, createTokens]
  simp only [List.append_assoc, List.cons_append, List.nil_append]

theorem requestedNames_ne_nil (schema : Option (List Char)) (table : List Char) :
    requestedNames schema table ≠ [] := by
  rcases tableName_cases schema table with ⟨t, hnames, -⟩ | ⟨s, t, hnames, -⟩ <;>
    rw [hnames] <;> exact List.cons_ne_nil _ _

/-- **A statement that drops a table is read back.** -/
theorem lex_drop {names : List (List Char)} (hne : names ≠ []) :
    lex ("DROP TABLE IF EXISTS ".toList ++ qualifiedText names) =
      some ([keyword "DROP", keyword "TABLE", keyword "IF", keyword "EXISTS"] ++
        tableTokens names) := by
  obtain ⟨last, hnames, hlast⟩ := reads_qualifiedText hne
  have hdrop : run .between "DROP TABLE IF EXISTS ".toList =
      ([keyword "DROP", keyword "TABLE", keyword "IF", keyword "EXISTS"], .between) := by
    decide +kernel
  exact (Clause.after hdrop ⟨last, hnames, hlast.closed⟩).lex_eq

/-- An import into a table with quoted names is read back. -/
theorem lex_importStatement {schema : Option (List Char)} {table tableName : List Char}
    (tunnel : Tunnel) (htext : tableName = qualifiedName schema table)
    (hschema : ∀ s ∈ schema, IsName s) (htable : IsName table) :
    lex (importStatement tableName tunnel).build =
      some ([keyword "IMPORT", keyword "INTO"] ++ qualifiedTokens schema table ++
        ((importStatement [] tunnel).sourceTokens ++
          (importStatement [] tunnel).csvOptionTokens)) := by
  -- the statement is the one for the schema and the table on their own
  have hnamed : ImportQuery.WellNamed { importStatement table tunnel with schema := schema } :=
    ⟨hschema, htable, fun columns hcolumns => by cases hcolumns⟩
  have hfile : '\'' ∉ "001.csv".toList := by decide +kernel
  have hfiles : ∀ name ∈
      ImportQuery.fileNames { importStatement table tunnel with schema := schema },
      '\'' ∉ name := List.forall_mem_singleton.mpr hfile
  have hlex := (ImportQuery.lex_build_iff hnamed).mpr hfiles
  have htarget : (importStatement tableName tunnel).targetClause =
      ImportQuery.targetClause { importStatement table tunnel with schema := schema } := by
    rw [htext]
    rfl
  have hbuild : (importStatement tableName tunnel).build =
      ImportQuery.build { importStatement table tunnel with schema := schema } :=
    congrArg (· ++ _) htarget
  rw [hbuild, hlex]
  refine congrArg some (congrArg (· ++ _) ?_)
  exact List.append_nil _

/-- **The import is read back**, with the same names. -/
theorem lex_import (schema : Option (List Char)) (table : List Char) (tunnel : Tunnel) :
    lex (importStatement (buildQualifiedTableName schema table) tunnel).build =
      some (importTokens (requestedNames schema table) tunnel) := by
  rcases tableName_cases schema table with ⟨t, hnames, htext⟩ | ⟨s, t, hnames, htext⟩
  · rw [hnames, importTokens]
    refine (@lex_importStatement none (quotedName t) _ tunnel htext (fun s hs => by cases hs)
      (.quoted t)).trans ?_
    rw [qualifiedTokens, nameTokens_quotedName]
    rfl
  · rw [hnames, importTokens]
    have hjoin : buildQualifiedTableName schema table =
        qualifiedName (some (quotedName s)) (quotedName t) := by
      rw [htext]
      exact (List.append_cons _ _ _)
    refine (@lex_importStatement (some (quotedName s)) (quotedName t) _ tunnel hjoin
      (fun name hname => Option.some.inj hname ▸ .quoted s) (.quoted t)).trans ?_
    rw [qualifiedTokens, nameTokens_quotedName, nameTokens_quotedName]
    rfl

/-! ### Replacing within a statement -/

/-- What the replacement makes of a text. -/
def replaced (s : List Char) : List Char := replaceAll createTable createTableIfNotExists s

/-- A column whose name has been replaced. -/
def replacedColumn (column : Field × ExasolType) : Field × ExasolType :=
  ({ column.1 with name := String.ofList (replaced column.1.name.toList) }, column.2)

theorem createTable_ne_nil : createTable ≠ [] := by decide

/-- A character that is not in the text that is replaced parts a text. -/
theorem replaced_append_cons {a : Char} (ha : a ∉ createTable) (s t : List Char) :
    replaced (s ++ a :: t) = replaced s ++ a :: replaced t :=
  replaceAll_append_cons createTable_ne_nil ha s t

theorem quote_notMem : '"' ∉ createTable := by decide

/-- A text without one of the characters stays. -/
theorem replaced_of_notMem {a : Char} {s : List Char} (ha : a ∈ createTable) (hs : a ∉ s) :
    replaced s = s :=
  replaceAll_of_not_infix fun hinside => hs (hinside.subset ha)

/-- **Quotes are doubled before or after the replacement.** -/
theorem replaced_double (name : List Char) :
    replaced (double '"' name) = double '"' (replaced name) := by
  induction hlength : name.length using Nat.strong_induction_on generalizing name with
  | _ n ih =>
    rcases hsplit : splitOnce '"' name with _ | ⟨x, y⟩
    · have hname := splitOnce_eq_none_iff.mp hsplit
      have hreplaced : '"' ∉ replaced name := fun h =>
        (mem_replaceAll createTable_ne_nil h).elim (by decide) hname
      rw [double_of_not_mem hname, double_of_not_mem hreplaced]
    · obtain ⟨rfl, hx⟩ := splitOnce_eq_some.mp hsplit
      have hshort : y.length < n := by
        rw [← hlength, List.length_append, List.length_cons]
        omega
      have hreplaced : '"' ∉ replaced x := fun h =>
        (mem_replaceAll createTable_ne_nil h).elim (by decide) hx
      have hdouble (x y : List Char) (hx : '"' ∉ x) :
          double '"' (x ++ '"' :: y) = x ++ '"' :: ([] ++ '"' :: double '"' y) := by
        rw [double_append, double_of_not_mem hx, double_cons, if_pos rfl]
        rfl
      rw [hdouble x y hx, replaced_append_cons quote_notMem, replaced_append_cons quote_notMem,
        ih y.length hshort y rfl, replaced_append_cons quote_notMem, hdouble _ _ hreplaced]
      rfl

/-- **The replacement reaches into quotes.** -/
theorem replaced_quotedName (s name t : List Char) :
    replaced (s ++ (quotedName name ++ t)) =
      replaced s ++ (quotedName (replaced name) ++ replaced t) := by
  have htext (s inner t : List Char) :
      s ++ ('"' :: inner ++ ['"'] ++ t) = s ++ '"' :: (inner ++ '"' :: t) := by simp
  rw [quotedName, quotedName, htext, htext, replaced_append_cons quote_notMem,
    replaced_append_cons quote_notMem, replaced_double]

/-- What follows the name in the definition of a column. -/
def definitionRest (column : Field × ExasolType) : List Char :=
  ' ' :: (column.2.toDdlType ++ if column.1.nullable then [] else " NOT NULL".toList)

theorem columnDefinition_eq (column : Field × ExasolType) :
    columnDefinition column.1 column.2 =
      quotedName column.1.name.toList ++ definitionRest column := by
  unfold columnDefinition definitionRest
  split_ifs
  · rw [List.append_nil]
    rfl
  · have hassoc (name t rest : List Char) :
        name ++ ' ' :: t ++ rest = name ++ ' ' :: (t ++ rest) := by simp
    exact hassoc _ _ _

theorem notMem_append_three {a : Char} {x y z : List Char} (hx : a ∉ x) (hy : a ∉ y) (hz : a ∉ z) :
    a ∉ x ++ y ++ z := by
  rw [List.mem_append, List.mem_append, not_or, not_or]
  exact ⟨⟨hx, hy⟩, hz⟩

/-- **The text of a type does not hold what is replaced.** -/
theorem exists_notMem_toDdlType (t : ExasolType) : 'B' ∉ t.toDdlType ∨ 'C' ∉ t.toDdlType := by
  have hnat (n : ℕ) : 'B' ∉ natText n := notMem_natText rfl
  have hint (x : ℤ) : 'B' ∉ intText x := notMem_intText (by decide) rfl
  cases t with
  | boolean => exact .inr (by decide)
  | double => exact .inr (by decide)
  | date => exact .inr (by decide)
  | timestamp tz => cases tz <;> exact .inl (by decide)
  | intervalYearToMonth => exact .inl (by decide +kernel)
  | char size => exact .inl (notMem_append_three (by decide) (hnat size) (by decide))
  | varchar size => exact .inl (notMem_append_three (by decide) (hnat size) (by decide))
  | hashtype size => exact .inr (notMem_append_three (by decide) (notMem_natText rfl) (by decide))
  | decimal precision scale =>
    exact .inl (notMem_append_three (notMem_append_three (by decide) (hnat _) (by decide))
      (hint scale.val) (by decide))
  | intervalDayToSecond precision =>
    exact .inl (notMem_append_three (notMem_append_three (by decide) (hnat _) (by decide))
      (hnat precision.toNat) (by decide))
  | geometry srid =>
    cases srid with
    | none => exact .inl (by decide)
    | some srid => exact .inl (notMem_append_three (by decide) (hint srid.val) (by decide))

/-- What follows the name of a column stays, also with what follows it. -/
theorem replaced_definitionRest (column : Field × ExasolType) {tail : List Char}
    (hb : 'B' ∉ tail) (hc : 'C' ∉ tail) :
    replaced (definitionRest column ++ tail) = definitionRest column ++ tail := by
  have hrest {a : Char} (ha : a ∉ column.2.toDdlType) (htail : a ∉ tail)
      (hnull : a ∉ " NOT NULL".toList) (hblank : a ≠ ' ') : a ∉ definitionRest column ++ tail := by
    rw [definitionRest, List.mem_append, List.mem_cons, List.mem_append, not_or, not_or, not_or]
    refine ⟨⟨hblank, ha, ?_⟩, htail⟩
    split_ifs
    · exact List.not_mem_nil
    · exact hnull
  rcases exists_notMem_toDdlType column.2 with h | h
  · exact replaced_of_notMem (by decide) (hrest h hb (by decide) (by decide))
  · exact replaced_of_notMem (by decide) (hrest h hc (by decide) (by decide))

/-- **Only the names in a list of columns are replaced.** -/
theorem replaced_columnsText (columns : List (Field × ExasolType)) {front : List Char}
    (hfront : replaced front = front) :
    replaced (front ++ columnsText columns) =
      front ++ columnsText (columns.map replacedColumn) := by
  induction columns generalizing front with
  | nil =>
    refine (replaced_append_cons (by decide) front []).trans ?_
    rw [hfront]
    rfl
  | cons column columns ih =>
    have hname : (replacedColumn column).1.name.toList = replaced column.1.name.toList :=
      String.toList_ofList
    have hrest : definitionRest (replacedColumn column) = definitionRest column := rfl
    cases columns with
    | nil =>
      have htext (column : Field × ExasolType) : columnsText [column] =
          quotedName column.1.name.toList ++ (definitionRest column ++ [')']) := by
        simp [columnsText, columnDefinition_eq]
      rw [List.map_singleton, htext, htext, replaced_quotedName, hfront, hname, hrest,
        replaced_definitionRest column (by decide) (by decide)]
    | cons next columns =>
      have htext (column next : Field × ExasolType) (columns : List (Field × ExasolType)) :
          columnsText (column :: next :: columns) = quotedName column.1.name.toList ++
            (definitionRest column ++ ", ".toList ++ columnsText (next :: columns)) := by
        simp only [columnsText, List.map_cons, List.intercalate_cons_cons, columnDefinition_eq,
          List.append_assoc]
      rw [htext, replaced_quotedName, hfront,
        ih (replaced_definitionRest column (by decide) (by decide))]
      change _ = front ++ columnsText
        (replacedColumn column :: replacedColumn next :: columns.map replacedColumn)
      rw [htext, hname, hrest]
      rfl

/-- **Only names are replaced**, behind the first words. -/
theorem replaced_createText {names : List (List Char)} (hnames : ∃ schema table,
    names = requestedNames schema table) (columns : List (Field × ExasolType)) :
    replaced (createText createTable names columns) =
      createText createTableIfNotExists (names.map replaced) (columns.map replacedColumn) := by
  obtain ⟨schema, table, rfl⟩ := hnames
  have hopen : replaced " (".toList = " (".toList := by decide +kernel
  have hhead : replaced (createTable ++ [' ']) = createTableIfNotExists ++ [' '] := by
    decide +kernel
  have hpoint : replaced ['.'] = ['.'] := by decide +kernel
  have hcolumns := replaced_columnsText columns hopen
  have htext (head : List Char) (names : List (List Char)) (columns : List (Field × ExasolType)) :
      createText head names columns =
        head ++ [' '] ++ (qualifiedText names ++ (" (".toList ++ columnsText columns)) := by
    simp [createText]
  rcases tableName_cases schema table with ⟨t, hnames, -⟩ | ⟨s, t, hnames, -⟩
  · have hone (t : List Char) : qualifiedText [t] = quotedName t := by simp [qualifiedText]
    rw [hnames, htext, hone, replaced_quotedName, hhead, hcolumns, htext, List.map_singleton, hone]
  · have htwo (s t rest : List Char) :
        qualifiedText [s, t] ++ rest = quotedName s ++ (['.'] ++ (quotedName t ++ rest)) := by
      simp [qualifiedText, List.intercalate_cons_cons]
    rw [hnames, htext, htwo, replaced_quotedName, hhead, replaced_quotedName, hpoint, hcolumns,
      htext]
    exact congrArg _ (htwo _ _ _).symm

/-- The names in quotes among tokens. -/
def quotedNames (tokens : List Token) : List (List Char) :=
  tokens.filterMap fun token =>
    match token with
    | .quoted name => some name
    | _ => none

theorem quotedNames_append (a b : List Token) :
    quotedNames (a ++ b) = quotedNames a ++ quotedNames b := List.filterMap_append

theorem quotedNames_typeTokens (t : ExasolType) : quotedNames (typeTokens t) = [] := by
  have hint (x : ℤ) : quotedNames (intTokens x) = [] := by
    unfold intTokens
    split_ifs <;> rfl
  cases t with
  | timestamp tz => cases tz <;> rfl
  | decimal precision scale =>
    have htokens : typeTokens (.decimal precision scale) =
        [keyword "DECIMAL", .symbol '(', .number (natText precision.toNat), .symbol ','] ++
          (intTokens scale.val ++ [.symbol ')']) := rfl
    rw [htokens, quotedNames_append, quotedNames_append, hint]
    rfl
  | geometry srid =>
    cases srid with
    | none => rfl
    | some srid =>
      have htokens : typeTokens (.geometry (some srid)) =
          [keyword "GEOMETRY", .symbol '('] ++ (intTokens srid.val ++ [.symbol ')']) := rfl
      rw [htokens, quotedNames_append, quotedNames_append, hint]
      rfl
  | _ => rfl

/-- **The names are in the tokens.** -/
theorem quotedNames_createTokens {condition : List Token} (hcondition : quotedNames condition = [])
    (names : List (List Char)) (columns : List (Field × ExasolType)) :
    quotedNames (createTokens condition names columns) =
      names ++ columns.map (·.1.name.toList) := by
  have htable : quotedNames (tableTokens names) = names := by
    induction names with
    | nil => rfl
    | cons name names ih =>
      cases names with
      | nil => rfl
      | cons next names =>
        have htokens : tableTokens (name :: next :: names) =
            [.quoted name, .symbol '.'] ++ tableTokens (next :: names) := by
          simp [tableTokens, List.intercalate_cons_cons]
        rw [htokens, quotedNames_append, ih]
        rfl
  have hdefinition (column : Field × ExasolType) :
      quotedNames (definitionTokens column.1 column.2) = [column.1.name.toList] := by
    have htokens : definitionTokens column.1 column.2 = [.quoted column.1.name.toList] ++
        (typeTokens column.2 ++
          if column.1.nullable then [] else [keyword "NOT", keyword "NULL"]) := rfl
    rw [htokens, quotedNames_append, quotedNames_append, quotedNames_typeTokens]
    split_ifs <;> rfl
  have hcolumns : quotedNames ([Token.symbol ','].intercalate (columns.map fun column =>
      definitionTokens column.1 column.2)) = columns.map (·.1.name.toList) := by
    induction columns with
    | nil => rfl
    | cons column columns ih =>
      cases columns with
      | nil =>
        rw [List.map_singleton, List.intercalate_singleton, hdefinition]
        rfl
      | cons next columns =>
        rw [List.map_cons, List.map_cons, List.intercalate_cons_cons, quotedNames_append,
          quotedNames_append, hdefinition]
        rw [List.map_cons] at ih
        rw [ih]
        rfl
  have htokens : createTokens condition names columns = [keyword "CREATE", keyword "TABLE"] ++
      (condition ++ (tableTokens names ++ ([.symbol '('] ++
        ([Token.symbol ','].intercalate (columns.map fun column =>
          definitionTokens column.1 column.2) ++ [.symbol ')'])))) := by
    simp [createTokens]
  rw [htokens]
  simp only [quotedNames_append, hcondition, htable, hcolumns]
  change [] ++ ([] ++ (names ++ ([] ++ (columns.map (·.1.name.toList) ++ [])))) = _
  simp

/-! ### Which ingestions do what is meant -/

section Plans

variable {lib : FormatterLibrary} {schema : Schema}

theorem mapField_eq_ok {field : Field} {column : Field × ExasolType}
    (h : mapField lib field = .ok column) :
    column.1 = field ∧ TypeMapper.arrowToExasol lib.debug field.dataType = .ok column.2 := by
  unfold mapField at h
  cases ht : TypeMapper.arrowToExasol lib.debug field.dataType with
  | error e =>
    rw [ht] at h
    cases h
  | ok t =>
    rw [ht] at h
    cases h
    exact ⟨rfl, rfl⟩

theorem maps_of_forall₂ {fields : List Field} {columns : List (Field × ExasolType)}
    (h : List.Forall₂ (fun field column => mapField lib field = .ok column) fields columns) :
    Maps lib ⟨fields⟩ columns := by
  induction h with
  | nil => exact ⟨rfl, List.forall_mem_nil _⟩
  | cons hfield hrest ih =>
    obtain ⟨rfl, htype⟩ := mapField_eq_ok hfield
    exact ⟨congrArg _ ih.1, List.forall_mem_cons.mpr ⟨htype, ih.2⟩⟩

/-- **The columns of a statement are the fields with their types.** -/
theorem generateCreateTableDdl_eq_ok {names : List (List Char)} {ddl : List Char}
    (h : generateCreateTableDdl lib (qualifiedText names) schema = .ok ddl) :
    ∃ columns, Maps lib schema columns ∧ ddl = createText createTable names columns := by
  obtain ⟨columns, hcolumns, hddl⟩ := Checked.bind_eq_ok.mp h
  refine ⟨columns, maps_of_forall₂ (Checked.mapM_eq_ok.mp hcolumns), ?_⟩
  rw [← createTableText_eq]
  exact (Except.ok.inj hddl).symm

/-- The names of mapped columns are those of the fields. -/
theorem Maps.names {columns : List (Field × ExasolType)} (h : Maps lib schema columns) :
    columns.map (·.1.name.toList) = schema.fields.map (·.name.toList) := by
  rw [← h.1, List.map_map]
  rfl

/-- A text stays exactly if it does not hold what is replaced. -/
theorem replaced_eq_self_iff (s : List Char) : replaced s = s ↔ ¬createTable <:+: s :=
  replaceAll_eq_self_iff createTable_ne_nil (by decide) s

theorem map_replaced_eq_self_iff (names : List (List Char)) :
    names.map replaced = names ↔ ∀ name ∈ names, ¬createTable <:+: name := by
  have hmap := @List.map_inj_left _ _ names replaced id
  rw [List.map_id] at hmap
  exact hmap.trans (forall₂_congr fun name _ => replaced_eq_self_iff name)

/-- **The statement for a table that may exist has the tokens that are meant**
exactly if no name holds the text that is replaced. -/
theorem lex_replaced_iff {names : List (List Char)} (hne : names ≠ [])
    (hnames : ∃ schema table, names = requestedNames schema table)
    {columns columns' : List (Field × ExasolType)} (hcolumns : Maps lib schema columns)
    (hcolumns' : Maps lib schema columns') :
    lex (replaced (createText createTable names columns)) =
        some (createTokens unlessItExists names columns') →
      ∀ name ∈ names ++ schema.fields.map (·.name.toList), ¬createTable <:+: name := by
  intro hlex
  have hhead : run .between (createTableIfNotExists ++ [' ']) =
      ([keyword "CREATE", keyword "TABLE"] ++ unlessItExists, .between) := by decide +kernel
  have hmapped : names.map replaced ≠ [] := fun h => hne (List.map_eq_nil_iff.mp h)
  rw [replaced_createText hnames, lex_createText hhead hmapped] at hlex
  have hquoted := congrArg quotedNames (Option.some.inj hlex)
  have hcondition : quotedNames unlessItExists = [] := rfl
  have hrenamed : (columns.map replacedColumn).map (·.1.name.toList) =
      (columns.map (·.1.name.toList)).map replaced := by
    rw [List.map_map, List.map_map]
    exact List.map_congr_left fun column _ => String.toList_ofList
  rw [quotedNames_createTokens hcondition, quotedNames_createTokens hcondition, hrenamed,
    hcolumns.names, hcolumns'.names, ← List.map_append] at hquoted
  exact (map_replaced_eq_self_iff _).mp hquoted

/-- Without the text that is replaced, only the first words are replaced. -/
theorem replaced_createText_of_spared {names : List (List Char)}
    (hnames : ∃ schema table, names = requestedNames schema table)
    {columns : List (Field × ExasolType)} (hcolumns : Maps lib schema columns)
    (h : ∀ name ∈ names ++ schema.fields.map (·.name.toList), ¬createTable <:+: name) :
    replaced (createText createTable names columns) =
      createText createTableIfNotExists names columns := by
  have hnamesKept : names.map replaced = names :=
    (map_replaced_eq_self_iff names).mpr fun name hname => h name (List.mem_append_left _ hname)
  have hcolumnsKept : columns.map replacedColumn = columns := by
    have hkept (column : Field × ExasolType) (hcolumn : column ∈ columns) :
        replacedColumn column = column := by
      have hmem : column.1.name.toList ∈ schema.fields.map (·.name.toList) :=
        hcolumns.names ▸ List.mem_map_of_mem hcolumn
      have hname := (replaced_eq_self_iff _).mpr (h _ (List.mem_append_right _ hmem))
      rw [replacedColumn, hname, String.ofList_toList]
    exact (List.map_congr_left hkept).trans (List.map_id columns)
  rw [replaced_createText hnames, hnamesKept, hcolumnsKept]

/-- Fields whose types map have columns. -/
theorem exists_maps_of_check {fields : List Field}
    (h : forM fields (checkIngestColumnType lib) = .ok ()) :
    ∃ columns, Maps lib ⟨fields⟩ columns := by
  induction fields with
  | nil => exact ⟨[], rfl, List.forall_mem_nil _⟩
  | cons field fields ih =>
    rw [List.forM_cons] at h
    obtain ⟨_, hfield, hrest⟩ := Checked.bind_eq_ok.mp h
    obtain ⟨columns, hfields, hcolumns⟩ := ih hrest
    unfold checkIngestColumnType at hfield
    cases ht : TypeMapper.arrowToExasol lib.debug field.dataType with
    | error e =>
      rw [ht] at hfield
      cases hfield
    | ok t =>
      exact ⟨(field, t) :: columns, congrArg _ hfields, List.forall_mem_cons.mpr ⟨ht, hcolumns⟩⟩

/-- **The statements ahead of the import have the tokens that are meant**
exactly if no name holds the text that is replaced, if it is. -/
theorem ddl_iff {mode : IngestMode} {names : List (List Char)} {ddl : List (List Char)}
    (hne : names ≠ []) (hnames : ∃ schema table, names = requestedNames schema table)
    (hmaps : ∃ columns, Maps lib schema columns)
    (h : ingestDdl lib mode (qualifiedText names) schema = .ok ddl) :
    (∃ columns, Maps lib schema columns ∧ ddl.map lex = (ddlTokens mode names columns).map some) ↔
      (mode = .createAppend →
        ∀ name ∈ names ++ schema.fields.map (·.name.toList), ¬createTable <:+: name) := by
  have hcreate : run .between (createTable ++ [' ']) =
      ([keyword "CREATE", keyword "TABLE"] ++ [], .between) := by decide +kernel
  have hunless : run .between (createTableIfNotExists ++ [' ']) =
      ([keyword "CREATE", keyword "TABLE"] ++ unlessItExists, .between) := by decide +kernel
  cases mode with
  | append =>
    cases h
    obtain ⟨columns, hcolumns⟩ := hmaps
    exact iff_of_true ⟨columns, hcolumns, rfl⟩ fun hmode => by cases hmode
  | create =>
    obtain ⟨text, htext, hddl⟩ := Checked.bind_eq_ok.mp h
    cases hddl
    obtain ⟨columns, hcolumns, rfl⟩ := generateCreateTableDdl_eq_ok htext
    refine iff_of_true ⟨columns, hcolumns, ?_⟩ fun hmode => by cases hmode
    exact congrArg (fun read => [read]) (lex_createText hcreate hne columns)
  | replace =>
    obtain ⟨text, htext, hddl⟩ := Checked.bind_eq_ok.mp h
    cases hddl
    obtain ⟨columns, hcolumns, rfl⟩ := generateCreateTableDdl_eq_ok htext
    refine iff_of_true ⟨columns, hcolumns, ?_⟩ fun hmode => by cases hmode
    exact congrArg₂ (fun first second => [first, second]) (lex_drop hne)
      (lex_createText hcreate hne columns)
  | createAppend =>
    obtain ⟨text, htext, hddl⟩ := Checked.bind_eq_ok.mp h
    cases hddl
    obtain ⟨columns, hcolumns, rfl⟩ := generateCreateTableDdl_eq_ok htext
    constructor
    · rintro ⟨columns', hcolumns', hlex⟩ -
      exact lex_replaced_iff hne hnames hcolumns hcolumns' (List.singleton_injective hlex)
    · intro hspared
      refine ⟨columns, hcolumns, congrArg (fun read => [read]) ?_⟩
      change lex (replaced (createText createTable names columns)) = _
      rw [replaced_createText_of_spared hnames hcolumns (hspared rfl)]
      exact lex_createText hunless hne columns

/-- **A plan does what is meant exactly if its names are spared.** -/
theorem intended_iff {showOption : ShowsOption} {catalog : Option OptionValue} {connected : Bool}
    {target : IngestTarget} {plan : IngestPlan}
    (h : ingestPlan lib showOption catalog connected target schema = .ok plan) :
    Intended lib target schema plan ↔ Spared target schema := by
  obtain ⟨_, _, h⟩ := Checked.bind_eq_ok.mp h
  obtain ⟨_, hcheck, h⟩ := Checked.bind_eq_ok.mp h
  obtain ⟨_, htypes, _⟩ := Checked.bind_eq_ok.mp hcheck
  dsimp only at h
  cases connected with
  | false => cases h
  | true =>
    obtain ⟨ddl, hddl, hplan⟩ := Checked.bind_eq_ok.mp h
    cases hplan
    rw [buildQualifiedTableName_eq] at hddl
    have hiff := ddl_iff (requestedNames_ne_nil target.schema target.table) ⟨_, _, rfl⟩
      (exists_maps_of_check htypes) hddl
    refine Iff.trans ?_ hiff
    constructor
    · rintro ⟨columns, hcolumns, hlex, -⟩
      exact ⟨columns, hcolumns, hlex⟩
    · rintro ⟨columns, hcolumns, hlex⟩
      exact ⟨columns, hcolumns, hlex, fun tunnel => lex_import target.schema target.table tunnel⟩

/-- **An ingestion does what is meant exactly if its names are spared**: in a
mode that replaces text, neither the table nor a column is named with this text. -/
theorem ingestion_intended_iff {showOption : ShowsOption} {stmt : IngestStatement}
    {plan : IngestPlan} (h : (executeBulkIngest lib showOption stmt).1 = .ok plan) :
    ∃ target schema, ingestTarget stmt.options = .ok target ∧ stmt.boundData = some schema ∧
      (Intended lib target schema plan ↔ Spared target schema) := by
  unfold executeBulkIngest at h
  cases htarget : ingestTarget stmt.options with
  | error e =>
    rw [htarget] at h
    cases h
  | ok target =>
    rw [htarget] at h
    cases hbound : stmt.boundData with
    | none =>
      rw [hbound] at h
      cases h
    | some schema =>
      rw [hbound] at h
      exact ⟨target, schema, rfl, rfl, intended_iff h⟩

end Plans

/-- Types have no texts, and days are those of the calendar. -/
def calendarLibrary : FormatterLibrary := ⟨.proleptic, fun _ => ""⟩

/-- An ingestion into a table that may exist, with one column. -/
def ingestOneColumn (name : String) : IngestStatement where
  options := {
    targetTable := some (.string ['T'])
    mode := some (.string IngestMode.createAppend.text.toList) }
  boundData := some ⟨[{ name, dataType := .boolean, nullable := true }]⟩
  connected := true

/-- What is sent for the one column. -/
def oneColumnPlan (name : String) : IngestPlan where
  ddl := [replaced (createTableText (quoteIdentifier ['T'])
    [({ name, dataType := .boolean, nullable := true }, .boolean)])]
  importSql := fun tunnel => (importStatement (quoteIdentifier ['T']) tunnel).build

theorem execute_ingestOneColumn (name : String) :
    (executeBulkIngest calendarLibrary (fun _ => "") (ingestOneColumn name)).1 =
      .ok (oneColumnPlan name) := rfl

/-- A column with another name. -/
theorem ingestion_intended_iff_name :
    ∃ target schema, ingestTarget (ingestOneColumn "NAME").options = .ok target ∧
      (ingestOneColumn "NAME").boundData = some schema ∧
        (Intended calendarLibrary target schema (oneColumnPlan "NAME") ↔ Spared target schema) :=
  ingestion_intended_iff (execute_ingestOneColumn "NAME")

/-- **A column that is named with the text that is replaced gets another name.** -/
theorem replaced_column_name :
    ∃ plan, (executeBulkIngest calendarLibrary (fun _ => "")
        (ingestOneColumn "CREATE TABLE")).1 = .ok plan ∧
      plan.ddl = [("CREATE TABLE IF NOT EXISTS \"T\" " ++
        "(\"CREATE TABLE IF NOT EXISTS\" BOOLEAN)").toList] ∧
      ¬Intended calendarLibrary ⟨none, ['T'], .createAppend⟩
        ⟨[{ name := "CREATE TABLE", dataType := .boolean, nullable := true }]⟩ plan := by
  refine ⟨oneColumnPlan "CREATE TABLE", execute_ingestOneColumn _, by decide +kernel, fun h => ?_⟩
  have hplan : ingestPlan calendarLibrary (fun _ => "") none true ⟨none, ['T'], .createAppend⟩
      ⟨[{ name := "CREATE TABLE", dataType := .boolean, nullable := true }]⟩ =
        .ok (oneColumnPlan "CREATE TABLE") := rfl
  have hmem : createTable ∈ requestedNames none ['T'] ++
      [({ name := "CREATE TABLE", dataType := .boolean, nullable := true } : Field)].map
        (·.name.toList) := List.mem_append_right _ (List.mem_singleton_self _)
  exact (intended_iff hplan).mp h rfl createTable hmem List.infix_rfl

end Exarrow.Ffi
