import Exarrow.Query.Import

/-!
# EXPORT statements

The builder of EXPORT statements (`Exarrow.Query.ExportQuery.build`): a table or a query in
parentheses, the destination and the options. As for IMPORT statements, the name of the file is put
in quotes as it is. A query is put in parentheses as it is, so that a line comment at its end goes
on over the closing parenthesis.

**The statement has the tokens that the builder intends exactly if the name of the file has no quote
in it and the query does not end within a line comment**
(`Exarrow.Query.ExportQuery.lex_build_iff`). The two builders together:
`Exarrow.Query.builders_iff`.
-/

namespace Exarrow.Query

open Lexing Csv

/-- The extension that is put behind the name of an exported file. -/
def exportExtension : Compression → String
  | .none => ""
  | .gzip => ".gz"
  | .bzip2 => ".bz2"

/-- When values are put between delimiters. -/
inductive DelimitMode where
  | auto
  | always
  | never
  deriving DecidableEq

/-- The text of a delimit mode. -/
def DelimitMode.asSql : DelimitMode → String
  | auto => "AUTO"
  | always => "ALWAYS"
  | never => "NEVER"

/-- What is exported. -/
inductive ExportSource where
  | table (schema : Option (List Char)) (name : List Char) (columns : List (List Char))
  | query (sql : List Char)

/-- A builder of EXPORT statements. -/
structure ExportQuery where
  source : ExportSource
  address : List Char := []
  publicKey : Option (List Char) := none
  fileName : List Char := "001.csv".toList
  columnSeparator : Char := ','
  columnDelimiter : Char := '"'
  rowSeparator : RowSeparator := .lf
  encoding : List Char := "UTF-8".toList
  nullValue : Option (List Char) := none
  delimitMode : DelimitMode := .auto
  compression : Compression := .none
  withColumnNames : Bool := false

namespace ExportQuery

/-- The clause of the source. -/
def sourceClause (q : ExportQuery) : List Char :=
  match q.source with
  | .table schema name columns =>
    "EXPORT ".toList ++ (qualifiedName schema name ++ if columns = [] then [] else columnList columns)
  | .query sql => "EXPORT (".toList ++ (sql ++ [')'])

/-- The name of the file with its extension. -/
def fullName (q : ExportQuery) : List Char := q.fileName ++ (exportExtension q.compression).toList

/-- The clause of the destination. -/
def destinationClause (q : ExportQuery) : List Char :=
  "\nINTO CSV AT ".toList ++ quotedEndpoint q.address [] q.publicKey ++
    ImportQuery.fileClause "\nFILE ".toList q.fullName

/-- How the CSV text is framed. -/
def framing (q : ExportQuery) : CsvFraming :=
  { encoding := q.encoding, columnSeparator := q.columnSeparator
    columnDelimiter := q.columnDelimiter, rowSeparator := (rowSeparatorSql q.rowSeparator).toList }

/-- The clause for the names of the columns. -/
def namesClause (q : ExportQuery) : List Char :=
  if q.withColumnNames then "\nWITH COLUMN NAMES".toList else []

/-- The clause for the delimit mode. -/
def delimitClause (q : ExportQuery) : List Char :=
  "\nDELIMIT = ".toList ++ q.delimitMode.asSql.toList

/-- The clauses for CSV. -/
def formatOptionClauses (q : ExportQuery) : List Char :=
  q.framing.toSql ++ (nullClause q.nullValue ++ (q.namesClause ++ q.delimitClause))

/-- **The statement.** -/
def build (q : ExportQuery) : List Char :=
  q.sourceClause ++ (q.destinationClause ++ q.formatOptionClauses)

/-! ### The intended tokens -/

/-- The tokens of the source: a query is in parentheses. -/
def sourceTokens (q : ExportQuery) : List Token :=
  match q.source with
  | .table schema name columns =>
    [keyword "EXPORT"] ++
      (qualifiedTokens schema name ++ if columns = [] then [] else columnTokens columns)
  | .query sql => [keyword "EXPORT", .symbol '('] ++ ((lex sql).getD [] ++ [.symbol ')'])

/-- The tokens of the destination. -/
def destinationTokens (q : ExportQuery) : List Token :=
  [keyword "INTO", keyword "CSV", keyword "AT"] ++
    (endpointTokens q.address [] q.publicKey ++ [keyword "FILE", .string q.fullName])

/-- The tokens of the clauses for CSV. -/
def formatOptionTokens (q : ExportQuery) : List Token :=
  q.framing.tokens ++ (nullTokens q.nullValue ++
    ((if q.withColumnNames then [keyword "WITH", keyword "COLUMN", keyword "NAMES"] else []) ++
      [keyword "DELIMIT", .symbol '=', keyword q.delimitMode.asSql]))

/-- **The clauses that the builder intends**: each value is one literal, and the tokens of a query
are between its parentheses. -/
def tokens (q : ExportQuery) : List Token :=
  q.sourceTokens ++ (q.destinationTokens ++ q.formatOptionTokens)

/-- The names of a table are well-formed, and a query has tokens of its own. -/
def WellNamed (q : ExportQuery) : Prop :=
  match q.source with
  | .table schema name columns =>
    (∀ s ∈ schema, IsName s) ∧ IsName name ∧ ∀ column ∈ columns, IsName column
  | .query sql => (lex sql).isSome = true

/-- The source is no query that ends within a line comment. -/
def NoOpenComment (q : ExportQuery) : Prop :=
  match q.source with
  | .table _ _ _ => True
  | .query sql => (run .between sql).2 ≠ .lineComment

/-! ### The clauses -/

/-- **The options are read back.** -/
theorem clause_formatOptionClauses (q : ExportQuery) :
    Clause q.formatOptionClauses q.formatOptionTokens := by
  have hmode (text : List Char) (last : Mode) (h : run .between text = ([], last))
      (hlast : Closed last) : Clause ("\nDELIMIT = ".toList ++ text)
        ([keyword "DELIMIT", .symbol '='] ++ pending last) := by
    refine .after (by decide +kernel) ⟨last, ⟨[], h, rfl⟩, hlast⟩
  have hdelimit : Clause q.delimitClause
      [keyword "DELIMIT", .symbol '=', keyword q.delimitMode.asSql] := by
    unfold delimitClause
    cases q.delimitMode with
    | auto => exact hmode "AUTO".toList (.word "AUTO".toList) (by decide +kernel) (closed_word _)
    | always =>
      exact hmode "ALWAYS".toList (.word "ALWAYS".toList) (by decide +kernel) (closed_word _)
    | never =>
      exact hmode "NEVER".toList (.word "NEVER".toList) (by decide +kernel) (closed_word _)
  have hnames : Clause q.namesClause
      (if q.withColumnNames then [keyword "WITH", keyword "COLUMN", keyword "NAMES"] else []) := by
    unfold namesClause
    split
    · exact ⟨.word "NAMES".toList,
        ⟨[keyword "WITH", keyword "COLUMN"], by decide +kernel, rfl⟩, closed_word _⟩
    · exact clause_nil
  have hspacedDelimit : Spaced q.delimitClause := spaced_append (by decide +kernel) _
  have hspacedNames : Spaced (q.namesClause ++ q.delimitClause) := by
    unfold namesClause
    split
    · exact spaced_append (by decide +kernel) _
    · exact hspacedDelimit
  have hspacedNull : Spaced (nullClause q.nullValue ++ (q.namesClause ++ q.delimitClause)) := by
    unfold nullClause
    split
    · rw [List.append_assoc, List.append_assoc]
      exact spaced_append (by decide +kernel) _
    · exact hspacedNames
  exact q.framing.clause_toSql.append
    ((clause_nullClause q.nullValue).append (hnames.append hdelimit hspacedDelimit) hspacedNames)
    hspacedNull

/-- **The destination is read back exactly if the name of the file has no quote in it.** -/
theorem lex_destination_iff (q : ExportQuery) {rest : List Char} {more : List Token}
    (hrest : Spaced rest) :
    lex (q.destinationClause ++ rest) = some (q.destinationTokens ++ more) ↔
      '\'' ∉ q.fileName ∧ lex rest = some more := by
  have hinto : run .between "\nINTO CSV AT ".toList =
      ([keyword "INTO", keyword "CSV", keyword "AT"], .between) := by decide +kernel
  have hfile : run .between "\nFILE ".toList = ([keyword "FILE"], .between) := by decide +kernel
  have hendpoint := Clause.after hinto (clause_quotedEndpoint q.address [] q.publicKey)
  have hspaced : Spaced ("\nFILE ".toList ++ '\'' :: (q.fullName ++ '\'' :: rest)) :=
    spaced_append (by decide +kernel) _
  have hextension : '\'' ∉ (exportExtension q.compression).toList := by
    cases q.compression <;> decide +kernel
  have hname : '\'' ∈ q.fullName ↔ '\'' ∈ q.fileName := by
    unfold fullName
    rw [List.mem_append]
    exact ⟨fun h => h.resolve_right hextension, Or.inl⟩
  have hquote : rest.head? ≠ some '\'' := by
    intro h
    cases hrest '\'' h
  have htext : q.destinationClause ++ rest =
      ("\nINTO CSV AT ".toList ++ quotedEndpoint q.address [] q.publicKey) ++
        ("\nFILE ".toList ++ '\'' :: (q.fullName ++ '\'' :: rest)) := by
    unfold destinationClause ImportQuery.fileClause
    simp only [List.append_assoc, List.cons_append, List.nil_append]
  have htokens : q.destinationTokens ++ more =
      ([keyword "INTO", keyword "CSV", keyword "AT"] ++ endpointTokens q.address [] q.publicKey) ++
        ([keyword "FILE"] ++ (.string q.fullName :: more)) := by
    unfold destinationTokens
    simp only [List.append_assoc, List.cons_append, List.nil_append]
  rw [htext, htokens]
  refine (hendpoint.lex_append_iff hspaced).trans ((lex_append_iff_of_run hfile).trans ?_)
  rw [lex_unescaped_iff hquote, hname]

/-- What follows the source does not begin with a parenthesis. -/
theorem lex_destination_ne (q : ExportQuery) (rest : List Char) (more : List Token) :
    lex (q.destinationClause ++ rest) ≠ some (.symbol ')' :: more) := by
  have hinto : run .between "\nINTO CSV AT ".toList =
      ([keyword "INTO", keyword "CSV", keyword "AT"], .between) := by decide +kernel
  unfold destinationClause lex
  rw [List.append_assoc, List.append_assoc, lexFrom_append, hinto]
  intro h
  obtain ⟨found, -, hfound⟩ := Option.map_eq_some_iff.mp h
  cases hfound

end ExportQuery

/-- **What stands in parentheses is read back exactly if it does not end within a line comment**
that goes on to the end of the line. -/
theorem lex_parentheses_iff {sql rest : List Char} {tokens more : List Token}
    (h : lex sql = some tokens) (hrest : ∀ more, lex ('\n' :: rest) ≠ some (.symbol ')' :: more)) :
    lex (sql ++ ')' :: '\n' :: rest) = some (tokens ++ .symbol ')' :: more) ↔
      (run .between sql).2 ≠ .lineComment ∧ lex ('\n' :: rest) = some more := by
  obtain ⟨⟨done, last⟩, hrun⟩ : ∃ read, run .between sql = read := ⟨_, rfl⟩
  unfold lex lexFrom at h
  rw [hrun] at h ⊢
  dsimp only at h ⊢
  split at h
  · rename_i hcomplete
    cases h
    by_cases hlast : last = .lineComment
    · subst hlast
      refine iff_of_false ?_ (fun h => h.1 rfl)
      unfold lex
      rw [lexFrom_append, hrun, lexFrom_cons, lexFrom_cons]
      intro hlex
      change Option.map _ (Option.map _ (Option.map _ (lexFrom .between rest))) = _ at hlex
      obtain ⟨found, hfound, htokens⟩ := Option.map_eq_some_iff.mp hlex
      obtain ⟨found, hfound', rfl⟩ := Option.map_eq_some_iff.mp hfound
      obtain ⟨found, hfound'', rfl⟩ := Option.map_eq_some_iff.mp hfound'
      change done ++ found = (done ++ []) ++ .symbol ')' :: more at htokens
      rw [List.append_nil] at htokens
      refine hrest more ?_
      unfold lex
      rw [lexFrom_cons]
      change Option.map _ (lexFrom .between rest) = _
      rw [hfound'', List.append_cancel_left htokens]
      rfl
    · have hreads : Reads sql (done ++ pending last) last := ⟨done, hrun, rfl⟩
      have hparted : Parted last (')' :: '\n' :: rest) := by
        cases last with
        | lineComment => exact absurd rfl hlast
        | blockComment => cases hcomplete
        | blockStar => cases hcomplete
        | string text => cases hcomplete
        | quoted text => cases hcomplete
        | _ => simp [Parted, extend, isWordChar, Char.isAlphanum, Char.isAlpha, Char.isUpper,
            Char.isLower, Char.isDigit]
      rw [hreads.lex_append hparted, map_append_eq_some_iff]
      have hclose : run .between [')'] = ([.symbol ')'], .between) := rfl
      refine (@lex_append_iff_of_run [')'] ('\n' :: rest) _ more hclose).trans ?_
      exact ⟨fun h => ⟨hlast, h⟩, fun h => h.2⟩
  · cases h

namespace ExportQuery

/-- **The statement has the intended tokens exactly if the name of the file has no quote in it and
the query does not end within a line comment.** -/
theorem lex_build_iff {q : ExportQuery} (hq : q.WellNamed) :
    lex q.build = some q.tokens ↔ '\'' ∉ q.fileName ∧ q.NoOpenComment := by
  have hspaced : Spaced q.formatOptionClauses := spaced_toSql _ _
  have hdestination : lex (q.destinationClause ++ q.formatOptionClauses) =
      some (q.destinationTokens ++ q.formatOptionTokens) ↔ '\'' ∉ q.fileName := by
    rw [q.lex_destination_iff hspaced]
    exact ⟨fun h => h.1, fun h => ⟨h, q.clause_formatOptionClauses.lex_eq⟩⟩
  have hinto : ∃ rest, q.destinationClause = '\n' :: rest := by
    have hlabel : "\nINTO CSV AT ".toList = '\n' :: "INTO CSV AT ".toList := by decide +kernel
    unfold destinationClause
    rw [hlabel]
    exact ⟨_, rfl⟩
  unfold build tokens sourceClause sourceTokens WellNamed NoOpenComment at *
  cases hsource : q.source with
  | table schema name columns =>
    rw [hsource] at hq
    obtain ⟨hschema, hname, hcolumns⟩ := hq
    obtain ⟨last, hreads, hlast⟩ := clause_qualifiedName hschema hname
    have hopen : run .between "EXPORT ".toList = ([keyword "EXPORT"], .between) := by
      decide +kernel
    have hlist : Clause (if columns = [] then [] else columnList columns)
        (if columns = [] then [] else columnTokens columns) := by
      split
      · exact clause_nil
      · exact clause_columnList hcolumns
    have hspacedList : Spaced (if columns = [] then [] else columnList columns) := by
      split
      · exact nofun
      · unfold columnList
        rw [List.append_assoc]
        exact spaced_append (by decide +kernel) _
    have hclause := Clause.after hopen (.append ⟨last, hreads, hlast.closed⟩ hlist hspacedList)
    have hspacedInto : Spaced (q.destinationClause ++ q.formatOptionClauses) := by
      obtain ⟨rest, hrest⟩ := hinto
      rw [hrest]
      rintro c ⟨⟩
      rfl
    exact (hclause.lex_append_iff hspacedInto).trans
      (hdestination.trans (and_true _ ▸ Iff.rfl))
  | query sql =>
    rw [hsource] at hq
    obtain ⟨tokens, htokens⟩ := Option.isSome_iff_exists.mp hq
    have hopen : run .between "EXPORT (".toList = ([keyword "EXPORT", .symbol '('], .between) := by
      decide +kernel
    obtain ⟨rest, hrest⟩ := hinto
    dsimp only
    rw [htokens, List.append_assoc, List.append_assoc, List.append_assoc, List.append_assoc]
    refine (lex_append_iff_of_run hopen).trans ?_
    rw [Option.getD_some, hrest]
    rw [hrest] at hdestination
    refine (@lex_parentheses_iff sql (rest ++ q.formatOptionClauses) tokens _ htokens ?_).trans ?_
    · intro more
      have hne := q.lex_destination_ne q.formatOptionClauses more
      rwa [hrest] at hne
    · exact (and_congr_right' hdestination).trans and_comm

end ExportQuery

/-! ### Both builders -/

/-- **Each of the two builders makes the statement that it intends exactly if no quote is in the
names of its files and, for an export, the query does not end within a line comment.** All other
values may be any texts. -/
theorem builders_iff (i : ImportQuery) (e : ExportQuery) :
    (i.WellNamed → (lex i.build = some i.tokens ↔ ∀ name ∈ i.fileNames, '\'' ∉ name)) ∧
    (e.WellNamed → (lex e.build = some e.tokens ↔ '\'' ∉ e.fileName ∧ e.NoOpenComment)) :=
  ⟨ImportQuery.lex_build_iff, ExportQuery.lex_build_iff⟩

/-- An import into a table, from a file with a quote in its name. -/
def quotedImport : ImportQuery := { table := ['T'], fileName := "it's".toList }

/-- An export of a query with a line comment at its end. -/
def commentedExport : ExportQuery := { source := .query "SELECT 1 -- one".toList }

theorem quotedImport_wellNamed : quotedImport.WellNamed :=
  ⟨nofun, .word 'T' [] (by decide) (List.forall_mem_singleton.mpr (by decide)), nofun⟩

theorem commentedExport_wellNamed : commentedExport.WellNamed := by
  change (lex "SELECT 1 -- one".toList).isSome = true
  decide +kernel

/-- Two statements that are not the intended ones. -/
theorem builders_iff_unquoted :
    lex quotedImport.build ≠ some quotedImport.tokens ∧
      lex commentedExport.build ≠ some commentedExport.tokens := by
  obtain ⟨himport, hexport⟩ := builders_iff quotedImport commentedExport
  constructor
  · intro h
    have hnames := (himport quotedImport_wellNamed).mp h
    exact hnames "it's".toList (List.mem_singleton_self _) (by decide +kernel)
  · intro h
    obtain ⟨-, hcomment⟩ := (hexport commentedExport_wellNamed).mp h
    change (run .between "SELECT 1 -- one".toList).2 ≠ .lineComment at hcomment
    exact hcomment (by decide +kernel)

/-- **Neither builder always makes the statement that it intends.** -/
theorem builders_not_upheld :
    ¬ (∀ q : ImportQuery, q.WellNamed → lex q.build = some q.tokens) ∧
      ¬ ∀ q : ExportQuery, q.WellNamed → lex q.build = some q.tokens := by
  constructor
  · intro h
    have hnames := (ImportQuery.lex_build_iff quotedImport_wellNamed).mp
      (h quotedImport quotedImport_wellNamed)
    exact hnames "it's".toList (List.mem_singleton_self _) (by decide +kernel)
  · intro h
    obtain ⟨-, hcomment⟩ := (ExportQuery.lex_build_iff commentedExport_wellNamed).mp
      (h commentedExport commentedExport_wellNamed)
    change (run .between "SELECT 1 -- one".toList).2 ≠ .lineComment at hcomment
    exact hcomment (by decide +kernel)

end Exarrow.Query
