import Exarrow.Query.Clauses

/-!
# IMPORT statements

The builder of IMPORT statements (`Exarrow.Query.ImportQuery.build`): the target, one source or one
for each file, and the options for CSV. The name of a file gets the extension of its format and
compression (`Exarrow.Query.ImportQuery.fileNameFor`), and is put in quotes as it is.

**The statement has the tokens that the builder intends exactly if no name of a file has a quote in
it** (`Exarrow.Query.ImportQuery.lex_build_iff`).
-/

namespace Exarrow.Query

open Lexing Csv Numeral

/-- The text of a row separator. -/
def rowSeparatorSql : RowSeparator → String
  | .lf => "LF"
  | .cr => "CR"
  | .crlf => "CRLF"

/-- The formats of files. -/
inductive ImportFormat where
  | csv
  | parquet
  deriving DecidableEq

/-- How values are trimmed. -/
inductive TrimMode where
  | none
  | ltrim
  | rtrim
  | trim
  deriving DecidableEq

/-- The text of a trim mode. -/
def TrimMode.toSql : TrimMode → Option String
  | none => Option.none
  | ltrim => some "LTRIM"
  | rtrim => some "RTRIM"
  | trim => some "TRIM"

/-- A file of an import of many. -/
structure ImportFileEntry where
  address : List Char
  fileName : List Char
  publicKey : Option (List Char)

/-- A builder of IMPORT statements. -/
structure ImportQuery where
  table : List Char
  schema : Option (List Char) := none
  columns : Option (List (List Char)) := none
  address : Option (List Char) := none
  publicKey : Option (List Char) := none
  fileName : List Char := "001.csv".toList
  fileEntries : Option (List ImportFileEntry) := none
  columnSeparator : Char := ','
  columnDelimiter : Char := '"'
  rowSeparator : RowSeparator := .lf
  encoding : List Char := "UTF-8".toList
  skip : UInt32 := 0
  nullValue : Option (List Char) := none
  trim : TrimMode := .none
  compression : Compression := .none
  rejectLimit : Option UInt32 := none
  format : ImportFormat := .csv

/-- A text without a suffix, if it has that. -/
def stripSuffix (s suffix : List Char) : Option (List Char) :=
  if suffix <:+ s then some (s.take (s.length - suffix.length)) else none

/-- A name without the first of the known extensions that it has. -/
def stripKnownExtension (name : List Char) : Option (List Char) :=
  stripSuffix name ".gz".toList <|> stripSuffix name ".bz2".toList <|>
    stripSuffix name ".csv".toList <|> stripSuffix name ".parquet".toList

/-- A name without its known extensions. -/
def stripKnownExtensions (name : List Char) : List Char :=
  match stripKnownExtension name with
  | some next => if next.length < name.length then stripKnownExtensions next else name
  | none => name
termination_by name.length

namespace ImportQuery

/-- The name of a file with the extension of its format and compression. -/
def fileNameFor (q : ImportQuery) (baseName : List Char) : List Char :=
  match q.format with
  | .parquet => stripKnownExtensions baseName ++ ".parquet".toList
  | .csv => stripKnownExtensions baseName ++ q.compression.extension.toList

/-- The quoted URL of a source. -/
def endpointOf (q : ImportQuery) (address : List Char) (publicKey : Option (List Char)) :
    List Char :=
  quotedEndpoint address (if q.format = .parquet then ";MaxConcurrentReads=1".toList else [])
    publicKey

/-- The clause of the target. -/
def targetClause (q : ImportQuery) : List Char :=
  "IMPORT INTO ".toList ++ qualifiedName q.schema q.table ++
    match q.columns with
    | some columns => columnList columns
    | none => []

/-- A name of a file in quotes. -/
def fileClause (label fileName : List Char) : List Char := label ++ '\'' :: fileName ++ ['\'']

/-- The clause of the source, or of the sources. -/
def sourceClause (q : ImportQuery) : List Char :=
  (if q.format = .parquet then "\nFROM PARQUET".toList else "\nFROM CSV".toList) ++
    match q.fileEntries with
    | some entries => entries.flatMap fun entry =>
      " AT ".toList ++ q.endpointOf entry.address entry.publicKey ++
        fileClause " FILE ".toList (q.fileNameFor entry.fileName)
    | none => " AT ".toList ++ q.endpointOf (q.address.getD []) q.publicKey ++
        fileClause "\nFILE ".toList (q.fileNameFor q.fileName)

/-- How the CSV text is framed. -/
def framing (q : ImportQuery) : CsvFraming :=
  { encoding := q.encoding, columnSeparator := q.columnSeparator
    columnDelimiter := q.columnDelimiter, rowSeparator := (rowSeparatorSql q.rowSeparator).toList }

/-- The clause for rows that are skipped. -/
def skipClause (q : ImportQuery) : List Char :=
  if q.skip > 0 then "\nSKIP = ".toList ++ natText q.skip.toNat else []

/-- The clause for blanks that are trimmed. -/
def trimClause (q : ImportQuery) : List Char :=
  match q.trim.toSql with
  | some trimSql => "\nTRIM = '".toList ++ trimSql.toList ++ ['\'']
  | none => []

/-- The clause for rows that are rejected. -/
def rejectClause (q : ImportQuery) : List Char :=
  match q.rejectLimit with
  | some limit => "\nREJECT LIMIT ".toList ++ natText limit.toNat
  | none => []

/-- The clauses for CSV. -/
def csvOptionClauses (q : ImportQuery) : List Char :=
  q.framing.toSql ++ (q.skipClause ++ (nullClause q.nullValue ++ (q.trimClause ++ q.rejectClause)))

/-- **The statement.** -/
def build (q : ImportQuery) : List Char :=
  q.targetClause ++ (q.sourceClause ++ if q.format = .parquet then [] else q.csvOptionClauses)

/-! ### The intended tokens -/

/-- The tokens of the target. -/
def targetTokens (q : ImportQuery) : List Token :=
  [keyword "IMPORT", keyword "INTO"] ++ qualifiedTokens q.schema q.table ++
    match q.columns with
    | some columns => columnTokens columns
    | none => []

/-- The tokens of a source. -/
def entryTokens (q : ImportQuery) (address : List Char) (publicKey : Option (List Char))
    (fileName : List Char) : List Token :=
  keyword "AT" ::
    (endpointTokens address (if q.format = .parquet then ";MaxConcurrentReads=1".toList else [])
      publicKey ++ [keyword "FILE", .string (q.fileNameFor fileName)])

/-- The tokens of the source, or of the sources. -/
def sourceTokens (q : ImportQuery) : List Token :=
  [keyword "FROM", keyword (if q.format = .parquet then "PARQUET" else "CSV")] ++
    match q.fileEntries with
    | some entries =>
      entries.flatMap fun entry => q.entryTokens entry.address entry.publicKey entry.fileName
    | none => q.entryTokens (q.address.getD []) q.publicKey q.fileName

/-- The tokens of the clauses for CSV. -/
def csvOptionTokens (q : ImportQuery) : List Token :=
  q.framing.tokens ++
    ((if q.skip > 0 then [keyword "SKIP", .symbol '=', .number (natText q.skip.toNat)] else []) ++
      (nullTokens q.nullValue ++
        ((match q.trim.toSql with
          | some trimSql => optionTokens ["TRIM"] trimSql.toList
          | none => []) ++
          match q.rejectLimit with
          | some limit => [keyword "REJECT", keyword "LIMIT", .number (natText limit.toNat)]
          | none => [])))

/-- **The clauses that the builder intends**: each value is one literal. -/
def tokens (q : ImportQuery) : List Token :=
  q.targetTokens ++ (q.sourceTokens ++ if q.format = .parquet then [] else q.csvOptionTokens)

/-- The names of schema, table and columns are well-formed. -/
structure WellNamed (q : ImportQuery) : Prop where
  schema : ∀ schema ∈ q.schema, IsName schema
  table : IsName q.table
  columns : ∀ columns ∈ q.columns, ∀ column ∈ columns, IsName column

/-- The names of the files that are used. -/
def fileNames (q : ImportQuery) : List (List Char) :=
  match q.fileEntries with
  | some entries => entries.map (·.fileName)
  | none => [q.fileName]

/-! ### Names of files -/

end ImportQuery

theorem eq_append_of_stripSuffix {s suffix rest : List Char} (h : stripSuffix s suffix = some rest) :
    s = rest ++ suffix := by
  unfold stripSuffix at h
  split at h
  · rename_i hsuffix
    obtain ⟨front, rfl⟩ := hsuffix
    cases h
    simp
  · cases h

/-- What is stripped from a name is a known extension, in which there is no quote. -/
theorem eq_append_of_stripKnownExtension {name rest : List Char}
    (h : stripKnownExtension name = some rest) :
    ∃ extension, name = rest ++ extension ∧ '\'' ∉ extension := by
  unfold stripKnownExtension at h
  simp only [Option.orElse_eq_orElse, Option.orElse_eq_or, Option.or_eq_some_iff] at h
  have hgz : '\'' ∉ ".gz".toList := by decide +kernel
  have hbz2 : '\'' ∉ ".bz2".toList := by decide +kernel
  have hcsv : '\'' ∉ ".csv".toList := by decide +kernel
  have hparquet : '\'' ∉ ".parquet".toList := by decide +kernel
  rcases h with h | ⟨-, h | ⟨-, h | ⟨-, h⟩⟩⟩
  · exact ⟨_, eq_append_of_stripSuffix h, hgz⟩
  · exact ⟨_, eq_append_of_stripSuffix h, hbz2⟩
  · exact ⟨_, eq_append_of_stripSuffix h, hcsv⟩
  · exact ⟨_, eq_append_of_stripSuffix h, hparquet⟩

/-- **The quotes of a name are in what remains of it.** -/
theorem mem_stripKnownExtensions (name : List Char) :
    '\'' ∈ stripKnownExtensions name ↔ '\'' ∈ name := by
  fun_induction stripKnownExtensions name with
  | case1 name next hnext hlt ih =>
    obtain ⟨extension, hname, hextension⟩ := eq_append_of_stripKnownExtension hnext
    rw [ih, hname, List.mem_append]
    exact ⟨Or.inl, fun h => h.resolve_right hextension⟩
  | case2 => rfl
  | case3 => rfl

namespace ImportQuery

/-- The extension has no quotes of its own. -/
theorem mem_fileNameFor (q : ImportQuery) (name : List Char) :
    '\'' ∈ q.fileNameFor name ↔ '\'' ∈ name := by
  have hextension (compression : Compression) : '\'' ∉ compression.extension.toList := by
    cases compression <;> decide +kernel
  have hparquet : '\'' ∉ ".parquet".toList := by decide +kernel
  rw [← mem_stripKnownExtensions name]
  unfold fileNameFor
  split
  · rw [List.mem_append]
    exact ⟨fun h => h.resolve_right hparquet, Or.inl⟩
  · rw [List.mem_append]
    exact ⟨fun h => h.resolve_right (hextension _), Or.inl⟩

/-! ### The clauses -/

/-- **The target is read back.** -/
theorem clause_targetClause {q : ImportQuery} (hq : q.WellNamed) :
    Clause q.targetClause q.targetTokens := by
  have hopen : run .between "IMPORT INTO ".toList =
      ([keyword "IMPORT", keyword "INTO"], .between) := by decide +kernel
  obtain ⟨last, hname, hlast⟩ := clause_qualifiedName hq.schema hq.table
  have hname : Clause (qualifiedName q.schema q.table) (qualifiedTokens q.schema q.table) :=
    ⟨last, hname, hlast.closed⟩
  unfold targetClause targetTokens
  cases hcolumns : q.columns with
  | none =>
    rw [List.append_nil, List.append_nil]
    exact .after hopen hname
  | some columns =>
    refine (Clause.after hopen hname).append (clause_columnList (hq.columns columns hcolumns)) ?_
    change Spaced (" (".toList ++ ", ".toList.intercalate columns ++ [')'])
    rw [List.append_assoc]
    exact spaced_append (by decide +kernel) _

/-- **The options are read back.** -/
theorem clause_csvOptionClauses (q : ImportQuery) :
    Clause q.csvOptionClauses q.csvOptionTokens := by
  have hnumber (label : List Char) (tokens : List Token) (n : ℕ)
      (h : run .between label = (tokens, .between)) :
      Clause (label ++ natText n) (tokens ++ [.number (natText n)]) := by
    obtain ⟨c, text, htext⟩ := List.exists_cons_of_ne_nil (natText_ne_nil n)
    have hdigits := allDigits_natText n
    rw [htext] at hdigits ⊢
    refine .after h ⟨_, reads_number (hdigits c List.mem_cons_self) fun d hd => ?_, closed_number _⟩
    left
    unfold isWordChar Char.isAlphanum
    rw [hdigits d (List.mem_cons_of_mem c hd)]
    simp
  have hskip : Clause q.skipClause
      (if q.skip > 0 then [keyword "SKIP", .symbol '=', .number (natText q.skip.toNat)] else []) := by
    unfold skipClause
    split
    · exact hnumber "\nSKIP = ".toList [keyword "SKIP", .symbol '='] _ (by decide +kernel)
    · exact clause_nil
  have htrim : Clause q.trimClause
      (match q.trim.toSql with
        | some trimSql => optionTokens ["TRIM"] trimSql.toList
        | none => []) := by
    have hlabel : "\nTRIM = '".toList = "\nTRIM = ".toList ++ ['\''] := by decide +kernel
    have hquote (text : List Char) (h : '\'' ∉ text) :
        Clause ("\nTRIM = '".toList ++ text ++ ['\'']) (optionTokens ["TRIM"] text) := by
      have htext : "\nTRIM = '".toList ++ text ++ ['\''] = "\nTRIM = ".toList ++ quote text := by
        rw [hlabel]
        unfold quote
        rw [double_of_not_mem h]
        simp only [List.append_assoc, List.cons_append, List.nil_append]
      rw [htext]
      exact clause_option "\nTRIM = ".toList ["TRIM"] text (by decide +kernel)
    unfold trimClause
    cases q.trim with
    | none => exact clause_nil
    | ltrim => exact hquote "LTRIM".toList (by decide +kernel)
    | rtrim => exact hquote "RTRIM".toList (by decide +kernel)
    | trim => exact hquote "TRIM".toList (by decide +kernel)
  have hreject : Clause q.rejectClause
      (match q.rejectLimit with
        | some limit => [keyword "REJECT", keyword "LIMIT", .number (natText limit.toNat)]
        | none => []) := by
    unfold rejectClause
    cases q.rejectLimit with
    | none => exact clause_nil
    | some limit =>
      exact hnumber "\nREJECT LIMIT ".toList [keyword "REJECT", keyword "LIMIT"] _
        (by decide +kernel)
  have hspacedReject : Spaced q.rejectClause := by
    unfold rejectClause
    split
    · exact spaced_append (by decide +kernel) _
    · exact nofun
  have hspacedTrim : Spaced (q.trimClause ++ q.rejectClause) := by
    unfold trimClause
    split
    · rw [List.append_assoc, List.append_assoc]
      exact spaced_append (by decide +kernel) _
    · exact hspacedReject
  have hspacedNull : Spaced (nullClause q.nullValue ++ (q.trimClause ++ q.rejectClause)) := by
    unfold nullClause
    split
    · rw [List.append_assoc, List.append_assoc]
      exact spaced_append (by decide +kernel) _
    · exact hspacedTrim
  have hspacedSkip : Spaced (q.skipClause ++
      (nullClause q.nullValue ++ (q.trimClause ++ q.rejectClause))) := by
    unfold skipClause
    split
    · rw [List.append_assoc]
      exact spaced_append (by decide +kernel) _
    · exact hspacedNull
  exact q.framing.clause_toSql.append
    (hskip.append
      ((clause_nullClause q.nullValue).append (htrim.append hreject hspacedReject) hspacedTrim)
      hspacedNull) hspacedSkip

/-! ### The statement -/

/-- **A source is read back exactly if the name of its file has no quote in it.** -/
theorem lex_entry_iff (q : ImportQuery) (address : List Char) (publicKey : Option (List Char))
    (fileName label rest : List Char) (more : List Token) (hlabel : Spaced (label ++ ['\'']))
    (hrun : run .between label = ([keyword "FILE"], .between)) (hrest : Spaced rest) :
    lex (" AT ".toList ++ q.endpointOf address publicKey ++
        fileClause label (q.fileNameFor fileName) ++ rest) =
        some (q.entryTokens address publicKey fileName ++ more) ↔
      '\'' ∉ fileName ∧ lex rest = some more := by
  have hat : run .between " AT ".toList = ([keyword "AT"], .between) := by decide +kernel
  have hendpoint := Clause.after hat (clause_quotedEndpoint address
    (if q.format = .parquet then ";MaxConcurrentReads=1".toList else []) publicKey)
  have hspaced : Spaced (label ++ '\'' :: (q.fileNameFor fileName ++ '\'' :: rest)) := by
    cases label with
    | nil => exact fun c hc => hlabel c hc
    | cons c label => exact fun d hd => hlabel d hd
  have hquote : rest.head? ≠ some '\'' := by
    intro h
    cases hrest '\'' h
  have htext : " AT ".toList ++ q.endpointOf address publicKey ++
      fileClause label (q.fileNameFor fileName) ++ rest =
      (" AT ".toList ++ q.endpointOf address publicKey) ++
        (label ++ '\'' :: (q.fileNameFor fileName ++ '\'' :: rest)) := by
    unfold fileClause
    simp only [List.append_assoc, List.cons_append, List.nil_append]
  have htokens : q.entryTokens address publicKey fileName ++ more =
      ([keyword "AT"] ++ endpointTokens address
        (if q.format = .parquet then ";MaxConcurrentReads=1".toList else []) publicKey) ++
        ([keyword "FILE"] ++ (.string (q.fileNameFor fileName) :: more)) := by
    unfold entryTokens
    simp only [List.append_assoc, List.cons_append, List.nil_append]
  rw [htext, htokens]
  refine (hendpoint.lex_append_iff hspaced).trans ((lex_append_iff_of_run hrun).trans ?_)
  rw [lex_unescaped_iff hquote, q.mem_fileNameFor fileName]

/-- The sources begin with a blank. -/
theorem spaced_sources (q : ImportQuery) (entries : List ImportFileEntry) {rest : List Char}
    (hrest : Spaced rest) :
    Spaced ((entries.flatMap fun entry =>
      " AT ".toList ++ q.endpointOf entry.address entry.publicKey ++
        fileClause " FILE ".toList (q.fileNameFor entry.fileName)) ++ rest) := by
  cases entries with
  | nil => exact hrest
  | cons entry entries =>
    rw [List.flatMap_cons]
    simp only [List.append_assoc]
    exact spaced_append (by decide +kernel) _

/-- **The sources are read back exactly if none of their names has a quote in it.** -/
theorem lex_sources_iff (q : ImportQuery) (entries : List ImportFileEntry) {rest : List Char}
    (more : List Token) (hrest : Spaced rest) :
    lex ((entries.flatMap fun entry =>
        " AT ".toList ++ q.endpointOf entry.address entry.publicKey ++
          fileClause " FILE ".toList (q.fileNameFor entry.fileName)) ++ rest) =
        some ((entries.flatMap fun entry =>
          q.entryTokens entry.address entry.publicKey entry.fileName) ++ more) ↔
      (∀ name ∈ entries.map (·.fileName), '\'' ∉ name) ∧ lex rest = some more := by
  induction entries with
  | nil => simp
  | cons entry entries ih =>
    rw [List.flatMap_cons, List.flatMap_cons, List.append_assoc _ _ rest, List.append_assoc _ _ more]
    refine (q.lex_entry_iff entry.address entry.publicKey entry.fileName " FILE ".toList _ _
      (spaced_append (by decide +kernel) _) (by decide +kernel)
      (q.spaced_sources entries hrest)).trans ?_
    rw [ih, List.map_cons, List.forall_mem_cons, and_assoc]

/-- **The statement has the intended tokens exactly if no name of a file has a quote in it.** -/
theorem lex_build_iff {q : ImportQuery} (hq : q.WellNamed) :
    lex q.build = some q.tokens ↔ ∀ name ∈ q.fileNames, '\'' ∉ name := by
  have hspacedOptions : Spaced (if q.format = .parquet then [] else q.csvOptionClauses) := by
    split
    · exact nofun
    · exact spaced_toSql _ _
  have hoptions : lex (if q.format = .parquet then [] else q.csvOptionClauses) =
      some (if q.format = .parquet then [] else q.csvOptionTokens) := by
    split
    · exact clause_nil.lex_eq
    · exact q.clause_csvOptionClauses.lex_eq
  have hfrom : Clause (if q.format = .parquet then "\nFROM PARQUET".toList else "\nFROM CSV".toList)
      [keyword "FROM", keyword (if q.format = .parquet then "PARQUET" else "CSV")] := by
    split
    · exact ⟨.word "PARQUET".toList, ⟨[keyword "FROM"], by decide +kernel, rfl⟩, closed_word _⟩
    · exact ⟨.word "CSV".toList, ⟨[keyword "FROM"], by decide +kernel, rfl⟩, closed_word _⟩
  have hspacedFrom (rest : List Char) : Spaced
      ((if q.format = .parquet then "\nFROM PARQUET".toList else "\nFROM CSV".toList) ++ rest) := by
    split
    · exact spaced_append (by decide +kernel) _
    · exact spaced_append (by decide +kernel) _
  unfold build tokens sourceClause sourceTokens fileNames
  rw [List.append_assoc, List.append_assoc]
  refine ((clause_targetClause hq).lex_append_iff (hspacedFrom _)).trans ?_
  cases q.fileEntries with
  | none =>
    refine (hfrom.lex_append_iff ?_).trans ?_
    · simp only [List.append_assoc]
      exact spaced_append (by decide +kernel) _
    · refine (q.lex_entry_iff (q.address.getD []) q.publicKey q.fileName "\nFILE ".toList _ _
        (spaced_append (by decide +kernel) _) (by decide +kernel) hspacedOptions).trans ?_
      simp [hoptions]
  | some entries =>
    refine (hfrom.lex_append_iff (q.spaced_sources entries hspacedOptions)).trans ?_
    refine (q.lex_sources_iff entries _ hspacedOptions).trans ?_
    exact ⟨fun h => h.1, fun h => ⟨h, hoptions⟩⟩

end ImportQuery

end Exarrow.Query
