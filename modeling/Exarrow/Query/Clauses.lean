import Exarrow.Csv.Rows
import Exarrow.Csv.Compression
import Exarrow.Foundations.Lexing
import Exarrow.Foundations.Numeral

/-!
# Clauses of IMPORT and EXPORT statements

The clauses that the two statements share: the quoted URL with the public key
(`Exarrow.Query.quotedEndpoint`), how the CSV text is framed (`Exarrow.Query.CsvFraming.toSql`) and
the text for NULL (`Exarrow.Query.nullClause`). Each has the tokens that it is meant to have,
whatever the values in it are, since every quote in a value is doubled.
-/

namespace Exarrow.Query

open Lexing

/-! ### Names and keywords -/

/-- A keyword. -/
def keyword (text : String) : Token := .word text.toList

/-- A well-formed name: a word that does not begin with a digit, or a name in quotes. -/
inductive IsName : List Char → Prop
  | word (c : Char) (text : List Char) (hdigit : c.isDigit = false)
      (h : ∀ d ∈ c :: text, isWordChar d = true) : IsName (c :: text)
  | quoted (text : List Char) : IsName (quotedName text)

/-- The tokens of a name. -/
def nameTokens (name : List Char) : List Token := (lex name).getD []

/-- A name with a schema. -/
def qualifiedName (schema : Option (List Char)) (name : List Char) : List Char :=
  match schema with
  | some schema => schema ++ ['.'] ++ name
  | none => name

/-- The tokens of a name with a schema. -/
def qualifiedTokens (schema : Option (List Char)) (name : List Char) : List Token :=
  match schema with
  | some schema => nameTokens schema ++ .symbol '.' :: nameTokens name
  | none => nameTokens name

/-- A list of columns in parentheses. -/
def columnList (columns : List (List Char)) : List Char :=
  " (".toList ++ ", ".toList.intercalate columns ++ [')']

/-- The tokens of a list of columns. -/
def columnTokens (columns : List (List Char)) : List Token :=
  .symbol '(' :: [Token.symbol ','].intercalate (columns.map nameTokens) ++ [.symbol ')']

/-! ### The clauses -/

/-- A text within quotes. -/
def escapeQuotes (text : List Char) : List Char :=
  text.flatMap fun c => if c = '\'' then ['\'', '\''] else [c]

/-- The quoted URL, with the public key. A public key chooses the scheme. -/
def quotedEndpoint (address urlSuffix : List Char) (publicKey : Option (List Char)) : List Char :=
  match publicKey with
  | some fingerprint => "'https://".toList ++ escapeQuotes address ++ escapeQuotes urlSuffix ++
    "' PUBLIC KEY '".toList ++ escapeQuotes fingerprint ++ ['\'']
  | none => "'http://".toList ++ escapeQuotes address ++ escapeQuotes urlSuffix ++ ['\'']

/-- A character within quotes. -/
def escapeSqlChar (c : Char) : List Char := if c = '\'' then ['\'', '\''] else [c]

/-- How the CSV text is framed. -/
structure CsvFraming where
  encoding : List Char
  columnSeparator : Char
  columnDelimiter : Char
  rowSeparator : List Char

/-- The clauses for the frame. -/
def CsvFraming.toSql (framing : CsvFraming) : List Char :=
  "\nENCODING = '".toList ++ escapeQuotes framing.encoding ++
    "'\nCOLUMN SEPARATOR = '".toList ++ escapeSqlChar framing.columnSeparator ++
    "'\nCOLUMN DELIMITER = '".toList ++ escapeSqlChar framing.columnDelimiter ++
    "'\nROW SEPARATOR = '".toList ++ escapeQuotes framing.rowSeparator ++ ['\'']

/-- The clause for NULL, if it is not the empty field. -/
def nullClause (nullValue : Option (List Char)) : List Char :=
  match nullValue with
  | some value => "\nNULL = '".toList ++ escapeQuotes value ++ ['\'']
  | none => []

/-! ### Their tokens -/

/-- The tokens of a quoted URL with a public key. -/
def endpointTokens (address urlSuffix : List Char) (publicKey : Option (List Char)) : List Token :=
  match publicKey with
  | some fingerprint =>
    [.string ("https://".toList ++ address ++ urlSuffix), keyword "PUBLIC", keyword "KEY",
      .string fingerprint]
  | none => [.string ("http://".toList ++ address ++ urlSuffix)]

/-- The tokens of a clause with one value. -/
def optionTokens (keywords : List String) (value : List Char) : List Token :=
  keywords.map keyword ++ [.symbol '=', .string value]

/-- The tokens of the clauses for the frame. -/
def CsvFraming.tokens (framing : CsvFraming) : List Token :=
  optionTokens ["ENCODING"] framing.encoding ++
    (optionTokens ["COLUMN", "SEPARATOR"] [framing.columnSeparator] ++
      (optionTokens ["COLUMN", "DELIMITER"] [framing.columnDelimiter] ++
        optionTokens ["ROW", "SEPARATOR"] framing.rowSeparator))

/-- The tokens of the clause for NULL. -/
def nullTokens (nullValue : Option (List Char)) : List Token :=
  match nullValue with
  | some value => optionTokens ["NULL"] value
  | none => []

/-- A clause with one value. -/
theorem clause_option (label : List Char) (keywords : List String) (value : List Char)
    (h : run .between label = (keywords.map keyword ++ [.symbol '='], .between)) :
    Clause (label ++ quote value) (optionTokens keywords value) := by
  have hclause := Clause.after h (clause_quote value)
  rwa [List.append_assoc] at hclause

theorem quote_eq (text : List Char) : quote text = '\'' :: escapeQuotes text ++ ['\''] := rfl

theorem escapeSqlChar_eq (c : Char) : escapeSqlChar c = escapeQuotes [c] := by
  simp [escapeSqlChar, escapeQuotes]

/-- **The quoted URL is one literal.** -/
theorem clause_quotedEndpoint (address urlSuffix : List Char) (publicKey : Option (List Char)) :
    Clause (quotedEndpoint address urlSuffix publicKey)
      (endpointTokens address urlSuffix publicKey) := by
  have hscheme (scheme : List Char) (h : '\'' ∉ scheme) :
      quote (scheme ++ address ++ urlSuffix) =
        '\'' :: (scheme ++ (escapeQuotes address ++ (escapeQuotes urlSuffix ++ ['\'']))) := by
    unfold quote
    rw [double_append, double_append, double_of_not_mem h]
    simp only [List.append_assoc, List.cons_append]
    rfl
  cases publicKey with
  | none =>
    have hopen : "'http://".toList = '\'' :: "http://".toList := by decide +kernel
    have htext : quotedEndpoint address urlSuffix none =
        quote ("http://".toList ++ address ++ urlSuffix) := by
      rw [hscheme _ (by decide +kernel)]
      unfold quotedEndpoint
      rw [hopen]
      simp only [List.append_assoc, List.cons_append]
    rw [htext]
    exact clause_quote _
  | some fingerprint =>
    have hopen : "'https://".toList = '\'' :: "https://".toList := by decide +kernel
    have hkey : "' PUBLIC KEY '".toList = '\'' :: (" PUBLIC KEY ".toList ++ ['\'']) := by
      decide +kernel
    have htext : quotedEndpoint address urlSuffix (some fingerprint) =
        quote ("https://".toList ++ address ++ urlSuffix) ++
          (" PUBLIC KEY ".toList ++ quote fingerprint) := by
      rw [hscheme _ (by decide +kernel), quote_eq]
      unfold quotedEndpoint
      rw [hopen, hkey]
      simp only [List.append_assoc, List.cons_append, List.nil_append]
    rw [htext]
    have hrun : run .between " PUBLIC KEY ".toList =
        ([keyword "PUBLIC", keyword "KEY"], .between) := by decide +kernel
    exact (clause_quote _).append (.after hrun (clause_quote fingerprint))
      (spaced_append (by decide +kernel) _)

/-- **Each part of the frame is one literal.** -/
theorem CsvFraming.clause_toSql (framing : CsvFraming) : Clause framing.toSql framing.tokens := by
  have hencoding : "\nENCODING = '".toList = "\nENCODING = ".toList ++ ['\''] := by decide +kernel
  have hseparator : "'\nCOLUMN SEPARATOR = '".toList =
      '\'' :: ("\nCOLUMN SEPARATOR = ".toList ++ ['\'']) := by decide +kernel
  have hdelimiter : "'\nCOLUMN DELIMITER = '".toList =
      '\'' :: ("\nCOLUMN DELIMITER = ".toList ++ ['\'']) := by decide +kernel
  have hrow : "'\nROW SEPARATOR = '".toList =
      '\'' :: ("\nROW SEPARATOR = ".toList ++ ['\'']) := by decide +kernel
  have htext : framing.toSql = ("\nENCODING = ".toList ++ quote framing.encoding) ++
      (("\nCOLUMN SEPARATOR = ".toList ++ quote [framing.columnSeparator]) ++
        (("\nCOLUMN DELIMITER = ".toList ++ quote [framing.columnDelimiter]) ++
          ("\nROW SEPARATOR = ".toList ++ quote framing.rowSeparator))) := by
    unfold toSql
    rw [hencoding, hseparator, hdelimiter, hrow]
    simp only [quote_eq, escapeSqlChar_eq, List.append_assoc, List.cons_append, List.nil_append]
  rw [htext]
  have hclause₁ := clause_option "\nENCODING = ".toList ["ENCODING"] framing.encoding
    (by decide +kernel)
  have hclause₂ := clause_option "\nCOLUMN SEPARATOR = ".toList ["COLUMN", "SEPARATOR"]
    [framing.columnSeparator] (by decide +kernel)
  have hclause₃ := clause_option "\nCOLUMN DELIMITER = ".toList ["COLUMN", "DELIMITER"]
    [framing.columnDelimiter] (by decide +kernel)
  have hclause₄ := clause_option "\nROW SEPARATOR = ".toList ["ROW", "SEPARATOR"]
    framing.rowSeparator (by decide +kernel)
  refine hclause₁.append (hclause₂.append (hclause₃.append hclause₄ ?_) ?_) ?_
  · exact spaced_append (by decide +kernel) _
  · rw [List.append_assoc]
    exact spaced_append (by decide +kernel) _
  · rw [List.append_assoc]
    exact spaced_append (by decide +kernel) _

theorem spaced_toSql (framing : CsvFraming) (rest : List Char) : Spaced (framing.toSql ++ rest) := by
  unfold CsvFraming.toSql
  simp only [List.append_assoc]
  exact spaced_append (by decide +kernel) _

/-- **The text for NULL is one literal.** -/
theorem clause_nullClause (nullValue : Option (List Char)) :
    Clause (nullClause nullValue) (nullTokens nullValue) := by
  cases nullValue with
  | none => exact clause_nil
  | some value =>
    have hnull : "\nNULL = '".toList = "\nNULL = ".toList ++ ['\''] := by decide +kernel
    have htext : nullClause (some value) = "\nNULL = ".toList ++ quote value := by
      unfold nullClause
      rw [hnull, quote_eq]
      simp only [List.append_assoc, List.cons_append, List.nil_append]
    rw [htext]
    exact clause_option "\nNULL = ".toList ["NULL"] value (by decide +kernel)

/-! ### Names -/

/-- A mode in which a name ends. -/
structure EndsName (m : Mode) : Prop where
  complete : complete m = true
  extend : ∀ c, isWordChar c = false → c ≠ '"' → extend m c = none

theorem EndsName.closed {m : Mode} (h : EndsName m) : Closed m := by
  intro s hs
  cases s with
  | nil => exact h.complete
  | cons c s =>
    have hblank := hs c rfl
    unfold Char.isWhitespace at hblank
    simp only [Bool.or_eq_true, decide_eq_true_eq] at hblank
    rcases hblank with ((rfl | rfl) | rfl) | rfl <;> exact h.extend _ (by decide) (by decide)

/-- **A name is read back.** -/
theorem IsName.reads {name : List Char} (h : IsName name) :
    ∃ last, Reads name (nameTokens name) last ∧ EndsName last := by
  cases h with
  | word c text hdigit h =>
    have hreads := reads_word hdigit h
    refine ⟨.word (c :: text), ?_, rfl, fun d hd _ => by simp [extend, hd]⟩
    unfold nameTokens
    rw [hreads.lex_eq rfl]
    exact hreads
  | quoted text =>
    have hreads := reads_quotedName text
    refine ⟨.quotedQuote text, ?_, rfl, fun d _ hd => by simp [extend, hd]⟩
    unfold nameTokens
    rw [hreads.lex_eq rfl]
    exact hreads

/-- A name behind a point. -/
theorem IsName.reads_point {name : List Char} (h : IsName name) :
    ∃ last, Reads ('.' :: name) (.symbol '.' :: nameTokens name) last ∧ EndsName last := by
  obtain ⟨last, ⟨done, hrun, htokens⟩, hlast⟩ := h.reads
  refine ⟨last, ⟨.symbol '.' :: done, ?_, by rw [htokens]; rfl⟩, hlast⟩
  have hfirst : ∃ c text, name = c :: text ∧ c.isDigit = false := by
    cases h with
    | word c text hdigit _ => exact ⟨c, text, rfl, hdigit⟩
    | quoted text => exact ⟨'"', double '"' text ++ ['"'], rfl, by decide⟩
  obtain ⟨c, text, rfl, hdigit⟩ := hfirst
  rw [run_cons]
  change ((run .dot _).1, (run .dot _).2) = _
  rw [run_of_extend_eq_none (by simp [Lexing.extend, hdigit]), hrun]
  rfl

/-- **A name with a schema is read back.** -/
theorem clause_qualifiedName {schema : Option (List Char)} {name : List Char}
    (hschema : ∀ s ∈ schema, IsName s) (hname : IsName name) :
    ∃ last, Reads (qualifiedName schema name) (qualifiedTokens schema name) last ∧
      EndsName last := by
  cases schema with
  | none => exact hname.reads
  | some schema =>
    obtain ⟨m, hreads, hm⟩ := (hschema schema rfl).reads
    obtain ⟨last, hpoint, hlast⟩ := hname.reads_point
    refine ⟨last, ?_, hlast⟩
    change Reads (schema ++ ['.'] ++ name) _ last
    rw [List.append_assoc]
    exact hreads.append hpoint (List.cons_ne_nil _ _) (hm.extend '.' (by decide) (by decide))

/-- **A list of texts is read back**: each ends as a name ends, and they are put
together with commas. -/
theorem reads_list {items : List (List Char × List Token)} {separator close : List Char}
    {closing : List Token} (hclose : run .between close = (closing, .between))
    (hcloses : ∃ c s, close = c :: s ∧ isWordChar c = false ∧ c ≠ '"')
    (hseparator : run .between separator = ([.symbol ','], .between))
    (hseparates : ∃ s, separator = ',' :: s)
    (h : ∀ item ∈ items, ∃ last, Reads item.1 item.2 last ∧ EndsName last) :
    Reads (separator.intercalate (items.map Prod.fst) ++ close)
      ([Token.symbol ','].intercalate (items.map Prod.snd) ++ closing) .between := by
  have hcloseReads : Reads close closing .between := ⟨_, hclose, (List.append_nil _).symm⟩
  obtain ⟨c, s, hc, hword, hquote⟩ := hcloses
  obtain ⟨s', hs'⟩ := hseparates
  have hnil : close ≠ [] := hc ▸ List.cons_ne_nil c s
  induction items with
  | nil => exact hcloseReads
  | cons item items ih =>
    obtain ⟨last, hreads, hlast⟩ := h item List.mem_cons_self
    have ih := ih fun next hnext => h next (List.mem_cons_of_mem item hnext)
    cases items with
    | nil =>
      rw [List.map_singleton, List.map_singleton, List.intercalate_singleton,
        List.intercalate_singleton]
      refine hreads.append hcloseReads hnil ?_
      rw [hc]
      exact hlast.extend c hword hquote
    | cons next items =>
      have hcomma : Reads separator [.symbol ','] .between := ⟨_, hseparator, rfl⟩
      rw [List.map_cons, List.map_cons] at ih
      rw [List.map_cons, List.map_cons, List.map_cons, List.map_cons,
        List.intercalate_cons_cons, List.intercalate_cons_cons]
      simp only [List.append_assoc]
      refine hreads.append (hcomma.append ih ?_ (parted_between _)) ?_ ?_
      · exact List.append_ne_nil_of_right_ne_nil _ hnil
      · rw [hs']
        exact List.cons_ne_nil _ _
      · rw [hs']
        exact hlast.extend ',' (by decide) (by decide)

/-- The columns of a list, with the parenthesis behind them. -/
theorem reads_columns {columns : List (List Char)} (h : ∀ column ∈ columns, IsName column) :
    Reads (", ".toList.intercalate columns ++ [')'])
      ([Token.symbol ','].intercalate (columns.map nameTokens) ++ [.symbol ')']) .between := by
  have hchars : ", ".toList = [',', ' '] := by decide +kernel
  have hreads := @reads_list (columns.map fun column => (column, nameTokens column)) ", ".toList
    [')'] [.symbol ')'] rfl ⟨')', [], rfl, by decide, by decide⟩ (by decide +kernel)
    ⟨[' '], hchars⟩ fun item hitem => by
      obtain ⟨column, hcolumn, rfl⟩ := List.mem_map.mp hitem
      exact (h column hcolumn).reads
  rw [List.map_map, List.map_map] at hreads
  simpa [Function.comp_def] using hreads

/-- **A list of columns is read back.** -/
theorem clause_columnList {columns : List (List Char)} (h : ∀ column ∈ columns, IsName column) :
    Clause (columnList columns) (columnTokens columns) := by
  have hopen : run .between " (".toList = ([.symbol '('], .between) := by decide +kernel
  have hcolumns : Clause (", ".toList.intercalate columns ++ [')'])
      ([Token.symbol ','].intercalate (columns.map nameTokens) ++ [.symbol ')']) :=
    ⟨_, reads_columns h, closed_between⟩
  have hclause := Clause.after hopen hcolumns
  unfold columnList
  rw [List.append_assoc]
  exact hclause

end Exarrow.Query
