import Exarrow.Csv.Rows
import Exarrow.Export.Pieces
import Exarrow.Foundations.Text

/-!
# The number of exported rows

An export into a file or a stream gives a number, for which the line feeds of the decoded body
are counted (`Exarrow.Export.exportToStream`). What a row is, the reader of CSV text knows.

The reader takes the text of a body apart into the texts of its rows, each with what ends the
row (`Exarrow.Export.flatten_rowTexts`). A line feed of the body stands within such a text or at
its end. **The number given is that of the rows, with that of the column names, for those bodies
in which as many line feeds stand within rows as there are rows that do not end in one**
(`Exarrow.Export.exportToStream_rows`): none of either, unless a value holds a line feed, rows
end in a carriage return, or the last row is not ended.
-/

namespace Exarrow.Export

open Csv Streaming

/-! ### The export -/

/-- The options of an export that say how its body is read. -/
structure CsvExportOptions where
  columnSeparator : Char := ','
  columnDelimiter : Char := '"'
  compression : Compression := .none
  withColumnNames : Bool := false

section Exports

variable {W : Type} (decoders : Decoders) (options : CsvExportOptions) (fuel : ℕ)
  (pieces : List (List UInt8))

/-- What an export into a stream does with the pieces of the body. -/
def exportToStream (writer : Writer W) : EStateM ExportError W (Option ℕ) :=
  writeDecoded writer decoders options.compression fuel pieces

end Exports

/-- The rows of a body that are data. -/
def CsvExportOptions.dataRows (options : CsvExportOptions) (rows : List Row) : List Row :=
  if options.withColumnNames then rows.tail else rows

/-! ### The texts of the rows -/

section RowTexts

variable (separator delimiter : Char)

/-- The texts from which the rows are read, so many at most. -/
def rowTextsUpTo : ℕ → List Char → List (List Char)
  | 0, _ => []
  | n + 1, text =>
    if text = [] then []
    else
      match readRow separator delimiter text [] [] false with
      | none => []
      | some (_, rest) => text.take (text.length - rest.length) :: rowTextsUpTo n rest

/-- The texts from which the rows are read, each with what ends the row. -/
def rowTexts (text : List Char) : List (List Char) :=
  rowTextsUpTo separator delimiter text.length text

variable {separator delimiter}

/-- What is left after a row is the end of what was read. -/
theorem readRow_suffix {chars rest : List Char} {row row' : Row} {field : Field} {inQuotes : Bool}
    (h : readRow separator delimiter chars row field inQuotes = some (row', rest)) :
    rest <:+ chars := by
  fun_induction readRow separator delimiter chars row field inQuotes <;>
    grind [List.suffix_cons]

/-- **The texts of the rows make up the text**, and none of them is empty. -/
theorem flatten_rowTextsUpTo {n : ℕ} {r : CsvRows} {rows : List Row} (hn : r.chars.length ≤ n)
    (h : r.collectUpTo n = .ok rows) :
    (rowTextsUpTo r.separator r.delimiter n r.chars).flatten = r.chars ∧
      (rowTextsUpTo r.separator r.delimiter n r.chars).length = rows.length ∧
      ∀ t ∈ rowTextsUpTo r.separator r.delimiter n r.chars, t ≠ [] := by
  induction n generalizing r rows with
  | zero =>
    have hnil : r.chars = [] := List.length_eq_zero_iff.mp (Nat.le_zero.mp hn)
    cases h
    exact ⟨hnil.symm, rfl, fun t ht => absurd ht List.not_mem_nil⟩
  | succ n ih =>
    rw [CsvRows.collectUpTo] at h
    unfold rowTextsUpTo
    by_cases hnil : r.chars = []
    · have hnext : r.next = none := if_pos hnil
      rw [hnext] at h
      cases h
      rw [if_pos hnil]
      exact ⟨hnil.symm, rfl, fun t ht => absurd ht List.not_mem_nil⟩
    rw [if_neg hnil]
    rcases hread : readRow r.separator r.delimiter r.chars [] [] false with _ | ⟨row, rest⟩
    · have hnext : r.next = some (.error (unclosedQuote r.rowsYielded), { r with chars := [] }) := by
        rw [CsvRows.next, if_neg hnil, hread]
      rw [hnext] at h
      cases h
    have hnext : r.next =
        some (.ok row, { r with chars := rest, rowsYielded := r.rowsYielded + 1 }) := by
      rw [CsvRows.next, if_neg hnil, hread]
    have hshort := CsvRows.length_of_next hnext
    obtain ⟨consumed, hconsumed⟩ := readRow_suffix hread
    have htake : r.chars.take (r.chars.length - rest.length) = consumed := by
      rw [← hconsumed, List.length_append, Nat.add_sub_cancel, List.take_left]
    have hne : consumed ≠ [] := by
      rintro rfl
      rw [List.nil_append] at hconsumed
      exact absurd hshort (by rw [hconsumed]; exact lt_irrefl _)
    rw [hnext] at h
    obtain ⟨more, hmore, rfl⟩ : ∃ more, CsvRows.collectUpTo n
        { r with chars := rest, rowsYielded := r.rowsYielded + 1 } = .ok more ∧
          row :: more = rows := by
      dsimp only at h
      cases hmore : CsvRows.collectUpTo n
          { r with chars := rest, rowsYielded := r.rowsYielded + 1 } with
      | error e =>
        rw [hmore] at h
        cases h
      | ok more =>
        rw [hmore] at h
        cases h
        exact ⟨more, rfl, rfl⟩
    obtain ⟨hflatten, hlength, hall⟩ := ih (Nat.le_of_lt_succ (hshort.trans_le hn)) hmore
    dsimp only at hflatten hlength hall ⊢
    rw [htake]
    refine ⟨?_, ?_, ?_⟩
    · rw [List.flatten_cons, hflatten, hconsumed]
    · rw [List.length_cons, List.length_cons, hlength]
    · intro t ht
      obtain rfl | ht := List.mem_cons.mp ht
      · exact hne
      · exact hall t ht

theorem flatten_rowTexts {text : List Char} {rows : List Row}
    (h : parseCsv text separator delimiter = .ok rows) :
    (rowTexts separator delimiter text).flatten = text ∧
      (rowTexts separator delimiter text).length = rows.length ∧
      ∀ t ∈ rowTexts separator delimiter text, t ≠ [] :=
  @flatten_rowTextsUpTo text.length (csvRows text separator delimiter) rows le_rfl h

end RowTexts

/-! ### Line feeds -/

/-- Whether the text of a row ends in a line feed. -/
def endsInLineFeed (t : List Char) : Bool := t.getLast? = some '\n'

/-- The line feeds that stand within rows. -/
def lineFeedsWithin (texts : List (List Char)) : ℕ := (texts.map (·.dropLast.count '\n')).sum

/-- The rows that do not end in a line feed. -/
def rowsNotEnded (texts : List (List Char)) : ℕ := texts.countP (!endsInLineFeed ·)

/-- A line feed stands within the text of a row or ends it. -/
theorem count_lineFeed {t : List Char} (ht : t ≠ []) :
    t.count '\n' + (if endsInLineFeed t then 0 else 1) = t.dropLast.count '\n' + 1 := by
  obtain ⟨init, last, rfl⟩ := List.eq_nil_or_concat' t |>.resolve_left ht
  unfold endsInLineFeed
  rw [List.getLast?_concat, List.dropLast_concat, List.count_append]
  by_cases hlast : last = '\n'
  · subst hlast
    simp
  · simp [hlast]

/-- **Line feeds and rows**: the line feeds within rows are too many, and the rows that do not end
in one are missing. -/
theorem count_flatten_lineFeed {texts : List (List Char)} (h : ∀ t ∈ texts, t ≠ []) :
    texts.flatten.count '\n' + rowsNotEnded texts = texts.length + lineFeedsWithin texts := by
  induction texts with
  | nil => rfl
  | cons t texts ih =>
    have hfirst := count_lineFeed (h t (List.mem_cons_self ..))
    have hrest := ih fun u hu => h u (List.mem_cons_of_mem t hu)
    unfold rowsNotEnded lineFeedsWithin at *
    rw [List.flatten_cons, List.count_append, List.countP_cons, List.length_cons, List.map_cons,
      List.sum_cons]
    cases hends : endsInLineFeed t <;> simp [hends] at hfirst ⊢ <;> omega

/-- The line feeds of a text are those of its bytes. -/
theorem countLineFeeds_bytes (text : List Char) :
    countLineFeeds (Text.bytes text) = text.count '\n' := by
  induction text with
  | nil => rfl
  | cons c text ih =>
    have hsplit : Text.bytes (c :: text) = Text.bytes [c] ++ Text.bytes text := by
      simp [Text.bytes]
    unfold countLineFeeds at *
    rw [hsplit, List.count_append, ih, List.count_cons, Nat.add_comm]
    congr 1
    by_cases hc : c = '\n'
    · subst hc
      decide
    · have hnot : (10 : UInt8) ∉ Text.bytes [c] := fun hmem =>
        hc (List.mem_singleton.mp (Text.mem_of_mem_bytes (d := '\n') (by decide) hmem)).symm
      rw [List.count_eq_zero.mpr hnot]
      simp [hc]

/-! ### The number that is given -/

section Contract

variable {W : Type} {writer : Writer W} {gzip bzip2 : Format}

/-- What an export into a stream gives when it succeeds: the line feeds of the whole body. -/
theorem exportToStream_count (hw : writer.Lawful) (decoders : Decoders)
    (hgzip : Decodes gzip decoders.multiGzDecoder) (hbzip2 : Decodes bzip2 decoders.bzDecoder)
    (options : CsvExportOptions) (pieces : List (List UInt8)) {fuel : ℕ}
    (hfuel : ((formatOf gzip bzip2 options.compression).output pieces.flatten).length < fuel)
    {w w' : W} {given : Option ℕ}
    (hrun : exportToStream decoders options fuel pieces writer w = .ok given w') :
    given = some (countLineFeeds
      ((formatOf gzip bzip2 options.compression).output pieces.flatten)) := by
  have c := decodesOf hgzip hbzip2 options.compression
  have hdecoded := writeDecoded_decoded hw decoders options.compression c pieces hfuel
  unfold exportToStream at hrun
  generalize writeDecoded writer decoders options.compression fuel pieces = m at *
  -- An export that fails does not give a number.
  have hfails {bytes : List UInt8} {e : String} (hm : m = writeThenFail writer bytes e) : False := by
    rw [hm] at hrun
    unfold writeThenFail at hrun
    simp only [bind, EStateM.bind] at hrun
    split at hrun
    · cases hrun
    · cases hrun
  obtain ⟨-, hm⟩ | ⟨-, -, hm⟩ | ⟨-, -, hm⟩ := hdecoded
  · rw [hm] at hrun
    unfold writeAllOf at hrun
    simp only [bind, EStateM.bind] at hrun
    split at hrun
    · split at hrun
      · cases hrun
        rfl
      · cases hrun
    · cases hrun
  · exact (hfails hm).elim
  · exact (hfails hm).elim

/-- **The number that an export gives** is that of the rows of its body, the row with the column
names included, if and only if as many line feeds stand within rows as there are rows that do not
end in one. -/
theorem exportToStream_rows (hw : writer.Lawful) (decoders : Decoders)
    (hgzip : Decodes gzip decoders.multiGzDecoder) (hbzip2 : Decodes bzip2 decoders.bzDecoder)
    (options : CsvExportOptions) (pieces : List (List UInt8)) {fuel : ℕ}
    (hfuel : ((formatOf gzip bzip2 options.compression).output pieces.flatten).length < fuel)
    {text : List Char} {rows : List Row}
    (htext : (formatOf gzip bzip2 options.compression).output pieces.flatten = Text.bytes text)
    (hrows : parseCsv text options.columnSeparator options.columnDelimiter = .ok rows)
    {w w' : W} {given : Option ℕ}
    (hrun : exportToStream decoders options fuel pieces writer w = .ok given w') :
    ∃ count, given = some count ∧ (count = rows.length ↔
      lineFeedsWithin (rowTexts options.columnSeparator options.columnDelimiter text) =
        rowsNotEnded (rowTexts options.columnSeparator options.columnDelimiter text)) := by
  have hcount := exportToStream_count hw decoders hgzip hbzip2 options pieces hfuel hrun
  rw [htext, countLineFeeds_bytes] at hcount
  obtain ⟨hflatten, hlength, hne⟩ := flatten_rowTexts hrows
  have hlaw := count_flatten_lineFeed hne
  rw [hflatten, hlength] at hlaw
  refine ⟨_, hcount, ?_⟩
  constructor
  · intro h
    omega
  · intro h
    omega

/-- A row with the column names and a data row. -/
def namesAndRow : List Char := ['A', '\n', '1', '\n']

/-- The row with the column names is counted. -/
theorem exportToStream_rows_names :
    ∃ count, (some 2 : Option ℕ) = some count ∧ (count = [[['A']], [['1']]].length ↔
      lineFeedsWithin (rowTexts ',' '"' namesAndRow) = rowsNotEnded (rowTexts ',' '"' namesAndRow)) :=
  @exportToStream_rows _ _ _ _ memoryWriter_lawful ⟨waitingReader, waitingReader⟩ waitingDecodes
    waitingDecodes { withColumnNames := true } [Text.bytes namesAndRow] 5 (by decide)
    namesAndRow _ (by decide) (by rfl) [] (Text.bytes namesAndRow) _ (by rfl)

/-- **The number is not always that of the data rows**: with the column names it is greater, and
so it is where a value holds a line feed. -/
theorem exportToStream_not_dataRows :
    (exportToStream ⟨waitingReader, waitingReader⟩ { withColumnNames := true } 5
        [Text.bytes namesAndRow] memoryWriter [] = .ok (some 2) (Text.bytes namesAndRow) ∧
      parseCsv namesAndRow ',' '"' = .ok [[['A']], [['1']]] ∧
      (CsvExportOptions.dataRows { withColumnNames := true } [[['A']], [['1']]]).length = 1) ∧
    ∃ text, exportToStream ⟨waitingReader, waitingReader⟩ {} 6
        [Text.bytes text] memoryWriter [] = .ok (some 2) (Text.bytes text) ∧
      parseCsv text ',' '"' = .ok [[['1', '\n']]] :=
  ⟨⟨rfl, rfl, rfl⟩, ['"', '1', '\n', '"', '\n'], rfl, rfl⟩

end Contract

end Exarrow.Export
