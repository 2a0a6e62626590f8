import Exarrow.Error

/-!
# Rows of CSV text

The text that an import writes for a row (`Exarrow.Csv.formatCsvRow`) and the reader with
which an export takes a text apart (`Exarrow.Csv.CsvRows.next`). The writer quotes a field
only where the field holds the separator, the delimiter or a line break; the reader is a
machine with two states, inside and outside of quotes.

**Every list of rows is read back as it was written**
(`Exarrow.Csv.parseCsv_formatCsvRow`). The reader meets a field at one place only: behind a
separator or at the start of a row, outside of quotes and with nothing of the field read yet
(`Exarrow.Csv.readRow_formatCsvField`). What it must not see behind a quoted field is another
delimiter, and behind a carriage return that ends a row a line feed; neither begins a row
(`Exarrow.Csv.head?_formatCsvRow`).
-/

namespace Exarrow.Csv

/-- A text. -/
abbrev Field : Type := List Char

/-- A row of texts. -/
abbrev Row : Type := List Field

/-- What ends a row. -/
inductive RowSeparator where
  | lf
  | cr
  | crlf
  deriving DecidableEq

/-- The characters that end a row. -/
def RowSeparator.chars : RowSeparator → List Char
  | lf => ['\n']
  | cr => ['\r']
  | crlf => ['\r', '\n']

section Rows

variable (separator delimiter : Char)

/-! ### The writer -/

/-- The characters for which a field is quoted. -/
def isSpecial (c : Char) : Bool := c = separator || c = delimiter || c = '\n' || c = '\r'

/-- A field in quotes. -/
def quoteField (value : Field) : List Char :=
  delimiter :: value.flatMap (fun c => if c = delimiter then [delimiter, c] else [c]) ++ [delimiter]

/-- The text of a field. -/
def formatCsvField (value : Field) : List Char :=
  if value.any (isSpecial separator delimiter) then quoteField delimiter value else value

/-- The text of a row. -/
def formatCsvRow (rowSeparator : RowSeparator) (row : Row) : List Char :=
  [separator].intercalate (row.map (formatCsvField separator delimiter)) ++ rowSeparator.chars

/-! ### The reader -/

/-- Read up to the end of a row: the fields that are complete, what has been read of the
next one, and whether that is inside of quotes. What follows the row is returned as well;
none if the text ends inside of quotes. -/
def readRow : List Char → Row → Field → Bool → Option (Row × List Char)
  | [], row, field, inQuotes => if inQuotes then none else some (row ++ [field], [])
  | c :: chars, row, field, false =>
    if c = delimiter then readRow chars row field true
    else if c = separator then readRow chars (row ++ [field]) [] false
    else if c = '\n' then some (row ++ [field], chars)
    else if c = '\r' then
      -- A carriage return before a line feed belongs to it, and the line feed ends the row.
      if chars.head? ≠ some '\n' then some (row ++ [field], chars)
      else readRow chars row field false
    else readRow chars row (field ++ [c]) false
  | [c], row, field, true =>
    if c ≠ delimiter then readRow [] row (field ++ [c]) true else readRow [] row field false
  | c :: d :: chars, row, field, true =>
    if c ≠ delimiter then readRow (d :: chars) row (field ++ [c]) true
    else if d = delimiter then readRow chars row (field ++ [delimiter]) true
    else readRow (d :: chars) row field false

end Rows

/-- The reader of the rows of a text. -/
structure CsvRows where
  chars : List Char
  separator : Char
  delimiter : Char
  rowsYielded : ℕ := 0

/-- The reader of a text. -/
def csvRows (data : List Char) (separator delimiter : Char) : CsvRows :=
  { chars := data, separator, delimiter }

/-- The error for a text that ends inside of quotes. -/
def unclosedQuote (row : ℕ) : ExportError := .csvParseError row "Unclosed quote at end of data"

namespace CsvRows

/-- The next row, none at the end of the text. An error is the last item. -/
def next (r : CsvRows) : Option (Except ExportError Row × CsvRows) :=
  if r.chars = [] then none
  else
    match readRow r.separator r.delimiter r.chars [] [] false with
    | some (row, rest) => some (.ok row, { r with chars := rest, rowsYielded := r.rowsYielded + 1 })
    | none => some (.error (unclosedQuote r.rowsYielded), { r with chars := [] })

/-- The rows up to the end of the text or to an error, so many at most. -/
def collectUpTo : ℕ → CsvRows → Except ExportError (List Row)
  | 0, _ => .ok []
  | n + 1, r =>
    match r.next with
    | none => .ok []
    | some (.error e, _) => .error e
    | some (.ok row, r) => (collectUpTo n r).map (row :: ·)

/-- All rows, of which there are no more than characters. -/
def collect (r : CsvRows) : Except ExportError (List Row) := collectUpTo r.chars.length r

end CsvRows

/-- The rows of a text. -/
def parseCsv (data : List Char) (separator delimiter : Char) : Except ExportError (List Row) :=
  (csvRows data separator delimiter).collect

section RoundTrip

variable {separator delimiter : Char} {rest : List Char} {row : Row} {field : Field}

/-- What follows a row is shorter than what was read. -/
theorem length_of_readRow {chars : List Char} {row' : Row} {inQuotes : Bool}
    (h : readRow separator delimiter chars row field inQuotes = some (row', rest)) :
    rest.length ≤ chars.length - 1 := by
  fun_induction readRow separator delimiter chars row field inQuotes <;> grind

namespace CsvRows

/-- A reader that has given a row has less text before it. -/
theorem length_of_next {r r' : CsvRows} (h : r.next = some (.ok row, r')) :
    r'.chars.length < r.chars.length := by
  unfold next at h
  split at h
  · cases h
  · rename_i hne
    split at h
    · rename_i hread
      cases h
      have hlen := length_of_readRow hread
      have hpos := List.length_pos_iff.mpr hne
      dsimp only
      omega
    · cases h

theorem collectUpTo_of_nil {r : CsvRows} (h : r.chars = []) (n : ℕ) : collectUpTo n r = .ok [] := by
  cases n with
  | zero => rfl
  | succ n => simp [collectUpTo, next, h]

/-- Collecting with enough fuel does not depend on it. -/
theorem collectUpTo_congr {r : CsvRows} {m n : ℕ} (hm : r.chars.length ≤ m)
    (hn : r.chars.length ≤ n) : collectUpTo m r = collectUpTo n r := by
  induction m generalizing r n with
  | zero =>
    have hnil : r.chars = [] := List.length_eq_zero_iff.mp (Nat.le_zero.mp hm)
    rw [collectUpTo_of_nil hnil, collectUpTo_of_nil hnil]
  | succ m ih =>
    cases n with
    | zero =>
      have hnil : r.chars = [] := List.length_eq_zero_iff.mp (Nat.le_zero.mp hn)
      rw [collectUpTo_of_nil hnil, collectUpTo_of_nil hnil]
    | succ n =>
      rw [collectUpTo, collectUpTo]
      rcases hnext : r.next with _ | ⟨_ | row, r'⟩
      · rfl
      · rfl
      · have hlen := length_of_next hnext
        dsimp only
        rw [ih (Nat.le_of_lt_succ (hlen.trans_le hm)) (Nat.le_of_lt_succ (hlen.trans_le hn))]

/-- **The rows of a text**, one after the other. -/
theorem collect_eq (r : CsvRows) : r.collect =
    match r.next with
    | none => .ok []
    | some (.error e, _) => .error e
    | some (.ok row, r') => r'.collect.map (row :: ·) := by
  rw [collect, collectUpTo_congr le_rfl (Nat.le_succ r.chars.length), collectUpTo]
  rcases hnext : r.next with _ | ⟨_ | row, r'⟩
  · rfl
  · rfl
  · dsimp only
    rw [collect, collectUpTo_congr (length_of_next hnext).le le_rfl]

end CsvRows

/-! ### The round trip -/

/-- Outside of quotes the reader takes a text without special characters as it is. -/
theorem readRow_plain {value : Field} (h : ∀ c ∈ value, isSpecial separator delimiter c = false) :
    readRow separator delimiter (value ++ rest) row field false =
      readRow separator delimiter rest row (field ++ value) false := by
  induction value generalizing field with
  | nil => rw [List.nil_append, List.append_nil]
  | cons c value ih =>
    have hc := h c (List.mem_cons_self ..)
    simp only [isSpecial, Bool.or_eq_false_iff, decide_eq_false_iff_not] at hc
    obtain ⟨⟨⟨hsep, hdel⟩, hlf⟩, hcr⟩ := hc
    rw [List.cons_append, readRow, if_neg hdel, if_neg hsep, if_neg hlf, if_neg hcr,
      ih fun d hd => h d (List.mem_cons_of_mem c hd), List.append_assoc]
    rfl

/-- Inside of quotes it takes a text whose delimiters are doubled up to the one that ends the
quotes. -/
theorem readRow_inside {value : Field} (hrest : rest.head? ≠ some delimiter) :
    readRow separator delimiter (value.flatMap (fun c =>
        if c = delimiter then [delimiter, c] else [c]) ++ delimiter :: rest) row field true =
      readRow separator delimiter rest row (field ++ value) false := by
  induction value generalizing field with
  | nil =>
    rw [List.flatMap_nil, List.nil_append, List.append_nil]
    cases rest with
    | nil => simp [readRow]
    | cons d rest =>
      have hd : d ≠ delimiter := fun h => hrest (congrArg some h)
      conv_lhs => rw [readRow, if_neg (not_not_intro rfl), if_neg hd]
  | cons c value ih =>
    rw [List.flatMap_cons]
    by_cases hc : c = delimiter
    · -- A doubled delimiter is one of the text.
      subst hc
      rw [if_pos rfl]
      simp only [List.cons_append, List.nil_append]
      rw [readRow, if_neg (not_not_intro rfl), if_pos rfl, ih, List.append_assoc]
      rfl
    · rw [if_neg hc]
      simp only [List.cons_append, List.nil_append]
      obtain ⟨d, tail, htail⟩ : ∃ d tail, value.flatMap (fun c =>
          if c = delimiter then [delimiter, c] else [c]) ++ delimiter :: rest = d :: tail :=
        List.exists_cons_of_ne_nil (by simp)
      rw [htail, readRow, if_pos hc, ← htail, ih, List.append_assoc]
      rfl

/-- **A field is read as it was written**, whatever it holds. -/
theorem readRow_formatCsvField (value : Field)
    (hrest : rest.head? ≠ some delimiter) :
    readRow separator delimiter (formatCsvField separator delimiter value ++ rest) row [] false =
      readRow separator delimiter rest row value false := by
  unfold formatCsvField
  split
  · have hinside := @readRow_inside separator delimiter rest row [] value hrest
    unfold quoteField
    rw [List.append_assoc, List.singleton_append, List.cons_append, readRow, if_pos rfl, hinside]
    rfl
  · rename_i h
    refine readRow_plain fun c hc => ?_
    rw [Bool.not_eq_true, List.any_eq_false] at h
    exact Bool.not_eq_true _ ▸ h c hc

variable {rowSeparator : RowSeparator}

theorem head?_formatCsvField (hd : delimiter ≠ '\n') (value : Field) :
    (formatCsvField separator delimiter value).head? ≠ some '\n' := by
  unfold formatCsvField
  split
  · simpa [quoteField] using hd
  · rename_i h
    rw [Bool.not_eq_true, List.any_eq_false] at h
    intro hlf
    refine h '\n' (List.mem_of_mem_head? hlf) ?_
    simp [isSpecial]

/-- A row does not begin with a line feed, unless it is that which ends a row. -/
theorem head?_formatCsvRow (hs : separator ≠ '\n') (hd : delimiter ≠ '\n')
    (hr : rowSeparator ≠ .lf) (row : Row) :
    (formatCsvRow separator delimiter rowSeparator row ++ rest).head? ≠ some '\n' := by
  have hchars (ys : List Char) : (rowSeparator.chars ++ ys).head? ≠ some '\n' := by
    cases rowSeparator with
    | lf => exact absurd rfl hr
    | cr => simp [RowSeparator.chars]
    | crlf => simp [RowSeparator.chars]
  unfold formatCsvRow
  rw [List.append_assoc]
  rcases row with _ | ⟨value, _ | ⟨next, fields⟩⟩
  · exact hchars rest
  · rw [List.map_singleton, List.intercalate_singleton, List.head?_append]
    have hvalue := @head?_formatCsvField separator delimiter hd value
    cases hhead : (formatCsvField separator delimiter value).head? with
    | none => exact hchars rest
    | some c => rwa [hhead] at hvalue
  · rw [List.map_cons, List.map_cons, List.intercalate_cons_cons, List.append_assoc,
      List.append_assoc, List.head?_append]
    have hvalue := @head?_formatCsvField separator delimiter hd value
    cases hhead : (formatCsvField separator delimiter value).head? with
    | none => simpa using hs
    | some c => rwa [hhead] at hvalue

/-- The end of a row is read as such. -/
theorem readRow_rowSeparator (hs : separator ≠ '\n' ∧ separator ≠ '\r')
    (hd : delimiter ≠ '\n' ∧ delimiter ≠ '\r')
    (hrest : rowSeparator = .cr → rest.head? ≠ some '\n') :
    readRow separator delimiter (rowSeparator.chars ++ rest) row field false =
      some (row ++ [field], rest) := by
  cases rowSeparator with
  | lf => simp [RowSeparator.chars, readRow, hs.1.symm, hd.1.symm]
  | cr => simp [RowSeparator.chars, readRow, hs.2.symm, hd.2.symm, hrest rfl]
  | crlf => simp [RowSeparator.chars, readRow, hs.1.symm, hd.1.symm, hs.2.symm, hd.2.symm]

/-- **A row is read as it was written.** -/
theorem readRow_formatCsvRow (hsd : separator ≠ delimiter)
    (hs : separator ≠ '\n' ∧ separator ≠ '\r') (hd : delimiter ≠ '\n' ∧ delimiter ≠ '\r')
    (hrest : rowSeparator = .cr → rest.head? ≠ some '\n') {fields : Row} (hne : fields ≠ []) :
    readRow separator delimiter (formatCsvRow separator delimiter rowSeparator fields ++ rest)
      row [] false = some (row ++ fields, rest) := by
  unfold formatCsvRow
  induction fields generalizing row with
  | nil => exact absurd rfl hne
  | cons value fields ih =>
    cases fields with
    | nil =>
      have hend : (rowSeparator.chars ++ rest).head? ≠ some delimiter := by
        cases rowSeparator <;> simp [RowSeparator.chars, hd.1.symm, hd.2.symm]
      have hfield := @readRow_formatCsvField separator delimiter _ row value hend
      simp only [List.map_cons, List.map_nil, List.intercalate_singleton, List.append_assoc]
      rw [hfield, readRow_rowSeparator hs hd hrest]
    | cons next fields =>
      -- Behind the field stands the separator, which is no delimiter.
      have hnext := @ih (row ++ [value]) (List.cons_ne_nil _ _)
      have hend : (separator :: ([separator].intercalate ((next :: fields).map
          (formatCsvField separator delimiter)) ++ rowSeparator.chars ++ rest)).head? ≠
            some delimiter := fun h => hsd (Option.some.inj h)
      have hfield := @readRow_formatCsvField separator delimiter _ row value hend
      rw [List.map_cons, List.map_cons, List.intercalate_cons_cons, ← List.map_cons]
      simp only [List.append_assoc, List.nil_append, List.cons_append]
        at hfield hnext ⊢
      rw [hfield, readRow, if_neg hsd, if_pos rfl, hnext]

/-- **Every list of rows is read back as it was written.** -/
theorem parseCsv_formatCsvRow (hsd : separator ≠ delimiter)
    (hs : separator ≠ '\n' ∧ separator ≠ '\r') (hd : delimiter ≠ '\n' ∧ delimiter ≠ '\r')
    (rowSeparator : RowSeparator) {rows : List Row} (hrows : ∀ row ∈ rows, row ≠ []) :
    parseCsv (rows.flatMap (formatCsvRow separator delimiter rowSeparator)) separator delimiter =
      .ok rows := by
  unfold parseCsv csvRows
  generalize 0 = yielded
  induction rows generalizing yielded with
  | nil => rfl
  | cons row rows ih =>
    have hrest : rowSeparator = .cr → (rows.flatMap
        (formatCsvRow separator delimiter rowSeparator)).head? ≠ some '\n' := by
      rintro rfl
      cases rows with
      | nil => simp
      | cons next rows => exact head?_formatCsvRow hs.1 hd.1 (by decide) next
    have hread := @readRow_formatCsvRow separator delimiter _ [] rowSeparator hsd hs hd hrest row
      (hrows row (List.mem_cons_self ..))
    have hne : formatCsvRow separator delimiter rowSeparator row ++
        rows.flatMap (formatCsvRow separator delimiter rowSeparator) ≠ [] := by
      cases rowSeparator <;> simp [formatCsvRow, RowSeparator.chars]
    rw [CsvRows.collect_eq, List.flatMap_cons, CsvRows.next, if_neg hne, hread]
    dsimp only
    rw [ih (fun r hr => hrows r (List.mem_cons_of_mem row hr))]
    rfl

/-- Fields with separators, delimiters and line breaks, one of them empty. -/
theorem parseCsv_formatCsvRow_special :
    parseCsv ([["a,\"b\"".toList, [], "\r\n".toList], [[]]].flatMap
      (formatCsvRow ',' '"' .cr)) ',' '"' = .ok [["a,\"b\"".toList, [], "\r\n".toList], [[]]] :=
  parseCsv_formatCsvRow (by decide) (by decide) (by decide) .cr (by decide)

end RoundTrip

end Exarrow.Csv
