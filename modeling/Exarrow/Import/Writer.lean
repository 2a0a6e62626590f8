import Exarrow.Foundations.Runs
import Exarrow.Foundations.Sending
import Exarrow.Foundations.Text
import Exarrow.Import.Formatters

/-!
# Writing record batches as CSV

Two writers write record batches to a sink, one after the other: a header before the first batch
if it is asked for, then one line for every row. One writer awaits its sink
(`Exarrow.Import.ArrowToCsvWriter`), the other does not (`Exarrow.Import.SyncArrowToCsvWriter`);
they write the same (`Exarrow.Import.writeLines`). A batch may be refused for its schema before
anything is written, and for one of its values in the middle. The rows are counted behind a batch
only, and whether the header has been written is read off that count.

What the output should be is said in `Exarrow.Import.Kept`: the header once, then lines of the
batches in order, as many as are counted. Two things go wrong. **A header is written again as long
as no row has been counted, and the lines before a value that is refused are never counted**; in
every other run the output is what it should be (`Exarrow.Import.writer_kept_iff`).
-/

namespace Exarrow.Import

open Machine Arrow Sending

/-! ### The writers -/

/-- A sink of bytes, whose errors are texts. -/
abbrev CsvSink : Type := Channel UInt8 String

/-- A computation that writes CSV text. -/
abbrev CsvWriting (α : Type) : Type := Writing UInt8 String ImportError α

/-- The writer over a sink that is awaited. -/
structure ArrowToCsvWriter where
  writer : CsvSink
  options : CsvWriterOptions
  rowsWritten : ℕ := 0

/-- The writer over a sink that blocks. -/
structure SyncArrowToCsvWriter where
  writer : CsvSink
  options : CsvWriterOptions
  rowsWritten : ℕ := 0

/-- Write a line and add its length to the bytes that have been written. -/
def writeLine (bytesWritten : ℕ) (line : List Char) : CsvWriting ℕ := do
  EStateM.adaptExcept .csvWriteError (Sending.write (Text.bytes line))
  return bytesWritten + Text.byteLen line

/-- Write the header if it is asked for and no row has been counted. -/
def writeHeaderLine (options : CsvWriterOptions) (rowsWritten : ℕ) (batch : RecordBatch) :
    CsvWriting ℕ :=
  if options.writeHeader ∧ rowsWritten = 0 then writeLine 0 (formatHeader options batch) else pure 0

section Writers

variable (lib : FormatterLibrary)

/-- Write a row, unless it cannot be formatted. -/
def writeRow (options : CsvWriterOptions) (batch : RecordBatch) (bytesWritten rowIdx : ℕ) :
    CsvWriting ℕ := do
  let row ← fromExcept (formatRow lib options batch rowIdx)
  writeLine bytesWritten row

/-- What both writers write for a batch. -/
def writeLines (options : CsvWriterOptions) (rowsWritten : ℕ) (batch : RecordBatch) :
    CsvWriting ℕ := do
  fromExcept (checkSchemaConverts lib batch.schema)
  let bytesWritten ← writeHeaderLine options rowsWritten batch
  (List.range batch.numRows).foldlM (writeRow lib options batch) bytesWritten

/-- Write a batch. The result is the number of bytes; the rows are counted if all went out. -/
def ArrowToCsvWriter.writeBatch (w : ArrowToCsvWriter) (batch : RecordBatch) :
    Except ImportError ℕ × ArrowToCsvWriter :=
  match writeLines lib w.options w.rowsWritten batch w.writer with
  | .ok bytesWritten c =>
    (.ok bytesWritten, { w with writer := c, rowsWritten := w.rowsWritten + batch.numRows })
  | .error e c => (.error e, { w with writer := c })

/-- Write a batch without awaiting the sink. -/
def SyncArrowToCsvWriter.writeBatch (w : SyncArrowToCsvWriter) (batch : RecordBatch) :
    Except ImportError ℕ × SyncArrowToCsvWriter :=
  match writeLines lib w.options w.rowsWritten batch w.writer with
  | .ok bytesWritten c =>
    (.ok bytesWritten, { w with writer := c, rowsWritten := w.rowsWritten + batch.numRows })
  | .error e c => (.error e, { w with writer := c })

/-! ### What a call writes -/

/-- A schema passes the check. -/
def Passes (batch : RecordBatch) : Prop := checkSchemaConverts lib batch.schema = .ok ()

instance : DecidablePred (Passes lib) := fun _ => decEq _ _

/-- The lines of the first rows of a batch. -/
def FirstLines (options : CsvWriterOptions) (batch : RecordBatch) (n : ℕ)
    (lines : List (List Char)) : Prop :=
  (List.range n).mapM (formatRow lib options batch) = .ok lines

/-- A row cannot be formatted, and these are the lines of the rows before it. -/
def FailsBehind (options : CsvWriterOptions) (batch : RecordBatch) (lines : List (List Char)) :
    Prop :=
  ∃ n < batch.numRows, FirstLines lib options batch n lines ∧
    ∃ e, formatRow lib options batch n = .error e

/-- The header that a call writes. -/
def headerOf (options : CsvWriterOptions) (rowsWritten : ℕ) (batch : RecordBatch) : List Char :=
  if options.writeHeader ∧ rowsWritten = 0 then formatHeader options batch else []

end Writers

/-- A sink that accepts every write. -/
def Accepts (c : CsvSink) : Prop := c.breaks = fun _ => none

/-- A sink holds a text behind what it held before. -/
def Holds (c c' : CsvSink) (text : List Char) : Prop :=
  Accepts c' ∧ c'.written = c.written ++ Text.bytes text

section Calls

variable {lib : FormatterLibrary} {options : CsvWriterOptions} {batch : RecordBatch} {c : CsvSink}

/-- A line is written. -/
theorem writeLine_ok (hc : Accepts c) (n : ℕ) (line : List Char) :
    ∃ c', writeLine n line c = .ok (n + Text.byteLen line) c' ∧ Holds c c' line := by
  obtain ⟨written, calls, breaks⟩ := c
  obtain rfl : breaks = _ := hc
  exact ⟨⟨written ++ Text.bytes line, calls + 1, _⟩, rfl, rfl, rfl⟩

/-- One text behind the other. -/
theorem Holds.trans {c' c'' : CsvSink} {s t : List Char} (h : Holds c c' s) (h' : Holds c' c'' t) :
    Holds c c'' (s ++ t) := by
  refine ⟨h'.1, ?_⟩
  rw [h'.2, h.2, List.append_assoc, Text.bytes_append]

/-- Nothing is written. -/
theorem Holds.refl (hc : Accepts c) : Holds c c [] := ⟨hc, (List.append_nil _).symm⟩

/-- **The loop over the rows** writes the lines of all of them, or those before the first that
cannot be formatted. -/
theorem writeRows_cases (rows : List ℕ) (hc : Accepts c) (bytes : ℕ) :
    (∃ lines c', rows.mapM (formatRow lib options batch) = .ok lines ∧ Holds c c' lines.flatten ∧
      rows.foldlM (writeRow lib options batch) bytes c =
        .ok (bytes + Text.byteLen lines.flatten) c') ∨
    ∃ done i rest lines e c', rows = done ++ i :: rest ∧
      done.mapM (formatRow lib options batch) = .ok lines ∧
      formatRow lib options batch i = .error e ∧ Holds c c' lines.flatten ∧
      rows.foldlM (writeRow lib options batch) bytes c = .error e c' := by
  induction rows generalizing c bytes with
  | nil => exact .inl ⟨[], c, rfl, .refl hc, rfl⟩
  | cons i rows ih =>
    rw [List.foldlM_cons]
    cases hrow : formatRow lib options batch i with
    | error e =>
      refine .inr ⟨[], i, rows, [], e, c, rfl, rfl, hrow, .refl hc, bind_of_error ?_⟩
      unfold writeRow
      rw [hrow]
      rfl
    | ok line =>
      obtain ⟨c₁, hwrite, hline⟩ := writeLine_ok hc bytes line
      have hstep : writeRow lib options batch bytes i c = .ok (bytes + Text.byteLen line) c₁ := by
        unfold writeRow
        rw [hrow]
        exact hwrite
      rw [bind_of_ok hstep]
      obtain ⟨lines, c', hlines, hheld, hrun⟩ | ⟨done, j, rest, lines, e, c', rfl, hlines, he, hheld,
        hrun⟩ := ih hline.1 (bytes + Text.byteLen line)
      · refine .inl ⟨line :: lines, c', ?_, hline.trans hheld, ?_⟩
        · rw [List.mapM_cons, hrow, hlines]
          rfl
        · rw [hrun, List.flatten_cons, Text.byteLen_append, add_assoc]
      · refine .inr ⟨i :: done, j, rest, line :: lines, e, c', rfl, ?_, he, hline.trans hheld, hrun⟩
        rw [List.mapM_cons, hrow, hlines]
        rfl

/-- The header is written if it is asked for and no row has been counted. -/
theorem writeHeaderLine_ok (hc : Accepts c) (counted : ℕ) :
    ∃ c', writeHeaderLine options counted batch c =
        .ok (Text.byteLen (headerOf options counted batch)) c' ∧
      Holds c c' (headerOf options counted batch) := by
  unfold writeHeaderLine headerOf
  split
  · obtain ⟨c', hwrite, hheld⟩ := writeLine_ok hc 0 (formatHeader options batch)
    exact ⟨c', by rw [hwrite, Nat.zero_add], hheld⟩
  · exact ⟨c, rfl, .refl hc⟩

/-- An item of a range and the items before it. -/
theorem range_split {n i : ℕ} {done rest : List ℕ} (h : List.range n = done ++ i :: rest) :
    i < n ∧ done = List.range i := by
  have hlen : n = done.length + (rest.length + 1) := by
    simpa using congrArg List.length h
  have hi : done.length = i := by
    have hget := congrArg (fun l => l[done.length]?) h
    simpa [List.getElem?_range (show done.length < n by omega)] using hget
  have hdone : done = (List.range n).take i := by
    rw [h, ← hi, List.take_left]
  refine ⟨by omega, ?_⟩
  rw [hdone, List.take_range, Nat.min_eq_left (by omega)]

/-- **What a call does.** It is refused for the schema, it writes all lines behind the header, or
it writes the lines before a row that cannot be formatted. -/
theorem writeLines_cases (lib : FormatterLibrary) (options : CsvWriterOptions)
    (batch : RecordBatch) (hc : Accepts c) (counted : ℕ) :
    (¬Passes lib batch ∧ ∃ e, writeLines lib options counted batch c = .error e c) ∨
    (Passes lib batch ∧ ∃ lines c', FirstLines lib options batch batch.numRows lines ∧
      Holds c c' (headerOf options counted batch ++ lines.flatten) ∧
      writeLines lib options counted batch c =
        .ok (Text.byteLen (headerOf options counted batch ++ lines.flatten)) c') ∨
    (Passes lib batch ∧ ∃ lines e c', FailsBehind lib options batch lines ∧
      Holds c c' (headerOf options counted batch ++ lines.flatten) ∧
      writeLines lib options counted batch c = .error e c') := by
  unfold writeLines Passes
  cases hcheck : checkSchemaConverts lib batch.schema with
  | error e => exact .inl ⟨by simp, e, rfl⟩
  | ok u =>
    obtain ⟨c₁, hheader, hheld⟩ := @writeHeaderLine_ok options batch c hc counted
    have hchecked : (fromExcept (.ok u) : CsvWriting Unit) c = .ok u c := rfl
    rw [bind_of_ok hchecked, bind_of_ok hheader]
    refine .inr ?_
    obtain ⟨lines, c', hlines, hrows, hok⟩ | ⟨done, i, rest, lines, e, c', hsplit, hlines, he, hrows,
      herror⟩ := @writeRows_cases lib options batch c₁ (List.range batch.numRows) hheld.1
        (Text.byteLen (headerOf options counted batch))
    · refine .inl ⟨rfl, lines, c', hlines, hheld.trans hrows, ?_⟩
      rw [hok, Text.byteLen_append]
    · obtain ⟨hi, rfl⟩ := range_split hsplit
      exact .inr ⟨rfl, lines, e, c', ⟨i, hi, hlines, e, he⟩, hheld.trans hrows, herror⟩

end Calls

/-! ### Runs -/

/-- A batch that was given to a writer, and what the call returned. -/
structure Call where
  batch : RecordBatch
  outcome : Except ImportError ℕ

/-- Both writers, given the same batches. -/
structure Usage where
  async : ArrowToCsvWriter
  sync : SyncArrowToCsvWriter
  calls : List Call := []
  syncOutcomes : List (Except ImportError ℕ) := []

/-- Both writers at the start, over sinks that accept every write. -/
def Usage.new (options : CsvWriterOptions) : Usage where
  async := { writer := {}, options }
  sync := { writer := {}, options }

/-- Items in order, some for each entry of a list. -/
inductive InOrder {α β : Type} (R : α → List β → Prop) : List α → List β → Prop
  | nil : InOrder R [] []
  | snoc {xs : List α} {ys : List β} {x : α} {more : List β} :
      InOrder R xs ys → R x more → InOrder R (xs ++ [x]) (ys ++ more)

section Runs

variable (lib : FormatterLibrary)

/-- Both writers write a batch. -/
def Usage.writeBatch (u : Usage) (batch : RecordBatch) : Usage where
  async := (u.async.writeBatch lib batch).2
  sync := (u.sync.writeBatch lib batch).2
  calls := u.calls ++ [⟨batch, (u.async.writeBatch lib batch).1⟩]
  syncOutcomes := u.syncOutcomes ++ [(u.sync.writeBatch lib batch).1]

/-- Lines that a call may have in the output: those of the first rows of its batch, and of all
rows if the call succeeded. -/
def Contributes (options : CsvWriterOptions) (call : Call) (lines : List (List Char)) : Prop :=
  ∃ n ≤ call.batch.numRows, FirstLines lib options call.batch n lines ∧
    ∀ bytes, call.outcome = .ok bytes → n = call.batch.numRows

/-- The header of the first batch that passed the check, if a header is asked for. -/
def headerText (options : CsvWriterOptions) (calls : List Call) : List Char :=
  if options.writeHeader then
    match calls.find? fun call => Passes lib call.batch with
    | some call => formatHeader options call.batch
    | none => []
  else []

/-- **The writers keep their promise.** -/
structure Kept (options : CsvWriterOptions) (u : Usage) : Prop where
  /-- The output is the header and complete lines in order, as many as are counted. -/
  output : ∃ lines, InOrder (Contributes lib options) u.calls lines ∧
    u.async.writer.written = Text.bytes (headerText lib options u.calls ++ lines.flatten) ∧
    u.async.rowsWritten = lines.length
  /-- If all calls succeeded, they returned the bytes of the output. -/
  bytes : ∀ counts : List ℕ, u.calls.map Call.outcome = counts.map .ok →
    counts.sum = u.async.writer.written.length
  /-- Both writers do the same. -/
  same : u.sync.writer.written = u.async.writer.written ∧
    u.sync.rowsWritten = u.async.rowsWritten ∧ u.syncOutcomes = u.calls.map Call.outcome

/-- **When a call is harmless.** If its batch passes the check, then no header is written a second
time, which happens as long as no row is counted, and no text is in front of a row that cannot be
formatted. -/
def Clean (options : CsvWriterOptions) (u : Usage) (batch : RecordBatch) : Prop :=
  Passes lib batch →
    (options.writeHeader → u.async.rowsWritten = 0 → (∃ call ∈ u.calls, Passes lib call.batch) →
      formatHeader options batch = []) ∧
    ∀ lines, FailsBehind lib options batch lines → lines.flatten = []

/-- The lines of a call that are counted. -/
def Counts (options : CsvWriterOptions) (call : Call) (lines : List (List Char)) : Prop :=
  (∃ bytes, call.outcome = .ok bytes ∧ Passes lib call.batch ∧
    FirstLines lib options call.batch call.batch.numRows lines) ∨
  ((∃ e, call.outcome = .error e) ∧ lines = [])

/-- What holds as long as all calls are harmless. -/
structure Tracked (options : CsvWriterOptions) (u : Usage) : Prop where
  sameOptions : u.async.options = options
  accepts : Accepts u.async.writer
  sync : u.sync = ⟨u.async.writer, u.async.options, u.async.rowsWritten⟩
  outcomes : u.syncOutcomes = u.calls.map Call.outcome
  output : ∃ lines, InOrder (Counts lib options) u.calls lines ∧
    u.async.writer.written = Text.bytes (headerText lib options u.calls ++ lines.flatten) ∧
    u.async.rowsWritten = lines.length
  bytes : ∀ counts : List ℕ, u.calls.map Call.outcome = counts.map .ok →
    counts.sum = u.async.writer.written.length

/-- Both writers after a call with an outcome. -/
def Usage.next (u : Usage) (call : Call) (c : CsvSink) (rowsWritten : ℕ) : Usage where
  async := ⟨c, u.async.options, rowsWritten⟩
  sync := ⟨c, u.async.options, rowsWritten⟩
  calls := u.calls ++ [call]
  syncOutcomes := u.syncOutcomes ++ [call.outcome]

end Runs

namespace InOrder

variable {α β : Type} {R S : α → List β → Prop} {xs : List α} {ys zs : List β}

/-- The items of the last entry come last. -/
theorem snoc_iff {x : α} : InOrder R (xs ++ [x]) zs ↔
    ∃ ys more, zs = ys ++ more ∧ InOrder R xs ys ∧ R x more := by
  refine ⟨fun h => ?_, ?_⟩
  · generalize hxs : xs ++ [x] = all at h
    cases h with
    | nil => exact absurd hxs (by simp)
    | snoc hfront hlast =>
      obtain ⟨rfl, hx⟩ := List.append_inj' hxs rfl
      obtain rfl := List.singleton_inj.mp hx
      exact ⟨_, _, rfl, hfront, hlast⟩
  · rintro ⟨ys, more, rfl, hfront, hlast⟩
    exact hfront.snoc hlast

/-- **Among the items of two relations, one smaller than the other at every entry, those of the
smaller one are fewer, or the same.** -/
theorem compare (hRS : ∀ x more more', R x more → S x more' →
    more.length ≤ more'.length ∧ (more'.length ≤ more.length → more' = more))
    (h : InOrder R xs ys) (h' : InOrder S xs zs) :
    ys.length ≤ zs.length ∧ (zs.length ≤ ys.length → zs = ys) := by
  induction h generalizing zs with
  | nil =>
    generalize hxs : ([] : List α) = all at h'
    cases h' with
    | nil => exact ⟨le_rfl, fun _ => rfl⟩
    | snoc _ _ => exact absurd hxs.symm (by simp)
  | snoc _ hlast ih =>
    obtain ⟨zs, more', rfl, hfront', hlast'⟩ := snoc_iff.mp h'
    obtain ⟨hle, heq⟩ := ih hfront'
    obtain ⟨hle', heq'⟩ := hRS _ _ _ hlast hlast'
    rw [List.length_append, List.length_append]
    refine ⟨by omega, fun hlen => ?_⟩
    rw [heq (by omega), heq' (by omega)]

/-- A weaker relation. -/
theorem mono (hRS : ∀ x more, R x more → S x more) (h : InOrder R xs ys) : InOrder S xs ys := by
  induction h with
  | nil => exact .nil
  | snoc _ hlast ih => exact ih.snoc (hRS _ _ hlast)

/-- Entries without items. -/
theorem eq_nil (hR : ∀ x ∈ xs, ∀ more, R x more → more = []) (h : InOrder R xs ys) : ys = [] := by
  induction h with
  | nil => rfl
  | snoc _ hlast ih =>
    rw [ih fun x hx => hR x (List.mem_append_left _ hx), hR _ (by simp) _ hlast]
    rfl

end InOrder

section Steps

variable {lib : FormatterLibrary} {options : CsvWriterOptions} {u : Usage} {batch : RecordBatch}
  {call : Call} {lines more : List (List Char)} {text : List Char} {c : CsvSink}

/-- The header is that of the first batch that passes the check. -/
theorem headerText_append (calls : List Call) (call : Call) :
    headerText lib options (calls ++ [call]) =
      if options.writeHeader = true ∧ (∀ call ∈ calls, ¬Passes lib call.batch) ∧
        Passes lib call.batch then formatHeader options call.batch
      else headerText lib options calls := by
  unfold headerText
  by_cases hw : options.writeHeader = true
  · rw [if_pos hw, if_pos hw, List.find?_append]
    cases hfind : calls.find? fun call => decide (Passes lib call.batch) with
    | some first =>
      have hfirst := List.find?_some hfind
      have hmem := List.mem_of_find?_eq_some hfind
      rw [if_neg fun h => h.2.1 first hmem (of_decide_eq_true hfirst), Option.some_or]
    | none =>
      have hnone : ∀ call ∈ calls, ¬Passes lib call.batch := fun other hother hpass =>
        List.find?_eq_none.mp hfind other hother (decide_eq_true hpass)
      rw [Option.none_or]
      by_cases hpass : Passes lib call.batch
      · rw [if_pos ⟨hw, hnone, hpass⟩, List.find?_singleton, if_pos (decide_eq_true hpass)]
      · rw [if_neg fun h => hpass h.2.2, List.find?_singleton, if_neg (by simpa using hpass)]
  · rw [if_neg hw, if_neg hw, if_neg fun h => hw h.1]

/-- Without a batch that passes the check there is no header. -/
theorem headerText_of_none {calls : List Call} (h : ∀ call ∈ calls, ¬Passes lib call.batch) :
    headerText lib options calls = [] := by
  unfold headerText
  have hfind : (calls.find? fun call => decide (Passes lib call.batch)) = none :=
    List.find?_eq_none.mpr fun call hcall => by simpa using h call hcall
  rw [hfind]
  split <;> rfl

/-- Both writers move alike. -/
theorem Tracked.writeBatch_eq (h : Tracked lib options u) (batch : RecordBatch) :
    u.writeBatch lib batch =
      match writeLines lib options u.async.rowsWritten batch u.async.writer with
      | .ok bytes c => u.next ⟨batch, .ok bytes⟩ c (u.async.rowsWritten + batch.numRows)
      | .error e c => u.next ⟨batch, .error e⟩ c u.async.rowsWritten := by
  have hsync := h.sync
  obtain rfl := h.sameOptions
  unfold Usage.writeBatch ArrowToCsvWriter.writeBatch SyncArrowToCsvWriter.writeBatch
  rw [hsync]
  dsimp only
  cases writeLines lib u.async.options u.async.rowsWritten batch u.async.writer <;> rfl

/-- The lines of all rows are as many as the rows. -/
theorem FirstLines.length {n : ℕ} (h : FirstLines lib options batch n lines) :
    lines.length = n := by
  rw [← (Checked.mapM_eq_ok.mp h).length_eq, List.length_range]

/-- The row that cannot be formatted is none of the first rows. -/
theorem FirstLines.le {n m : ℕ} {e : ImportError} (h : FirstLines lib options batch n lines)
    (he : formatRow lib options batch m = .error e) : n ≤ m := by
  obtain ⟨hlen, hall⟩ := List.forall₂_iff_get.mp (Checked.mapM_eq_ok.mp h)
  rw [List.length_range] at hlen
  by_contra hlt
  have hm := hall m (by rw [List.length_range]; omega) (by omega)
  rw [List.get_eq_getElem, List.getElem_range, he] at hm
  cases hm

/-- The lines before the first row that cannot be formatted are determined. -/
theorem FailsBehind.unique (h : FailsBehind lib options batch lines)
    (h' : FailsBehind lib options batch more) : lines = more := by
  obtain ⟨n, -, hlines, e, he⟩ := h
  obtain ⟨m, -, hmore, e', he'⟩ := h'
  obtain rfl : n = m := le_antisymm (hlines.le he') (hmore.le he)
  exact Except.ok.inj (hlines.symm.trans hmore)

/-- What is counted is what may be there, and nothing else may be if no more are counted. -/
theorem counts_compare (call : Call) (lines more : List (List Char))
    (h : Counts lib options call lines) (h' : Contributes lib options call more) :
    lines.length ≤ more.length ∧ (more.length ≤ lines.length → more = lines) := by
  obtain ⟨n, -, hmore, hall⟩ := h'
  obtain ⟨bytes, hok, -, hlines⟩ | ⟨-, rfl⟩ := h
  · obtain rfl := hall bytes hok
    obtain rfl := Except.ok.inj (hmore.symm.trans hlines)
    exact ⟨le_rfl, fun _ => rfl⟩
  · exact ⟨Nat.zero_le _, fun hlen => List.length_eq_zero_iff.mp (Nat.le_zero.mp hlen)⟩

/-- What is counted may be there. -/
theorem Counts.contributes (h : Counts lib options call lines) :
    Contributes lib options call lines := by
  obtain ⟨bytes, hok, -, hlines⟩ | ⟨⟨e, he⟩, rfl⟩ := h
  · exact ⟨_, le_rfl, hlines, fun _ _ => rfl⟩
  · exact ⟨0, Nat.zero_le _, rfl, fun bytes hok => by rw [he] at hok; cases hok⟩

/-- The bytes that are returned grow with the output. -/
theorem Tracked.bytes_next (ht : Tracked lib options u) (hheld : Holds u.async.writer c text)
    (hok : ∀ bytes, call.outcome = .ok bytes → bytes = Text.byteLen text) (counts : List ℕ)
    (h : (u.calls ++ [call]).map Call.outcome = counts.map .ok) :
    counts.sum = c.written.length := by
  rw [List.map_append] at h
  obtain ⟨front, last, rfl, hfront, hlast⟩ := List.append_eq_map_iff.mp h
  have hlast : last.map .ok = [call.outcome] := hlast
  obtain ⟨bytes, rest, rfl, hbytes, hrest⟩ := List.map_eq_cons_iff.mp hlast
  obtain rfl := List.map_eq_nil_iff.mp hrest
  rw [List.sum_append, ht.bytes front hfront.symm, List.sum_singleton, hok bytes hbytes.symm,
    hheld.2, List.length_append, Text.length_bytes]

/-- **A harmless call keeps track.** -/
theorem Tracked.next (ht : Tracked lib options u) (call : Call) (more : List (List Char))
    (hheld : Holds u.async.writer c text)
    (hok : ∀ bytes, call.outcome = .ok bytes → bytes = Text.byteLen text)
    (hcounts : Counts lib options call more)
    (htext : ∀ lines, InOrder (Counts lib options) u.calls lines →
      u.async.rowsWritten = lines.length →
      headerText lib options (u.calls ++ [call]) ++ (lines ++ more).flatten =
        headerText lib options u.calls ++ lines.flatten ++ text) :
    Tracked lib options (u.next call c (u.async.rowsWritten + more.length)) := by
  obtain ⟨lines, hlines, hwritten, hrows⟩ := ht.output
  refine ⟨ht.sameOptions, hheld.1, rfl, ?_, ⟨lines ++ more, hlines.snoc hcounts, ?_, ?_⟩,
    fun counts h => ht.bytes_next hheld hok counts h⟩
  · change u.syncOutcomes ++ [call.outcome] = (u.calls ++ [call]).map Call.outcome
    rw [ht.outcomes, List.map_append]
    rfl
  · change c.written = Text.bytes (headerText lib options (u.calls ++ [call]) ++
      (lines ++ more).flatten)
    rw [htext lines hlines hrows, Text.bytes_append, ← hwritten, hheld.2]
  · change u.async.rowsWritten + more.length = (lines ++ more).length
    rw [hrows, List.length_append]

/-- The lengths when the writers keep their promise after a call. -/
theorem Tracked.lengths (ht : Tracked lib options u) (more : List (List Char)) (hheld : Holds u.async.writer c text)
    (hcounts : Counts lib options call more)
    (hkept : Kept lib options (u.next call c (u.async.rowsWritten + more.length))) :
    Text.byteLen (headerText lib options (u.calls ++ [call])) + Text.byteLen more.flatten =
      Text.byteLen (headerText lib options u.calls) + Text.byteLen text := by
  obtain ⟨lines, hlines, hwritten, hrows⟩ := ht.output
  obtain ⟨all, hall, hout, hcount⟩ := hkept.output
  change c.written = Text.bytes (headerText lib options (u.calls ++ [call]) ++ all.flatten) at hout
  change u.async.rowsWritten + more.length = all.length at hcount
  -- No more lines are there than are counted, so they are the lines that are counted.
  obtain ⟨-, heq⟩ := InOrder.compare counts_compare (hlines.snoc hcounts) hall
  have hsame : all = lines ++ more := heq (by rw [List.length_append]; omega)
  rw [hheld.2, hwritten, hsame, List.flatten_append] at hout
  have hlen := congrArg List.length hout
  simp only [List.length_append, Text.length_bytes, Text.byteLen_append] at hlen
  omega

/-- What is tracked keeps the promise. -/
theorem Tracked.kept (ht : Tracked lib options u) : Kept lib options u := by
  obtain ⟨lines, hlines, hwritten, hrows⟩ := ht.output
  refine ⟨⟨lines, hlines.mono fun _ _ h => h.contributes, hwritten, hrows⟩, ht.bytes, ?_⟩
  rw [ht.sync]
  exact ⟨rfl, rfl, ht.outcomes⟩

/-- No row is counted before a batch passes the check. -/
theorem InOrder.nil_of_none (hnone : ∀ call ∈ u.calls, ¬Passes lib call.batch)
    (hlines : InOrder (Counts lib options) u.calls lines) : lines = [] := by
  refine hlines.eq_nil fun call hmem more hcounts => ?_
  obtain ⟨-, -, hpass, -⟩ | ⟨-, hmore⟩ := hcounts
  · exact absurd hpass (hnone call hmem)
  · exact hmore

/-- The header that a call writes, where it is harmless. -/
theorem header_append (call : Call) (hcall : Passes lib call.batch)
    (hclean : options.writeHeader → u.async.rowsWritten = 0 →
      (∃ call ∈ u.calls, Passes lib call.batch) → formatHeader options call.batch = [])
    (lines : List (List Char)) (hlines : InOrder (Counts lib options) u.calls lines)
    (hrows : u.async.rowsWritten = lines.length) :
    headerText lib options (u.calls ++ [call]) ++ lines.flatten =
      headerText lib options u.calls ++ lines.flatten ++
        headerOf options u.async.rowsWritten call.batch := by
  rw [headerText_append]
  unfold headerOf
  by_cases hw : options.writeHeader = true
  · by_cases hearlier : ∃ call ∈ u.calls, Passes lib call.batch
    · obtain ⟨first, hfirst, hpass⟩ := hearlier
      rw [if_neg fun h => h.2.1 first hfirst hpass]
      by_cases hzero : u.async.rowsWritten = 0
      · rw [if_pos ⟨hw, hzero⟩, hclean hw hzero ⟨first, hfirst, hpass⟩, List.append_nil]
      · rw [if_neg fun h => hzero h.2, List.append_nil]
    · -- Nothing is in the output yet, and no row is counted.
      have hnone : ∀ call ∈ u.calls, ¬Passes lib call.batch := fun call hmem hpass =>
        hearlier ⟨call, hmem, hpass⟩
      have hnil : lines = [] := hlines.nil_of_none hnone
      rw [hnil] at hrows
      rw [if_pos ⟨hw, hnone, hcall⟩, if_pos ⟨hw, hrows⟩, headerText_of_none hnone, hnil,
        List.flatten_nil, List.append_nil]
      rfl
  · rw [if_neg fun h => hw h.1, if_neg fun h => hw h.1, List.append_nil]

/-- A harmless call keeps track of both writers. -/
theorem Tracked.step (ht : Tracked lib options u) (hclean : Clean lib options u batch) :
    Tracked lib options (u.writeBatch lib batch) := by
  rw [ht.writeBatch_eq]
  obtain ⟨hpass, e, hrun⟩ | ⟨hpass, lines, c, hlines, hheld, hrun⟩ | ⟨hpass, lines, e, c, hfails,
    hheld, hrun⟩ := writeLines_cases lib options batch ht.accepts u.async.rowsWritten
  · rw [hrun]
    refine ht.next ⟨batch, .error e⟩ [] (.refl ht.accepts) (fun bytes h => ?_) (.inr ⟨⟨e, rfl⟩, rfl⟩) ?_
    · cases h
    · intro lines _ _
      rw [headerText_append, if_neg fun h => hpass h.2.2, List.append_nil, List.append_nil]
  · rw [hrun]
    have hlength := hlines.length
    have hnext := ht.next ⟨batch, .ok _⟩ lines hheld (fun bytes h => (Except.ok.inj h).symm)
      (.inl ⟨_, rfl, hpass, hlines⟩) fun front hfront hrows => by
        rw [List.flatten_append, ← List.append_assoc,
          header_append ⟨batch, .ok _⟩ hpass (hclean hpass).1 front hfront hrows,
          List.append_assoc]
    rwa [hlength] at hnext
  · rw [hrun]
    have hempty := (hclean hpass).2 lines hfails
    rw [hempty, List.append_nil] at hheld
    refine ht.next ⟨batch, .error e⟩ [] hheld (fun bytes h => ?_) (.inr ⟨⟨e, rfl⟩, rfl⟩) ?_
    · cases h
    · intro front hfront hrows
      rw [List.append_nil]
      exact header_append ⟨batch, .error e⟩ hpass (hclean hpass).1 front hfront hrows

/-- A call writes what the header of the output lacks. -/
theorem Tracked.byteLen_headerText_le (ht : Tracked lib options u) (batch : RecordBatch)
    (outcome : Except ImportError ℕ) :
    Text.byteLen (headerText lib options (u.calls ++ [⟨batch, outcome⟩])) ≤
      Text.byteLen (headerText lib options u.calls) +
        Text.byteLen (headerOf options u.async.rowsWritten batch) := by
  rw [headerText_append]
  split
  · rename_i h
    obtain ⟨lines, hlines, -, hrows⟩ := ht.output
    rw [hlines.nil_of_none h.2.1] at hrows
    unfold headerOf
    rw [if_pos ⟨h.1, hrows⟩]
    exact Nat.le_add_left _ _
  · exact Nat.le_add_right _ _

/-- A header that is written a second time is one too many. -/
theorem formatHeader_eq_nil (hw : options.writeHeader = true) (hzero : u.async.rowsWritten = 0)
    (hearlier : ∃ call ∈ u.calls, Passes lib call.batch) (outcome : Except ImportError ℕ)
    (h : Text.byteLen (headerText lib options u.calls) +
        Text.byteLen (headerOf options u.async.rowsWritten batch) ≤
      Text.byteLen (headerText lib options (u.calls ++ [⟨batch, outcome⟩]))) :
    formatHeader options batch = [] := by
  obtain ⟨first, hfirst, hpass⟩ := hearlier
  unfold headerOf at h
  rw [if_pos ⟨hw, hzero⟩, headerText_append, if_neg fun h => h.2.1 first hfirst hpass] at h
  exact Text.byteLen_eq_zero.mp (by omega)

/-- A call after which the promise is kept was harmless. -/
theorem Tracked.clean_of_kept (ht : Tracked lib options u)
    (hkept : Kept lib options (u.writeBatch lib batch)) : Clean lib options u batch := by
  rw [ht.writeBatch_eq] at hkept
  intro hpass
  obtain ⟨hfail, -⟩ | ⟨-, lines, c, hlines, hheld, hrun⟩ | ⟨-, lines, e, c, hfails, hheld, hrun⟩ :=
    writeLines_cases lib options batch ht.accepts u.async.rowsWritten
  · exact absurd hpass hfail
  · rw [hrun, ← hlines.length] at hkept
    have hlengths := ht.lengths lines hheld (.inl ⟨_, rfl, hpass, hlines⟩) hkept
    have happend := Text.byteLen_append (headerOf options u.async.rowsWritten batch) lines.flatten
    refine ⟨fun hw hzero hearlier => ?_, fun other hother => ?_⟩
    · exact formatHeader_eq_nil hw hzero hearlier
        (.ok (Text.byteLen (headerOf options u.async.rowsWritten batch ++ lines.flatten)))
        (by omega)
    · obtain ⟨n, hn, -, e, he⟩ := hother
      exact absurd (hlines.le he) (not_le.mpr hn)
  · rw [hrun] at hkept
    have hlengths := ht.lengths [] hheld (.inr ⟨⟨e, rfl⟩, rfl⟩) hkept
    have hheader := ht.byteLen_headerText_le batch (.error e)
    have happend := Text.byteLen_append (headerOf options u.async.rowsWritten batch) lines.flatten
    have hnil : Text.byteLen ([] : List (List Char)).flatten = 0 := rfl
    refine ⟨fun hw hzero hearlier => ?_, fun other hother => ?_⟩
    · exact formatHeader_eq_nil hw hzero hearlier (.error e) (by omega)
    · rw [hother.unique hfails]
      exact Text.byteLen_eq_zero.mp (by omega)

/-- The writers are tracked at the start. -/
theorem tracked_new (lib : FormatterLibrary) (options : CsvWriterOptions) :
    Tracked lib options (.new options) := by
  refine ⟨rfl, rfl, rfl, rfl, ⟨[], .nil, ?_, rfl⟩, fun counts h => ?_⟩
  · have hnone : headerText lib options [] = [] :=
      headerText_of_none fun call hcall => absurd hcall List.not_mem_nil
    exact congrArg Text.bytes (congrArg (· ++ []) hnone.symm)
  · obtain rfl := List.map_eq_nil_iff.mp h.symm
    rfl

/-- **The promise is kept as long as every call is harmless, and no longer.** -/
theorem Tracked.always_kept_iff (ht : Tracked lib options u) (batches : List RecordBatch) :
    Runs.Always (Usage.writeBatch lib) (Kept lib options) u batches ↔
      Runs.EachStep (Usage.writeBatch lib) (Clean lib options) u batches :=
  Runs.always_iff_eachStep (fun _ h => h.kept) (fun _ _ h hclean => h.step hclean)
    (fun _ _ h hkept => h.clean_of_kept hkept) ht

end Steps

/-- **In a run of both writers the output, the counts and the outcomes are what they should be
exactly when no header is written a second time and no text is in front of a row that cannot be
formatted.** -/
theorem writer_kept_iff (lib : FormatterLibrary) (options : CsvWriterOptions)
    (batches : List RecordBatch) :
    Runs.Always (Usage.writeBatch lib) (Kept lib options) (.new options) batches ↔
      Runs.EachStep (Usage.writeBatch lib) (Clean lib options) (.new options) batches :=
  (tracked_new lib options).always_kept_iff batches

/-- The library functions, without texts for developers. -/
def plainLibrary : FormatterLibrary := ⟨.proleptic, fun _ => ""⟩

/-- The schema of one column of dates. -/
def dateSchema : Schema := ⟨[⟨"D", .date32, true, []⟩]⟩

/-- A day that can be written, and one behind the year 9999. -/
def dateBatch : RecordBatch where
  schema := dateSchema
  columns := [⟨.date32, [some 0, some 3000000]⟩]
  numRows := 2
  admits := .cons ⟨rfl, fun h => Bool.noConfusion h⟩ .nil
  lengths := List.forall_mem_singleton.mpr rfl

/-- Two batches without rows have two headers, and a line in front of a date that cannot be
written is not counted. -/
theorem writer_miscounts :
    ¬Runs.Always (Usage.writeBatch plainLibrary) (Kept plainLibrary { writeHeader := true })
      (.new { writeHeader := true }) [.newEmpty dateSchema, .newEmpty dateSchema] ∧
    ¬Runs.Always (Usage.writeBatch plainLibrary) (Kept plainLibrary {}) (.new {}) [dateBatch] := by
  constructor
  · rw [(tracked_new _ _).always_kept_iff]
    rintro ⟨-, hsecond, -⟩
    have hheader := (hsecond rfl).1 rfl rfl ⟨_, List.mem_singleton_self _, rfl⟩
    exact absurd hheader (by decide +kernel)
  · rw [(tracked_new _ _).always_kept_iff]
    rintro ⟨hfirst, -⟩
    have hline := (hfirst rfl).2 ["1970-01-01\n".toList] ⟨1, Nat.one_lt_two, rfl, _, rfl⟩
    exact absurd hline (by decide +kernel)

end Exarrow.Import
