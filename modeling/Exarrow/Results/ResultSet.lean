import Exarrow.Results.Columns

/-!
# Result sets

A result set is read in one go (`Exarrow.ResultSet.fetchAll`) or batch by batch
(`Exarrow.ResultSetIterator.nextBatch`). Both ask the transport for one page after
another until they know that there are no more (`Exarrow.ResultSet.fetchPageAfter`);
the transport remembers for each handle where the next page starts.

The other side is `Exarrow.Paging`: the rows a server holds for a result, how many
of them come with the first answer, what it reports as their number, and what each
request for a page leads to.
-/

namespace Exarrow

open Machine Checked Arrow

/-! ### The server's side -/

/-- What a request for a page leads to. -/
inductive Fetch where
  /-- It fails, and the position does not move. -/
  | failed (e : TransportError)
  /-- It gives at most one row more than the given number. -/
  | page (size : ℕ)

/-- A way in which a server pages a result. -/
structure Paging (ρ : Type) where
  /-- The columns. -/
  columns : List Messages.ColumnInfo
  /-- The handle under which the rest of the rows can be asked for. -/
  handle : Option (SInt 32)
  /-- The number of rows that the server reports; zero when it does not know. -/
  totalRows : SInt 64
  /-- The rows that the server holds. -/
  held : List ρ
  /-- How many of them come with the first answer. -/
  inline : ℕ
  /-- No more than there are. -/
  inline_le : inline ≤ held.length
  /-- Without a handle there are no others. -/
  closed : handle = none → inline = held.length
  /-- What a page reports of its own number of rows. -/
  reported : List ρ → SInt 64
  /-- What the requests for pages lead to, in turn. -/
  fetches : ℕ → Fetch
  /-- The form in which the transport delivers rows. -/
  payload : List ρ → Messages.ResultPayload
  /-- It delivers as many as there are. -/
  numRows_payload : ∀ rows, (payload rows).numRows = rows.length

/-- What the transport knows about the pages of a result. -/
structure Cursor where
  /-- The position at which the next page starts. -/
  position : ℕ
  /-- How many requests there have been. -/
  asked : ℕ
  /-- Whether the result has been closed. -/
  released : Bool := false

variable {ρ : Type}

/-- The result data of some of the rows. -/
def Paging.data (p : Paging ρ) (rows : List ρ) (totalRows : SInt 64) : Messages.ResultData :=
  ⟨p.columns, p.payload rows, totalRows⟩

/-- The rows of a page. -/
def Paging.rowsFrom (p : Paging ρ) (position size : ℕ) : List ρ :=
  (p.held.drop position).take (size + 1)

/-- What a transport answers when a command has been executed. -/
inductive QueryResult where
  | rowCount (count : SInt 64)
  | resultSet (handle : Option (SInt 32)) (data : Messages.ResultData)

/-- The first answer. -/
def Paging.answer (p : Paging ρ) : QueryResult :=
  .resultSet p.handle (p.data (p.held.take p.inline) p.totalRows)

/-- Ask for the next page. The position moves on as soon as a page has come. -/
def Paging.fetchResults (p : Paging ρ) (c : Cursor) :
    Except TransportError Messages.ResultData × Cursor :=
  match p.fetches c.asked with
  | .failed e => (.error e, { c with asked := c.asked + 1 })
  | .page size =>
    let rows := p.rowsFrom c.position size
    (.ok (p.data rows (p.reported rows)),
      { c with position := c.position + rows.length, asked := c.asked + 1 })

/-- Close the result. -/
def Paging.closeResultSet (c : Cursor) : Cursor := { c with released := true }

/-! ### Reading a result -/

/-- The metadata of a result. -/
structure QueryMetadata where
  /-- The schema. -/
  schema : Schema
  /-- The number of rows that the server reports. -/
  totalRows : Option (SInt 64)

/-- The total number of rows, zero when it is not known. -/
def QueryMetadata.total (m : QueryMetadata) : ℕ := (m.totalRows.elim 0 SInt.val).toNat

/-- Why a page could not be had. -/
inductive PageFetchError where
  | fetch (e : QueryError)
  | rowCountMismatch (message : String)

/-- The error as that of a query. -/
def PageFetchError.toQueryError : PageFetchError → QueryError
  | fetch e => e
  | rowCountMismatch message => .executionFailed (.message message)

/-- A result that consists of batches. -/
structure StreamResult where
  /-- The handle, until it has been closed. -/
  handle : Option (SInt 32)
  /-- The metadata. -/
  metadata : QueryMetadata
  /-- The batches that are there. -/
  batches : List RecordBatch
  /-- Whether they are all there is. -/
  complete : Bool

/-- A result. -/
inductive ResultSetInner where
  | rowCount (count : SInt 64)
  | stream (s : StreamResult)

namespace ResultSet

/-- The number of rows of batches. -/
def rowCountOf (batches : List RecordBatch) : ℕ := (batches.map RecordBatch.numRows).sum

@[simp] theorem rowCountOf_nil : rowCountOf [] = 0 := rfl

@[simp] theorem rowCountOf_append (a b : List RecordBatch) :
    rowCountOf (a ++ b) = rowCountOf a + rowCountOf b := by
  rw [rowCountOf, List.map_append, List.sum_append]
  rfl

@[simp] theorem rowCountOf_singleton (b : RecordBatch) : rowCountOf [b] = b.numRows :=
  Nat.add_zero _

variable (pf : Platform) (p : Paging ρ)

/-- The batch of the rows that came with the first answer; a schema without rows
has a batch as well. -/
def firstBatch (schema : Schema) (data : Messages.ResultData) : Exec ConversionError RecordBatch :=
  if data.data.isEmpty then emptyRecordBatch schema else payloadToRecordBatch pf data schema

/-- The result of an answer. -/
def fromTransportResult : QueryResult → Exec QueryError ResultSetInner
  | .rowCount count => .ok (.rowCount count)
  | .resultSet handle data => do
    let failed (e : ConversionError) : QueryError := .executionFailed (.conversion e)
    let schema ← mapError failed (ofExcept (buildSchema data.columns))
    let batch ← mapError failed (firstBatch pf schema data)
    return .stream
      { handle := handle
        metadata := ⟨schema, some data.totalRows⟩
        batches := [batch]
        complete := handle.isNone || data.totalRows.val == (data.data.numRows : ℤ) }

/-- The row count of a result that has no rows. -/
def rowCount : ResultSetInner → Option (SInt 64)
  | .rowCount count => some count
  | .stream _ => none

/-- The page that follows the given number of rows, or none at the end. With a
known total the end is where it is reached; otherwise it is the first empty
page. -/
def fetchPageAfter (m : QueryMetadata) (rowsReceived : ℕ) (c : Cursor) :
    Exec PageFetchError (Option RecordBatch) × Cursor :=
  if 0 < m.total ∧ m.total ≤ rowsReceived then (.ok none, c)
  else
    match p.fetchResults c with
    | (.error e, c) => (fail (.fetch (.executionFailed (.transport e))), c)
    | (.ok data, c) =>
      if data.data.isEmpty then
        if m.total = 0 then (.ok none, c)
        else (fail (.rowCountMismatch (s!"Result set ended after {rowsReceived} rows, but its " ++
          s!"total row count is {m.total}")), c)
      else
        match mapError (fun e => PageFetchError.fetch (.executionFailed (.conversion e)))
            (payloadToRecordBatch pf data m.schema) with
        | .error e => (.error e, c)
        | .ok batch =>
          if 0 < m.total ∧ m.total < rowsReceived + batch.numRows then
            (fail (.rowCountMismatch (s!"Result set delivered {rowsReceived + batch.numRows} " ++
              s!"rows, but its total row count is {m.total}")), c)
          else (.ok (some batch), c)

/-- A page that comes moves the position. -/
theorem position_of_fetchPageAfter {m : QueryMetadata} {rowsReceived : ℕ} {c c' : Cursor}
    {b : RecordBatch} (h : fetchPageAfter pf p m rowsReceived c = (.ok (some b), c')) :
    p.held.length - c'.position < p.held.length - c.position := by
  unfold fetchPageAfter at h
  split at h
  · cases h
  · unfold Paging.fetchResults at h
    cases hf : p.fetches c.asked with
    | failed e =>
      rw [hf] at h
      cases h
    | page size =>
      simp only [hf] at h
      split at h
      · split at h <;> cases h
      · rename_i hne
        rw [Messages.ResultPayload.isEmpty_iff, Paging.data, p.numRows_payload] at hne
        have hlen : (p.rowsFrom c.position size).length ≤ p.held.length - c.position := by
          rw [Paging.rowsFrom, List.length_take, List.length_drop]
          exact Nat.min_le_right _ _
        have hpos : c'.position = c.position + (p.rowsFrom c.position size).length := by
          split at h
          · cases h
          · split at h
            · cases h
            · exact (congrArg Cursor.position (Prod.mk.inj h).2).symm
        omega

/-- Fetch every page that is left. -/
def paginateRemaining (m : QueryMetadata) (c : Cursor) (collected : List RecordBatch) :
    Exec QueryError (List RecordBatch) × Cursor :=
  match _h : fetchPageAfter pf p m (rowCountOf collected) c with
  | (.ok (some batch), c') => paginateRemaining m c' (collected ++ [batch])
  | (.ok none, c') => (.ok collected, c')
  | (.error e, c') => (mapError PageFetchError.toQueryError (.error e), c')
termination_by p.held.length - c.position
decreasing_by exact position_of_fetchPageAfter pf p _h

/-- The rows that are there must be as many as the total says, if it says so. -/
def checkBufferedRows (m : QueryMetadata) (batches : List RecordBatch) : Exec QueryError Unit :=
  if 0 < m.total ∧ rowCountOf batches ≠ m.total then
    fail (.executionFailed (.message (s!"Result set delivered {rowCountOf batches} rows, but " ++
      s!"its total row count is {m.total}")))
  else .ok ()

/-- Read the whole result, and close it. -/
def fetchAll (inner : ResultSetInner) (c : Cursor) :
    Exec QueryError (List RecordBatch) × Cursor :=
  match inner with
  | .rowCount _ => (fail (.noResultSet "Cannot fetch batches from row count result"), c)
  | .stream s =>
    let (pagination, c) :=
      if s.handle.isSome && !s.complete then paginateRemaining pf p s.metadata c s.batches
      else ((do checkBufferedRows s.metadata s.batches; return s.batches), c)
    (pagination, if s.handle.isSome then Paging.closeResultSet c else c)

end ResultSet

/-- An iterator over the batches of a result. -/
structure ResultSetIterator where
  /-- The handle. -/
  handle : Option (SInt 32)
  /-- The metadata. -/
  metadata : QueryMetadata
  /-- The batches that have come. -/
  batches : List RecordBatch
  /-- The next batch to hand out. -/
  currentIndex : ℕ
  /-- Whether there are no more to come. -/
  complete : Bool

namespace ResultSetIterator

variable (pf : Platform) (p : Paging ρ)

/-- The iterator over a result. -/
def ofStream (s : StreamResult) : ResultSetIterator :=
  ⟨s.handle, s.metadata, s.batches, 0, s.complete⟩

/-- Ask the transport for the next batch. -/
def fetchNextBatch (it : ResultSetIterator) (c : Cursor) :
    Exec QueryError (Option RecordBatch) × ResultSetIterator × Cursor :=
  if it.complete then (.ok none, it, c)
  else if it.handle = none then (.ok none, { it with complete := true }, c)
  else
    match ResultSet.fetchPageAfter pf p it.metadata (ResultSet.rowCountOf it.batches) c with
    | (.ok none, c) => (.ok none, { it with complete := true }, c)
    | (.ok (some batch), c) => (.ok (some batch), it, c)
    | (.error (.error (.rowCountMismatch message)), c) =>
      (fail (PageFetchError.rowCountMismatch message).toQueryError, { it with complete := true }, c)
    | (.error e, c) => (mapError PageFetchError.toQueryError (.error e), it, c)

/-- The next batch: one that is there, or one that is fetched. Fetching needs an
asynchronous runtime. -/
def nextBatch (runtime : Bool) (it : ResultSetIterator) (c : Cursor) :
    Option (Exec QueryError RecordBatch) × ResultSetIterator × Cursor :=
  match it.batches[it.currentIndex]? with
  | some batch => (some (.ok batch), { it with currentIndex := it.currentIndex + 1 }, c)
  | none =>
    if it.complete then (none, it, c)
    else if runtime then
      match fetchNextBatch pf p it c with
      | (.ok (some batch), it, c) =>
        (some (.ok batch),
          { it with batches := it.batches ++ [batch], currentIndex := it.currentIndex + 1 }, c)
      | (.ok none, it, c) => (none, it, c)
      | (.error e, it, c) => (some (.error e), it, c)
    else (some (fail (.invalidState (.message "No async runtime available"))), it, c)

end ResultSetIterator

end Exarrow
