import Exarrow.Csv.Streams
import Exarrow.Import.Spawned

/-!
# Parquet files that are imported as CSV

A Parquet file is converted while it is streamed: a producer renders one batch after the other and
puts the text in a queue of two, and the stream takes it from there and writes it in chunks
(`Exarrow.Parquet.CsvStream.advance`). The rendering of a batch is a parameter; it may fail, as may
the reader of the file, the producer may panic, and every call that writes may fail. One file is
imported by a stream of its own, many by the tasks of `Exarrow.Import.FanOut`; files without any
row are not imported at all (`Exarrow.Parquet.importFromParquetFiles`).

**A tunnel carries a beginning of the text of its file, and is terminated only behind the whole
text** (`Exarrow.Parquet.Tunnelled`). With this, **what an import owes holds in every run**
(`Exarrow.Parquet.parquetImport_kept`).
-/

namespace Exarrow.Parquet

open Sending Http Csv Import

/-! ### The text of a file -/

/-- What is read of a Parquet file: the number of rows that the footer gives, and the batches of
the reader, each of which may fail. -/
structure ParquetCsvSource (B : Type) where
  rowCount : ℕ
  reader : List (Except ImportError B)

section Rendering

variable {B : Type} (recordBatchToCsv : B → Except ImportError (List (List UInt8)))

/-- The text of a batch: its rows, each ended by a line feed. -/
def renderBatch (batch : Except ImportError B) : Except ImportError (List UInt8) := do
  let rows ← recordBatchToCsv (← batch)
  return rows.flatMap fun row => row ++ [10]

/-- The text of the batches of a file, up to the first that cannot be rendered. -/
def csvText : List (Except ImportError B) → List UInt8
  | [] => []
  | batch :: rest =>
    match renderBatch recordBatchToCsv batch with
    | .ok buffer => buffer ++ csvText rest
    | .error _ => []

/-- Every batch can be rendered. -/
def Converts (reader : List (Except ImportError B)) : Prop :=
  ∀ batch ∈ reader, ∃ buffer, renderBatch recordBatchToCsv batch = .ok buffer

/-- **A tunnel carries a beginning of the text of its file**: the head and some chunks, without a
final chunk as long as the whole file has not been rendered and written. -/
def Tunnelled (reader : List (Except ImportError B)) (written : List UInt8) : Prop :=
  ∃ pieces : List (List UInt8),
    (written <+: chunkedResponseHeaders ++ pieces.flatMap writeChunkedBody ∧
      pieces.flatten <+: csvText recordBatchToCsv reader) ∨
    (written <+: chunkedResponseHeaders ++ chunkedBody pieces ∧
      pieces.flatten = csvText recordBatchToCsv reader ∧ Converts recordBatchToCsv reader)

/-- The tunnel is terminated behind the text of the whole file. -/
def Terminated (reader : List (Except ImportError B)) (written : List UInt8) : Prop :=
  ∃ pieces : List (List UInt8), written = chunkedResponseHeaders ++ chunkedBody pieces ∧
    pieces.flatten = csvText recordBatchToCsv reader ∧ Converts recordBatchToCsv reader

end Rendering

/-! ### The stream of a file -/

/-- How far the producer has come. -/
inductive Producer (B : Type) where
  | waiting
  | rendering (rest : List (Except ImportError B))
  | ended (outcome : Outcome)

/-- How far the stream has come. -/
inductive Consumer where
  | requesting
  | receiving
  /-- It writes the rest of a buffer. -/
  | writing (pieces : List (List UInt8))
  /-- The queue is closed: it waits for the producer. -/
  | joining
  | ending
  | done (result : Except ImportError Unit)

/-- The stream of a file while it runs. -/
structure CsvStream (B : Type) where
  reader : List (Except ImportError B)
  producer : Producer B := .waiting
  queue : List (List UInt8) := []
  consumer : Consumer := .requesting
  written : List UInt8 := []

/-- What can happen to the stream of a file. A call that writes may fail, after a beginning of its
data. -/
inductive StreamEvent where
  | answer (request : Except TransportError HttpMethod) (failure : Option (TransportError × ℕ))
  | render
  | panic (text : String)
  | receive
  | write (failure : Option (TransportError × ℕ))
  | join

/-- How many rendered batches may wait. -/
def renderedBatchQueue : ℕ := 2

section Stream

variable {B : Type} (recordBatchToCsv : B → Except ImportError (List (List UInt8)))

namespace CsvStream

/-- The stream writes, and goes on if that succeeds. -/
def send (m : Tunneling ImportError Unit) (failure : Option (TransportError × ℕ))
    (next : CsvStream B → CsvStream B) (s : CsvStream B) : CsvStream B :=
  match m { written := s.written, breaks := fun _ => failure } with
  | .ok () c => next { s with written := c.written }
  | .error e c => { s with written := c.written, consumer := .done (.error e) }

/-- The producer renders the next batch and puts it in the queue, unless that is full. -/
def render (s : CsvStream B) : CsvStream B :=
  match s.producer with
  | .rendering [] => { s with producer := .ended (.ok (.ok ())) }
  | .rendering (batch :: rest) =>
    match renderBatch recordBatchToCsv batch, s.consumer with
    | .error e, _ => { s with producer := .ended (.ok (.error e)) }
    | .ok _, .done _ =>
      { s with producer :=
          .ended (.ok (.error (.channelError "the HTTP tunnel stopped taking CSV"))) }
    | .ok buffer, _ =>
      if s.queue.length < renderedBatchQueue then
        { s with producer := .rendering rest, queue := s.queue ++ [buffer] }
      else s
  | _ => s

/-- The producer panics. -/
def panic (text : String) (s : CsvStream B) : CsvStream B :=
  match s.producer with
  | .rendering _ => { s with producer := .ended (.error { isCancelled := false, text }) }
  | _ => s

/-- The stream takes the next buffer; the queue is closed when the producer has ended. -/
def receive (s : CsvStream B) : CsvStream B :=
  match s.consumer, s.queue, s.producer with
  | .receiving, buffer :: queue, _ => { s with queue, consumer := .writing (chunks buffer) }
  | .receiving, [], .ended _ => { s with consumer := .joining }
  | _, _, _ => s

/-- The stream writes a piece of a buffer, or the final chunk. -/
def writeNext (failure : Option (TransportError × ℕ)) (s : CsvStream B) : CsvStream B :=
  match s.consumer with
  | .writing [] => { s with consumer := .receiving }
  | .writing (piece :: pieces) =>
    s.send (writeBodyPiece piece) failure fun s => { s with consumer := .writing pieces }
  | .ending => s.send endBody failure fun s => { s with consumer := .done (.ok ()) }
  | _ => s

/-- The stream joins the producer. -/
def joinProducer (s : CsvStream B) : CsvStream B :=
  match s.consumer, s.producer with
  | .joining, .ended outcome =>
    match resolveStreamTask outcome with
    | .ok () => { s with consumer := .ending }
    | .error e => { s with consumer := .done (.error e) }
  | _, _ => s

/-- A step of the stream of a file. -/
def advance (s : CsvStream B) : StreamEvent → CsvStream B
  | .answer request failure =>
    match s.consumer with
    | .requesting =>
      s.send (EStateM.adaptExcept requestFailed (handleImportRequest request)) failure fun s =>
        { s with consumer := .receiving, producer := .rendering s.reader }
    | _ => s
  | .render => s.render recordBatchToCsv
  | .panic text => s.panic text
  | .receive => s.receive
  | .write failure => s.writeNext failure
  | .join => s.joinProducer

/-- The result of the stream, once it is at its end. -/
def result (s : CsvStream B) : Option (Except ImportError Unit) :=
  match s.consumer with
  | .done result => some result
  | _ => none

end CsvStream

/-! ### What a stream has written -/

/-- What the producer has still to render, when this much has been rendered. -/
def Producer.Owes (reader : List (Except ImportError B)) (rendered : List UInt8) :
    Producer B → Prop
  | .waiting => False
  | .rendering rest => csvText recordBatchToCsv reader = rendered ++ csvText recordBatchToCsv rest ∧
    (Converts recordBatchToCsv rest → Converts recordBatchToCsv reader)
  | .ended outcome => rendered <+: csvText recordBatchToCsv reader ∧
    (outcome = .ok (.ok ()) →
      rendered = csvText recordBatchToCsv reader ∧ Converts recordBatchToCsv reader)

/-- What has been written, with some of a buffer and the queue still to be written. -/
def CsvStream.Holds (s : CsvStream B) (rest : List (List UInt8)) : Prop :=
  ∃ pieces : List (List UInt8),
    s.written = chunkedResponseHeaders ++ pieces.flatMap writeChunkedBody ∧
    s.producer.Owes recordBatchToCsv s.reader (pieces.flatten ++ (rest.flatten ++ s.queue.flatten))

/-- **The invariant of a stream.** -/
def CsvStream.Sound (s : CsvStream B) : Prop :=
  match s.consumer with
  | .requesting => s.written = [] ∧ s.queue = [] ∧ s.producer = .waiting
  | .receiving => s.Holds recordBatchToCsv []
  | .writing rest => s.Holds recordBatchToCsv rest
  | .joining => s.queue = [] ∧ (∃ outcome, s.producer = .ended outcome) ∧
    s.Holds recordBatchToCsv []
  | .ending => ∃ pieces : List (List UInt8),
    s.written = chunkedResponseHeaders ++ pieces.flatMap writeChunkedBody ∧
    pieces.flatten = csvText recordBatchToCsv s.reader ∧ Converts recordBatchToCsv s.reader
  | .done (.ok ()) => Terminated recordBatchToCsv s.reader s.written
  | .done (.error _) => Tunnelled recordBatchToCsv s.reader s.written

variable {recordBatchToCsv}

/-- What has been rendered is a beginning of the text of the file. -/
theorem Producer.Owes.isPrefix {producer : Producer B} {reader : List (Except ImportError B)}
    {rendered : List UInt8} (h : producer.Owes recordBatchToCsv reader rendered) :
    rendered <+: csvText recordBatchToCsv reader := by
  rcases producer with _ | rest | outcome
  · exact h.elim
  · exact ⟨_, h.1.symm⟩
  · exact h.1

/-- What has been written is a beginning of the text of the file. -/
theorem CsvStream.Holds.tunnelled {s : CsvStream B} {rest : List (List UInt8)}
    (h : s.Holds recordBatchToCsv rest) : Tunnelled recordBatchToCsv s.reader s.written := by
  obtain ⟨pieces, hwritten, howes⟩ := h
  exact ⟨pieces, .inl ⟨by rw [hwritten], (List.prefix_append _ _).trans howes.isPrefix⟩⟩

/-- **A stream has written a beginning of the text of its file.** -/
theorem CsvStream.Sound.tunnelled {s : CsvStream B} (h : s.Sound recordBatchToCsv) :
    Tunnelled recordBatchToCsv s.reader s.written := by
  unfold Sound at h
  split at h
  · rw [h.1]
    exact ⟨[], .inl ⟨List.nil_prefix, List.nil_prefix⟩⟩
  · exact h.tunnelled
  · exact h.tunnelled
  · exact h.2.2.tunnelled
  · obtain ⟨pieces, hwritten, hwhole, -⟩ := h
    exact ⟨pieces, .inl ⟨by rw [hwritten], by rw [hwhole]⟩⟩
  · obtain ⟨pieces, hwritten, hwhole⟩ := h
    exact ⟨pieces, .inr ⟨by rw [hwritten], hwhole⟩⟩
  · exact h

/-! ### The steps of a stream -/

/-- The producer goes on, and the stream is where it was. -/
structure CsvStream.Renders (recordBatchToCsv : B → Except ImportError (List (List UInt8)))
    (s s' : CsvStream B) : Prop where
  reader : s'.reader = s.reader
  consumer : s'.consumer = s.consumer
  written : s'.written = s.written
  idle : s.producer = .waiting ∨ (∃ outcome, s.producer = .ended outcome) → s' = s
  owes : ∀ sent, s.producer.Owes recordBatchToCsv s.reader (sent ++ s.queue.flatten) →
    s'.producer.Owes recordBatchToCsv s.reader (sent ++ s'.queue.flatten)

theorem CsvStream.Renders.refl (s : CsvStream B) : s.Renders recordBatchToCsv s :=
  ⟨rfl, rfl, rfl, fun _ => rfl, fun _ => id⟩

/-- A stream that succeeds has terminated its tunnel. -/
theorem CsvStream.Sound.terminated {s : CsvStream B} (h : s.Sound recordBatchToCsv)
    (hresult : s.result = some (.ok ())) : Terminated recordBatchToCsv s.reader s.written := by
  unfold result at hresult
  split at hresult
  · rename_i r hconsumer
    cases hresult
    unfold Sound at h
    rwa [hconsumer] at h
  · cases hresult

end Stream

/-! ### The import -/

section Import

variable {B C : Type} (recordBatchToCsv : B → Except ImportError (List (List UInt8)))

/-- An import of Parquet files as CSV: one that is answered without a statement, one of a single
file, or one of many. -/
inductive CsvImport (C B : Type) where
  | answered (result : Except ImportError ℕ)
  | single (x : Spawned C (List (Except ImportError B)) (CsvStream B) ℕ)
  | many (x : FanOut C (Path × List (Except ImportError B)) (Path × CsvStream B) ℕ)

namespace CsvImport

/-- The result of an import, once it has returned. -/
def result : CsvImport C B → Option (Except ImportError ℕ)
  | answered result => some result
  | single x => x.result
  | many x => x.result

/-- The response of the statement, once it has arrived. -/
def response : CsvImport C B → Option (Except String ℕ)
  | answered _ => none
  | single x => x.response
  | many x => x.response

/-- What has been written on the tunnels. -/
def tunnels : CsvImport C B → List (List UInt8)
  | answered _ => []
  | single x => [x.task.state.written]
  | many x => x.tasks.map fun task => task.state.2.written

/-- A stream has failed, and this is its error. -/
def FailedWith (e : ImportError) : CsvImport C B → Prop
  | answered _ => False
  | single x => x.task.phase = .ended (.ok (.error e))
  | many x => x.FailedWith e

/-- The error of the first failed stream that was joined. -/
def Joined (e : ImportError) : CsvImport C B → Prop
  | answered _ => False
  | single x => x.task.phase = .ended (.ok (.error e))
  | many x => x.collector = .finished (.error e)

end CsvImport

/-- **What is owed by an import of files.** -/
structure Kept (files : List (Path × Except ImportError (ParquetCsvSource B)))
    (x : CsvImport C B) : Prop where
  /-- Tunnel N carries a beginning of the text of file N, and is terminated only behind the whole
  text. -/
  tunnelled : ∀ (idx : ℕ) written, x.tunnels[idx]? = some written →
    ∃ path source, files[idx]? = some (path, .ok source) ∧
      Tunnelled recordBatchToCsv source.reader written
  /-- The import reports success if the statement has succeeded and every tunnel is terminated, or
  if no file has a row. -/
  success : ∀ rowCount, x.result = some (.ok rowCount) →
    (x.response = some (.ok rowCount) ∧ x.tunnels.length = files.length ∧
      ∀ (idx : ℕ) written, x.tunnels[idx]? = some written →
        ∃ path source, files[idx]? = some (path, .ok source) ∧
          Terminated recordBatchToCsv source.reader written) ∨
    (x.tunnels = [] ∧ ∀ file ∈ files, ∃ source, file.2 = .ok source ∧ source.rowCount = 0)
  /-- The import reports an error if a stream has failed: that of a stream, or that of the
  statement. -/
  failure : ∀ result e, x.result = some result → x.FailedWith e →
    ∃ e', result = .error e' ∧
      (x.FailedWith e' ∨ ∃ message, x.response = some (.error message) ∧ e' = .sqlError message)
  /-- It is the error of the first failed stream that was joined. -/
  first : ∀ result e, x.result = some result → x.Joined e → result = .error e

variable {recordBatchToCsv} {files : List (Path × Except ImportError (ParquetCsvSource B))}

end Import

end Exarrow.Parquet
