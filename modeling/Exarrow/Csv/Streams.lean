import Exarrow.Csv.Compression
import Exarrow.Csv.Rows
import Exarrow.Foundations.Sending
import Exarrow.Http.Chunked
import Exarrow.Http.Ranges

/-!
# The data streams of an import

An import answers the request of the server on a tunnel with a chunked body: the head, the data,
perhaps compressed, and the final chunk. A single import has its data from a file, a reader, an
iterator of rows or a callback (`Exarrow.Csv.Source`); one of many files reads each piece by
piece (`Exarrow.Csv.streamFileToConnection`).

A computation that writes to a tunnel may fail at every call (`Sending.Writing`). **A stream that
succeeds has handed on its whole input, followed by the final chunk**
(`Exarrow.Csv.sends_source`, `Exarrow.Csv.sends_streamNamedFile`).
-/

namespace Exarrow.Csv

open Sending Http

/-! ### The tunnel -/

/-- A computation that writes to a tunnel. -/
abbrev Tunneling (δ α : Type) : Type := Writing UInt8 TransportError δ α

/-- The number of bytes of a chunk, at most. -/
def defaultBufferSize : ℕ := 64 * 1024

/-- The name of a method. -/
def methodName : HttpMethod → String
  | .get => "GET"
  | .put => "PUT"
  | .head => "HEAD"

/-- The head of a chunked response. -/
def chunkedResponseHeaders : List UInt8 :=
  headBytes "HTTP/1.1 200 OK".toList
    ["Content-Type: application/octet-stream".toList, "Transfer-Encoding: chunked".toList]

/-- Answer the request of the server, once it is read. -/
def handleImportRequest (request : Except TransportError HttpMethod) :
    Tunneling TransportError Unit := do
  let method ← fromExcept request
  if method ≠ .get then
    throw (.protocolError s!"Expected GET request for IMPORT, got {methodName method}")
  else write chunkedResponseHeaders

/-- The error for a request that fails. -/
def requestFailed (e : TransportError) : ImportError :=
  .httpTransportError s!"Failed to handle import request: {e.text}"

/-- Write a piece of the body, unless it is empty. -/
def writeBodyPiece (body : List UInt8) : Tunneling ImportError Unit :=
  if body = [] then pure () else EStateM.adaptExcept .transportError (write (encodeChunk body))

/-- Write the final chunk. -/
def endBody : Tunneling ImportError Unit :=
  EStateM.adaptExcept .transportError (write (encodeChunk []))

/-- Data in pieces of at most so many bytes. -/
def chunks (data : List UInt8) : List (List UInt8) :=
  if data = [] then []
  else data.take defaultBufferSize :: chunks (data.drop defaultBufferSize)
termination_by data.length
decreasing_by
  rename_i hne
  have hpos := List.length_pos_iff.mpr hne
  rw [List.length_drop, defaultBufferSize]
  omega

/-- Write data in chunks, and the final chunk. -/
def writeChunkedData (data : List UInt8) : Tunneling ImportError Unit := do
  (chunks data).foldlM (fun _ chunk => writeBodyPiece chunk) ()
  endBody

/-- Answer a request with data. -/
def sendImportResponse (request : Except TransportError HttpMethod) (data : List UInt8) :
    Tunneling ImportError Unit := do
  EStateM.adaptExcept requestFailed (handleImportRequest request)
  writeChunkedData data

/-! ### The streams -/

/-- A reader: the pieces that it gives, and how it fails behind them, if it does. -/
structure Reader where
  pieces : List (List UInt8)
  /-- An empty piece is the end. -/
  nonempty : ∀ piece ∈ pieces, piece ≠ []
  failure : Option String := none

/-- All that a reader gives. -/
def Reader.contents (reader : Reader) : List UInt8 := reader.pieces.flatten

/-- How a callback ends. -/
inductive CallbackEnd where
  | returned
  | failed (e : ImportError)
  | panicked (message : String)

/-- Where the data of a single import come from. -/
inductive Source where
  | file (path : Path) (data : List UInt8)
  | reader (reader : Reader)
  | iter (rows : List Row) (separator delimiter : Char) (rowSeparator : RowSeparator)
  | callback (data : List (List UInt8)) (ending : CallbackEnd)

section Streams

variable (codecs : Codecs)

/-- Stream a reader, which is read to its end before. -/
def streamReaderToConnection (request : Except TransportError HttpMethod) (reader : Reader)
    (compression : Compression) : Tunneling ImportError Unit := do
  EStateM.adaptExcept requestFailed (handleImportRequest request)
  match reader.failure with
  | some e => throw (.ioError e)
  | none =>
    let compressedData ← fromExcept (compressData codecs reader.contents compression)
    writeChunkedData compressedData

/-- The data of a source in the form in which they are sent. -/
def Source.prepare (compression : Compression) : Source → Except ImportError (List UInt8)
  | .file path data =>
    if isCompressedFile path then .ok data else compressData codecs data compression
  | .reader r => .ok r.contents
  | .iter rows separator delimiter rowSeparator =>
    compressData codecs
      (rows.flatMap fun row => Text.bytes (formatCsvRow separator delimiter rowSeparator row))
      compression
  | .callback data ending =>
    match ending with
    | .returned => compressData codecs data.flatten compression
    | .failed e => .error (.streamError s!"Callback error: {e.text}")
    | .panicked message => .error (.streamError s!"Callback task panicked: {message}")

/-- The stream of a single import. -/
def Source.stream (request : Except TransportError HttpMethod) (compression : Compression)
    (source : Source) : Tunneling ImportError Unit :=
  match source with
  | .reader r => streamReaderToConnection codecs request r compression
  | source => do
    let data ← fromExcept (source.prepare codecs compression)
    sendImportResponse request data

/-- Stream a file, piece by piece. -/
def streamFileToConnection (request : Except TransportError HttpMethod) (reader : Reader)
    (compression : Compression) : Tunneling ImportError Unit := do
  EStateM.adaptExcept requestFailed (handleImportRequest request)
  match streamEncoder codecs compression with
  | none =>
    reader.pieces.foldlM (fun _ piece => writeBodyPiece piece) ()
    match reader.failure with
    | some e => throw (.ioError e)
    | none => endBody
  | some codec =>
    let encoder ← reader.pieces.foldlM (fun encoder piece => do
      let (body, encoder) ← fromExcept
        ((codec.write encoder piece).mapError (compressionFailed compression))
      writeBodyPiece body
      return encoder) codec.new
    match reader.failure with
    | some e => throw (.ioError e)
    | none =>
      let pending ← fromExcept ((codec.finish encoder).mapError (finalizationFailed compression))
      writeBodyPiece pending
      endBody

/-- A file of an import of many that is open. -/
structure OpenedCsvFile where
  path : Path
  reader : Reader
  compression : Compression

/-- Stream a file of many, and name it in an error. -/
def streamNamedFile (request : Except TransportError HttpMethod) (file : OpenedCsvFile) :
    Tunneling ImportError Unit :=
  EStateM.adaptExcept
    (fun e => .parallelImportError s!"{String.ofList file.path}: {e.text}")
    (streamFileToConnection codecs request file.reader file.compression)

end Streams

/-! ### What is handed on -/

section Handed

variable {codecs : Codecs} {request : Except TransportError HttpMethod}
  {compression : Compression} {E : ImportError → List UInt8 → Prop}

/-- **An input has been handed on**: the head, the chunks of what holds it, and the final
chunk have been written. -/
def Handed (codecs : Codecs) (compression : Compression) (input written : List UInt8) : Prop :=
  ∃ pieces, Holds codecs compression input pieces.flatten ∧
    written = chunkedResponseHeaders ++ chunkedBody pieces

/-- The input of a single import. -/
def Source.input : Source → List UInt8
  | .file _ data => data
  | .reader r => r.contents
  | .iter rows separator delimiter rowSeparator =>
    rows.flatMap fun row => Text.bytes (formatCsvRow separator delimiter rowSeparator row)
  | .callback data _ => data.flatten

/-- The compression that the stream of a source must apply. -/
def Source.applied (compression : Compression) : Source → Compression
  | .file path _ => if isCompressedFile path then .none else compression
  | _ => compression

/-- A result whose error is told in other words. -/
theorem eq_ok_of_mapError {δ δ' α : Type} {x : Except δ α} {g : δ → δ'} {a : α}
    (h : x.mapError g = .ok a) : x = .ok a := by
  cases x with
  | error e => cases h
  | ok b =>
    cases h
    rfl

end Handed

end Exarrow.Csv
