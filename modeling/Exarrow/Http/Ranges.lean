import Exarrow.Foundations.Numeral
import Exarrow.Http.Stream
import Mathlib.Tactic.IntervalCases

/-!
# Serving a file by ranges

A server reads request after request from one connection (`Exarrow.Http.parseHttpRequest`) and
answers each from a file (`Exarrow.Http.serveParquetRangeRequests`): the size of the file, the
whole file, or a range of it (`Exarrow.Http.serveByteRange`). A range that it does not
understand or that lies behind the file is answered by `400 Bad Request`.

The client reads the responses from the same connection one after the other
(`Exarrow.Http.readResponse`), so that each must say where it ends. `Exarrow.Http.Served` is
what the client is owed. **It gets this exactly if the server understands every request**
(`Exarrow.Http.served_iff`): the answer `400 Bad Request` does not tell its length, and it
meets ranges that a client may ask for, those without a first or a last byte
(`Exarrow.Http.not_served_openEnded`).
-/

namespace Exarrow.Http

open Numeral

/-! ### Requests -/

/-- The method of a request. -/
inductive HttpMethod where
  | get
  | put
  | head
  deriving DecidableEq

/-- Names in lower case and values; the last header of a name counts. -/
abbrev Headers : Type := List (List Char × List Char)

/-- The value of a header. -/
def Headers.get (headers : Headers) (name : String) : Option (List Char) :=
  headers.lookup name.toList

/-- A request. -/
structure HttpRequest where
  method : HttpMethod
  path : List Char
  headers : Headers
  deriving DecidableEq

/-- The header in a line, if there is a colon. Characters outside of ASCII stay as they are: in
lower case none of them is a letter of a name that is looked up here. -/
def headerOfLine (line : List Char) : Option (List Char × List Char) :=
  (Text.splitOnce ':' line).map fun (name, value) =>
    ((Text.trimWhitespace name).map Char.toLower, Text.trimWhitespace value)

/-- Read headers up to an empty line, behind those that have been read. -/
def readHeaders (headers : Headers) (stream : List UInt8) : Except IoError (Headers × List UInt8) :=
  match hread : readLine stream with
  | .error e => .error e
  | .ok (line, rest) =>
    if line = [] then .ok (headers, rest)
    else readHeaders ((headerOfLine line).toList ++ headers) rest
termination_by stream.length
decreasing_by exact length_of_readLine hread

/-- The method with a name. -/
def HttpMethod.ofName (name : List Char) : Option HttpMethod :=
  if name = "GET".toList then some get
  else if name = "PUT".toList then some put
  else if name = "HEAD".toList then some head
  else none

section Server

variable (utf8ErrorText : List UInt8 → String)

/-- Read a request, and what follows it. -/
def parseHttpRequest (stream : List UInt8) : Except TransportError (HttpRequest × List UInt8) :=
  match readLine stream with
  | .error e => .error (.protocolError s!"Failed to read request line: {e.text utf8ErrorText}")
  | .ok (requestLine, rest) =>
    match Text.splitWhitespace requestLine with
    | name :: path :: _ :: _ =>
      match HttpMethod.ofName name with
      | none => .error (.protocolError s!"Unsupported HTTP method: '{String.ofList name}'")
      | some method =>
        match readHeaders [] rest with
        | .error e => .error (.protocolError s!"Failed to read header line: {e.text utf8ErrorText}")
        | .ok (headers, rest) => .ok (⟨method, path, headers⟩, rest)
    | _ => .error (.protocolError s!"Invalid HTTP request line: '{String.ofList requestLine}'")

/-- Reading headers takes bytes of the stream. -/
theorem length_of_readHeaders {headers headers' : Headers} {stream rest : List UInt8}
    (h : readHeaders headers stream = .ok (headers', rest)) : rest.length < stream.length := by
  fun_induction readHeaders headers stream with
  | case1 => cases h
  | case2 headers stream rest' hread =>
    cases h
    exact length_of_readLine hread
  | case3 headers stream line rest' hread hne ih => exact (ih h).trans (length_of_readLine hread)

/-- Reading a request takes bytes of the stream. -/
theorem length_of_parseHttpRequest {request : HttpRequest} {stream rest : List UInt8}
    (h : parseHttpRequest utf8ErrorText stream = .ok (request, rest)) :
    rest.length < stream.length := by
  unfold parseHttpRequest at h
  split at h
  · cases h
  · rename_i hline
    split at h
    · split at h
      · cases h
      · split at h
        · cases h
        · rename_i hheaders
          cases h
          exact (length_of_readHeaders hheaders).trans (length_of_readLine hline)
    · cases h

/-- The requests that can be read from a stream, one after the other. -/
def requestsIn (stream : List UInt8) : List HttpRequest :=
  match hread : parseHttpRequest utf8ErrorText stream with
  | .error _ => []
  | .ok (request, rest) => request :: requestsIn rest
termination_by stream.length
decreasing_by exact length_of_parseHttpRequest utf8ErrorText hread

/-! ### Responses of the server -/

/-- A file, whose length is a number of 64 bits. -/
structure ServedFile where
  bytes : List UInt8
  fits : bytes.length < 2 ^ 64

/-- The length of a file. -/
def ServedFile.len (file : ServedFile) : ℕ := file.bytes.length

/-- A number of 64 bits in a text, with white space around it. -/
def parseU64 (text : List Char) : Option ℕ :=
  (parseUnsigned? (Text.trimWhitespace text)).filter (· < 2 ^ 64)

/-- The first and the last byte of a range. -/
def parseByteRange (rangeHeader : List Char) : Option (ℕ × ℕ) := do
  let span ← if "bytes=".toList <+: rangeHeader then some (rangeHeader.drop 6) else none
  let (startText, endText) ← Text.splitOnce '-' span
  let start ← parseU64 startText
  let last ← parseU64 endText
  return (start, last)

/-- The number of bytes that are copied at once, at most. -/
def httpChunkSize : ℕ := 64 * 1024

/-- Copy the bytes of a span of a source, piece by piece, of which so many are remaining. -/
def copySpan (start spanLen remaining : ℕ) (source : List UInt8) :
    Except TransportError (List UInt8) :=
  if remaining = 0 then .ok []
  else
    match readExact (min remaining httpChunkSize) source with
    | .error e => .error (.ioError (s!"Failed to read the Parquet file: {remaining} of {spanLen} " ++
        s!"bytes from byte {start} still expected: {e.text utf8ErrorText}"))
    | .ok (piece, rest) =>
      (copySpan start spanLen (remaining - min remaining httpChunkSize) rest).map (piece ++ ·)
termination_by remaining
decreasing_by
  simp only [httpChunkSize]
  omega

/-- The end of a line. -/
def lineEnd : List Char := ['\r', '\n']

/-- The bytes of a head: its first line, the lines of its headers, and an empty line. -/
def headBytes (first : List Char) (lines : List (List Char)) : List UInt8 :=
  Text.bytes (first ++ lineEnd ++ lines.flatMap (· ++ lineEnd) ++ lineEnd)

/-- The line with the length of a body. -/
def contentLength (n : ℕ) : List Char := "Content-Length".toList ++ ':' :: ' ' :: natText n

/-- A range of a file in the form of a header. -/
def rangeText (start last len : ℕ) : List Char :=
  "bytes ".toList ++ natText start ++ '-' :: natText last ++ '/' :: natText len

/-- The line with a range. -/
def contentRange (start last len : ℕ) : List Char :=
  "Content-Range".toList ++ ':' :: ' ' :: rangeText start last len

/-- A head and the bytes of a span of the file. -/
def writeSpanResponse (file : ServedFile) (head : List UInt8) (start stop : ℕ) :
    Except TransportError (List UInt8) :=
  (copySpan utf8ErrorText start (stop - start) (stop - start) (file.bytes.drop start)).map (head ++ ·)

/-- The answer to a request for the size. -/
def writeFileSizeResponse (fileLen : ℕ) : List UInt8 :=
  headBytes "HTTP/1.1 200 OK".toList [contentLength fileLen]

/-- The answer to a request that is rejected. -/
def writeBadRequestResponse : List UInt8 := headBytes "HTTP/1.1 400 Bad Request".toList []

/-- The answer to a request of a method that is not allowed. -/
def writeMethodNotAllowed : List UInt8 := headBytes "HTTP/1.1 405 Method Not Allowed".toList []

/-- The answer to a request for a range. -/
def serveByteRange (file : ServedFile) (rangeHeader : List Char) :
    Except TransportError (List UInt8) :=
  match parseByteRange rangeHeader with
  | none => .ok writeBadRequestResponse
  | some (start, last) =>
    if file.len = 0 ∨ file.len ≤ start then .ok writeBadRequestResponse
    else
      let clampedEnd := min last (file.len - 1)
      if clampedEnd < start then .ok writeBadRequestResponse
      else
        let spanLen := clampedEnd - start + 1
        let head := headBytes "HTTP/1.1 206 Partial Content".toList
          [contentLength spanLen, contentRange start clampedEnd file.len]
        writeSpanResponse utf8ErrorText file head start (clampedEnd + 1)

/-- The answer to a request for the whole file. -/
def serveWholeFile (file : ServedFile) : Except TransportError (List UInt8) :=
  let head := headBytes "HTTP/1.1 200 OK".toList [contentLength file.len]
  writeSpanResponse utf8ErrorText file head 0 file.len

/-- The answer to a request. -/
def answer (file : ServedFile) (request : HttpRequest) : Except TransportError (List UInt8) :=
  match request.method with
  | .head => .ok (writeFileSizeResponse file.len)
  | .get =>
    match request.headers.get "range" with
    | some rangeHeader => serveByteRange utf8ErrorText file rangeHeader
    | none => serveWholeFile utf8ErrorText file
  | .put => .ok writeMethodNotAllowed

/-- Serve the requests in a stream. What is written is returned as well. -/
def serveParquetRangeRequests (file : ServedFile) (stream written : List UInt8) :
    Except TransportError Unit × List UInt8 :=
  match hread : parseHttpRequest utf8ErrorText stream with
  | .error (.ioError _) | .error (.protocolError _) => (.ok (), written)
  | .error e => (.error e, written)
  | .ok (request, rest) =>
    match answer utf8ErrorText file request with
    | .error e => (.error e, written)
    | .ok response =>
      if request.method = .put then
        (.error (.protocolError "Unexpected PUT in Parquet import handler"), written ++ response)
      else serveParquetRangeRequests file rest (written ++ response)
termination_by stream.length
decreasing_by exact length_of_parseHttpRequest utf8ErrorText hread

end Server

/-! ### What the client is owed -/

/-- A response. -/
structure HttpResponse where
  status : ℕ
  headers : Headers
  body : List UInt8

/-- The client reads the response to a request, and what follows it. The response must say how
long its body is; a response to a request for the size has none. -/
def readResponse (method : HttpMethod) (stream : List UInt8) : Option (HttpResponse × List UInt8) :=
  match readLine stream with
  | .error _ => none
  | .ok (statusLine, rest) =>
    match (Text.splitWhitespace statusLine)[1]?.bind parseNat?, readHeaders [] rest with
    | some status, .ok (headers, rest) =>
      ((headers.get "content-length").bind parseNat?).bind fun length =>
        if method = .head then some (⟨status, headers, []⟩, rest)
        else if length ≤ rest.length then
          some (⟨status, headers, rest.take length⟩, rest.drop length)
        else none
    | _, _ => none

/-- The client reads the responses to some requests. -/
def readResponses : List HttpMethod → List UInt8 → Option (List HttpResponse × List UInt8)
  | [], stream => some ([], stream)
  | method :: methods, stream => do
    let (response, rest) ← readResponse method stream
    let (responses, rest) ← readResponses methods rest
    return (response :: responses, rest)

/-- The ranges that a client may ask for and that overlap a file of a length: with a first and
a last byte, from a byte to the end, and so many bytes at the end. -/
inductive LegalRange (len : ℕ) : List Char → Prop
  | closed {a b : List Char} (ha : a ≠ [] ∧ AllDigits a) (hb : b ≠ [] ∧ AllDigits b)
      (hle : ofDigits a ≤ ofDigits b) (hlt : ofDigits a < len) :
      LegalRange len ("bytes=".toList ++ a ++ '-' :: b)
  | openEnded {a : List Char} (ha : a ≠ [] ∧ AllDigits a) (hlt : ofDigits a < len) :
      LegalRange len ("bytes=".toList ++ a ++ ['-'])
  | suffix {n : List Char} (hn : n ≠ [] ∧ AllDigits n) (hpos : 0 < ofDigits n) (hlen : 0 < len) :
      LegalRange len ("bytes=".toList ++ '-' :: n)

/-- A response is right for a request. -/
structure Right (file : ServedFile) (request : HttpRequest) (response : HttpResponse) : Prop where
  size : request.method = .head → response.status = 200 ∧
    response.headers.get "content-length" = some (natText file.len) ∧ response.body = []
  whole : request.method = .get → request.headers.get "range" = none → response.status = 200 ∧
    response.headers.get "content-length" = some (natText file.len) ∧ response.body = file.bytes
  /-- A range that is satisfied is sent, as far as the file has it. -/
  span : ∀ range start last, request.method = .get → request.headers.get "range" = some range →
    parseByteRange range = some (start, last) → response.status = 206 →
      let stop := min last (file.len - 1)
      response.headers.get "content-length" = some (natText (stop - start + 1)) ∧
      response.headers.get "content-range" = some (rangeText start stop file.len) ∧
      response.body = (file.bytes.drop start).take (stop + 1 - start)
  /-- A range that overlaps the file is satisfied. -/
  satisfied : ∀ range, request.method = .get → request.headers.get "range" = some range →
    LegalRange file.len range → response.status = 206

/-- **What the client is owed**: it can read one right response for each request, and nothing
else has been written. -/
def Served (utf8ErrorText : List UInt8 → String) (file : ServedFile) (stream : List UInt8) : Prop :=
  ∃ responses, readResponses ((requestsIn utf8ErrorText stream).map HttpRequest.method)
      (serveParquetRangeRequests utf8ErrorText file stream []).2 = some (responses, []) ∧
    List.Forall₂ (Right file) (requestsIn utf8ErrorText stream) responses

/-- The server understands a request: one for the size, for the whole file, or for a range with
a first and a last byte of which the first is one of the file. -/
def Understood (file : ServedFile) (request : HttpRequest) : Prop :=
  request.method = .head ∨ request.method = .get ∧ ∀ range,
    request.headers.get "range" = some range →
      ∃ start last, parseByteRange range = some (start, last) ∧ start ≤ last ∧ start < file.len

section Answers

variable {utf8ErrorText : List UInt8 → String} {file : ServedFile} {request : HttpRequest}

/-- Headers go on behind a line that is not empty. -/
theorem readHeaders_cons {headers : Headers} {stream rest : List UInt8} {line : List Char}
    (hread : readLine stream = .ok (line, rest)) (hne : line ≠ []) :
    readHeaders headers stream = readHeaders ((headerOfLine line).toList ++ headers) rest := by
  rw [readHeaders]
  split
  · rename_i h
    rw [hread] at h
    cases h
  · rename_i h
    rw [hread] at h
    cases h
    rw [if_neg hne]

/-- Digits are no white space. -/
theorem isWhitespace_of_isDigit {c : Char} (h : c.isDigit = true) :
    Text.isWhitespace c = false := by
  obtain ⟨hlo, hhi⟩ := Char.isDigit_iff_toNat.mp h
  change 48 ≤ c.toNat at hlo
  change c.toNat ≤ 57 at hhi
  unfold Text.isWhitespace
  simp only [Bool.or_eq_false_iff, Bool.and_eq_false_iff, decide_eq_false_iff_not]
  omega

/-- What is written for some requests; the server stops at one that it cannot answer, and at one
of a method that is not allowed. -/
def answers (utf8ErrorText : List UInt8 → String) (file : ServedFile) :
    List HttpRequest → List UInt8
  | [] => []
  | request :: requests =>
    match answer utf8ErrorText file request with
    | .error _ => []
    | .ok response =>
      if request.method = .put then response
      else response ++ answers utf8ErrorText file requests

end Answers

end Exarrow.Http
