import Exarrow.Csv.Streams

/-!
# The request of an export

The server sends the data of an export as the body of a `PUT` request. The driver reads the
request, forwards its body in pieces, and answers `200 OK` behind the last one
(`Exarrow.Export.handleExportRequest`). The body comes in chunks, or its length is in a header.

`Exarrow.Export.Uploads` is what a server may send for a body. **It is forwarded exactly**
(`Exarrow.Export.readExportRequest_uploads`), and **when the tunnel breaks before the end of the
body, reading it fails** (`Exarrow.Export.readExportRequest_cut`).
-/

namespace Exarrow

open Numeral

/-! ### What a request says about its body -/

namespace Http

/-- A character in lower case. Outside of ASCII only the Kelvin sign becomes a letter of the
word that is looked for. -/
def lowerChar (c : Char) : Char := if c.toNat = 0x212A then 'k' else c.toLower

namespace HttpRequest

/-- Whether the body comes in chunks. -/
def isChunked (request : HttpRequest) : Bool :=
  (request.headers.get "transfer-encoding").elim false fun value =>
    decide ("chunked".toList <:+: value.map lowerChar)

/-- The length of the body, if a header tells it. -/
def contentLength (request : HttpRequest) : Option ℕ :=
  (request.headers.get "content-length").bind fun value =>
    (parseUnsigned? value).filter (· < usizeBound)

end HttpRequest

variable {utf8ErrorText : List UInt8 → String} {headers headers' : Headers}
  {stream rest : List UInt8} {request : HttpRequest}

/-- More bytes behind headers change nothing about them. -/
theorem readHeaders_append (h : readHeaders headers stream = .ok (headers', rest))
    (more : List UInt8) : readHeaders headers (stream ++ more) = .ok (headers', rest ++ more) := by
  fun_induction readHeaders headers stream with
  | case1 => cases h
  | case2 headers stream rest' hread =>
    cases h
    have hmore := readLine_append hread more
    rw [readHeaders]
    split
    next hbad =>
      rw [hmore] at hbad
      cases hbad
    next hline =>
      rw [hmore] at hline
      cases hline
      rw [if_pos rfl]
  | case3 headers stream line rest' hread hne ih =>
    rw [readHeaders_cons (readLine_append hread more) hne]
    exact ih h

/-- **More bytes behind a request change nothing about it.** -/
theorem parseHttpRequest_append (h : parseHttpRequest utf8ErrorText stream = .ok (request, rest))
    (more : List UInt8) :
    parseHttpRequest utf8ErrorText (stream ++ more) = .ok (request, rest ++ more) := by
  unfold parseHttpRequest at h ⊢
  split at h
  · cases h
  next line rest' hline =>
    rw [readLine_append hline more]
    dsimp only
    split at h
    · split at h
      · cases h
      · split at h
        · cases h
        next hheaders =>
          cases h
          rw [readHeaders_append hheaders more]
    · cases h

end Http

namespace Export

open Http

/-! ### The handler -/

section Handler

variable (utf8ErrorText : List UInt8 → String)

/-- Read the request, and forward its body. -/
def readExportRequest (stream : List UInt8) : Except TransportError HttpRequest × Forwarding :=
  match parseHttpRequest utf8ErrorText stream with
  | .error e => (.error e, ⟨[], []⟩)
  | .ok (request, rest) =>
    if request.method ≠ .put then
      (.error (.protocolError
        s!"Expected PUT request for EXPORT, got {Csv.methodName request.method}"), ⟨rest, []⟩)
    else if request.isChunked then
      let (forwarded, s) := forwardChunkedBody utf8ErrorText ⟨rest, []⟩
      (forwarded.map fun _ => request, s)
    else
      match request.contentLength with
      | some len =>
        let (forwarded, s) := forwardSizedBody utf8ErrorText len len ⟨rest, []⟩
        (forwarded.map fun _ => request, s)
      | none => (.error (.protocolError
          "PUT request has no Content-Length or Transfer-Encoding"), ⟨rest, []⟩)

/-- The answer behind the last piece. -/
def okResponse : List UInt8 := headBytes "HTTP/1.1 200 OK".toList []

/-- What has come of the request of an export. -/
structure Handled where
  /-- The pieces that were handed on. -/
  sent : List (List UInt8) := []
  /-- The server has got its answer. -/
  answered : Bool := false
  result : Except TransportError HttpRequest

/-- Handle the request of an export. The tunnel gives what the server sends until the
connection ends, unless it cannot be opened; writing the answer may fail. -/
def handleExportRequest (tunnel : Except TransportError (List UInt8))
    (write : List UInt8 → Except TransportError Unit) : Handled :=
  match tunnel with
  | .error e => { result := .error e }
  | .ok stream =>
    match readExportRequest utf8ErrorText stream with
    | (.error e, s) => { sent := s.sent, result := .error e }
    | (.ok request, s) =>
      match write okResponse with
      | .error e => { sent := s.sent, result := .error e }
      | .ok () => { sent := s.sent, answered := true, result := .ok request }

/-- **What a server may send for a body**: behind the head of a `PUT` request the body in
chunks, or the body of the length that the head tells. -/
inductive Uploads : List UInt8 → List UInt8 → Prop
  | chunked {head : List UInt8} {request : HttpRequest} {pieces : List (List UInt8)}
      (hhead : parseHttpRequest utf8ErrorText head = .ok (request, []))
      (hput : request.method = .put) (hchunked : request.isChunked = true)
      (hpieces : ∀ piece ∈ pieces, piece.length < usizeBound) :
      Uploads (head ++ chunkedBody pieces) pieces.flatten
  | sized {head body : List UInt8} {request : HttpRequest}
      (hhead : parseHttpRequest utf8ErrorText head = .ok (request, []))
      (hput : request.method = .put) (hchunked : request.isChunked = false)
      (hlen : request.contentLength = some body.length) :
      Uploads (head ++ body) body

end Handler

/-! ### Whole bodies and cut ones -/

section Bodies

variable {utf8ErrorText : List UInt8 → String} {stream body : List UInt8} {request : HttpRequest}

/-- Behind a head the body is forwarded. -/
theorem readExportRequest_head {head : List UInt8}
    (hhead : parseHttpRequest utf8ErrorText head = .ok (request, []))
    (hput : request.method = .put) (rest : List UInt8) :
    readExportRequest utf8ErrorText (head ++ rest) =
      if request.isChunked then
        ((forwardChunkedBody utf8ErrorText ⟨rest, []⟩).1.map fun _ => request,
          (forwardChunkedBody utf8ErrorText ⟨rest, []⟩).2)
      else
        match request.contentLength with
        | some len =>
          ((forwardSizedBody utf8ErrorText len len ⟨rest, []⟩).1.map fun _ => request,
            (forwardSizedBody utf8ErrorText len len ⟨rest, []⟩).2)
        | none => (.error (.protocolError
            "PUT request has no Content-Length or Transfer-Encoding"), ⟨rest, []⟩) := by
  have hparse := parseHttpRequest_append hhead rest
  rw [List.nil_append] at hparse
  unfold readExportRequest
  rw [hparse]
  dsimp only
  rw [if_neg fun hne => hne hput]

/-- **A body is forwarded exactly**, in pieces of bounded length, and nothing behind it is
read. -/
theorem readExportRequest_uploads (h : Uploads utf8ErrorText stream body) (more : List UInt8) :
    ∃ request out, readExportRequest utf8ErrorText (stream ++ more) = (.ok request, ⟨more, out⟩) ∧
      out.flatten = body ∧ ∀ piece ∈ out, piece.length ≤ exportPieceMaxBytes := by
  cases h with
  | @chunked head request pieces hhead hput hchunked hpieces =>
    obtain ⟨out, hrun, hflat, hbound⟩ := @forwardChunkedBody_chunkedBody utf8ErrorText pieces
      hpieces more []
    refine ⟨request, out, ?_, hflat, hbound⟩
    rw [List.append_assoc, readExportRequest_head hhead hput, if_pos hchunked, hrun]
    rfl
  | @sized head body request hhead hput hchunked hlen =>
    obtain ⟨out, hrun, hflat, hbound⟩ := @forwardSizedBody_data utf8ErrorText body.length body
      more []
    refine ⟨request, out, ?_, hflat, hbound⟩
    rw [List.append_assoc, readExportRequest_head hhead hput,
      if_neg (Bool.eq_false_iff.mp hchunked), hlen]
    dsimp only
    rw [hrun]
    rfl

/-- A body that is forwarded is forwarded all the same when more bytes follow. -/
theorem readExportRequest_append {s : Forwarding}
    (h : readExportRequest utf8ErrorText stream = (.ok request, s)) (more : List UInt8) :
    readExportRequest utf8ErrorText (stream ++ more) =
      (.ok request, { s with stream := s.stream ++ more }) := by
  unfold readExportRequest at h ⊢
  split at h
  · cases h
  next request' rest hparse =>
    rw [parseHttpRequest_append hparse more]
    dsimp only
    split at h
    · cases h
    next hput =>
      rw [if_neg hput]
      split at h
      next hchunked =>
        rw [if_pos hchunked]
        rcases hrun : forwardChunkedBody utf8ErrorText ⟨rest, []⟩ with ⟨e | ⟨⟩, s'⟩
        · rw [hrun] at h
          cases h
        · rw [hrun] at h
          cases h
          rw [forwardChunkedBody_append hrun more]
          rfl
      next hchunked =>
        rw [if_neg hchunked]
        split at h
        next len hlen =>
          rcases hrun : forwardSizedBody utf8ErrorText len len ⟨rest, []⟩ with ⟨e | ⟨⟩, s'⟩
          · rw [hrun] at h
            cases h
          · rw [hrun] at h
            cases h
            rw [forwardSizedBody_append hrun more]
            rfl
        · cases h

/-- **A body that ends too early is an error.** -/
theorem readExportRequest_cut {cut rest : List UInt8}
    (h : Uploads utf8ErrorText (cut ++ rest) body) (hrest : rest ≠ []) :
    ∃ e s, readExportRequest utf8ErrorText cut = (.error e, s) := by
  rcases hrun : readExportRequest utf8ErrorText cut with ⟨e | request, s⟩
  · exact ⟨e, s, rfl⟩
  · -- The whole would leave the rest unread.
    have hmore := readExportRequest_append hrun rest
    obtain ⟨request', out, hout, -⟩ := readExportRequest_uploads h []
    rw [List.append_nil, hmore] at hout
    have hstream := congrArg (fun r => r.2.stream) hout
    exact absurd (List.append_eq_nil_iff.mp hstream).2 hrest

/-- What has come of the request of an export, when it was read without an error. -/
theorem handleExportRequest_read {s : Forwarding} (write : List UInt8 → Except TransportError Unit)
    (h : readExportRequest utf8ErrorText stream = (.ok request, s)) :
    (handleExportRequest utf8ErrorText (.ok stream) write).sent = s.sent := by
  unfold handleExportRequest
  dsimp only
  rw [h]
  dsimp only
  cases write okResponse <;> rfl

/-- When reading it failed, so did handling it. -/
theorem handleExportRequest_failed {e : TransportError} {s : Forwarding}
    (write : List UInt8 → Except TransportError Unit)
    (h : readExportRequest utf8ErrorText stream = (.error e, s)) :
    (handleExportRequest utf8ErrorText (.ok stream) write).result = .error e := by
  unfold handleExportRequest
  dsimp only
  rw [h]

end Bodies

end Export

end Exarrow
