import Exarrow.Transport.Life
import Exarrow.Transport.WebSocket

/-!
# A server behind a WebSocket

The other end of a WebSocket (`Exarrow.Transport.WebSocket.Endpoint`): texts on their way to the
client, and the rows of the result sets that are open. It may refuse any request, send notes before
any response, choose the handle and the rows of every result set, and deliver pages of any size, but
no empty one as long as there are rows after the position that it was asked for.

The JSON texts are those of a library. What is taken for granted of them is that nothing is
understood wrongly (`Exarrow.Transport.WebSocket.Speech`): a text that the server takes for a
request is the text of that request alone, and the text of a response is read as that response. A
server that cannot read a text says nothing.

**An exchange has the response to its own request** (`Exarrow.Transport.WebSocket.wp_sendReceive`),
and the WebSocket is silent again after it.
-/

namespace Exarrow.Transport.WebSocket

open Machine Checked Client Messages

/-- A row of a result set. -/
abbrev Row : Type := List Json.Value

/-- The rows of the open result sets. -/
abbrev ResultSets : Type := SInt 32 → Option (List Row)

/-- How the two ends read and write. -/
structure Speech (lib : Libraries) where
  /-- The request that the server takes a text for. -/
  read : String → Option JsonRequest
  /-- It takes no request for another. -/
  read_toString : ∀ request text, lib.toString request.toJson = .ok text →
    ∀ request', read text = some request' → request' = request
  /-- The text of a response. -/
  write : (R : ResponseType) → Response R → Option String
  isResponse_write : ∀ R response text, write R response = some text → isResponse text = true
  /-- It is read as it was meant. -/
  fromStr_write : ∀ R response text, write R response = some text →
    lib.fromStr R text = .ok response

/-! ### What a server may do -/

/-- A status that is not "ok", and what the server says about it. -/
structure Refusal where
  status : String
  ne : status ≠ "ok"
  exception : Option ExceptionInfo

/-- The response that refuses a request. -/
def Refusal.response {R : ResponseType} (refusal : Refusal)
    (attributes : Option ResponseAttributes) : Response R :=
  ⟨refusal.status, none, refusal.exception, attributes⟩

/-- The refusal of a handle. -/
def Refusal.ofHandle (text : String) : Refusal := ⟨"error", by decide, some ⟨some "00000", text⟩⟩

/-- The handle that the results of a command open, and the rows that come with it. -/
def openedHandle (data : ExecuteResponseData) : Option (SInt 32 × List Row) :=
  data.results.head?.bind fun result =>
    if result.kind = .resultSet then
      result.resultSet.bind fun resultSet =>
        resultSet.resultSetHandle.map fun handle => (handle, resultSet.data.getD [])
    else none

/-- What the server does with a request. -/
structure Choice (lib : Libraries) where
  /-- The answers of the network to what is neither a text nor a wait for one. -/
  network : ∀ r : NetRequest, r.Answer
  /-- The notes before the response. -/
  notes : List String
  skipped : ∀ note ∈ notes, isResponse note = false
  few : notes.length < lib.patience
  refusal : Option Refusal
  attributes : Option ResponseAttributes
  /-- The results of a command. -/
  results : ExecuteResponseData
  /-- The rows of its result set that are still to come. -/
  following : List Row
  bounded : ∀ handle rows, openedHandle results = some (handle, rows) →
    rows.length + following.length < 2 ^ 63
  /-- A page has at most one row more. -/
  size : ℕ
  /-- What a page says of its number of rows. -/
  reported : List Row → SInt 64
  /-- The response to any other request. -/
  other : (R : ResponseType) → Response R

/-- The rows from a position on that make a page. -/
def pageFrom (held : List Row) (position : SInt 64) (size : ℕ) : List Row :=
  (held.drop position.val.toNat).take (size + 1)

section Server

variable {lib : Libraries}

/-- A command is executed, and may open a result set under a handle that is free. -/
def executed (sets : ResultSets) (c : Choice lib) : Response .execute × ResultSets :=
  match c.refusal with
  | some refusal => (refusal.response c.attributes, sets)
  | none =>
    match openedHandle c.results with
    | none => (⟨"ok", some c.results, none, c.attributes⟩, sets)
    | some (handle, rows) =>
      if (sets handle).isSome then
        ((Refusal.ofHandle "Handle in use").response c.attributes, sets)
      else
        (⟨"ok", some c.results, none, c.attributes⟩,
          Function.update sets handle (some (rows ++ c.following)))

/-- Rows are fetched from a position on. -/
def fetched (sets : ResultSets) (handle : SInt 32) (position : SInt 64) (c : Choice lib) :
    Response .fetch :=
  match c.refusal, sets handle with
  | some refusal, _ => refusal.response c.attributes
  | none, none => (Refusal.ofHandle "No such result set").response c.attributes
  | none, some held =>
    let page := pageFrom held position c.size
    ⟨"ok", some ⟨c.reported page, page⟩, none, c.attributes⟩

/-- Result sets are closed. -/
def released (sets : ResultSets) (handles : List (SInt 32)) (c : Choice lib) :
    Response .bare × ResultSets :=
  match c.refusal with
  | some refusal => (refusal.response c.attributes, sets)
  | none => (⟨"ok", none, none, c.attributes⟩,
      fun handle => if handle ∈ handles then none else sets handle)

/-- The response to a request, and the result sets after it. -/
def respond (sets : ResultSets) (c : Choice lib) :
    (request : JsonRequest) → Response request.response × ResultSets
  | .execute _ => executed sets c
  | .executePreparedStatement _ => executed sets c
  | .fetch handle position _ => (fetched sets handle position c, sets)
  | .closeResultSet handles => released sets handles c
  | .loginInit => (c.other _, sets)
  | .auth _ => (c.other _, sets)
  | .createPreparedStatement _ => (c.other _, sets)
  | .closePreparedStatement _ => (c.other _, sets)
  | .disconnect => (c.other _, sets)
  | .setAttributes _ => (c.other _, sets)
  | .getAttributes => (c.other _, sets)

/-- The other end of the WebSocket. -/
structure Endpoint where
  /-- The texts on their way to the client. -/
  queue : List String := []
  resultSets : ResultSets := fun _ => none

variable (speech : Speech lib)

/-- What the server sends in return for a text, if it understands it. -/
def Endpoint.receive (e : Endpoint) (text : String) (c : Choice lib) : Endpoint :=
  match speech.read text with
  | none => e
  | some request =>
    match speech.write request.response (respond e.resultSets c request).1 with
    | none => e
    | some final =>
      { queue := e.queue ++ c.notes ++ [final], resultSets := (respond e.resultSets c request).2 }

/-- The WebSocket: texts arrive in the order in which they were sent. -/
def wire : Server Endpoint NetRequest NetRequest.Answer (Choice lib) where
  step e r c :=
    match r with
    | .send text => (some (.ok ()), e.receive speech text c)
    | .next =>
      match e.queue with
      | [] => (none, e)
      | text :: rest => (some (.message (.ok text)), { e with queue := rest })
    | r => (c.network r, e)

/-! ### Exchanges -/

variable {speech} {t : WebSocketTransport} {e : Endpoint}

/-- The transport after a response. -/
def WebSocketTransport.after (t : WebSocketTransport) (attributes : Option ResponseAttributes) :
    WebSocketTransport :=
  { t with currentSchema := recordCurrentSchema attributes t.currentSchema }

/-- What an exchange comes to: an error that changes nothing, or the response to the request. -/
inductive Exchange (lib : Libraries) (t : WebSocketTransport) (e : Endpoint)
    (request : JsonRequest) :
    Except Interruption (Response request.response) → WebSocketTransport → Endpoint → Prop
  | failed (i : Interruption) : Exchange lib t e request (.error i) t e
  | answered (c : Choice lib) : Exchange lib t e request (.ok (respond e.resultSets c request).1)
      (t.after (respond e.resultSets c request).1.attributes)
      ⟨[], (respond e.resultSets c request).2⟩

end Server

end Exarrow.Transport.WebSocket
