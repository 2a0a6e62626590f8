import Exarrow.Connection
import Exarrow.Foundations.Percent
import Mathlib.Data.List.AList

/-!
# Connection URIs

A connection URI names a host and a user, and a query sets the parameters of the connection
(`Exarrow.Uri.parseWithCredentials`). The text is cut by hand: at the first question mark, at the
last `@` before it, at the first slash and at the last colon of what follows. The user, the
password and the query are percent-decoded; the host and the schema are taken as they stand.

The query is read into a map (`Exarrow.Uri.parseQueryParams`), the credentials are taken out of it,
and what is left is applied to a builder entry by entry (`Exarrow.Uri.applyQueryParams`), **in the
order in which the map happens to be iterated over** (`Exarrow.Uri.Iteration`). What one entry asks
for is `Exarrow.Uri.querySetting`; several keys ask for the same setting. At last the builder checks
the parameters (`Exarrow.ConnectionBuilder.build`).
-/

namespace Exarrow

open Text Numeral

/-! ### The builder -/

/-- The name of the driver. -/
def driverName : String := "exarrow-rs"

/-- The version of the driver. -/
def driverVersion : String := "0.32.0"

/-- The nanoseconds of a whole number of seconds. -/
theorem nanos_pos : 0 < 1000000000 := by norm_num

/-- A number of whole seconds. -/
def Duration.fromSecs (secs : UInt64) : Duration := ⟨secs, ⟨0, nanos_pos⟩⟩

/-- Collects the parameters of a connection. -/
structure ConnectionBuilder where
  host : Option String := none
  port : Option UInt16 := none
  username : Option String := none
  password : Option String := none
  schema : Option String := none
  connectionTimeout : Option Duration := none
  queryTimeout : Option Duration := none
  useTls : Option Bool := none
  validateServerCertificate : Option Bool := none
  certificateFingerprint : Option String := none
  clientName : Option String := none
  clientVersion : Option String := none
  transport : Option String := none

namespace ConnectionBuilder

/-- The checks of a host, a user, a port and a timeout. -/
def check (host username : String) (port : UInt16) (connectionTimeout : Duration) :
    Except ConnectionError Unit :=
  if host = "" then .error (.invalidParameter "host" "Host cannot be empty")
  else if username = "" then .error (.invalidParameter "username" "Username cannot be empty")
  else if port = 0 then .error (.invalidParameter "port" "Port must be greater than 0")
  else if 300 < connectionTimeout.secs then
    .error (.invalidParameter "connection_timeout" "Connection timeout cannot exceed 300 seconds")
  else .ok ()

/-- **The parameters**, after they are checked. -/
def build (b : ConnectionBuilder) : Except ConnectionError ConnectionParams :=
  match b.host, b.username with
  | none, _ => .error (.invalidParameter "host" "Host is required")
  | some _, none => .error (.invalidParameter "username" "Username is required")
  | some host, some username => do
    let port := b.port.getD 8563
    let connectionTimeout := b.connectionTimeout.getD (.fromSecs 30)
    check host username port connectionTimeout
    return {
      host := host
      port := port
      username := username
      password := b.password.getD ""
      schema := b.schema
      connectionTimeout := connectionTimeout
      queryTimeout := b.queryTimeout
      useTls := b.useTls.getD true
      validateServerCertificate := b.validateServerCertificate.getD true
      certificateFingerprint := b.certificateFingerprint
      clientName := b.clientName.getD driverName
      clientVersion := b.clientVersion.getD driverVersion
      transport := b.transport }

end ConnectionBuilder

namespace Uri

/-! ### Libraries -/

/-- Why bytes are not a text in UTF-8. -/
structure Utf8Error where
  /-- How many bytes are. -/
  validUpTo : ℕ
  /-- How many bytes behind them are wrong; none if the text ends too early. -/
  errorLen : Option ℕ
  deriving DecidableEq

/-- The text of the error. -/
def Utf8Error.text (e : Utf8Error) : String :=
  match e.errorLen with
  | some n => s!"invalid utf-8 sequence of {n} bytes from index {e.validUpTo}"
  | none => s!"incomplete utf-8 byte sequence from index {e.validUpTo}"

/-- The functions of libraries that the parser calls. -/
structure UriLibrary where
  /-- Percent-decoding. -/
  decode : List Char → Except Utf8Error String
  /-- Lower case. -/
  toLowercase : String → String
  /-- What is percent-encoded is decoded as it was. -/
  decode_encode : ∀ s : String, decode (Percent.encode s.toList) = .ok s
  /-- The lower case of an ASCII text. -/
  toLowercase_ascii : ∀ s : String, (∀ a ∈ s.toList, a.toNat < 128) →
    toLowercase s = String.ofList (s.toList.map Char.toLower)

/-! ### Query parameters -/

/-- The parameters of a query, by their keys. -/
abbrev QueryMap : Type := AList fun _ : String => String

/-- A key with its value. -/
abbrev Entry : Type := Sigma fun _ : String => String

/-- **The order in which a map is iterated over**, which is any order. -/
structure Iteration where
  order : QueryMap → List Entry
  perm : ∀ params, (order params).Perm params.entries

/-- What one entry of a query asks for. -/
inductive Setting where
  | connectionTimeout (d : Duration)
  | queryTimeout (d : Duration)
  | idleTimeout
  | useTls (b : Bool)
  | validateServerCertificate (b : Bool)
  | clientName (s : String)
  | clientVersion (s : String)
  | certificateFingerprint (s : String)
  | transport (s : String)
  deriving DecidableEq

/-- Apply a setting; that of an idle timeout has no effect. -/
def Setting.apply (b : ConnectionBuilder) : Setting → ConnectionBuilder
  | connectionTimeout d => { b with connectionTimeout := some d }
  | queryTimeout d => { b with queryTimeout := some d }
  | idleTimeout => b
  | useTls v => { b with useTls := some v }
  | validateServerCertificate v => { b with validateServerCertificate := some v }
  | clientName s => { b with clientName := some s }
  | clientVersion s => { b with clientVersion := some s }
  | certificateFingerprint s => { b with certificateFingerprint := some s }
  | transport s => { b with transport := some s }

/-- The keys that the parser tells the user of; that of the idle timeout is left out. -/
def acceptedQueryKeys : List String :=
  ["timeout", "connection_timeout", "query_timeout", "tls", "use_tls", "ssl",
   "validate_certificate", "verify_certificate", "validateservercertificate", "client_name",
   "client_version", "certificate_fingerprint", "certificatefingerprint", "transport", "user",
   "username", "password", "pass"]

/-- A timeout in whole seconds. -/
def parseTimeout (key value : String) : Except ConnectionError Duration :=
  match parseUnsigned? value.toList with
  | some n =>
    if n < 2 ^ 64 then .ok (.fromSecs (UInt64.ofNat n))
    else .error (.invalidParameter key "Invalid timeout value: expected a whole number of seconds")
  | none =>
    .error (.invalidParameter key "Invalid timeout value: expected a whole number of seconds")

/-- The error for a key that is not known, which is not repeated when it may be a part of a
password. -/
def unknownParameter (redactKeys : Bool) (key : String) : ConnectionError :=
  let hint := if redactKeys then
    " The query contains '@': percent-encode '?' and '@' in the user name and password." else ""
  .invalidParameter (if redactKeys then "<redacted>" else key)
    ("Unknown connection parameter." ++ hint ++ " Accepted parameters: " ++
      ", ".intercalate acceptedQueryKeys)

variable (lib : UriLibrary)

/-- A truth value. -/
def parseBool (key value : String) : Except ConnectionError Bool :=
  match lib.toLowercase value with
  | "true" | "1" | "yes" | "on" => .ok true
  | "false" | "0" | "no" | "off" => .ok false
  | _ => .error (.invalidParameter key
    "Invalid boolean value: expected true, false, 1, 0, yes, no, on, or off")

/-- The name of a transport. -/
def parseTransport (value : String) : Except ConnectionError String :=
  match lib.toLowercase value with
  | "native" => .ok "native"
  | "websocket" => .ok "websocket"
  | _ => .error (.invalidParameter "transport"
    "Invalid transport value. Must be 'native' or 'websocket'")

/-- **What an entry of a query asks for.** -/
def querySetting (redactKeys : Bool) (key value : String) : Except ConnectionError Setting :=
  match key with
  | "timeout" | "connection_timeout" => Setting.connectionTimeout <$> parseTimeout key value
  | "query_timeout" => Setting.queryTimeout <$> parseTimeout key value
  | "idle_timeout" => (fun _ => Setting.idleTimeout) <$> parseTimeout key value
  | "tls" | "use_tls" | "ssl" => Setting.useTls <$> parseBool lib key value
  | "validate_certificate" | "verify_certificate" | "validateservercertificate" =>
    Setting.validateServerCertificate <$> parseBool lib key value
  | "client_name" => .ok (.clientName value)
  | "client_version" => .ok (.clientVersion value)
  | "certificate_fingerprint" | "certificatefingerprint" => .ok (.certificateFingerprint value)
  | "transport" => Setting.transport <$> parseTransport lib value
  | _ => .error (unknownParameter redactKeys key)

/-- **Apply the entries of a query to a builder**, one after the other. -/
def applyQueryParams (builder : ConnectionBuilder) (params : List Entry) (redactKeys : Bool) :
    Except ConnectionError ConnectionBuilder :=
  params.foldlM (fun builder entry => do
    let setting ← querySetting lib redactKeys entry.1 entry.2
    return setting.apply builder) builder

/-- Decode a part of the URI. -/
def decodePart (what : String) (s : List Char) : Except ConnectionError String :=
  match lib.decode s with
  | .ok s => .ok s
  | .error e => .error (.parseError s!"Failed to decode {what}: {e.text}")

/-- Add a pair of the query to the map; an empty one is passed over. -/
def insertPair (params : QueryMap) (pair : List Char × ℕ) : Except ConnectionError QueryMap :=
  if pair.1 = [] then .ok params
  else
    match splitOnce '=' pair.1 with
    | none => .error (.parseError
      s!"Invalid query parameter format at position {pair.2 + 1}: expected key=value")
    | some (key, value) => do
      let key ← decodePart lib "key" key
      let value ← decodePart lib "value" value
      return params.insert key value

/-- **The map of a query.** A key that is given again replaces the value before it. -/
def parseQueryParams (query : Option (List Char)) : Except ConnectionError QueryMap :=
  match query with
  | none => .ok ∅
  | some query => (query.splitOn '&').zipIdx.foldlM (insertPair lib) ∅

/-! ### The other parts -/

/-- The user and the password, if there is one. -/
def parseAuth (auth : List Char) : Except ConnectionError (String × Option String) :=
  match splitOnce ':' auth with
  | none => do
    let user ← decodePart lib "username" auth
    return (user, none)
  | some (user, pass) => do
    let user ← decodePart lib "username" user
    let pass ← decodePart lib "password" pass
    return (user, some pass)

/-- The text of a port. -/
def parsePort (s : List Char) : Except ConnectionError UInt16 :=
  match parseUnsigned? s with
  | some n =>
    if n < 2 ^ 16 then .ok (UInt16.ofNat n)
    else .error (.parseError "Invalid port: expected a number from 1 to 65535")
  | none => .error (.parseError "Invalid port: expected a number from 1 to 65535")

/-- The port of an address in brackets, which follows a colon right behind them. -/
def parseBehind (host behind : List Char) : Except ConnectionError (List Char × UInt16) :=
  match behind with
  | ':' :: port => (Prod.mk host) <$> parsePort port
  | _ => .ok (host, 8563)

/-- The host and the port of an address in brackets, if it is one: the host is between them. -/
def parseBracketed (hostPort : List Char) :
    Option (Except ConnectionError (List Char × UInt16)) :=
  match hostPort with
  | '[' :: rest => (splitOnce ']' rest).map fun parts => parseBehind parts.1 parts.2
  | _ => none

/-- The host and the port of another address. -/
def parseRegular (hostPort : List Char) : Except ConnectionError (List Char × UInt16) :=
  match rsplitOnce ':' hostPort with
  | some (host, port) => (Prod.mk host) <$> parsePort port
  | none => .ok (hostPort, 8563)

/-- **The host and the port.** -/
def parseHostPort (hostPort : List Char) : Except ConnectionError (List Char × UInt16) :=
  (parseBracketed hostPort).getD (parseRegular hostPort)

/-- The user of the URI, and its password. -/
def userinfo (auth : Option (List Char)) :
    Except ConnectionError (Option String × Option String) :=
  match auth with
  | none => .ok (none, none)
  | some auth => (fun parts : String × Option String => (some parts.1, parts.2)) <$>
    parseAuth lib auth

/-- The text before the query, and the query. -/
def splitQuery (url : List Char) : List Char × Option (List Char) :=
  match splitOnce '?' url with
  | some (main, query) => (main, some query)
  | none => (url, none)

/-- The user information and the rest. -/
def splitAuth (main : List Char) : Option (List Char) × List Char :=
  match rsplitOnce '@' main with
  | some (auth, host) => (some auth, host)
  | none => (none, main)

/-- The address and the schema; an empty one is none. -/
def splitSchema (host : List Char) : List Char × Option String :=
  match splitOnce '/' host with
  | some (host, schema) => (host, if schema = [] then none else some (String.ofList schema))
  | none => (host, none)

/-! ### The parser -/

/-- What the parser has read when it comes to the settings of the query. -/
structure Target where
  host : String
  port : UInt16
  username : String
  password : String
  schema : Option String
  /-- The query without its credentials. -/
  params : QueryMap
  /-- Whether a key that is not known may be a part of a password. -/
  redactKeys : Bool

/-- The builder to which the settings are applied. -/
def Target.builder (target : Target) : ConnectionBuilder where
  host := some target.host
  port := some target.port
  username := some target.username
  password := some target.password
  schema := target.schema

/-- The user: the given one, or that of the URI. -/
def resolveUsername (given userinfo : Option String) (params : QueryMap) :
    Except ConnectionError String :=
  match given <|> userinfo <|> params.lookup "user" <|> params.lookup "username" with
  | some username => .ok username
  | none => .error (.parseError "Username is required")

/-- The password: the given one, or that of the URI, or an empty one. -/
def resolvePassword (given userinfo : Option String) (params : QueryMap) : String :=
  (given <|> userinfo <|> params.lookup "password" <|> params.lookup "pass").getD ""

/-- The map without the keys of the credentials. -/
def withoutCredentials (params : QueryMap) : QueryMap :=
  (((params.erase "user").erase "username").erase "password").erase "pass"

/-- The text behind the scheme. -/
def stripScheme (uri : String) : Except ConnectionError (List Char) :=
  match stripPrefix? "exasol://".toList (trimWhitespace uri.toList) with
  | some url => .ok url
  | none => .error (.parseError "Connection string must start with 'exasol://'")

/-- **Everything up to the settings of the query.** -/
def parseTarget (uri : String) (username password : Option String) :
    Except ConnectionError Target := do
  let url ← stripScheme uri
  let (main, query) := splitQuery url
  let params ← parseQueryParams lib query
  let (auth, host) := splitAuth main
  let (user, pass) ← userinfo lib auth
  let username ← resolveUsername username user params
  let (address, schema) := splitSchema host
  let (host, port) ← parseHostPort address
  return {
    host := String.ofList host
    port := port
    username := username
    password := resolvePassword password pass params
    schema := schema
    params := withoutCredentials params
    redactKeys := query.any fun query => '@' ∈ query }

/-- **The parameters of a connection**, from its URI and the credentials that are given with it. -/
def parseWithCredentials (it : Iteration) (uri : String) (username password : Option String) :
    Except ConnectionError ConnectionParams := do
  let target ← parseTarget lib uri username password
  let builder ← applyQueryParams lib target.builder (it.order target.params) target.redactKeys
  builder.build

/-! ### Following the parser -/

theorem ok_bind {ε α β : Type} (a : α) (f : α → Except ε β) : ((.ok a : Except ε α) >>= f) = f a :=
  rfl

theorem error_bind {ε α β : Type} (e : ε) (f : α → Except ε β) :
    ((.error e : Except ε α) >>= f) = .error e := rfl

end Uri

end Exarrow
