import Exarrow.Uri.Order

/-!
# What an error says about a password

A password that is not percent-encoded can shift into any part of a URI. So the errors of the parser
repeat nothing of it: **where the parser fails** (`Exarrow.Uri.failingStep`) is a step together with
a position, a length or a key (`Exarrow.Uri.Failure`), and every error is the text of a failure
(`Exarrow.Uri.reports_parse`).

The keys that are named are keys that the parser implements, or a key of a query without `@`, and
then no part of the password is in that query (`Exarrow.Uri.discreet_failingStep`). Two passwords
for which parsing fails at the same place give the same error (`Exarrow.Uri.errors_discreet`).
-/

namespace Exarrow.Uri

open Text Numeral

/-! ### Failures -/

/-- The parts that are decoded. -/
inductive Part where
  | key
  | value
  | username
  | password
  deriving DecidableEq

/-- The name of a part. -/
def Part.text : Part → String
  | key => "key"
  | value => "value"
  | username => "username"
  | password => "password"

/-- **Where parsing fails**: the step, with a position, a length or a key. -/
inductive Failure where
  | scheme
  /-- A pair of the query has no value. -/
  | queryFormat (position : ℕ)
  /-- A part is no text in UTF-8. -/
  | decoding (what : Part) (e : Utf8Error)
  | usernameMissing
  | port
  /-- The value of a key is no timeout. -/
  | timeout (key : String)
  /-- The value of a key is no truth value. -/
  | truth (key : String)
  | transport
  /-- A key is not known; only a key that can be repeated is there. -/
  | unknownKey (key : Option String)
  | hostEmpty
  | usernameEmpty
  | portZero
  | timeoutTooLong
  deriving DecidableEq

/-- **The error of a failure.** -/
def Failure.error : Failure → ConnectionError
  | scheme => .parseError "Connection string must start with 'exasol://'"
  | queryFormat position => .parseError
    s!"Invalid query parameter format at position {position}: expected key=value"
  | decoding what e => .parseError s!"Failed to decode {what.text}: {e.text}"
  | usernameMissing => .parseError "Username is required"
  | port => .parseError "Invalid port: expected a number from 1 to 65535"
  | timeout key =>
    .invalidParameter key "Invalid timeout value: expected a whole number of seconds"
  | truth key => .invalidParameter key
    "Invalid boolean value: expected true, false, 1, 0, yes, no, on, or off"
  | transport => .invalidParameter "transport"
    "Invalid transport value. Must be 'native' or 'websocket'"
  | unknownKey key => unknownParameter key.isNone (key.getD "")
  | hostEmpty => .invalidParameter "host" "Host cannot be empty"
  | usernameEmpty => .invalidParameter "username" "Username cannot be empty"
  | portZero => .invalidParameter "port" "Port must be greater than 0"
  | timeoutTooLong =>
    .invalidParameter "connection_timeout" "Connection timeout cannot exceed 300 seconds"

/-! ### Where the parser fails -/

section Steps

variable (lib : UriLibrary)

/-- A part cannot be decoded. -/
def decodeFailure (what : Part) (s : List Char) : Option Failure :=
  match lib.decode s with
  | .ok _ => none
  | .error e => some (.decoding what e)

/-- A pair of the query cannot be read. -/
def pairFailure (pair : List Char × ℕ) : Option Failure :=
  if pair.1 = [] then none
  else
    match splitOnce '=' pair.1 with
    | none => some (.queryFormat (pair.2 + 1))
    | some (key, value) => decodeFailure lib .key key <|> decodeFailure lib .value value

/-- The first pair of the query that cannot be read. -/
def queryFailure (query : Option (List Char)) : Option Failure :=
  match query with
  | none => none
  | some query => (query.splitOn '&').zipIdx.findSome? (pairFailure lib)

/-- The user or the password cannot be read. -/
def authFailure (auth : Option (List Char)) : Option Failure :=
  match auth with
  | none => none
  | some auth =>
    match splitOnce ':' auth with
    | none => decodeFailure lib .username auth
    | some (user, pass) => decodeFailure lib .username user <|> decodeFailure lib .password pass

/-- Nobody is named: beside the URI, in it or in its query. -/
def usernameFailure (given : Option String) (auth query : Option (List Char)) : Option Failure :=
  let named := match parseQueryParams lib query with
    | .ok params => (params.lookup "user").isSome || (params.lookup "username").isSome
    | .error _ => false
  if given.isSome || auth.isSome || named then none else some .usernameMissing

/-- A text is no port. -/
def portTextFailure (s : List Char) : Option Failure :=
  match parseUnsigned? s with
  | some n => if n < 2 ^ 16 then none else some .port
  | none => some .port

/-- What stands behind an address in brackets. -/
def behindBrackets? (address : List Char) : Option (List Char) :=
  match address with
  | '[' :: rest => (splitOnce ']' rest).map Prod.snd
  | _ => none

/-- The port that follows a colon. -/
def portBehind? (behind : List Char) : Option (List Char) :=
  match behind with
  | ':' :: port => some port
  | _ => none

/-- The text of an address that is read as a port. -/
def portText? (address : List Char) : Option (List Char) :=
  match behindBrackets? address with
  | some behind => portBehind? behind
  | none => (rsplitOnce ':' address).map Prod.snd

/-- The port cannot be read. -/
def portFailure (address : List Char) : Option Failure := (portText? address).bind portTextFailure

/-- **Where the parser fails before it comes to the settings.** -/
def targetFailure (uri : String) (username : Option String) : Option Failure :=
  match stripPrefix? "exasol://".toList (trimWhitespace uri.toList) with
  | none => some .scheme
  | some url =>
    let parts := splitQuery url
    let host := splitAuth parts.1
    queryFailure lib parts.2 <|> authFailure lib host.1 <|>
      usernameFailure lib username host.1 parts.2 <|> portFailure (splitSchema host.2).1

/-- The keys of timeouts. -/
def timeoutKeys : List String := ["timeout", "connection_timeout", "query_timeout", "idle_timeout"]

/-- The keys of truth values. -/
def truthKeys : List String :=
  ["tls", "use_tls", "ssl", "validate_certificate", "verify_certificate",
   "validateservercertificate"]

/-- An entry is refused. -/
def settingFailure (redactKeys : Bool) (entry : Entry) : Option Failure :=
  if entry.1 ∈ timeoutKeys then
    match parseTimeout entry.1 entry.2 with
    | .ok _ => none
    | .error _ => some (.timeout entry.1)
  else if entry.1 ∈ truthKeys then
    match parseBool lib entry.1 entry.2 with
    | .ok _ => none
    | .error _ => some (.truth entry.1)
  else if entry.1 = "transport" then
    match parseTransport lib entry.2 with
    | .ok _ => none
    | .error _ => some .transport
  else if entry.1 ∈ implementedKeys then none
  else some (.unknownKey (if redactKeys then none else some entry.1))

/-- The builder refuses its parameters. -/
def checkFailure (host username : String) (port : UInt16) (d : Duration) : Option Failure :=
  if host = "" then some .hostEmpty
  else if username = "" then some .usernameEmpty
  else if port = 0 then some .portZero
  else if 300 < d.secs then some .timeoutTooLong
  else none

/-- The connection timeout that is left when entries have been applied. -/
def timeoutLeft (target : Target) (entries : List Entry) : Duration :=
  ((entries.map (settingOf lib target.redactKeys)).foldl Setting.apply
    target.builder).connectionTimeout.getD (.fromSecs 30)

/-- **Where the parser fails.** -/
def failingStep (it : Iteration) (uri : String) (username password : Option String) :
    Option Failure :=
  targetFailure lib uri username <|>
    match parseTarget lib uri username password with
    | .error _ => none
    | .ok target =>
      (it.order target.params).findSome? (settingFailure lib target.redactKeys) <|>
        checkFailure target.host target.username target.port
          (timeoutLeft lib target (it.order target.params))

end Steps

/-! ### Reporting a failure -/

/-- The error of a computation, if it fails. -/
def errorOf {ε α : Type} : Except ε α → Option ε
  | .ok _ => none
  | .error e => some e

/-- **A computation reports a failure**: it fails exactly if there is one, and with its error. -/
def Reports {α : Type} (x : Except ConnectionError α) (o : Option Failure) : Prop :=
  errorOf x = o.map Failure.error

section Reports

variable {α β : Type} {x : Except ConnectionError α} {o o' : Option Failure}

theorem Reports.ok (a : α) : Reports (.ok a) none := rfl

theorem Reports.error (f : Failure) : Reports (.error f.error : Except ConnectionError α) (some f) :=
  rfl

theorem Reports.eq_none {a : α} (h : Reports (.ok a) o) : o = none := by
  cases o with
  | none => rfl
  | some f => cases h

theorem Reports.exists {e : ConnectionError} (h : Reports (.error e : Except ConnectionError α) o) :
    ∃ f, o = some f ∧ e = f.error := by
  cases o with
  | none => cases h
  | some f => exact ⟨f, rfl, Option.some.inj h⟩

/-- Two steps, the second of which may look at what the first gives. -/
theorem Reports.bind {g : α → Except ConnectionError β} (h : Reports x o)
    (hg : ∀ a, x = .ok a → Reports (g a) o') : Reports (x >>= g) (o <|> o') := by
  cases x with
  | ok a =>
    rw [h.eq_none]
    exact hg a rfl
  | error e =>
    obtain ⟨f, rfl, rfl⟩ := h.exists
    exact Reports.error f

theorem Reports.map (f : α → β) (h : Reports x o) : Reports (f <$> x) o := by
  cases x with
  | ok a =>
    rw [h.eq_none]
    exact Reports.ok (f a)
  | error e =>
    obtain ⟨f', rfl, rfl⟩ := h.exists
    exact Reports.error f'

/-- A step for every element reports the first failure. -/
theorem reports_foldlM {step : β → α → Except ConnectionError β} {failure : α → Option Failure}
    (h : ∀ b a, Reports (step b a) (failure a)) (xs : List α) (b : β) :
    Reports (xs.foldlM step b) (xs.findSome? failure) := by
  induction xs generalizing b with
  | nil => exact Reports.ok b
  | cons a xs ih =>
    rw [List.foldlM_cons, List.findSome?_cons]
    have hbind := (h b a).bind fun b' _ => ih b'
    cases hf : failure a with
    | none =>
      rw [hf] at hbind
      exact hbind
    | some f =>
      rw [hf] at hbind
      exact hbind

end Reports

/-! ### The steps report their failures -/

section Stages

variable (lib : UriLibrary)

theorem reports_decodePart (what : Part) (s : List Char) :
    Reports (decodePart lib what.text s) (decodeFailure lib what s) := by
  unfold decodePart decodeFailure
  cases lib.decode s with
  | ok t => exact Reports.ok t
  | error e => exact Reports.error (.decoding what e)

theorem reports_insertPair (params : QueryMap) (pair : List Char × ℕ) :
    Reports (insertPair lib params pair) (pairFailure lib pair) := by
  unfold insertPair pairFailure
  by_cases hempty : pair.1 = []
  · rw [if_pos hempty, if_pos hempty]
    exact Reports.ok params
  · rw [if_neg hempty, if_neg hempty]
    cases splitOnce '=' pair.1 with
    | none => exact Reports.error (.queryFormat (pair.2 + 1))
    | some parts =>
      have hvalue (key : String) : Reports (do
          let value ← decodePart lib "value" parts.2
          return params.insert key value) (decodeFailure lib .value parts.2) :=
        (reports_decodePart lib .value parts.2).map fun value => params.insert key value
      exact (reports_decodePart lib .key parts.1).bind fun key _ => hvalue key

theorem reports_parseQueryParams (query : Option (List Char)) :
    Reports (parseQueryParams lib query) (queryFailure lib query) := by
  cases query with
  | none => exact Reports.ok _
  | some query => exact reports_foldlM (reports_insertPair lib) _ _

theorem reports_userinfo (auth : Option (List Char)) :
    Reports (userinfo lib auth) (authFailure lib auth) := by
  cases auth with
  | none => exact Reports.ok _
  | some auth =>
    refine Reports.map _ ?_
    unfold parseAuth authFailure
    dsimp only
    cases splitOnce ':' auth with
    | none => exact (reports_decodePart lib .username auth).map fun user => (user, none)
    | some parts =>
      have hpass (user : String) : Reports (do
          let pass ← decodePart lib "password" parts.2
          return (user, some pass)) (decodeFailure lib .password parts.2) :=
        (reports_decodePart lib .password parts.2).map fun pass => (user, some pass)
      exact (reports_decodePart lib .username parts.1).bind fun user _ => hpass user

/-- A URI with user information names a user. -/
theorem isSome_of_userinfo {auth : Option (List Char)} {parts : Option String × Option String}
    (h : userinfo lib auth = .ok parts) : parts.1.isSome = auth.isSome := by
  cases auth with
  | none =>
    cases h
    rfl
  | some auth =>
    change (fun parts : String × Option String => (some parts.1, parts.2)) <$>
      parseAuth lib auth = .ok parts at h
    cases hparse : parseAuth lib auth with
    | ok p =>
      rw [hparse] at h
      cases h
      rfl
    | error e =>
      rw [hparse] at h
      cases h

theorem reports_resolveUsername {given user : Option String} {auth query : Option (List Char)}
    {params : QueryMap} (huser : user.isSome = auth.isSome)
    (hparams : parseQueryParams lib query = .ok params) :
    Reports (resolveUsername given user params) (usernameFailure lib given auth query) := by
  unfold resolveUsername usernameFailure
  rw [hparams, ← huser]
  dsimp only
  cases given with
  | some given => exact Reports.ok given
  | none =>
    cases user with
    | some user => exact Reports.ok user
    | none =>
      generalize params.lookup "user" = first, params.lookup "username" = second
      cases first with
      | some value => exact Reports.ok value
      | none =>
        cases second with
        | some value => exact Reports.ok value
        | none => exact Reports.error .usernameMissing

theorem reports_parsePort (s : List Char) : Reports (parsePort s) (portTextFailure s) := by
  unfold parsePort portTextFailure
  cases parseUnsigned? s with
  | none => exact Reports.error .port
  | some n =>
    dsimp only
    by_cases hn : n < 2 ^ 16
    · rw [if_pos hn, if_pos hn]
      exact Reports.ok _
    · rw [if_neg hn, if_neg hn]
      exact Reports.error .port

theorem reports_parseRegular (address : List Char) : Reports (parseRegular address)
    (((rsplitOnce ':' address).map Prod.snd).bind portTextFailure) := by
  unfold parseRegular
  cases rsplitOnce ':' address with
  | none => exact Reports.ok _
  | some parts => exact (reports_parsePort parts.2).map _

/-- Behind brackets there is a port or none. -/
theorem parseBehind_of_ne {host behind : List Char} (h : ∀ port, behind ≠ ':' :: port) :
    parseBehind host behind = .ok (host, 8563) := by
  unfold parseBehind
  split
  · exact absurd rfl (h _)
  · rfl

theorem portBehind?_of_ne {behind : List Char} (h : ∀ port, behind ≠ ':' :: port) :
    portBehind? behind = none := by
  unfold portBehind?
  split
  · exact absurd rfl (h _)
  · rfl

theorem reports_parseBehind (host behind : List Char) : Reports (parseBehind host behind)
    ((portBehind? behind).bind portTextFailure) := by
  by_cases h : ∃ port, behind = ':' :: port
  · obtain ⟨port, rfl⟩ := h
    exact (reports_parsePort port).map (Prod.mk host)
  · have hne : ∀ port, behind ≠ ':' :: port := fun port heq => h ⟨port, heq⟩
    rw [parseBehind_of_ne hne, portBehind?_of_ne hne]
    exact Reports.ok _

theorem reports_parseHostPort (address : List Char) :
    Reports (parseHostPort address) (portFailure address) := by
  have hnone (hbehind : behindBrackets? address = none) (hbracketed : parseBracketed address = none) :
      Reports (parseHostPort address) (portFailure address) := by
    unfold parseHostPort portFailure portText?
    rw [hbehind, hbracketed]
    exact reports_parseRegular address
  have hsome (host behind : List Char) (hbehind : behindBrackets? address = some behind)
      (hbracketed : parseBracketed address = some (parseBehind host behind)) :
      Reports (parseHostPort address) (portFailure address) := by
    unfold parseHostPort portFailure portText?
    rw [hbehind, hbracketed]
    exact reports_parseBehind host behind
  cases address with
  | nil => exact hnone rfl rfl
  | cons a rest =>
    by_cases ha : a = '['
    · subst ha
      cases hsplit : splitOnce ']' rest with
      | none => exact hnone (congrArg (Option.map Prod.snd) hsplit) (congrArg (Option.map _) hsplit)
      | some parts =>
        exact hsome parts.1 parts.2 (congrArg (Option.map Prod.snd) hsplit)
          (congrArg (Option.map _) hsplit)
    · refine hnone ?_ ?_
      · unfold behindBrackets?
        split
        · rename_i heq
          exact absurd (List.cons.inj heq).1 ha
        · rfl
      · unfold parseBracketed
        split
        · rename_i heq
          exact absurd (List.cons.inj heq).1 ha
        · rfl

theorem reports_parseTarget (uri : String) (username password : Option String) :
    Reports (parseTarget lib uri username password) (targetFailure lib uri username) := by
  unfold parseTarget targetFailure stripScheme
  cases stripPrefix? "exasol://".toList (trimWhitespace uri.toList) with
  | none => exact Reports.error .scheme
  | some url =>
    change Reports (parseQueryParams lib (splitQuery url).2 >>= fun params => _) _
    refine (reports_parseQueryParams lib _).bind fun params hparams => ?_
    refine (reports_userinfo lib _).bind fun parts hparts => ?_
    refine (reports_resolveUsername lib (isSome_of_userinfo lib hparts) hparams).bind
      fun name _ => ?_
    exact (reports_parseHostPort _).map _

theorem reports_parseTimeout (key value : String) :
    Reports (parseTimeout key value) (match parseTimeout key value with
      | .ok _ => none
      | .error _ => some (.timeout key)) := by
  unfold parseTimeout
  cases parseUnsigned? value.toList with
  | none => exact Reports.error (.timeout key)
  | some n =>
    dsimp only
    by_cases hn : n < 2 ^ 64
    · rw [if_pos hn]
      exact Reports.ok _
    · rw [if_neg hn]
      exact Reports.error (.timeout key)

theorem reports_parseBool (key value : String) :
    Reports (parseBool lib key value) (match parseBool lib key value with
      | .ok _ => none
      | .error _ => some (.truth key)) := by
  unfold parseBool
  split
  case h_9 => exact Reports.error (.truth key)
  all_goals exact Reports.ok _

theorem reports_parseTransport (value : String) :
    Reports (parseTransport lib value) (match parseTransport lib value with
      | .ok _ => none
      | .error _ => some .transport) := by
  unfold parseTransport
  split
  · exact Reports.ok _
  · exact Reports.ok _
  · exact Reports.error .transport

theorem timeoutKeys_subset : timeoutKeys ⊆ implementedKeys := by
  simp [timeoutKeys, implementedKeys]

theorem truthKeys_subset : truthKeys ⊆ implementedKeys := by
  simp [truthKeys, implementedKeys]

/-- **The entry of a query is refused** exactly with the failure of its key. -/
theorem reports_querySetting (redactKeys : Bool) (entry : Entry) :
    Reports (querySetting lib redactKeys entry.1 entry.2)
      (settingFailure lib redactKeys entry) := by
  obtain ⟨key, value⟩ := entry
  unfold querySetting settingFailure
  dsimp only
  split
  case h_16 =>
    have hno : key ∉ implementedKeys := by
      simp only [implementedKeys, List.mem_cons, List.not_mem_nil, or_false]
      simp_all
    have htimeout : key ∉ timeoutKeys := fun h => hno (timeoutKeys_subset h)
    have htruth : key ∉ truthKeys := fun h => hno (truthKeys_subset h)
    have htransport : key ≠ "transport" := by
      rintro rfl
      exact hno (by simp [implementedKeys])
    rw [if_neg htimeout, if_neg htruth, if_neg htransport, if_neg hno]
    cases redactKeys with
    | true => exact Reports.error (.unknownKey none)
    | false => exact Reports.error (.unknownKey (some key))
  case h_5 | h_6 | h_7 | h_8 | h_9 | h_10 =>
    rw [if_neg (by simp [timeoutKeys]), if_pos (by simp [truthKeys])]
    exact (reports_parseBool lib _ value).map _
  case h_11 | h_12 | h_13 | h_14 =>
    rw [if_neg (by simp [timeoutKeys]), if_neg (by simp [truthKeys]), if_neg (by simp),
      if_pos (by simp [implementedKeys])]
    exact Reports.ok _
  case h_15 =>
    rw [if_neg (by simp [timeoutKeys]), if_neg (by simp [truthKeys]), if_pos rfl]
    exact (reports_parseTransport lib value).map _
  all_goals
    rw [if_pos (by simp [timeoutKeys])]
    exact (reports_parseTimeout _ value).map _

theorem reports_applyQueryParams (b : ConnectionBuilder) (entries : List Entry)
    (redactKeys : Bool) : Reports (applyQueryParams lib b entries redactKeys)
      (entries.findSome? (settingFailure lib redactKeys)) := by
  refine reports_foldlM (fun b entry => ?_) entries b
  exact (reports_querySetting lib redactKeys entry).map fun setting => setting.apply b

/-- Where the settings are applied, no entry is refused. -/
theorem not_refused_of_apply {b c : ConnectionBuilder} {entries : List Entry} {redactKeys : Bool}
    (h : applyQueryParams lib b entries redactKeys = .ok c) :
    ∀ entry ∈ entries, ¬Refused lib redactKeys entry := by
  have hreports := reports_applyQueryParams lib b entries redactKeys
  rw [h] at hreports
  intro entry hmem
  have hnone := List.findSome?_eq_none_iff.mp hreports.eq_none entry hmem
  rintro ⟨e, he⟩
  have hentry := reports_querySetting lib redactKeys entry
  rw [he, hnone] at hentry
  cases hentry

theorem reports_check (host username : String) (port : UInt16) (d : Duration) :
    Reports (ConnectionBuilder.check host username port d) (checkFailure host username port d) := by
  unfold ConnectionBuilder.check checkFailure
  by_cases h1 : host = ""
  · rw [if_pos h1, if_pos h1]
    exact Reports.error .hostEmpty
  · rw [if_neg h1, if_neg h1]
    by_cases h2 : username = ""
    · rw [if_pos h2, if_pos h2]
      exact Reports.error .usernameEmpty
    · rw [if_neg h2, if_neg h2]
      by_cases h3 : port = 0
      · rw [if_pos h3, if_pos h3]
        exact Reports.error .portZero
      · rw [if_neg h3, if_neg h3]
        by_cases h4 : 300 < d.secs
        · rw [if_pos h4, if_pos h4]
          exact Reports.error .timeoutTooLong
        · rw [if_neg h4, if_neg h4]
          exact Reports.ok ()

theorem reports_build {target : Target} {b : ConnectionBuilder}
    (h : SameTarget b target.builder) : Reports b.build (checkFailure target.host target.username
      target.port (b.connectionTimeout.getD (.fromSecs 30))) := by
  have hreports := reports_check target.host target.username target.port
    (b.connectionTimeout.getD (.fromSecs 30))
  cases hcheck : ConnectionBuilder.check target.host target.username target.port
      (b.connectionTimeout.getD (.fromSecs 30)) with
  | ok u =>
    rw [hcheck] at hreports
    rw [hreports.eq_none, build_eq_ok h hcheck]
    exact Reports.ok _
  | error e =>
    rw [hcheck] at hreports
    obtain ⟨f, hf, rfl⟩ := hreports.exists
    rw [hf, build_eq_error h hcheck]
    exact Reports.error f

/-- **Every error of the parser is that of the step at which it fails.** -/
theorem reports_parse (it : Iteration) (uri : String) (username password : Option String) :
    Reports (parseWithCredentials lib it uri username password)
      (failingStep lib it uri username password) := by
  unfold parseWithCredentials failingStep
  refine (reports_parseTarget lib uri username password).bind fun target htarget => ?_
  rw [htarget]
  refine (reports_applyQueryParams lib _ _ _).bind fun b hb => ?_
  rw [applyQueryParams_eq (not_refused_of_apply lib hb)] at hb
  obtain rfl := Except.ok.inj hb
  exact reports_build (sameTarget_foldl _ _)

end Stages

/-! ### Discretion -/

/-- A URI in which a password stands as it is. -/
def plainUri (user password rest : List Char) : String :=
  String.ofList ("exasol://".toList ++ user ++ ':' :: password ++ '@' :: rest)

/-- A text without white space at its end. -/
def trimEnd (s : List Char) : List Char := (s.reverse.dropWhile isWhitespace).reverse

/-- The query that follows the host, if there is one. -/
def ownQuery (rest : List Char) : Option (List Char) := (splitQuery (trimEnd rest)).2

/-- **What a failure says is no secret**: a key that it names is one that the parser implements, or
one of the query that follows the host and holds no `@`. -/
def Failure.Discreet (lib : UriLibrary) (rest : List Char) : Failure → Prop
  | timeout key | truth key => key ∈ implementedKeys
  | unknownKey (some key) => ∃ query params, ownQuery rest = some query ∧ '@' ∉ query ∧
    parseQueryParams lib (some query) = .ok params ∧ key ∈ params
  | _ => True

section Discretion

variable {lib : UriLibrary} {user password rest : List Char}

/-- Only the text behind a character that is no white space is trimmed. -/
theorem trimEnd_append_cons {b : Char} (hb : isWhitespace b = false) (s t : List Char) :
    trimEnd (s ++ b :: t) = s ++ b :: trimEnd t := by
  have hstop : (b :: s.reverse).dropWhile isWhitespace = b :: s.reverse :=
    List.dropWhile_cons_of_neg (by rw [hb]; exact Bool.false_ne_true)
  have hreverse : (s ++ b :: t).reverse = t.reverse ++ b :: s.reverse := by simp
  unfold trimEnd
  rw [hreverse, List.dropWhile_append, hstop]
  split
  · rename_i hempty
    rw [List.isEmpty_iff.mp hempty]
    simp
  · simp

/-- What stands behind the scheme: the white space behind the host is taken away. -/
theorem stripPrefix?_plainUri : stripPrefix? "exasol://".toList
    (trimWhitespace (plainUri user password rest).toList) =
      some (user ++ ':' :: password ++ '@' :: trimEnd rest) := by
  have hscheme := Written.isWhitespace_scheme
  have hne : "exasol://".toList ≠ [] := by decide +kernel
  unfold plainUri
  generalize "exasol://".toList = scheme at hscheme hne ⊢
  rw [String.toList_ofList]
  obtain ⟨a, s, rfl⟩ := List.exists_cons_of_ne_nil hne
  have ha : isWhitespace a = false := hscheme a List.mem_cons_self
  have hfront : trimWhitespace (a :: s ++ user ++ ':' :: password ++ '@' :: rest) =
      trimEnd (a :: s ++ user ++ ':' :: password ++ '@' :: rest) := by
    unfold trimWhitespace trimEnd
    simp only [List.cons_append]
    rw [List.dropWhile_cons_of_neg (by rw [ha]; exact Bool.false_ne_true)]
  have hassoc : a :: s ++ user ++ ':' :: password ++ '@' :: trimEnd rest =
      a :: s ++ (user ++ ':' :: password ++ '@' :: trimEnd rest) := by simp
  rw [hfront, trimEnd_append_cons (by decide), hassoc, stripPrefix?_append]

/-- **A query without `@` is behind the host**, and nothing of the password is in it. -/
theorem splitQuery_plain {front rest : List Char} (h : ∀ query,
      (splitQuery (front ++ '@' :: rest)).2 = some query → '@' ∉ query) :
    (splitQuery (front ++ '@' :: rest)).2 = (splitQuery rest).2 := by
  cases hfront : splitOnce '?' front with
  | some parts =>
    -- The query begins before the `@`, and holds it.
    obtain ⟨rfl, hbefore⟩ := splitOnce_eq_some.mp hfront
    have hquery : (splitQuery (parts.1 ++ '?' :: parts.2 ++ '@' :: rest)).2 =
        some (parts.2 ++ '@' :: rest) := by
      rw [List.append_assoc, List.cons_append, splitQuery, splitOnce_append hbefore]
    exact absurd (List.mem_append_right _ List.mem_cons_self) (h _ hquery)
  | none =>
    have hno : '?' ∉ front := splitOnce_eq_none_iff.mp hfront
    unfold splitQuery
    cases hrest : splitOnce '?' rest with
    | none =>
      have hall : '?' ∉ front ++ '@' :: rest := by
        rw [List.mem_append, List.mem_cons, not_or, not_or]
        exact ⟨hno, by decide, splitOnce_eq_none_iff.mp hrest⟩
      rw [splitOnce_eq_none hall]
    | some parts =>
      obtain ⟨rfl, hbefore⟩ := splitOnce_eq_some.mp hrest
      have hassoc : front ++ '@' :: (parts.1 ++ '?' :: parts.2) =
          (front ++ '@' :: parts.1) ++ '?' :: parts.2 := by simp
      have hall : '?' ∉ front ++ '@' :: parts.1 := by
        rw [List.mem_append, List.mem_cons, not_or, not_or]
        exact ⟨hno, by decide, hbefore⟩
      rw [hassoc, splitOnce_append hall]

/-- What the parser has read of the query. -/
theorem exists_of_parseTarget {uri : String} {given givenPassword : Option String}
    {target : Target} (h : parseTarget lib uri given givenPassword = .ok target) :
    ∃ url params, stripPrefix? "exasol://".toList (trimWhitespace uri.toList) = some url ∧
      parseQueryParams lib (splitQuery url).2 = .ok params ∧
      target.params = withoutCredentials params ∧
      target.redactKeys = (splitQuery url).2.any fun query => decide ('@' ∈ query) := by
  unfold parseTarget stripScheme at h
  cases hurl : stripPrefix? "exasol://".toList (trimWhitespace uri.toList) with
  | none =>
    rw [hurl] at h
    cases h
  | some url =>
    rw [hurl] at h
    change (parseQueryParams lib (splitQuery url).2 >>= fun params => _) = _ at h
    obtain ⟨params, hparams, h⟩ := Checked.bind_eq_ok.mp h
    obtain ⟨parts, -, h⟩ := Checked.bind_eq_ok.mp h
    obtain ⟨name, -, h⟩ := Checked.bind_eq_ok.mp h
    obtain ⟨address, -, h⟩ := Checked.bind_eq_ok.mp h
    obtain rfl := Except.ok.inj h
    exact ⟨url, params, rfl, hparams, rfl, rfl⟩

/-! ### The failures of the steps -/

/-- A failure that names no key. -/
def Failure.Keyless : Failure → Prop
  | timeout _ | truth _ | unknownKey _ => False
  | _ => True

theorem Failure.Keyless.discreet {f : Failure} (h : f.Keyless) : f.Discreet lib rest := by
  cases f <;> trivial

theorem keyless_decodeFailure {what : Part} {s : List Char} {f : Failure}
    (h : decodeFailure lib what s = some f) : f.Keyless := by
  unfold decodeFailure at h
  split at h <;> cases h
  trivial

theorem orElse_eq_some {o o' : Option Failure} {f : Failure} (h : (o <|> o') = some f) :
    o = some f ∨ o' = some f := by
  cases o with
  | none => exact .inr h
  | some g => exact .inl h

theorem keyless_queryFailure {query : Option (List Char)} {f : Failure}
    (h : queryFailure lib query = some f) : f.Keyless := by
  cases query with
  | none => cases h
  | some query =>
    obtain ⟨pair, -, hpair⟩ := List.exists_of_findSome?_eq_some h
    unfold pairFailure at hpair
    split at hpair
    · cases hpair
    · split at hpair
      · cases hpair
        trivial
      · rcases orElse_eq_some hpair with hpair | hpair
        · exact keyless_decodeFailure hpair
        · exact keyless_decodeFailure hpair

theorem keyless_authFailure {auth : Option (List Char)} {f : Failure}
    (h : authFailure lib auth = some f) : f.Keyless := by
  cases auth with
  | none => cases h
  | some auth =>
    unfold authFailure at h
    dsimp only at h
    split at h
    · exact keyless_decodeFailure h
    · rcases orElse_eq_some h with h | h
      · exact keyless_decodeFailure h
      · exact keyless_decodeFailure h

theorem keyless_usernameFailure {given : Option String} {auth query : Option (List Char)}
    {f : Failure} (h : usernameFailure lib given auth query = some f) : f.Keyless := by
  unfold usernameFailure at h
  dsimp only at h
  split_ifs at h
  cases h
  trivial

theorem keyless_portFailure {address : List Char} {f : Failure}
    (h : portFailure address = some f) : f.Keyless := by
  obtain ⟨port, -, hport⟩ := Option.bind_eq_some_iff.mp h
  unfold portTextFailure at hport
  split at hport
  · split at hport <;> cases hport
    trivial
  · cases hport
    trivial

/-- The steps before the settings name no key. -/
theorem keyless_targetFailure {uri : String} {given : Option String} {f : Failure}
    (h : targetFailure lib uri given = some f) : f.Keyless := by
  unfold targetFailure at h
  split at h
  · cases h
    trivial
  · rcases orElse_eq_some h with h | h
    · exact keyless_queryFailure h
    · rcases orElse_eq_some h with h | h
      · exact keyless_authFailure h
      · rcases orElse_eq_some h with h | h
        · exact keyless_usernameFailure h
        · exact keyless_portFailure h

theorem keyless_checkFailure {host username : String} {port : UInt16} {d : Duration} {f : Failure}
    (h : checkFailure host username port d = some f) : f.Keyless := by
  unfold checkFailure at h
  split at h
  · cases h
    trivial
  · split at h
    · cases h
      trivial
    · split at h
      · cases h
        trivial
      · split at h <;> cases h
        trivial

/-- An entry that is refused names a key that the parser implements, or its own key where it may be
repeated. -/
theorem key_of_settingFailure {redactKeys : Bool} {entry : Entry} {f : Failure}
    (h : settingFailure lib redactKeys entry = some f) : f.Keyless ∨
      (∃ key ∈ implementedKeys, f = .timeout key ∨ f = .truth key) ∨ f = .unknownKey none ∨
        redactKeys = false ∧ f = .unknownKey (some entry.1) := by
  unfold settingFailure at h
  split at h
  · rename_i hkey
    split at h <;> cases h
    exact .inr (.inl ⟨_, timeoutKeys_subset hkey, .inl rfl⟩)
  · split at h
    · rename_i hkey
      split at h <;> cases h
      exact .inr (.inl ⟨_, truthKeys_subset hkey, .inr rfl⟩)
    · split at h
      · split at h <;> cases h
        exact .inl trivial
      · split at h
        · cases h
        · cases redactKeys with
          | true => exact .inr (.inr (.inl (Option.some.inj h).symm))
          | false => exact .inr (.inr (.inr ⟨rfl, (Option.some.inj h).symm⟩))

/-- **A failure names nothing of the password.** -/
theorem discreet_failingStep {it : Iteration} {given givenPassword : Option String} {f : Failure}
    (h : failingStep lib it (plainUri user password rest) given givenPassword = some f) :
    f.Discreet lib rest := by
  unfold failingStep at h
  rcases orElse_eq_some h with h | h
  · exact (keyless_targetFailure h).discreet
  · split at h
    · cases h
    · rename_i target htarget
      rcases orElse_eq_some h with h | h
      · obtain ⟨entry, hmem, hentry⟩ := List.exists_of_findSome?_eq_some h
        rcases key_of_settingFailure hentry with hkeyless | ⟨key, hkey, rfl | rfl⟩ | rfl |
          ⟨hredact, rfl⟩
        · exact hkeyless.discreet
        · exact hkey
        · exact hkey
        · trivial
        · obtain ⟨url, params, hurl, hparams, htargetParams, hany⟩ := exists_of_parseTarget htarget
          rw [stripPrefix?_plainUri] at hurl
          obtain rfl := Option.some.inj hurl
          rw [hredact] at hany
          have hat : ∀ query, (splitQuery (user ++ ':' :: password ++ '@' :: trimEnd rest)).2 =
              some query → '@' ∉ query := by
            intro query hquery
            rw [hquery] at hany
            exact of_decide_eq_false hany.symm
          have hown := splitQuery_plain hat
          have hkey : entry.1 ∈ params := by
            have hin : entry.1 ∈ target.params :=
              AList.mem_keys.mpr (List.mem_keys_of_mem ((it.perm _).mem_iff.mp hmem))
            rw [htargetParams] at hin
            simp only [withoutCredentials, AList.mem_erase] at hin
            exact hin.2.2.2.2
          cases hquery : (splitQuery (user ++ ':' :: password ++ '@' :: trimEnd rest)).2 with
          | none =>
            rw [hquery] at hparams
            obtain rfl := Except.ok.inj hparams
            exact absurd hkey (AList.notMem_empty _)
          | some query =>
            rw [hquery] at hparams hown
            exact ⟨query, params, hown.symm, hat query hquery, hparams, hkey⟩
      · exact (keyless_checkFailure h).discreet

end Discretion

/-- **What errors say about a password.** Every error is that of the failing step, and names nothing
of the password; two passwords for which the same step fails at the same place give the same
error. -/
structure Secret (lib : UriLibrary) (it : Iteration) (given givenPassword : Option String)
    (user rest : List Char) : Prop where
  reported : ∀ password e,
    parseWithCredentials lib it (plainUri user password rest) given givenPassword = .error e →
    ∃ f, failingStep lib it (plainUri user password rest) given givenPassword = some f ∧
      e = f.error ∧ f.Discreet lib rest
  alike : ∀ password password' f,
    failingStep lib it (plainUri user password rest) given givenPassword = some f →
    failingStep lib it (plainUri user password' rest) given givenPassword = some f →
    parseWithCredentials lib it (plainUri user password rest) given givenPassword =
      parseWithCredentials lib it (plainUri user password' rest) given givenPassword

theorem eq_error_of_failingStep {lib : UriLibrary} {it : Iteration} {uri : String}
    {given givenPassword : Option String} {f : Failure}
    (h : failingStep lib it uri given givenPassword = some f) :
    parseWithCredentials lib it uri given givenPassword = .error f.error := by
  have hreports := reports_parse lib it uri given givenPassword
  rw [h] at hreports
  cases hparse : parseWithCredentials lib it uri given givenPassword with
  | ok p =>
    rw [hparse] at hreports
    cases hreports
  | error e =>
    rw [hparse] at hreports
    rw [Option.some.inj hreports]

/-- **No error reveals anything of a password that is not percent-encoded** but the step that fails,
and where. -/
theorem errors_discreet (lib : UriLibrary) (it : Iteration) (given givenPassword : Option String)
    (user rest : List Char) : Secret lib it given givenPassword user rest := by
  refine ⟨fun password e h => ?_, fun password password' f h h' => ?_⟩
  · have hreports := reports_parse lib it (plainUri user password rest) given givenPassword
    rw [h] at hreports
    obtain ⟨f, hf, rfl⟩ := hreports.exists
    exact ⟨f, hf, rfl, discreet_failingStep hf⟩
  · rw [eq_error_of_failingStep h, eq_error_of_failingStep h']

/-! ### A key that is named -/

/-- A failure that names no key but those of which the parser tells the user. -/
def Failure.Accepted : Failure → Prop
  | timeout key | truth key => key ∈ acceptedQueryKeys
  | unknownKey (some _) => False
  | _ => True

/-- The parts of a URI with a key that is not known. -/
def unknownParts : Written where
  username := "u"
  password := "p"
  host := .name "h"
  port := 8563
  schema := none
  query := [("foo", "1")]

/-- The error of an accepted failure does not name another key. -/
theorem ne_error_of_accepted {f : Failure} (h : f.Accepted) :
    unknownParameter false "foo" ≠ f.error := by
  have hfoo : "foo" ∉ acceptedQueryKeys := by decide +kernel
  have hparameter : ∃ message, unknownParameter false "foo" = .invalidParameter "foo" message :=
    ⟨_, rfl⟩
  obtain ⟨message, hmessage⟩ := hparameter
  have hkey {key other : String} (heq : ConnectionError.invalidParameter "foo" message =
      .invalidParameter key other) : key = "foo" := (ConnectionError.invalidParameter.inj heq).1.symm
  rw [hmessage]
  intro heq
  cases f with
  | timeout key => exact hfoo (hkey heq ▸ h)
  | truth key => exact hfoo (hkey heq ▸ h)
  | unknownKey key =>
    cases key with
    | some key => exact h
    | none => exact absurd (hkey heq) (by decide +kernel)
  | transport => exact absurd (hkey heq) (by decide +kernel)
  | hostEmpty => exact absurd (hkey heq) (by decide +kernel)
  | usernameEmpty => exact absurd (hkey heq) (by decide +kernel)
  | portZero => exact absurd (hkey heq) (by decide +kernel)
  | timeoutTooLong => exact absurd (hkey heq) (by decide +kernel)
  | _ => cases heq

/-- **An unknown key of the query is named** where the query holds no `@`, so that the errors are not
made of fixed texts and accepted keys only. -/
theorem unknown_key_is_named :
    plainUri ['u'] ['p'] "h:8563?foo=1".toList = "exasol://u:p@h:8563?foo=1" ∧
    ∃ e, parseWithCredentials asciiLibrary .asStored "exasol://u:p@h:8563?foo=1" none none =
      .error e ∧ ∀ f : Failure, f.Accepted → e ≠ f.error := by
  have huri : unknownParts.uri = "exasol://u:p@h:8563?foo=1" := by decide +kernel
  have hentries : (unknownParts.target none none).params.entries = [⟨"foo", "1"⟩] := by
    decide +kernel
  have hfoo : querySetting asciiLibrary false "foo" "1" = .error (unknownParameter false "foo") :=
    rfl
  have happly : applyQueryParams asciiLibrary (unknownParts.target none none).builder
      (unknownParts.target none none).params.entries false =
        .error (unknownParameter false "foo") := by
    rw [hentries, applyQueryParams_of_error hfoo]
  refine ⟨by decide +kernel, unknownParameter false "foo", ?_, fun f => ne_error_of_accepted⟩
  rw [← huri, parseWithCredentials, parseTarget_uri]
  exact congrArg (· >>= ConnectionBuilder.build) happly

end Exarrow.Uri
