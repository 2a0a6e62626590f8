import Exarrow.Uri.Order

/-!
# The parts of a URI come back

A URI is written from its parts (`Exarrow.Uri.Components`), with settings that the parser accepts,
and parsed again, perhaps with credentials beside it. Do the parts come back, each credential
replaced by the one that is given, and do the two addresses that are made of the result, the one for
a socket (`Exarrow.TransportParams.socketAddress`) and the URL of the WebSocket
(`Exarrow.TransportParams.toWebsocketUrl`), name the host and the port?

**They do exactly when the host is a name of unreserved characters and so is the schema, if there is
one** (`Exarrow.Uri.roundTrips_iff`). User, password and settings may hold any characters. But a
host and a schema are not decoded, and the brackets of an IPv6 address are missing from the URL.
-/

namespace Exarrow

open Text Numeral Percent

/-! ### Addresses -/

/-- The address that a socket is connected to. -/
def TransportParams.socketAddress (params : TransportParams) : List Char :=
  params.host.toList ++ ':' :: natText params.port.toNat

/-- The URL of the WebSocket. -/
def TransportParams.toWebsocketUrl (params : TransportParams) : List Char :=
  (if params.useTls then ['w', 's', 's'] else ['w', 's']) ++
    ':' :: '/' :: '/' :: (params.host.toList ++ ':' :: natText params.port.toNat)

namespace Uri

/-- The host and the port of an authority: an address in brackets or a name without a colon, and
digits behind the next colon. -/
def readAuthority (s : List Char) : Option (List Char × ℕ) :=
  match s with
  | '[' :: rest =>
    match splitOnce ']' rest with
    | some (host, ':' :: port) => (Prod.mk host) <$> parseNat? port
    | _ => none
  | _ =>
    match splitOnce ':' s with
    | some (host, port) => (Prod.mk host) <$> parseNat? port
    | none => none

/-- The host and the port that the URL of a WebSocket names, if it is one. -/
def readWebsocketUrl (s : List Char) : Option (List Char × ℕ) :=
  match s with
  | 'w' :: 's' :: 's' :: ':' :: '/' :: '/' :: rest => readAuthority rest
  | 'w' :: 's' :: ':' :: '/' :: '/' :: rest => readAuthority rest
  | _ => none

/-- The host and the port that the address of a socket names: without brackets, the port is behind
the last colon. -/
def readSocketAddress (s : List Char) : Option (List Char × ℕ) :=
  match s with
  | '[' :: _ => readAuthority s
  | _ =>
    match rsplitOnce ':' s with
    | some (host, port) => (Prod.mk host) <$> parseUnsigned? port
    | none => none

/-- Both addresses name a host and a port. -/
structure Names (params : TransportParams) (host : String) (port : UInt16) : Prop where
  socket : readSocketAddress params.socketAddress = some (host.toList, port.toNat)
  websocket : readWebsocketUrl params.toWebsocketUrl = some (host.toList, port.toNat)

/-! ### Components -/

/-- The connection timeout of a setting. -/
def Setting.connectionTimeout? : Setting → Option Duration
  | connectionTimeout d => some d
  | _ => none

/-- The query timeout of a setting. -/
def Setting.queryTimeout? : Setting → Option Duration
  | queryTimeout d => some d
  | _ => none

/-- Whether a setting asks for TLS. -/
def Setting.useTls? : Setting → Option Bool
  | useTls b => some b
  | _ => none

/-- Whether a setting asks for certificates to be checked. -/
def Setting.validateServerCertificate? : Setting → Option Bool
  | validateServerCertificate b => some b
  | _ => none

/-- The fingerprint of a setting. -/
def Setting.certificateFingerprint? : Setting → Option String
  | certificateFingerprint s => some s
  | _ => none

/-- The client name of a setting. -/
def Setting.clientName? : Setting → Option String
  | clientName s => some s
  | _ => none

/-- The client version of a setting. -/
def Setting.clientVersion? : Setting → Option String
  | clientVersion s => some s
  | _ => none

/-- The transport of a setting. -/
def Setting.transport? : Setting → Option String
  | transport s => some s
  | _ => none

section Components

variable {lib : UriLibrary}

/-- The settings of a written query. -/
def Written.settings (lib : UriLibrary) (w : Written) : List Setting :=
  w.query.map fun entry => settingOf lib false ⟨entry.1, entry.2⟩

/-- **The parts of a URI, with settings that the parser accepts.** -/
structure Components (lib : UriLibrary) extends Written where
  username_ne : username ≠ ""
  password_ne : password ≠ ""
  host_ne : host.text ≠ ""
  port_ne : port ≠ 0
  /-- The keys of the query differ. -/
  keys : (query.map Prod.fst).Nodup
  /-- Every entry asks for a setting. -/
  accepted : ∀ entry ∈ query, ¬Refused lib false ⟨entry.1, entry.2⟩
  /-- One parameter is set to one value. -/
  agree : ∀ s ∈ toWritten.settings lib, ∀ t ∈ toWritten.settings lib,
    s.parameter = t.parameter → s = t
  /-- The builder accepts the timeout. -/
  short : ∀ d, .connectionTimeout d ∈ toWritten.settings lib → ¬300 < d.secs

namespace Components

variable (w : Components lib)

/-- The settings. -/
def settings : List Setting := w.toWritten.settings lib

/-- **The parameters that the parts stand for**, when credentials are given. -/
def params (username password : Option String) : ConnectionParams where
  host := w.host.text
  port := w.port
  username := username.getD w.username
  password := password.getD w.password
  schema := w.schema
  connectionTimeout := (w.settings.findSome? Setting.connectionTimeout?).getD (.fromSecs 30)
  queryTimeout := w.settings.findSome? Setting.queryTimeout?
  useTls := (w.settings.findSome? Setting.useTls?).getD true
  validateServerCertificate :=
    (w.settings.findSome? Setting.validateServerCertificate?).getD true
  certificateFingerprint := w.settings.findSome? Setting.certificateFingerprint?
  clientName := (w.settings.findSome? Setting.clientName?).getD driverName
  clientVersion := (w.settings.findSome? Setting.clientVersion?).getD driverVersion
  transport := w.settings.findSome? Setting.transport?

/-- **The parts come back**, with the credentials that are given in the place of those of the URI,
and the addresses name the host and the port. -/
structure RoundTrips : Prop where
  parsed : ∀ it username password, username ≠ some "" →
    parseWithCredentials lib it w.uri username password = .ok (w.params username password)
  named : ∀ username password,
    Names (w.params username password).toTransport w.host.text w.port

/-- **The condition**: the host is a name of unreserved characters, and so is the schema. -/
structure Untouched : Prop where
  host : ∃ s, w.host = .name s ∧ ∀ a ∈ s.toList, isUnreserved a = true
  schema : ∀ s, w.schema = some s → s ≠ "" ∧ ∀ a ∈ s.toList, isUnreserved a = true

/-! ### The settings of a written query -/

/-- The entries of a query. -/
def entries : List Entry := w.query.map fun entry => ⟨entry.1, entry.2⟩

/-- A query whose keys differ is a map of its entries. -/
theorem perm_foldl_insert (query : List (String × String)) (params : QueryMap)
    (hnodup : (query.map Prod.fst).Nodup) (hfresh : ∀ entry ∈ query, entry.1 ∉ params) :
    (query.foldl (fun params entry => params.insert entry.1 entry.2) params).entries.Perm
      ((query.map fun entry => (⟨entry.1, entry.2⟩ : Entry)) ++ params.entries) := by
  induction query generalizing params with
  | nil => exact List.Perm.refl _
  | cons entry query ih =>
    rw [List.map_cons, List.nodup_cons] at hnodup
    have hnot : entry.1 ∉ params := hfresh entry List.mem_cons_self
    rw [List.foldl_cons, List.map_cons, List.cons_append]
    refine (ih _ hnodup.2 fun entry' hmem => ?_).trans ?_
    · rw [AList.mem_insert, not_or]
      refine ⟨?_, hfresh entry' (List.mem_cons_of_mem _ hmem)⟩
      intro heq
      exact hnodup.1 (heq ▸ List.mem_map_of_mem hmem)
    · rw [AList.entries_insert_of_notMem hnot]
      exact List.perm_middle

/-- The keys of the credentials ask for no settings. -/
theorem refused_of_credential {key value : String}
    (h : key = "user" ∨ key = "username" ∨ key = "password" ∨ key = "pass") :
    Refused lib false ⟨key, value⟩ := by
  rcases h with rfl | rfl | rfl | rfl
  all_goals exact ⟨_, rfl⟩

theorem erase_of_notMem {key : String} {params : QueryMap} (h : key ∉ params) :
    params.erase key = params := AList.ext (List.kerase_of_notMem_keys h)

/-- **The parser finds the entries of the query**, in some order. -/
theorem perm_entries (username password : Option String) :
    (w.target username password).params.entries.Perm w.entries := by
  have hperm : w.toWritten.params.entries.Perm w.entries := by
    have h := perm_foldl_insert w.query ∅ w.keys fun _ _ => AList.notMem_empty _
    rwa [AList.empty_entries, List.append_nil] at h
  have hno (key : String)
      (hkey : key = "user" ∨ key = "username" ∨ key = "password" ∨ key = "pass") :
      key ∉ w.toWritten.params := by
    intro hmem
    obtain ⟨value, hin⟩ := List.exists_of_mem_keys (AList.mem_keys.mp hmem)
    obtain ⟨entry, hentry, heq⟩ := List.mem_map.mp (hperm.mem_iff.mp hin)
    obtain ⟨rfl, hvalue⟩ := Sigma.mk.inj heq
    obtain rfl := eq_of_heq hvalue
    exact w.accepted entry hentry (refused_of_credential hkey)
  have hparams : withoutCredentials w.toWritten.params = w.toWritten.params := by
    unfold withoutCredentials
    rw [erase_of_notMem (hno "user" (.inl rfl)),
      erase_of_notMem (hno "username" (.inr (.inl rfl))),
      erase_of_notMem (hno "password" (.inr (.inr (.inl rfl)))),
      erase_of_notMem (hno "pass" (.inr (.inr (.inr rfl))))]
  change (withoutCredentials w.toWritten.params).entries.Perm w.entries
  rw [hparams]
  exact hperm

/-- No entry that the parser finds is refused. -/
theorem not_refused (username password : Option String) :
    ∀ entry ∈ (w.target username password).params.entries, ¬Refused lib false entry := by
  intro entry hmem
  obtain ⟨pair, hpair, rfl⟩ := List.mem_map.mp ((w.perm_entries _ _).mem_iff.mp hmem)
  exact w.accepted pair hpair

/-! ### What is built -/

/-- A field that settings can set is, after all of them, as the first one says in the order in
which the last is applied first. -/
theorem field_foldr {α : Type} (field : ConnectionBuilder → Option α) (get : Setting → Option α)
    (h : ∀ b s, field (s.apply b) = (get s).or (field b)) (ss : List Setting)
    (b : ConnectionBuilder) :
    field (ss.foldr (fun s b => s.apply b) b) = (ss.findSome? get).or (field b) := by
  induction ss with
  | nil => rfl
  | cons s ss ih =>
    rw [List.foldr_cons, h, ih, List.findSome?_cons]
    cases get s <;> rfl

/-- The connection timeout that is left is not too long. -/
theorem short_findSome? : ¬300 < ((w.settings.findSome? Setting.connectionTimeout?).getD
    (.fromSecs 30)).secs := by
  cases h : w.settings.findSome? Setting.connectionTimeout? with
  | none =>
    have hdefault : ¬(300 : UInt64) < 30 := by decide
    exact hdefault
  | some d =>
    obtain ⟨s, hmem, hs⟩ := List.exists_of_findSome?_eq_some h
    cases s <;> cases hs
    exact w.short _ hmem

/-- The host is not empty in the URI. -/
theorem read_ne : String.ofList w.host.read ≠ "" := by
  intro hread
  have hnil : w.host.read = [] := by
    rw [← String.toList_ofList (l := w.host.read), hread]
    rfl
  have hne := w.host_ne
  cases hhost : w.host with
  | name s =>
    rw [hhost] at hnil hne
    exact hne (String.toList_eq_nil_iff.mp (encode_eq_nil.mp hnil))
  | ipv6 address =>
    rw [hhost] at hnil hne
    exact hne (String.toList_eq_nil_iff.mp hnil)

/-- **What the parser makes of the parts**: all of them come back but for the host and the schema,
which stay as they were written. -/
theorem parse_uri (it : Iteration) (username password : Option String)
    (hgiven : username ≠ some "") :
    parseWithCredentials lib it w.uri username password =
      .ok { w.params username password with
        host := String.ofList w.host.read
        schema := (w.target username password).schema } := by
  have hno := w.not_refused username password
  have hreverse : w.entries.reverse.Perm (w.target username password).params.entries :=
    (List.reverse_perm _).trans (w.perm_entries username password).symm
  have hagree : Agree lib (w.target username password) := by
    have hmem (s : Setting) : Asks lib (w.target username password) s ↔ s ∈ w.settings := by
      rw [← mem_settings (w.perm_entries username password).symm hno]
      change s ∈ w.entries.map (settingOf lib false) ↔ _
      rw [entries, List.map_map]
      rfl
    intro s t hs ht
    exact w.agree s ((hmem s).mp hs) t ((hmem t).mp ht)
  have hfold : (w.entries.reverse.map (settingOf lib false)).foldl Setting.apply
      (w.target username password).builder =
        w.settings.foldr (fun s b => s.apply b) (w.target username password).builder := by
    rw [List.map_reverse, List.foldl_reverse, entries, List.map_map]
    rfl
  have hparse : parseWithCredentials lib it w.uri username password =
      (w.settings.foldr (fun s b => s.apply b) (w.target username password).builder).build := by
    rw [parseWithCredentials, parseTarget_uri, ← hfold]
    exact (outcome_agree (it.perm _) hreverse hno hagree).trans (outcome_eq hreverse hno)
  have hsame : SameTarget (w.settings.foldr (fun s b => s.apply b)
      (w.target username password).builder) (w.target username password).builder := by
    rw [← hfold]
    exact sameTarget_foldl _ _
  have hfield {α : Type} (field : ConnectionBuilder → Option α) (get : Setting → Option α)
      (h : ∀ b s, field (s.apply b) = (get s).or (field b))
      (hnone : field (w.target username password).builder = none) :
      field (w.settings.foldr (fun s b => s.apply b) (w.target username password).builder) =
        w.settings.findSome? get := by
    rw [field_foldr field get h, hnone, Option.or_none]
  generalize hb : w.settings.foldr (fun s b => s.apply b) (w.target username password).builder = b
    at hparse hsame hfield
  have hcheck : ConnectionBuilder.check (w.target username password).host
      (w.target username password).username (w.target username password).port
      (b.connectionTimeout.getD (.fromSecs 30)) = .ok () := by
    refine check_eq_ok.mpr ⟨w.read_ne, ?_, w.port_ne, ?_⟩
    · intro huser
      cases husername : username with
      | none =>
        rw [husername] at huser
        exact w.username_ne huser
      | some given =>
        rw [husername] at huser
        exact hgiven (husername.trans (congrArg some huser))
    · rw [hfield (·.connectionTimeout) Setting.connectionTimeout? (fun b s => by cases s <;> rfl) rfl]
      exact w.short_findSome?
  rw [hparse, build_eq_ok hsame hcheck,
    hfield (·.connectionTimeout) Setting.connectionTimeout? (fun b s => by cases s <;> rfl) rfl,
    hfield (·.queryTimeout) Setting.queryTimeout? (fun b s => by cases s <;> rfl) rfl,
    hfield (·.useTls) Setting.useTls? (fun b s => by cases s <;> rfl) rfl,
    hfield (·.validateServerCertificate) Setting.validateServerCertificate?
      (fun b s => by cases s <;> rfl) rfl,
    hfield (·.certificateFingerprint) Setting.certificateFingerprint?
      (fun b s => by cases s <;> rfl) rfl,
    hfield (·.clientName) Setting.clientName? (fun b s => by cases s <;> rfl) rfl,
    hfield (·.clientVersion) Setting.clientVersion? (fun b s => by cases s <;> rfl) rfl,
    hfield (·.transport) Setting.transport? (fun b s => by cases s <;> rfl) rfl]
  rfl

/-! ### The addresses -/

/-- A name without a colon, and a port, are read from an authority. -/
theorem readAuthority_address {host : List Char} (hcolon : ':' ∉ host) (hopen : '[' ∉ host)
    (port : ℕ) : readAuthority (host ++ ':' :: natText port) = some (host, port) := by
  unfold readAuthority
  split
  · rename_i rest heq
    exact absurd heq (append_ne_cons hopen (by decide))
  · rw [splitOnce_append hcolon]
    simp only [parseNat?_natText]
    rfl

/-- An authority with more than one colon and no brackets names nothing. -/
theorem readAuthority_colons {host : List Char} (hcolon : ':' ∈ host) (hopen : '[' ∉ host)
    (port : List Char) : readAuthority (host ++ ':' :: port) = none := by
  obtain ⟨before, after, rfl, hbefore⟩ : ∃ x y, host = x ++ ':' :: y ∧ ':' ∉ x := by
    cases hsplit : splitOnce ':' host with
    | none => exact absurd hcolon (splitOnce_eq_none_iff.mp hsplit)
    | some parts => exact ⟨parts.1, parts.2, splitOnce_eq_some.mp hsplit⟩
  unfold readAuthority
  split
  · rename_i rest heq
    exact absurd heq (append_ne_cons hopen (by decide))
  · rw [List.append_assoc, List.cons_append, splitOnce_append hbefore]
    have hdigits : parseNat? (after ++ ':' :: port) = none := by
      refine if_neg fun h => ?_
      exact absurd (h.2 ':' (List.mem_append_right _ List.mem_cons_self)) (by decide)
    simp only [hdigits]
    rfl

theorem readSocketAddress_address {host : List Char} (hopen : '[' ∉ host) (port : UInt16) :
    readSocketAddress (host ++ ':' :: natText port.toNat) = some (host, port.toNat) := by
  have hport : ':' ∉ natText port.toNat := (plain_natText _).notMem rfl (by decide)
  unfold readSocketAddress
  split
  · rename_i rest heq
    exact absurd heq (append_ne_cons hopen (by decide))
  · rw [rsplitOnce_append _ hport]
    simp only [parseUnsigned?_natText]
    rfl

/-- The URL is read behind its scheme. -/
theorem readWebsocketUrl_toWebsocketUrl (params : TransportParams) :
    readWebsocketUrl params.toWebsocketUrl =
      readAuthority (params.host.toList ++ ':' :: natText params.port.toNat) := by
  unfold TransportParams.toWebsocketUrl
  cases params.useTls <;> rfl

/-! ### When the parts come back -/

theorem toList_ofList_eq {s : String} {t : List Char} (h : s = String.ofList t) : s.toList = t := by
  rw [h, String.toList_ofList]

theorem untouched_of_roundTrips (h : w.RoundTrips) : w.Untouched := by
  have hparams := (h.parsed .asStored none none (by simp)).symm.trans
    (w.parse_uri .asStored none none (by simp))
  have hhost : w.host.text = String.ofList w.host.read :=
    congrArg ConnectionParams.host (Except.ok.inj hparams)
  have hschema : w.schema = (w.target none none).schema :=
    congrArg ConnectionParams.schema (Except.ok.inj hparams)
  refine ⟨?_, fun s hs => ?_⟩
  · cases hkind : w.host with
    | name s =>
      rw [hkind] at hhost
      exact ⟨s, rfl, encode_eq_self_iff.mp (toList_ofList_eq hhost).symm⟩
    | ipv6 address =>
      -- The URL holds the colons of the address without its brackets.
      have hurl := (h.named none none).websocket
      rw [readWebsocketUrl_toWebsocketUrl] at hurl
      have htext : (w.params none none).toTransport.host = address.text := by
        change w.host.text = _
        rw [hkind]
        rfl
      have hopen : '[' ∉ address.text.toList := fun hmem =>
        absurd (address.chars _ hmem) (by decide)
      rw [htext, readAuthority_colons address.colon hopen] at hurl
      cases hurl
  · rw [hs] at hschema
    change some s = (w.schema.bind fun s =>
      if s = "" then none else some (String.ofList (encode s.toList))) at hschema
    rw [hs, Option.bind_some] at hschema
    by_cases hempty : s = ""
    · rw [if_pos hempty] at hschema
      cases hschema
    · rw [if_neg hempty] at hschema
      exact ⟨hempty, encode_eq_self_iff.mp (toList_ofList_eq (Option.some.inj hschema)).symm⟩

theorem roundTrips_of_untouched (h : w.Untouched) : w.RoundTrips := by
  obtain ⟨s, hhost, hplain⟩ := h.host
  have hread : String.ofList w.host.read = w.host.text := by
    rw [hhost]
    change String.ofList (encode s.toList) = s
    rw [encode_eq_self_iff.mpr hplain, String.ofList_toList]
  have hschema (username password : Option String) :
      (w.target username password).schema = w.schema := by
    change (w.schema.bind fun s =>
      if s = "" then none else some (String.ofList (encode s.toList))) = _
    cases hs : w.schema with
    | none => rfl
    | some schema =>
      obtain ⟨hne, hunreserved⟩ := h.schema schema hs
      rw [Option.bind_some, if_neg hne, encode_eq_self_iff.mpr hunreserved, String.ofList_toList]
  have hno {a : Char} (ha : isUnreserved a = false) : a ∉ w.host.text.toList := by
    intro hmem
    rw [hhost] at hmem
    exact Bool.false_ne_true (ha.symm.trans (hplain a hmem))
  refine ⟨fun it username password hgiven => ?_, fun username password => ⟨?_, ?_⟩⟩
  · rw [w.parse_uri it username password hgiven, hread, hschema]
    rfl
  · exact readSocketAddress_address (hno rfl) w.port
  · rw [readWebsocketUrl_toWebsocketUrl]
    exact readAuthority_address (hno rfl) (hno rfl) _

/-- **The parts of a URI come back exactly when the host is a name of unreserved characters and the
schema, if there is one, is of unreserved characters.** -/
theorem roundTrips_iff {lib : UriLibrary} (w : Components lib) : w.RoundTrips ↔ w.Untouched :=
  ⟨w.untouched_of_roundTrips, w.roundTrips_of_untouched⟩

end Components

end Components

/-- The parts of a URI whose schema has a space in its name. -/
def spacedSchema : Written where
  username := "sys"
  password := "exasol"
  host := .name "db"
  port := 8563
  schema := some "my schema"
  query := []

/-- **A schema is not decoded**: the parts of `exasol://sys:exasol@db:8563/my%20schema` do not come
back. -/
theorem schema_stays_encoded : ∃ w : Components asciiLibrary,
    w.toWritten = spacedSchema ∧
      w.uri = "exasol://sys:exasol@db:8563/my%20schema" ∧ ¬w.RoundTrips := by
  refine ⟨⟨spacedSchema, by decide +kernel, by decide +kernel, by decide +kernel, by decide +kernel,
    List.nodup_nil, fun _ hmem => absurd hmem List.not_mem_nil,
    fun _ hmem => absurd hmem List.not_mem_nil, fun _ hmem => absurd hmem List.not_mem_nil⟩,
    rfl, by decide +kernel, fun h => ?_⟩
  have hspace := ((Components.untouched_of_roundTrips _ h).schema "my schema" rfl).2 ' '
    (by decide +kernel)
  exact absurd hspace (by decide +kernel)

end Uri

end Exarrow
