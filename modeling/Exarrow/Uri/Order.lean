import Exarrow.Uri.Written
import Mathlib.Data.List.Perm.Basic

/-!
# The order of the query parameters

The settings of a query are applied in the order in which a map is iterated over, and several keys
ask for one parameter: the last of them wins. Also the first entry that is refused is the one that
is reported.

**When does the order not matter?** (`Exarrow.Uri.orderFree_iff`) If an entry is refused, then all
refused entries must give one error: there is one such entry, or all of them have unknown keys that
are not repeated (`Exarrow.Uri.OneError`). If none is refused, the entries that set the same
parameter must agree (`Exarrow.Uri.Agree`), unless the builder refuses the host, the user, the port
or every connection timeout that is given (`Exarrow.Uri.Rejected`). A URI that sets TLS on and off
is a case in which it matters (`Exarrow.Uri.tls_order_matters`).
-/

namespace Exarrow.Uri

/-! ### What the settings say -/

/-- The parameters that a query can set. -/
inductive Parameter where
  | connectionTimeout
  | queryTimeout
  | idleTimeout
  | useTls
  | validateServerCertificate
  | clientName
  | clientVersion
  | certificateFingerprint
  | transport
  deriving DecidableEq

/-- The parameter of a setting. -/
def Setting.parameter : Setting → Parameter
  | connectionTimeout _ => .connectionTimeout
  | queryTimeout _ => .queryTimeout
  | idleTimeout => .idleTimeout
  | useTls _ => .useTls
  | validateServerCertificate _ => .validateServerCertificate
  | clientName _ => .clientName
  | clientVersion _ => .clientVersion
  | certificateFingerprint _ => .certificateFingerprint
  | transport _ => .transport

/-- A builder holds a setting. -/
def Setting.StoredIn (b : ConnectionBuilder) : Setting → Prop
  | connectionTimeout d => b.connectionTimeout = some d
  | queryTimeout d => b.queryTimeout = some d
  | idleTimeout => True
  | useTls v => b.useTls = some v
  | validateServerCertificate v => b.validateServerCertificate = some v
  | clientName s => b.clientName = some s
  | clientVersion s => b.clientVersion = some s
  | certificateFingerprint s => b.certificateFingerprint = some s
  | transport s => b.transport = some s

/-- The parameters of a connection are as a setting says. -/
def Setting.HoldsIn (p : ConnectionParams) : Setting → Prop
  | connectionTimeout d => p.connectionTimeout = d
  | queryTimeout d => p.queryTimeout = some d
  | idleTimeout => True
  | useTls v => p.useTls = v
  | validateServerCertificate v => p.validateServerCertificate = v
  | clientName s => p.clientName = s
  | clientVersion s => p.clientVersion = s
  | certificateFingerprint s => p.certificateFingerprint = some s
  | transport s => p.transport = some s

/-- The last setting is held. -/
theorem Setting.storedIn_apply (b : ConnectionBuilder) (s : Setting) : s.StoredIn (s.apply b) := by
  cases s <;> simp [StoredIn, apply]

/-- Settings of different parameters can be exchanged, and so can equal ones. -/
theorem Setting.apply_comm {s t : Setting} (h : s.parameter = t.parameter → s = t)
    (b : ConnectionBuilder) : t.apply (s.apply b) = s.apply (t.apply b) := by
  by_cases hst : s.parameter = t.parameter
  · rw [h hst]
  · cases s <;> cases t <;> first | rfl | exact absurd rfl hst

/-- Two settings of a parameter that hold of the same connection are the same. -/
theorem Setting.eq_of_holdsIn {p : ConnectionParams} {s t : Setting}
    (h : s.parameter = t.parameter) (hs : s.HoldsIn p) (ht : t.HoldsIn p) : s = t := by
  cases s <;> cases t <;> cases h <;> simp_all [HoldsIn]

/-- What a builder holds is in the parameters that it builds. -/
theorem Setting.holdsIn_of_build {b : ConnectionBuilder} {p : ConnectionParams} {s : Setting}
    (h : b.build = .ok p) (hs : s.StoredIn b) : s.HoldsIn p := by
  unfold ConnectionBuilder.build at h
  split at h
  · cases h
  · cases h
  · obtain ⟨_, -, hp⟩ := Checked.bind_eq_ok.mp h
    cases hp
    cases s <;> simp_all [StoredIn, HoldsIn]

/-! ### The entries -/

/-- The keys that ask for settings. -/
def implementedKeys : List String :=
  ["timeout", "connection_timeout", "query_timeout", "idle_timeout", "tls", "use_tls", "ssl",
   "validate_certificate", "verify_certificate", "validateservercertificate", "client_name",
   "client_version", "certificate_fingerprint", "certificatefingerprint", "transport"]

section Entries

variable (lib : UriLibrary)

/-- An entry is refused. -/
def Refused (redactKeys : Bool) (entry : Entry) : Prop :=
  ∃ e, querySetting lib redactKeys entry.1 entry.2 = .error e

/-- The setting that an entry asks for, where it is not refused. -/
def settingOf (redactKeys : Bool) (entry : Entry) : Setting :=
  match querySetting lib redactKeys entry.1 entry.2 with
  | .ok s => s
  | .error _ => .idleTimeout

variable {lib} {redactKeys : Bool}

theorem querySetting_eq_ok {entry : Entry} (h : ¬Refused lib redactKeys entry) :
    querySetting lib redactKeys entry.1 entry.2 = .ok (settingOf lib redactKeys entry) := by
  unfold settingOf
  cases hs : querySetting lib redactKeys entry.1 entry.2 with
  | ok s => rfl
  | error e => exact absurd ⟨e, hs⟩ h

/-- An error of a timeout names the key. -/
theorem parseTimeout_error {key value : String} {e : ConnectionError}
    (h : parseTimeout key value = .error e) : ∃ message, e = .invalidParameter key message := by
  unfold parseTimeout at h
  split at h
  · split at h
    · cases h
    · cases h
      exact ⟨_, rfl⟩
  · cases h
    exact ⟨_, rfl⟩

/-- An error of a truth value names the key. -/
theorem parseBool_error {key value : String} {e : ConnectionError}
    (h : parseBool lib key value = .error e) : ∃ message, e = .invalidParameter key message := by
  unfold parseBool at h
  split at h <;> first | cases h; done | skip
  cases h
  exact ⟨_, rfl⟩

/-- An error of a transport names its key. -/
theorem parseTransport_error {value : String} {e : ConnectionError}
    (h : parseTransport lib value = .error e) :
    ∃ message, e = .invalidParameter "transport" message := by
  unfold parseTransport at h
  split at h <;> first | cases h; done | skip
  cases h
  exact ⟨_, rfl⟩

theorem map_eq_error {ε α β : Type} {f : α → β} {x : Except ε α} {e : ε} :
    f <$> x = .error e ↔ x = .error e := by
  constructor
  · intro h
    cases x with
    | ok a => cases h
    | error d =>
      cases h
      rfl
  · rintro rfl
    rfl

/-- **The error of an entry names its key**, unless the key is not known. -/
theorem querySetting_error {key value : String} {e : ConnectionError}
    (h : querySetting lib redactKeys key value = .error e) :
    (key ∈ implementedKeys ∧ ∃ message, e = .invalidParameter key message) ∨
      key ∉ implementedKeys ∧ e = unknownParameter redactKeys key := by
  unfold querySetting at h
  split at h
  case h_16 =>
    cases h
    refine .inr ⟨fun hmem => ?_, rfl⟩
    simp only [implementedKeys, List.mem_cons, List.not_mem_nil, or_false] at hmem
    simp_all
  case h_5 | h_6 | h_7 | h_8 | h_9 | h_10 =>
    exact .inl ⟨by simp [implementedKeys], parseBool_error (map_eq_error.mp h)⟩
  case h_11 | h_12 | h_13 | h_14 => cases h
  case h_15 => exact .inl ⟨by simp [implementedKeys], parseTransport_error (map_eq_error.mp h)⟩
  all_goals exact .inl ⟨by simp [implementedKeys], parseTimeout_error (map_eq_error.mp h)⟩

/-- **Refused entries give one error** only if they have one key, or none of their keys is known or
repeated. -/
theorem key_of_error {key key' value value' : String} {e : ConnectionError}
    (h : querySetting lib redactKeys key value = .error e)
    (h' : querySetting lib redactKeys key' value' = .error e) :
    key = key' ∨ redactKeys = true ∧ key ∉ implementedKeys ∧ key' ∉ implementedKeys := by
  have hredacted (k : String) : ∃ m, unknownParameter true k = .invalidParameter "<redacted>" m :=
    ⟨_, rfl⟩
  have hplain (k : String) : ∃ m, unknownParameter false k = .invalidParameter k m := ⟨_, rfl⟩
  have hunknown : "<redacted>" ∉ implementedKeys := by decide +kernel
  rcases querySetting_error h with ⟨hk, m, rfl⟩ | ⟨hk, rfl⟩
  · rcases querySetting_error h' with ⟨-, m', heq⟩ | ⟨-, heq⟩
    · exact .inl (ConnectionError.invalidParameter.inj heq).1
    · cases redactKeys with
      | true =>
        obtain ⟨m', hm⟩ := hredacted key'
        rw [hm] at heq
        exact absurd ((ConnectionError.invalidParameter.inj heq).1 ▸ hk) hunknown
      | false =>
        obtain ⟨m', hm⟩ := hplain key'
        rw [hm] at heq
        exact .inl (ConnectionError.invalidParameter.inj heq).1
  · cases redactKeys with
    | true =>
      rcases querySetting_error h' with ⟨hk', m', heq⟩ | ⟨hk', -⟩
      · obtain ⟨m, hm⟩ := hredacted key
        rw [hm] at heq
        exact absurd ((ConnectionError.invalidParameter.inj heq).1 ▸ hk') hunknown
      · exact .inr ⟨rfl, hk, hk'⟩
    | false =>
      obtain ⟨m, hm⟩ := hplain key
      rw [hm] at h'
      rcases querySetting_error h' with ⟨-, m', heq⟩ | ⟨-, heq⟩
      · exact .inl (ConnectionError.invalidParameter.inj heq).1
      · obtain ⟨m', hm'⟩ := hplain key'
        rw [hm'] at heq
        exact .inl (ConnectionError.invalidParameter.inj heq).1

/-- Keys that are not known and not repeated give one error. -/
theorem error_of_unknown {key value : String} {e : ConnectionError} (hk : key ∉ implementedKeys)
    (h : querySetting lib true key value = .error e) : e = unknownParameter true "" := by
  rcases querySetting_error h with ⟨hmem, -⟩ | ⟨-, rfl⟩
  · exact absurd hmem hk
  · rfl

/-! ### Applying entries in an order -/

/-- The first entry is refused. -/
theorem applyQueryParams_of_error {b : ConnectionBuilder} {entry : Entry} {entries : List Entry}
    {e : ConnectionError} (h : querySetting lib redactKeys entry.1 entry.2 = .error e) :
    applyQueryParams lib b (entry :: entries) redactKeys = .error e := by
  rw [applyQueryParams, List.foldlM_cons, h]
  rfl

theorem applyQueryParams_cons {b : ConnectionBuilder} {entry : Entry} {entries : List Entry}
    {s : Setting} (h : querySetting lib redactKeys entry.1 entry.2 = .ok s) :
    applyQueryParams lib b (entry :: entries) redactKeys =
      applyQueryParams lib (s.apply b) entries redactKeys := by
  rw [applyQueryParams, List.foldlM_cons, h]
  rfl

/-- Some entry is refused, and every refused entry gives the same error. -/
theorem applyQueryParams_refused {entries : List Entry} {e : ConnectionError}
    (hsome : ∃ entry ∈ entries, Refused lib redactKeys entry)
    (hall : ∀ entry ∈ entries, ∀ d,
      querySetting lib redactKeys entry.1 entry.2 = .error d → d = e) (b : ConnectionBuilder) :
    applyQueryParams lib b entries redactKeys = .error e := by
  induction entries generalizing b with
  | nil =>
    obtain ⟨entry, hmem, -⟩ := hsome
    cases hmem
  | cons entry entries ih =>
    cases hs : querySetting lib redactKeys entry.1 entry.2 with
    | error d => rw [applyQueryParams_of_error hs, hall entry List.mem_cons_self d hs]
    | ok s =>
      rw [applyQueryParams_cons hs]
      refine ih ?_ (fun entry' hmem => hall entry' (List.mem_cons_of_mem _ hmem)) _
      obtain ⟨entry', hmem, d, hd⟩ := hsome
      rcases List.mem_cons.mp hmem with rfl | hmem
      · rw [hs] at hd
        cases hd
      · exact ⟨entry', hmem, d, hd⟩

/-- No entry is refused: the settings are applied one after the other. -/
theorem applyQueryParams_eq {entries : List Entry}
    (h : ∀ entry ∈ entries, ¬Refused lib redactKeys entry) (b : ConnectionBuilder) :
    applyQueryParams lib b entries redactKeys =
      .ok ((entries.map (settingOf lib redactKeys)).foldl Setting.apply b) := by
  induction entries generalizing b with
  | nil => rfl
  | cons entry entries ih =>
    rw [applyQueryParams_cons (querySetting_eq_ok (h entry List.mem_cons_self)), List.map_cons,
      List.foldl_cons]
    exact ih (fun entry' hmem => h entry' (List.mem_cons_of_mem _ hmem)) _

end Entries

/-! ### Applying settings -/

/-- Settings leave alone what stands before the query. -/
structure SameTarget (b c : ConnectionBuilder) : Prop where
  host : b.host = c.host
  port : b.port = c.port
  username : b.username = c.username
  password : b.password = c.password
  schema : b.schema = c.schema

theorem sameTarget_foldl (ss : List Setting) (b : ConnectionBuilder) :
    SameTarget (ss.foldl Setting.apply b) b := by
  induction ss generalizing b with
  | nil => exact ⟨rfl, rfl, rfl, rfl, rfl⟩
  | cons s ss ih =>
    have hs : SameTarget (s.apply b) b := by
      cases s <;> exact ⟨rfl, rfl, rfl, rfl, rfl⟩
    have h := ih (s.apply b)
    exact ⟨h.host.trans hs.host, h.port.trans hs.port, h.username.trans hs.username,
      h.password.trans hs.password, h.schema.trans hs.schema⟩

/-- **The connection timeout that is left** is one of those that were given, if there is one. -/
theorem connectionTimeout_foldl (ss : List Setting) (b : ConnectionBuilder) :
    (∃ d, .connectionTimeout d ∈ ss ∧
      (ss.foldl Setting.apply b).connectionTimeout = some d) ∨
    (∀ d, .connectionTimeout d ∉ ss) ∧
      (ss.foldl Setting.apply b).connectionTimeout = b.connectionTimeout := by
  induction ss using List.reverseRecOn with
  | nil => exact .inr ⟨fun d => List.not_mem_nil, rfl⟩
  | append_singleton ss s ih =>
    rw [List.foldl_append, List.foldl_cons, List.foldl_nil]
    by_cases hs : ∃ d, s = .connectionTimeout d
    · obtain ⟨d, rfl⟩ := hs
      exact .inl ⟨d, List.mem_append_right _ List.mem_cons_self, rfl⟩
    · have hkeep (c : ConnectionBuilder) : (s.apply c).connectionTimeout = c.connectionTimeout := by
        cases s <;> first | rfl | exact absurd ⟨_, rfl⟩ hs
      rw [hkeep]
      rcases ih with ⟨d, hmem, hd⟩ | ⟨hno, hd⟩
      · exact .inl ⟨d, List.mem_append_left _ hmem, hd⟩
      · refine .inr ⟨fun d hmem => ?_, hd⟩
        rcases List.mem_append.mp hmem with hmem | hmem
        · exact hno d hmem
        · exact hs ⟨d, (List.mem_singleton.mp hmem).symm⟩

/-! ### The builder's checks -/

theorem check_eq_ok {host username : String} {port : UInt16} {d : Duration} :
    ConnectionBuilder.check host username port d = .ok () ↔
      host ≠ "" ∧ username ≠ "" ∧ port ≠ 0 ∧ ¬300 < d.secs := by
  unfold ConnectionBuilder.check
  by_cases h1 : host = ""
  · simp [h1]
  · by_cases h2 : username = ""
    · simp [h1, h2]
    · by_cases h3 : port = 0
      · simp [h1, h2, h3]
      · rw [if_neg h1, if_neg h2, if_neg h3]
        by_cases h4 : 300 < d.secs
        · simp [h4]
        · simp [h1, h2, h3, h4]

/-- The check of a connection whose host, user or port is refused does not look at the timeout,
and that of one whose timeouts are all too long does not tell them apart. -/
theorem check_congr {host username : String} {port : UInt16} {d d' : Duration}
    (h : host = "" ∨ username = "" ∨ port = 0 ∨ (300 < d.secs ∧ 300 < d'.secs)) :
    ConnectionBuilder.check host username port d =
        ConnectionBuilder.check host username port d' ∧
      ConnectionBuilder.check host username port d ≠ .ok () := by
  refine ⟨?_, fun hok => ?_⟩
  · unfold ConnectionBuilder.check
    rcases h with h | h | h | ⟨h, h'⟩
    · rw [if_pos h, if_pos h]
    · rw [if_pos h, if_pos h]
    · rw [if_pos h, if_pos h]
    · rw [if_pos h, if_pos h']
  · obtain ⟨h1, h2, h3, h4⟩ := check_eq_ok.mp hok
    rcases h with h | h | h | ⟨h, -⟩
    · exact h1 h
    · exact h2 h
    · exact h3 h
    · exact h4 h

section Build

variable {target : Target} {b : ConnectionBuilder} (h : SameTarget b target.builder)

include h

/-- What is built of a builder that is accepted. -/
theorem build_eq_ok (hok : ConnectionBuilder.check target.host target.username target.port
    (b.connectionTimeout.getD (.fromSecs 30)) = .ok ()) :
    b.build = .ok {
      host := target.host
      port := target.port
      username := target.username
      password := target.password
      schema := target.schema
      connectionTimeout := b.connectionTimeout.getD (.fromSecs 30)
      queryTimeout := b.queryTimeout
      useTls := b.useTls.getD true
      validateServerCertificate := b.validateServerCertificate.getD true
      certificateFingerprint := b.certificateFingerprint
      clientName := b.clientName.getD driverName
      clientVersion := b.clientVersion.getD driverVersion
      transport := b.transport } := by
  have hhost : b.host = some target.host := h.host
  have huser : b.username = some target.username := h.username
  have hport : b.port = some target.port := h.port
  have hpassword : b.password = some target.password := h.password
  have hschema : b.schema = target.schema := h.schema
  unfold ConnectionBuilder.build
  rw [hhost, huser]
  dsimp only
  rw [hport, hpassword, hschema, Option.getD_some, Option.getD_some, hok]
  rfl

theorem build_eq_error {e : ConnectionError}
    (herror : ConnectionBuilder.check target.host target.username target.port
      (b.connectionTimeout.getD (.fromSecs 30)) = .error e) : b.build = .error e := by
  have hhost : b.host = some target.host := h.host
  have huser : b.username = some target.username := h.username
  have hport : b.port = some target.port := h.port
  unfold ConnectionBuilder.build
  rw [hhost, huser]
  dsimp only
  rw [hport, Option.getD_some, herror]
  rfl

end Build

/-! ### When the order does not matter -/

/-- Iterate over one map in a given order. -/
def Iteration.along (params : QueryMap) (entries : List Entry) (h : entries.Perm params.entries) :
    Iteration where
  order params' := if params'.entries = params.entries then entries else params'.entries
  perm params' := by
    split
    · rename_i heq
      rw [heq]
      exact h
    · exact List.Perm.refl _

/-- Iterate over maps in the order in which they are stored. -/
def Iteration.asStored : Iteration where
  order params := params.entries
  perm _ := List.Perm.refl _

theorem Iteration.order_along {params : QueryMap} {entries : List Entry}
    (h : entries.Perm params.entries) : (Iteration.along params entries h).order params = entries :=
  if_pos rfl

section Order

variable (lib : UriLibrary)

/-- **The result of parsing is the same in every order.** -/
def OrderFree (uri : String) (username password : Option String) : Prop :=
  ∀ it it' : Iteration, parseWithCredentials lib it uri username password =
    parseWithCredentials lib it' uri username password

/-- Apply entries in an order, and build. -/
def outcome (target : Target) (entries : List Entry) : Except ConnectionError ConnectionParams := do
  let builder ← applyQueryParams lib target.builder entries target.redactKeys
  builder.build

/-- Some entry asks for a setting. -/
def Asks (target : Target) (s : Setting) : Prop :=
  ∃ entry ∈ target.params.entries, querySetting lib target.redactKeys entry.1 entry.2 = .ok s

/-- The refused entries have one key, or keys that are neither known nor repeated. -/
def OneError (target : Target) : Prop :=
  ∀ entry ∈ target.params.entries, ∀ entry' ∈ target.params.entries,
    Refused lib target.redactKeys entry → Refused lib target.redactKeys entry' →
    entry.1 = entry'.1 ∨
      target.redactKeys = true ∧ entry.1 ∉ implementedKeys ∧ entry'.1 ∉ implementedKeys

/-- The entries that set the same parameter set it to the same value. -/
def Agree (target : Target) : Prop :=
  ∀ s t, Asks lib target s → Asks lib target t → s.parameter = t.parameter → s = t

/-- The host, the user or the port is refused, or every connection timeout that is given. -/
def Rejected (target : Target) : Prop :=
  target.host = "" ∨ target.username = "" ∨ target.port = 0 ∨
    ((∃ d, Asks lib target (.connectionTimeout d)) ∧
      ∀ d, Asks lib target (.connectionTimeout d) → 300 < d.secs)

/-- **The condition** under which the order does not matter. -/
def Settled (target : Target) : Prop :=
  (∃ entry ∈ target.params.entries, Refused lib target.redactKeys entry) ∧ OneError lib target ∨
  (∀ entry ∈ target.params.entries, ¬Refused lib target.redactKeys entry) ∧
    (Rejected lib target ∨ Agree lib target)

variable {lib} {target : Target} {entries entries' : List Entry}

/-- The settings of the entries, in any order, are those that are asked for. -/
theorem mem_settings (hperm : entries.Perm target.params.entries)
    (hno : ∀ entry ∈ target.params.entries, ¬Refused lib target.redactKeys entry) {s : Setting} :
    s ∈ entries.map (settingOf lib target.redactKeys) ↔ Asks lib target s := by
  constructor
  · intro hmem
    obtain ⟨entry, hentry, rfl⟩ := List.mem_map.mp hmem
    have hin := hperm.mem_iff.mp hentry
    exact ⟨entry, hin, querySetting_eq_ok (hno entry hin)⟩
  · rintro ⟨entry, hin, hs⟩
    rw [querySetting_eq_ok (hno entry hin)] at hs
    exact List.mem_map.mpr ⟨entry, hperm.mem_iff.mpr hin, Except.ok.inj hs⟩

theorem outcome_eq (hperm : entries.Perm target.params.entries)
    (hno : ∀ entry ∈ target.params.entries, ¬Refused lib target.redactKeys entry) :
    outcome lib target entries =
      ((entries.map (settingOf lib target.redactKeys)).foldl Setting.apply target.builder).build := by
  rw [outcome, applyQueryParams_eq fun entry hmem => hno entry (hperm.mem_iff.mp hmem)]
  rfl

/-- Refused entries of one error are reported alike in every order. -/
theorem outcome_refused (hperm : entries.Perm target.params.entries)
    (hperm' : entries'.Perm target.params.entries)
    (hsome : ∃ entry ∈ target.params.entries, Refused lib target.redactKeys entry)
    (hone : OneError lib target) : outcome lib target entries = outcome lib target entries' := by
  obtain ⟨first, hfirst, e, he⟩ := hsome
  have hall : ∀ entry ∈ target.params.entries, ∀ d,
      querySetting lib target.redactKeys entry.1 entry.2 = .error d → d = e := by
    intro entry hmem d hd
    rcases hone entry hmem first hfirst ⟨d, hd⟩ ⟨e, he⟩ with hkey | ⟨hredact, hk, hk'⟩
    · -- Two entries of a map under one key are the same.
      obtain ⟨key, value⟩ := entry
      obtain ⟨key', value'⟩ := first
      obtain rfl : key = key' := hkey
      have hvalue := target.params.nodupKeys.eq_of_mk_mem hmem hfirst
      rw [hvalue] at hd
      exact Except.error.inj (hd.symm.trans he)
    · rw [hredact] at hd he
      rw [error_of_unknown hk hd, error_of_unknown hk' he]
  have hresult (l : List Entry) (hl : l.Perm target.params.entries) :
      outcome lib target l = .error e := by
    rw [outcome, applyQueryParams_refused ⟨first, hl.mem_iff.mpr hfirst, e, he⟩
      fun entry hmem => hall entry (hl.mem_iff.mp hmem)]
    rfl
  rw [hresult entries hperm, hresult entries' hperm']

/-- Settings that agree are applied alike in every order. -/
theorem outcome_agree (hperm : entries.Perm target.params.entries)
    (hperm' : entries'.Perm target.params.entries)
    (hno : ∀ entry ∈ target.params.entries, ¬Refused lib target.redactKeys entry)
    (hagree : Agree lib target) : outcome lib target entries = outcome lib target entries' := by
  rw [outcome_eq hperm hno, outcome_eq hperm' hno]
  have hsettings := (hperm.trans hperm'.symm).map (settingOf lib target.redactKeys)
  rw [hsettings.foldl_eq' fun s hs t ht b => ?_]
  exact Setting.apply_comm (hagree s t ((mem_settings hperm hno).mp hs)
    ((mem_settings hperm hno).mp ht)) b

/-- A connection that the builder refuses is refused alike in every order. -/
theorem outcome_rejected (hperm : entries.Perm target.params.entries)
    (hperm' : entries'.Perm target.params.entries)
    (hno : ∀ entry ∈ target.params.entries, ¬Refused lib target.redactKeys entry)
    (hrejected : Rejected lib target) :
    outcome lib target entries = outcome lib target entries' := by
  rw [outcome_eq hperm hno, outcome_eq hperm' hno]
  have hchecks : target.host = "" ∨ target.username = "" ∨ target.port = 0 ∨
      ∀ l : List Entry, l.Perm target.params.entries →
        300 < (((l.map (settingOf lib target.redactKeys)).foldl Setting.apply
          target.builder).connectionTimeout.getD (.fromSecs 30)).secs := by
    rcases hrejected with h | h | h | ⟨⟨d, hd⟩, hlong⟩
    · exact .inl h
    · exact .inr (.inl h)
    · exact .inr (.inr (.inl h))
    · refine .inr (.inr (.inr fun l hl => ?_))
      rcases connectionTimeout_foldl (l.map (settingOf lib target.redactKeys)) target.builder with
        ⟨d', hmem, hd'⟩ | ⟨hnone, -⟩
      · rw [hd', Option.getD_some]
        exact hlong d' ((mem_settings hl hno).mp hmem)
      · exact absurd ((mem_settings hl hno).mpr hd) (hnone d)
  have hboth := check_congr (hchecks.imp_right fun h => h.imp_right fun h => h.imp_right
    fun h => And.intro (h entries hperm) (h entries' hperm'))
  cases hcheck : ConnectionBuilder.check target.host target.username target.port
      (((entries.map (settingOf lib target.redactKeys)).foldl Setting.apply
        target.builder).connectionTimeout.getD (.fromSecs 30)) with
  | ok u => exact absurd hcheck hboth.2
  | error e =>
    rw [build_eq_error (sameTarget_foldl _ _) hcheck,
      build_eq_error (sameTarget_foldl _ _) (hboth.1.symm.trans hcheck)]

/-! ### When it matters -/

/-- An entry can be the first. -/
theorem exists_perm_cons {entry : Entry} (hmem : entry ∈ target.params.entries) :
    ∃ rest, (entry :: rest).Perm target.params.entries :=
  ⟨_, (List.perm_cons_erase hmem).symm⟩

/-- An entry can be the last. -/
theorem exists_perm_concat {entry : Entry} (hmem : entry ∈ target.params.entries) :
    ∃ rest, (rest ++ [entry]).Perm target.params.entries :=
  ⟨_, (List.perm_append_singleton _ _).trans (List.perm_cons_erase hmem).symm⟩

/-- If the order does not matter, all refused entries give one error. -/
theorem oneError_of_free (hfree : ∀ l l' : List Entry, l.Perm target.params.entries →
    l'.Perm target.params.entries → outcome lib target l = outcome lib target l') :
    OneError lib target := by
  rintro entry hmem entry' hmem' ⟨e, he⟩ ⟨e', he'⟩
  obtain ⟨rest, hrest⟩ := exists_perm_cons hmem
  obtain ⟨rest', hrest'⟩ := exists_perm_cons hmem'
  have h := hfree _ _ hrest hrest'
  rw [outcome, outcome, applyQueryParams_of_error he, applyQueryParams_of_error he'] at h
  rw [← Except.error.inj h] at he'
  exact key_of_error he he'

/-- A connection that is not refused can be built in some order. -/
theorem exists_outcome (hno : ∀ entry ∈ target.params.entries, ¬Refused lib target.redactKeys entry)
    (haccepted : ¬Rejected lib target) :
    ∃ l p, l.Perm target.params.entries ∧ outcome lib target l = .ok p := by
  simp only [Rejected, not_or, not_and, not_forall] at haccepted
  obtain ⟨hhost, huser, hport, htimeout⟩ := haccepted
  suffices h : ∃ l : List Entry, l.Perm target.params.entries ∧
      ¬300 < (((l.map (settingOf lib target.redactKeys)).foldl Setting.apply
        target.builder).connectionTimeout.getD (.fromSecs 30)).secs by
    obtain ⟨l, hl, hshort⟩ := h
    exact ⟨l, _, hl, (outcome_eq hl hno).trans (build_eq_ok (sameTarget_foldl _ _)
      (check_eq_ok.mpr ⟨hhost, huser, hport, hshort⟩))⟩
  by_cases hgiven : ∃ d, Asks lib target (.connectionTimeout d)
  · obtain ⟨d, ⟨entry, hmem, hd⟩, hshort⟩ := htimeout hgiven
    obtain ⟨rest, hrest⟩ := exists_perm_concat hmem
    have hlast : settingOf lib target.redactKeys entry = .connectionTimeout d := by
      rw [querySetting_eq_ok (hno entry hmem)] at hd
      exact Except.ok.inj hd
    refine ⟨_, hrest, ?_⟩
    rw [List.map_append, List.map_singleton, List.foldl_append, hlast]
    exact hshort
  · refine ⟨_, List.Perm.refl _, ?_⟩
    rcases connectionTimeout_foldl (target.params.entries.map (settingOf lib target.redactKeys))
      target.builder with ⟨d, hmem, -⟩ | ⟨-, hd⟩
    · exact absurd ⟨d, (mem_settings (List.Perm.refl _) hno).mp hmem⟩ hgiven
    · have hdefault : ¬(300 : UInt64) < 30 := by decide
      rw [hd]
      exact hdefault

/-- If the order does not matter, the entries of one parameter agree. -/
theorem agree_of_free (hfree : ∀ l l' : List Entry, l.Perm target.params.entries →
    l'.Perm target.params.entries → outcome lib target l = outcome lib target l')
    (hno : ∀ entry ∈ target.params.entries, ¬Refused lib target.redactKeys entry)
    (haccepted : ¬Rejected lib target) : Agree lib target := by
  obtain ⟨l, p, hl, hp⟩ := exists_outcome hno haccepted
  -- Every setting can be the last one, so that each of them holds in the one result there is.
  have hholds (s : Setting) (hs : Asks lib target s) : s.HoldsIn p := by
    obtain ⟨entry, hmem, hs⟩ := hs
    obtain ⟨rest, hrest⟩ := exists_perm_concat hmem
    have hlast : settingOf lib target.redactKeys entry = s := by
      rw [querySetting_eq_ok (hno entry hmem)] at hs
      exact Except.ok.inj hs
    have hbuild := (hfree _ _ hrest hl).trans hp
    rw [outcome_eq hrest hno, List.map_append, List.map_singleton, List.foldl_append, hlast] at hbuild
    exact Setting.holdsIn_of_build hbuild (Setting.storedIn_apply _ s)
  intro s t hs ht hst
  exact Setting.eq_of_holdsIn hst (hholds s hs) (hholds t ht)

/-- **The outcome is the same in every order exactly when the entries are settled.** -/
theorem outcome_free_iff : (∀ l l' : List Entry, l.Perm target.params.entries →
    l'.Perm target.params.entries → outcome lib target l = outcome lib target l') ↔
      Settled lib target := by
  constructor
  · intro hfree
    by_cases hsome : ∃ entry ∈ target.params.entries, Refused lib target.redactKeys entry
    · exact .inl ⟨hsome, oneError_of_free hfree⟩
    · have hno : ∀ entry ∈ target.params.entries, ¬Refused lib target.redactKeys entry :=
        fun entry hmem hrefused => hsome ⟨entry, hmem, hrefused⟩
      by_cases hrejected : Rejected lib target
      · exact .inr ⟨hno, .inl hrejected⟩
      · exact .inr ⟨hno, .inr (agree_of_free hfree hno hrejected)⟩
  · rintro (⟨hsome, hone⟩ | ⟨hno, hrejected | hagree⟩) l l' hl hl'
    · exact outcome_refused hl hl' hsome hone
    · exact outcome_rejected hl hl' hno hrejected
    · exact outcome_agree hl hl' hno hagree

/-- Where the settings are reached, they decide. -/
theorem orderFree_of_target {uri : String} {username password : Option String}
    (htarget : parseTarget lib uri username password = .ok target) :
    OrderFree lib uri username password ↔ Settled lib target := by
  have hparse (it : Iteration) : parseWithCredentials lib it uri username password =
      outcome lib target (it.order target.params) := by
    rw [parseWithCredentials, htarget]
    rfl
  simp only [OrderFree, hparse]
  rw [← outcome_free_iff]
  refine ⟨fun h l l' hl hl' => ?_, fun h it it' => h _ _ (it.perm _) (it'.perm _)⟩
  have halong := h (.along target.params l hl) (.along target.params l' hl')
  rwa [Iteration.order_along, Iteration.order_along] at halong

/-- **Parsing does not depend on the order of the query parameters exactly when they are
settled**, or the parser stops before it applies them. -/
theorem orderFree_iff (lib : UriLibrary) (uri : String) (username password : Option String) :
    OrderFree lib uri username password ↔
      ∀ target, parseTarget lib uri username password = .ok target → Settled lib target := by
  cases htarget : parseTarget lib uri username password with
  | error e =>
    refine ⟨fun _ target h => (by cases h), fun _ it it' => ?_⟩
    rw [parseWithCredentials, parseWithCredentials, htarget]
    rfl
  | ok target =>
    rw [orderFree_of_target htarget]
    simp only [Except.ok.injEq, forall_eq']

end Order

/-! ### A URI that sets TLS on and off -/

/-- The parts of the URI. -/
def onAndOff : Written where
  username := "u"
  password := "p"
  host := .name "h"
  port := 8563
  schema := none
  query := [("tls", "true"), ("use_tls", "false")]

theorem uri_onAndOff : onAndOff.uri = "exasol://u:p@h:8563?tls=true&use_tls=false" := by
  decide +kernel

theorem entries_onAndOff : (onAndOff.target none none).params.entries =
    [⟨"use_tls", "false"⟩, ⟨"tls", "true"⟩] := by
  decide +kernel

/-- **Whether TLS is used depends on the order** for `tls=true&use_tls=false`. -/
theorem tls_order_matters :
    ¬OrderFree asciiLibrary "exasol://u:p@h:8563?tls=true&use_tls=false" none none := by
  have hon : querySetting asciiLibrary false "tls" "true" = .ok (.useTls true) := by
    decide +kernel
  have hoff : querySetting asciiLibrary false "use_tls" "false" = .ok (.useTls false) := by
    decide +kernel
  rw [← uri_onAndOff, orderFree_of_target (parseTarget_uri asciiLibrary onAndOff none none)]
  have hmem (entry : Entry) : entry ∈ (onAndOff.target none none).params.entries ↔
      entry = ⟨"use_tls", "false"⟩ ∨ entry = ⟨"tls", "true"⟩ := by
    rw [entries_onAndOff, List.mem_pair]
  have hasks : Asks asciiLibrary (onAndOff.target none none) (.useTls true) :=
    ⟨_, (hmem _).mpr (.inr rfl), hon⟩
  have hasks' : Asks asciiLibrary (onAndOff.target none none) (.useTls false) :=
    ⟨_, (hmem _).mpr (.inl rfl), hoff⟩
  rintro (⟨⟨entry, hentry, e, he⟩, -⟩ | ⟨-, hrejected | hagree⟩)
  · rcases (hmem entry).mp hentry with rfl | rfl
    · exact absurd (hoff.symm.trans he) (by simp)
    · exact absurd (hon.symm.trans he) (by simp)
  · rcases hrejected with h | h | h | ⟨⟨d, entry, hentry, hd⟩, -⟩
    · exact absurd h (by decide +kernel)
    · exact absurd h (by decide +kernel)
    · exact absurd h (by decide +kernel)
    · rcases (hmem entry).mp hentry with rfl | rfl
      · exact absurd (hoff.symm.trans hd) (by simp)
      · exact absurd (hon.symm.trans hd) (by simp)
  · exact absurd (hagree _ _ hasks hasks' rfl) (by decide)

end Exarrow.Uri
