import Exarrow.Uri.Parse

/-!
# Written connection URIs

The URI of a user, a password, a host, a port, a schema and a query
(`Exarrow.Uri.Written.uri`): each part is percent-encoded, and the separators stand between them.
An IPv6 address is written in brackets, as it is.

**The parser finds every part where it was put** (`Exarrow.Uri.parseTarget_uri`), whatever
characters the parts hold, since no separator is left in an encoded text. The user, the password
and the query are decoded again; the host and the schema stay encoded.
-/

namespace Exarrow.Uri

open Text Numeral Percent

/-! ### The parts -/

/-- The characters of an IPv6 address. -/
def isAddressChar (a : Char) : Bool :=
  a.isDigit || ('a' ≤ a && a ≤ 'f') || ('A' ≤ a && a ≤ 'F') || a = ':' || a = '.'

/-- An IPv6 address. -/
structure Ipv6 where
  text : String
  chars : ∀ a ∈ text.toList, isAddressChar a = true
  colon : ':' ∈ text.toList

/-- A host: a name or an IPv4 address, or an IPv6 address. -/
inductive Host where
  | name (s : String)
  | ipv6 (address : Ipv6)

/-- The text of a host. -/
def Host.text : Host → String
  | name s => s
  | ipv6 address => address.text

/-- A host as it is written. -/
def Host.written : Host → List Char
  | name s => encode s.toList
  | ipv6 address => '[' :: address.text.toList ++ [']']

/-- What the parser takes for the host. -/
def Host.read : Host → List Char
  | name s => encode s.toList
  | ipv6 address => address.text.toList

/-- The parts of a URI. -/
structure Written where
  username : String
  password : String
  host : Host
  port : UInt16
  schema : Option String
  /-- The query, by keys and values. -/
  query : List (String × String)

namespace Written

variable (w : Written)

/-- The user and the password. -/
def auth : List Char := encode w.username.toList ++ ':' :: encode w.password.toList

/-- The host and the port. -/
def address : List Char := w.host.written ++ ':' :: natText w.port.toNat

/-- The schema, with its separator. -/
def path : List Char := w.schema.elim [] fun s => '/' :: encode s.toList

/-- A pair of the query. -/
def pair (entry : String × String) : List Char :=
  encode entry.1.toList ++ '=' :: encode entry.2.toList

/-- The query. -/
def queryText : List Char := ['&'].intercalate (w.query.map pair)

/-- What stands before the query. -/
def main : List Char := w.auth ++ '@' :: (w.address ++ w.path)

/-- What stands behind the scheme. -/
def url : List Char := w.main ++ if w.query = [] then [] else '?' :: w.queryText

/-- **The URI of the parts.** -/
def uri : String := String.ofList ("exasol://".toList ++ w.url)

/-- The query as a map. -/
def params : QueryMap := w.query.foldl (fun params entry => params.insert entry.1 entry.2) ∅

/-- **What the parser reads**, when credentials are given with the URI. -/
def target (username password : Option String) : Target where
  host := String.ofList w.host.read
  port := w.port
  username := username.getD w.username
  password := password.getD w.password
  schema := w.schema.bind fun s =>
    if s = "" then none else some (String.ofList (encode s.toList))
  params := withoutCredentials w.params
  redactKeys := false

end Written

/-! ### Characters -/

/-- A character of the visible ASCII range is no white space. -/
theorem isWhitespace_of_visible {a : Char} (h1 : 0x21 ≤ a.toNat) (h2 : a.toNat ≤ 0x7E) :
    isWhitespace a = false := by
  unfold isWhitespace
  simp only [Bool.or_eq_false_iff, Bool.and_eq_false_iff, decide_eq_false_iff_not]
  omega

theorem isWhitespace_of_isUnreserved {a : Char} (h : isUnreserved a = true) :
    isWhitespace a = false := by
  have hmem : 0x21 ≤ a.toNat ∧ a.toNat ≤ 0x7E := by
    simp only [isUnreserved, Char.isDigit, Bool.or_eq_true, Bool.and_eq_true, decide_eq_true_eq,
      ge_iff_le, Char.le_def, UInt32.le_iff_toNat_le] at h
    rcases h with ((((((⟨h1, h2⟩ | ⟨h1, h2⟩) | ⟨h1, h2⟩) | rfl) | rfl) | rfl) | rfl)
    · exact ⟨le_trans (by decide) h1, le_trans h2 (by decide)⟩
    · exact ⟨le_trans (by decide) h1, le_trans h2 (by decide)⟩
    · exact ⟨le_trans (by decide) h1, le_trans h2 (by decide)⟩
    all_goals exact ⟨by decide, by decide⟩
  exact isWhitespace_of_visible hmem.1 hmem.2

theorem isWhitespace_of_isAddressChar {a : Char} (h : isAddressChar a = true) :
    isWhitespace a = false := by
  have hmem : 0x21 ≤ a.toNat ∧ a.toNat ≤ 0x7E := by
    simp only [isAddressChar, Char.isDigit, Bool.or_eq_true, Bool.and_eq_true, decide_eq_true_eq,
      ge_iff_le, Char.le_def, UInt32.le_iff_toNat_le] at h
    rcases h with ((((⟨h1, h2⟩ | ⟨h1, h2⟩) | ⟨h1, h2⟩) | rfl) | rfl)
    · exact ⟨le_trans (by decide) h1, le_trans h2 (by decide)⟩
    · exact ⟨le_trans (by decide) h1, le_trans h2 (by decide)⟩
    · exact ⟨le_trans (by decide) h1, le_trans h2 (by decide)⟩
    all_goals exact ⟨by decide, by decide⟩
  exact isWhitespace_of_visible hmem.1 hmem.2

theorem isUnreserved_of_isDigit {a : Char} (h : a.isDigit = true) : isUnreserved a = true := by
  simp [isUnreserved, h]

/-- The characters between the separators. -/
def Plain (s : List Char) : Prop := ∀ a ∈ s, isUnreserved a = true ∨ a = '%'

theorem plain_encode (s : List Char) : Plain (encode s) := fun _ h => mem_encode h

theorem plain_natText (n : ℕ) : Plain (natText n) := fun a h =>
  .inl (isUnreserved_of_isDigit (allDigits_natText n a h))

/-- No separator is in a plain text. -/
theorem Plain.notMem {s : List Char} (h : Plain s) {a : Char} (hu : isUnreserved a = false)
    (hp : a ≠ '%') : a ∉ s := by
  intro hmem
  rcases h a hmem with h | h
  · exact Bool.false_ne_true (hu.symm.trans h)
  · exact hp h

theorem Plain.isWhitespace {s : List Char} (h : Plain s) : ∀ a ∈ s, isWhitespace a = false := by
  intro a hmem
  rcases h a hmem with h | rfl
  · exact isWhitespace_of_isUnreserved h
  · decide

/-- A text does not begin with a character that it holds nowhere before a separator. -/
theorem append_ne_cons {a b : Char} {s t rest : List Char} (h : a ∉ s) (hab : b ≠ a) :
    s ++ b :: t ≠ a :: rest := by
  intro heq
  cases s with
  | nil => exact hab (List.cons.inj heq).1
  | cons x s => exact h ((List.cons.inj heq).1 ▸ List.mem_cons_self)

/-- A host as it is written holds no separator of the other parts. -/
theorem Host.notMem_written (host : Host) {a : Char} (hu : isUnreserved a = false) (hp : a ≠ '%')
    (ha : isAddressChar a = false) (hopen : a ≠ '[') (hclose : a ≠ ']') : a ∉ host.written := by
  cases host with
  | name s => exact (plain_encode _).notMem hu hp
  | ipv6 address =>
    intro hmem
    simp only [Host.written, List.cons_append, List.mem_cons, List.mem_append,
      List.not_mem_nil, or_false] at hmem
    rcases hmem with h | h | h
    · exact hopen h
    · exact Bool.false_ne_true (ha.symm.trans (address.chars a h))
    · exact hclose h

theorem Host.isWhitespace_written (host : Host) : ∀ a ∈ host.written, isWhitespace a = false := by
  cases host with
  | name s => exact (plain_encode _).isWhitespace
  | ipv6 address =>
    intro a hmem
    simp only [Host.written, List.cons_append, List.mem_cons, List.mem_append,
      List.not_mem_nil, or_false] at hmem
    rcases hmem with rfl | h | rfl
    · decide
    · exact isWhitespace_of_isAddressChar (address.chars a h)
    · decide

namespace Written

variable (w : Written)

theorem plain_path : ∀ a ∈ w.path, a = '/' ∨ isUnreserved a = true ∨ a = '%' := by
  intro a hmem
  unfold path at hmem
  cases hs : w.schema with
  | none =>
    rw [hs] at hmem
    cases hmem
  | some s =>
    rw [hs] at hmem
    rcases List.mem_cons.mp hmem with h | h
    · exact .inl h
    · exact .inr (plain_encode _ a h)

/-- A separator of the query is not before it. -/
theorem notMem_main {a : Char} (hu : isUnreserved a = false) (hp : a ≠ '%')
    (ha : isAddressChar a = false) (hother : a ∉ [':', '@', '/', '[', ']']) : a ∉ w.main := by
  simp only [List.mem_cons, List.not_mem_nil, or_false, not_or] at hother
  obtain ⟨hcolon, hat, hslash, hopen, hclose⟩ := hother
  simp only [main, auth, address, List.mem_append, List.mem_cons, not_or]
  refine ⟨⟨(plain_encode _).notMem hu hp, hcolon, (plain_encode _).notMem hu hp⟩, hat,
    ⟨w.host.notMem_written hu hp ha hopen hclose, hcolon, (plain_natText _).notMem hu hp⟩, ?_⟩
  intro hmem
  rcases w.plain_path a hmem with h | h | h
  · exact hslash h
  · exact Bool.false_ne_true (hu.symm.trans h)
  · exact hp h

theorem isWhitespace_main : ∀ a ∈ w.main, isWhitespace a = false := by
  intro a hmem
  simp only [main, auth, address, List.mem_append, List.mem_cons] at hmem
  rcases hmem with ((h | rfl | h) | rfl | (h | rfl | h) | h)
  · exact (plain_encode _).isWhitespace a h
  · decide
  · exact (plain_encode _).isWhitespace a h
  · decide
  · exact w.host.isWhitespace_written a h
  · decide
  · exact (plain_natText _).isWhitespace a h
  · rcases w.plain_path a h with rfl | h | rfl
    · decide
    · exact isWhitespace_of_isUnreserved h
    · decide

/-- The characters of the query. -/
theorem mem_pair {entry : String × String} {a : Char} (h : a ∈ pair entry) :
    a = '=' ∨ isUnreserved a = true ∨ a = '%' := by
  simp only [pair, List.mem_append, List.mem_cons] at h
  rcases h with h | h | h
  · exact .inr (plain_encode _ a h)
  · exact .inl h
  · exact .inr (plain_encode _ a h)

theorem mem_queryText {a : Char} (h : a ∈ w.queryText) :
    a = '&' ∨ a = '=' ∨ isUnreserved a = true ∨ a = '%' := by
  unfold queryText at h
  generalize w.query = query at h
  induction query with
  | nil =>
    rw [List.map_nil, List.intercalate_nil] at h
    cases h
  | cons entry entries ih =>
    cases entries with
    | nil =>
      rw [List.map_singleton, List.intercalate_singleton] at h
      exact .inr (mem_pair h)
    | cons next entries =>
      rw [List.map_cons, List.map_cons, List.intercalate_cons_cons, ← List.map_cons,
        List.append_assoc, List.mem_append, List.mem_append, List.mem_singleton] at h
      rcases h with h | h | h
      · exact .inr (mem_pair h)
      · exact .inl h
      · exact ih h

/-- A separator is not in a pair. -/
theorem notMem_pair {entry : String × String} {a : Char} (hu : isUnreserved a = false)
    (hp : a ≠ '%') (he : a ≠ '=') : a ∉ pair entry := by
  intro hmem
  rcases mem_pair hmem with h | h | h
  · exact he h
  · exact Bool.false_ne_true (hu.symm.trans h)
  · exact hp h

/-! ### The stages of the parser -/

theorem isWhitespace_scheme : ∀ a ∈ "exasol://".toList, isWhitespace a = false := by
  have hall : "exasol://".toList.all (fun a => !isWhitespace a) = true := by decide +kernel
  intro a h
  simpa using List.all_eq_true.mp hall a h

theorem isWhitespace_url : ∀ a ∈ w.url, isWhitespace a = false := by
  intro a hmem
  unfold url at hmem
  rcases List.mem_append.mp hmem with h | h
  · exact w.isWhitespace_main a h
  · by_cases hq : w.query = []
    · rw [if_pos hq] at h
      cases h
    · rw [if_neg hq] at h
      rcases List.mem_cons.mp h with rfl | h
      · decide
      · rcases w.mem_queryText h with rfl | rfl | h | rfl
        · decide
        · decide
        · exact isWhitespace_of_isUnreserved h
        · decide

theorem stripScheme_uri : stripScheme w.uri = .ok w.url := by
  unfold stripScheme uri
  have hscheme := isWhitespace_scheme
  generalize "exasol://".toList = scheme at hscheme ⊢
  have hwhite : ∀ a ∈ scheme ++ w.url, isWhitespace a = false :=
    List.forall_mem_append.mpr ⟨hscheme, w.isWhitespace_url⟩
  have htrim := trimWhitespace_append hwhite (List.forall_mem_nil _)
  rw [List.append_nil] at htrim
  rw [String.toList_ofList, htrim, stripPrefix?_append]

theorem splitQuery_url :
    splitQuery w.url = (w.main, if w.query = [] then none else some w.queryText) := by
  have hmain : '?' ∉ w.main := w.notMem_main rfl (by decide) rfl (by decide)
  by_cases hq : w.query = []
  · rw [url, if_pos hq, if_pos hq, List.append_nil, splitQuery, splitOnce_eq_none hmain]
  · rw [url, if_neg hq, if_neg hq, splitQuery, splitOnce_append hmain]

theorem splitAuth_main : splitAuth w.main = (some w.auth, w.address ++ w.path) := by
  have hrest : '@' ∉ w.address ++ w.path := by
    simp only [address, List.mem_append, List.mem_cons, not_or]
    refine ⟨⟨w.host.notMem_written rfl (by decide) rfl (by decide) (by decide), by decide,
      (plain_natText _).notMem rfl (by decide)⟩, fun hmem => ?_⟩
    rcases w.plain_path _ hmem with h | h | h
    · exact absurd h (by decide)
    · exact absurd h (by decide)
    · exact absurd h (by decide)
  rw [splitAuth, main, rsplitOnce_append _ hrest]

theorem splitSchema_rest : splitSchema (w.address ++ w.path) = (w.address, w.schema.bind fun s =>
    if s = "" then none else some (String.ofList (encode s.toList))) := by
  have haddress : '/' ∉ w.address := by
    simp only [address, List.mem_append, List.mem_cons, not_or]
    exact ⟨w.host.notMem_written rfl (by decide) rfl (by decide) (by decide), by decide,
      (plain_natText _).notMem rfl (by decide)⟩
  unfold path
  cases w.schema with
  | none =>
    rw [Option.elim_none, List.append_nil, splitSchema, splitOnce_eq_none haddress]
    rfl
  | some s =>
    rw [Option.elim_some, splitSchema, splitOnce_append haddress]
    have hempty : encode s.toList = [] ↔ s = "" := by
      rw [encode_eq_nil, String.toList_eq_nil_iff]
    simp only [hempty]
    rfl

theorem parsePort_natText (port : UInt16) : parsePort (natText port.toNat) = .ok port := by
  rw [parsePort, parseUnsigned?_natText]
  dsimp only
  rw [if_pos port.toNat_lt, UInt16.ofNat_toNat]

theorem parseHostPort_address : parseHostPort w.address = .ok (w.host.read, w.port) := by
  have hport : ':' ∉ natText w.port.toNat := (plain_natText _).notMem rfl (by decide)
  unfold parseHostPort address
  cases hhost : w.host with
  | name s =>
    have hnone : parseBracketed (encode s.toList ++ ':' :: natText w.port.toNat) = none := by
      have hopen : '[' ∉ encode s.toList := (plain_encode _).notMem rfl (by decide)
      unfold parseBracketed
      split
      · rename_i rest heq
        exact absurd heq (append_ne_cons hopen (by decide))
      · rfl
    simp only [Host.written, Host.read]
    rw [hnone, Option.getD_none, parseRegular, rsplitOnce_append _ hport]
    simp only [parsePort_natText]
    rfl
  | ipv6 address =>
    have hclose : ']' ∉ address.text.toList := fun hmem =>
      absurd (address.chars _ hmem) (by decide)
    have hbracketed : parseBracketed ('[' :: address.text.toList ++ [']'] ++
        ':' :: natText w.port.toNat) = some (.ok (address.text.toList, w.port)) := by
      rw [List.append_assoc, List.singleton_append, List.cons_append]
      simp only [parseBracketed, splitOnce_append hclose, Option.map_some, parseBehind,
        parsePort_natText]
      rfl
    simp only [Host.written, Host.read]
    rw [hbracketed, Option.getD_some]

end Written

section Library

variable (lib : UriLibrary)

theorem decodePart_encode (what s : String) : decodePart lib what (encode s.toList) = .ok s := by
  rw [decodePart, lib.decode_encode]

theorem insertPair_pair (params : QueryMap) (entry : String × String) (i : ℕ) :
    insertPair lib params (Written.pair entry, i) = .ok (params.insert entry.1 entry.2) := by
  have hne : Written.pair entry ≠ [] := List.append_ne_nil_of_right_ne_nil _ (List.cons_ne_nil _ _)
  have hkey : '=' ∉ encode entry.1.toList := (plain_encode _).notMem rfl (by decide)
  rw [insertPair, if_neg hne, Written.pair, splitOnce_append hkey]
  simp only [decodePart_encode]
  rfl

theorem foldlM_insertPair (query : List (String × String)) (params : QueryMap) (i : ℕ) :
    ((query.map Written.pair).zipIdx i).foldlM (insertPair lib) params =
      .ok (query.foldl (fun params entry => params.insert entry.1 entry.2) params) := by
  induction query generalizing params i with
  | nil => rfl
  | cons entry query ih =>
    rw [List.map_cons, List.zipIdx_cons, List.foldlM_cons, insertPair_pair, List.foldl_cons]
    exact ih _ _

variable (w : Written)

theorem parseQueryParams_query :
    parseQueryParams lib (if w.query = [] then none else some w.queryText) = .ok w.params := by
  by_cases hq : w.query = []
  · rw [if_pos hq, parseQueryParams, Written.params, hq, List.foldl_nil]
  · have hsplit : w.queryText.splitOn '&' = w.query.map Written.pair := by
      refine List.splitOn_intercalate '&' (fun text hmem => ?_) (by simpa using hq)
      obtain ⟨entry, -, rfl⟩ := List.mem_map.mp hmem
      exact Written.notMem_pair rfl (by decide) (by decide)
    rw [if_neg hq, parseQueryParams, hsplit, foldlM_insertPair, Written.params]

theorem userinfo_auth :
    userinfo lib (some w.auth) = .ok (some w.username, some w.password) := by
  have hcolon : ':' ∉ encode w.username.toList := (plain_encode _).notMem rfl (by decide)
  rw [userinfo, Written.auth, parseAuth, splitOnce_append hcolon]
  simp only [decodePart_encode]
  rfl

/-- **The parser finds every part of a written URI.** -/
theorem parseTarget_uri (username password : Option String) :
    parseTarget lib w.uri username password = .ok (w.target username password) := by
  have hredact : (if w.query = [] then none else some w.queryText).any
      (fun query => decide ('@' ∈ query)) = false := by
    have hat : '@' ∉ w.queryText := by
      intro hmem
      rcases w.mem_queryText hmem with h | h | h | h <;> exact absurd h (by decide)
    by_cases hq : w.query = []
    · rw [if_pos hq, Option.any_none]
    · rw [if_neg hq, Option.any_some]
      exact decide_eq_false hat
  have huser : resolveUsername username (some w.username) w.params =
      .ok (username.getD w.username) := by
    cases username <;> rfl
  have hpassword : resolvePassword password (some w.password) w.params =
      password.getD w.password := by
    cases password <;> rfl
  unfold parseTarget
  simp only [w.stripScheme_uri, ok_bind, w.splitQuery_url, parseQueryParams_query,
    w.splitAuth_main, userinfo_auth, huser, hpassword, w.splitSchema_rest,
    w.parseHostPort_address, hredact]
  rfl

end Library

/-! ### A library -/

/-- A library for texts in ASCII: a text that is not valid is refused without a position, and only
ASCII letters have a lower case. -/
def asciiLibrary : UriLibrary where
  decode s := match decode? (unescape s) with
    | some t => .ok (String.ofList t)
    | none => .error ⟨0, none⟩
  toLowercase s := String.ofList (s.toList.map Char.toLower)
  decode_encode s := by simp only [unescape_encode, decode?_bytes, String.ofList_toList]
  toLowercase_ascii _ _ := rfl

end Exarrow.Uri
