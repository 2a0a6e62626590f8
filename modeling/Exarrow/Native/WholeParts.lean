import Exarrow.Native.Envelope
import Exarrow.Native.Locality

/-!
# What the parts of a response are

Which bytes are read as parts, said without the reader. A part that ends where its bytes
end brings a warning, a result or nothing (`Exarrow.Native.Brings`), and so many of them
follow each other, at most one of them a result (`Exarrow.Native.WholeParts`). The rest of a
row transfer and a statement handle take all bytes that are left and end the parts
(`Exarrow.Native.EndsWith`). **Parts are read exactly if they are one or the other**
(`Exarrow.Native.run_parseParts_eq_ok`), whatever the bytes are and wherever they stand.

A statement handle is described by further parts, which are unwrapped responses each. It is
read by itself as it is read at the end of an envelope
(`Exarrow.Native.legacy_handle_iff`).
-/

namespace Exarrow.Native

open Machine Ieee Checked Arrow Wire

/-! ### What parts bring -/

/-- What a message takes: a text after its length and a state of five bytes, which is left
out where fewer bytes are left. -/
inductive MessageAt : List UInt8 → NativeWarning → List UInt8 → Prop where
  | whole (text : WireText) {state : List UInt8} (h : state.length = 5) (rest : List UInt8) :
    MessageAt (prefixed (Text.bytes text.val) ++ (state ++ rest))
      ⟨String.ofList text.val, (Text.decode? state).elim "?????" String.ofList⟩ rest
  | cut (text : WireText) {rest : List UInt8} (h : rest.length < 5) :
    MessageAt (prefixed (Text.bytes text.val) ++ rest) ⟨String.ofList text.val, "?????"⟩ rest

/-- What the bytes behind a kind bring, and the bytes that they leave. The kinds that take
all bytes that are left, a statement handle and the rest of a row transfer, are not among
them. -/
inductive Brings (lib : Libraries) : ResponseType → List UInt8 → Parts → List UInt8 → Prop where
  | rowCount (count : SInt 64) (rest : List UInt8) :
    Brings lib .rowCount (toLE 8 count.val ++ rest) ⟨[], some (.rowCount count)⟩ rest
  | columnCount (count : SInt 32) (rest : List UInt8) :
    Brings lib .columnCount (toLE 4 count.val ++ rest) {} rest
  | empty (rest : List UInt8) : Brings lib .empty rest ⟨[], some .empty⟩ rest
  | stillExecuting (rest : List UInt8) :
    Brings lib .stillExecuting rest ⟨[], some .stillExecuting⟩ rest
  | warning {bs rest : List UInt8} {w : NativeWarning} (h : MessageAt bs w rest) :
    Brings lib .warning bs ⟨[w], none⟩ rest
  | exception {bs rest : List UInt8} {w : NativeWarning} (h : MessageAt bs w rest) :
    Brings lib .exception bs ⟨[], some (.exception w.message w.sqlState)⟩ rest
  | resultSet {bytes : List UInt8} {response : NativeResponse}
    (h : Reads (Guard.holds lib) (2 ^ 63) (parseResultSetAt lib) bytes response)
    (rest : List UInt8) : Brings lib .resultSet (bytes ++ rest) ⟨[], some response⟩ rest

/-- Parts with what came behind them. -/
def Parts.add (before brought : Parts) : Parts :=
  ⟨before.warnings ++ brought.warnings, brought.terminal <|> before.terminal⟩

/-- So many parts follow each other, at most one of them a result. They go on from what
came before them and leave some bytes. -/
inductive WholeParts (lib : Libraries) : ℕ → Parts → List UInt8 → Parts → List UInt8 → Prop where
  | nil (parts : Parts) (rest : List UInt8) : WholeParts lib 0 parts rest parts rest
  | cons {n : ℕ} {parts brought after : Parts} {c : UInt8} {kind : ResponseType}
    {bs mid rest : List UInt8} (hkind : ResponseType.ofCode (asI8 c.toNat).val = some kind)
    (hbrings : Brings lib kind bs brought mid)
    (hone : brought.terminal = none ∨ parts.terminal = none)
    (hrest : WholeParts lib n (parts.add brought) mid after rest) :
    WholeParts lib (n + 1) parts (c :: bs) after rest

/-- **An unwrapped response** is read by the legacy parser as a whole. -/
abbrev legacy (lib : Libraries) (data : List UInt8) : Exec TransportError NativeResponseEnvelope :=
  parse lib (parseLegacyResponse lib) data

/-- So many parts, of which the last takes all bytes that are left: the rest of a row
transfer, or a statement handle with what describes the statement. -/
inductive EndsWith (lib : Libraries) : ℕ → Parts → List UInt8 → Parts → Prop where
  | moreRows {n : ℕ} {parts between : Parts} {bs body : List UInt8}
    (h : WholeParts lib n parts bs between (6 :: body)) (hone : between.terminal = none) :
    EndsWith lib (n + 1) parts bs (between.add ⟨[], some (.moreRows body)⟩)
  | handle {n : ℕ} {parts between : Parts} {bs body : List UInt8}
    {envelope : NativeResponseEnvelope} (h : WholeParts lib n parts bs between (2 :: body))
    (hone : between.terminal = none) (hread : legacy lib (2 :: body) = .ok envelope) :
    EndsWith lib (n + 1) parts bs (between.add ⟨envelope.warnings, some envelope.terminal⟩)

/-! ### What is read -/

section Read

variable {lib : Libraries} {o o' : ℕ} {bs rest : List UInt8}

/-- An integer that is read stands there. -/
theorem readInt_eq_ok {w n : ℕ} (hw : 0 < w) (h : 8 * n = w) {what : String} {a : SInt w}
    (hrun : (readInt w n hw what).run (Guard.holds lib) o bs = .ok (a, o', rest)) :
    bs = toLE n a.val ++ rest := by
  subst h
  rw [readInt, Reader.run_take] at hrun
  split at hrun
  case isFalse => cases hrun
  case isTrue hn =>
    obtain ⟨b, hb⟩ := exists_toLE_eq (by omega) (List.length_take_of_le hn)
    have hread := @reads_int lib (o + bs.length + 1) (8 * n) n hw rfl what b o (bs.drop n)
      (by rw [length_toLE, List.length_drop]; omega)
    rw [hb, List.take_append_drop, readInt, Reader.run_take, if_pos hn] at hread
    obtain ⟨hab, htail⟩ := Prod.mk.inj (Except.ok.inj (hrun.symm.trans hread))
    rw [hab, (Prod.mk.inj htail).2, hb, List.take_append_drop]

/-- Bytes that are read after their length stand there. -/
theorem readBytes_eq_ok {e : TransportError} {bytes : List UInt8} (hlt : o + bs.length < 2 ^ 63)
    (h : (readBytes e).run (Guard.holds lib) o bs = .ok (bytes, o', rest)) :
    bs = prefixed bytes ++ rest ∧ bytes.length < 2 ^ 31 := by
  obtain ⟨len, o₁, mid, hlen, htake⟩ := Reader.run_bind_eq_ok.mp h
  obtain rfl := readInt_eq_ok (by norm_num) rfl hlen
  have hguard : (Reader.guard (Guard.advance o₁ len) (.take (asUsize len.val) e .done)).run
      (Guard.holds lib) o₁ mid = .ok (bytes, o', rest) := htake
  rw [Reader.run_guard] at hguard
  split at hguard
  case isFalse => cases hguard
  case isTrue =>
    rw [Reader.run_take] at hguard
    split at hguard
    case isFalse => cases hguard
    case isTrue hle =>
      cases hguard
      have hge := len.ge
      have hltlen := len.lt
      rw [List.length_append] at hlt
      -- A negative length would be larger than any response.
      have hsize : (asUsize len.val : ℤ) = len.val := by
        rw [asUsize] at hle ⊢
        omega
      have hbytes : (mid.take (asUsize len.val)).length = asUsize len.val :=
        List.length_take_of_le hle
      refine ⟨?_, by omega⟩
      rw [prefixed, hbytes, hsize, List.append_assoc, List.take_append_drop]

/-- Bytes that are decoded are those of the text. -/
theorem decodeText_eq_ok {e : TransportError} {bytes : List UInt8} {s : String}
    (h : (decodeText e bytes).run (Guard.holds lib) o bs = .ok (s, o', rest)) :
    bytes = Text.bytes s.toList ∧ rest = bs := by
  rw [decodeText] at h
  split at h
  case h_1 t ht =>
    cases h
    rw [String.toList_ofList]
    exact ⟨(Text.bytes_of_decode? ht).symm, rfl⟩
  case h_2 => cases h

/-- Read the state behind a message. -/
def readState (message : String) : Parse NativeWarning :=
  .remaining fun r =>
    if 5 ≤ r then do
      let state ← .take 5 (truncated "u8") .done
      return ⟨message, (Text.decode? state).elim "?????" String.ofList⟩
    else return ⟨message, "?????"⟩

theorem parseMessagePart_eq (lib : Libraries) : parseMessagePart lib =
    (readBytes (.protocolError "Exception message truncated")).bind fun bytes =>
      (decodeText (.protocolError ("Invalid exception UTF-8: " ++ lib.utf8ErrorText bytes))
        bytes).bind readState := rfl

theorem run_readState (message : String) (o : ℕ) (bs : List UInt8) :
    (readState message).run (Guard.holds lib) o bs =
      if 5 ≤ bs.length then
        .ok (⟨message, (Text.decode? (bs.take 5)).elim "?????" String.ofList⟩, o + 5, bs.drop 5)
      else .ok (⟨message, "?????"⟩, o, bs) := by
  show Reader.run _ (if 5 ≤ bs.length then _ else _) o bs = _
  split
  case isTrue hle =>
    rw [Reader.bind_eq, Reader.run_bind, Reader.run_take, if_pos hle]
    rfl
  case isFalse => rfl

/-- **What is read as a message is one.** -/
theorem messageAt_of_run {w : NativeWarning} (hlt : o + bs.length < 2 ^ 63)
    (h : (parseMessagePart lib).run (Guard.holds lib) o bs = .ok (w, o', rest)) :
    MessageAt bs w rest := by
  rw [parseMessagePart_eq] at h
  obtain ⟨bytes, o₁, mid, hbytes, htext⟩ := Reader.run_bind_eq_ok.mp h
  obtain ⟨message, o₂, mid', hmessage, hstate⟩ := Reader.run_bind_eq_ok.mp htext
  obtain ⟨rfl, hsize⟩ := readBytes_eq_ok hlt hbytes
  obtain ⟨rfl, rfl⟩ := decodeText_eq_ok hmessage
  rw [Text.length_bytes] at hsize
  rw [run_readState] at hstate
  split at hstate
  case isTrue hle =>
    cases hstate
    have hwhole := MessageAt.whole ⟨message.toList, hsize⟩ (List.length_take_of_le hle)
      (mid'.drop 5)
    rwa [List.take_append_drop, String.ofList_toList] at hwhole
  case isFalse hle =>
    cases hstate
    have hcut := MessageAt.cut ⟨message.toList, hsize⟩ (Nat.not_le.mp hle)
    rwa [String.ofList_toList] at hcut

/-- **A message is read as it is.** -/
theorem run_of_messageAt {w : NativeWarning} (h : MessageAt bs w rest)
    (hlt : o + bs.length < 2 ^ 63) :
    ∃ o', (parseMessagePart lib).run (Guard.holds lib) o bs = .ok (w, o', rest) := by
  have hread (text : WireText) (post : List UInt8)
      (hlt : o + (prefixed (Text.bytes text.val) ++ post).length < 2 ^ 63) :
      (parseMessagePart lib).run (Guard.holds lib) o (prefixed (Text.bytes text.val) ++ post) =
        (readState (String.ofList text.val)).run (Guard.holds lib)
          (o + (prefixed (Text.bytes text.val)).length) post := by
    have hdecode := @reads_decodeText lib (2 ^ 63) (.protocolError
      ("Invalid exception UTF-8: " ++ lib.utf8ErrorText (Text.bytes text.val)))
      (String.ofList text.val)
    rw [String.toList_ofList] at hdecode
    rw [List.length_append, ← Nat.add_assoc] at hlt
    exact ((reads_bytes le_rfl _ text.length_bytes_lt).passes o post hlt).trans
      (hdecode.passes _ post hlt)
  cases h with
  | @whole text state hstate rest =>
    have hle : 5 ≤ (state ++ rest).length := by
      rw [List.length_append]
      omega
    rw [hread text _ hlt, run_readState, if_pos hle, List.take_left' hstate,
      List.drop_left' hstate]
    exact ⟨_, rfl⟩
  | cut text hrest =>
    rw [hread text rest hlt, run_readState, if_neg (by omega)]
    exact ⟨_, rfl⟩

variable {parts brought after : Parts} {data : List UInt8} {isLast : Bool} {t : SInt 8}
  {kind : ResponseType}

@[simp] theorem Parts.add_result (response : NativeResponse) :
    parts.add ⟨[], some response⟩ = { parts with terminal := some response } := by
  rw [Parts.add, List.append_nil]
  rfl

@[simp] theorem Parts.add_warning (w : NativeWarning) :
    parts.add ⟨[w], none⟩ = { parts with warnings := parts.warnings ++ [w] } := rfl

@[simp] theorem Parts.add_empty : parts.add {} = parts := by
  rw [Parts.add, List.append_nil]
  rfl

/-- A result is assigned if there is none yet. -/
theorem run_assign {p : Parse NativeResponse} :
    (p.bind fun response => (assignTerminalResult parts.terminal response).bind fun terminal =>
      .done { parts with terminal := terminal }).run (Guard.holds lib) o bs =
        .ok (after, o', rest) ↔
      ∃ response, p.run (Guard.holds lib) o bs = .ok (response, o', rest) ∧
        parts.terminal = none ∧ after = parts.add ⟨[], some response⟩ := by
  rw [Reader.run_bind_eq_ok]
  rcases hterminal : parts.terminal with _ | first
  · constructor
    · rintro ⟨response, o₁, mid, hp, hdone⟩
      cases hdone
      exact ⟨response, hp, rfl, (Parts.add_result response).symm⟩
    · rintro ⟨response, hp, -, rfl⟩
      exact ⟨response, o', rest, hp, by rw [Parts.add_result]; rfl⟩
  · constructor
    · rintro ⟨response, o₁, mid, hp, hdone⟩
      cases hdone
    · rintro ⟨response, hp, hnone, -⟩
      cases hnone

/-- **A part that is read brings what its bytes bring**, unless it takes all that is left. -/
theorem brings_of_run (hkind : ResponseType.ofCode t.val = some kind) (hhandle : kind ≠ .handle)
    (hmore : kind ≠ .moreRows) (hlt : o + bs.length < 2 ^ 63)
    (h : (parsePart lib data isLast parts t).run (Guard.holds lib) o bs = .ok (after, o', rest)) :
    ∃ brought, Brings lib kind bs brought rest ∧
      (brought.terminal = none ∨ parts.terminal = none) ∧ after = parts.add brought := by
  rw [parsePart, hkind] at h
  cases kind with
  | handle => exact absurd rfl hhandle
  | moreRows => exact absurd rfl hmore
  | warning =>
    obtain ⟨w, o₁, mid, hw, hdone⟩ := Reader.run_bind_eq_ok.mp h
    cases hdone
    exact ⟨_, .warning (messageAt_of_run hlt hw), .inl rfl, (Parts.add_warning w).symm⟩
  | columnCount =>
    obtain ⟨count, o₁, mid, hcount, hdone⟩ := Reader.run_bind_eq_ok.mp h
    cases hdone
    obtain rfl := readInt_eq_ok (by norm_num) rfl hcount
    exact ⟨_, .columnCount count _, .inl rfl, Parts.add_empty.symm⟩
  | resultSet =>
    obtain ⟨response, hread, hnone, rfl⟩ := run_assign.mp h
    obtain ⟨taken, rfl, hreads⟩ := local_parseResultSetAt le_rfl hlt hread
    exact ⟨_, .resultSet hreads rest, .inr hnone, rfl⟩
  | rowCount =>
    obtain ⟨response, hread, hnone, rfl⟩ := run_assign.mp h
    obtain ⟨count, o₁, mid, hcount, hdone⟩ := Reader.run_bind_eq_ok.mp hread
    cases hdone
    obtain rfl := readInt_eq_ok (by norm_num) rfl hcount
    exact ⟨_, .rowCount count _, .inr hnone, rfl⟩
  | exception =>
    obtain ⟨response, hread, hnone, rfl⟩ := run_assign.mp h
    obtain ⟨w, o₁, mid, hw, hdone⟩ := Reader.run_bind_eq_ok.mp hread
    cases hdone
    exact ⟨_, .exception (messageAt_of_run hlt hw), .inr hnone, rfl⟩
  | empty =>
    obtain ⟨response, hread, hnone, rfl⟩ := (run_assign (p := .done .empty)).mp h
    cases hread
    exact ⟨_, .empty _, .inr hnone, rfl⟩
  | stillExecuting =>
    obtain ⟨response, hread, hnone, rfl⟩ := (run_assign (p := .done .stillExecuting)).mp h
    cases hread
    exact ⟨_, .stillExecuting _, .inr hnone, rfl⟩

/-- **A part that brings something is read**, wherever it stands. -/
theorem run_of_brings (hkind : ResponseType.ofCode t.val = some kind)
    (h : Brings lib kind bs brought rest)
    (hone : brought.terminal = none ∨ parts.terminal = none) (hlt : o + bs.length < 2 ^ 63) :
    ∃ o', (parsePart lib data isLast parts t).run (Guard.holds lib) o bs =
      .ok (parts.add brought, o', rest) := by
  -- A part that is a result finds no other, so that it is assigned.
  have hassign {p : Parse NativeResponse} {response : NativeResponse} {o' : ℕ}
      (hp : p.run (Guard.holds lib) o bs = .ok (response, o', rest)) (hnone : parts.terminal = none) :=
    run_assign.mpr ⟨response, hp, hnone, rfl⟩
  rw [parsePart, hkind]
  cases h with
  | rowCount count =>
    rw [List.length_append, ← Nat.add_assoc] at hlt
    exact ⟨_, hassign ((reads_i64 count).map NativeResponse.rowCount o rest hlt)
      (hone.resolve_left nofun)⟩
  | columnCount count =>
    rw [List.length_append, ← Nat.add_assoc] at hlt
    rw [Parts.add_empty]
    exact ⟨_, (reads_i32 count).map (fun _ => parts) o rest hlt⟩
  | empty => exact ⟨_, hassign (p := .done .empty) rfl (hone.resolve_left nofun)⟩
  | stillExecuting => exact ⟨_, hassign (p := .done .stillExecuting) rfl (hone.resolve_left nofun)⟩
  | warning hw =>
    obtain ⟨o₁, hread⟩ := @run_of_messageAt lib _ _ _ _ hw hlt
    exact ⟨o₁, Reader.run_bind_eq_ok.mpr ⟨_, _, _, hread, rfl⟩⟩
  | exception hw =>
    obtain ⟨o₁, hread⟩ := @run_of_messageAt lib _ _ _ _ hw hlt
    exact ⟨o₁, hassign (Reader.run_bind_eq_ok.mpr ⟨_, _, _, hread, rfl⟩)
      (hone.resolve_left nofun)⟩
  | resultSet hreads =>
    rw [List.length_append, ← Nat.add_assoc] at hlt
    exact ⟨_, hassign (hreads o rest hlt) (hone.resolve_left nofun)⟩

/-- An unwrapped response is one part. -/
theorem legacy_eq_ok {envelope : NativeResponseEnvelope} : legacy lib bs = .ok envelope ↔
    ∃ o', (parseLegacyPart lib).run (Guard.holds lib) 0 bs = .ok (envelope, o', []) := by
  have hrun : legacy lib bs = .ok envelope ↔ ∃ o' rest,
      (parseLegacyResponse lib).run (Guard.holds lib) 0 bs = .ok (envelope, o', rest) := by
    rw [legacy, parse, bind_eq_ok]
    constructor
    · rintro ⟨⟨e, o', rest⟩, h, hdone⟩
      cases hdone
      exact ⟨o', rest, h⟩
    · rintro ⟨o', rest, h⟩
      exact ⟨_, h, rfl⟩
  rw [hrun]
  constructor
  · rintro ⟨o', rest, h⟩
    obtain ⟨e, o₁, mid, hpart, hend⟩ := Reader.run_bind_eq_ok.mp h
    cases mid with
    | nil =>
      cases hend
      exact ⟨_, hpart⟩
    | cons b mid =>
      -- Bytes that are left are an error.
      obtain ⟨left, o₂, mid', -, hfail⟩ := Reader.run_bind_eq_ok.mp
        (show (readRest.bind _).run _ o₁ (b :: mid) = _ from hend)
      cases hfail
  · rintro ⟨o', h⟩
    exact ⟨o', [], Reader.run_bind_eq_ok.mpr ⟨_, _, _, h, rfl⟩⟩

/-- The kind of an unwrapped response comes first. -/
theorem legacy_cons_eq_ok {c : UInt8} {envelope : NativeResponseEnvelope} :
    legacy lib (c :: bs) = .ok envelope ↔
      ∃ o', (parseLegacyResponseBody lib (parseLegacyResponseAt lib bs.length)
        (asI8 c.toNat)).run (Guard.holds lib) 1 bs = .ok (envelope, o', []) := by
  rw [legacy_eq_ok]
  have hpasses : (readI8.bind (parseLegacyResponseBody lib (parseLegacyResponseAt lib
      bs.length))).run (Guard.holds lib) 0 (c :: bs) =
        (parseLegacyResponseBody lib (parseLegacyResponseAt lib bs.length) (asI8 c.toNat)).run
          (Guard.holds lib) 1 bs :=
    (@reads_i8 lib (2 + bs.length) c).passes 0 bs (by rw [List.length_singleton]; omega)
  simp only [run_parseLegacyPart_cons, hpasses]

/-- A statement handle is read by itself as it is read at the end of a response. -/
theorem legacy_handle_iff {envelope : NativeResponseEnvelope} (hlt : o + bs.length < 2 ^ 63)
    (hlt' : 1 + bs.length < 2 ^ 63) : legacy lib (2 :: bs) = .ok envelope ↔
      ∃ o', (parseHandleOnlyAt (parseLegacyPart lib)).run (Guard.holds lib) o bs =
        .ok (envelope, o', []) := by
  have hkind : ResponseType.ofCode (asI8 (2 : UInt8).toNat).val = some .handle := by
    decide +kernel
  have hagree := parseHandleOnlyAt_agree (@progress_parseLegacyResponseAt lib bs.length)
    (fun _ _ hle => run_parseLegacyResponseAt hle) 1 bs le_rfl
  have hmoves := movable_parseHandleOnlyAt (@movable_parseLegacyPart lib _ le_rfl)
  rw [legacy_cons_eq_ok, parseLegacyResponseBody, hkind]
  dsimp only
  rw [hagree]
  constructor
  · rintro ⟨o', h⟩
    exact hmoves hlt' hlt h
  · rintro ⟨o', h⟩
    exact hmoves hlt hlt' h

/-- The byte of a kind. -/
def ResponseType.byte : ResponseType → UInt8
  | rowCount => 0
  | resultSet => 1
  | handle => 2
  | columnCount => 3
  | warning => 4
  | stillExecuting => 5
  | moreRows => 6
  | exception => 255
  | empty => 254

theorem all_ofCode_byte : ∀ n : ℕ, n < 256 →
    (ResponseType.ofCode (asI8 n).val).all (fun kind => n == kind.byte.toNat) = true := by
  decide +kernel

/-- The byte of a kind is read as that kind. -/
theorem ofCode_of_eq_byte {c : UInt8} (h : c = kind.byte) :
    ResponseType.ofCode (asI8 c.toNat).val = some kind := by
  subst h
  cases kind <;> decide +kernel

/-- A kind has one byte. -/
theorem eq_byte {c : UInt8} (h : ResponseType.ofCode (asI8 c.toNat).val = some kind) :
    c = kind.byte := by
  have hall := all_ofCode_byte c.toNat c.toNat_lt
  rw [h, Option.all_some, beq_iff_eq] at hall
  exact UInt8.toNat_inj.mp hall

variable {n : ℕ}

/-- A part is read after its kind, and then the parts behind it. -/
theorem run_parseParts_cons {c : UInt8} {o : ℕ} (hlt : o + 1 + bs.length < 2 ^ 63) :
    (parseParts lib data (n + 1) parts).run (Guard.holds lib) o (c :: bs) =
      ((parsePart lib data (n == 0) parts (asI8 c.toNat)).bind (parseParts lib data n)).run
        (Guard.holds lib) (o + 1) bs :=
  @passes_kind lib (2 ^ 63) data n parts c o bs hlt

/-- **Parts that are whole are read**, and after them what comes next. -/
theorem run_of_wholeParts (h : WholeParts lib n parts bs after rest) (data : List UInt8) (k : ℕ)
    {o : ℕ} (hlt : o + bs.length < 2 ^ 63) :
    ∃ o', (parseParts lib data (n + k) parts).run (Guard.holds lib) o bs =
        (parseParts lib data k after).run (Guard.holds lib) o' rest ∧
      o' + rest.length = o + bs.length := by
  induction h generalizing o with
  | nil parts rest =>
    rw [Nat.zero_add]
    exact ⟨o, rfl, rfl⟩
  | @cons n parts brought after c kind bs mid rest hkind hbrings hone hrest ih =>
    rw [List.length_cons] at hlt ⊢
    obtain ⟨o₁, hpart⟩ := @run_of_brings lib (o + 1) _ _ parts brought data (n + k == 0) _ _ hkind
      hbrings hone (by omega)
    have hlen := Reader.add_length_of_run hpart
    obtain ⟨o₂, hparts, hlen₂⟩ := ih (o := o₁) (by omega)
    refine ⟨o₂, ?_, by omega⟩
    rw [Nat.add_right_comm, run_parseParts_cons (by omega), Reader.run_bind, hpart]
    exact hparts

/-- What is left is read as it is. -/
theorem run_readRest : readRest.run (Guard.holds lib) o bs = .ok (bs, o + bs.length, []) := by
  show (Reader.take bs.length _ .done).run _ _ _ = _
  rw [Reader.run_take, if_pos le_rfl, List.take_length, List.drop_length]
  rfl

/-- A statement handle takes all bytes that are left. -/
theorem eq_nil_of_run_handle {envelope : NativeResponseEnvelope}
    (h : (parseHandleOnlyAt (parseLegacyPart lib)).run (Guard.holds lib) o bs =
      .ok (envelope, o', rest)) : rest = [] := by
  obtain ⟨statement, o₁, mid, -, hrest⟩ := Reader.run_bind_eq_ok.mp h
  obtain ⟨d, o₂, mid', hsubs, hdone⟩ := Reader.run_bind_eq_ok.mp hrest
  have hnil : mid' = [] := eq_nil_of_run_subResults le_rfl hsubs
  cases hdone
  exact hnil

/-- A statement handle that is read is the last part, and finds no result. -/
theorem endsWith_of_run_handle {o : ℕ} (hlt : o + 1 + bs.length < 2 ^ 63)
    (h : ((parsePart lib data isLast parts (asI8 (2 : UInt8).toNat)).bind
      (parseParts lib data n)).run (Guard.holds lib) (o + 1) bs = .ok (after, o', rest)) :
    rest = [] ∧ EndsWith lib (n + 1) parts (2 :: bs) after := by
  obtain ⟨between, o₁, mid, hpart, hparts⟩ := Reader.run_bind_eq_ok.mp h
  rw [parsePart_handle] at hpart
  obtain ⟨envelope, o₂, mid', henvelope, hassign⟩ := Reader.run_bind_eq_ok.mp hpart
  obtain rfl := eq_nil_of_run_handle henvelope
  rcases hterminal : parts.terminal with _ | first
  · rw [hterminal] at hassign
    cases hassign
    rcases n with _ | n
    · cases hparts
      have hread : legacy lib (2 :: bs) = .ok envelope :=
        (legacy_handle_iff hlt (by omega)).mpr ⟨_, henvelope⟩
      exact ⟨rfl, .handle (.nil parts (2 :: bs)) hterminal hread⟩
    · exact absurd hparts run_parts_nil_ne_ok
  · rw [hterminal] at hassign
    cases hassign

/-- The rest of a row transfer is the last part, and finds no result. -/
theorem endsWith_of_run_moreRows {o : ℕ}
    (h : ((parsePart lib data (n == 0) parts (asI8 (6 : UInt8).toNat)).bind
      (parseParts lib data n)).run (Guard.holds lib) (o + 1) bs = .ok (after, o', rest)) :
    rest = [] ∧ EndsWith lib (n + 1) parts (6 :: bs) after := by
  have hkind : ResponseType.ofCode (asI8 (6 : UInt8).toNat).val = some .moreRows := by
    decide +kernel
  obtain ⟨between, o₁, mid, hpart, hparts⟩ := Reader.run_bind_eq_ok.mp h
  rcases n with _ | n
  · have hlast : (parsePart lib data true parts (asI8 (6 : UInt8).toNat)).run (Guard.holds lib)
        (o + 1) bs = .ok (between, o₁, mid) := hpart
    rw [parsePart_moreRows, Reader.run_bind, run_readRest] at hlast
    rcases hterminal : parts.terminal with _ | first
    · rw [hterminal] at hlast
      cases hlast
      cases hparts
      have hends := EndsWith.moreRows (@WholeParts.nil lib parts (6 :: bs)) hterminal
      rw [Parts.add_result] at hends
      exact ⟨rfl, hends⟩
    · rw [hterminal] at hlast
      cases hlast
  · rw [parsePart, hkind] at hpart
    cases hpart

/-- A part in front goes with the parts behind it. -/
theorem EndsWith.cons {c : UInt8} {mid : List UInt8}
    (hkind : ResponseType.ofCode (asI8 c.toNat).val = some kind)
    (hbrings : Brings lib kind bs brought mid)
    (hone : brought.terminal = none ∨ parts.terminal = none)
    (hrest : EndsWith lib n (parts.add brought) mid after) :
    EndsWith lib (n + 1) parts (c :: bs) after := by
  cases hrest with
  | moreRows h hnone => exact .moreRows (.cons hkind hbrings hone h) hnone
  | handle h hnone hread => exact .handle (.cons hkind hbrings hone h) hnone hread

/-- **Parts that are read are whole, or the last of them takes all that is left.** -/
theorem wholeParts_of_run {o : ℕ} (hlt : o + bs.length < 2 ^ 63)
    (h : (parseParts lib data n parts).run (Guard.holds lib) o bs = .ok (after, o', rest)) :
    WholeParts lib n parts bs after rest ∨ rest = [] ∧ EndsWith lib n parts bs after := by
  induction n generalizing parts o bs with
  | zero =>
    cases h
    exact .inl (.nil _ _)
  | succ n ih =>
    rcases bs with _ | ⟨c, bs⟩
    · exact absurd h run_parts_nil_ne_ok
    · rw [List.length_cons] at hlt
      rw [run_parseParts_cons (by omega)] at h
      obtain ⟨between, o₁, mid, hpart, hparts⟩ := Reader.run_bind_eq_ok.mp h
      have hlen := Reader.add_length_of_run hpart
      rcases hkind : ResponseType.ofCode (asI8 c.toNat).val with _ | kind
      · -- A kind that is not known is an error.
        rw [parsePart, hkind] at hpart
        cases hpart
      · have hbyte := eq_byte hkind
        by_cases hhandle : kind = .handle
        · subst hhandle
          obtain rfl : c = 2 := hbyte
          exact .inr (endsWith_of_run_handle (by omega) h)
        · by_cases hmore : kind = .moreRows
          · subst hmore
            obtain rfl : c = 6 := hbyte
            exact .inr (endsWith_of_run_moreRows h)
          · obtain ⟨brought, hbrings, hone, rfl⟩ :=
              brings_of_run hkind hhandle hmore (by omega) hpart
            rcases ih (o := o₁) (by omega) hparts with hwhole | ⟨hnil, hends⟩
            · exact .inl (.cons hkind hbrings hone hwhole)
            · exact .inr ⟨hnil, .cons hkind hbrings hone hends⟩

/-- **Parts that end with one that takes all that is left are read.** -/
theorem run_of_endsWith {o : ℕ} (h : EndsWith lib n parts bs after) (data : List UInt8)
    (hlt : o + bs.length < 2 ^ 63) :
    ∃ o', (parseParts lib data n parts).run (Guard.holds lib) o bs = .ok (after, o', []) := by
  cases h with
  | @moreRows n parts between bs body h hone =>
    obtain ⟨o₁, hrun, hlen⟩ := run_of_wholeParts h data 1 hlt
    rw [hrun]
    refine ⟨_, run_parseParts_last (by omega) ?_⟩
    rw [parsePart_moreRows, hone, Reader.run_bind, run_readRest, Parts.add_result]
    rfl
  | @handle n parts between bs body envelope h hone hread =>
    obtain ⟨o₁, hrun, hlen⟩ := run_of_wholeParts h data 1 hlt
    rw [List.length_cons] at hlen
    obtain ⟨o₂, hhandle⟩ := (@legacy_handle_iff lib (o₁ + 1) _ _ (by omega) (by omega)).mp hread
    refine ⟨o₂, ?_⟩
    rw [hrun, run_parseParts_cons (by omega), parsePart_handle, hone]
    exact Reader.run_bind_eq_ok.mpr ⟨_, _, _,
      Reader.run_bind_eq_ok.mpr ⟨_, _, _, hhandle, rfl⟩, rfl⟩

/-- **Parts are read exactly if they are whole, or the last of them takes all that is left.** -/
theorem run_parseParts_eq_ok {o : ℕ} (hlt : o + bs.length < 2 ^ 63) :
    (∃ o', (parseParts lib data n parts).run (Guard.holds lib) o bs = .ok (after, o', rest)) ↔
      WholeParts lib n parts bs after rest ∨ rest = [] ∧ EndsWith lib n parts bs after := by
  constructor
  · rintro ⟨o', h⟩
    exact wholeParts_of_run hlt h
  · rintro (hwhole | ⟨rfl, hends⟩)
    · obtain ⟨o', hrun, -⟩ := run_of_wholeParts hwhole data 0 hlt
      exact ⟨o', hrun⟩
    · exact run_of_endsWith hends data hlt

/-- **What is read as a result set begins with its numbers**, and has a byte for each of its
cells. -/
theorem resultSet_of_run {response : NativeResponse}
    (h : (parseResultSetAt lib).run (Guard.holds lib) o bs = .ok (response, o', rest)) :
    ∃ (handle numColumns : SInt 32) (totalRows rowsReceived : SInt 64)
      (columns : List NativeColumnMeta) (batch : Option RecordBatch) (body : List UInt8),
      bs = toLE 4 handle.val ++ (toLE 4 numColumns.val ++ (toLE 8 totalRows.val ++
        (toLE 8 rowsReceived.val ++ body))) ∧
      response = .resultSet handle columns batch totalRows rowsReceived ∧
      0 ≤ rowsReceived.val ∧ columns.length = asUsize numColumns.val ∧
      (numColumns.val ≠ 0 → columns.length * rowsReceived.val.toNat ≤ body.length) := by
  have hi32 {o o' : ℕ} {bs rest : List UInt8} {a : SInt 32} :=
    @readInt_eq_ok lib o o' bs rest 32 4 (by norm_num) rfl "i32" a
  have hi64 {o o' : ℕ} {bs rest : List UInt8} {a : SInt 64} :=
    @readInt_eq_ok lib o o' bs rest 64 8 (by norm_num) rfl "i64" a
  obtain ⟨handle, o₁, mid₁, hhandle, h₁⟩ := Reader.run_bind_eq_ok.mp h
  obtain ⟨numColumns, o₂, mid₂, hcolumns, h₂⟩ := Reader.run_bind_eq_ok.mp h₁
  obtain ⟨totalRows, o₃, mid₃, htotal, h₃⟩ := Reader.run_bind_eq_ok.mp h₂
  obtain ⟨rowsReceived, o₄, body, hrows, h₄⟩ := Reader.run_bind_eq_ok.mp h₃
  obtain rfl := hi32 hhandle
  obtain rfl := hi32 hcolumns
  obtain rfl := hi64 htotal
  obtain rfl := hi64 hrows
  split at h₄
  case isTrue => cases h₄
  case isFalse hge =>
    obtain ⟨u, o₅, mid₅, hguard, h₅⟩ := Reader.run_bind_eq_ok.mp h₄
    obtain ⟨columns, o₆, mid₆, hmetas, h₆⟩ := Reader.run_bind_eq_ok.mp h₅
    have hlength : columns.length = asUsize numColumns.val := Reader.length_of_run_times hmetas
    have hshort₅ := TakesAtLeast.zero _ hguard
    have hshort₆ := TakesAtLeast.zero _ hmetas
    split at h₆
    case isTrue hzero =>
      cases h₆
      exact ⟨handle, numColumns, totalRows, rowsReceived, columns, none, body, rfl, rfl,
        not_lt.mp hge, hlength, fun hne => absurd hzero hne⟩
    case isFalse =>
      obtain ⟨batch, o₇, mid₇, hbatch, hdone⟩ := Reader.run_bind_eq_ok.mp h₆
      have hcells := takes_buildBatchFromWire columns _ hbatch
      cases hdone
      exact ⟨handle, numColumns, totalRows, rowsReceived, columns, some batch, body, rfl, rfl,
        not_lt.mp hge, hlength, fun _ => by omega⟩

end Read

end Exarrow.Native
