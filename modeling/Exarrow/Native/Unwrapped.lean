import Exarrow.Native.WholeParts

/-!
# Unwrapped responses

A response that is a single part has no count in front, and the parser finds this out by
reading it as a counted envelope first. The unwrapped response is then read as such in two
cases only: if it does not begin like a counted envelope, or if the counted parts are read
and leave bytes over. Where a counted part cannot be read, the error is returned, and the
response is never read as the single part that it is
(`Exarrow.Native.legacy_stillExecuting_refused`).

A reading as a counted envelope that takes all bytes is returned. It is another result in
every case but one, since its parts are too short or too long for the single part
(`Exarrow.Native.handle_of_agrees`): a statement handle can hold another one that is
described alike. **This is all that tells the two apart**
(`Exarrow.Native.parseResponse_eq_legacy_iff`).
-/

namespace Exarrow.Native

open Machine Ieee Checked Arrow Wire

variable {lib : Libraries} {bs rest body tail data : List UInt8} {n : ℕ} {parts after : Parts}
  {envelope : NativeResponseEnvelope} {c t : UInt8}

/-! ### What an unwrapped response is -/

/-- An unwrapped response begins with the byte of its kind. -/
theorem exists_kind_of_legacy (h : legacy lib (c :: bs) = .ok envelope) :
    ∃ kind, ResponseType.ofCode (asI8 c.toNat).val = some kind := by
  obtain ⟨o', hrun⟩ := legacy_cons_eq_ok.mp h
  rw [parseLegacyResponseBody] at hrun
  rcases hkind : ResponseType.ofCode (asI8 c.toNat).val with _ | kind
  · rw [hkind] at hrun
    cases hrun
  · exact ⟨kind, rfl⟩

/-- The result takes all bytes that are left. -/
def NativeResponse.isOpen : NativeResponse → Bool
  | moreRows _ => true
  | preparedStatement .. => true
  | _ => false

theorem legacy_resultSet (h : legacy lib (1 :: bs) = .ok envelope) : ∃ response o',
    (parseResultSetAt lib).run (Guard.holds lib) 1 bs = .ok (response, o', []) ∧
      envelope = .of response := by
  have hkind : ResponseType.ofCode (asI8 (1 : UInt8).toNat).val = some .resultSet :=
    ofCode_of_eq_byte rfl
  obtain ⟨o', hrun⟩ := legacy_cons_eq_ok.mp h
  rw [parseLegacyResponseBody, hkind] at hrun
  obtain ⟨response, o₁, mid, hread, hdone⟩ := Reader.run_bind_eq_ok.mp hrun
  cases hdone
  exact ⟨response, _, hread, rfl⟩

theorem legacy_columnCount (h : legacy lib (3 :: bs) = .ok envelope) :
    bs.length = 4 ∧ envelope = .of .empty := by
  have hkind : ResponseType.ofCode (asI8 (3 : UInt8).toNat).val = some .columnCount :=
    ofCode_of_eq_byte rfl
  obtain ⟨o', hrun⟩ := legacy_cons_eq_ok.mp h
  rw [parseLegacyResponseBody, hkind] at hrun
  obtain ⟨count, o₁, mid, hread, hdone⟩ := Reader.run_bind_eq_ok.mp hrun
  cases hdone
  obtain rfl := readInt_eq_ok (by norm_num) rfl hread
  exact ⟨by rw [List.append_nil, length_toLE], rfl⟩

theorem legacy_warning (hlt : 1 + bs.length < 2 ^ 63) (h : legacy lib (4 :: bs) = .ok envelope) :
    ∃ w, MessageAt bs w [] ∧ envelope = ⟨[w], .empty⟩ := by
  have hkind : ResponseType.ofCode (asI8 (4 : UInt8).toNat).val = some .warning :=
    ofCode_of_eq_byte rfl
  obtain ⟨o', hrun⟩ := legacy_cons_eq_ok.mp h
  rw [parseLegacyResponseBody, hkind] at hrun
  obtain ⟨w, o₁, mid, hread, hdone⟩ := Reader.run_bind_eq_ok.mp hrun
  cases hdone
  exact ⟨w, messageAt_of_run hlt hread, rfl⟩

theorem legacy_stillExecuting (hlt : 1 + bs.length < 2 ^ 63) (hne : bs ≠ [])
    (h : legacy lib (5 :: bs) = .ok envelope) :
    ∃ bytes, bs = prefixed bytes ∧ bytes.length < 2 ^ 31 ∧ envelope = .of .stillExecuting := by
  have hkind : ResponseType.ofCode (asI8 (5 : UInt8).toNat).val = some .stillExecuting :=
    ofCode_of_eq_byte rfl
  obtain ⟨o', hrun⟩ := legacy_cons_eq_ok.mp h
  rw [parseLegacyResponseBody, hkind] at hrun
  obtain ⟨u, o₁, mid, hread, hdone⟩ := Reader.run_bind_eq_ok.mp hrun
  cases hdone
  have hmessage : (if bs.length = 0 then _ else _ : Parse Unit).run (Guard.holds lib) 1 bs =
      .ok (u, o', []) := hread
  rw [if_neg (mt List.eq_nil_of_length_eq_zero hne)] at hmessage
  obtain ⟨bytes, o₂, mid', hbytes, hunit⟩ := Reader.run_bind_eq_ok.mp hmessage
  cases hunit
  obtain ⟨hprefixed, hsize⟩ := readBytes_eq_ok hlt hbytes
  exact ⟨bytes, hprefixed.trans (List.append_nil _), hsize, rfl⟩

theorem legacy_moreRows (h : legacy lib (6 :: bs) = .ok envelope) :
    envelope = .of (.moreRows bs) := by
  have hkind : ResponseType.ofCode (asI8 (6 : UInt8).toNat).val = some .moreRows :=
    ofCode_of_eq_byte rfl
  obtain ⟨o', hrun⟩ := legacy_cons_eq_ok.mp h
  rw [parseLegacyResponseBody, hkind] at hrun
  obtain ⟨left, o₁, mid, hread, hdone⟩ := Reader.run_bind_eq_ok.mp hrun
  rw [run_readRest] at hread
  cases hread
  cases hdone
  rfl

theorem legacy_handle (h : legacy lib (2 :: bs) = .ok envelope) :
    ∃ statement parameters resultColumns,
      envelope.terminal = .preparedStatement statement parameters resultColumns := by
  have hkind : ResponseType.ofCode (asI8 (2 : UInt8).toNat).val = some .handle :=
    ofCode_of_eq_byte rfl
  obtain ⟨o', hrun⟩ := legacy_cons_eq_ok.mp h
  rw [parseLegacyResponseBody, hkind] at hrun
  obtain ⟨statement, o₁, mid, -, hsubs⟩ := Reader.run_bind_eq_ok.mp hrun
  obtain ⟨d, o₂, mid', -, hdone⟩ := Reader.run_bind_eq_ok.mp hsubs
  cases hdone
  exact ⟨statement, _, _, rfl⟩

/-! ### How long parts are -/

/-- The bytes that messages take. -/
def warningSize (ws : List NativeWarning) : ℕ :=
  (ws.map fun w => (Text.bytes w.message.toList).length).sum

theorem warningSize_append (ws ws' : List NativeWarning) :
    warningSize (ws ++ ws') = warningSize ws + warningSize ws' := by
  rw [warningSize, List.map_append, List.sum_append]
  rfl

theorem warningSize_singleton (w : NativeWarning) :
    warningSize [w] = (Text.bytes w.message.toList).length := by
  rw [warningSize, List.map_singleton, List.sum_singleton]

/-- The bytes by which a part may be shorter than five if it is a result. -/
def Parts.slack (parts : Parts) : ℕ := if parts.terminal.isNone then 4 else 0

/-- A message takes its length, its text and up to five bytes for the state. -/
theorem MessageAt.length {w : NativeWarning} (h : MessageAt bs w rest) :
    4 + warningSize [w] + rest.length ≤ bs.length ∧
      bs.length ≤ 9 + warningSize [w] + rest.length := by
  rw [warningSize_singleton]
  cases h with
  | whole text hstate rest =>
    simp only [prefixed, List.length_append, length_toLE, String.toList_ofList]
    omega
  | cut text hrest =>
    simp only [prefixed, List.length_append, length_toLE, String.toList_ofList]
    omega

/-- A part takes four bytes behind its kind, unless it is a result. -/
theorem Brings.length {kind : ResponseType} {brought : Parts} (h : Brings lib kind bs brought rest) :
    brought.slack + warningSize brought.warnings + rest.length ≤ bs.length := by
  cases h with
  | rowCount count rest =>
    rw [List.length_append]
    exact (Nat.zero_add _).trans_le (Nat.le_add_left ..)
  | columnCount count rest =>
    rw [List.length_append, length_toLE]
    exact le_rfl
  | empty rest => exact (Nat.zero_add _).le
  | stillExecuting rest => exact (Nat.zero_add _).le
  | warning h => exact h.length.1
  | exception h =>
    have hlen := h.length.1
    exact (Nat.zero_add _).trans_le (by omega)
  | resultSet h rest =>
    rw [List.length_append]
    exact (Nat.zero_add _).trans_le (Nat.le_add_left ..)

theorem Parts.slack_add {brought : Parts}
    (hone : brought.terminal = none ∨ parts.terminal = none) :
    (parts.add brought).slack + 4 = brought.slack + parts.slack := by
  rcases hbrought : brought.terminal with _ | response
  · simp [Parts.slack, Parts.add, hbrought, Nat.add_comm]
  · have hnone : parts.terminal = none := hone.resolve_left (by simp [hbrought])
    simp [Parts.slack, Parts.add, hbrought, hnone]

/-- **Each part takes five bytes and its message**, but for one result. -/
theorem WholeParts.length (h : WholeParts lib n parts bs after rest) :
    5 * n + warningSize after.warnings + rest.length + after.slack ≤
      bs.length + warningSize parts.warnings + parts.slack := by
  induction h with
  | nil parts rest => omega
  | cons hkind hbrings hone hrest ih =>
    have hlen := hbrings.length
    have hslack := Parts.slack_add hone
    rw [Parts.add, warningSize_append] at ih
    rw [List.length_cons]
    rw [Parts.add] at hslack
    omega

/-- Parts that are the first ones are one result shorter. -/
theorem WholeParts.length_of_first (h : WholeParts lib n {} bs after rest) :
    5 * n + warningSize after.warnings + rest.length ≤ bs.length + 4 := by
  have hlen := h.length
  have hslack : ({} : Parts).slack = 4 := rfl
  have hnone : warningSize ({} : Parts).warnings = 0 := rfl
  omega

theorem EndsWith.length_of_first (h : EndsWith lib (n + 1) {} bs after) :
    5 * n < bs.length + 4 := by
  cases h with
  | moreRows hwhole hone =>
    have hlen := hwhole.length_of_first
    rw [List.length_cons] at hlen
    omega
  | handle hwhole hone hread =>
    have hlen := hwhole.length_of_first
    rw [List.length_cons] at hlen
    omega

/-! ### What the result of parts is -/

/-- What is read as a result set is one. -/
theorem eq_resultSet_of_reads {response : NativeResponse} (hlt : bs.length < 2 ^ 63)
    (h : Reads (Guard.holds lib) (2 ^ 63) (parseResultSetAt lib) bs response) :
    ∃ handle columns batch totalRows rowsReceived,
      response = .resultSet handle columns batch totalRows rowsReceived := by
  have hrun := h 0 [] (by rwa [Nat.zero_add])
  obtain ⟨handle, numColumns, totalRows, rowsReceived, columns, batch, body, -, rfl, -⟩ :=
    resultSet_of_run hrun
  exact ⟨handle, columns, batch, totalRows, rowsReceived, rfl⟩

/-- What a part brings does not take all bytes that are left. -/
theorem Brings.isOpen {kind : ResponseType} {brought : Parts}
    (h : Brings lib kind bs brought rest) (hlt : bs.length < 2 ^ 63) {response : NativeResponse}
    (hresponse : brought.terminal = some response) : response.isOpen = false := by
  cases h with
  | resultSet h rest =>
    obtain rfl := Option.some.inj hresponse
    rw [List.length_append] at hlt
    obtain ⟨handle, columns, batch, totalRows, rowsReceived, rfl⟩ :=
      eq_resultSet_of_reads (by omega) h
    rfl
  | columnCount => cases hresponse
  | warning => cases hresponse
  | _ =>
    obtain rfl := Option.some.inj hresponse
    rfl

/-- A part is one of the bytes behind it. -/
theorem Brings.length_le {kind : ResponseType} {brought : Parts}
    (h : Brings lib kind bs brought rest) : rest.length ≤ bs.length := by
  have hlen := h.length
  omega

/-- **A result stays**, whatever parts come behind it. -/
theorem WholeParts.terminal_eq (h : WholeParts lib n parts bs after rest)
    {response : NativeResponse} (hresponse : parts.terminal = some response) :
    after.terminal = some response := by
  induction h with
  | nil => exact hresponse
  | cons hkind hbrings hone hrest ih =>
    refine ih ?_
    have hnone := hone.resolve_right (by rw [hresponse]; exact Option.some_ne_none _)
    rw [Parts.add, hnone, hresponse]
    rfl

/-- The result of whole parts does not take all bytes that are left. -/
theorem WholeParts.isOpen (h : WholeParts lib n parts bs after rest) (hlt : bs.length < 2 ^ 63)
    (hparts : ∀ response, parts.terminal = some response → response.isOpen = false) :
    ∀ response, after.terminal = some response → response.isOpen = false := by
  induction h with
  | nil => exact hparts
  | @cons n parts brought after c kind bs mid rest hkind hbrings hone hrest ih =>
    rw [List.length_cons] at hlt
    have hlen := hbrings.length_le
    refine ih (by omega) fun response hresponse => ?_
    rcases hbrought : brought.terminal with _ | first
    · rw [Parts.add, hbrought] at hresponse
      exact hparts response hresponse
    · rw [Parts.add, hbrought] at hresponse
      obtain rfl := Option.some.inj hresponse
      exact hbrings.isOpen (by omega) hbrought

/-- The result of parts that end with one that takes all bytes that are left does so. -/
theorem EndsWith.isOpen (h : EndsWith lib n parts bs after) :
    (after.terminal.getD .empty).isOpen = true := by
  cases h with
  | moreRows h hone => rfl
  | handle h hone hread =>
    obtain ⟨statement, parameters, resultColumns, hterminal⟩ := legacy_handle hread
    show NativeResponse.isOpen _ = true
    rw [hterminal]
    rfl

/-- Parts only add warnings. -/
theorem WholeParts.warnings_eq_nil (h : WholeParts lib n parts bs after rest)
    (hnil : after.warnings = []) : parts.warnings = [] := by
  induction h with
  | nil => exact hnil
  | cons hkind hbrings hone hrest ih => exact (List.append_eq_nil_iff.mp (ih hnil)).1

/-- **Parts that say that a query is still executing are short**, if they bring no warning. -/
theorem WholeParts.length_le_of_stillExecuting (h : WholeParts lib n parts bs after rest)
    (hlt : bs.length < 2 ^ 63) (hnil : after.warnings = []) (hresponse : after.terminal = some .stillExecuting) :
    bs.length ≤ rest.length + 5 * n := by
  induction h with
  | nil => omega
  | @cons n parts brought after c kind bs mid rest hkind hbrings hone hrest ih =>
    rw [List.length_cons] at hlt ⊢
    have hlen := hbrings.length_le
    have hmid := ih (by omega) hnil hresponse
    have hwarnings := (List.append_eq_nil_iff.mp (hrest.warnings_eq_nil hnil)).2
    -- Another result would stay.
    have hterminal {first : NativeResponse} (hfirst : brought.terminal = some first) :
        first = .stillExecuting := by
      have hadd : (parts.add brought).terminal = some first := by rw [Parts.add, hfirst]; rfl
      exact Option.some.inj ((hrest.terminal_eq hadd).symm.trans hresponse)
    have hsize : bs.length ≤ 4 + mid.length := by
      cases hbrings with
      | columnCount count mid => rw [List.length_append, length_toLE]
      | empty mid => exact Nat.le_add_left ..
      | stillExecuting mid => exact Nat.le_add_left ..
      | warning h => cases hwarnings
      | rowCount count mid => cases hterminal rfl
      | exception h => cases hterminal rfl
      | resultSet h mid =>
        rw [List.length_append] at hlt
        obtain ⟨handle, columns, batch, totalRows, rowsReceived, rfl⟩ :=
          eq_resultSet_of_reads (by omega) h
        cases hterminal rfl
    omega

/-! ### Two readings of one payload -/

/-- A length whose last byte alone is not zero is a multiple of `2 ^ 24`. -/
theorem eq_mul_of_toLE {size : ℕ} (hsize : size < 2 ^ 31) (h : toLE 4 size = [0, 0, 0, t]) :
    size = t.toNat * 2 ^ 24 := by
  have hnat := congrArg natOfLE h
  rw [toLE, natOfLE_natToLE] at hnat
  simp only [natOfLE, UInt8.toNat_zero] at hnat
  omega

/-- Fields that are the same four bytes further on repeat the four bytes in front. -/
theorem eq_of_shift {front H C C' T R B B' : List UInt8} (hfront : front.length = 4)
    (hH : H.length = 4) (hC : C.length = 4) (hC' : C'.length = 4) (hT : T.length = 8)
    (hR : R.length = 8) (h : front ++ (H ++ (C ++ (T ++ (R ++ B)))) =
      H ++ (C' ++ (T ++ (R ++ B')))) : C' = front ∧ R = C ++ C := by
  have hhalves {X : List UInt8} (hX : X.length = 8) :
      ∃ Y Z, X = Y ++ Z ∧ Y.length = 4 ∧ Z.length = 4 :=
    ⟨X.take 4, X.drop 4, (List.take_append_drop ..).symm, List.length_take_of_le (by omega),
      by rw [List.length_drop, hX]⟩
  obtain ⟨T₁, T₂, rfl, hT₁, hT₂⟩ := hhalves hT
  obtain ⟨R₁, R₂, rfl, hR₁, hR₂⟩ := hhalves hR
  obtain ⟨rfl, h₁⟩ := List.append_inj h (hfront.trans hH.symm)
  obtain ⟨rfl, h₂⟩ := List.append_inj h₁ (hH.trans hC'.symm)
  simp only [List.append_assoc] at h₂
  obtain ⟨rfl, h₃⟩ := List.append_inj h₂ (hC.trans hT₁.symm)
  obtain ⟨rfl, h₄⟩ := List.append_inj h₃ (hC.trans hT₂.symm)
  obtain ⟨rfl, h₅⟩ := List.append_inj h₄ (hC.trans hR₁.symm)
  obtain ⟨rfl, -⟩ := List.append_inj h₅ (hC.trans hR₂.symm)
  exact ⟨rfl, rfl⟩

/-- **No result set is the same one four bytes further on**: all its numbers would repeat, and
there are not so many bytes. -/
theorem resultSet_not_again {handle numColumns numColumns' : SInt 32}
    {totalRows rowsReceived : SInt 64} {body' : List UInt8} {size : ℕ}
    (h : tail = toLE 4 handle.val ++ (toLE 4 numColumns.val ++ (toLE 8 totalRows.val ++
      (toLE 8 rowsReceived.val ++ body))))
    (h' : 0 :: 0 :: 0 :: 1 :: tail = toLE 4 handle.val ++ (toLE 4 numColumns'.val ++
      (toLE 8 totalRows.val ++ (toLE 8 rowsReceived.val ++ body'))))
    (hsize : size = asUsize numColumns.val) (hsize' : size = asUsize numColumns'.val) :
    numColumns'.val ≠ 0 ∧ 2 ^ 63 ≤ size * rowsReceived.val.toNat := by
  have hlen (w : ℕ) (x : ℤ) : (toLE w x).length = w := length_toLE w x
  obtain ⟨hcolumns', hrows⟩ := @eq_of_shift [0, 0, 0, 1] _ _ _ _ _ body body' rfl (hlen ..)
    (hlen ..) (hlen ..) (hlen ..) (hlen ..) (by rw [← h, ← h']; rfl)
  have hval' : numColumns'.val = 2 ^ 24 := by
    rw [← @ofLE_toLE 4 (by norm_num) numColumns', hcolumns']
    decide
  have hval : numColumns.val = numColumns'.val := by
    have hge := numColumns.ge
    have hlt := numColumns.lt
    rw [hsize, asUsize, asUsize, hval'] at hsize'
    omega
  have hreceived : rowsReceived.val = 2 ^ 24 + 2 ^ 56 := by
    rw [← @ofLE_toLE 8 (by norm_num) rowsReceived, hrows, hval, hcolumns']
    decide
  rw [hsize, hval, hval', hreceived]
  exact ⟨by decide, by decide⟩

/-- What whole parts have as their result does not take all bytes that are left, nor does an
empty one. -/
theorem WholeParts.isOpen_getD (h : WholeParts lib n {} bs after rest) (hlt : bs.length < 2 ^ 63) :
    (after.terminal.getD .empty).isOpen = false := by
  have hopen := h.isOpen hlt (by
    intro response hresponse
    cases hresponse)
  rcases hterminal : after.terminal with _ | response
  · rfl
  · exact hopen response hterminal

/-- A result set is not its own only part. -/
theorem resultSet_not_whole (hlt : 5 + tail.length < 2 ^ 63)
    (hlegacy : legacy lib (1 :: 0 :: 0 :: 0 :: t :: tail) =
      .ok ⟨after.warnings, after.terminal.getD .empty⟩) :
    ¬WholeParts lib 1 {} (t :: tail) after [] := by
  intro hwhole
  obtain ⟨response, o', hread, henvelope⟩ := legacy_resultSet hlegacy
  obtain ⟨handle, numColumns, totalRows, rowsReceived, columns, batch, body, hbytes, hresponse,
    -, hcolumns, hcells⟩ := resultSet_of_run hread
  subst hresponse
  cases hwhole with
  | @cons n parts brought after c kind bs mid rest hkind hbrings hone hrest =>
    cases hrest
    cases hbrings with
    | @resultSet bytes again hreads =>
      rw [List.length_append] at hlt
      obtain rfl := eq_byte hkind
      obtain rfl : again = _ := (NativeResponseEnvelope.mk.inj henvelope).2
      have hrun := hreads 0 [] (by omega)
      obtain ⟨handle', numColumns', totalRows', rowsReceived', columns', batch', body',
        hbytes', hresponse', -, hcolumns', -⟩ := resultSet_of_run hrun
      cases hresponse'
      obtain ⟨hne, hmany⟩ := resultSet_not_again hbytes' hbytes hcolumns' hcolumns
      have hsize := congrArg List.length hbytes
      have hle := hcells hne
      simp only [List.length_cons, List.length_append, length_toLE] at hsize
      omega
    | _ => cases henvelope

/-- A number of columns is shorter than three parts. -/
theorem columnCount_not_whole
    (hlegacy : legacy lib (3 :: 0 :: 0 :: 0 :: t :: tail) = .ok envelope) :
    ¬WholeParts lib 3 {} (t :: tail) after [] := by
  intro hwhole
  obtain ⟨hsize, -⟩ := legacy_columnCount hlegacy
  have hlen := hwhole.length_of_first
  simp only [List.length_cons] at hsize hlen
  omega

/-- A warning is shorter than four parts of which one is the warning. -/
theorem warning_not_whole (hlt : 5 + tail.length < 2 ^ 63)
    (hlegacy : legacy lib (4 :: 0 :: 0 :: 0 :: t :: tail) =
      .ok ⟨after.warnings, after.terminal.getD .empty⟩) :
    ¬WholeParts lib 4 {} (t :: tail) after [] := by
  intro hwhole
  obtain ⟨w, hmessage, henvelope⟩ := legacy_warning (by simp only [List.length_cons]; omega) hlegacy
  obtain ⟨hwarnings, -⟩ := NativeResponseEnvelope.mk.inj henvelope
  have hsize := hmessage.length.2
  have hlen := hwhole.length_of_first
  rw [hwarnings] at hlen
  simp only [List.length_cons, List.length_nil] at hsize hlen
  omega

/-- The message of a query that is still executing is longer than five parts, or shorter. -/
theorem stillExecuting_not_whole (hlt : 5 + tail.length < 2 ^ 63)
    (hlegacy : legacy lib (5 :: 0 :: 0 :: 0 :: t :: tail) =
      .ok ⟨after.warnings, after.terminal.getD .empty⟩) :
    ¬WholeParts lib 5 {} (t :: tail) after [] := by
  intro hwhole
  obtain ⟨bytes, hbytes, hsize, henvelope⟩ := legacy_stillExecuting
    (by simp only [List.length_cons]; omega) (List.cons_ne_nil _ _) hlegacy
  obtain ⟨hwarnings, hterminal⟩ := NativeResponseEnvelope.mk.inj henvelope
  have hsplit : [0, 0, 0, t] ++ tail = toLE 4 bytes.length ++ bytes := hbytes
  obtain ⟨hfront, htail⟩ := List.append_inj hsplit (length_toLE 4 _).symm
  subst htail
  have hmul := eq_mul_of_toLE hsize hfront.symm
  have hresponse : after.terminal = some .stillExecuting := by
    rcases hafter : after.terminal with _ | response
    · rw [hafter] at hterminal
      cases hterminal
    · rw [hafter] at hterminal
      exact congrArg some hterminal
  have hlen := hwhole.length_of_first
  have hle := hwhole.length_le_of_stillExecuting (by rw [List.length_cons]; omega) hwarnings
    hresponse
  simp only [List.length_cons, List.length_nil] at hlen hle
  omega

/-- The rest of a row transfer is longer than what six parts leave of it. -/
theorem moreRows_not_ends (hlegacy : legacy lib (6 :: 0 :: 0 :: 0 :: t :: tail) =
      .ok ⟨after.warnings, after.terminal.getD .empty⟩) :
    ¬EndsWith lib 6 {} (t :: tail) after := by
  intro hends
  have henvelope := legacy_moreRows hlegacy
  cases hends with
  | @moreRows n parts between bs body hwhole hone =>
    have hbody : body = 0 :: 0 :: 0 :: t :: tail :=
      NativeResponse.moreRows.inj (NativeResponseEnvelope.mk.inj henvelope).2
    have hlen := hwhole.length_of_first
    rw [hbody] at hlen
    simp only [List.length_cons] at hlen
    omega
  | handle hwhole hone hread =>
    obtain ⟨statement, parameters, resultColumns, hterminal⟩ := legacy_handle hread
    have hmore := hterminal.symm.trans (NativeResponseEnvelope.mk.inj henvelope).2
    cases hmore

/-- **A counted reading that takes all bytes is the unwrapped response in one case**: a
statement handle with another one in it, behind one part. -/
theorem handle_of_agrees (hlt : (c :: 0 :: 0 :: 0 :: t :: tail).length < 2 ^ 63)
    (hc : 1 ≤ c.toNat ∧ c.toNat ≤ 64)
    (hlegacy : legacy lib (c :: 0 :: 0 :: 0 :: t :: tail) =
      .ok ⟨after.warnings, after.terminal.getD .empty⟩)
    (hall : WholeParts lib c.toNat {} (t :: tail) after [] ∨
      EndsWith lib c.toNat {} (t :: tail) after) :
    c = 2 ∧ ∃ between body inner, WholeParts lib 1 {} (t :: tail) between (2 :: body) ∧
      between.terminal = none ∧ legacy lib (2 :: body) = .ok inner ∧
        after = between.add ⟨inner.warnings, some inner.terminal⟩ := by
  have hsize : 5 + tail.length < 2 ^ 63 := by
    simp only [List.length_cons] at hlt
    omega
  have hclosed (hwhole : WholeParts lib c.toNat {} (t :: tail) after []) :=
    hwhole.isOpen_getD (by rw [List.length_cons]; omega)
  -- The result says which of the two readings it can be.
  have hwhole (h : (after.terminal.getD .empty).isOpen = false) :=
    hall.resolve_right fun hends => Bool.noConfusion (hends.isOpen.symm.trans h)
  have hends (h : (after.terminal.getD .empty).isOpen = true) :=
    hall.resolve_left fun hwhole => Bool.noConfusion ((hclosed hwhole).symm.trans h)
  obtain ⟨kind, hkind⟩ := exists_kind_of_legacy hlegacy
  obtain rfl := eq_byte hkind
  cases kind with
  | rowCount => exact absurd hc.1 (by decide)
  | exception => exact absurd hc.2 (by decide)
  | empty => exact absurd hc.2 (by decide)
  | resultSet =>
    obtain ⟨response, o', hread, henvelope⟩ := legacy_resultSet hlegacy
    obtain ⟨handle, numColumns, totalRows, rowsReceived, columns, batch, body, -, rfl, -⟩ :=
      resultSet_of_run hread
    have hopen : (after.terminal.getD .empty).isOpen = false :=
      congrArg (fun e => e.terminal.isOpen) henvelope
    exact absurd (hwhole hopen) (resultSet_not_whole hsize hlegacy)
  | columnCount =>
    obtain ⟨-, henvelope⟩ := legacy_columnCount hlegacy
    have hopen : (after.terminal.getD .empty).isOpen = false :=
      congrArg (fun e => e.terminal.isOpen) henvelope
    exact absurd (hwhole hopen) (columnCount_not_whole hlegacy)
  | warning =>
    obtain ⟨w, -, henvelope⟩ := legacy_warning
      (by simp only [List.length_cons] at hlt ⊢; omega) hlegacy
    have hopen : (after.terminal.getD .empty).isOpen = false :=
      congrArg (fun e => e.terminal.isOpen) henvelope
    exact absurd (hwhole hopen) (warning_not_whole hsize hlegacy)
  | stillExecuting =>
    obtain ⟨bytes, -, -, henvelope⟩ := legacy_stillExecuting
      (by simp only [List.length_cons] at hlt ⊢; omega) (List.cons_ne_nil _ _) hlegacy
    have hopen : (after.terminal.getD .empty).isOpen = false :=
      congrArg (fun e => e.terminal.isOpen) henvelope
    exact absurd (hwhole hopen) (stillExecuting_not_whole hsize hlegacy)
  | moreRows =>
    have hopen : (after.terminal.getD .empty).isOpen = true :=
      congrArg (fun e => e.terminal.isOpen) (legacy_moreRows hlegacy)
    exact absurd (hends hopen) (moreRows_not_ends hlegacy)
  | handle =>
    obtain ⟨statement, parameters, resultColumns, hterminal⟩ := legacy_handle hlegacy
    have hopen : (after.terminal.getD .empty).isOpen = true :=
      congrArg NativeResponse.isOpen hterminal
    cases hends hopen with
    | moreRows hone_part hone => cases hterminal
    | handle hone_part hone hread => exact ⟨rfl, _, _, _, hone_part, hone, hread, rfl⟩

/-! ### Unwrapped responses told apart -/

/-- What tells an unwrapped response apart from a counted envelope. -/
inductive ToldApart (lib : Libraries) (data : List UInt8) : Prop where
  /-- It does not begin like a counted envelope. -/
  | plain (h : looksCounted data = false)
  /-- As many whole parts as it counts leave bytes over. -/
  | short {after : Parts} {rest : List UInt8} (hne : rest ≠ [])
    (h : WholeParts lib (resultCount data).toNat {} (data.drop 4) after rest)
  /-- It is a statement handle, and another one lies in it behind one part. By itself and
  with the warning of that part in front, this one is read as the same reply. -/
  | nested {between : Parts} {body : List UInt8} {inner : NativeResponseEnvelope}
    (hdata : data.take 4 = [2, 0, 0, 0])
    (h : WholeParts lib 1 {} (data.drop 4) between (2 :: body)) (hone : between.terminal = none)
    (hinner : legacy lib (2 :: body) = .ok inner)
    (hsame : legacy lib data = .ok ⟨between.warnings ++ inner.warnings, inner.terminal⟩)

/-- A number of one byte in four bytes. -/
theorem toLE_of_lt {x : ℕ} (h : x < 256) : toLE 4 x = [UInt8.ofNat x, 0, 0, 0] := by
  have hmod : ((x : ℤ) % 2 ^ (8 * 4)).toNat = x := by omega
  have hdiv : x / 256 = 0 := Nat.div_eq_of_lt h
  rw [toLE, hmod, natToLE, hdiv, Nat.mod_eq_of_lt h]
  rfl

/-- What looks like a counted envelope begins with a byte that counts and three that are
zero. -/
theorem eq_cons_of_looksCounted (h : looksCounted data = true) : ∃ c t tail,
    data = c :: 0 :: 0 :: 0 :: t :: tail ∧ resultCount data = c.toNat ∧
      1 ≤ c.toNat ∧ c.toNat ≤ 64 := by
  obtain ⟨count, hdata, hval, -, hlength⟩ := exists_count_of_looksCounted h
  unfold looksCounted at h
  simp only [Bool.and_eq_true, decide_eq_true_eq] at h
  obtain ⟨⟨⟨-, hpos⟩, hle⟩, -⟩ := h
  obtain ⟨k, hk⟩ : ∃ k : ℕ, resultCount data = k := ⟨_, (Int.toNat_of_nonneg (by omega)).symm⟩
  obtain ⟨t, tail, htail⟩ : ∃ t tail, data.drop 4 = t :: tail :=
    List.exists_cons_of_length_pos (by rw [List.length_drop]; omega)
  rw [hval, hk, toLE_of_lt (by omega), htail] at hdata
  have hbyte : (UInt8.ofNat k).toNat = k := UInt8.toNat_ofNat_of_lt (by norm_num; omega)
  exact ⟨UInt8.ofNat k, t, tail, hdata, by rw [hk, hbyte], by omega, by omega⟩

/-- An empty response is no unwrapped one. -/
theorem legacy_ne_ok_of_empty (hempty : data = [] ∨ data.length = 4 ∧ ofLE data = 0) :
    legacy lib data ≠ .ok envelope := by
  intro h
  rcases hempty with rfl | ⟨hlength, hzero⟩
  · obtain ⟨o', hrun⟩ := legacy_eq_ok.mp h
    cases hrun
  · obtain ⟨count, rfl⟩ : ∃ count : SInt 32, toLE 4 count.val = data :=
      exists_toLE_eq (by norm_num) hlength
    have hval : count.val = 0 := (@ofLE_toLE 4 (by norm_num) count).symm.trans hzero
    rw [hval] at h
    -- Three bytes are no number of rows.
    obtain ⟨o', hrun⟩ := legacy_cons_eq_ok.mp
      (show legacy lib (0 :: [0, 0, 0]) = .ok envelope from h)
    have hkind : ResponseType.ofCode (asI8 (0 : UInt8).toNat).val = some .rowCount :=
      ofCode_of_eq_byte rfl
    rw [parseLegacyResponseBody, hkind] at hrun
    cases hrun

/-- A payload that does not look like a counted envelope is read as an unwrapped response. -/
theorem parseResponse_of_plain (hlooks : looksCounted data = false)
    (h : legacy lib data = .ok envelope) : parseResponse lib data = .ok envelope := by
  have hnil : data ≠ [] := fun hnil => legacy_ne_ok_of_empty (.inl hnil) h
  have hfour : ¬(data.length = 4 ∧ ofLE data = 0) := fun hfour =>
    legacy_ne_ok_of_empty (.inr hfour) h
  rw [parseResponse, if_neg hnil, if_neg hfour, tryParseCountedEnvelope, hlooks]
  exact h

/-- **What looks like a counted envelope is one** where its parts take all bytes, and an
unwrapped response where they leave some. -/
theorem parseResponse_of_run (hlooks : looksCounted data = true) (hlt : data.length < 2 ^ 63)
    {o' : ℕ} (h : (parseParts lib data (resultCount data).toNat {}).run (Guard.holds lib) 4
      (data.drop 4) = .ok (after, o', rest)) :
    parseResponse lib data =
      if rest = [] then .ok ⟨after.warnings, after.terminal.getD .empty⟩ else legacy lib data := by
  rw [parseResponse_of_looksCounted hlooks, parse_of_looksCounted hlooks hlt, h]
  rcases rest with _ | ⟨b, rest⟩
  · rfl
  · rw [if_neg (List.cons_ne_nil b rest)]
    rfl

/-- What looks like a counted envelope is a response only if its parts are read. -/
theorem exists_run_of_parseResponse (hlooks : looksCounted data = true)
    (hlt : data.length < 2 ^ 63) (h : parseResponse lib data = .ok envelope) :
    ∃ after o' rest, (parseParts lib data (resultCount data).toNat {}).run (Guard.holds lib) 4
      (data.drop 4) = .ok (after, o', rest) := by
  rw [parseResponse_of_looksCounted hlooks, parse_of_looksCounted hlooks hlt] at h
  obtain ⟨found, hfound, -⟩ := bind_eq_ok.mp h
  obtain ⟨⟨after, o', rest⟩, hrun, -⟩ := bind_eq_ok.mp hfound
  exact ⟨after, o', rest, hrun⟩

/-- **An unwrapped response is read as such exactly if it is told apart** from a counted
envelope. -/
theorem parseResponse_eq_legacy_iff (hlt : data.length < 2 ^ 63)
    (h : legacy lib data = .ok envelope) :
    parseResponse lib data = .ok envelope ↔ ToldApart lib data := by
  rcases hlooks : looksCounted data with _ | _
  · exact ⟨fun _ => .plain hlooks, fun _ => parseResponse_of_plain hlooks h⟩
  · obtain ⟨c, t, tail, hdata, hcount, hpos, hle⟩ := eq_cons_of_looksCounted hlooks
    have hdrop : data.drop 4 = t :: tail := by rw [hdata]; rfl
    have hsize : (resultCount data).toNat = c.toNat := by rw [hcount, Int.toNat_natCast]
    have hbytes : 4 + (data.drop 4).length < 2 ^ 63 := by
      rw [List.length_drop]
      have hlen := congrArg List.length hdata
      simp only [List.length_cons] at hlen
      omega
    constructor
    · intro hparsed
      obtain ⟨after, o', rest, hrun⟩ := exists_run_of_parseResponse hlooks hlt hparsed
      have hparts := (run_parseParts_eq_ok hbytes).mp ⟨o', hrun⟩
      rw [parseResponse_of_run hlooks hlt hrun] at hparsed
      rcases rest with _ | ⟨b, rest⟩
      · -- The counted reading takes all bytes and is the same response.
        obtain rfl := Except.ok.inj hparsed
        rw [hsize, hdrop] at hparts
        have hlegacy := h
        rw [hdata] at hlegacy hlt
        obtain ⟨rfl, between, body, inner, hwhole, hone, hinner, rfl⟩ :=
          handle_of_agrees hlt ⟨hpos, hle⟩ hlegacy (hparts.imp_right And.right)
        rw [← hdrop] at hwhole
        exact .nested (by rw [hdata]; rfl) hwhole hone hinner h
      · have hwhole := hparts.resolve_right fun hends => List.cons_ne_nil b rest hends.1
        exact .short (List.cons_ne_nil b rest) hwhole
    · intro htold
      cases htold with
      | plain hplain => exact absurd (hlooks.symm.trans hplain) Bool.noConfusion
      | short hne hwhole =>
        obtain ⟨o', hrun⟩ := (run_parseParts_eq_ok hbytes).mpr (.inl hwhole)
        rw [parseResponse_of_run hlooks hlt hrun, if_neg hne]
        exact h
      | @nested between body inner htake hwhole hone hinner hsame =>
        have htwo : (resultCount data).toNat = 2 := by
          rw [resultCount, htake]
          decide
        have hends := EndsWith.handle hwhole hone hinner
        rw [← one_add_one_eq_two] at htwo
        rw [← htwo] at hends
        obtain ⟨o', hrun⟩ := (run_parseParts_eq_ok hbytes).mpr (.inr ⟨rfl, hends⟩)
        rw [parseResponse_of_run hlooks hlt hrun, if_pos rfl, ← h]
        exact hsame.symm

/-- A result set without columns and rows, whose handle is zero. -/
def noColumns : List UInt8 :=
  [1, 0, 0, 0, 0, 0, 0, 0, 0, 0, 0, 0, 0, 0, 0, 0, 0, 0, 0, 0, 0, 0, 0, 0, 0]

set_option maxRecDepth 4000 in
theorem legacy_noColumns :
    legacy plainLibraries noColumns = .ok (.of (.resultSet 0 [] none 0 0)) := by
  rfl

/-- Its handle begins like a count of one part, which is a number of rows and leaves twelve
bytes. -/
theorem parseResponse_eq_legacy_iff_noColumns :
    parseResponse plainLibraries noColumns = .ok (.of (.resultSet 0 [] none 0 0)) := by
  have hrest : List.replicate 12 (0 : UInt8) ≠ [] := List.cons_ne_nil _ _
  have hcount : (resultCount noColumns).toNat = 1 := by decide
  have hpart : WholeParts plainLibraries (resultCount noColumns).toNat {} (noColumns.drop 4)
      ⟨[], some (.rowCount 0)⟩ (List.replicate 12 0) := by
    rw [hcount]
    exact .cons (ofCode_of_eq_byte rfl) (.rowCount 0 _) (.inr rfl) (.nil ..)
  exact (parseResponse_eq_legacy_iff (by decide) legacy_noColumns).mpr (.short hrest hpart)

set_option maxRecDepth 4000 in
/-- **A query that is still executing, with an empty message, is refused**: it is read as five
parts, which it is too short for. -/
theorem legacy_stillExecuting_refused :
    legacy plainLibraries [5, 0, 0, 0, 0] = .ok (.of .stillExecuting) ∧
      ∀ envelope, parseResponse plainLibraries [5, 0, 0, 0, 0] ≠ .ok envelope := by
  refine ⟨rfl, fun envelope h => ?_⟩
  obtain ⟨after, o', rest, hrun⟩ := exists_run_of_parseResponse (by decide) (by decide) h
  have hcount : (resultCount [5, 0, 0, 0, 0]).toNat = 5 := by decide
  rw [hcount] at hrun
  rcases (run_parseParts_eq_ok (by decide)).mp ⟨o', hrun⟩ with hwhole | ⟨-, hends⟩
  · have hlen : 5 * 5 + warningSize after.warnings + rest.length ≤ 1 + 4 := hwhole.length_of_first
    omega
  · have hlen : 5 * 4 < 1 + 4 := hends.length_of_first
    omega

end Exarrow.Native
